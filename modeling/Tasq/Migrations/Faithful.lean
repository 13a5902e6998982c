import Mathlib.Tactic
import Tasq.Migrations.Split

/-! When `splitSql` cuts a script where its statements end.

    A piece that the scanner does not know is passed over when the scanner leaves it as it found it.
    When all are, only the two tests at a semicolon decide: a statement comes out whole exactly when
    no part of it looks whole before its end. -/

namespace Tasq.Migrations

open Text

/-! ### Pieces -/

/-- From a mode, the scanner keeps the whole text, cuts nothing, and ends in code. -/
def quiet : Mode → List Char → Bool
  | .code, [] => true
  | _, [] => false
  | .lineComment, _ :: _ => false
  | .singleQuote, c :: rest => quiet (if c = apostrophe then .code else .singleQuote) rest
  | .doubleQuote, c :: rest => quiet (if c = quotation then .code else .doubleQuote) rest
  | .code, c :: rest =>
    if c = '-' ∧ rest.head? = some '-' then false
    else if c = apostrophe then quiet .singleQuote rest
    else if c = quotation then quiet .doubleQuote rest
    else c ≠ ';' && quiet .code rest

/-- The scanner knows the piece, or passes over it. -/
def Piece.Passed : Piece → Prop
  | .quoted .backtick content => quiet .code (Piece.quoted .backtick content).text = true
  | .bracket content => quiet .code (Piece.bracket content).text = true
  | .blockComment body => quiet .code (Piece.blockComment body).text = true
  | _ => True

instance Piece.decidablePassed : (p : Piece) → Decidable p.Passed
  | .char _ => inferInstanceAs (Decidable True)
  | .quoted .single _ => inferInstanceAs (Decidable True)
  | .quoted .double _ => inferInstanceAs (Decidable True)
  | .quoted .backtick _ => inferInstanceAs (Decidable (_ = _))
  | .bracket _ => inferInstanceAs (Decidable (_ = _))
  | .lineComment _ => inferInstanceAs (Decidable True)
  | .blockComment _ => inferInstanceAs (Decidable (_ = _))

/-- SCAN: a quiet text goes to the buffer, unless it ends in half of a comment mark. -/
theorem splitFrom_quiet {mode : Mode} {t : List Char} (h : quiet mode t = true)
    (hend : t.getLast? ≠ some '-') (buffer tail : List Char) :
    splitFrom mode buffer (t ++ tail) = splitFrom .code (buffer ++ t) tail := by
  induction t generalizing mode buffer with
  | nil =>
    cases mode with
    | code => simp
    | lineComment => cases h
    | singleQuote => cases h
    | doubleQuote => cases h
  | cons c rest ih =>
    have hrest : rest ≠ [] → rest.getLast? ≠ some '-' := by
      intro hne
      rwa [List.getLast?_cons_of_ne_nil hne] at hend
    have hih : ∀ {mode : Mode}, quiet mode rest = true → ∀ buffer,
        splitFrom mode buffer (rest ++ tail) = splitFrom .code (buffer ++ rest) tail := by
      intro mode hq buffer
      rcases eq_or_ne rest [] with rfl | hne
      · cases mode with
        | code => simp
        | lineComment => cases hq
        | singleQuote => cases hq
        | doubleQuote => cases hq
      · exact ih hq (hrest hne) buffer
    have hassoc : buffer ++ c :: rest = buffer ++ [c] ++ rest := by simp
    rw [List.cons_append, hassoc]
    cases mode with
    | lineComment => cases h
    | singleQuote =>
      rw [quiet] at h
      rw [splitFrom]
      exact hih h _
    | doubleQuote =>
      rw [quiet] at h
      rw [splitFrom]
      exact hih h _
    | code =>
      rw [quiet] at h
      rw [splitFrom]
      have hdash : ¬ (c = '-' ∧ (rest ++ tail).head? = some '-') := by
        rintro ⟨rfl, hhead⟩
        rcases rest with _ | ⟨d, rest⟩
        · simp at hend
        · have hd : d = '-' := by simpa using hhead
          subst hd
          simp at h
      rw [if_neg hdash]
      split at h
      · cases h
      split at h
      · rw [if_pos ‹_›]
        exact hih h _
      · rw [if_neg ‹_›]
        split at h
        · rw [if_pos ‹_›]
          exact hih h _
        · rw [if_neg ‹_›]
          rw [Bool.and_eq_true, decide_eq_true_eq] at h
          rw [if_neg h.1]
          exact hih h.2 _

/-- The content of a quoted text is quiet, since its marks are doubled. -/
theorem quiet_content (content : List Char) :
    quiet .singleQuote ((content.flatMap fun c => if c = apostrophe then [c, c] else [c]) ++
        [apostrophe]) = true ∧
      quiet .doubleQuote ((content.flatMap fun c => if c = quotation then [c, c] else [c]) ++
        [quotation]) = true := by
  constructor
  · induction content with
    | nil => simp [quiet]
    | cons a content ih =>
      by_cases ha : a = apostrophe
      · subst ha
        simpa [quiet, show apostrophe ≠ '-' by decide] using ih
      · simpa [quiet, ha] using ih
  · induction content with
    | nil => simp [quiet]
    | cons a content ih =>
      by_cases ha : a = quotation
      · subst ha
        simpa [quiet, show quotation ≠ '-' by decide, show quotation ≠ apostrophe by decide]
          using ih
      · simpa [quiet, ha] using ih

/-- A line comment goes, up to the end of its line. -/
theorem splitFrom_lineComment {body : List Char} (hbody : newline ∉ body)
    (buffer tail : List Char) :
    splitFrom .lineComment buffer (body ++ newline :: tail) =
      splitFrom .code (buffer ++ [newline]) tail := by
  induction body with
  | nil => simp [splitFrom]
  | cons c body ih =>
    rw [List.mem_cons, not_or] at hbody
    rw [List.cons_append, splitFrom, if_neg (Ne.symm hbody.1)]
    exact ih hbody.2

theorem getLast?_closed (a b : Char) (cs : List Char) : (a :: (cs ++ [b])).getLast? = some b := by
  rw [← List.cons_append, List.getLast?_concat]

/-- What is neither a character of code nor a line comment is quiet, when the scanner passes it. -/
theorem piece_quiet {p : Piece} {next : Option Char} (hsound : p.Sound next) (hpass : p.Passed)
    (hchar : ∀ c, p ≠ .char c) (hline : ∀ body, p ≠ .lineComment body) :
    quiet .code p.text = true ∧ p.text.getLast? ≠ some '-' := by
  cases p with
  | char c => exact absurd rfl (hchar c)
  | lineComment body => exact absurd rfl (hline body)
  | bracket content =>
    refine ⟨hpass, ?_⟩
    rw [Piece.text, List.cons_append, getLast?_closed]
    decide
  | blockComment body =>
    refine ⟨hpass, ?_⟩
    have htext : (Piece.blockComment body).text = '/' :: (('*' :: body ++ ['*']) ++ ['/']) := by
      simp [Piece.text]
    rw [htext, getLast?_closed]
    decide
  | quoted mark content =>
    refine ⟨?_, ?_⟩
    · cases mark with
      | backtick => exact hpass
      | single =>
        rw [Piece.text, List.cons_append, QuoteMark.char, quiet, if_neg (by simp [apostrophe]),
          if_pos rfl]
        exact (quiet_content content).1
      | double =>
        rw [Piece.text, List.cons_append, QuoteMark.char, quiet, if_neg (by simp [quotation]),
          if_neg (by decide), if_pos rfl]
        exact (quiet_content content).2
    · rw [Piece.text, List.cons_append, getLast?_closed]
      cases mark <;> decide

/-- SCAN: a piece goes to the buffer, without a line comment. -/
theorem splitFrom_piece {p : Piece} {tail : List Char} (hsound : p.Sound tail.head?)
    (hpass : p.Passed) (buffer : List Char) :
    splitFrom .code buffer (p.text ++ tail) = splitFrom .code (buffer ++ p.visible) tail := by
  cases p with
  | char c =>
    obtain ⟨hplain, hdash, -⟩ := hsound
    simp only [List.mem_cons, List.not_mem_nil, or_false, not_or] at hplain
    change splitFrom .code buffer (c :: tail) = splitFrom .code (buffer ++ [c]) tail
    rw [splitFrom, if_neg hdash, if_neg hplain.2.1, if_neg hplain.2.2.1, if_neg hplain.1]
  | lineComment body =>
    rw [Piece.text, List.append_assoc, List.cons_append, splitFrom, if_pos ⟨rfl, rfl⟩,
      List.cons_append, splitFrom, if_neg (by decide)]
    exact splitFrom_lineComment hsound buffer tail
  | bracket content =>
    obtain ⟨hquiet, hend⟩ := piece_quiet hsound hpass (by simp) (by simp)
    exact splitFrom_quiet hquiet hend buffer tail
  | blockComment body =>
    obtain ⟨hquiet, hend⟩ := piece_quiet hsound hpass (by simp) (by simp)
    exact splitFrom_quiet hquiet hend buffer tail
  | quoted mark content =>
    obtain ⟨hquiet, hend⟩ := piece_quiet hsound hpass (by simp) (by simp)
    exact splitFrom_quiet hquiet hend buffer tail

/-- SCAN: a part goes to the buffer, without its line comments. -/
theorem splitFrom_part {ps : List Piece} {tail : List Char} (hsound : SoundPart tail.head? ps)
    (hpass : ∀ p ∈ ps, p.Passed) (buffer : List Char) :
    splitFrom .code buffer (partText ps ++ tail) =
      splitFrom .code (buffer ++ partVisible ps) tail := by
  induction ps generalizing buffer with
  | nil => simp [partText, partVisible]
  | cons p ps ih =>
    obtain ⟨hp, hps⟩ := hsound
    have hhead : (partText ps ++ tail).head? = ((partText ps).head? <|> tail.head?) := by
      cases partText ps <;> simp
    have hpiece := splitFrom_piece (hhead ▸ hp) (hpass p (by simp)) buffer
    simp only [partText, partVisible, List.flatMap_cons, List.append_assoc] at hpiece ih ⊢
    rw [hpiece, ih hps (fun q hq => hpass q (by simp [hq])), List.append_assoc]

/-! ### Parts -/

/-- No initial parts of a statement look like a whole one. -/
def Held (buffer : List Char) : List (List Piece) → Prop
  | [] => True
  | ps :: rest => complete buffer = false ∧ Held (buffer ++ ';' :: partVisible ps) rest

instance decidableHeld :
    (buffer : List Char) → (rest : List (List Piece)) → Decidable (Held buffer rest)
  | _, [] => inferInstanceAs (Decidable True)
  | buffer, ps :: rest =>
    have := decidableHeld (buffer ++ ';' :: partVisible ps) rest
    inferInstanceAs (Decidable (_ ∧ _))

/-- The texts of the further parts. -/
def restText (rest : List (List Piece)) : List Char := rest.flatMap fun ps => ';' :: partText ps

/-- The texts of the further parts without their line comments. -/
def restVisible (rest : List (List Piece)) : List Char :=
  rest.flatMap fun ps => ';' :: partVisible ps

/-- A semicolon in code is a test of the buffer. -/
theorem splitFrom_semicolon (buffer tail : List Char) :
    splitFrom .code buffer (';' :: tail) =
      if complete buffer then strip isJsSpace buffer :: splitFrom .code [] tail
      else splitFrom .code (buffer ++ [';']) tail := by
  rw [splitFrom, if_neg (by simp), if_neg (by decide), if_neg (by decide), if_pos rfl]

/-- RUN: parts that are held together go to the buffer. -/
theorem splitFrom_held (buffer tail : List Char) {first : List Piece} {rest : List (List Piece)}
    (hsound : Statement.SoundParts tail.head? first rest)
    (hpass : ∀ ps ∈ first :: rest, ∀ p ∈ ps, p.Passed)
    (hheld : Held (buffer ++ partVisible first) rest) :
    splitFrom .code buffer (partText first ++ restText rest ++ tail) =
      splitFrom .code (buffer ++ partVisible first ++ restVisible rest) tail := by
  induction rest generalizing first buffer with
  | nil =>
    simpa [restText, restVisible] using splitFrom_part hsound (hpass first (by simp)) buffer
  | cons ps rest ih =>
    obtain ⟨hfirst, hrest⟩ := hsound
    obtain ⟨hopen, hheld⟩ := hheld
    replace hfirst : SoundPart (';' :: (partText ps ++ restText rest ++ tail)).head? first := hfirst
    have hsplit : partText first ++ restText (ps :: rest) ++ tail =
        partText first ++ ';' :: (partText ps ++ restText rest ++ tail) := by
      simp [restText]
    have hheld' : Held (buffer ++ partVisible first ++ [';'] ++ partVisible ps) rest := by
      simpa using hheld
    have hnext := ih _ hrest (fun qs hqs => hpass qs (by simp [hqs])) hheld'
    rw [hsplit, splitFrom_part hfirst (hpass first (by simp)), splitFrom_semicolon, hopen,
      if_neg Bool.false_ne_true, hnext]
    simp [restVisible]

/-- RUN: parts that are not held together are cut before the last semicolon among them. -/
theorem splitFrom_not_held (buffer tail : List Char) {first : List Piece}
    {rest : List (List Piece)} (hsound : Statement.SoundParts tail.head? first rest)
    (hpass : ∀ ps ∈ first :: rest, ∀ p ∈ ps, p.Passed)
    (hheld : ¬ Held (buffer ++ partVisible first) rest) :
    ∃ cut others, splitFrom .code buffer (partText first ++ restText rest ++ tail) =
        strip isJsSpace cut :: others ∧
      cut.count ';' < (buffer ++ partVisible first ++ restVisible rest).count ';' := by
  induction rest generalizing first buffer with
  | nil => exact absurd trivial hheld
  | cons ps rest ih =>
    obtain ⟨hfirst, hrest⟩ := hsound
    replace hfirst : SoundPart (';' :: (partText ps ++ restText rest ++ tail)).head? first := hfirst
    have hsplit : partText first ++ restText (ps :: rest) ++ tail =
        partText first ++ ';' :: (partText ps ++ restText rest ++ tail) := by
      simp [restText]
    rw [hsplit, splitFrom_part hfirst (hpass first (by simp)), splitFrom_semicolon]
    cases hopen : complete (buffer ++ partVisible first) with
    | true =>
      refine ⟨_, _, rfl, ?_⟩
      simp only [restVisible, List.flatMap_cons, List.count_append, List.count_cons_self]
      omega
    | false =>
      have hnot : ¬ Held (buffer ++ partVisible first ++ [';'] ++ partVisible ps) rest := by
        intro h
        exact hheld ⟨hopen, by simpa using h⟩
      obtain ⟨cut, others, hcut, hcount⟩ :=
        ih _ hrest (fun qs hqs => hpass qs (by simp [hqs])) hnot
      refine ⟨cut, others, ?_, ?_⟩
      · rw [if_neg Bool.false_ne_true, hcut]
      · simpa [restVisible, List.count_append, add_assoc] using hcount

/-! ### Semicolons -/

/-- White space has no semicolon. -/
theorem count_strip (cs : List Char) : (strip isJsSpace cs).count ';' = cs.count ';' := by
  have hspace : ∀ {ds : List Char}, (∀ c ∈ ds, isJsSpace c = true) → ds.count ';' = 0 := by
    intro ds h
    rw [List.count_eq_zero]
    intro hmem
    exact absurd (h ';' hmem) (by decide)
  have hleft : (cs.dropWhile isJsSpace).count ';' = cs.count ';' := by
    conv_rhs => rw [← List.takeWhile_append_dropWhile (p := isJsSpace) (l := cs)]
    rw [List.count_append, hspace fun c hc => List.mem_takeWhile_imp hc, zero_add]
  have hright : ∀ ds : List Char, (ds.rdropWhile isJsSpace).count ';' = ds.count ';' := by
    intro ds
    conv_rhs => rw [← List.rdropWhile_append_rtakeWhile (p := isJsSpace) (l := ds)]
    rw [List.count_append, hspace fun c hc => List.mem_rtakeWhile_imp hc, add_zero]
  rw [strip, hright, hleft]

/-- The first statement that comes has the semicolons of the buffer. -/
theorem count_le_of_splitFrom {mode : Mode} {buffer text : List Char} :
    (∀ o os, splitFrom mode buffer text = o :: os → buffer.count ';' ≤ o.count ';') ∧
      (splitFrom mode buffer text = [] → buffer.count ';' = 0) := by
  induction text generalizing mode buffer with
  | nil =>
    rw [splitFrom]
    split
    · rename_i hblank
      refine ⟨by simp, fun _ => ?_⟩
      rw [← count_strip, hblank, List.count_nil]
    · refine ⟨fun o os h => ?_, by simp⟩
      rw [List.cons.injEq] at h
      rw [← h.1, count_strip]
  | cons c rest ih =>
    have hgrow : ∀ {mode : Mode},
        (∀ o os, splitFrom mode (buffer ++ [c]) rest = o :: os → buffer.count ';' ≤ o.count ';') ∧
          (splitFrom mode (buffer ++ [c]) rest = [] → buffer.count ';' = 0) := by
      intro mode
      obtain ⟨hle, hzero⟩ := @ih mode (buffer ++ [c])
      rw [List.count_append] at hle hzero
      exact ⟨fun o os h => le_trans (Nat.le_add_right _ _) (hle o os h), fun h => by
        have := hzero h
        omega⟩
    cases mode with
    | lineComment =>
      rw [splitFrom]
      split
      · exact hgrow
      · exact ih
    | singleQuote =>
      rw [splitFrom]
      exact hgrow
    | doubleQuote =>
      rw [splitFrom]
      exact hgrow
    | code =>
      rw [splitFrom]
      split_ifs
      · exact ih
      · exact hgrow
      · exact hgrow
      · refine ⟨fun o os h => ?_, by simp⟩
        rw [List.cons.injEq] at h
        rw [← h.1, count_strip]
      · exact hgrow
      · exact hgrow

/-! ### Scripts -/

namespace Statement

variable (st : Statement)

/-- The parts of the statement stay together. -/
def HeldTogether : Prop := Held (partVisible st.first) st.rest

/-- The parts stay together, and are whole at the semicolon that ends the statement. -/
def Recognised : Prop := st.HeldTogether ∧ complete st.visible = true

/-- The scanner knows every piece, or passes over it. -/
def Passed : Prop := ∀ ps ∈ st.first :: st.rest, ∀ p ∈ ps, p.Passed

instance : Decidable st.HeldTogether := inferInstanceAs (Decidable (Held _ _))

instance : Decidable st.Recognised := inferInstanceAs (Decidable (_ ∧ _))

instance : Decidable st.Passed := inferInstanceAs (Decidable (∀ ps ∈ _, ∀ p ∈ ps, _))

variable {st}

/-- STATEMENT: a statement that is recognised comes first. -/
theorem splitFrom_recognised (hsound : st.Sound (some ';')) (hpass : st.Passed)
    (h : st.Recognised) (tail : List Char) :
    splitFrom .code [] (st.text ++ ';' :: tail) =
      strip isJsSpace st.visible :: splitFrom .code [] tail := by
  have hscan : splitFrom .code [] (st.text ++ ';' :: tail) =
      splitFrom .code st.visible (';' :: tail) :=
    splitFrom_held [] (';' :: tail) hsound hpass h.1
  rw [hscan, splitFrom_semicolon, if_pos h.2]

/-- STATEMENT: of a statement that is not recognised, another text comes first. -/
theorem splitFrom_not_recognised (hsound : st.Sound (some ';')) (hpass : st.Passed)
    (h : ¬ st.Recognised) (tail : List Char) (others : List (List Char)) :
    splitFrom .code [] (st.text ++ ';' :: tail) ≠ strip isJsSpace st.visible :: others := by
  intro heq
  by_cases hheld : st.HeldTogether
  · have hopen : complete st.visible = false := by
      cases hcomplete : complete st.visible with
      | false => rfl
      | true => exact absurd ⟨hheld, hcomplete⟩ h
    have hscan : splitFrom .code [] (st.text ++ ';' :: tail) =
        splitFrom .code st.visible (';' :: tail) :=
      splitFrom_held [] (';' :: tail) hsound hpass hheld
    rw [hscan, splitFrom_semicolon, hopen, if_neg Bool.false_ne_true] at heq
    have hcount := count_le_of_splitFrom.1 _ _ heq
    rw [count_strip, List.count_append, List.count_singleton_self] at hcount
    omega
  · obtain ⟨cut, others', hcut, hcount⟩ :=
      splitFrom_not_held [] (';' :: tail) hsound hpass hheld
    have hfirst : strip isJsSpace cut = strip isJsSpace st.visible :=
      (List.cons.inj (hcut.symm.trans heq)).1
    have hsame := congrArg (List.count ';') hfirst
    rw [count_strip, count_strip] at hsame
    exact hcount.ne hsame

/-- STATEMENT: what ends with the script comes out whole exactly when it stays together. -/
theorem splitFrom_tail_iff {comment : List Char} (hsound : st.Sound comment.head?)
    (hpass : st.Passed)
    (hcomment : ∀ buffer, splitFrom .code buffer comment = splitFrom .code buffer []) :
    splitFrom .code [] (st.text ++ comment) = splitFrom .code st.visible [] ↔
      st.HeldTogether := by
  by_cases hheld : st.HeldTogether
  · have hscan : splitFrom .code [] (st.text ++ comment) = splitFrom .code st.visible comment :=
      splitFrom_held [] comment hsound hpass hheld
    rw [hscan, hcomment]
    exact iff_of_true rfl hheld
  · refine iff_of_false ?_ hheld
    obtain ⟨cut, others, hcut, hcount⟩ := splitFrom_not_held [] comment hsound hpass hheld
    intro heq
    replace heq := hcut.symm.trans heq
    rw [splitFrom] at heq
    split at heq
    · cases heq
    · have hsame := congrArg (List.count ';') (List.cons.inj heq).1
      rw [count_strip, count_strip] at hsame
      exact hcount.ne hsame

end Statement

namespace Script

variable (script : Script)

/-- The scanner knows every piece of the script, or passes over it. -/
def Passed : Prop := (∀ st ∈ script.statements, st.Passed) ∧ script.tail.Passed

/-- Every statement is whole at its end, and not before. -/
def Recognised : Prop :=
  (∀ st ∈ script.statements, st.Recognised) ∧ script.tail.HeldTogether

instance : Decidable script.Passed := inferInstanceAs (Decidable (_ ∧ _))

instance : Decidable script.Recognised := inferInstanceAs (Decidable (_ ∧ _))

variable {script}

/-- The line comment that ends a script goes. -/
theorem splitFrom_commentText (hsound : ∀ body ∈ script.comment, newline ∉ body)
    (buffer : List Char) :
    splitFrom .code buffer script.commentText = splitFrom .code buffer [] := by
  unfold commentText
  cases hcomment : script.comment with
  | none => rfl
  | some body =>
    have hbody := hsound body hcomment
    have hline : ∀ cs : List Char, newline ∉ cs →
        splitFrom .lineComment buffer cs = splitFrom .code buffer [] := by
      intro cs hcs
      induction cs with
      | nil => rfl
      | cons c cs ih =>
        rw [List.mem_cons, not_or] at hcs
        conv_lhs => rw [splitFrom, if_neg (Ne.symm hcs.1)]
        exact ih hcs.2
    change splitFrom .code buffer ('-' :: '-' :: body) = _
    conv_lhs => rw [splitFrom, if_pos ⟨rfl, rfl⟩, splitFrom, if_neg (by decide)]
    exact hline body hbody

end Script

/-- EXACT: of a script whose pieces the scanner knows or passes over, `splitSql` gives the
    statements in order, without their line comments and the white space around them, exactly when every
    statement is whole for the scanner at its end and not before. -/
theorem split_faithful_iff (script : Script) (hsound : script.Sound) (hpass : script.Passed) :
    splitSql (String.ofList script.text) = script.expected.map String.ofList ↔
      script.Recognised := by
  obtain ⟨statements, tail, comment⟩ := script
  rw [splitSql, String.toList_ofList, List.map_inj_right fun a b h => String.ofList_injective h]
  induction statements with
  | nil =>
    obtain ⟨-, htail, hcomment⟩ := hsound
    have hlast := tail.splitFrom_tail_iff htail hpass.2 (Script.splitFrom_commentText hcomment)
    simp only [Script.text, Script.expected, Script.Recognised, List.flatMap_nil, List.nil_append,
      List.map_nil, List.not_mem_nil, false_implies, implies_true, true_and]
    rw [← hlast]
    conv_rhs => rw [splitFrom]
  | cons st statements ih =>
    obtain ⟨hstatements, htail, hcomment⟩ := hsound
    obtain ⟨hpasses, hpassTail⟩ := hpass
    have hrest := ih ⟨fun st' h => hstatements st' (by simp [h]), htail, hcomment⟩
      ⟨fun st' h => hpasses st' (by simp [h]), hpassTail⟩
    have htext : (Script.mk (st :: statements) tail comment).text =
        st.text ++ ';' :: (Script.mk statements tail comment).text := by
      simp [Script.text, Script.commentText]
    have hexpected : (Script.mk (st :: statements) tail comment).expected =
        strip isJsSpace st.visible :: (Script.mk statements tail comment).expected := rfl
    have hst := hstatements st (by simp)
    have hpst := hpasses st (by simp)
    have hrecognised : (Script.mk (st :: statements) tail comment).Recognised ↔
        st.Recognised ∧ (Script.mk statements tail comment).Recognised := by
      simp only [Script.Recognised, List.mem_cons, forall_eq_or_imp, and_assoc]
    rw [htext, hexpected, hrecognised]
    by_cases h : st.Recognised
    · rw [st.splitFrom_recognised hst hpst h, List.cons.injEq, hrest]
      simp [h]
    · exact iff_of_false (st.splitFrom_not_recognised hst hpst h _ _) fun hand => h hand.1

/-! ### Triggers -/

/-- Characters of code. -/
def chars (s : String) : List Piece := s.toList.map Piece.char

/-- A trigger of two statements, with a line comment that has a semicolon. -/
def plainTrigger : Statement where
  first := .lineComment ['a', ';'] :: chars "CREATE TRIGGER t AFTER INSERT ON a BEGIN SELECT 1"
  rest := [chars " SELECT 2", chars " END"]

/-- A statement with a semicolon in a string and in a name, and a block comment without one. -/
def plainSelect : Statement where
  first := chars "SELECT " ++ [.quoted .single ['a', ';', apostrophe], .blockComment ['c'],
    .quoted .double [';']]
  rest := []

/-- Both statements, and a line comment that ends the script. -/
def plainScript : Script := ⟨[plainTrigger, plainSelect], ⟨chars " ", []⟩, some ['d', ';']⟩

theorem split_faithful_plain :
    splitSql (String.ofList plainScript.text) = plainScript.expected.map String.ofList ∧
      plainScript.expected.length = 2 :=
  ⟨(split_faithful_iff plainScript (by decide +kernel) (by decide +kernel)).2 (by decide +kernel),
    by decide +kernel⟩

/-- A trigger whose first statement ends in a CASE. -/
def caseScript : Script where
  statements := [⟨chars "CREATE TRIGGER t AFTER INSERT ON a BEGIN SELECT CASE WHEN 1 THEN 2 END",
    [chars " END"]⟩]
  tail := ⟨[], []⟩
  comment := none

/-- A block comment with a semicolon. -/
def commentScript : Script where
  statements := [⟨chars "SELECT 1" ++ [.blockComment [';']], []⟩]
  tail := ⟨[], []⟩
  comment := none

/-- NOT SO: a trigger is cut after the END of a CASE, and a statement within a block comment. -/
theorem split_cuts_inside :
    caseScript.Sound ∧ caseScript.Passed ∧ commentScript.Sound ∧
      splitSql (String.ofList caseScript.text) ≠ caseScript.expected.map String.ofList ∧
      splitSql (String.ofList commentScript.text) ≠ commentScript.expected.map String.ofList := by
  refine ⟨by decide +kernel, by decide +kernel, by decide +kernel, ?_, ?_⟩
  · rw [splitSql, String.toList_ofList, Ne,
      List.map_inj_right fun a b h => String.ofList_injective h]
    decide +kernel
  · rw [splitSql, String.toList_ofList, Ne,
      List.map_inj_right fun a b h => String.ofList_injective h]
    decide +kernel

end Tasq.Migrations
