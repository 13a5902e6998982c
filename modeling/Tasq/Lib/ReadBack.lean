import Mathlib.Tactic
import Tasq.Lib.Parse

/-! `JSON.parse` of a canonical text is the canonical form of what was written, so values with one
    canonical text have one canonical form. -/

namespace Json

/-! ### Objects read back -/

/-- The digits of a number are the only ones without a leading zero that write it. -/
theorem toDigits_ofDigitChars {c : Char} {cs : List Char} (hc : c ≠ '0')
    (h : ∀ d ∈ c :: cs, d.isDigit = true) :
    Nat.toDigits 10 (Nat.ofDigitChars 10 (c :: cs) 0) = c :: cs := by
  have digit : ∀ d : Char, d.isDigit = true → ∃ n < 10, d = n.digitChar := by
    intro d hd
    obtain ⟨hlow, hhigh⟩ : 48 ≤ d.toNat ∧ d.toNat ≤ 57 := Char.isDigit_iff_toNat.1 hd
    have hall : ∀ n < 10, Char.ofNat (48 + n) = n.digitChar := by decide
    have hcode : 48 + (d.toNat - 48) = d.toNat := by omega
    refine ⟨d.toNat - 48, by omega, ?_⟩
    rw [← hall _ (by omega), hcode, Char.ofNat_toNat]
  induction cs using List.reverseRecOn with
  | nil =>
    obtain ⟨n, hn, rfl⟩ := digit c (h c List.mem_cons_self)
    rw [Nat.ofDigitChars_cons_digitChar_of_lt_ten hn, Nat.ofDigitChars_nil, Nat.mul_zero,
      Nat.zero_add, Nat.toDigits_of_lt_base hn]
  | append_singleton cs d ih =>
    obtain ⟨n, hn, rfl⟩ := digit d (h d (by simp))
    have hfront := ih fun d hd => h d (by
      rw [← List.cons_append]
      exact List.mem_append_left _ hd)
    have hpos : 0 < Nat.ofDigitChars 10 (c :: cs) 0 := by
      rcases Nat.eq_zero_or_pos (Nat.ofDigitChars 10 (c :: cs) 0) with hzero | hpos
      · rw [hzero, Nat.toDigits_zero] at hfront
        exact absurd (List.cons.inj hfront).1.symm hc
      · exact hpos
    rw [← List.cons_append, Nat.ofDigitChars_append,
      Nat.ofDigitChars_cons_digitChar_of_lt_ten hn, Nat.ofDigitChars_nil,
      ← Nat.toDigits_append_toDigits (by decide) hpos hn, hfront, Nat.toDigits_of_lt_base hn]

/-- An array index is written in one way. -/
theorem arrayIndex?_digits {key : String} {n : ℕ} (h : arrayIndex? key = some n) :
    key.toList = Nat.toDigits 10 n := by
  unfold arrayIndex? at h
  split at h
  · rename_i hzero
    rw [hzero, ← Option.some_inj.1 h]
    rfl
  · rename_i c cs _ hcons
    split at h
    · rename_i hdigits
      simp only at h
      split at h
      · rw [hcons, ← Option.some_inj.1 h, ← Nat.ofDigitChars_eq_foldl,
          toDigits_ofDigitChars hdigits.1 (List.all_eq_true.1 hdigits.2)]
      · cases h
    · cases h
  · cases h

/-- EXACT: two keys with the same place are the same key. -/
theorem keyRank_injective : Function.Injective keyRank := by
  intro k l h
  unfold keyRank at h
  split at h <;> split at h
  · rename_i m hm _ n hn
    have hmn : m = n := by simpa using congrArg (fun r => (ofLex (ofLex r).2).1) h
    exact String.toList_inj.1 ((arrayIndex?_digits hm).trans (hmn ▸ (arrayIndex?_digits hn).symm))
  · simpa using congrArg (fun r => (ofLex r).1) h
  · simpa using congrArg (fun r => (ofLex r).1) h
  · exact utf16_injective (by simpa using congrArg (fun r => (ofLex (ofLex r).2).2) h)

theorem foldl_assign {α : Type*} (before fields : List (String × α))
    (h : ((before ++ fields).map Prod.fst).Nodup) :
    fields.foldl assign before = before ++ fields := by
  induction fields generalizing before with
  | nil => rw [List.foldl_nil, List.append_nil]
  | cons field fields ih =>
    have hnew : field.1 ∉ before.map Prod.fst := by
      rw [List.map_append, List.nodup_append] at h
      exact fun hmem => h.2.2 _ hmem _ List.mem_cons_self rfl
    rw [List.append_cons] at h ⊢
    rw [List.foldl_cons, assign, if_neg hnew, ih _ h]

theorem fieldLE_of_index {α : Type*} {a b : String × α} (ha : (arrayIndex? a.1).isSome)
    (hb : (arrayIndex? b.1).isNone) : fieldLE a b := by
  obtain ⟨n, hn⟩ := Option.isSome_iff_exists.1 ha
  rw [fieldLE, keyRank, keyRank, hn, Option.isNone_iff_eq_none.1 hb]
  exact (Prod.Lex.toLex_lt_toLex.2 (.inl Nat.zero_lt_one)).le

theorem fieldLE_of_units {α : Type*} {a b : String × α} (ha : (arrayIndex? a.1).isNone)
    (hb : (arrayIndex? b.1).isNone) (h : Text.utf16 a.1 ≤ Text.utf16 b.1) : fieldLE a b := by
  rw [fieldLE, keyRank, keyRank, Option.isNone_iff_eq_none.1 ha, Option.isNone_iff_eq_none.1 hb]
  exact Prod.Lex.toLex_le_toLex.2 (.inr ⟨rfl, Prod.Lex.toLex_le_toLex.2 (.inr ⟨rfl, h⟩)⟩)

/-- EXACT: fields that stand in the order of their code units are read in canonical order. -/
theorem ownOrder_eq_sortFields {α : Type*} {fields sorted : List (String × α)}
    (hperm : sorted.Perm fields) (hnodup : (fields.map Prod.fst).Nodup)
    (hsorted : sorted.Pairwise fun a b => Text.utf16 a.1 ≤ Text.utf16 b.1) :
    ownOrder sorted = sortFields fields := by
  have hpairwise : (ownOrder sorted).Pairwise fieldLE := by
    rw [ownOrder, List.pairwise_append]
    refine ⟨List.pairwise_insertionSort _ _, ?_, ?_⟩
    · refine List.Pairwise.imp_of_mem ?_ (hsorted.filter _)
      intro a b ha hb h
      exact fieldLE_of_units (List.mem_filter.1 ha).2 (List.mem_filter.1 hb).2 h
    · intro a ha b hb
      rw [(sortFields_perm _).mem_iff] at ha
      exact fieldLE_of_index (List.mem_filter.1 ha).2 (List.mem_filter.1 hb).2
  have hall : (ownOrder sorted).Perm (sortFields fields) := by
    have hsplit := List.filter_append_perm (fun f : String × α => (arrayIndex? f.1).isSome) sorted
    simp only [Option.not_isSome] at hsplit
    exact (((sortFields_perm _).append_right _).trans hsplit).trans
      (hperm.trans (sortFields_perm fields).symm)
  refine hall.eq_of_pairwise ?_ hpairwise (List.pairwise_insertionSort _ _)
  intro a b ha hb hab hba
  have hkey : a.1 = b.1 := keyRank_injective (le_antisymm hab hba)
  have hmem : ∀ f ∈ ownOrder sorted, f ∈ fields := fun f hf =>
    (hall.trans (sortFields_perm fields)).mem_iff.1 hf
  exact List.inj_on_of_nodup_map hnodup (hmem a ha) ((sortFields_perm fields).mem_iff.1 hb) hkey

/-! ### Values read back -/

mutual

/-- No object has a key twice. -/
def distinct : Json → Bool
  | .arr items => distinctItems items
  | .obj fields => (fields.map Prod.fst).Nodup && distinctFields fields
  | .null => true
  | .bool _ => true
  | .num _ => true
  | .str _ => true

def distinctItems : List Json → Bool
  | [] => true
  | a :: as => distinct a && distinctItems as

def distinctFields : List (String × Json) → Bool
  | [] => true
  | (_, a) :: as => distinct a && distinctFields as

end

/-- With enough fuel the text reads as the value, whatever follows. -/
def Reads (text : List Char) (v : Json) : Prop :=
  ∀ fuel rest, 2 * text.length < fuel → Stops rest → value? fuel (text ++ rest) = some (v, rest)

theorem eat_cons {c : Char} (hc : isSpace c = false) (code : ℕ) (cs : List Char) :
    eat code (c :: cs) = if c.toNat = code then some cs else none := by
  rw [eat, List.dropWhile_cons, if_neg (by simp [hc])]

theorem eatWord_cons {c d : Char} {ds : List Char} {w : String} (hc : isSpace c = false)
    (hword : w.toList = d :: ds) (hne : d ≠ c) (cs : List Char) :
    eatWord w (c :: cs) = none := by
  simp [eatWord, hc, hword, List.isPrefixOf, hne]

theorem reads_null : Reads "null".toList null := by
  intro fuel rest hfuel _
  obtain ⟨fuel, rfl⟩ : ∃ n, fuel = n + 1 := ⟨fuel - 1, by omega⟩
  rfl

theorem reads_bool (b : Bool) : Reads (if b then "true" else "false").toList (bool b) := by
  intro fuel rest hfuel _
  obtain ⟨fuel, rfl⟩ : ∃ n, fuel = n + 1 := ⟨fuel - 1, by omega⟩
  cases b <;> rfl

theorem reads_str (s : String) : Reads (quote s) (str s) := by
  intro fuel rest hfuel _
  obtain ⟨fuel, rfl⟩ : ∃ n, fuel = n + 1 := ⟨fuel - 1, by omega⟩
  have hread : string? (s.toList.flatMap escape ++ [Char.ofNat 0x22] ++ rest) = some (s, rest) := by
    rw [List.append_assoc]
    exact string?_quote s rest
  rw [quote, List.cons_append, value?, eat_cons (by decide), eat_cons (by decide),
    eat_cons (by decide), if_neg (by decide), if_neg (by decide), if_pos (by decide)]
  simp only [hread]
  rfl

/-- A number starts with a sign or a digit, and so with nothing that starts another value. -/
theorem toString_head (z : ℤ) : ∃ c cs, (toString z).toList = c :: cs ∧ isSpace c = false ∧
    c.toNat ≠ 0x5D ∧ c.toNat ≠ 0x7B ∧ c.toNat ≠ 0x5B ∧ c.toNat ≠ 0x22 ∧ c ≠ 'n' ∧ c ≠ 't' ∧
      c ≠ 'f' := by
  have digit : ∀ n : ℕ, ∃ c cs, Nat.toDigits 10 n = c :: cs ∧ c.isDigit = true := fun n => by
    obtain ⟨c, cs, h⟩ := List.exists_cons_of_ne_nil (Nat.toDigits_ne_nil (n := n) (b := 10))
    exact ⟨c, cs, h, Nat.isDigit_of_mem_toDigits (n := n) (b := 10) (by decide) (by decide)
      (by rw [h]; exact List.mem_cons_self)⟩
  rw [Int.toString_eq_repr, Int.repr_eq_if]
  split
  · obtain ⟨c, cs, h, hc⟩ := digit z.toNat
    obtain ⟨hlow, hhigh⟩ : 48 ≤ c.toNat ∧ c.toNat ≤ 57 := Char.isDigit_iff_toNat.1 hc
    refine ⟨c, cs, by rw [Nat.toList_repr, h], ?_, by omega, by omega, by omega, by omega,
      ?_, ?_, ?_⟩
    · simp [isSpace]
      omega
    · rintro rfl
      exact absurd hhigh (by decide)
    · rintro rfl
      exact absurd hhigh (by decide)
    · rintro rfl
      exact absurd hhigh (by decide)
  · exact ⟨'-', _, by rw [String.toList_append]; rfl, by decide, by decide, by decide, by decide,
      by decide, by decide, by decide, by decide⟩

theorem reads_num {q : ℚ} (h : isSafeInteger q = true) : Reads (toString q.num).toList (num q) := by
  intro fuel rest hfuel hstops
  obtain ⟨fuel, rfl⟩ : ∃ n, fuel = n + 1 := ⟨fuel - 1, by omega⟩
  obtain ⟨hden, hsafe⟩ : q.den = 1 ∧ q.num.natAbs ≤ maxSafeInteger := by
    simpa [isSafeInteger] using h
  have hq : ((q.num : ℤ) : ℚ) = q := Rat.coe_int_num_of_den_eq_one hden
  have hread := number?_toString hsafe hstops
  obtain ⟨c, cs, htext, hspace, -, hbrace, hbracket, hquote, hn, ht, hf⟩ := toString_head q.num
  rw [htext, List.cons_append] at hread ⊢
  have hdrop : (c :: (cs ++ rest)).dropWhile isSpace = c :: (cs ++ rest) := by
    rw [List.dropWhile_cons, if_neg (by simp [hspace])]
  rw [value?, eat_cons hspace, eat_cons hspace, eat_cons hspace, if_neg hbrace, if_neg hbracket,
    if_neg hquote]
  simp only [eatWord_cons hspace (w := "null") rfl hn.symm,
    eatWord_cons hspace (w := "true") rfl ht.symm,
    eatWord_cons hspace (w := "false") rfl hf.symm, hdrop, hread, hq]
  rfl

/-- What closes or continues a list or an object does not continue a number. -/
theorem stops_of_code {c : Char} (cs : List Char)
    (h : c.toNat = 0x2C ∨ c.toNat = 0x5D ∨ c.toNat = 0x7D) : Stops (c :: cs) := by
  refine ⟨?_, ?_, ?_, ?_⟩
  · rw [← Bool.not_eq_true, Char.isDigit_iff_toNat]
    rintro ⟨hlow, hhigh⟩
    have hlow : 48 ≤ c.toNat := hlow
    have hhigh : c.toNat ≤ 57 := hhigh
    omega
  · rintro rfl
    exact absurd h (by decide)
  · rintro rfl
    exact absurd h (by decide)
  · rintro rfl
    exact absurd h (by decide)

/-- RUN: joined items read back, up to the closing bracket. -/
theorem items?_commaJoin (parts : List (List Char × Json)) (hne : parts ≠ [])
    (h : ∀ part ∈ parts, Reads part.1 part.2) (fuel : ℕ) (rest : List Char)
    (hfuel : 2 * (commaJoin (parts.map Prod.fst)).length + 2 ≤ fuel) :
    items? fuel (commaJoin (parts.map Prod.fst) ++ ']' :: rest) =
      some (parts.map Prod.snd, rest) := by
  induction parts generalizing fuel with
  | nil => exact absurd rfl hne
  | cons part parts ih =>
    obtain ⟨text, v⟩ := part
    have hread : Reads text v := h _ List.mem_cons_self
    obtain ⟨fuel, rfl⟩ : ∃ n, fuel = n + 1 := ⟨fuel - 1, by omega⟩
    cases parts with
    | nil =>
      simp only [List.map_cons, List.map_nil, commaJoin] at hfuel ⊢
      rw [items?, hread fuel _ (by omega) (stops_of_code _ (.inr (.inl rfl)))]
      rfl
    | cons next parts =>
      simp only [List.map_cons, commaJoin, List.length_append, List.length_cons] at hfuel ih ⊢
      rw [List.append_assoc, List.cons_append, items?,
        hread fuel _ (by omega) (stops_of_code _ (.inl rfl))]
      have hrest := ih (List.cons_ne_nil _ _) (fun part hp => h part (List.mem_cons_of_mem _ hp))
        fuel (by omega)
      simp only [Option.bind_eq_bind, Option.bind_some, eat_cons (c := ',') (by decide),
        if_pos (show (',' : Char).toNat = 0x2C by decide), hrest]
      rfl

/-- A field as the writer writes it. -/
def fieldText (field : String × List Char) : List Char := quote field.1 ++ ':' :: field.2

theorem fieldText_append (key : String) (text rest : List Char) :
    fieldText (key, text) ++ rest = Char.ofNat 0x22 ::
      (key.toList.flatMap escape ++ Char.ofNat 0x22 :: ':' :: (text ++ rest)) := by
  simp [fieldText, quote]

/-- STEP: a field reads back, and the fields behind a comma with it. -/
theorem fields?_comma {text : List Char} {v : Json} (h : Reads text v) {fuel : ℕ}
    (hfuel : 2 * text.length < fuel) (key : String) (rest : List Char) :
    fields? (fuel + 1) (fieldText (key, text) ++ ',' :: rest) =
      (fields? fuel rest).map (Prod.map ((key, v) :: ·) id) := by
  have hread := h fuel (',' :: rest) hfuel (stops_of_code rest (.inl rfl))
  rw [fieldText_append, fields?, eat_cons (by decide), if_pos (by decide)]
  simp only [Option.bind_eq_bind, Option.bind_some, string?_quote, eat_cons (c := ':') (by decide),
    if_pos (show (':' : Char).toNat = 0x3A by decide),
    hread, eat_cons (c := ',') (by decide), if_pos (show (',' : Char).toNat = 0x2C by decide)]

/-- STEP: the last field reads back. -/
theorem fields?_brace {text : List Char} {v : Json} (h : Reads text v) {fuel : ℕ}
    (hfuel : 2 * text.length < fuel) (key : String) (rest : List Char) :
    fields? (fuel + 1) (fieldText (key, text) ++ Char.ofNat 0x7D :: rest) =
      some ([(key, v)], rest) := by
  have hread := h fuel (Char.ofNat 0x7D :: rest) hfuel
    (stops_of_code rest (.inr (.inr (by decide))))
  rw [fieldText_append, fields?, eat_cons (by decide), if_pos (by decide)]
  simp only [Option.bind_eq_bind, Option.bind_some, string?_quote, eat_cons (c := ':') (by decide),
    if_pos (show (':' : Char).toNat = 0x3A by decide),
    hread]
  rfl

/-- RUN: joined fields read back, up to the closing brace. -/
theorem fields?_commaJoin (parts : List (String × (List Char × Json))) (hne : parts ≠ [])
    (h : ∀ part ∈ parts, Reads part.2.1 part.2.2) (fuel : ℕ) (rest : List Char)
    (hfuel : 2 * (commaJoin (parts.map fun p => fieldText (p.1, p.2.1))).length + 2 ≤ fuel) :
    fields? fuel
        (commaJoin (parts.map fun p => fieldText (p.1, p.2.1)) ++ Char.ofNat 0x7D :: rest) =
      some (parts.map fun p => (p.1, p.2.2), rest) := by
  induction parts generalizing fuel with
  | nil => exact absurd rfl hne
  | cons part parts ih =>
    obtain ⟨key, text, v⟩ := part
    have hread : Reads text v := h _ List.mem_cons_self
    have htext : text.length < (fieldText (key, text)).length := by
      simp only [fieldText, List.length_append, List.length_cons]
      omega
    obtain ⟨fuel, rfl⟩ : ∃ n, fuel = n + 1 := ⟨fuel - 1, by omega⟩
    cases parts with
    | nil =>
      simp only [List.map_cons, List.map_nil, commaJoin] at hfuel ⊢
      rw [fields?_brace hread (by omega)]
    | cons next parts =>
      simp only [List.map_cons, commaJoin, List.length_append, List.length_cons] at hfuel ih ⊢
      rw [List.append_assoc, List.cons_append, fields?_comma hread (by omega),
        ih (List.cons_ne_nil _ _) (fun part hp => h part (List.mem_cons_of_mem _ hp))
          fuel (by omega)]
      rfl

theorem commaJoin_head {part : List Char} {c : Char} {cs : List Char} (h : part = c :: cs)
    (parts : List (List Char)) : ∃ ds, commaJoin (part :: parts) = c :: ds := by
  cases parts with
  | nil => exact ⟨cs, h⟩
  | cons next parts => exact ⟨cs ++ ',' :: commaJoin (next :: parts), by rw [h]; rfl⟩

/-- No value starts with white space or with a closing bracket. -/
theorem serialize_head (v : Json) :
    ∃ c cs, serialize v = c :: cs ∧ isSpace c = false ∧ c.toNat ≠ 0x5D := by
  cases v with
  | null => exact ⟨'n', _, rfl, by decide, by decide⟩
  | bool b => cases b <;> exact ⟨_, _, rfl, by decide, by decide⟩
  | num q =>
    obtain ⟨c, cs, htext, hspace, hclose, -⟩ := toString_head q.num
    exact ⟨c, cs, htext, hspace, hclose⟩
  | str s => exact ⟨_, _, rfl, by decide, by decide⟩
  | arr items => exact ⟨_, _, rfl, by decide, by decide⟩
  | obj fields => exact ⟨_, _, rfl, by decide, by decide⟩

theorem canonicalItems_eq_map (items : List Json) : canonicalItems items = items.map canonical := by
  induction items with
  | nil => rfl
  | cons a items ih => rw [canonicalItems, ih, List.map_cons]

/-- Joined items in brackets read back as an array. -/
theorem reads_brackets {parts : List (List Char × Json)} (h : ∀ part ∈ parts, Reads part.1 part.2)
    (hhead : ∀ part ∈ parts, ∃ c cs, part.1 = c :: cs ∧ isSpace c = false ∧ c.toNat ≠ 0x5D) :
    Reads ('[' :: (commaJoin (parts.map Prod.fst) ++ [']'])) (.arr (parts.map Prod.snd)) := by
  intro fuel rest hfuel _
  obtain ⟨fuel, rfl⟩ : ∃ n, fuel = n + 1 := ⟨fuel - 1, by omega⟩
  rw [List.length_cons, List.length_append, List.length_singleton] at hfuel
  rw [List.cons_append, List.append_assoc, List.singleton_append, value?, eat_cons (by decide),
    eat_cons (by decide), if_neg (by decide), if_pos (by decide)]
  cases parts with
  | nil => rfl
  | cons part parts =>
    have hitems := items?_commaJoin (part :: parts) (List.cons_ne_nil _ _) h fuel rest (by omega)
    obtain ⟨c, cs, hc, hspace, hclose⟩ := hhead _ List.mem_cons_self
    obtain ⟨ds, hds⟩ := commaJoin_head hc (parts.map Prod.fst)
    have hopen : eat 0x5D (commaJoin ((part :: parts).map Prod.fst) ++ ']' :: rest) = none := by
      rw [List.map_cons, hds, List.cons_append, eat_cons hspace, if_neg hclose]
    simp only [hopen, hitems, Option.map_some, Prod.map_apply, id_eq]

theorem reads_arr {items : List Json} (h : ∀ a ∈ items, Reads (serialize a) (canonical a)) :
    Reads (serialize (.arr items)) (canonical (.arr items)) := by
  have hread := @reads_brackets (items.map fun a => (serialize a, canonical a))
    (by simpa using h) (by simpa using fun a _ => serialize_head a)
  simp only [List.map_map, Function.comp_def] at hread
  rw [serialize, serializeItems_eq, canonical, canonicalItems_eq_map]
  exact hread

theorem sortKeys_map (fields : List (String × Json)) :
    sortKeys (fields.map (Prod.map id serialize)) =
      (fields.insertionSort fun a b => Text.utf16 a.1 ≤ Text.utf16 b.1).map
        (Prod.map id serialize) :=
  (List.map_insertionSort (fun a b : String × Json => Text.utf16 a.1 ≤ Text.utf16 b.1)
    (fun a b : String × List Char => Text.utf16 a.1 ≤ Text.utf16 b.1) (Prod.map id serialize) fields
    fun _ _ _ _ => Iff.rfl).symm

/-- Joined fields in braces read back as an object, in its own order. -/
theorem reads_braces {parts : List (String × (List Char × Json))}
    (h : ∀ part ∈ parts, Reads part.2.1 part.2.2) :
    Reads (Char.ofNat 0x7B ::
        (commaJoin (parts.map fun p => fieldText (p.1, p.2.1)) ++ [Char.ofNat 0x7D]))
      (ofFields (parts.map fun p => (p.1, p.2.2))) := by
  intro fuel rest hfuel _
  obtain ⟨fuel, rfl⟩ : ∃ n, fuel = n + 1 := ⟨fuel - 1, by omega⟩
  rw [List.length_cons, List.length_append, List.length_singleton] at hfuel
  rw [List.cons_append, List.append_assoc, List.singleton_append, value?, eat_cons (by decide),
    if_pos (by decide)]
  cases parts with
  | nil => rfl
  | cons part parts =>
    have hfields := fields?_commaJoin (part :: parts) (List.cons_ne_nil _ _) h fuel rest (by omega)
    obtain ⟨ds, hds⟩ := @commaJoin_head (fieldText (part.1, part.2.1)) _ _ rfl
      (parts.map fun p => fieldText (p.1, p.2.1))
    have hopen : eat 0x7D (commaJoin ((part :: parts).map fun p => fieldText (p.1, p.2.1)) ++
        Char.ofNat 0x7D :: rest) = none := by
      rw [List.map_cons, hds, List.cons_append, eat_cons (by decide), if_neg (by decide)]
    simp only [hopen, hfields, Option.map_some, Prod.map_apply, id_eq]

theorem reads_obj {fields : List (String × Json)} (hnodup : (fields.map Prod.fst).Nodup)
    (h : ∀ f ∈ fields, Reads (serialize f.2) (canonical f.2)) :
    Reads (serialize (.obj fields)) (canonical (.obj fields)) := by
  set sorted := fields.insertionSort fun a b => Text.utf16 a.1 ≤ Text.utf16 b.1 with hsorted
  have hperm : sorted.Perm fields := List.perm_insertionSort _ _
  have hserialize : serialize (.obj fields) = Char.ofNat 0x7B ::
      (commaJoin (sorted.map fun f => fieldText (f.1, serialize f.2)) ++ [Char.ofNat 0x7D]) := by
    rw [serialize, serializeFields_eq, sortKeys_map, List.map_map]
    rfl
  -- What is read is in the order of the text; the object has it in its own order.
  have hown : ofFields (sorted.map fun f => (f.1, canonical f.2)) = canonical (.obj fields) := by
    have hkeys : ((sorted.map fun f => (f.1, canonical f.2)).map Prod.fst).Nodup := by
      rw [List.map_map]
      exact ((hperm.map _).nodup_iff).2 hnodup
    rw [ofFields, foldl_assign [] _ hkeys, List.nil_append, canonical, canonicalValues_eq_map]
    refine congrArg obj (ownOrder_eq_sortFields (hperm.map _) ?_ ?_)
    · rw [List.map_map]
      exact hnodup
    · rw [List.pairwise_map]
      exact List.pairwise_insertionSort _ _
  have hread := @reads_braces (sorted.map fun f => (f.1, serialize f.2, canonical f.2))
    (by
      intro part hpart
      obtain ⟨f, hf, rfl⟩ := List.mem_map.1 hpart
      exact h f (hperm.mem_iff.1 hf))
  simp only [List.map_map, Function.comp_def] at hread
  rw [hserialize, ← hown]
  exact hread

mutual

/-- CORRECT: a canonical text reads back as the canonical form. -/
theorem reads_serialize : ∀ {v : Json}, v.safe = true → v.distinct = true →
    Reads (serialize v) (canonical v)
  | .null, _, _ => reads_null
  | .bool b, _, _ => reads_bool b
  | .num _, hs, _ => reads_num hs
  | .str s, _, _ => reads_str s
  | .arr _, hs, hd => reads_arr (reads_items hs hd)
  | .obj _, hs, hd => by
    rw [distinct, Bool.and_eq_true, decide_eq_true_eq] at hd
    exact reads_obj hd.1 (reads_fields hs hd.2)

theorem reads_items : ∀ {items : List Json}, safeItems items = true → distinctItems items = true →
    ∀ a ∈ items, Reads (serialize a) (canonical a)
  | [], _, _, _, h => absurd h List.not_mem_nil
  | b :: items, hs, hd, a, h => by
    rw [safeItems, Bool.and_eq_true] at hs
    rw [distinctItems, Bool.and_eq_true] at hd
    rcases List.mem_cons.1 h with heq | h
    · rw [heq]
      exact reads_serialize hs.1 hd.1
    · exact reads_items hs.2 hd.2 a h

theorem reads_fields : ∀ {fields : List (String × Json)}, safeValues fields = true →
    distinctFields fields = true → ∀ f ∈ fields, Reads (serialize f.2) (canonical f.2)
  | [], _, _, _, h => absurd h List.not_mem_nil
  | (k, b) :: fields, hs, hd, f, h => by
    rw [safeValues, Bool.and_eq_true] at hs
    rw [distinctFields, Bool.and_eq_true] at hd
    rcases List.mem_cons.1 h with heq | h
    · rw [heq]
      exact reads_serialize hs.1 hd.1
    · exact reads_fields hs.2 hd.2 f h

end

/-- CORRECT: `JSON.parse` reads from a canonical text the canonical form of what was written. -/
theorem parse_serialize {v : Json} (hs : v.safe = true) (hd : v.distinct = true) :
    parse (serialize v) = some (canonical v) := by
  have hread := reads_serialize hs hd (2 * (serialize v).length + 1) [] (by omega) trivial
  rw [List.append_nil] at hread
  rw [parse, hread]
  rfl

/-! ### Texts and canonical forms -/

/-- The order of the fields does not show in the canonical text. -/
theorem sortKeys_perm {fields others : List (String × List Char)} (h : fields.Perm others)
    (hnodup : (fields.map Prod.fst).Nodup) : sortKeys fields = sortKeys others := by
  have hperm : (sortKeys fields).Perm (sortKeys others) :=
    ((List.perm_insertionSort _ _).trans h).trans (List.perm_insertionSort _ _).symm
  refine hperm.eq_of_pairwise ?_ (List.pairwise_insertionSort _ _) (List.pairwise_insertionSort _ _)
  intro a b ha hb hab hba
  have hkey : a.1 = b.1 := utf16_injective (le_antisymm hab hba)
  have ha : a ∈ fields := (List.perm_insertionSort _ _).mem_iff.1 ha
  have hb : b ∈ fields := h.mem_iff.2 ((List.perm_insertionSort _ _).mem_iff.1 hb)
  exact List.inj_on_of_nodup_map hnodup ha hb hkey

mutual

/-- CORRECT: a value and its canonical form have one canonical text. -/
theorem serialize_canonical : ∀ {v : Json}, v.distinct = true →
    serialize (canonical v) = serialize v
  | .null, _ => rfl
  | .bool _, _ => rfl
  | .num _, _ => rfl
  | .str _, _ => rfl
  | .arr items, hd => by rw [canonical, serialize, serialize, serializeItems_canonicalItems hd]
  | .obj fields, hd => by
    rw [distinct, Bool.and_eq_true, decide_eq_true_eq] at hd
    have hfields := serializeFields_canonicalValues hd.2
    rw [canonical, serialize, serialize, ← hfields]
    have hperm : (serializeFields (sortFields (canonicalValues fields))).Perm
        (serializeFields (canonicalValues fields)) := by
      rw [serializeFields_eq, serializeFields_eq]
      exact (sortFields_perm _).map _
    have hkeys : ((serializeFields (canonicalValues fields)).map Prod.fst).Nodup := by
      rw [serializeFields_eq, canonicalValues_eq_map, List.map_map, List.map_map]
      exact hd.1
    rw [sortKeys_perm hperm.symm hkeys]

theorem serializeItems_canonicalItems : ∀ {items : List Json}, distinctItems items = true →
    serializeItems (canonicalItems items) = serializeItems items
  | [], _ => rfl
  | a :: items, hd => by
    rw [distinctItems, Bool.and_eq_true] at hd
    rw [canonicalItems, serializeItems, serializeItems, serialize_canonical hd.1,
      serializeItems_canonicalItems hd.2]

theorem serializeFields_canonicalValues : ∀ {fields : List (String × Json)},
    distinctFields fields = true →
    serializeFields (canonicalValues fields) = serializeFields fields
  | [], _ => rfl
  | (k, a) :: fields, hd => by
    rw [distinctFields, Bool.and_eq_true] at hd
    rw [canonicalValues, serializeFields, serializeFields, serialize_canonical hd.1,
      serializeFields_canonicalValues hd.2]

end

/-- EXACT: two values have one canonical text exactly when they have one canonical form. -/
theorem serialize_eq_iff {v w : Json} (hv : v.safe = true) (hvd : v.distinct = true)
    (hw : w.safe = true) (hwd : w.distinct = true) :
    serialize v = serialize w ↔ canonical v = canonical w := by
  constructor
  · intro h
    have hread := parse_serialize hv hvd
    rw [h, parse_serialize hw hwd] at hread
    exact (Option.some_inj.1 hread).symm
  · intro h
    rw [← serialize_canonical hvd, h, serialize_canonical hwd]

end Json
