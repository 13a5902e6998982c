import Mathlib.Tactic
import Tasq.Lib.Text

/-! `splitSql`, which cuts a migration into its statements, and the scripts that it reads.

    The scanner knows line comments and the two kinds of quotes, and no other lexical form. A script
    is what the grammar of SQL sees: statements of one or, for a trigger, of several parts, whose
    pieces are characters of code, quoted texts and comments. -/

namespace Tasq.Migrations

open Text

/-- The apostrophe of a string. -/
def apostrophe : Char := Char.ofNat 0x27

/-- The quotation mark of a name. -/
def quotation : Char := Char.ofNat 0x22

/-- The end of a line. -/
def newline : Char := Char.ofNat 0x0A

/-! ### The code -/

/-- The flags of the scanner: in code, in a line comment, in single or in double quotes. -/
inductive Mode where
  | code | lineComment | singleQuote | doubleQuote
  deriving DecidableEq, Repr

/-- `\w` -/
def isWord (c : Char) : Bool := c.isAlphanum || c = '_'

/-- The rest of a text after a word, in any case. -/
def afterWord : List Char → List Char → Option (List Char)
  | [], cs => some cs
  | _ :: _, [] => none
  | w :: ws, c :: cs => if c.toUpper = w then afterWord ws cs else none

/-- The rest of a text after at least one space, `\s+`. -/
def afterSpace (cs : List Char) : Option (List Char) :=
  if cs.head?.any isJsSpace then some (cs.dropWhile isJsSpace) else none

/-- `\b`, after a word. -/
def atBoundary (cs : List Char) : Bool := cs.head?.all fun c => !isWord c

/-- `TRIGGER\b` -/
def opensTrigger (cs : List Char) : Bool := (afterWord "TRIGGER".toList cs).any atBoundary

/-- `^CREATE\s+(?:TEMP(?:ORARY)?\s+)?TRIGGER\b` -/
def isTrigger (candidate : List Char) : Bool :=
  ((afterWord "CREATE".toList candidate).bind afterSpace).any fun cs =>
    opensTrigger cs ||
      (((afterWord "TEMPORARY".toList cs).bind afterSpace).any opensTrigger ||
        ((afterWord "TEMP".toList cs).bind afterSpace).any opensTrigger)

/-- `\bEND\s*$` -/
def endsEnd (candidate : List Char) : Bool :=
  (afterWord "DNE".toList (candidate.reverse.dropWhile isJsSpace)).any atBoundary

/-- The buffer is a whole statement at a semicolon. -/
def complete (buffer : List Char) : Bool :=
  let candidate := strip isJsSpace buffer
  !(isTrigger candidate && !endsEnd candidate)

/-- The loop of `splitSql`. The second dash of a comment is skipped with the rest of its line. -/
def splitFrom : Mode → List Char → List Char → List (List Char)
  | _, buffer, [] => if strip isJsSpace buffer = [] then [] else [strip isJsSpace buffer]
  | .lineComment, buffer, c :: rest =>
    if c = newline then splitFrom .code (buffer ++ [c]) rest
    else splitFrom .lineComment buffer rest
  | .singleQuote, buffer, c :: rest =>
    splitFrom (if c = apostrophe then .code else .singleQuote) (buffer ++ [c]) rest
  | .doubleQuote, buffer, c :: rest =>
    splitFrom (if c = quotation then .code else .doubleQuote) (buffer ++ [c]) rest
  | .code, buffer, c :: rest =>
    if c = '-' ∧ rest.head? = some '-' then splitFrom .lineComment buffer rest
    else if c = apostrophe then splitFrom .singleQuote (buffer ++ [c]) rest
    else if c = quotation then splitFrom .doubleQuote (buffer ++ [c]) rest
    else if c = ';' then
      if complete buffer then strip isJsSpace buffer :: splitFrom .code [] rest
      else splitFrom .code (buffer ++ [c]) rest
    else splitFrom .code (buffer ++ [c]) rest

/-- `splitSql` -/
def splitSql (text : String) : List String := (splitFrom .code [] text.toList).map String.ofList

/-! ### Scripts -/

/-- The marks that quote a text in SQL, each doubled within. -/
inductive QuoteMark where
  | single | double | backtick
  deriving DecidableEq, Repr

/-- The character of a mark. -/
def QuoteMark.char : QuoteMark → Char
  | .single => apostrophe
  | .double => quotation
  | .backtick => Char.ofNat 0x60

/-- What a statement is written with. -/
inductive Piece where
  /-- A character of code. -/
  | char (c : Char)
  /-- A string, or a quoted name. -/
  | quoted (mark : QuoteMark) (content : List Char)
  /-- A name in brackets. -/
  | bracket (content : List Char)
  | lineComment (body : List Char)
  | blockComment (body : List Char)
  deriving DecidableEq, Repr

namespace Piece

/-- The text of a piece. -/
def text : Piece → List Char
  | char c => [c]
  | quoted mark content =>
    mark.char :: (content.flatMap fun c => if c = mark.char then [c, c] else [c]) ++ [mark.char]
  | bracket content => '[' :: content ++ [']']
  | lineComment body => '-' :: '-' :: body ++ [newline]
  | blockComment body => '/' :: '*' :: body ++ ['*', '/']

/-- The text of a piece without a line comment, of which the end of the line stays. -/
def visible : Piece → List Char
  | lineComment _ => [newline]
  | p => p.text

/-- The piece is read as such before the character that follows it. -/
def Sound (next : Option Char) : Piece → Prop
  | char c => c ∉ [';', apostrophe, quotation, QuoteMark.backtick.char, '['] ∧
      ¬ (c = '-' ∧ next = some '-') ∧ ¬ (c = '/' ∧ next = some '*')
  | quoted _ _ => True
  | bracket content => ']' ∉ content
  | lineComment body => newline ∉ body
  | blockComment body => ¬ ['*', '/'] <:+: body ++ ['*']

instance decidableSound (next : Option Char) : (p : Piece) → Decidable (p.Sound next)
  | char _ => inferInstanceAs (Decidable (_ ∧ _))
  | quoted _ _ => inferInstanceAs (Decidable True)
  | bracket _ => inferInstanceAs (Decidable (¬ _))
  | lineComment _ => inferInstanceAs (Decidable (¬ _))
  | blockComment _ => inferInstanceAs (Decidable (¬ _))

end Piece

/-- The text of a part of a statement. -/
def partText (ps : List Piece) : List Char := ps.flatMap Piece.text

/-- The text of a part without its line comments. -/
def partVisible (ps : List Piece) : List Char := ps.flatMap Piece.visible

/-- Every piece of the part is read as such before what follows it. -/
def SoundPart (after : Option Char) : List Piece → Prop
  | [] => True
  | p :: ps => p.Sound ((partText ps).head? <|> after) ∧ SoundPart after ps

instance decidableSoundPart (after : Option Char) :
    (ps : List Piece) → Decidable (SoundPart after ps)
  | [] => inferInstanceAs (Decidable True)
  | _ :: ps =>
    have := decidableSoundPart after ps
    inferInstanceAs (Decidable (_ ∧ _))

/-- A statement: one part, or the parts of a trigger, each but the first after a semicolon. -/
structure Statement where
  first : List Piece
  rest : List (List Piece)
  deriving DecidableEq, Repr

namespace Statement

variable (st : Statement)

/-- The text of a statement. -/
def text : List Char := partText st.first ++ st.rest.flatMap fun ps => ';' :: partText ps

/-- The text of a statement without its line comments. -/
def visible : List Char := partVisible st.first ++ st.rest.flatMap fun ps => ';' :: partVisible ps

/-- Every part is read as such. -/
def SoundParts (after : Option Char) (first : List Piece) : List (List Piece) → Prop
  | [] => SoundPart after first
  | ps :: rest => SoundPart (some ';') first ∧ SoundParts after ps rest

instance decidableSoundParts (after : Option Char) (first : List Piece) :
    (rest : List (List Piece)) → Decidable (SoundParts after first rest)
  | [] => inferInstanceAs (Decidable (SoundPart _ _))
  | ps :: rest =>
    have := decidableSoundParts after ps rest
    inferInstanceAs (Decidable (_ ∧ _))

/-- The statement is read as such. -/
def Sound (after : Option Char) : Prop := SoundParts after st.first st.rest

instance (after : Option Char) : Decidable (st.Sound after) :=
  inferInstanceAs (Decidable (SoundParts _ _ _))

end Statement

/-- A script: statements that end at a semicolon, then one that ends with the script, or white space
    and comments only, of which the last may be a line comment without an end. -/
structure Script where
  statements : List Statement
  tail : Statement
  comment : Option (List Char)
  deriving DecidableEq, Repr

namespace Script

variable (script : Script)

/-- The line comment that ends a script. -/
def commentText : List Char := (script.comment.map fun body => '-' :: '-' :: body).getD []

/-- The text of a script. -/
def text : List Char :=
  (script.statements.flatMap fun st => st.text ++ [';']) ++ script.tail.text ++ script.commentText

/-- The script is read as such. -/
def Sound : Prop :=
  (∀ st ∈ script.statements, st.Sound (some ';')) ∧
    script.tail.Sound script.commentText.head? ∧ ∀ body ∈ script.comment, newline ∉ body

instance : Decidable script.Sound := inferInstanceAs (Decidable (_ ∧ _))

/-- The statements in order, without their line comments and the white space around them. -/
def expected : List (List Char) :=
  (script.statements.map fun st => strip isJsSpace st.visible) ++
    if strip isJsSpace script.tail.visible = [] then [] else [strip isJsSpace script.tail.visible]

end Script

end Tasq.Migrations
