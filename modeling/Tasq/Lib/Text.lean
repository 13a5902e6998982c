import Mathlib.Data.List.DropRight
import Mathlib.Tactic

/-! Text as JavaScript and SQLite see it: lengths and orders count UTF-16 code units, and the two
    trims differ in what they take for white space. -/

namespace Text

/-- The UTF-16 code units of one character. -/
def charUnits (c : Char) : List ℕ :=
  if c.toNat < 0x10000 then [c.toNat]
  else [0xD800 + (c.toNat - 0x10000) / 0x400, 0xDC00 + (c.toNat - 0x10000) % 0x400]

/-- The UTF-16 code units of a text. -/
def utf16 (s : String) : List ℕ := s.toList.flatMap charUnits

/-- `s.length` of JavaScript. -/
def utf16Length (s : String) : ℕ := (utf16 s).length

/-- White space and line terminators of ECMAScript, which `String.prototype.trim` removes. -/
def isJsSpace (c : Char) : Bool :=
  c.toNat ∈ [0x09, 0x0A, 0x0B, 0x0C, 0x0D, 0x20, 0xA0, 0x1680, 0x2028, 0x2029, 0x202F, 0x205F,
    0x3000, 0xFEFF] || (0x2000 ≤ c.toNat && c.toNat ≤ 0x200A)

/-- `cs` without the characters at either end that satisfy `p`. -/
def strip {α : Type*} (p : α → Bool) (cs : List α) : List α :=
  (cs.dropWhile p).rdropWhile p

/-- `s.trim()` of JavaScript. -/
def jsTrim (s : String) : String := String.ofList (strip isJsSpace s.toList)

/-- `trim(s)` of SQLite, which removes the space character alone. -/
def sqlTrim (s : String) : String := String.ofList (strip (· == ' ') s.toList)

/-- The text has nothing but white space. -/
def Blank (s : String) : Prop := jsTrim s = ""

instance (s : String) : Decidable (Blank s) := inferInstanceAs (Decidable (_ = _))

/-! ### Trimming -/

/-- A list that does not start with a `p` still does not after its end is cut. -/
theorem dropWhile_rdropWhile {α : Type*} (p : α → Bool) (cs : List α) (h : cs.dropWhile p = cs) :
    (cs.rdropWhile p).dropWhile p = cs.rdropWhile p := by
  rw [List.dropWhile_eq_self_iff] at h ⊢
  intro hlen
  have hpre := List.rdropWhile_prefix p cs
  have hlen' : 0 < cs.length := hlen.trans_le hpre.length_le
  simpa [List.get_eq_getElem, hpre.getElem hlen] using h hlen'

/-- CORRECT: stripping twice strips once. -/
theorem strip_strip {α : Type*} (p : α → Bool) (cs : List α) :
    strip p (strip p cs) = strip p cs := by
  unfold strip
  rw [dropWhile_rdropWhile p _ (List.dropWhile_idempotent p cs), List.rdropWhile_idempotent]

@[simp] theorem jsTrim_jsTrim (s : String) : jsTrim (jsTrim s) = jsTrim s := by
  simp [jsTrim, strip_strip]

theorem strip_eq_nil {α : Type*} (p : α → Bool) (cs : List α) :
    strip p cs = [] ↔ ∀ c ∈ cs, p c := by
  rw [strip, List.rdropWhile_eq_nil_iff, ← List.dropWhile_eq_nil_iff, List.dropWhile_idempotent,
    List.dropWhile_eq_nil_iff]

/-- A text that is not blank for JavaScript is not blank for SQLite. -/
theorem sqlTrim_ne_empty {s : String} (h : ¬ Blank s) : sqlTrim s ≠ "" := by
  intro hsql
  refine h ?_
  simp only [Blank, jsTrim, sqlTrim, String.ofList_eq_empty_iff, strip_eq_nil] at hsql ⊢
  intro c hc
  have : c = ' ' := by simpa using hsql c hc
  subst this
  decide

/-! ### Lengths -/

/-- A character has at least one code unit. -/
theorem charUnits_ne_nil (c : Char) : charUnits c ≠ [] := by
  unfold charUnits
  split <;> simp

theorem utf16Length_pos {s : String} (h : s ≠ "") : 1 ≤ utf16Length s := by
  obtain ⟨c, cs, hcs⟩ : ∃ c cs, s.toList = c :: cs := by
    rw [← List.ne_nil_iff_exists_cons]
    simpa using h
  have hc := List.length_pos_of_ne_nil (charUnits_ne_nil c)
  simp only [utf16Length, utf16, hcs, List.flatMap_cons, List.length_append]
  omega

/-- Trimming does not make a text longer. -/
theorem utf16Length_jsTrim_le (s : String) : utf16Length (jsTrim s) ≤ utf16Length s := by
  have hsub : (jsTrim s).toList.Sublist s.toList := by
    rw [jsTrim, String.toList_ofList]
    exact (List.rdropWhile_prefix _ _).sublist.trans (List.dropWhile_sublist _)
  exact (hsub.flatMap charUnits).length_le

end Text
