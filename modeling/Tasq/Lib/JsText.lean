import Mathlib.Data.List.Sort
import Mathlib.Order.Fin.Basic
import Mathlib.Tactic
import Tasq.Lib.Parse

/-! Texts as JavaScript has them, and how `JSON.stringify` quotes them.

    A text is a list of code units, of which a surrogate may stand alone. The quoted text has no
    such surrogate: it is escaped like a control character. A quoted text reads back as the units it
    was written for, so no two texts have one quoted text. -/

/-- A text of JavaScript: UTF-16 code units, also ones that no character has. -/
abbrev JsText := List (Fin 0x10000)

namespace JsText

open Json

/-- The first unit of a pair. -/
def isLead (u : ℕ) : Bool := 0xD800 ≤ u && u ≤ 0xDBFF

/-- The second unit of a pair. -/
def isTrail (u : ℕ) : Bool := 0xDC00 ≤ u && u ≤ 0xDFFF

/-- A unit as its four hexadecimal digits. -/
def hexText (u : ℕ) : List Char :=
  [Char.ofNat 0x5C, 'u', hexDigit (u / 0x1000), hexDigit (u / 0x100 % 16), hexDigit (u / 16 % 16),
    hexDigit (u % 16)]

/-- A unit that no pair takes in. -/
def unitText (u : ℕ) : List Char :=
  match shortEscapes.lookup u with
  | some letter => [Char.ofNat 0x5C, Char.ofNat letter]
  | none => if u < 0x20 ∨ isLead u ∨ isTrail u then hexText u else [Char.ofNat u]

/-- The character of a pair. -/
def pairChar (u v : ℕ) : Char := Char.ofNat (0x10000 + (u - 0xD800) * 0x400 + (v - 0xDC00))

/-- The units between the quotes. -/
def body : List ℕ → List Char
  | [] => []
  | [u] => unitText u
  | u :: v :: us =>
    if isLead u ∧ isTrail v then pairChar u v :: body us else unitText u ++ body (v :: us)

/-- `JSON.stringify` of a text. -/
def quoted (s : JsText) : List Char :=
  Char.ofNat 0x22 :: (body (s.map Fin.val) ++ [Char.ofNat 0x22])

/-! ### Read back -/

theorem hexValue?_hexDigit : ∀ n < 16, hexValue? (hexDigit n) = some n := by
  decide

theorem hexUnit?_hexText {u : ℕ} (h : u < 0x10000) :
    hexUnit? (hexDigit (u / 0x1000)) (hexDigit (u / 0x100 % 16)) (hexDigit (u / 16 % 16))
      (hexDigit (u % 16)) = some u := by
  rw [hexUnit?, hexValue?_hexDigit _ (by omega), hexValue?_hexDigit _ (by omega),
    hexValue?_hexDigit _ (by omega), hexValue?_hexDigit _ (by omega)]
  simp only [Option.bind_eq_bind, Option.bind_some, Option.pure_def, Option.some_inj]
  omega

/-- A character that needs no escape reads as its units. -/
theorem units?_char {c : Char} (hquote : c.toNat ≠ 0x22) (hslash : c.toNat ≠ 0x5C)
    (hcontrol : ¬ c.toNat < 0x20) (cs : List Char) :
    units? (c :: cs) = (units? cs).map (Prod.map (Text.charUnits c ++ ·) id) := by
  rw [units?.eq_def]
  dsimp only
  rw [if_neg hquote, if_neg hcontrol, if_neg hslash]
  cases units? cs <;> rfl

/-- STEP: a unit reads back. -/
theorem units?_unitText {u : ℕ} (h : u < 0x10000) (cs : List Char) :
    units? (unitText u ++ cs) = (units? cs).map (Prod.map (u :: ·) id) := by
  unfold unitText
  split
  · rename_i letter hlookup
    have hmem : (u, letter) ∈ shortEscapes := by
      obtain ⟨before, after, hsplit, -⟩ := List.lookup_eq_some_iff.1 hlookup
      rw [hsplit]
      exact List.mem_append_right _ List.mem_cons_self
    obtain ⟨hletter, hcode, hu, -⟩ := letters_shortEscapes _ hmem
    rw [← hcode] at hletter
    exact units?_letter hu hletter cs
  · rename_i hnone
    split
    · exact units?_hex (hexUnit?_hexText h) cs
    · rename_i hplain
      have hvalid : u.isValidChar := by
        simp only [isLead, isTrail, Bool.and_eq_true, decide_eq_true_eq] at hplain
        simp only [Nat.isValidChar]
        omega
      have hcode : (Char.ofNat u).toNat = u := by
        rw [Char.ofNat, dif_pos hvalid]
        rfl
      have hunits : Text.charUnits (Char.ofNat u) = [u] := by
        rw [Text.charUnits, hcode, if_pos h]
      have hquote : u ≠ 0x22 := by
        rintro rfl
        exact absurd hnone (by decide)
      have hslash : u ≠ 0x5C := by
        rintro rfl
        exact absurd hnone (by decide)
      rw [List.singleton_append, units?_char (by rwa [hcode]) (by rwa [hcode])
        (by rw [hcode]; exact fun hlow => hplain (.inl hlow)), hunits]
      rfl

/-- STEP: a pair reads back. -/
theorem units?_pairChar {u v : ℕ} (hu : isLead u = true) (hv : isTrail v = true) (cs : List Char) :
    units? (pairChar u v :: cs) = (units? cs).map (Prod.map ([u, v] ++ ·) id) := by
  simp only [isLead, isTrail, Bool.and_eq_true, decide_eq_true_eq] at hu hv
  have hvalid : (0x10000 + (u - 0xD800) * 0x400 + (v - 0xDC00)).isValidChar := by
    simp only [Nat.isValidChar]
    omega
  have hcode : (pairChar u v).toNat = 0x10000 + (u - 0xD800) * 0x400 + (v - 0xDC00) := by
    rw [pairChar, Char.ofNat, dif_pos hvalid]
    rfl
  have hlead : 0xD800 + (0x10000 + (u - 0xD800) * 0x400 + (v - 0xDC00) - 0x10000) / 0x400 = u := by
    omega
  have htrail : 0xDC00 + (0x10000 + (u - 0xD800) * 0x400 + (v - 0xDC00) - 0x10000) % 0x400 = v := by
    omega
  have hunits : Text.charUnits (pairChar u v) = [u, v] := by
    rw [Text.charUnits, hcode, if_neg (by omega), hlead, htrail]
  rw [units?_char (by omega) (by omega) (by omega), hunits]

/-- RUN: the units between the quotes read back. -/
theorem units?_body (us : List ℕ) (h : ∀ u ∈ us, u < 0x10000) (rest : List Char) :
    units? (body us ++ Char.ofNat 0x22 :: rest) = some (us, rest) := by
  induction us using body.induct with
  | case1 =>
    rw [body, List.nil_append, units?.eq_def]
    exact if_pos (by decide)
  | case2 u =>
    rw [body, units?_unitText (h u (by simp)), units?.eq_def]
    dsimp only
    rw [if_pos (by decide)]
    rfl
  | case3 u v us hpair ih =>
    rw [body, if_pos hpair, List.cons_append, units?_pairChar hpair.1 hpair.2,
      ih fun w hw => h w (by simp [hw])]
    rfl
  | case4 u v us hpair ih =>
    rw [body, if_neg hpair, List.append_assoc, units?_unitText (h u (by simp)),
      ih fun w hw => h w (List.mem_cons_of_mem _ hw)]
    rfl

/-- CORRECT: a quoted text can be told from what follows it. -/
theorem quoted_append {s t : JsText} {xs ys : List Char} (h : quoted s ++ xs = quoted t ++ ys) :
    s = t ∧ xs = ys := by
  have hread (s : JsText) (xs : List Char) :
      units? (body (s.map Fin.val) ++ Char.ofNat 0x22 :: xs) = some (s.map Fin.val, xs) :=
    units?_body _ (by simp) xs
  have h : body (s.map Fin.val) ++ Char.ofNat 0x22 :: xs =
      body (t.map Fin.val) ++ Char.ofNat 0x22 :: ys := by
    simpa [quoted] using h
  have hboth := (hread s xs).symm.trans ((congrArg units? h).trans (hread t ys))
  simp only [Option.some_inj, Prod.mk.injEq] at hboth
  exact ⟨List.map_injective_iff.2 Fin.val_injective hboth.1, hboth.2⟩

end JsText
