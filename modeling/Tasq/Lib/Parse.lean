import Mathlib.Algebra.Order.Floor.Ring
import Mathlib.Data.Int.Log
import Mathlib.Tactic
import Tasq.Lib.Serialize

/-! `JSON.parse`, and that it reads back the numbers and texts that the canonical writer wrote.

    A text is read by code units, so that an escaped surrogate pair is one character; a surrogate
    alone is no character here, and the value is refused. A number is rounded to the nearest double.
    A key that stands twice keeps its first place and its last value, and array indices come before
    the other keys. -/

namespace Json

/-! ### Numbers -/

/-- The nearest integer, of two the even one. -/
def roundEven (q : ℚ) : ℤ :=
  let low := ⌊q⌋
  let part := q - low
  if part < 1 / 2 then low
  else if 1 / 2 < part then low + 1
  else if low % 2 = 0 then low else low + 1

/-- The exponent of the last binary place of a double near `q`. -/
def lastPlace (q : ℚ) : ℤ := max (Int.log 2 |q| - 52) (-1074)

/-- The double nearest to a number, none where it is infinite. -/
def toDouble (q : ℚ) : Option ℚ :=
  let unit : ℚ := 2 ^ lastPlace q
  let near := roundEven (q / unit) * unit
  if |near| < 2 ^ 1024 then some near else none

/-- The digits in front, at least one of them. -/
def digits? (cs : List Char) : Option (List Char × List Char) :=
  let digits := cs.takeWhile Char.isDigit
  if digits = [] then none else some (digits, cs.dropWhile Char.isDigit)

/-- The digits after a dot, if there is one. -/
def fraction? : List Char → Option (List Char × List Char)
  | '.' :: cs => digits? cs
  | cs => some ([], cs)

/-- The digits of an exponent behind its sign. -/
def signed? : List Char → Option (ℤ × List Char)
  | '+' :: cs => (digits? cs).map fun r => ((Nat.ofDigitChars 10 r.1 0 : ℤ), r.2)
  | '-' :: cs => (digits? cs).map fun r => (-(Nat.ofDigitChars 10 r.1 0 : ℤ), r.2)
  | cs => (digits? cs).map fun r => ((Nat.ofDigitChars 10 r.1 0 : ℤ), r.2)

/-- The exponent after a letter, if there is one. -/
def exponent? : List Char → Option (ℤ × List Char)
  | 'e' :: cs => signed? cs
  | 'E' :: cs => signed? cs
  | cs => some (0, cs)

/-- The digits before the dot, without a leading zero. -/
def whole? : List Char → Option (List Char × List Char)
  | '0' :: cs => some (['0'], cs)
  | cs => digits? cs

/-- A number without its sign, exactly. -/
def magnitude? (cs : List Char) : Option (ℚ × List Char) := do
  let (whole, cs) ← whole? cs
  let (fraction, cs) ← fraction? cs
  let (exponent, cs) ← exponent? cs
  return (Nat.ofDigitChars 10 (whole ++ fraction) 0 * (10 : ℚ) ^ (exponent - fraction.length), cs)

/-- A number as the double it reads as; the two zeros are one. -/
def number? : List Char → Option (ℚ × List Char)
  | '-' :: cs => do
    let (q, cs) ← magnitude? cs
    let q ← toDouble (-q)
    return (q, cs)
  | cs => do
    let (q, cs) ← magnitude? cs
    let q ← toDouble q
    return (q, cs)

/-! ### Texts -/

/-- The characters that code units write. -/
def ofUnits : List ℕ → Option (List Char)
  | [] => some []
  | [u] => if u < 0xD800 ∨ 0xDFFF < u then some [Char.ofNat u] else none
  | u :: v :: us =>
    if u < 0xD800 ∨ 0xDFFF < u then (Char.ofNat u :: ·) <$> ofUnits (v :: us)
    else if u < 0xDC00 ∧ 0xDC00 ≤ v ∧ v ≤ 0xDFFF then
      (Char.ofNat (0x10000 + (u - 0xD800) * 0x400 + (v - 0xDC00)) :: ·) <$> ofUnits us
    else none

/-- The value of a hexadecimal digit. -/
def hexValue? (c : Char) : Option ℕ :=
  let n := c.toNat
  if 0x30 ≤ n ∧ n ≤ 0x39 then some (n - 0x30)
  else if 0x61 ≤ n ∧ n ≤ 0x66 then some (n - 0x57)
  else if 0x41 ≤ n ∧ n ≤ 0x46 then some (n - 0x37)
  else none

/-- The code unit that four hexadecimal digits write. -/
def hexUnit? (a b c d : Char) : Option ℕ := do
  let a ← hexValue? a
  let b ← hexValue? b
  let c ← hexValue? c
  let d ← hexValue? d
  return ((a * 16 + b) * 16 + c) * 16 + d

/-- The letters that a backslash may precede, with what they stand for. -/
def letters : List (ℕ × ℕ) :=
  [(0x62, 0x08), (0x74, 0x09), (0x6E, 0x0A), (0x66, 0x0C), (0x72, 0x0D), (0x22, 0x22),
    (0x5C, 0x5C), (0x2F, 0x2F)]

/-- The code units up to the closing quote, and what follows it. -/
def units? : List Char → Option (List ℕ × List Char)
  | [] => none
  | c :: cs =>
    if c.toNat = 0x22 then some ([], cs)
    else if c.toNat < 0x20 then none
    else if c.toNat = 0x5C then
      match cs with
      | [] => none
      | 'u' :: a :: b :: c :: d :: cs => do
        let unit ← hexUnit? a b c d
        let (units, rest) ← units? cs
        return (unit :: units, rest)
      | letter :: cs => do
        let unit ← letters.lookup letter.toNat
        let (units, rest) ← units? cs
        return (unit :: units, rest)
    else do
      let (units, rest) ← units? cs
      return (Text.charUnits c ++ units, rest)

/-- A text behind its opening quote. -/
def string? (cs : List Char) : Option (String × List Char) := do
  let (units, rest) ← units? cs
  let chars ← ofUnits units
  return (String.ofList chars, rest)

/-! ### Objects -/

/-- `target[key] = value` -/
def assign {α : Type*} (fields : List (String × α)) (field : String × α) : List (String × α) :=
  if field.1 ∈ fields.map Prod.fst then
    fields.map fun f => if f.1 = field.1 then field else f
  else fields ++ [field]

/-- The fields in own-property order: array indices first, then the others as they were set. -/
def ownOrder {α : Type*} (fields : List (String × α)) : List (String × α) :=
  sortFields (fields.filter fun f => (arrayIndex? f.1).isSome) ++
    fields.filter fun f => (arrayIndex? f.1).isNone

/-- The object that the fields of a text make. -/
def ofFields (fields : List (String × Json)) : Json := obj (ownOrder (fields.foldl assign []))

/-! ### Values -/

/-- White space of JSON. -/
def isSpace (c : Char) : Bool := c.toNat ∈ [0x09, 0x0A, 0x0D, 0x20]

/-- What follows white space and the character with the code. -/
def eat (code : ℕ) (cs : List Char) : Option (List Char) :=
  match cs.dropWhile isSpace with
  | c :: cs => if c.toNat = code then some cs else none
  | [] => none

/-- What follows white space and the word. -/
def eatWord (word : String) (cs : List Char) : Option (List Char) :=
  let cs := cs.dropWhile isSpace
  if word.toList.isPrefixOf cs then some (cs.drop word.toList.length) else none

mutual

/-- A value and what follows it, with fuel for every character twice. -/
def value? : ℕ → List Char → Option (Json × List Char)
  | 0, _ => none
  | fuel + 1, cs =>
    match eat 0x7B cs with
    | some inner =>
      match eat 0x7D inner with
      | some rest => some (obj [], rest)
      | none => (fields? fuel inner).map (Prod.map ofFields id)
    | none =>
    match eat 0x5B cs with
    | some inner =>
      match eat 0x5D inner with
      | some rest => some (arr [], rest)
      | none => (items? fuel inner).map (Prod.map arr id)
    | none =>
    match eat 0x22 cs with
    | some inner => (string? inner).map (Prod.map str id)
    | none =>
    match eatWord "null" cs with
    | some rest => some (null, rest)
    | none =>
    match eatWord "true" cs with
    | some rest => some (bool true, rest)
    | none =>
    match eatWord "false" cs with
    | some rest => some (bool false, rest)
    | none => (number? (cs.dropWhile isSpace)).map (Prod.map num id)

/-- The items up to the closing bracket. -/
def items? : ℕ → List Char → Option (List Json × List Char)
  | 0, _ => none
  | fuel + 1, cs => do
    let (v, cs) ← value? fuel cs
    match eat 0x2C cs with
    | some cs => (items? fuel cs).map (Prod.map (v :: ·) id)
    | none => (eat 0x5D cs).map fun rest => ([v], rest)

/-- The fields up to the closing brace. -/
def fields? : ℕ → List Char → Option (List (String × Json) × List Char)
  | 0, _ => none
  | fuel + 1, cs => do
    let cs ← eat 0x22 cs
    let (key, cs) ← string? cs
    let cs ← eat 0x3A cs
    let (v, cs) ← value? fuel cs
    match eat 0x2C cs with
    | some cs => (fields? fuel cs).map (Prod.map ((key, v) :: ·) id)
    | none => (eat 0x7D cs).map fun rest => ([(key, v)], rest)

end

/-- `JSON.parse(text)` -/
def parse (text : List Char) : Option Json :=
  match value? (2 * text.length + 1) text with
  | some (v, rest) => if rest.dropWhile isSpace = [] then some v else none
  | none => none

/-! ### Numbers read back -/

theorem roundEven_intCast (n : ℤ) : roundEven n = n := by
  simp [roundEven]

/-- EXACT: a safe integer is a double. -/
theorem toDouble_intCast {n : ℤ} (h : n.natAbs ≤ maxSafeInteger) : toDouble n = some (n : ℚ) := by
  have habs : |(n : ℚ)| = (n.natAbs : ℚ) := by rw [← Int.cast_abs, Int.abs_eq_natAbs]; simp
  have hlt : n.natAbs < 2 ^ 53 := by rw [maxSafeInteger] at h; omega
  -- The last place of a number below `2 ^ 53` is at most one, so it divides every integer.
  have hlog : Int.log 2 |(n : ℚ)| - 52 ≤ 0 := by
    rw [habs, Int.log_natCast]
    have := Nat.log_lt_of_lt_pow' (b := 2) (by decide) hlt
    omega
  obtain ⟨k, hk⟩ : ∃ k : ℕ, lastPlace (n : ℚ) = -(k : ℤ) := by
    refine ⟨(-lastPlace (n : ℚ)).toNat, ?_⟩
    have : lastPlace (n : ℚ) ≤ 0 := max_le hlog (by decide)
    omega
  have hunit : (n : ℚ) / 2 ^ lastPlace (n : ℚ) = ((n * 2 ^ k : ℤ) : ℚ) := by
    rw [hk, zpow_neg, div_inv_eq_mul, zpow_natCast]
    push_cast
    rfl
  have hback : ((n * 2 ^ k : ℤ) : ℚ) * 2 ^ lastPlace (n : ℚ) = n := by
    rw [← hunit, div_mul_cancel₀ _ (zpow_ne_zero _ two_ne_zero)]
  have hsmall : |(n : ℚ)| < 2 ^ 1024 := by
    rw [habs]
    have hle : (n.natAbs : ℚ) < 2 ^ 53 := by exact_mod_cast hlt
    exact hle.trans (pow_lt_pow_right₀ one_lt_two (by decide))
  simp only [toDouble, hunit, roundEven_intCast, hback, if_pos hsmall]

/-- What follows a number does not continue it. -/
def Stops : List Char → Prop
  | [] => True
  | c :: _ => c.isDigit = false ∧ c ≠ '.' ∧ c ≠ 'e' ∧ c ≠ 'E'

theorem digits?_append {ds rest : List Char} (hds : ds ≠ []) (h : ∀ c ∈ ds, c.isDigit = true)
    (hrest : Stops rest) : digits? (ds ++ rest) = some (ds, rest) := by
  have hstop : rest.takeWhile Char.isDigit = [] ∧ rest.dropWhile Char.isDigit = rest := by
    cases rest with
    | nil => exact ⟨rfl, rfl⟩
    | cons c cs => simp [hrest.1]
  have htake : (ds ++ rest).takeWhile Char.isDigit = ds := by
    rw [List.takeWhile_append_of_pos h, hstop.1, List.append_nil]
  have hdrop : (ds ++ rest).dropWhile Char.isDigit = rest := by
    rw [List.dropWhile_append_of_pos h, hstop.2]
  rw [digits?, htake, hdrop, if_neg hds]

theorem fraction?_stops {rest : List Char} (h : Stops rest) : fraction? rest = some ([], rest) := by
  unfold fraction?
  split
  · exact absurd rfl h.2.1
  · rfl

theorem exponent?_stops {rest : List Char} (h : Stops rest) : exponent? rest = some (0, rest) := by
  unfold exponent?
  split
  · exact absurd rfl h.2.2.1
  · exact absurd rfl h.2.2.2
  · rfl

/-- The digits of a number have no leading zero. -/
theorem toDigits_head (n : ℕ) (h : 0 < n) : ∃ c cs, Nat.toDigits 10 n = c :: cs ∧ c ≠ '0' := by
  induction n using Nat.base_induction 10 (by decide) with
  | single m hm =>
    refine ⟨m.digitChar, [], Nat.toDigits_of_lt_base hm, ?_⟩
    rw [ne_eq, Nat.digitChar_eq_zero]
    omega
  | digit m k hk hm ih =>
    obtain ⟨c, cs, heq, hc⟩ := ih hm
    exact ⟨c, cs ++ Nat.toDigits 10 k,
      by rw [← Nat.toDigits_append_toDigits (by decide) hm hk, heq, List.cons_append], hc⟩

theorem whole?_toDigits (n : ℕ) {rest : List Char} (h : Stops rest) :
    whole? (Nat.toDigits 10 n ++ rest) = some (Nat.toDigits 10 n, rest) := by
  rcases Nat.eq_zero_or_pos n with rfl | hn
  · rfl
  · have hread := digits?_append Nat.toDigits_ne_nil
      (fun c hc => Nat.isDigit_of_mem_toDigits (n := n) (b := 10) (by decide) (by decide) hc) h
    obtain ⟨c, cs, heq, hc⟩ := toDigits_head n hn
    rw [heq, List.cons_append] at hread ⊢
    unfold whole?
    split
    · rename_i hzero
      exact absurd (List.cons.inj hzero).1 hc
    · exact hread

theorem magnitude?_toDigits (n : ℕ) {rest : List Char} (h : Stops rest) :
    magnitude? (Nat.toDigits 10 n ++ rest) = some ((n : ℚ), rest) := by
  simp [magnitude?, whole?_toDigits n h, fraction?_stops h, exponent?_stops h,
    Nat.ofDigitChars_ten_toDigits]

/-- CORRECT: a safe integer reads back as itself. -/
theorem number?_toString {z : ℤ} (hz : z.natAbs ≤ maxSafeInteger) {rest : List Char}
    (h : Stops rest) : number? ((toString z).toList ++ rest) = some ((z : ℚ), rest) := by
  have hround := toDouble_intCast hz
  have hread := magnitude?_toDigits z.natAbs h
  rcases Int.lt_or_le z 0 with hneg | hpos
  · have htext : (toString z).toList = '-' :: Nat.toDigits 10 z.natAbs := by
      have hneg' : (-z).toNat = z.natAbs := by omega
      rw [Int.toString_eq_repr, Int.repr_eq_if, if_neg (not_le.2 hneg), String.toList_append,
        Nat.toList_repr, hneg']
      rfl
    have habs : -|(z : ℚ)| = z := by rw [abs_of_neg (by exact_mod_cast hneg), neg_neg]
    rw [htext, List.cons_append]
    simp [number?, hread, habs, hround]
  · have htext : (toString z).toList = Nat.toDigits 10 z.natAbs := by
      have hpos' : z.toNat = z.natAbs := by omega
      rw [Int.toString_eq_repr, Int.repr_eq_if, if_pos hpos, Nat.toList_repr, hpos']
    have habs : (z.natAbs : ℚ) = z := by
      rw [← Int.cast_natCast, Int.natAbs_of_nonneg hpos]
    rw [htext]
    unfold number?
    split
    · -- A digit stands in front, not a sign.
      rename_i cs hsign
      obtain ⟨c, ds, hds⟩ :=
        List.exists_cons_of_ne_nil (Nat.toDigits_ne_nil (n := z.natAbs) (b := 10))
      have hdigit : c.isDigit = true := Nat.isDigit_of_mem_toDigits (n := z.natAbs) (b := 10)
        (by decide) (by decide) (by rw [hds]; exact List.mem_cons_self)
      rw [hds, List.cons_append] at hsign
      rw [(List.cons.inj hsign).1] at hdigit
      exact absurd hdigit (by decide)
    · simp [hread, habs, hround]

/-! ### Texts read back -/

/-- CORRECT: the code units of a character read back as the character. -/
theorem ofUnits_charUnits (c : Char) (us : List ℕ) :
    ofUnits (Text.charUnits c ++ us) = (c :: ·) <$> ofUnits us := by
  have hvalid : c.toNat < 0xD800 ∨ 0xDFFF < c.toNat ∧ c.toNat < 0x110000 := c.valid
  unfold Text.charUnits
  split
  · -- One unit, no surrogate.
    have hplain : c.toNat < 0xD800 ∨ 0xDFFF < c.toNat := by omega
    cases us with
    | nil => simp [ofUnits, if_pos hplain, Char.ofNat_toNat]
    | cons u us => simp [ofUnits, if_pos hplain, Char.ofNat_toNat]
  · rename_i hbig
    have hhigh : ¬ (0xD800 + (c.toNat - 0x10000) / 0x400 < 0xD800 ∨
        0xDFFF < 0xD800 + (c.toNat - 0x10000) / 0x400) := by omega
    have hpair : 0xD800 + (c.toNat - 0x10000) / 0x400 < 0xDC00 ∧
        0xDC00 ≤ 0xDC00 + (c.toNat - 0x10000) % 0x400 ∧
        0xDC00 + (c.toNat - 0x10000) % 0x400 ≤ 0xDFFF := by omega
    have hback : 0x10000 + (0xD800 + (c.toNat - 0x10000) / 0x400 - 0xD800) * 0x400 +
        (0xDC00 + (c.toNat - 0x10000) % 0x400 - 0xDC00) = c.toNat := by omega
    simp only [List.cons_append, List.nil_append, ofUnits, if_neg hhigh, if_pos hpair, hback,
      Char.ofNat_toNat]

theorem ofUnits_flatMap (cs : List Char) : ofUnits (cs.flatMap Text.charUnits) = some cs := by
  induction cs with
  | nil => rfl
  | cons c cs ih => rw [List.flatMap_cons, ofUnits_charUnits, ih]; rfl

/-- EXACT: two texts with the same code units are the same text. -/
theorem utf16_injective : Function.Injective Text.utf16 := by
  intro s t h
  have hback := congrArg ofUnits h
  rw [Text.utf16, Text.utf16, ofUnits_flatMap, ofUnits_flatMap, Option.some_inj] at hback
  exact String.toList_inj.1 hback

theorem units?_letter {letter : Char} {unit : ℕ} (hu : letter ≠ 'u')
    (h : letters.lookup letter.toNat = some unit) (cs : List Char) :
    units? (Char.ofNat 0x5C :: letter :: cs) = (units? cs).map (Prod.map (unit :: ·) id) := by
  rw [units?.eq_def]
  dsimp only
  rw [if_neg (by decide), if_neg (by decide), if_pos (by decide)]
  split
  · rename_i hnil
    exact absurd hnil (List.cons_ne_nil _ _)
  · rename_i hcons
    exact absurd (List.cons.inj hcons).1 hu
  · rename_i hcons
    obtain ⟨rfl, rfl⟩ := List.cons.inj hcons
    rw [h]
    cases units? cs <;> rfl

theorem units?_hex {a b c d : Char} {unit : ℕ} (h : hexUnit? a b c d = some unit)
    (cs : List Char) :
    units? (Char.ofNat 0x5C :: 'u' :: a :: b :: c :: d :: cs) =
      (units? cs).map (Prod.map (unit :: ·) id) := by
  rw [units?.eq_def]
  dsimp only
  rw [if_neg (by decide), if_neg (by decide), if_pos (by decide)]
  split
  · rename_i hnil
    exact absurd hnil (List.cons_ne_nil _ _)
  · rename_i hcons
    simp only [List.cons.injEq, true_and] at hcons
    obtain ⟨rfl, rfl, rfl, rfl, rfl⟩ := hcons
    rw [h]
    cases units? cs <;> rfl
  · rename_i hshort hcons
    exact absurd (List.cons.inj hcons).2.symm (hshort _ _ _ _ _ (List.cons.inj hcons).1.symm)

/-- Every letter of the writer is a letter of the reader. -/
theorem letters_shortEscapes : ∀ e ∈ shortEscapes, letters.lookup e.2 = some e.1 ∧
    (Char.ofNat e.2).toNat = e.2 ∧ Char.ofNat e.2 ≠ 'u' ∧ e.1 < 0x10000 := by
  decide

theorem hexUnit?_hexDigit : ∀ n < 0x20,
    hexUnit? '0' '0' (hexDigit (n / 16)) (hexDigit (n % 16)) = some n := by
  decide

/-- STEP: an escaped character reads back as its code units. -/
theorem units?_escape (c : Char) (cs : List Char) :
    units? (escape c ++ cs) = (units? cs).map (Prod.map (Text.charUnits c ++ ·) id) := by
  unfold escape
  split
  · rename_i letter hlookup
    have hmem : (c.toNat, letter) ∈ shortEscapes := by
      obtain ⟨before, after, hsplit, -⟩ := List.lookup_eq_some_iff.1 hlookup
      rw [hsplit]
      exact List.mem_append_right _ List.mem_cons_self
    obtain ⟨hletter, hcode, hu, hsmall⟩ := letters_shortEscapes _ hmem
    rw [← hcode] at hletter
    rw [Text.charUnits, if_pos hsmall]
    exact units?_letter hu hletter cs
  · rename_i hnone
    split
    · rename_i hcontrol
      rw [Text.charUnits, if_pos (by omega)]
      exact units?_hex (hexUnit?_hexDigit _ hcontrol) cs
    · rename_i hplain
      have hquote : c.toNat ≠ 0x22 := by
        intro h
        rw [h] at hnone
        exact absurd hnone (by decide)
      have hslash : c.toNat ≠ 0x5C := by
        intro h
        rw [h] at hnone
        exact absurd hnone (by decide)
      rw [List.cons_append, List.nil_append, units?.eq_def]
      dsimp only
      rw [if_neg hquote, if_neg hplain, if_neg hslash]
      cases units? cs <;> rfl

/-- RUN: a quoted text reads back as its code units. -/
theorem units?_flatMap (chars rest : List Char) :
    units? (chars.flatMap escape ++ Char.ofNat 0x22 :: rest) =
      some (chars.flatMap Text.charUnits, rest) := by
  induction chars with
  | nil =>
    rw [List.flatMap_nil, List.nil_append, units?.eq_def]
    exact if_pos (by decide)
  | cons c chars ih =>
    rw [List.flatMap_cons, List.append_assoc, units?_escape, ih]
    rfl

/-- CORRECT: a quoted text reads back. -/
theorem string?_quote (s : String) (rest : List Char) :
    string? (s.toList.flatMap escape ++ Char.ofNat 0x22 :: rest) = some (s, rest) := by
  simp [string?, units?_flatMap, ofUnits_flatMap]

end Json
