import Mathlib.Algebra.Order.Floor.Semiring
import Mathlib.Data.Int.Log
import Mathlib.Tactic
import Tasq.Lib.Parse

/-! The decimal text of a double, as `Number::toString` of the language writes it.

    A text has the fewest digits that read as the double, and of two such decimals the nearer one.
    The exact decimal of a double ends at the place of `10 ^ (-1074)`, so the search for the fewest
    digits ends there at last. What is written reads back, whatever follows it. -/

namespace Json

/-- The magnitude of a finite double. -/
structure Magnitude where
  value : ℚ
  nonneg : 0 ≤ value
  isDouble : toDouble value = some value

/-! ### The fewest digits -/

/-- The place of the last of `k` digits. -/
def place (x : ℚ) (k : ℕ) : ℤ := Int.log 10 x + 1 - k

/-- The decimal `s * 10 ^ j` reads as the double. -/
def ReadsAs (x : ℚ) (s : ℕ) (j : ℤ) : Prop := toDouble (s * 10 ^ j) = some x

instance (x : ℚ) (s : ℕ) (j : ℤ) : Decidable (ReadsAs x s j) := inferInstanceAs (Decidable (_ = _))

/-- The first `k` digits. -/
def firstDigits (x : ℚ) (k : ℕ) : ℕ := ⌊x / 10 ^ place x k⌋₊

/-- One of the two decimals of `k` digits around the double reads as it. -/
def Enough (x : ℚ) (k : ℕ) : Prop :=
  ReadsAs x (firstDigits x k) (place x k) ∨ ReadsAs x (firstDigits x k + 1) (place x k)

instance (x : ℚ) (k : ℕ) : Decidable (Enough x k) := inferInstanceAs (Decidable (_ ∨ _))

/-- The least number of digits that is enough, from `k` on. -/
def fewest (x : ℚ) : ℕ → ℕ → ℕ
  | 0, k => k
  | fuel + 1, k => if Enough x k then k else fewest x fuel (k + 1)

/-- Of the two decimals of `k` digits the one that reads as the double; of both the nearer one, and
    the even one in a tie. -/
def closest (x : ℚ) (k : ℕ) : ℕ :=
  let low := firstDigits x k
  let part := x / 10 ^ place x k - low
  if ReadsAs x (low + 1) (place x k) then
    if ReadsAs x low (place x k) then
      if part < 1 / 2 then low
      else if 1 / 2 < part then low + 1
      else if low % 2 = 0 then low else low + 1
    else low + 1
  else low

/-- The decimal that is written: digits, and the place of the last one. -/
def decimal (x : ℚ) : ℕ × ℤ :=
  let k := fewest x (Int.log 10 x + 1074).toNat 1
  let s := closest x k
  if s = 10 ^ k then (1, place x k + k) else (s, place x k)

/-- A double is an integer at its last place. -/
theorem exists_scaled {x : ℚ} (h : toDouble x = some x) :
    ∃ (z p : ℤ), -1074 ≤ p ∧ x = z * 2 ^ p := by
  refine ⟨roundEven (x / 2 ^ lastPlace x), lastPlace x, le_max_right _ _, ?_⟩
  simp only [toDouble] at h
  split at h
  · exact (Option.some.inj h).symm
  · cases h

/-- EXACT: at a place far enough to the right, the digits are the double itself. -/
theorem firstDigits_exact {x : ℚ} (hx : 0 ≤ x) (h : toDouble x = some x) {k : ℕ}
    (hplace : place x k ≤ -1074) : firstDigits x k * 10 ^ place x k = x := by
  obtain ⟨z, p, hp, hz⟩ := exists_scaled h
  obtain ⟨a, ha⟩ : ∃ a : ℕ, p - place x k = a := ⟨_, (Int.toNat_of_nonneg (by omega)).symm⟩
  obtain ⟨b, hb⟩ : ∃ b : ℕ, -place x k = b := ⟨_, (Int.toNat_of_nonneg (by omega)).symm⟩
  have hten : (10 : ℚ) ^ place x k ≠ 0 := zpow_ne_zero _ (by norm_num)
  have hsplit : x / 10 ^ place x k = ((z * 2 ^ a * 5 ^ b : ℤ) : ℚ) := by
    have hinv : (10 : ℚ) ^ place x k = (2 ^ place x k) * 5 ^ place x k := by
      rw [← mul_zpow]
      norm_num
    have hfive : (5 : ℚ) ^ place x k = (5 ^ b)⁻¹ := by
      rw [← zpow_natCast, ← hb, zpow_neg, inv_inv]
    have htwo : (2 : ℚ) ^ p = 2 ^ a * 2 ^ place x k := by
      rw [← zpow_natCast, ← ha, ← zpow_add₀ (by norm_num)]
      congr 1
      omega
    rw [hinv, hfive]
    nth_rewrite 1 [hz]
    rw [htwo, div_eq_iff (mul_ne_zero (zpow_ne_zero _ two_ne_zero) (by positivity))]
    push_cast
    have hcancel : (5 : ℚ) ^ b * (5 ^ b)⁻¹ = 1 := mul_inv_cancel₀ (by positivity)
    linear_combination (-(z : ℚ) * 2 ^ a * 2 ^ place x k) * hcancel
  have hnonneg : 0 ≤ z * 2 ^ a * 5 ^ b := by
    have : (0 : ℚ) ≤ ((z * 2 ^ a * 5 ^ b : ℤ) : ℚ) := hsplit ▸ div_nonneg hx (by positivity)
    exact_mod_cast this
  obtain ⟨n, hn⟩ := Int.eq_ofNat_of_zero_le hnonneg
  rw [firstDigits, hsplit, hn, Int.cast_natCast, Nat.floor_natCast]
  rw [hn, Int.cast_natCast] at hsplit
  exact ((div_eq_iff hten).1 hsplit).symm

/-- The search ends with enough digits. -/
theorem enough_fewest (x : ℚ) (fuel : ℕ) : ∀ k, Enough x (k + fuel) → Enough x (fewest x fuel k) := by
  induction fuel with
  | zero => exact fun _ h => h
  | succ fuel ih =>
    intro k h
    rw [fewest]
    split
    · assumption
    · exact ih (k + 1) (by rwa [Nat.add_right_comm, Nat.add_assoc])

/-- The decimal that is chosen of the two reads as the double. -/
theorem reads_closest {x : ℚ} {k : ℕ} (h : Enough x k) : ReadsAs x (closest x k) (place x k) := by
  unfold closest
  dsimp only
  split_ifs with hhigh hlow hbelow habove heven
  · exact hlow
  · exact hhigh
  · exact hlow
  · exact hhigh
  · exact hhigh
  · exact h.resolve_right hhigh

/-- CORRECT: the decimal that is written reads as the double. -/
theorem reads_decimal (m : Magnitude) :
    ReadsAs m.value (decimal m.value).1 (decimal m.value).2 := by
  obtain ⟨x, hx, h⟩ := m
  have hlast : Enough x (1 + (Int.log 10 x + 1074).toNat) := by
    refine .inl ?_
    rw [ReadsAs, firstDigits_exact hx h (by rw [place]; push_cast; omega)]
    exact h
  have hreads := reads_closest (enough_fewest x _ 1 hlast)
  simp only [decimal]
  split
  · rename_i hpower
    rw [hpower] at hreads
    rw [ReadsAs] at hreads ⊢
    rw [zpow_add₀ (by norm_num), mul_comm ((10 : ℚ) ^ place x _), ← mul_assoc, zpow_natCast]
    push_cast at hreads ⊢
    rwa [one_mul]
  · exact hreads

theorem toDouble_zero : toDouble 0 = some 0 := by
  have h := toDouble_intCast (n := 0) (by decide)
  exact_mod_cast h

/-- The digits of a number that is not zero are not zero. -/
theorem decimal_pos {m : Magnitude} (h : m.value ≠ 0) : 0 < (decimal m.value).1 := by
  refine Nat.pos_of_ne_zero fun hzero => h ?_
  have hreads := reads_decimal m
  rw [ReadsAs, hzero, Nat.cast_zero, zero_mul, toDouble_zero, Option.some_inj] at hreads
  exact hreads.symm

/-! ### The text -/

/-- The text of `s * 10 ^ j`: in full up to 21 digits before the point or 6 zeros behind it, else
    with an exponent. -/
def decimalText (s : ℕ) (j : ℤ) : List Char :=
  let digits := Nat.toDigits 10 s
  let n : ℤ := digits.length + j
  if 0 ≤ j ∧ n ≤ 21 then digits ++ List.replicate j.toNat '0'
  else if 0 < n ∧ n ≤ 21 then digits.take n.toNat ++ '.' :: digits.drop n.toNat
  else if -6 < n ∧ n ≤ 0 then '0' :: '.' :: (List.replicate (-n).toNat '0' ++ digits)
  else
    digits.take 1 ++ (if digits.length = 1 then [] else '.' :: digits.drop 1) ++
      'e' :: (if n - 1 < 0 then '-' else '+') :: Nat.toDigits 10 (n - 1).natAbs

/-- The text of a magnitude. -/
def magnitudeText (x : ℚ) : List Char :=
  if x = 0 then ['0'] else decimalText (decimal x).1 (decimal x).2

theorem digits?_split {ds rest : List Char} (hds : ds ≠ []) (h : ∀ c ∈ ds, c.isDigit = true)
    (hrest : ∀ c ∈ rest.head?, c.isDigit = false) : digits? (ds ++ rest) = some (ds, rest) := by
  have hstop : rest.takeWhile Char.isDigit = [] ∧ rest.dropWhile Char.isDigit = rest := by
    cases rest with
    | nil => exact ⟨rfl, rfl⟩
    | cons c cs => simp [hrest c rfl]
  rw [digits?, List.takeWhile_append_of_pos h, hstop.1, List.append_nil,
    List.dropWhile_append_of_pos h, hstop.2, if_neg hds]

theorem whole?_split {c : Char} {cs rest : List Char} (hc : c ≠ '0')
    (h : ∀ d ∈ c :: cs, d.isDigit = true) (hrest : ∀ d ∈ rest.head?, d.isDigit = false) :
    whole? (c :: cs ++ rest) = some (c :: cs, rest) := by
  have hread := digits?_split (List.cons_ne_nil c cs) h hrest
  rw [List.cons_append] at hread ⊢
  unfold whole?
  split
  · rename_i hzero
    exact absurd (List.cons.inj hzero).1 hc
  · exact hread

/-- The digits after a dot, when there are any. -/
theorem fraction?_split {ds rest : List Char} (h : ∀ c ∈ ds, c.isDigit = true)
    (hrest : ∀ c ∈ rest.head?, c.isDigit = false ∧ c ≠ '.') :
    fraction? ((if ds = [] then [] else '.' :: ds) ++ rest) = some (ds, rest) := by
  by_cases hds : ds = []
  · rw [if_pos hds, List.nil_append, hds]
    unfold fraction?
    split
    · exact absurd rfl (hrest _ rfl).2
    · rfl
  · rw [if_neg hds, List.cons_append]
    exact digits?_split hds h fun c hc => (hrest c hc).1

theorem isDigit_toDigits (n : ℕ) : ∀ c ∈ Nat.toDigits 10 n, c.isDigit = true :=
  fun _ hc => Nat.isDigit_of_mem_toDigits (by decide) (by decide) hc

/-- An exponent behind its letter. -/
theorem exponent?_text (n : ℤ) {rest : List Char} (h : Stops rest) :
    exponent? ('e' :: (if n < 0 then '-' else '+') :: (Nat.toDigits 10 n.natAbs ++ rest)) =
      some (n, rest) := by
  have hread := digits?_append Nat.toDigits_ne_nil (isDigit_toDigits n.natAbs) h
  rw [exponent?]
  rcases lt_or_ge n 0 with hneg | hpos
  · rw [if_pos hneg, signed?, hread, Option.map_some, Nat.ofDigitChars_ten_toDigits]
    congr 2
    omega
  · rw [if_neg (not_lt.2 hpos), signed?, hread, Option.map_some, Nat.ofDigitChars_ten_toDigits]
    congr 2
    omega

/-- The parts of a number read one after the other. -/
theorem magnitude?_parts {w f e rest cs ds : List Char} {n : ℤ} (hw : whole? cs = some (w, ds))
    (hf : fraction? ds = some (f, e)) (he : exponent? e = some (n, rest)) :
    magnitude? cs = some (Nat.ofDigitChars 10 (w ++ f) 0 * (10 : ℚ) ^ (n - f.length), rest) := by
  simp [magnitude?, hw, hf, he]

theorem Stops.head {rest : List Char} (h : Stops rest) :
    ∀ c ∈ rest.head?, c.isDigit = false ∧ c ≠ '.' := by
  intro c hc
  cases rest with
  | nil => cases hc
  | cons d ds =>
    obtain rfl : d = c := Option.some.inj hc
    exact ⟨h.1, h.2.1⟩

/-- CORRECT: the text of a decimal reads as the decimal. -/
theorem magnitude?_decimalText {s : ℕ} (hs : 0 < s) (j : ℤ) {rest : List Char} (h : Stops rest) :
    magnitude? (decimalText s j ++ rest) = some ((s : ℚ) * 10 ^ j, rest) := by
  obtain ⟨c, cs, hdigits, hc⟩ := toDigits_head s hs
  have hall : ∀ d ∈ c :: cs, d.isDigit = true := hdigits ▸ isDigit_toDigits s
  have hvalue : Nat.ofDigitChars 10 (c :: cs) 0 = s := hdigits ▸ Nat.ofDigitChars_ten_toDigits
  have hzeros (n : ℕ) : ∀ d ∈ List.replicate n '0', d.isDigit = true := by
    intro d hd
    rw [(List.mem_replicate.1 hd).2]
    decide
  have hcount : (c :: cs).length = cs.length + 1 := List.length_cons
  simp only [decimalText, hdigits]
  by_cases hfull : 0 ≤ j ∧ ((c :: cs).length : ℤ) + j ≤ 21
  · -- All digits stand before the point.
    rw [if_pos hfull]
    obtain ⟨k, rfl⟩ := Int.eq_ofNat_of_zero_le hfull.1
    have hwhole := @whole?_split _ (cs ++ List.replicate k '0') rest hc
      (by
        intro d hd
        rw [← List.cons_append, List.mem_append] at hd
        exact hd.elim (hall d) (hzeros k d))
      fun d hd => (h.head d hd).1
    have hread := magnitude?_parts hwhole (fraction?_stops h) (exponent?_stops h)
    rw [← List.cons_append, List.append_nil, Nat.ofDigitChars_append,
      Nat.ofDigitChars_replicate_zero, hvalue, List.length_nil] at hread
    rw [Int.toNat_natCast, hread, Nat.cast_zero, sub_zero, zpow_zero, mul_one, zpow_natCast]
    push_cast
    rw [mul_comm]
  rw [if_neg hfull]
  by_cases hpoint : 0 < ((c :: cs).length : ℤ) + j ∧ ((c :: cs).length : ℤ) + j ≤ 21
  · -- The point stands among the digits.
    rw [if_pos hpoint]
    obtain ⟨k, hk⟩ : ∃ k : ℕ, ((c :: cs).length : ℤ) + j = k + 1 :=
      ⟨((c :: cs).length + j - 1).toNat, by omega⟩
    have hlength : k + 1 < (c :: cs).length := by omega
    rw [hk]
    have htake : (c :: cs).take (k + 1 : ℤ).toNat = c :: cs.take k := by
      rw [show (k + 1 : ℤ).toNat = k + 1 by omega, List.take_succ_cons]
    have hdrop : (c :: cs).drop (k + 1 : ℤ).toNat = cs.drop k := by
      rw [show (k + 1 : ℤ).toNat = k + 1 by omega, List.drop_succ_cons]
    have hrest : cs.drop k ≠ [] := by
      rw [ne_eq, List.drop_eq_nil_iff]
      omega
    have hwhole := @whole?_split _ (cs.take k) ('.' :: (cs.drop k ++ rest)) hc
      (by
        intro d hd
        rw [List.mem_cons] at hd
        exact hall d (List.mem_cons.2 (hd.imp_right List.mem_of_mem_take)))
      (by
        intro d hd
        obtain rfl : '.' = d := Option.some.inj hd
        decide)
    have hfraction := @fraction?_split (cs.drop k) _
      (fun d hd => hall d (List.mem_cons_of_mem _ (List.mem_of_mem_drop hd))) h.head
    rw [if_neg hrest] at hfraction
    have hread := magnitude?_parts hwhole hfraction (exponent?_stops h)
    rw [show c :: cs.take k ++ cs.drop k = c :: cs by simp, hvalue] at hread
    rw [htake, hdrop, List.append_assoc, show ('.' :: cs.drop k) ++ rest = '.' :: (cs.drop k ++ rest)
      from rfl, hread, List.length_drop]
    congr 4
    omega
  rw [if_neg hpoint]
  by_cases hsmall : -6 < ((c :: cs).length : ℤ) + j ∧ ((c :: cs).length : ℤ) + j ≤ 0
  · -- The point stands before the digits and some zeros.
    rw [if_pos hsmall]
    obtain ⟨k, hk⟩ : ∃ k : ℕ, -(((c :: cs).length : ℤ) + j) = k :=
      ⟨_, (Int.toNat_of_nonneg (by omega)).symm⟩
    rw [hk, Int.toNat_natCast]
    have hfraction := @fraction?_split (List.replicate k '0' ++ c :: cs) _
      (by
        intro d hd
        rw [List.mem_append] at hd
        exact hd.elim (hzeros k d) (hall d)) h.head
    rw [if_neg (by simp)] at hfraction
    have hread := @magnitude?_parts _ _ _ _ ('0' :: ('.' :: (List.replicate k '0' ++ c :: cs) ++ rest))
      _ _ rfl hfraction (exponent?_stops h)
    have hsame : Nat.ofDigitChars 10 (['0'] ++ (List.replicate k '0' ++ c :: cs)) 0 = s := by
      rw [Nat.ofDigitChars_append, Nat.ofDigitChars_append, Nat.ofDigitChars_replicate_zero]
      exact hvalue
    rw [hsame] at hread
    refine hread.trans ?_
    congr 4
    simp only [List.length_append, List.length_replicate]
    omega
  · -- One digit stands before the point, and an exponent behind the others.
    rw [if_neg hsmall]
    have hparts : (if (c :: cs).length = 1 then [] else '.' :: (c :: cs).drop 1) =
        if cs = [] then [] else '.' :: cs := by
      simp
    have hfraction := @fraction?_split cs
      ('e' :: (if ((c :: cs).length : ℤ) + j - 1 < 0 then '-' else '+') ::
        (Nat.toDigits 10 (((c :: cs).length : ℤ) + j - 1).natAbs ++ rest))
      (fun d hd => hall d (List.mem_cons_of_mem _ hd))
      (by
        intro d hd
        obtain rfl : 'e' = d := Option.some.inj hd
        decide)
    have hwhole := @whole?_split _ []
      ((if cs = [] then [] else '.' :: cs) ++
        'e' :: (if ((c :: cs).length : ℤ) + j - 1 < 0 then '-' else '+') ::
          (Nat.toDigits 10 (((c :: cs).length : ℤ) + j - 1).natAbs ++ rest)) hc
      (by
        intro d hd
        exact hall d (List.mem_cons.2 (.inl (List.mem_singleton.1 hd))))
      (by
        intro d hd
        split at hd
        all_goals
          obtain rfl := Option.some.inj hd
          decide)
    have hread := magnitude?_parts hwhole hfraction (exponent?_text _ h)
    rw [show Nat.ofDigitChars 10 ([c] ++ cs) 0 = s from hvalue] at hread
    rw [hparts, List.take_succ_cons, List.take_zero, List.append_assoc, List.append_assoc]
    refine hread.trans ?_
    congr 4
    omega

/-- CORRECT: the text of a magnitude reads as a decimal that reads as the magnitude. -/
theorem magnitude?_magnitudeText (m : Magnitude) {rest : List Char} (h : Stops rest) :
    ∃ q, magnitude? (magnitudeText m.value ++ rest) = some (q, rest) ∧
      toDouble q = some m.value := by
  by_cases hzero : m.value = 0
  · refine ⟨0, ?_, by rw [hzero, toDouble_zero]⟩
    rw [magnitudeText, if_pos hzero]
    simpa using magnitude?_toDigits 0 h
  · rw [magnitudeText, if_neg hzero]
    exact ⟨_, magnitude?_decimalText (decimal_pos hzero) _ h, reads_decimal m⟩

/-- The text of a magnitude starts with a digit. -/
theorem magnitudeText_head (m : Magnitude) :
    ∃ c cs, magnitudeText m.value = c :: cs ∧ c.isDigit = true := by
  by_cases hzero : m.value = 0
  · exact ⟨'0', [], by rw [magnitudeText, if_pos hzero], by decide⟩
  · obtain ⟨c, cs, hdigits, -⟩ := toDigits_head _ (decimal_pos hzero)
    have hc : c.isDigit = true := isDigit_toDigits _ c (hdigits ▸ List.mem_cons_self)
    rw [magnitudeText, if_neg hzero]
    simp only [decimalText, hdigits]
    split
    · exact ⟨c, _, rfl, hc⟩
    split
    · rename_i hpoint
      obtain ⟨k, hk⟩ : ∃ k : ℕ, (((c :: cs).length : ℤ) + (decimal m.value).2).toNat = k + 1 :=
        ⟨_, (Nat.succ_pred_eq_of_pos (by omega)).symm⟩
      rw [hk, List.take_succ_cons]
      exact ⟨c, _, rfl, hc⟩
    split
    · exact ⟨'0', _, rfl, by decide⟩
    · exact ⟨c, _, rfl, hc⟩

end Json
