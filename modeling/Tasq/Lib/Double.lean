import Mathlib.Data.Int.Log
import Mathlib.Tactic

/-! Numbers rounded to the nearest double.

    A double is an integer of 53 bits times a power of two, of which the least is `2 ^ (-1074)`.
    `round` takes a rational to the nearest one and breaks a tie to the even integer; overflow is
    left out. Rounding is monotone, so a bound on an exact quotient is one on the rounded one. -/

namespace Double

/-- The nearest integer, and the even one of two. -/
def nearest (y : ℚ) : ℤ :=
  if Int.fract y < 1 / 2 then ⌊y⌋
  else if 1 / 2 < Int.fract y then ⌊y⌋ + 1
  else if Even ⌊y⌋ then ⌊y⌋ else ⌊y⌋ + 1

/-- The exponent of the last of 53 bits, or that of the least double. -/
def exponent (x : ℚ) : ℤ := max (Int.log 2 |x| - 52) (-1074)

/-- The nearest double. -/
def round (x : ℚ) : ℚ := if x = 0 then 0 else nearest (x / 2 ^ exponent x) * 2 ^ exponent x

/-- `Math.round`: a tie goes up. -/
def mathRound (x : ℚ) : ℤ := ⌊x + 1 / 2⌋

/-! ### The nearest integer -/

theorem floor_le_nearest (y : ℚ) : ⌊y⌋ ≤ nearest y := by
  unfold nearest
  split
  · rfl
  · split
    · omega
    · split
      · rfl
      · omega

theorem nearest_le_floor (y : ℚ) : nearest y ≤ ⌊y⌋ + 1 := by
  unfold nearest
  split
  · omega
  · split
    · rfl
    · split
      · omega
      · rfl

theorem nearest_mono {y z : ℚ} (h : y ≤ z) : nearest y ≤ nearest z := by
  rcases (Int.floor_mono h).lt_or_eq with hlt | heq
  · calc nearest y ≤ ⌊y⌋ + 1 := nearest_le_floor y
      _ ≤ ⌊z⌋ := hlt
      _ ≤ nearest z := floor_le_nearest z
  · have hfract : Int.fract y ≤ Int.fract z := by
      have hy := Int.self_sub_floor y
      have hz := Int.self_sub_floor z
      rw [heq] at hy
      linarith
    unfold nearest
    rw [← heq]
    split_ifs <;> first | omega | linarith

@[simp] theorem nearest_intCast (n : ℤ) : nearest n = n := by
  simp [nearest]

/-- The nearest integer of a number that is nearer to it than a half. -/
theorem nearest_eq {y : ℚ} {n : ℤ} (hlow : n - 1 / 2 < y) (hhigh : y < n + 1 / 2) :
    nearest y = n := by
  rcases le_or_gt (n : ℚ) y with h | h
  · have hfloor : ⌊y⌋ = n := Int.floor_eq_iff.2 ⟨h, by linarith⟩
    have hfract : Int.fract y < 1 / 2 := by
      rw [← Int.self_sub_floor, hfloor]
      linarith
    rw [nearest, if_pos hfract, hfloor]
  · have hfloor : ⌊y⌋ = n - 1 := by
      refine Int.floor_eq_iff.2 ⟨?_, ?_⟩
      · push_cast
        linarith
      · push_cast
        linarith
    have hfract : 1 / 2 < Int.fract y := by
      rw [← Int.self_sub_floor, hfloor]
      push_cast
      linarith
    rw [nearest, if_neg (not_lt.2 hfract.le), if_pos hfract, hfloor, sub_add_cancel]

/-! ### Doubles -/

theorem two_zpow_pos (e : ℤ) : (0 : ℚ) < 2 ^ e := zpow_pos (by norm_num) e

/-- A number lies below the power of two after its bits. -/
theorem scaled_lt {x : ℚ} (hx : 0 < x) : x / 2 ^ exponent x < (2 : ℚ) ^ (53 : ℕ) := by
  have hhigh : x < ((2 : ℕ) : ℚ) ^ (Int.log 2 x + 1) := Int.lt_zpow_succ_log_self (by norm_num) x
  have hexp : Int.log 2 x - 52 ≤ exponent x := by
    rw [exponent, abs_of_pos hx]
    exact le_max_left _ _
  rw [div_lt_iff₀ (two_zpow_pos _), ← zpow_natCast, ← zpow_add₀ (by norm_num)]
  refine hhigh.trans_le (zpow_le_zpow_right₀ (by norm_num) ?_)
  push_cast
  omega

/-- A number above the least exponent has all its bits. -/
theorem le_scaled {x : ℚ} (hx : 0 < x) (hexp : -1074 < exponent x) :
    (2 : ℚ) ^ (52 : ℕ) ≤ x / 2 ^ exponent x := by
  have hlow : ((2 : ℕ) : ℚ) ^ Int.log 2 x ≤ x := Int.zpow_log_le_self (by norm_num) hx
  have heq : exponent x = Int.log 2 x - 52 := by
    rw [exponent, abs_of_pos hx] at hexp ⊢
    omega
  rw [le_div_iff₀ (two_zpow_pos _), ← zpow_natCast, ← zpow_add₀ (by norm_num), heq]
  simpa using hlow

/-- The exponent, from the powers of two around a number. -/
theorem exponent_eq {x : ℚ} {z : ℤ} (hz : -1022 ≤ z) (hlow : (2 : ℚ) ^ z ≤ x)
    (hhigh : x < 2 ^ (z + 1)) : exponent x = z - 52 := by
  have hx : 0 < x := (two_zpow_pos z).trans_le hlow
  have hle : z ≤ Int.log 2 x := (Int.zpow_le_iff_le_log (by norm_num) hx).1 (by simpa using hlow)
  have hlt : Int.log 2 x < z + 1 :=
    (Int.lt_zpow_iff_log_lt (by norm_num) hx).1 (by simpa using hhigh)
  rw [exponent, abs_of_pos hx]
  omega

theorem exponent_mono {x y : ℚ} (hx : 0 < x) (h : x ≤ y) : exponent x ≤ exponent y := by
  have hlog := Int.log_mono_right (b := 2) hx h
  rw [exponent, exponent, abs_of_pos hx, abs_of_pos (hx.trans_le h)]
  omega

theorem round_zero : round 0 = 0 := if_pos rfl

theorem round_of_pos {x : ℚ} (hx : 0 < x) :
    round x = nearest (x / 2 ^ exponent x) * 2 ^ exponent x := if_neg hx.ne'

/-- A rounded number is at most the power of two after its bits. -/
theorem round_le {x : ℚ} (hx : 0 < x) : round x ≤ 2 ^ (53 + exponent x) := by
  have h : nearest (x / 2 ^ exponent x) ≤ (2 : ℤ) ^ 53 := by
    have h := nearest_mono (z := ((2 ^ 53 : ℤ) : ℚ)) (by push_cast; exact (scaled_lt hx).le)
    rwa [nearest_intCast] at h
  rw [round_of_pos hx, zpow_add₀ (by norm_num)]
  refine mul_le_mul_of_nonneg_right ?_ (two_zpow_pos _).le
  exact_mod_cast h

/-- A rounded number above the least exponent has all its bits. -/
theorem le_round {x : ℚ} (hx : 0 < x) (hexp : -1074 < exponent x) :
    2 ^ (52 + exponent x) ≤ round x := by
  have h : (2 : ℤ) ^ 52 ≤ nearest (x / 2 ^ exponent x) := by
    have h := nearest_mono (y := ((2 ^ 52 : ℤ) : ℚ)) (by push_cast; exact le_scaled hx hexp)
    rwa [nearest_intCast] at h
  rw [round_of_pos hx, zpow_add₀ (by norm_num)]
  refine mul_le_mul_of_nonneg_right ?_ (two_zpow_pos _).le
  exact_mod_cast h

theorem round_nonneg {x : ℚ} (hx : 0 ≤ x) : 0 ≤ round x := by
  rcases hx.eq_or_lt with rfl | hpos
  · exact round_zero.ge
  · have h : (0 : ℤ) ≤ nearest (x / 2 ^ exponent x) := by
      have h := nearest_mono (y := ((0 : ℤ) : ℚ)) (z := x / 2 ^ exponent x) (by
        push_cast
        exact (div_pos hpos (two_zpow_pos _)).le)
      rwa [nearest_intCast] at h
    rw [round_of_pos hpos]
    exact mul_nonneg (by exact_mod_cast h) (two_zpow_pos _).le

/-- MONOTONE: rounding keeps the order. Within one exponent the integers are in order; and a power
    of two is between numbers of different exponents. -/
theorem round_mono {x y : ℚ} (hx : 0 ≤ x) (h : x ≤ y) : round x ≤ round y := by
  rcases hx.eq_or_lt with rfl | hpos
  · rw [round_zero]
    exact round_nonneg h
  · have hy : 0 < y := hpos.trans_le h
    rcases (exponent_mono hpos h).lt_or_eq with hlt | heq
    · have hleast : -1074 ≤ exponent x := le_max_right _ _
      calc round x ≤ 2 ^ (53 + exponent x) := round_le hpos
        _ ≤ 2 ^ (52 + exponent y) := zpow_le_zpow_right₀ (by norm_num) (by omega)
        _ ≤ round y := le_round hy (by omega)
    · rw [round_of_pos hpos, round_of_pos hy, heq]
      have hscaled : x / 2 ^ exponent y ≤ y / 2 ^ exponent y :=
        div_le_div_of_nonneg_right h (two_zpow_pos _).le
      exact mul_le_mul_of_nonneg_right (by exact_mod_cast nearest_mono hscaled)
        (two_zpow_pos _).le

theorem mathRound_mono {x y : ℚ} (h : x ≤ y) : mathRound x ≤ mathRound y :=
  Int.floor_mono (by linarith)

/-- A number with a given exponent, nearest to a given integer of 53 bits. -/
theorem round_eq {x : ℚ} {z m : ℤ} (hz : -1022 ≤ z) (hlow : (2 : ℚ) ^ z ≤ x)
    (hhigh : x < 2 ^ (z + 1)) (hm : (m - 1 / 2) * 2 ^ (z - 52) < x)
    (hm' : x < (m + 1 / 2) * 2 ^ (z - 52)) : round x = m * 2 ^ (z - 52) := by
  rw [round_of_pos ((two_zpow_pos z).trans_le hlow), exponent_eq hz hlow hhigh,
    nearest_eq ((lt_div_iff₀ (two_zpow_pos _)).2 hm) ((div_lt_iff₀ (two_zpow_pos _)).2 hm')]

end Double
