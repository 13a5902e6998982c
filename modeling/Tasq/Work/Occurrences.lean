import Mathlib.Tactic
import Tasq.EffectLedger.Run
import Tasq.Work.Recurrence

/-! The calendar under recurrence, and the occurrences of a recurring task on it.

    Months are numbered through from the year 0, and a date is a place in its month; days and dates
    are in bijection, in order, from 1970 on. A step lands in exactly the month it counts to, on the
    same day or the last one, at the same time of day, and later than where it began.

    Late or early completion moves nothing: the n-th instance of a series that is anchored to its due
    date is due n steps after the first, in exactly the month that the steps count to, and on the
    same day as long as every month on the way has had that day. -/

namespace Tasq

/-! ### Months -/

/-- How many days the month of a number has, from January of the year 0 as 0. -/
def monthLength (index : ℕ) : ℕ := daysInMonth (index / 12) (index % 12 + 1)

/-- The days from the first of March of the year 0 to that of a year. -/
def yearStart (year : ℕ) : ℕ := 365 * year + year / 4 - year / 100 + year / 400

/-- The days before a month of a year that begins in March. -/
def monthOffset (shifted : ℕ) : ℕ := (153 * shifted + 2) / 5

/-- The days before a month, counted from March of the year 0 as 0. -/
def monthStart (k : ℕ) : ℕ := yearStart (k / 12) + monthOffset (k % 12)

theorem monthLength_pos (index : ℕ) : 28 ≤ monthLength index := by
  unfold monthLength daysInMonth
  split_ifs <;> omega

/-- A year that begins in March ends with the February of the next. -/
theorem yearStart_succ (year : ℕ) :
    yearStart (year + 1) = yearStart year + 337 + daysInMonth (year + 1) 2 := by
  have hfour := Nat.succ_div (a := year) (b := 4)
  have hcentury := Nat.succ_div (a := year) (b := 100)
  have hera := Nat.succ_div (a := year) (b := 400)
  simp only [Nat.dvd_iff_mod_eq_zero] at hfour hcentury hera
  simp only [yearStart, daysInMonth, if_true, hfour, hcentury, hera]
  -- A multiple of a hundred is one of four, and so on.
  have hfour' : (year + 1) % 100 = 0 → (year + 1) % 4 = 0 := by omega
  have hcentury' : (year + 1) % 400 = 0 → (year + 1) % 100 = 0 := by omega
  have hle : year / 100 ≤ year / 4 := by omega
  clear hfour hcentury hera
  generalize (year + 1) % 4 = a at *
  generalize (year + 1) % 100 = b at *
  generalize (year + 1) % 400 = c at *
  generalize year / 4 = x at *
  generalize year / 100 = y at *
  generalize year / 400 = z at *
  split_ifs <;> omega

/-- Apart from February every month has its length in every year. -/
theorem monthOffset_succ {shifted : ℕ} (h : shifted < 11) (year : ℕ) :
    monthOffset (shifted + 1) = monthOffset shifted +
      daysInMonth (year + (shifted + 2) / 12) ((shifted + 2) % 12 + 1) := by
  interval_cases shifted <;> simp [monthOffset, daysInMonth]

/-- A month ends where the next one begins. -/
theorem monthStart_succ (k : ℕ) : monthStart (k + 1) = monthStart k + monthLength (k + 2) := by
  obtain ⟨year, shifted, hshifted, rfl⟩ : ∃ year shifted, shifted < 12 ∧ k = 12 * year + shifted :=
    ⟨k / 12, k % 12, Nat.mod_lt _ (by decide), (Nat.div_add_mod k 12).symm⟩
  have hyear : (12 * year + shifted) / 12 = year := by omega
  have hmonth : (12 * year + shifted) % 12 = shifted := by omega
  rcases Nat.lt_succ_iff_lt_or_eq.1 hshifted with hshort | rfl
  · have hnext : (12 * year + shifted + 1) / 12 = year ∧ (12 * year + shifted + 1) % 12 = shifted + 1 := by
      omega
    have hlength : monthLength (12 * year + shifted + 2) =
        daysInMonth (year + (shifted + 2) / 12) ((shifted + 2) % 12 + 1) := by
      unfold monthLength
      congr 1 <;> omega
    rw [monthStart, monthStart, hnext.1, hnext.2, hyear, hmonth, hlength,
      monthOffset_succ hshort year, add_assoc]
  · have hnext : (12 * year + 11 + 1) / 12 = year + 1 ∧ (12 * year + 11 + 1) % 12 = 0 := by omega
    have hlength : monthLength (12 * year + 11 + 2) = daysInMonth (year + 1) 2 := by
      unfold monthLength
      congr 1 <;> omega
    rw [monthStart, monthStart, hnext.1, hnext.2, hyear, hmonth, hlength, yearStart_succ]
    simp only [monthOffset]
    omega

theorem monthStart_strictMono : StrictMono monthStart :=
  strictMono_nat_of_lt_succ fun k => by
    have := monthLength_pos (k + 2)
    rw [monthStart_succ]
    omega

/-- Nothing of a month lies in a later one. -/
theorem monthStart_add_lt {j k day : ℕ} (hday : day < monthLength (j + 2)) (h : j < k) :
    monthStart j + day < monthStart k := by
  have hle := monthStart_strictMono.monotone (show j + 1 ≤ k from h)
  rw [monthStart_succ] at hle
  omega

/-! ### Years of an era -/

/-- The dividend of the year of an era of 400. -/
def eraDays (day : ℕ) : ℕ := day - day / 1460 + day / 36524 - day / 146096

theorem yearStart_mono : Monotone yearStart :=
  monotone_nat_of_le_succ fun year => by
    rw [yearStart_succ, add_assoc]
    exact Nat.le_add_right _ _

theorem eraDays_succ {day : ℕ} (h : day + 1 < 146097) : eraDays day ≤ eraDays (day + 1) := by
  unfold eraDays
  omega

theorem eraDays_mono {day day' : ℕ} (h : day ≤ day') (hera : day' < 146097) :
    eraDays day ≤ eraDays day' := by
  induction day', h using Nat.le_induction with
  | base => exact le_rfl
  | succ day' _ ih => exact (ih (by omega)).trans (eraDays_succ hera)

/-- The quotient is right on the first and on the last day of every year of an era. -/
theorem eraDays_bounds {y : ℕ} (h : y < 400) : eraDays (yearStart y) / 365 = y ∧
    eraDays (yearStart (y + 1) - 1) / 365 = y := by
  have hall : (List.range 400).all (fun y => Nat.beq (eraDays (yearStart y) / 365) y &&
      Nat.beq (eraDays (yearStart (y + 1) - 1) / 365) y) = true := by decide +kernel
  have hy := List.all_eq_true.1 hall y (List.mem_range.2 h)
  rw [Bool.and_eq_true] at hy
  exact ⟨Nat.eq_of_beq_eq_true hy.1, Nat.eq_of_beq_eq_true hy.2⟩

/-- The quotient is the year that the day falls in. -/
theorem yearOfEra_eq {y day : ℕ} (hy : y < 400) (hstart : yearStart y ≤ day)
    (hend : day < yearStart (y + 1)) : eraDays day / 365 = y := by
  obtain ⟨hfirst, hlast⟩ := eraDays_bounds hy
  have hbound : yearStart (y + 1) ≤ yearStart 400 := yearStart_mono (show y + 1 ≤ 400 from hy)
  have hera : yearStart 400 = 146097 := rfl
  have hlo := Nat.div_le_div_right (c := 365) (eraDays_mono hstart (by omega))
  have hhi := Nat.div_le_div_right (c := 365)
    (eraDays_mono (show day ≤ yearStart (y + 1) - 1 by omega) (by omega))
  omega

/-- An era has as many days as its years. -/
theorem yearStart_era (era y : ℕ) : yearStart (era * 400 + y) = era * 146097 + yearStart y := by
  unfold yearStart
  omega

/-- Every month ends before the next one would begin. -/
theorem monthOffset_add_le {shifted : ℕ} (h : shifted < 12) (year : ℕ) :
    monthOffset shifted + daysInMonth (year + (shifted + 2) / 12) ((shifted + 2) % 12 + 1) ≤
      monthOffset (shifted + 1) := by
  rcases Nat.lt_succ_iff_lt_or_eq.1 h with hshort | rfl
  · exact (monthOffset_succ hshort year).ge
  · have hfebruary : daysInMonth (year + 1) 2 ≤ 29 := by
      unfold daysInMonth
      split_ifs <;> omega
    exact Nat.add_le_add_left (hfebruary.trans (show 29 ≤ 30 by decide)) 337

/-- The month of a year is the one that the day falls in. -/
theorem shifted_eq {shifted day : ℕ} (hstart : monthOffset shifted ≤ day)
    (hend : day < monthOffset (shifted + 1)) : (5 * day + 2) / 153 = shifted := by
  unfold monthOffset at hstart hend
  omega

/-! ### Dates -/

namespace CivilDate

/-- The number of the month of a date. -/
def monthIndex (d : CivilDate) : ℕ := 12 * d.year + (d.month - 1)

/-- The date in the month of a number. -/
def inMonth (index day : ℕ) : CivilDate := ⟨index / 12, index % 12 + 1, day⟩

@[simp] theorem monthIndex_inMonth (index day : ℕ) : (inMonth index day).monthIndex = index := by
  simp only [monthIndex, inMonth]
  omega

/-- A day of an era, by its year and its place in the year. -/
theorem day_of_era (year shifted day : ℕ) :
    year / 400 * 146097 + (year % 400 * 365 + year % 400 / 4 - year % 400 / 100 +
      ((153 * shifted + 2) / 5 + day)) = yearStart year + monthOffset shifted + day := by
  unfold yearStart monthOffset
  omega

theorem days_eq (d : CivilDate) : d.days =
    yearStart (if d.month ≤ 2 then d.year - 1 else d.year) +
      monthOffset (if 2 < d.month then d.month - 3 else d.month + 9) + (d.day - 1) - 719468 :=
  congrArg (· - 719468) (day_of_era _ _ _)

/-- The place of a date among all days, by its month and its day. -/
theorem days_inMonth (k day : ℕ) :
    (inMonth (k + 2) day).days = monthStart k + (day - 1) - 719468 := by
  rw [days_eq, monthStart]
  refine congrArg (· + (day - 1) - 719468) ?_
  by_cases hshort : (k + 2) % 12 + 1 ≤ 2
  · have hyear : (k + 2) / 12 - 1 = k / 12 := by omega
    have hmonth : (k + 2) % 12 + 1 + 9 = k % 12 := by omega
    rw [if_pos (show (inMonth (k + 2) day).month ≤ 2 from hshort),
      if_neg (show ¬2 < (inMonth (k + 2) day).month from not_lt.2 hshort)]
    exact congrArg₂ (yearStart · + monthOffset ·) hyear hmonth
  · have hyear : (k + 2) / 12 = k / 12 := by omega
    have hmonth : (k + 2) % 12 + 1 - 3 = k % 12 := by omega
    rw [if_neg (show ¬(inMonth (k + 2) day).month ≤ 2 from hshort),
      if_pos (show 2 < (inMonth (k + 2) day).month from not_le.1 hshort)]
    exact congrArg₂ (yearStart · + monthOffset ·) hyear hmonth

/-- The months from 1970 on begin after the days that are cut off. -/
theorem epoch_le {k : ℕ} (h : 12 * 1970 ≤ k + 2) : 719468 ≤ monthStart k :=
  monthStart_strictMono.monotone (show 12 * 1970 - 2 ≤ k by omega)

/-- Nothing is cut off from 1970 on. -/
theorem days_add {k day : ℕ} (h : 12 * 1970 ≤ k + 2) :
    (inMonth (k + 2) day).days + 719468 = monthStart k + (day - 1) := by
  rw [days_inMonth]
  exact Nat.sub_add_cancel ((epoch_le h).trans (Nat.le_add_right _ _))

/-- Later months come later. -/
theorem days_lt {i j day day' : ℕ} (hepoch : 12 * 1970 ≤ i) (hpos : 1 ≤ day)
    (hle : day ≤ monthLength i) (h : i < j) : (inMonth i day).days < (inMonth j day').days := by
  obtain ⟨i, rfl⟩ : ∃ k, i = k + 2 := ⟨i - 2, by omega⟩
  obtain ⟨j, rfl⟩ : ∃ k, j = k + 2 := ⟨j - 2, by omega⟩
  have hlt : monthStart i + (day - 1) < monthStart j := monthStart_add_lt (by omega) (by omega)
  have hi := @days_add _ day hepoch
  have hj := @days_add j day' (by omega)
  generalize (inMonth (i + 2) day).days = a at *
  generalize (inMonth (j + 2) day').days = b at *
  omega

/-- Every day is the day of a date. -/
theorem exists_inMonth (n : ℕ) : ∃ k day, 12 * 1970 ≤ k + 2 ∧ 1 ≤ day ∧
    day ≤ monthLength (k + 2) ∧ monthStart k + (day - 1) = n + 719468 := by
  obtain ⟨k, hk, hstart, hend⟩ : ∃ k, 12 * 1970 - 2 ≤ k ∧ monthStart k ≤ n + 719468 ∧
      n + 719468 < monthStart (k + 1) := by
    induction n with
    | zero => exact ⟨12 * 1970 - 2, le_rfl, le_rfl, by decide⟩
    | succ n ih =>
      obtain ⟨k, hk, hstart, hend⟩ := ih
      rcases Nat.lt_or_ge (n + 1 + 719468) (monthStart (k + 1)) with hin | hout
      · exact ⟨k, hk, by omega, hin⟩
      · have hnext : monthStart (k + 1) < monthStart (k + 1 + 1) :=
          monthStart_strictMono (Nat.lt_succ_self _)
        exact ⟨k + 1, by omega, hout, by omega⟩
  rw [monthStart_succ] at hend
  refine ⟨k, n + 719468 - monthStart k + 1, by omega, by omega, by omega, ?_⟩
  omega

/-- The date of a day from the year of its era, its era and the day of the era. -/
def ofParts (yearOfEra era dayOfEra : ℕ) : CivilDate :=
  let dayOfYear := dayOfEra - (365 * yearOfEra + yearOfEra / 4 - yearOfEra / 100)
  let shifted := (5 * dayOfYear + 2) / 153
  let month := if shifted < 10 then shifted + 3 else shifted - 9
  ⟨yearOfEra + era * 400 + (if month ≤ 2 then 1 else 0), month,
    dayOfYear - (153 * shifted + 2) / 5 + 1⟩

/-- The date of a day, once its era, its year and its month are known. -/
theorem ofDays_eq {n era y shifted day : ℕ} (hy : y < 400) (hshifted : shifted < 12)
    (hn : n + 719468 = era * 146097 + (yearStart y + (monthOffset shifted + day)))
    (hyear : yearStart y + (monthOffset shifted + day) < yearStart (y + 1))
    (hmonth : (5 * (monthOffset shifted + day) + 2) / 153 = shifted) :
    ofDays n = inMonth (12 * (era * 400 + y) + shifted + 2) (day + 1) := by
  have hbound : yearStart (y + 1) ≤ 146097 := yearStart_mono (show y + 1 ≤ 400 from hy)
  have hdayOfEra : (n + 719468) % 146097 = yearStart y + (monthOffset shifted + day) := by omega
  have hera : (n + 719468) / 146097 = era := by omega
  have hyearOfEra : eraDays ((n + 719468) % 146097) / 365 = y := by
    rw [hdayOfEra]
    exact yearOfEra_eq hy (Nat.le_add_right _ _) hyear
  have hdayOfYear : (n + 719468) % 146097 - (365 * y + y / 4 - y / 100) =
      monthOffset shifted + day := by
    rw [hdayOfEra]
    unfold yearStart
    omega
  have hparts : ofDays n = ofParts (eraDays ((n + 719468) % 146097) / 365)
      ((n + 719468) / 146097) ((n + 719468) % 146097) := rfl
  rw [hparts, hyearOfEra, hera, ofParts, hdayOfYear, hmonth, inMonth]
  have hin : (shifted + 2) / 12 = 0 ∧ shifted < 10 ∨ (shifted + 2) / 12 = 1 ∧ ¬shifted < 10 := by omega
  rcases hin with ⟨_, hshort⟩ | ⟨_, hlong⟩
  · simp only [hshort, if_true, mk.injEq]
    rw [if_neg (by omega)]
    refine ⟨by omega, by omega, by unfold monthOffset; omega⟩
  · simp only [hlong, if_false, mk.injEq]
    rw [if_pos (by omega)]
    refine ⟨by omega, by omega, by unfold monthOffset; omega⟩

/-- ROUND TRIP: the date of the day of a date is the date. -/
theorem ofDays_inMonth {k day : ℕ} (hepoch : 12 * 1970 ≤ k + 2) (hpos : 1 ≤ day)
    (hle : day ≤ monthLength (k + 2)) : ofDays (inMonth (k + 2) day).days = inMonth (k + 2) day := by
  have hdays := @days_add _ day hepoch
  generalize (inMonth (k + 2) day).days = n at hdays ⊢
  have hnext : monthStart k + (day - 1) < monthStart (k + 1) := by
    rw [monthStart_succ]
    omega
  obtain ⟨era, y, shifted, hy, hshifted, rfl⟩ : ∃ era y shifted, y < 400 ∧ shifted < 12 ∧
      k = 12 * (era * 400 + y) + shifted :=
    ⟨k / 4800, k % 4800 / 12, k % 12, by omega, Nat.mod_lt _ (by decide), by omega⟩
  have hstart : monthStart (12 * (era * 400 + y) + shifted) =
      era * 146097 + yearStart y + monthOffset shifted := by
    rw [monthStart, ← yearStart_era]
    congr 2 <;> omega
  have hend : monthStart (12 * (era * 400 + (y + 1))) = era * 146097 + yearStart (y + 1) := by
    rw [monthStart, ← yearStart_era, Nat.mul_mod_right, Nat.mul_div_cancel_left _ (by decide)]
    rfl
  have hyear := monthStart_strictMono.monotone
    (show 12 * (era * 400 + y) + shifted + 1 ≤ 12 * (era * 400 + (y + 1)) by omega)
  rw [hend] at hyear
  rw [hstart] at hdays hnext
  have hmonth : monthOffset shifted + (day - 1) < monthOffset (shifted + 1) := by
    have hfits := monthOffset_add_le hshifted (era * 400 + y)
    have hindex : monthLength (12 * (era * 400 + y) + shifted + 2) =
        daysInMonth (era * 400 + y + (shifted + 2) / 12) ((shifted + 2) % 12 + 1) := by
      unfold monthLength
      congr 1 <;> omega
    rw [hindex] at hle
    omega
  have hn : n + 719468 = era * 146097 + (yearStart y + (monthOffset shifted + (day - 1))) :=
    hdays.trans (by ring)
  have hin : yearStart y + (monthOffset shifted + (day - 1)) < yearStart (y + 1) := by omega
  rw [ofDays_eq hy hshifted hn hin (shifted_eq (Nat.le_add_right _ _) hmonth), Nat.sub_add_cancel hpos]

end CivilDate

/-! ### Occurrences -/

open CivilDate

/-- The date of an instant in UTC. -/
def dateOf (t : UnixMs) : CivilDate := ofDays (t / dayMs)

/-- The days of a step of a unit that counts days. -/
def RecurrenceUnit.days : RecurrenceUnit → Option ℕ
  | .daily => some 1
  | .weekly => some 7
  | .monthly | .yearly => none

/-- The months of a step of a unit that counts months. -/
def RecurrenceUnit.months : RecurrenceUnit → Option ℕ
  | .monthly => some 1
  | .yearly => some 12
  | .daily | .weekly => none

/-- The last time value of a `Date`. -/
def lastTime : UnixMs := 8640000000000000

/-- All numbers on the way are exact: a `Date` reaches to the last day of the month stepped to, and
    sums of milliseconds are safe integers. -/
def Representable (baseMs : UnixMs) (unit : RecurrenceUnit) (interval : ℕ+) : Prop :=
  match unit.months with
  | none => nextOccurrence baseMs unit interval ≤ 9007199254740991
  | some months =>
    let index := (dateOf baseMs).monthIndex + months * interval
    baseMs ≤ lastTime ∧ (inMonth index (monthLength index)).days * dayMs ≤ lastTime

instance decidableRepresentable (baseMs : UnixMs) (unit : RecurrenceUnit) (interval : ℕ+) :
    Decidable (Representable baseMs unit interval) := by
  unfold Representable
  cases unit.months <;> infer_instance

/-- What a step of the calendar is to do. -/
structure Recurs (unit : RecurrenceUnit) (interval : ℕ+) (baseMs t : UnixMs) : Prop where
  later : baseMs < t
  timeOfDay : t % dayMs = baseMs % dayMs
  day : ∀ n ∈ unit.days, t / dayMs = baseMs / dayMs + n * interval
  month : ∀ n ∈ unit.months, (dateOf t).monthIndex = (dateOf baseMs).monthIndex + n * interval
  dayOfMonth : unit.months ≠ none →
    (dateOf t).day = min (dateOf baseMs).day (monthLength (dateOf t).monthIndex)

/-! ### One step -/

theorem dayMs_pos : 0 < dayMs := by decide

/-- The date of an instant is a place in a month from 1970 on. -/
theorem dateOf_eq (t : UnixMs) : 12 * 1970 ≤ (dateOf t).monthIndex ∧ 1 ≤ (dateOf t).day ∧
    (dateOf t).day ≤ monthLength (dateOf t).monthIndex ∧
      (inMonth (dateOf t).monthIndex (dateOf t).day).days = t / dayMs := by
  obtain ⟨k, day, hepoch, hpos, hle, hplace⟩ := exists_inMonth (t / dayMs)
  have hdays : (inMonth (k + 2) day).days = t / dayMs :=
    Nat.add_right_cancel ((days_add hepoch).trans hplace)
  have hdate : dateOf t = inMonth (k + 2) day := by
    rw [dateOf, ← hdays, ofDays_inMonth hepoch hpos hle]
  rw [hdate, monthIndex_inMonth]
  exact ⟨hepoch, hpos, hle, hdays⟩

theorem dateOf_eq_inMonth (t : UnixMs) :
    dateOf t = inMonth (dateOf t).monthIndex (dateOf t).day := by
  obtain ⟨hepoch, hpos, hle, hplace⟩ := dateOf_eq t
  obtain ⟨j, hj⟩ : ∃ j, (dateOf t).monthIndex = j + 2 := ⟨(dateOf t).monthIndex - 2, by omega⟩
  rw [hj] at hepoch hle hplace ⊢
  rw [← ofDays_inMonth hepoch hpos hle, hplace, dateOf]

/-- The date of a day and a time of day is that of the day. -/
theorem dateOf_inMonth {index day rest : ℕ} (hepoch : 12 * 1970 ≤ index) (hpos : 1 ≤ day)
    (hle : day ≤ monthLength index) (hrest : rest < dayMs) :
    dateOf ((inMonth index day).days * dayMs + rest) = inMonth index day := by
  obtain ⟨k, rfl⟩ : ∃ k, index = k + 2 := ⟨index - 2, by omega⟩
  rw [dateOf, mul_comm, Nat.mul_add_div dayMs_pos, Nat.div_eq_of_lt hrest, Nat.add_zero]
  exact ofDays_inMonth hepoch hpos hle

/-- A step by months, as a place in the month that it counts to. -/
theorem nextOccurrence_months {unit : RecurrenceUnit} {months : ℕ} (h : unit.months = some months)
    (baseMs : UnixMs) (interval : ℕ+) : nextOccurrence baseMs unit interval =
      (inMonth ((dateOf baseMs).monthIndex + months * interval)
        (min (dateOf baseMs).day
          (monthLength ((dateOf baseMs).monthIndex + months * interval)))).days * dayMs +
        baseMs % dayMs := by
  have hplace (count : ℕ) : (⟨(dateOf baseMs).year + ((dateOf baseMs).month - 1 + count) / 12,
      ((dateOf baseMs).month - 1 + count) % 12 + 1,
      min (dateOf baseMs).day (daysInMonth
        ((dateOf baseMs).year + ((dateOf baseMs).month - 1 + count) / 12)
        (((dateOf baseMs).month - 1 + count) % 12 + 1))⟩ : CivilDate) =
      inMonth ((dateOf baseMs).monthIndex + count)
        (min (dateOf baseMs).day (monthLength ((dateOf baseMs).monthIndex + count))) := by
    have hyear : ((dateOf baseMs).monthIndex + count) / 12 =
        (dateOf baseMs).year + ((dateOf baseMs).month - 1 + count) / 12 := by
      unfold monthIndex
      omega
    have hmonth : ((dateOf baseMs).monthIndex + count) % 12 =
        ((dateOf baseMs).month - 1 + count) % 12 := by
      unfold monthIndex
      omega
    rw [inMonth, monthLength, hyear, hmonth]
  cases unit with
  | daily | weekly => cases h
  | monthly =>
    obtain rfl : 1 = months := Option.some.inj h
    rw [one_mul, ← hplace]
    rfl
  | yearly =>
    obtain rfl : 12 = months := Option.some.inj h
    rw [← hplace]
    rfl

theorem nextOccurrence_days {unit : RecurrenceUnit} {n : ℕ} (h : unit.days = some n)
    (baseMs : UnixMs) (interval : ℕ+) :
    nextOccurrence baseMs unit interval = baseMs + n * interval * dayMs := by
  cases unit with
  | daily =>
    obtain rfl : 1 = n := Option.some.inj h
    rw [one_mul]
    rfl
  | weekly =>
    obtain rfl : 7 = n := Option.some.inj h
    rw [mul_comm 7]
    rfl
  | monthly | yearly => cases h

theorem days_or_months (unit : RecurrenceUnit) :
    (∃ n, 0 < n ∧ unit.days = some n ∧ unit.months = none) ∨
      ∃ n, 0 < n ∧ unit.months = some n ∧ unit.days = none := by
  cases unit with
  | daily => exact .inl ⟨1, by decide, rfl, rfl⟩
  | weekly => exact .inl ⟨7, by decide, rfl, rfl⟩
  | monthly => exact .inr ⟨1, by decide, rfl, rfl⟩
  | yearly => exact .inr ⟨12, by decide, rfl, rfl⟩

/-- STEP: the step of the code is the step of the calendar. -/
theorem steps_nextOccurrence (baseMs : UnixMs) (unit : RecurrenceUnit) (interval : ℕ+) :
    Recurs unit interval baseMs (nextOccurrence baseMs unit interval) := by
  have hinterval := interval.pos
  rcases days_or_months unit with ⟨n, hn, hdays, hmonths⟩ | ⟨n, hn, hmonths, hdays⟩
  · rw [nextOccurrence_days hdays]
    have hpos : 0 < n * (interval : ℕ) := Nat.mul_pos hn hinterval
    exact
      { later := Nat.lt_add_of_pos_right (Nat.mul_pos hpos dayMs_pos)
        timeOfDay := Nat.add_mul_mod_self_right _ _ _
        day := fun m hm => by
          obtain rfl : m = n := by simpa [hdays, eq_comm] using hm
          exact Nat.add_mul_div_right _ _ dayMs_pos
        month := fun m hm => by simp [hmonths] at hm
        dayOfMonth := fun h => absurd hmonths h }
  · rw [nextOccurrence_months hmonths]
    obtain ⟨hepoch, hpos, hle, hplace⟩ := dateOf_eq baseMs
    have hrest : baseMs % dayMs < dayMs := Nat.mod_lt _ dayMs_pos
    have hlength := monthLength_pos ((dateOf baseMs).monthIndex + n * interval)
    have hmonth : 0 < n * (interval : ℕ) := Nat.mul_pos hn hinterval
    have hdate := @dateOf_inMonth _ (min (dateOf baseMs).day
        (monthLength ((dateOf baseMs).monthIndex + n * interval))) _
      (hepoch.trans (Nat.le_add_right _ (n * interval))) (le_min hpos (by omega))
      (min_le_right _ _) hrest
    have hlater : baseMs / dayMs < (inMonth ((dateOf baseMs).monthIndex + n * interval)
        (min (dateOf baseMs).day
          (monthLength ((dateOf baseMs).monthIndex + n * interval)))).days :=
      hplace ▸ days_lt hepoch hpos hle (Nat.lt_add_of_pos_right hmonth)
    exact
      { later := (Nat.div_lt_iff_lt_mul dayMs_pos).1 hlater |>.trans_le (Nat.le_add_right _ _)
        timeOfDay := by
          rw [Nat.add_mod, Nat.mul_mod_left, Nat.zero_add, Nat.mod_mod, Nat.mod_mod]
        day := fun m hm => by simp [hdays] at hm
        month := fun m hm => by
          obtain rfl : m = n := by simpa [hmonths, eq_comm] using hm
          rw [hdate, monthIndex_inMonth]
        dayOfMonth := fun _ => by
          rw [hdate, monthIndex_inMonth]
          rfl }

/-- A calendar date has one successor: the step is determined by what it is to do. -/
theorem Recurs.unique {baseMs t t' : UnixMs} {unit : RecurrenceUnit} {interval : ℕ+}
    (h : Recurs unit interval baseMs t) (h' : Recurs unit interval baseMs t') : t = t' := by
  have hday : t / dayMs = t' / dayMs := by
    rcases days_or_months unit with ⟨n, _, hdays, _⟩ | ⟨n, _, hmonths, _⟩
    · exact (h.day n hdays).trans (h'.day n hdays).symm
    · have hindex := (h.month n hmonths).trans (h'.month n hmonths).symm
      have hne : unit.months ≠ none := by simp [hmonths]
      have hdayOf : (dateOf t).day = (dateOf t').day := by
        rw [h.dayOfMonth hne, h'.dayOfMonth hne, hindex]
      obtain ⟨-, -, -, hplace⟩ := dateOf_eq t
      obtain ⟨-, -, -, hplace'⟩ := dateOf_eq t'
      rw [← hplace, ← hplace', hindex, hdayOf]
  rw [← Nat.div_add_mod t dayMs, ← Nat.div_add_mod t' dayMs, hday, h.timeOfDay, h'.timeOfDay]

/-- The days of a month are counted up. -/
theorem days_mono (index : ℕ) {day day' : ℕ} (h : day ≤ day') :
    (inMonth index day).days ≤ (inMonth index day').days := by
  have hparts : (inMonth index day).day ≤ (inMonth index day').day := h
  rw [days_eq, days_eq]
  exact Nat.sub_le_sub_right (Nat.add_le_add_left (Nat.sub_le_sub_right hparts 1) _) _

/-- An answer that is computed from exact numbers is a safe integer itself. -/
theorem nextOccurrence_safe {baseMs : UnixMs} {unit : RecurrenceUnit} {interval : ℕ+}
    (hexact : Representable baseMs unit interval) :
    nextOccurrence baseMs unit interval ≤ 9007199254740991 := by
  unfold Representable at hexact
  rcases days_or_months unit with ⟨n, _, _, hmonths⟩ | ⟨n, _, hmonths, _⟩
  · rw [hmonths] at hexact
    exact hexact
  · rw [hmonths] at hexact
    rw [nextOccurrence_months hmonths]
    have hday := Nat.mul_le_mul_right dayMs (days_mono ((dateOf baseMs).monthIndex + n * interval)
      (min_le_right (dateOf baseMs).day
        (monthLength ((dateOf baseMs).monthIndex + n * interval))))
    have hrest : baseMs % dayMs < dayMs := Nat.mod_lt _ dayMs_pos
    have hroom : lastTime + dayMs ≤ 9007199254740991 := by decide
    exact (Nat.add_le_add (hday.trans hexact.2) hrest.le).trans hroom

/-- EXACT: as long as its numbers are exact, `nextOccurrence` answers the one step of the calendar,
    and a safe integer. -/
theorem nextOccurrence_exact {baseMs : UnixMs} {unit : RecurrenceUnit} {interval : ℕ+}
    (hexact : Representable baseMs unit interval) (t : UnixMs) :
    (nextOccurrence baseMs unit interval = t ↔ Recurs unit interval baseMs t) ∧
      nextOccurrence baseMs unit interval ≤ 9007199254740991 := by
  refine ⟨⟨?_, (steps_nextOccurrence baseMs unit interval).unique⟩, nextOccurrence_safe hexact⟩
  rintro rfl
  exact steps_nextOccurrence baseMs unit interval

/-- From the last of January a month leads to the last of February. -/
theorem nextOccurrence_exact_leapYear : Recurs .monthly 1 1706659200000 1709164800000 :=
  (nextOccurrence_exact (by decide +kernel) 1709164800000).1.1 (by decide +kernel)

/-! ### A whole series -/

/-- `materializeNextInstance`, for a series anchored to its due date and as long as that is a number.
    The completion has an id of its own and a time. -/
def nextDue? (unit : RecurrenceUnit) (completed : Task) (completion : UuidV7 × UnixMs) :
    Option Task :=
  if completed.recurrenceAnchor = .due ∧
      ∀ due ∈ completed.dueAt, Representable due unit completed.recurrenceInterval then
    some (nextInstance completion.1 completed unit completion.2)
  else none

/-- The date after `n` steps of a number of months: the months count on, and the day is the least
    that all of them have had. -/
def dateAfter (d : CivilDate) (months : ℕ) : ℕ → CivilDate
  | 0 => d
  | n + 1 => inMonth (d.monthIndex + (n + 1) * months)
      (min (dateAfter d months n).day (monthLength (d.monthIndex + (n + 1) * months)))

/-- The due date of the `n`-th instance after the one that is due at `base`. -/
structure DueAfter (unit : RecurrenceUnit) (interval : ℕ+) (base : UnixMs) (n : ℕ) (t : UnixMs) :
    Prop where
  notBefore : base + n ≤ t
  timeOfDay : t % dayMs = base % dayMs
  day : ∀ k ∈ unit.days, t / dayMs = base / dayMs + n * (k * interval)
  date : ∀ k ∈ unit.months, dateOf t = dateAfter (dateOf base) (k * interval) n

namespace DueAfter

variable {unit : RecurrenceUnit} {interval : ℕ+} {base t t' : UnixMs} {n : ℕ}

theorem zero (unit : RecurrenceUnit) (interval : ℕ+) (base : UnixMs) :
    DueAfter unit interval base 0 base where
  notBefore := le_rfl
  timeOfDay := rfl
  day _ _ := by simp
  date _ _ := rfl

theorem monthIndex_dateAfter (d : CivilDate) (months n : ℕ) :
    (dateAfter d months n).monthIndex = d.monthIndex + n * months := by
  cases n with
  | zero => simp [dateAfter]
  | succ n => rw [dateAfter, monthIndex_inMonth]

/-- STEP: one more completion is one more step. -/
theorem succ (h : DueAfter unit interval base n t) (hstep : Recurs unit interval t t') :
    DueAfter unit interval base (n + 1) t' where
  notBefore := (Nat.succ_le_succ h.notBefore).trans hstep.later
  timeOfDay := hstep.timeOfDay.trans h.timeOfDay
  day k hk := by
    rw [hstep.day k hk, h.day k hk]
    ring
  date k hk := by
    have hindex := hstep.month k hk
    have hne : unit.months ≠ none := Option.ne_none_iff_exists'.2 ⟨k, hk⟩
    have hday := hstep.dayOfMonth hne
    rw [h.date k hk, monthIndex_dateAfter, add_assoc, ← Nat.succ_mul] at hindex
    rw [h.date k hk, hindex] at hday
    rw [dateOf_eq_inMonth t', hindex, hday]
    rfl

end DueAfter

/-- The next instance steps from the due date of the one completed, not from its completion. -/
theorem nextDue?_dueAt {unit : RecurrenceUnit} {completed next : Task} {completion : UuidV7 × UnixMs}
    {due : UnixMs} (h : nextDue? unit completed completion = some next)
    (hdue : completed.dueAt = some due) :
    next.recurrenceAnchor = .due ∧ next.recurrenceInterval = completed.recurrenceInterval ∧
      ∃ t, next.dueAt = some t ∧ Recurs unit completed.recurrenceInterval due t := by
  unfold nextDue? at h
  split_ifs at h with hready
  obtain rfl := Option.some.inj h
  refine ⟨hready.1, rfl, nextOccurrence due unit completed.recurrenceInterval, ?_,
    steps_nextOccurrence _ _ _⟩
  simp [nextInstance, planNextRecurrence, hready.1, hdue]

/-- RUN: however late or early the instances of a series are completed, the last one is due as many
    steps after the first as there were completions. -/
theorem dueAt_series {unit : RecurrenceUnit} {task last : Task} {base : UnixMs}
    {completions : List (UuidV7 × UnixMs)} (hdue : task.dueAt = some base)
    (h : completions.foldlM (nextDue? unit) task = some last) :
    ∃ t, last.dueAt = some t ∧
      DueAfter unit task.recurrenceInterval base completions.length t := by
  suffices hrun : ∀ (n : ℕ) (task : Task) (due : UnixMs), task.dueAt = some due →
      ∀ interval, task.recurrenceInterval = interval → DueAfter unit interval base n due →
      completions.foldlM (nextDue? unit) task = some last →
      ∃ t, last.dueAt = some t ∧ DueAfter unit interval base (n + completions.length) t by
    simpa using hrun 0 task base hdue _ rfl (.zero _ _ _) h
  clear h hdue
  induction completions with
  | nil =>
    rintro n task due hdue interval - hafter h
    obtain rfl : task = last := by simpa using h
    exact ⟨due, hdue, hafter⟩
  | cons completion completions ih =>
    rintro n task due hdue interval rfl hafter h
    rw [List.foldlM_cons] at h
    obtain ⟨next, hnext, h⟩ := Option.bind_eq_some_iff.1 h
    obtain ⟨-, hinterval, t, ht, hstep⟩ := nextDue?_dueAt hnext hdue
    obtain ⟨t', ht', hafter'⟩ := ih (n + 1) next t ht _ hinterval (hafter.succ hstep) h
    refine ⟨t', ht', ?_⟩
    rw [List.length_cons, Nat.add_comm completions.length, ← Nat.add_assoc]
    exact hafter'

/-- A monthly task that is due on the last of January. -/
def monthlyTask : Task :=
  { plainTask with dueAt := some 1706659200000, recurrence := some .monthly, recurrenceAnchor := .due }

theorem dueAt_series_leapYear :
    ∃ last, [(2, 1706659200001), (3, 1)].foldlM (nextDue? .monthly) monthlyTask = some last ∧
      ∃ t, last.dueAt = some t ∧ DueAfter .monthly 1 1706659200000 2 t ∧
        dateOf t = ⟨2024, 3, 29⟩ := by
  have hsome : ([(2, 1706659200001), (3, 1)].foldlM (nextDue? .monthly) monthlyTask).isSome := by
    decide +kernel
  obtain ⟨last, hlast⟩ := Option.isSome_iff_exists.1 hsome
  obtain ⟨t, ht, hafter⟩ := @dueAt_series .monthly monthlyTask last 1706659200000 _ rfl hlast
  exact ⟨last, hlast, t, ht, hafter, (hafter.date 1 rfl).trans (by decide +kernel)⟩

end Tasq
