import Mathlib.Tactic
import Tasq.Tasks

/-! The next instance of a recurring task: one calendar step in UTC from the anchor that the task
    names, with the streak carried on. -/

namespace Tasq

/-- Milliseconds of a day. -/
def dayMs : ℕ := 24 * 60 * 60 * 1000

/-- A date of the proleptic Gregorian calendar. -/
structure CivilDate where
  year : ℕ
  month : ℕ
  day : ℕ
  deriving DecidableEq

/-- The date of a day since the epoch. Years begin in March and are counted in eras of 400. -/
def CivilDate.ofDays (days : ℕ) : CivilDate :=
  let z := days + 719468
  let dayOfEra := z % 146097
  let yearOfEra := (dayOfEra - dayOfEra / 1460 + dayOfEra / 36524 - dayOfEra / 146096) / 365
  let dayOfYear := dayOfEra - (365 * yearOfEra + yearOfEra / 4 - yearOfEra / 100)
  let shifted := (5 * dayOfYear + 2) / 153
  let month := if shifted < 10 then shifted + 3 else shifted - 9
  { year := yearOfEra + z / 146097 * 400 + (if month ≤ 2 then 1 else 0)
    month := month
    day := dayOfYear - (153 * shifted + 2) / 5 + 1 }

/-- The day since the epoch of a date. -/
def CivilDate.days (d : CivilDate) : ℕ :=
  let year := if d.month ≤ 2 then d.year - 1 else d.year
  let yearOfEra := year % 400
  let shifted := if 2 < d.month then d.month - 3 else d.month + 9
  let dayOfYear := (153 * shifted + 2) / 5 + (d.day - 1)
  let dayOfEra := yearOfEra * 365 + yearOfEra / 4 - yearOfEra / 100 + dayOfYear
  year / 400 * 146097 + dayOfEra - 719468

/-- How many days a month has. -/
def daysInMonth (year month : ℕ) : ℕ :=
  if month = 2 then
    if year % 4 = 0 ∧ (year % 100 ≠ 0 ∨ year % 400 = 0) then 29 else 28
  else if month = 4 ∨ month = 6 ∨ month = 9 ∨ month = 11 then 30
  else 31

/-- `nextOccurrence` -/
def nextOccurrence (baseMs : UnixMs) (unit : RecurrenceUnit) (interval : ℕ+) : UnixMs :=
  let date := CivilDate.ofDays (baseMs / dayMs)
  -- The day is clamped to the month that the step leads to.
  let stepped (months : ℕ) : UnixMs :=
    let count := date.month - 1 + months
    let year := date.year + count / 12
    let month := count % 12 + 1
    (⟨year, month, min date.day (daysInMonth year month)⟩ : CivilDate).days * dayMs + baseMs % dayMs
  match unit with
  | .daily => baseMs + interval * dayMs
  | .weekly => baseMs + interval * 7 * dayMs
  | .monthly => stepped interval
  | .yearly => stepped (12 * interval)

/-- `NextRecurrencePlan`, apart from what it copies. -/
structure NextRecurrencePlan where
  nextDueAt : Option UnixMs
  nextScheduledAt : Option UnixMs
  chainRootId : UuidV7
  streak : ℕ
  deriving DecidableEq

/-- `planNextRecurrence` -/
def planNextRecurrence (id : UuidV7) (completed : Task) (unit : RecurrenceUnit) (now : UnixMs) :
    NextRecurrencePlan :=
  let interval := completed.recurrenceInterval
  let anchor := completed.recurrenceAnchor
  let anchorBase :=
    match anchor with
    | .scheduled => completed.scheduledAt.getD now
    | .completion => now
    | .due => completed.dueAt.getD now
  let nextAt := nextOccurrence anchorBase unit interval
  let step (base : UnixMs) : UnixMs :=
    if anchor = .completion then nextAt else nextOccurrence base unit interval
  let unanchored := completed.dueAt = none ∧ completed.scheduledAt = none
  let expectedAt :=
    match anchor with
    | .due => completed.dueAt
    | .scheduled => completed.scheduledAt
    | .completion => none
  { nextDueAt := if unanchored ∧ anchor ≠ .scheduled then some nextAt else completed.dueAt.map step
    nextScheduledAt :=
      if unanchored ∧ anchor = .scheduled then some nextAt else completed.scheduledAt.map step
    chainRootId := completed.recurrenceParentId.getD id
    streak :=
      if ∃ t ∈ expectedAt, nextOccurrence t unit interval ≤ now then 1 else completed.streak + 1 }

/-- The row that `materializeNextInstance` inserts. -/
def nextInstance (id : UuidV7) (completed : Task) (unit : RecurrenceUnit) (now : UnixMs) : Task :=
  let plan := planNextRecurrence id completed unit now
  { completed with
    status := .open
    scheduledAt := plan.nextScheduledAt
    dueAt := plan.nextDueAt
    startedAt := none
    completedAt := none
    lastDoneAt := some now
    streak := plan.streak
    recurrenceParentId := some plan.chainRootId
    revision := 1
    createdAt := now
    updatedAt := now
    deletedAt := none }

/-- A monthly step from the last of January clamps to the last of February. -/
example : nextOccurrence 1706659200000 .monthly ⟨1, by decide⟩ = 1709164800000 := by decide

end Tasq
