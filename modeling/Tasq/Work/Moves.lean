import Mathlib.Tactic
import Tasq.TaskHierarchy
import Tasq.Work.Rows

/-! What a call can do to the tasks of a workspace and to the claims, attempts and waits that are
    open on them.

    Every call is a path of a few kinds of move. A move names what the results about runs ask of the
    call that makes it; `Takes` says when the move is there to make and what it changes. -/

namespace Tasq

open Outcome

/-- The tasks of a workspace, with what is open on them. -/
structure OpenRows where
  tasks : Table UuidV7 Task
  claims : Table UuidV7 TaskClaim
  attempts : Table UuidV7 TaskAttempt
  waits : Table UuidV7 WaitCondition

/-- The rows that a deletion closes, with the tasks. -/
def Ledger.rows (l : Ledger) : OpenRows := ⟨l.tasks, l.claims, l.attempts, l.waits⟩

@[simp] theorem Ledger.rows_tasks (l : Ledger) : l.rows.tasks = l.tasks := rfl

@[simp] theorem Ledger.rows_claims (l : Ledger) : l.rows.claims = l.claims := rfl

@[simp] theorem Ledger.rows_attempts (l : Ledger) : l.rows.attempts = l.attempts := rfl

@[simp] theorem Ledger.rows_waits (l : Ledger) : l.rows.waits = l.waits := rfl

/-! ### Closing what is open -/

/-- The claim stays as it is, or is released. -/
def TaskClaim.Fades (c c' : TaskClaim) : Prop :=
  c' = c ∨ c.releasedAt = none ∧ ∃ t, c' = { c with releasedAt := some t }

/-- The attempt stays as it is, or an active one goes to a status that is admitted. -/
def TaskAttempt.Fades (into : AttemptStatus → Prop) (a a' : TaskAttempt) : Prop :=
  a' = a ∨ a.status.Active ∧ ∃ status, into status ∧ a' = { a with status := status }

/-- The wait stays as it is, or a waiting one goes to a status that is admitted. -/
def WaitCondition.Fades (into : WaitConditionStatus → Prop) (w w' : WaitCondition) : Prop :=
  w' = w ∨ w.status = .waiting ∧ ∃ status, into status ∧ w' = { w with status := status }

theorem TaskClaim.Fades.trans (a b c : TaskClaim) (h : a.Fades b) (h' : b.Fades c) : a.Fades c := by
  rcases h with rfl | ⟨hopen, t, rfl⟩
  · exact h'
  · rcases h' with rfl | ⟨hreleased, -⟩
    · exact .inr ⟨hopen, t, rfl⟩
    · simp at hreleased

theorem TaskAttempt.Fades.trans {into : AttemptStatus → Prop} (a b c : TaskAttempt)
    (h : a.Fades into b) (h' : b.Fades into c) : a.Fades into c := by
  rcases h with rfl | ⟨hactive, status, hstatus, rfl⟩
  · exact h'
  · rcases h' with rfl | ⟨-, status', hstatus', rfl⟩
    · exact .inr ⟨hactive, status, hstatus, rfl⟩
    · exact .inr ⟨hactive, status', hstatus', rfl⟩

theorem WaitCondition.Fades.trans {into : WaitConditionStatus → Prop} (a b c : WaitCondition)
    (h : a.Fades into b) (h' : b.Fades into c) : a.Fades into c := by
  rcases h with rfl | ⟨hwaiting, status, hstatus, rfl⟩
  · exact h'
  · rcases h' with rfl | ⟨-, status', hstatus', rfl⟩
    · exact .inr ⟨hwaiting, status, hstatus, rfl⟩
    · exact .inr ⟨hwaiting, status', hstatus', rfl⟩

/-- The claims, attempts and waits of `r'` are those of `r`, some of them closed. -/
structure Closes (attempt : AttemptStatus → Prop) (wait : WaitConditionStatus → Prop)
    (r r' : OpenRows) : Prop where
  claims : Table.Revised TaskClaim.Fades r.claims r'.claims
  attempts : Table.Revised (TaskAttempt.Fades attempt) r.attempts r'.attempts
  waits : Table.Revised (WaitCondition.Fades wait) r.waits r'.waits

/-- Attempts may go on between active statuses or end, waits may end. -/
abbrev Lapses : OpenRows → OpenRows → Prop := Closes (fun _ => True) (· ≠ .waiting)

/-- Attempts and waits may be cancelled. -/
abbrev Cancels : OpenRows → OpenRows → Prop := Closes (· = .cancelled) (· = .cancelled)

section

variable {attempt : AttemptStatus → Prop} {wait : WaitConditionStatus → Prop} {a b c : OpenRows}

theorem Closes.of_eq (hclaims : b.claims = a.claims) (hattempts : b.attempts = a.attempts)
    (hwaits : b.waits = a.waits) : Closes attempt wait a b where
  claims := hclaims ▸ .refl (fun _ => .inl rfl) _
  attempts := hattempts ▸ .refl (fun _ => .inl rfl) _
  waits := hwaits ▸ .refl (fun _ => .inl rfl) _

theorem Closes.refl (a : OpenRows) : Closes attempt wait a a := .of_eq rfl rfl rfl

theorem Closes.trans (h : Closes attempt wait a b) (h' : Closes attempt wait b c) :
    Closes attempt wait a c where
  claims := h.claims.trans TaskClaim.Fades.trans h'.claims
  attempts := h.attempts.trans TaskAttempt.Fades.trans h'.attempts
  waits := h.waits.trans WaitCondition.Fades.trans h'.waits

theorem Cancels.lapses (h : Cancels a b) : Lapses a b where
  claims := h.claims
  attempts := h.attempts.mono fun _ _ => .imp_right fun ⟨hactive, status, _, heq⟩ =>
    ⟨hactive, status, trivial, heq⟩
  waits := h.waits.mono fun _ _ => .imp_right fun ⟨hwaiting, status, hstatus, heq⟩ =>
    ⟨hwaiting, status, hstatus ▸ by simp, heq⟩

end

/-! ### Moves -/

/-- What a move does, with what the results about runs ask of the call that makes it. -/
inductive Move where
  /-- A new task, at the root or where there is room below a live one. -/
  | created
  /-- The next instance of a recurring task that was deleted at this time. -/
  | spawned (deletedAt : Option UnixMs)
  /-- A change that leaves the status, or moves it between statuses that are not terminal. -/
  | revised
  | transitioned (before status : TaskStatus)
  | deleted
  /-- A restore of a task without parent. -/
  | revived
  | restored (id : UuidV7)
  | erased
  | installed (row : Task)
  /-- Claims, attempts and waits close. -/
  | closed
  /-- A claim of a task that was deleted at this time. -/
  | acquired (deletedAt : Option UnixMs)
  | started (taskId : UuidV7)
  | waited
  deriving DecidableEq

namespace OpenRows

variable (r r' : OpenRows)

/-- There is room for a task under `parent`. -/
def Room (parent : Option UuidV7) : Prop :=
  ∀ p ∈ parent, LiveIn r.tasks p ∧ ∃ d, DepthIn r.tasks p d ∧ d + 1 ≤ maxTaskDepth

/-- The task can be put under `parent` with what is below it. -/
def Rehangs (id : UuidV7) (parent : Option UuidV7) : Prop :=
  ∀ p ∈ parent, LiveIn r.tasks p ∧ (∀ j, ¬ BelowIn r.tasks id p j) ∧
    ∃ d, DepthIn r.tasks p d ∧ ∀ k j, BelowIn r.tasks id k j → d + j ≤ maxTaskDepth

/-- A new task that is open. -/
structure Fresh (id : UuidV7) (row : Task) : Prop where
  absent : id ∉ r.tasks
  open_status : row.status = .open
  not_completed : row.completedAt = none
  not_deleted : row.deletedAt = none

/-- Nothing is open on the task. -/
structure Idle (id : UuidV7) : Prop where
  claims : ∀ (k : UuidV7) c, r.claims[k]? = some c → c.taskId = id → c.releasedAt ≠ none
  attempts : ∀ (k : UuidV7) a, r.attempts[k]? = some a → a.taskId = id → ¬ a.status.Active
  waits : ∀ (k : UuidV7) w, r.waits[k]? = some w → w.taskId = id → w.status ≠ .waiting

/-- No claim, attempt or wait names the task, and no task that stays has it as its parent. -/
structure Unnamed (ids : List UuidV7) : Prop where
  tasks : ∀ (k : UuidV7) row, r.tasks[k]? = some row → k ∉ ids → ∀ p ∈ row.parentTaskId,
    p ∈ r.tasks → p ∉ ids
  claims : ∀ (k : UuidV7) c, r.claims[k]? = some c → c.taskId ∈ r.tasks → c.taskId ∉ ids
  attempts : ∀ (k : UuidV7) a, r.attempts[k]? = some a → a.taskId ∈ r.tasks → a.taskId ∉ ids
  waits : ∀ (k : UuidV7) w, r.waits[k]? = some w → w.taskId ∈ r.tasks → w.taskId ∉ ids

/-- What a transition makes of the row of its task. -/
structure Transitions (before after : Task) : Prop where
  deletedAt : after.deletedAt = before.deletedAt
  parent : after.parentTaskId = before.parentTaskId
  edge : after.status ∈ before.status.next
  completedAt : after.completedAt.isSome ↔
    after.status = .done ∨ before.completedAt.isSome ∧
      ¬ (after.status = .open ∧ before.status = .done)

/-- The same tasks apart from one row. -/
def WithTask (id : UuidV7) (row : Task) : OpenRows := { r with tasks := r.tasks.insert id row }

/-- The move leads from `r` to `r'`. -/
def Takes : Move → Prop
  | .created => ∃ (id : UuidV7) (row : Task), r.Fresh id row ∧ r.Room row.parentTaskId ∧
      r' = r.WithTask id row
  | .spawned deletedAt => ∃ (source id : UuidV7) (src row : Task),
      r.tasks[source]? = some src ∧ src.deletedAt = deletedAt ∧ r.Fresh id row ∧
      row.parentTaskId = src.parentTaskId ∧
      r' = r.WithTask id row
  | .revised => ∃ (id : UuidV7) (before after : Task), r.tasks[id]? = some before ∧
      after.deletedAt = before.deletedAt ∧ after.completedAt = before.completedAt ∧
      (after.status = before.status ∨
        ¬ Ledger.Terminal before.status ∧ ¬ Ledger.Terminal after.status) ∧
      (after.parentTaskId = before.parentTaskId ∨ r.Rehangs id after.parentTaskId) ∧
      r' = r.WithTask id after
  | .transitioned beforeStatus status => ∃ (id : UuidV7) (before after : Task),
      r.tasks[id]? = some before ∧ before.status = beforeStatus ∧ after.status = status ∧
      Transitions before after ∧ r'.tasks = r.tasks.insert id after ∧ Lapses r r' ∧
      (Ledger.Terminal status → r'.Idle id)
  | .deleted => ∃ (id : UuidV7) (before after : Task), r.tasks[id]? = some before ∧
      after.deletedAt ≠ none ∧ after.status = before.status ∧
      after.completedAt = before.completedAt ∧
      after.parentTaskId = before.parentTaskId ∧ r.Idle id ∧
      (∀ (k : UuidV7) row, r.tasks[k]? = some row → row.parentTaskId = some id →
        row.deletedAt ≠ none) ∧ r' = r.WithTask id after
  | .revived => ∃ (id : UuidV7) (before after : Task), r.tasks[id]? = some before ∧
      before.parentTaskId = none ∧ before.deletedAt ≠ none ∧
      after = { before with
        deletedAt := none, updatedAt := after.updatedAt, revision := after.revision } ∧
      r' = r.WithTask id after
  | .restored id => ∃ before after : Task, r.tasks[id]? = some before ∧ before.deletedAt ≠ none ∧
      after = { before with
        deletedAt := none, updatedAt := after.updatedAt, revision := after.revision } ∧
      r' = r.WithTask id after
  | .erased => ∃ ids : List UuidV7, r.Unnamed ids ∧
      r' = { r with tasks := r.tasks.filter fun id _ => id ∉ ids }
  | .installed row => ∃ id, id ∉ r.tasks ∧ row.parentTaskId = none ∧ r' = r.WithTask id row
  | .closed => r'.tasks = r.tasks ∧ Lapses r r'
  | .acquired deletedAt => ∃ (id : UuidV7) (c : TaskClaim) (row : Task), id ∉ r.claims ∧
      c.releasedAt = none ∧ r.tasks[c.taskId]? = some row ∧ row.deletedAt = deletedAt ∧
      ¬ Ledger.Terminal row.status ∧ r' = { r with claims := r.claims.insert id c }
  | .started taskId => ∃ (id : UuidV7) (a : TaskAttempt) (row : Task), id ∉ r.attempts ∧
      a.taskId = taskId ∧ r.tasks[a.taskId]? = some row ∧ ¬ row.Closed ∧
      r' = { r with attempts := r.attempts.insert id a }
  | .waited => ∃ (id : UuidV7) (w : WaitCondition) (row : Task), id ∉ r.waits ∧
      r.tasks[w.taskId]? = some row ∧ ¬ row.Closed ∧
      r' = { r with waits := r.waits.insert id w }

/-- Moves that `P` admits lead from `r` to `r'`. -/
def Path (P : Move → Prop) : OpenRows → OpenRows → Prop :=
  Relation.ReflTransGen fun a b => ∃ m, P m ∧ a.Takes b m

end OpenRows

section

variable {P Q : Move → Prop} {a b c : OpenRows}

theorem OpenRows.Path.refl (a : OpenRows) : OpenRows.Path P a a := Relation.ReflTransGen.refl

theorem OpenRows.Path.of_eq (h : b = a) : OpenRows.Path P a b := by
  rw [h]
  exact .refl a

theorem OpenRows.Path.one {m : Move} (hm : P m) (h : a.Takes b m) : OpenRows.Path P a b :=
  .single ⟨m, hm, h⟩

theorem OpenRows.Path.append (h : OpenRows.Path P a b) (h' : OpenRows.Path P b c) :
    OpenRows.Path P a c :=
  Relation.ReflTransGen.trans h h'

theorem OpenRows.Path.mono (hPQ : ∀ m, P m → Q m) (h : OpenRows.Path P a b) :
    OpenRows.Path Q a b :=
  Relation.ReflTransGen.mono (fun _ _ ⟨m, hm, htakes⟩ => ⟨m, hPQ m hm, htakes⟩) _ _ h

/-- PATH RULE: what every admitted move preserves, the path preserves. -/
theorem OpenRows.Path.invariant {I : OpenRows → Prop} (h : OpenRows.Path P a b)
    (hmove : ∀ r r' m, P m → r.Takes r' m → I r → I r') (ha : I a) : I b := by
  induction h with
  | refl => exact ha
  | tail _ htakes ih =>
    obtain ⟨m, hm, htakes⟩ := htakes
    exact hmove _ _ m hm htakes ih

end

end Tasq
