import Mathlib.Tactic
import Tasq.Lib.Table
import Tasq.Runtime

/-! The work ledger of one workspace: the task rows, the rows that a deletion closes (claims,
    attempts, wait conditions), the principals, and what the foreign keys of other tables name.

    The id of a row is its key. `insertTask` and `deleteTasks` carry the constraints and triggers
    of the database; `recordEvent` carries the attribution of an event, whose row nothing here
    reads. -/

namespace Tasq

open Text Outcome

/-- A row of `task`. -/
structure Task extends CommitmentFields, EngineFields where
  projectId : Option UuidV7
  goalId : Option UuidV7
  areaId : Option UuidV7
  parentTaskId : Option UuidV7
  validationRequired : Bool
  revision : ℕ
  createdAt : UnixMs
  updatedAt : UnixMs
  deletedAt : Option UnixMs
  deriving DecidableEq

/-- A row of `task_claim`. -/
structure TaskClaim where
  taskId : UuidV7
  acquiredAt : UnixMs
  createdAt : UnixMs
  releasedAt : Option UnixMs
  deriving DecidableEq

inductive AttemptStatus where
  | running | inputRequired | succeeded | failed | cancelled
  deriving DecidableEq, Repr

/-- A row of `task_attempt`. -/
structure TaskAttempt where
  taskId : UuidV7
  status : AttemptStatus
  startedAt : UnixMs
  deriving DecidableEq

inductive WaitConditionStatus where
  | waiting | satisfied | expired | cancelled
  deriving DecidableEq, Repr

/-- A row of `wait_condition`. -/
structure WaitCondition where
  taskId : UuidV7
  status : WaitConditionStatus
  createdAt : UnixMs
  deriving DecidableEq

/-- A row of `principal`. -/
structure Principal where
  id : String
  localAlias : Option String
  enabled : Bool
  deriving DecidableEq

/-- The rows of one workspace. -/
structure Ledger where
  workspaceId : String
  tasks : Table UuidV7 Task
  claims : Table UuidV7 TaskClaim
  attempts : Table UuidV7 TaskAttempt
  waits : Table UuidV7 WaitCondition
  principals : List Principal
  /-- Task ids that rows of other tables name under a foreign key. -/
  references : List UuidV7
  /-- Task ids of the other workspaces of the store. -/
  otherTaskIds : List UuidV7

namespace Ledger

variable (rt : Runtime) (l : Ledger)

/-- `getTask`: the row, as the `Task` schema admits it. -/
def getTask (id : UuidV7) : Call (Option Task) :=
  match l.tasks[id]? with
  | none => pure none
  | some row => do
    refuse (¬ CriteriaBounded row.successCriteria) (.invalid "Task")
    pure (some row)

/-- The ids of the live rows that name `id` as their parent. -/
def liveSubtaskIds (id : UuidV7) : List UuidV7 :=
  Table.keysWhere l.tasks fun _ row => row.parentTaskId = some id && row.deletedAt.isNone

/-! ### Constraints of the database -/

/-- A foreign key that names `id` is satisfied. -/
def HasTask (id : UuidV7) : Prop := id ∈ l.tasks ∨ id ∈ l.otherTaskIds

instance (id : UuidV7) : Decidable (l.HasTask id) := by unfold HasTask; infer_instance

/-- A task in evidence mode states its success criteria. -/
def EvidenceStated (mode : CompletionMode) (criteria : Option String) : Prop :=
  mode = .evidence → ∃ s ∈ criteria, sqlTrim s ≠ ""

instance (mode : CompletionMode) (criteria : Option String) :
    Decidable (EvidenceStated mode criteria) := by
  unfold EvidenceStated; infer_instance

/-- `INSERT INTO task`: the primary key, the evidence trigger and the foreign keys. -/
def insertTask (id : UuidV7) (row : Task) : Call Ledger := do
  refuse (¬ EvidenceStated row.completionMode row.successCriteria)
    (.constraint "evidence completion mode requires success criteria")
  refuse (l.HasTask id) (.constraint "UNIQUE task.id")
  refuse (∃ p ∈ row.parentTaskId, p ≠ id ∧ ¬ l.HasTask p) (.constraint "FOREIGN KEY task.parent_task_id")
  refuse (∃ p ∈ row.recurrenceParentId, p ≠ id ∧ ¬ l.HasTask p)
    (.constraint "FOREIGN KEY task.recurrence_parent_id")
  pure { l with tasks := l.tasks.insert id row }

/-- Some row that stays names one of the deleted tasks. -/
def referenced (deleted : List UuidV7) : Bool :=
  Table.has l.tasks (fun id row => id ∉ deleted &&
      (row.parentTaskId.any (· ∈ deleted) || row.recurrenceParentId.any (· ∈ deleted))) ||
    Table.has l.claims (fun _ c => c.taskId ∈ deleted) ||
    Table.has l.attempts (fun _ a => a.taskId ∈ deleted) ||
    Table.has l.waits (fun _ w => w.taskId ∈ deleted) ||
    l.references.any (· ∈ deleted)

/-- `DELETE FROM task WHERE id IN (...)`: refused when a row that stays names a deleted one. -/
def deleteTasks (ids : List UuidV7) : Call Ledger := do
  refuse (l.referenced (ids.filter (· ∈ l.tasks))) (.constraint "FOREIGN KEY task.id")
  pure { l with tasks := l.tasks.filter fun id _ => id ∉ ids }

/-! ### Attribution -/

/-- `ensureLocalPrincipal` -/
def ensureLocalPrincipal (actor : String) : Call Ledger := do
  refuse (Blank actor) (.error "actor alias must not be blank")
  match l.principals.find? (·.localAlias = some actor) with
  | some p => do
    refuse (p.enabled = false) (.error s!"Principal is disabled: {p.id}")
    pure l
  | none => do
    let id := localPrincipalId rt l.workspaceId actor
    refuse (∃ p ∈ l.principals, p.id = id)
      (.error s!"Failed to resolve local principal for {actor}")
    refuse (200 < utf16Length actor) (.invalid "Principal")
    pure { l with principals := l.principals ++ [⟨id, some actor, true⟩] }

/-- `recordEvent`: the attribution of an event to a named principal or to the local actor. -/
def recordEvent (actor : String) (principalId : Option String) : Call Ledger := do
  refuse (actor = "" ∨ principalId = some "") (.invalid "EventInsert")
  match principalId with
  | none => l.ensureLocalPrincipal rt actor
  | some id =>
    match l.principals.find? (·.id = id) with
    | none => .error (.error s!"Principal not found in workspace: {id}")
    | some p => do
      refuse (p.enabled = false) (.error s!"Principal is disabled: {p.id}")
      pure l

/-! ### Frames -/

/-- Only the principals may differ. -/
def SameWork (l l' : Ledger) : Prop := l' = { l with principals := l'.principals }

variable {l}

theorem SameWork.tasks {l' : Ledger} (h : SameWork l l') : l'.tasks = l.tasks := by rw [h]

variable {rt}

/-- Attribution touches the principals alone. -/
theorem ensureLocalPrincipal_sameWork {actor : String} {l' : Ledger}
    (h : l.ensureLocalPrincipal rt actor = .ok l') : SameWork l l' := by
  simp only [ensureLocalPrincipal, bind_eq_ok, refuse_eq_ok] at h
  obtain ⟨-, -, h⟩ := h
  split at h
  · simp only [bind_eq_ok, refuse_eq_ok, pure_eq_ok] at h
    obtain ⟨-, -, rfl⟩ := h
    rfl
  · simp only [bind_eq_ok, refuse_eq_ok, pure_eq_ok] at h
    obtain ⟨-, -, -, -, rfl⟩ := h
    rfl

theorem recordEvent_sameWork {actor : String} {principalId : Option String} {l' : Ledger}
    (h : l.recordEvent rt actor principalId = .ok l') : SameWork l l' := by
  simp only [recordEvent, bind_eq_ok, refuse_eq_ok] at h
  obtain ⟨-, -, h⟩ := h
  split at h
  · exact ensureLocalPrincipal_sameWork h
  · split at h
    · cases h
    · simp only [bind_eq_ok, refuse_eq_ok, pure_eq_ok] at h
      obtain ⟨-, -, rfl⟩ := h
      rfl

theorem getTask_eq_ok {id : UuidV7} {o : Option Task} :
    l.getTask id = .ok o ↔ l.tasks[id]? = o ∧ ∀ row ∈ o, CriteriaBounded row.successCriteria := by
  unfold getTask
  split
  · rename_i hrow
    simp only [pure_eq_ok, hrow]
    constructor
    · rintro rfl
      simp
    · exact fun h => h.1
  · rename_i row hrow
    simp only [bind_eq_ok, refuse_eq_ok, pure_eq_ok, hrow, not_not]
    constructor
    · rintro ⟨-, hc, rfl⟩
      simpa using hc
    · rintro ⟨rfl, hc⟩
      exact ⟨(), hc row rfl, rfl⟩

theorem insertTask_eq_ok {id : UuidV7} {row : Task} {l' : Ledger} :
    l.insertTask id row = .ok l' ↔
      EvidenceStated row.completionMode row.successCriteria ∧ ¬ l.HasTask id ∧
        (∀ p ∈ row.parentTaskId, p ≠ id → l.HasTask p) ∧
        (∀ p ∈ row.recurrenceParentId, p ≠ id → l.HasTask p) ∧
        { l with tasks := l.tasks.insert id row } = l' := by
  simp only [insertTask, bind_eq_ok, refuse_eq_ok, pure_eq_ok, exists_const, not_not, not_exists,
    not_and]

/-- Reading a row back right after it was written and its event recorded. -/
theorem recordEvent_readBack {actor : String} {principalId : Option String} {id : UuidV7}
    {row : Task} (hrow : l.tasks[id]? = some row) (hc : CriteriaBounded row.successCriteria)
    {l' : Ledger} (h : l.recordEvent rt actor principalId = .ok l') :
    l'.getTask id = .ok (some row) := by
  rw [getTask_eq_ok, (recordEvent_sameWork h).tasks, hrow]
  exact ⟨rfl, by simpa using hc⟩

end Ledger

end Tasq
