import Mathlib.Tactic
import Tasq.Lib.Pages
import Tasq.Work.TaskCalls

/-! The commitment facade over the task service: what a caller may create and update of a
    commitment, and what the reads report of it.

    An update under a parent takes the scope that the flat policy resolves, which is none; and the
    parent that an update names is parsed and not passed on. -/

namespace Tasq

open Text Outcome Limit

/-- `z.string().uuid()`: a UUID of version 7, or another one. -/
inductive Uuid where
  | v7 (id : UuidV7)
  | other (text : String)
  deriving DecidableEq

/-- `Commitment` -/
structure Commitment where
  id : UuidV7
  workspaceId : String
  title : Title
  description : Option String
  parentCommitmentId : Option UuidV7
  successCriteria : Option String
  completionPolicy : CompletionMode
  validationRequired : Bool
  status : TaskStatus
  priority : Option Priority
  notBefore : Option UnixMs
  dueAt : Option UnixMs
  startedAt : Option UnixMs
  completedAt : Option UnixMs
  metadata : Metadata
  revision : ℕ
  createdAt : UnixMs
  updatedAt : UnixMs
  deletedAt : Option UnixMs
  deriving DecidableEq

/-- What both inputs of the facade may name. A missing field is `none`, a null one is
    `some none`. -/
structure CommitmentTerms where
  description : Option (Option String) := none
  successCriteria : Option (Option Criteria) := none
  completionPolicy : Option CompletionMode := none
  validationRequired : Option Bool := none
  priority : Option (Option Priority) := none
  notBefore : Option (Option UnixMs) := none
  dueAt : Option (Option UnixMs) := none
  metadata : Option Metadata := none
  parentCommitmentId : Option (Option Uuid) := none

/-- `CreateCommitmentInput` -/
structure CreateCommitmentInput extends CommitmentTerms where
  title : Title

/-- `UpdateCommitmentInput` -/
structure UpdateCommitmentInput extends CommitmentTerms where
  title : Option Title := none

/-- `KernelContext`, at the time of the call. -/
structure KernelContext where
  actor : String
  principalId : Option String
  idempotencyKey : Option String
  now : UnixMs

/-- `ListCommitmentsOptions`. A status that is missing and an empty list of them do not filter. -/
structure ListCommitmentsOptions where
  status : List TaskStatus := []
  includeDeleted : Bool := false
  includeDeferred : Bool := false
  limit : Option ℤ := none
  before : Option (UnixMs × UuidV7) := none
  now : UnixMs

/-- `toCommitment` -/
def toCommitment (workspaceId : String) (id : UuidV7) (row : Task) : Commitment where
  id := id
  workspaceId := workspaceId
  title := row.title
  description := row.description
  parentCommitmentId := row.parentTaskId
  successCriteria := row.successCriteria
  completionPolicy := row.completionMode
  validationRequired := row.validationRequired
  status := row.status
  priority := row.priority
  notBefore := row.scheduledAt
  dueAt := row.dueAt
  startedAt := row.startedAt
  completedAt := row.completedAt
  metadata := row.metadata
  revision := row.revision
  createdAt := row.createdAt
  updatedAt := row.updatedAt
  deletedAt := row.deletedAt

/-- `UuidV7`, as `TaskInsert` reads a parent. -/
def parseParent (parent : Option Uuid) : Call (Option UuidV7) :=
  match parent with
  | none => pure none
  | some (.v7 id) => pure (some id)
  | some (.other _) => .error (.invalid "TaskInsert")

/-- The task that `createCommitment` asks for, with the defaults of `CommitmentCreate` and of
    `TaskInsert`. -/
def CreateCommitmentInput.toTaskInsert (input : CreateCommitmentInput) (id : UuidV7)
    (parentTaskId : Option UuidV7) : TaskInsert where
  id := id
  title := input.title
  description := input.description.getD none
  nextAction := none
  successCriteria := (input.successCriteria.getD none).map Subtype.val
  completionMode := input.completionPolicy.getD .assertion
  validationRequired := input.validationRequired.getD false
  priority := input.priority.getD none
  estimatedMinutes := none
  scheduledAt := input.notBefore.getD none
  dueAt := input.dueAt.getD none
  recurrence := none
  recurrenceInterval := ⟨1, Nat.one_pos⟩
  recurrenceAnchor := .due
  metadata := input.metadata.getD ⟨[]⟩
  parentTaskId := parentTaskId

/-- The update that `updateCommitment` passes on. -/
def UpdateCommitmentInput.toTaskUpdate (input : UpdateCommitmentInput) : TaskUpdate where
  title := input.title
  description := input.description
  successCriteria := input.successCriteria
  completionMode := input.completionPolicy
  validationRequired := input.validationRequired
  priority := input.priority
  scheduledAt := input.notBefore
  dueAt := input.dueAt
  metadata := input.metadata

namespace WorkStore

variable (s : WorkStore) (rt : WorkRuntime)

/-- `legacyContext` -/
def legacyContext (context : KernelContext) : Call PrincipalContext := do
  refuse (Blank s.workspaceId) (.error "workspaceId must not be blank")
  refuse (Blank context.actor) (.error "actor must not be blank")
  pure ⟨some context.actor, context.principalId, context.idempotencyKey, context.now⟩

/-- `createCommitment` -/
def createCommitment (input : CreateCommitmentInput) (context : KernelContext)
    (freshId : UuidV7) : Call (WorkStore × Commitment) := do
  let ctx ← s.legacyContext context
  let parentTaskId ← parseParent (input.parentCommitmentId.getD none)
  let (after, row) ← s.createTask rt (input.toTaskInsert freshId parentTaskId) ctx
  pure (after, toCommitment s.workspaceId freshId row)

/-- `getCommitment` -/
def getCommitment (id : UuidV7) : Call (Option Commitment) := do
  let row ← s.getTask id
  pure (row.map (toCommitment s.workspaceId id))

/-- `updateCommitment` -/
def updateCommitment (id : UuidV7) (input : UpdateCommitmentInput) (context : KernelContext)
    (expectedRevision : ℕ) : Call (WorkStore × Commitment) := do
  let ctx ← s.legacyContext context
  let (after, row) ← s.updateTask rt id input.toTaskUpdate (some expectedRevision) ctx
  pure (after, toCommitment s.workspaceId id row)

/-- The rows that `listTasks` selects. -/
def Listed (options : ListCommitmentsOptions) (id : UuidV7) (row : Task) : Prop :=
  (options.includeDeleted = false → row.deletedAt = none) ∧
    (options.status ≠ [] → row.status ∈ options.status) ∧
    (∀ cursor ∈ options.before, row.updatedAt < cursor.1 ∨
      row.updatedAt = cursor.1 ∧ id < cursor.2) ∧
    (options.includeDeferred = false → ∀ t ∈ row.scheduledAt, t ≤ options.now)

instance decidableListed (options : ListCommitmentsOptions) (id : UuidV7) (row : Task) :
    Decidable (Listed options id row) := by
  unfold Listed; infer_instance

/-- `updatedAt DESC, id DESC` -/
def Newer (a b : UuidV7 × Task) : Prop :=
  b.2.updatedAt < a.2.updatedAt ∨ b.2.updatedAt = a.2.updatedAt ∧ b.1 ≤ a.1

instance decidableNewer (a b : UuidV7 × Task) : Decidable (Newer a b) := by
  unfold Newer; infer_instance

instance totalNewer : Std.Total Newer where
  total a b := by
    unfold Newer
    rcases lt_trichotomy a.2.updatedAt b.2.updatedAt with h | h | h
    · exact .inr (.inl h)
    · exact (le_total b.1 a.1).imp (fun hk => .inr ⟨h.symm, hk⟩) fun hk => .inr ⟨h, hk⟩
    · exact .inl (.inl h)

instance transNewer : IsTrans _ Newer where
  trans a b c hab hbc := by
    rcases hab with hab | ⟨hab, hk⟩ <;> rcases hbc with hbc | ⟨hbc, hk'⟩
    · exact .inl (hbc.trans hab)
    · exact .inl (hbc ▸ hab)
    · exact .inl (hab ▸ hbc)
    · exact .inr ⟨hbc.trans hab, hk'.trans hk⟩

/-- `parseTask`, of the row of an id. -/
def parseListed (e : UuidV7 × Task) : Call Commitment := do
  refuse (¬ CriteriaBounded e.2.successCriteria) (.invalid "Task")
  pure (toCommitment s.workspaceId e.1 e.2)

/-- `listCommitments` -/
def listCommitments (options : ListCommitmentsOptions) : Call (List Commitment) := do
  let found := Table.rows s.tasks fun id row => Listed options id row
  (limited (options.limit.getD 100) (found.insertionSort Newer)).mapM s.parseListed

/-- The store remembers a call under the identity, so that this call replays it. -/
def Replays (identity : Option (Retry.Identity WorkOperation)) : Prop :=
  ∃ retries record, Retry.findIdempotencyResult s.retries identity = .ok (retries, some record)

/-- The call is no replay of an earlier one. -/
def Applies (context : KernelContext) (operation : WorkOperation) (request : WorkRequest)
    (legacyRequest : Option WorkRequest) : Prop :=
  ∀ ctx identity, s.legacyContext context = .ok ctx →
    s.prepareIdempotency rt ctx operation request legacyRequest = .ok identity →
      ¬ s.Replays identity

/-! ### What the facade promises -/

end WorkStore

/-- Every field that an update names has the value it gives, and no other field changes but
    revision and update time. -/
structure Carries (input : UpdateCommitmentInput) (before after : Task) : Prop where
  title : after.title = input.title.getD before.title
  description : after.description = input.description.getD before.description
  successCriteria : after.successCriteria =
    (input.successCriteria.map (Option.map Subtype.val)).getD before.successCriteria
  completionPolicy : after.completionMode = input.completionPolicy.getD before.completionMode
  validationRequired : after.validationRequired =
    input.validationRequired.getD before.validationRequired
  priority : after.priority = input.priority.getD before.priority
  notBefore : after.scheduledAt = input.notBefore.getD before.scheduledAt
  dueAt : after.dueAt = input.dueAt.getD before.dueAt
  metadata : after.metadata = input.metadata.getD before.metadata
  parent : after.parentTaskId.map Uuid.v7 =
    input.parentCommitmentId.getD (before.parentTaskId.map Uuid.v7)
  scope : after.projectId = before.projectId ∧ after.goalId = before.goalId ∧
    after.areaId = before.areaId
  others : after.nextAction = before.nextAction ∧
    after.estimatedMinutes = before.estimatedMinutes ∧ after.recurrence = before.recurrence ∧
    after.recurrenceInterval = before.recurrenceInterval ∧
    after.recurrenceAnchor = before.recurrenceAnchor ∧
    after.toEngineFields = before.toEngineFields ∧ after.createdAt = before.createdAt ∧
    after.deletedAt = before.deletedAt

/-- The update leaves the commitment where it is in the hierarchy: it names no other parent, and a
    commitment under a parent that it changes has no planning scope. -/
def UpdateCommitmentInput.StaysInPlace (input : UpdateCommitmentInput) (before : Task) : Prop :=
  (∀ parent ∈ input.parentCommitmentId, parent = before.parentTaskId.map Uuid.v7) ∧
    (Ledger.updateChanges input.toTaskUpdate before = true → before.parentTaskId.isSome →
      before.projectId = none ∧ before.goalId = none ∧ before.areaId = none)

/-- The row that `createCommitment` writes. -/
def CreateCommitmentInput.created (input : CreateCommitmentInput) (parentTaskId : Option UuidV7)
    (now : UnixMs) : Task :=
  { input.toTaskInsert 0 parentTaskId with
    projectId := none, goalId := none, areaId := none
    startedAt := none, completedAt := none, lastDoneAt := none, streak := 0
    revision := 1, createdAt := now, updatedAt := now, deletedAt := none }

namespace Ledger

variable {rt : Runtime} {l l' : Ledger} {id : UuidV7} {row : Task} {ctx : TaskContext}

/-- The flat policy resolves to no scope, and refuses a requested one. -/
theorem resolveScope_eq_ok {input : TaskScopeInput} {scope : CanonicalTaskScope}
    (h : l.resolveScope input = .ok scope) :
    scope = ⟨none, none, none, input.parentTaskId⟩ ∧
      (input.inherited = false →
        input.projectId = none ∧ input.goalId = none ∧ input.areaId = none) := by
  simp only [resolveScope, bind_eq_ok, refuse_eq_ok] at h
  obtain ⟨-, hscope, h⟩ := h
  refine ⟨?_, ?_⟩
  · split at h
    · rename_i hnone
      rw [hnone]
      exact ((pure_eq_ok _ _).1 h).symm
    · rename_i p hp
      simp only [bind_eq_ok, pure_eq_ok] at h
      obtain ⟨-, -, -, -, rfl⟩ := h
      rw [hp]
  · intro hrequested
    simp only [hrequested, and_true, not_or, Option.not_isSome_iff_eq_none] at hscope
    exact hscope

/-- The row that an update leaves when it names no place in the hierarchy. -/
def updatedRow (parsed : TaskUpdate) (before : Task) (now : UnixMs) : Task :=
  { before with
    toCommitmentFields := parsed.apply before.toCommitmentFields
    validationRequired := parsed.validationRequired.getD before.validationRequired
    projectId := none
    goalId := none
    areaId := none
    revision := before.revision + 1
    updatedAt := now }

/-- The update names no place in the hierarchy. -/
def Placeless (parsed : TaskUpdate) : Prop :=
  parsed.projectId = none ∧ parsed.goalId = none ∧ parsed.areaId = none ∧
    parsed.parentTaskId = none

/-- UPDATE: nothing changes, or the row loses its planning scope; without a parent it had none. -/
theorem updateTaskInTransaction_placeless {parsed : TaskUpdate} {expectedRevision : Option ℕ}
    (hplace : Placeless parsed)
    (h : l.updateTaskInTransaction rt id parsed ctx expectedRevision = .ok (l', row)) :
    ∃ before, l.tasks[id]? = some before ∧
      (updateChanges parsed before = false ∧ l'.tasks = l.tasks ∧ row = before ∨
        updateChanges parsed before = true ∧
          (before.parentTaskId = none →
            before.projectId = none ∧ before.goalId = none ∧ before.areaId = none) ∧
          row = updatedRow parsed before ctx.now ∧ l'.tasks = l.tasks.insert id row) := by
  obtain ⟨hproject, hgoal, harea, hparent⟩ := hplace
  simp only [updateTaskInTransaction, bind_eq_ok, refuse_eq_ok, getTask_eq_ok, demand_eq_ok] at h
  obtain ⟨_, ⟨hrow, -⟩, before, rfl, -, -, -, -, -, -, -, -, h⟩ := h
  refine ⟨before, hrow, ?_⟩
  split at h
  · rename_i hsame
    simp only [pure_eq_ok, Prod.mk.injEq] at h
    obtain ⟨rfl, rfl⟩ := h
    exact .inl ⟨hsame, rfl, rfl⟩
  · rename_i hchanges
    simp only [bind_eq_ok, refuse_eq_ok, getTask_eq_ok, demand_eq_ok, pure_eq_ok,
      Prod.mk.injEq] at h
    obtain ⟨_, -, scope, hscope, -, -, _, ⟨hread, -⟩, _, rfl, l₁, hevent, rfl, rfl⟩ := h
    obtain ⟨rfl, hnone⟩ := resolveScope_eq_ok hscope
    have hafter := Option.some.inj (hread.symm.trans Std.ExtTreeMap.getElem?_insert_self)
    refine .inr ⟨by simpa using hchanges, fun hroot => ?_, ?_, ?_⟩
    · simpa [hproject, hgoal, harea, hparent, hroot] using hnone rfl
    · rw [hafter, updatedRow, hparent, Option.getD_none]
    · rw [(recordEvent_sameWork hevent).tasks, hafter]

/-- CREATE: one new row, open and without planning scope. -/
theorem createTaskInTransaction_row {parsed : TaskInsert}
    (h : l.createTaskInTransaction rt parsed ctx = .ok (l', row)) :
    l.tasks[parsed.id]? = none ∧ l'.tasks = l.tasks.insert parsed.id row ∧
      row = { parsed with
        projectId := none, goalId := none, areaId := none
        startedAt := none, completedAt := none, lastDoneAt := none, streak := 0
        revision := 1, createdAt := ctx.now, updatedAt := ctx.now, deletedAt := none } := by
  simp only [createTaskInTransaction, bind_eq_ok, refuse_eq_ok] at h
  obtain ⟨-, -, -, -, -, -, scope, hscope, h⟩ := h
  obtain ⟨rfl, -⟩ := resolveScope_eq_ok hscope
  -- With and without a parent, the rest is the same.
  have hwrite : ∃ l₁ l₂, l.insertTask parsed.id
      { parsed with
        projectId := none, goalId := none, areaId := none
        startedAt := none, completedAt := none, lastDoneAt := none, streak := 0
        revision := 1, createdAt := ctx.now, updatedAt := ctx.now, deletedAt := none } = .ok l₁ ∧
      Ledger.recordEvent rt l₁ ctx.actor ctx.principalId = .ok l₂ ∧
      l₂.tasks[parsed.id]? = some row ∧ l₂ = l' := by
    split at h
    · simp only [bind_eq_ok, getTask_eq_ok, demand_eq_ok, pure_eq_ok, Prod.mk.injEq] at h
      obtain ⟨l₁, hinsert, l₂, hevent, _, ⟨hread, -⟩, _, rfl, rfl, rfl⟩ := h
      exact ⟨l₁, l₂, hinsert, hevent, hread, rfl⟩
    · simp only [bind_eq_ok, refuse_eq_ok, getTask_eq_ok, demand_eq_ok, pure_eq_ok,
        Prod.mk.injEq] at h
      obtain ⟨-, -, -, -, l₁, hinsert, l₂, hevent, _, ⟨hread, -⟩, _, rfl, rfl, rfl⟩ := h
      exact ⟨l₁, l₂, hinsert, hevent, hread, rfl⟩
  obtain ⟨l₁, l₂, hinsert, hevent, hread, rfl⟩ := hwrite
  obtain ⟨-, hfresh, -, -, rfl⟩ := insertTask_eq_ok.1 hinsert
  rw [(recordEvent_sameWork hevent).tasks] at hread ⊢
  have hafter := Option.some.inj (hread.symm.trans Std.ExtTreeMap.getElem?_insert_self)
  exact ⟨Std.ExtTreeMap.getElem?_eq_none fun hmem => hfresh (.inl hmem), by rw [hafter], hafter⟩

end Ledger

/-- An update that changes nothing gives every field the value that it has. -/
theorem carries_unchanged {input : UpdateCommitmentInput} {before : Task}
    (h : Ledger.updateChanges input.toTaskUpdate before = false) :
    Carries input before before ↔
      ∀ parent ∈ input.parentCommitmentId, parent = before.parentTaskId.map Uuid.v7 := by
  simp only [Ledger.updateChanges, Bool.or_eq_false_iff] at h
  obtain ⟨⟨⟨⟨⟨hfields, hvalidation⟩, -⟩, -⟩, -⟩, -⟩ := h
  have hsame : input.toTaskUpdate.apply before.toCommitmentFields = before.toCommitmentFields := by
    by_contra hne
    have htrue := (input.toTaskUpdate.toReplicatedCommitmentPatch.differs_stringify
      before.toCommitmentFields).2 hne
    rw [hfields] at htrue
    cases htrue
  constructor
  · intro hcarries parent hparent
    have h := hcarries.parent
    rw [Option.mem_def.1 hparent, Option.getD_some] at h
    exact h.symm
  · intro hparent
    refine ⟨(congrArg CommitmentFields.title hsame).symm,
      (congrArg CommitmentFields.description hsame).symm,
      (congrArg CommitmentFields.successCriteria hsame).symm,
      (congrArg CommitmentFields.completionMode hsame).symm, ?_,
      (congrArg CommitmentFields.priority hsame).symm,
      (congrArg CommitmentFields.scheduledAt hsame).symm,
      (congrArg CommitmentFields.dueAt hsame).symm,
      (congrArg CommitmentFields.metadata hsame).symm, ?_, ⟨rfl, rfl, rfl⟩,
      ⟨rfl, rfl, rfl, rfl, rfl, rfl, rfl, rfl⟩⟩
    · have hvalidation' := (any_ne_eq_false id _ _).1 hvalidation
      exact hvalidation'.symm
    · cases hnamed : input.parentCommitmentId with
      | none => rfl
      | some parent => exact (hparent parent hnamed).symm

/-- An update that changes the row keeps the planning scope only where there is none. -/
theorem carries_updated {input : UpdateCommitmentInput} {before : Task} {now : UnixMs}
    (hroot : before.parentTaskId = none →
      before.projectId = none ∧ before.goalId = none ∧ before.areaId = none) :
    Carries input before (Ledger.updatedRow input.toTaskUpdate before now) ↔
      (∀ parent ∈ input.parentCommitmentId, parent = before.parentTaskId.map Uuid.v7) ∧
        (before.parentTaskId.isSome →
          before.projectId = none ∧ before.goalId = none ∧ before.areaId = none) := by
  constructor
  · intro hcarries
    refine ⟨fun parent hparent => ?_, fun _ => ?_⟩
    · have h := hcarries.parent
      rw [Option.mem_def.1 hparent, Option.getD_some] at h
      exact h.symm
    · obtain ⟨hproject, hgoal, harea⟩ := hcarries.scope
      exact ⟨hproject.symm, hgoal.symm, harea.symm⟩
  · rintro ⟨hparent, hscope⟩
    have hnone : before.projectId = none ∧ before.goalId = none ∧ before.areaId = none := by
      cases hp : before.parentTaskId with
      | none => exact hroot hp
      | some p => exact hscope (by rw [hp]; rfl)
    obtain ⟨hproject, hgoal, harea⟩ := hnone
    refine ⟨rfl, rfl, rfl, rfl, rfl, rfl, rfl, rfl, rfl, ?_,
      ⟨hproject.symm, hgoal.symm, harea.symm⟩, ⟨rfl, rfl, rfl, rfl, rfl, rfl, rfl, rfl⟩⟩
    cases hnamed : input.parentCommitmentId with
    | none => rfl
    | some parent => exact (hparent parent hnamed).symm

namespace WorkStore

variable {s s' : WorkStore} {rt : WorkRuntime} {id : UuidV7}

/-- A call that is no replay performs, and keeps its result. -/
theorem idempotent_performs {β : Type} {identity : Option (Retry.Identity WorkOperation)}
    {replay : WorkStore → UuidV7 → Call β}
    {perform : WorkStore → Call (WorkStore × β × Option (Retry.IdempotencyOutcome String))}
    {result : β} (hfresh : ¬ s.Replays identity)
    (h : s.idempotent identity replay perform = .ok (s', result)) :
    ∃ retries s₁ outcome retries',
      perform { s with retries := retries } = .ok (s₁, result, outcome) ∧
        s' = { s₁ with retries := retries' } := by
  simp only [idempotent, bind_eq_ok, Prod.exists] at h
  obtain ⟨retries, prior, hprior, h⟩ := h
  cases prior with
  | some record => exact absurd ⟨retries, record, hprior⟩ hfresh
  | none =>
    simp only [bind_eq_ok, Prod.exists] at h
    obtain ⟨s₁, _, outcome, hperform, h⟩ := h
    cases outcome with
    | none =>
      simp only [pure_eq_ok, Prod.mk.injEq] at h
      obtain ⟨rfl, rfl⟩ := h
      exact ⟨retries, s₁, none, s₁.retries, hperform, rfl⟩
    | some outcome =>
      simp only [bind_eq_ok, pure_eq_ok, Prod.mk.injEq] at h
      obtain ⟨retries', -, rfl, rfl⟩ := h
      exact ⟨retries, s₁, some outcome, retries', hperform, rfl⟩

theorem legacyContext_eq_ok {context : KernelContext} {ctx : PrincipalContext}
    (h : s.legacyContext context = .ok ctx) :
    ctx = ⟨some context.actor, context.principalId, context.idempotencyKey, context.now⟩ := by
  simp only [legacyContext, bind_eq_ok, pure_eq_ok] at h
  obtain ⟨-, -, -, -, rfl⟩ := h
  rfl

/-- EXACT: the row after an applied update carries what the input names, and nothing else,
    exactly when the input leaves the commitment in its place. -/
theorem updateCommitment_iff {before : Task} {input : UpdateCommitmentInput}
    {context : KernelContext} {expectedRevision : ℕ} {c : Commitment}
    (hrow : s.tasks[id]? = some before)
    (happlies : s.Applies rt context .taskUpdate
      (.updateTask id input.toTaskUpdate (some expectedRevision)) none)
    (h : s.updateCommitment rt id input context expectedRevision = .ok (s', c)) :
    (∃ after, s'.tasks[id]? = some after ∧ c = toCommitment s.workspaceId id after ∧
        Carries input before after ∧ ∀ k, k ≠ id → s'.tasks[k]? = s.tasks[k]?) ↔
      input.StaysInPlace before := by
  simp only [updateCommitment, updateTask, bind_eq_ok, Prod.exists, pure_eq_ok, Prod.mk.injEq] at h
  obtain ⟨ctx, hctx, s₁, row, ⟨identity, hidentity, h⟩, rfl, rfl⟩ := h
  obtain ⟨retries, s₂, outcome, retries', hperform, rfl⟩ :=
    idempotent_performs (happlies ctx identity hctx hidentity) h
  simp only [bind_eq_ok, Prod.exists, pure_eq_ok, Prod.mk.injEq] at hperform
  obtain ⟨l, updated, hupdate, rfl, rfl, -⟩ := hperform
  obtain ⟨before', hrow', hcases⟩ :=
    Ledger.updateTaskInTransaction_placeless ⟨rfl, rfl, rfl, rfl⟩ hupdate
  obtain rfl : before = before' := Option.some.inj (hrow.symm.trans hrow')
  change (∃ after, l.tasks[id]? = some after ∧ _ ∧ _ ∧ ∀ k, k ≠ id → l.tasks[k]? = s.tasks[k]?) ↔ _
  rw [UpdateCommitmentInput.StaysInPlace]
  obtain ⟨hsame, htasks, rfl⟩ | ⟨hchanges, hroot, rfl, htasks⟩ := hcases
  · rw [htasks, hsame]
    constructor
    · rintro ⟨after, hafter, -, hcarries, -⟩
      obtain rfl : updated = after := Option.some.inj (hrow'.symm.trans hafter)
      exact ⟨(carries_unchanged hsame).1 hcarries, by simp⟩
    · rintro ⟨hparent, -⟩
      exact ⟨updated, hrow', rfl, (carries_unchanged hsame).2 hparent, fun _ _ => rfl⟩
  · rw [htasks, hchanges]
    constructor
    · rintro ⟨after, hafter, -, hcarries, -⟩
      rw [Std.ExtTreeMap.getElem?_insert_self, Option.some.injEq] at hafter
      obtain ⟨hparent, hscope⟩ := (carries_updated hroot).1 (hafter ▸ hcarries)
      exact ⟨hparent, fun _ => hscope⟩
    · rintro ⟨hparent, hscope⟩
      refine ⟨_, Std.ExtTreeMap.getElem?_insert_self, rfl,
        (carries_updated hroot).2 ⟨hparent, hscope rfl⟩, fun k hk => ?_⟩
      rw [Std.ExtTreeMap.getElem?_insert]
      simp [Ne.symm hk, ledger]

/-- CREATE: the row has what the input names and the defaults for the rest. -/
theorem createCommitment_row {input : CreateCommitmentInput} {context : KernelContext}
    {freshId : UuidV7} {c : Commitment}
    (happlies : ∀ parentTaskId,
      parseParent (input.parentCommitmentId.getD none) = .ok parentTaskId →
      s.Applies rt context .taskCreate
        (.createTask (input.toTaskInsert freshId parentTaskId) context.actor context.principalId)
        (some (.createTask (input.toTaskInsert freshId parentTaskId) context.actor
          context.principalId)))
    (h : s.createCommitment rt input context freshId = .ok (s', c)) :
    ∃ after, s.tasks[freshId]? = none ∧ s'.tasks[freshId]? = some after ∧
      c = toCommitment s.workspaceId freshId after ∧
      after = input.created after.parentTaskId context.now ∧
      after.parentTaskId.map Uuid.v7 = input.parentCommitmentId.getD none ∧
      ∀ k, k ≠ freshId → s'.tasks[k]? = s.tasks[k]? := by
  simp only [createCommitment, createTask, bind_eq_ok, refuse_eq_ok, Prod.exists, pure_eq_ok,
    Prod.mk.injEq] at h
  obtain ⟨ctx, hctx, parent, hparent, s₁, row, ⟨-, -, -, -, -, -, identity, hidentity, h⟩, rfl,
    rfl⟩ := h
  have hctx' := legacyContext_eq_ok hctx
  subst hctx'
  obtain ⟨retries, s₂, outcome, retries', hperform, rfl⟩ :=
    idempotent_performs (happlies parent hparent _ identity hctx hidentity) h
  simp only [bind_eq_ok, Prod.exists, pure_eq_ok, Prod.mk.injEq] at hperform
  obtain ⟨l, created, hcreate, rfl, rfl, -⟩ := hperform
  obtain ⟨hfresh, htasks, rfl⟩ := Ledger.createTaskInTransaction_row hcreate
  have hnamed : parent.map Uuid.v7 = input.parentCommitmentId.getD none := by
    unfold parseParent at hparent
    split at hparent
    · rename_i hnone
      rw [← (pure_eq_ok _ _).1 hparent, hnone]
      rfl
    · rename_i p hp
      rw [← (pure_eq_ok _ _).1 hparent, hp]
      rfl
    · cases hparent
  refine ⟨_, hfresh, ?_, rfl, rfl, hnamed, fun k hk => ?_⟩
  · change l.tasks[_]? = _
    rw [htasks]
    exact Std.ExtTreeMap.getElem?_insert_self
  · change l.tasks[k]? = _
    rw [htasks, Std.ExtTreeMap.getElem?_insert]
    simp [CreateCommitmentInput.toTaskInsert, Ne.symm hk, ledger]

/-- GET: the stored row, or nothing. -/
theorem getCommitment_row {found : Option Commitment} (h : s.getCommitment id = .ok found) :
    found = s.tasks[id]?.map (toCommitment s.workspaceId id) := by
  simp only [getCommitment, getTask, bind_eq_ok, Ledger.getTask_eq_ok, pure_eq_ok] at h
  obtain ⟨row, ⟨hrow, -⟩, rfl⟩ := h
  rw [← hrow]
  rfl

/-- LIST: the stored rows that the options select, newest first, as far as the limit goes. -/
theorem listCommitments_rows {options : ListCommitmentsOptions} {found : List Commitment}
    (h : s.listCommitments options = .ok found) :
    ∃ rows : List (UuidV7 × Task),
      found = rows.map (fun e => toCommitment s.workspaceId e.1 e.2) ∧ rows.Pairwise Newer ∧
        rows.Nodup ∧ (∀ e ∈ rows, s.tasks[e.1]? = some e.2 ∧ Listed options e.1 e.2) ∧
        ∀ k row, s.tasks[k]? = some row → Listed options k row → (k, row) ∉ rows →
          (rows.length : ℤ) = options.limit.getD 100 ∧ ∀ e ∈ rows, Newer e (k, row) := by
  have hparse : ∀ e : UuidV7 × Task, ∀ c, s.parseListed e = .ok c ↔
      CriteriaBounded e.2.successCriteria ∧ toCommitment s.workspaceId e.1 e.2 = c := by
    intro e c
    simp only [parseListed, bind_eq_ok, refuse_eq_ok, not_not, pure_eq_ok, exists_const]
  rw [listCommitments, mapM_eq_ok fun e _ => hparse e] at h
  obtain ⟨-, rfl⟩ := h
  have hsorted := List.pairwise_insertionSort Newer
    (Table.rows s.tasks fun id row => decide (Listed options id row))
  have hsub := limited_sublist (options.limit.getD 100)
    ((Table.rows s.tasks fun id row => decide (Listed options id row)).insertionSort Newer)
  refine ⟨_, rfl, hsorted.sublist hsub, ?_, fun e he => ?_, fun k row hrow hlisted hout => ?_⟩
  · refine List.Nodup.sublist hsub ((List.perm_insertionSort Newer _).nodup_iff.2 ?_)
    exact (List.Nodup.of_map _ (Table.keys_nodup s.tasks)).filter _
  · have hmem := hsub.subset he
    rw [List.mem_insertionSort, Table.mem_rows] at hmem
    exact ⟨hmem.1, of_decide_eq_true hmem.2⟩
  · have hmem : (k, row) ∈ (Table.rows s.tasks
        fun id row => decide (Listed options id row)).insertionSort Newer := by
      rw [List.mem_insertionSort, Table.mem_rows]
      exact ⟨hrow, decide_eq_true hlisted⟩
    exact ⟨length_limited hmem hout, fun e he => limited_before hsorted he hmem hout⟩

/-- A call without a key replays nothing. -/
theorem applies_of_no_key {context : KernelContext} (hkey : context.idempotencyKey = none)
    (operation : WorkOperation) (request : WorkRequest) (legacyRequest : Option WorkRequest) :
    s.Applies rt context operation request legacyRequest := by
  rintro ctx identity hctx hidentity ⟨retries, record, hfound⟩
  rw [legacyContext_eq_ok hctx] at hidentity
  simp only [prepareIdempotency, Retry.prepareIdempotency, hkey, pure_eq_ok] at hidentity
  subst hidentity
  simp [Retry.findIdempotencyResult] at hfound

end WorkStore

/-- EXACT: an applied update gives every named field its value and leaves the others alone exactly
    when it leaves the commitment in its place. A create writes what it names with the defaults, and
    the reads report the stored rows. -/
theorem commitment_facade_iff (rt : WorkRuntime) (s : WorkStore) :
    (∀ (id : UuidV7) before input context expectedRevision s' c, s.tasks[id]? = some before →
      before.deletedAt = none →
      s.Applies rt context .taskUpdate
        (.updateTask id input.toTaskUpdate (some expectedRevision)) none →
      s.updateCommitment rt id input context expectedRevision = .ok (s', c) →
        ((∃ after, s'.tasks[id]? = some after ∧ c = toCommitment s.workspaceId id after ∧
            Carries input before after ∧ ∀ k, k ≠ id → s'.tasks[k]? = s.tasks[k]?) ↔
          input.StaysInPlace before)) ∧
    (∀ (freshId : UuidV7) input context s' c,
      (∀ parentTaskId, parseParent (input.parentCommitmentId.getD none) = .ok parentTaskId →
        s.Applies rt context .taskCreate
          (.createTask (input.toTaskInsert freshId parentTaskId) context.actor context.principalId)
          (some (.createTask (input.toTaskInsert freshId parentTaskId) context.actor
            context.principalId))) →
      s.createCommitment rt input context freshId = .ok (s', c) →
        ∃ after, s.tasks[freshId]? = none ∧ s'.tasks[freshId]? = some after ∧
          c = toCommitment s.workspaceId freshId after ∧
          after = input.created after.parentTaskId context.now ∧
          after.parentTaskId.map Uuid.v7 = input.parentCommitmentId.getD none ∧
          ∀ k, k ≠ freshId → s'.tasks[k]? = s.tasks[k]?) ∧
    (∀ (id : UuidV7) found, s.getCommitment id = .ok found →
      found = s.tasks[id]?.map (toCommitment s.workspaceId id)) ∧
    ∀ options found, s.listCommitments options = .ok found →
      ∃ rows : List (UuidV7 × Task),
        found = rows.map (fun e => toCommitment s.workspaceId e.1 e.2) ∧
          rows.Pairwise WorkStore.Newer ∧ rows.Nodup ∧
          (∀ e ∈ rows, s.tasks[e.1]? = some e.2 ∧ WorkStore.Listed options e.1 e.2) ∧
          ∀ k row, s.tasks[k]? = some row → WorkStore.Listed options k row → (k, row) ∉ rows →
            (rows.length : ℤ) = options.limit.getD 100 ∧ ∀ e ∈ rows, WorkStore.Newer e (k, row) :=
  ⟨fun _ _ _ _ _ _ _ hrow _ happlies h => WorkStore.updateCommitment_iff hrow happlies h,
    fun _ _ _ _ _ happlies h => WorkStore.createCommitment_row happlies h,
    fun _ _ h => WorkStore.getCommitment_row h,
    fun _ _ h => WorkStore.listCommitments_rows h⟩

/-! ### A commitment under another, with a planning scope -/

/-- Commitment 1, commitment 2 under it in area 9, and commitment 3 under none. -/
def plainFamily : WorkStore :=
  { WorkStore.opening "w" [] with
    tasks := Std.ExtTreeMap.ofList ([(1, plainTask),
      (2, { plainTask with parentTaskId := some 1, areaId := some 9 }), (3, plainTask)] :
        List (UuidV7 × Task)) }

/-- The actor `p` at 5, without a key. -/
def plainKernel : KernelContext := ⟨"p", none, none, 5⟩

theorem commitment_facade_plain :
    let input : UpdateCommitmentInput := { dueAt := some (some 7) }
    ∃ s' c after, plainFamily.updateCommitment plainWorkRuntime 3 input plainKernel 1 =
        .ok (s', c) ∧
      s'.tasks[(3 : UuidV7)]? = some after ∧ Carries input plainTask after ∧
      after.dueAt = some 7 := by
  intro input
  have hok : Ends (plainFamily.updateCommitment plainWorkRuntime 3 input plainKernel 1)
      fun _ => True := by
    decide +kernel
  obtain ⟨⟨s', c⟩, h, -⟩ := hok
  obtain ⟨after, hafter, -, hcarries, -⟩ := ((commitment_facade_iff plainWorkRuntime plainFamily).1
    3 plainTask input plainKernel 1 s' c (by decide +kernel) rfl
    (WorkStore.applies_of_no_key rfl _ _ _) h).2 (by refine ⟨?_, ?_⟩ <;> decide +kernel)
  exact ⟨s', c, after, h, hafter, hcarries, hcarries.dueAt⟩

/-- NOT SO: an update that names a parent is accepted, and the commitment stays without one; and an
    update of the due time alone takes the area of a commitment under a parent away. -/
theorem update_misplaces :
    (∃ s' c, plainFamily.updateCommitment plainWorkRuntime 3
        { parentCommitmentId := some (some (.v7 1)) } plainKernel 1 = .ok (s', c) ∧
      ∀ after, s'.tasks[(3 : UuidV7)]? = some after →
        ¬ Carries { parentCommitmentId := some (some (.v7 1)) } plainTask after) ∧
    ∃ s' c, plainFamily.updateCommitment plainWorkRuntime 2 { dueAt := some (some 7) }
        plainKernel 1 = .ok (s', c) ∧
      ∀ after, s'.tasks[(2 : UuidV7)]? = some after →
        ¬ Carries { dueAt := some (some 7) }
          { plainTask with parentTaskId := some 1, areaId := some 9 } after := by
  constructor
  · have hok : Ends (plainFamily.updateCommitment plainWorkRuntime 3
        { parentCommitmentId := some (some (.v7 1)) } plainKernel 1)
        fun r => ∀ after ∈ r.1.tasks[(3 : UuidV7)]?, after.parentTaskId = none := by
      decide +kernel
    obtain ⟨⟨s', c⟩, h, hroot⟩ := hok
    refine ⟨s', c, h, fun after hafter hcarries => ?_⟩
    have hparent := hcarries.parent
    simp [hroot after hafter] at hparent
  · have hok : Ends (plainFamily.updateCommitment plainWorkRuntime 2 { dueAt := some (some 7) }
        plainKernel 1) fun r => ∀ after ∈ r.1.tasks[(2 : UuidV7)]?, after.areaId = none := by
      decide +kernel
    obtain ⟨⟨s', c⟩, h, hcleared⟩ := hok
    refine ⟨s', c, h, fun after hafter hcarries => ?_⟩
    have harea := hcarries.scope.2.2
    simp [hcleared after hafter] at harea

end Tasq
