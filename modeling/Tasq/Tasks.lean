import Mathlib.Tactic
import Tasq.Ledger

/-! The task service: create, update, soft delete and restore of a task inside a transaction that
    the caller holds.

    The hierarchy policy is the kernel's flat one, which carries decomposition and refuses planning
    scope. Loops that walk the hierarchy carry the number of rows as their bound. -/

namespace Tasq

open Text Outcome

/-- `MAX_TASK_DEPTH` -/
def maxTaskDepth : ℕ := 5

/-- Who acts, and when. -/
structure TaskContext where
  actor : String
  principalId : Option String
  now : UnixMs

/-- A JavaScript number that may be null is truthy when it is there and not zero. -/
def truthy (o : Option ℕ) : Bool := o.any (· ≠ 0)

/-- `!criteria?.trim()` -/
def Unstated (criteria : Option String) : Prop := ∀ s ∈ criteria, Blank s

instance (criteria : Option String) : Decidable (Unstated criteria) := by
  unfold Unstated; infer_instance

/-- `TaskInsert`, with the id that the caller gave or generated. -/
structure TaskInsert extends CommitmentFields where
  id : UuidV7
  status : TaskStatus := .open
  validationRequired : Bool := false
  projectId : Option UuidV7 := none
  goalId : Option UuidV7 := none
  areaId : Option UuidV7 := none
  parentTaskId : Option UuidV7 := none
  recurrenceParentId : Option UuidV7 := none

/-- `TaskUpdate`: a missing field is `none`, a null one is `some none`. -/
structure TaskUpdate extends ReplicatedCommitmentPatch where
  validationRequired : Option Bool := none
  projectId : Option (Option UuidV7) := none
  goalId : Option (Option UuidV7) := none
  areaId : Option (Option UuidV7) := none
  parentTaskId : Option (Option UuidV7) := none

structure TaskScopeInput where
  areaId : Option UuidV7
  goalId : Option UuidV7
  projectId : Option UuidV7
  parentTaskId : Option UuidV7
  /-- `scopeOrigin === "inherited"` -/
  inherited : Bool := false

structure CanonicalTaskScope where
  areaId : Option UuidV7
  goalId : Option UuidV7
  projectId : Option UuidV7
  parentTaskId : Option UuidV7

namespace Ledger

variable (rt : Runtime) (l : Ledger)

/-! ### The flat hierarchy policy -/

/-- `flatHierarchyPolicy.resolveScope` -/
def resolveScope (input : TaskScopeInput) : Call CanonicalTaskScope := do
  refuse ((input.projectId.isSome ∨ input.goalId.isSome ∨ input.areaId.isSome) ∧
      input.inherited = false)
    (.error "area, goal and project require an injected planning-profile policy; the kernel carries decomposition only")
  match input.parentTaskId with
  | none => pure ⟨none, none, none, none⟩
  | some parentTaskId => do
    let parent ← l.getTask parentTaskId
    refuse (¬ ∃ p ∈ parent, p.deletedAt = none)
      (.error s!"Parent commitment not found: {parentTaskId}")
    pure ⟨none, none, none, some parentTaskId⟩

/-- `flatHierarchyPolicy.assertLiveAncestors` -/
def assertLiveAncestors (row : Task) : Call Unit :=
  refuse (row.areaId.isSome ∨ row.goalId.isSome ∨ row.projectId.isSome)
    (.error "area, goal and project require an injected planning-profile policy; the kernel carries decomposition only")

/-- The loop of `getTaskDepth`, with the rounds that are left. -/
def getTaskDepthFrom : ℕ → ℕ → UuidV7 → List UuidV7 → Call ℕ
  | 0, depth, _, _ => pure depth
  | rounds + 1, depth, currentId, seen => do
    refuse (currentId ∈ seen) (.error s!"Cycle detected in task hierarchy at {currentId}")
    match l.tasks[currentId]?.bind (·.parentTaskId) with
    | none => pure depth
    | some parentTaskId => getTaskDepthFrom rounds (depth + 1) parentTaskId (currentId :: seen)

/-- `getTaskDepth`: walks upward while the depth is at most `MAX_TASK_DEPTH + 1`. -/
def getTaskDepth (id : UuidV7) : Call ℕ := l.getTaskDepthFrom (maxTaskDepth + 1) 1 id []

/-- The loop of `subtreeHeight`, with the rounds that are left. -/
def subtreeHeightFrom : ℕ → ℕ → List UuidV7 → ℕ
  | 0, height, _ => height
  | rounds + 1, height, frontier =>
    let rows := Table.keysWhere l.tasks fun _ row =>
      row.parentTaskId.any (· ∈ frontier) && row.deletedAt.isNone
    if rows = [] then height else subtreeHeightFrom rounds (height + 1) rows

/-- `subtreeHeight` -/
def subtreeHeight (id : UuidV7) : ℕ := l.subtreeHeightFrom (maxTaskDepth + 2) 1 [id]

/-! ### Create -/

/-- `createTaskInTransaction` -/
def createTaskInTransaction (parsed : TaskInsert) (ctx : TaskContext) : Call (Ledger × Task) := do
  refuse (parsed.status ≠ .open) (.error "Tasks must be created open; use a status transition to preserve engine timestamps and audit semantics")
  refuse (parsed.completionMode = .evidence ∧ Unstated parsed.successCriteria)
    (.error "Evidence-backed tasks require explicit successCriteria")
  refuse (parsed.validationRequired = true ∧ parsed.completionMode ≠ .evidence)
    (.error "Independently validated tasks must use evidence completion mode")
  let scope ← l.resolveScope ⟨parsed.areaId, parsed.goalId, parsed.projectId, parsed.parentTaskId, false⟩
  match scope.parentTaskId with
  | none => pure ()
  | some parentTaskId => do
    let parentDepth ← l.getTaskDepth parentTaskId
    refuse (parentDepth + 1 > maxTaskDepth)
      (.error s!"Task hierarchy exceeds max depth {maxTaskDepth} (would be {parentDepth + 1}). Consider modeling with a project instead.")
  let l ← l.insertTask parsed.id
    { parsed with
      projectId := scope.projectId
      goalId := scope.goalId
      areaId := scope.areaId
      parentTaskId := scope.parentTaskId
      startedAt := none
      completedAt := none
      lastDoneAt := none
      streak := 0
      revision := 1
      createdAt := ctx.now
      updatedAt := ctx.now
      deletedAt := none }
  let l ← l.recordEvent rt ctx.actor ctx.principalId
  let result ← l.getTask parsed.id
  let result ← demand result (.error s!"Failed to read back task {parsed.id}")
  pure (l, result)

/-! ### Update -/

/-- The cycle check of a reparenting: `id` is not on the way up from `cursor`. -/
def assertNoReparentCycle (id desired : UuidV7) : ℕ → UuidV7 → List UuidV7 → Call Unit
  | 0, _, _ => .error .unbounded
  | rounds + 1, cursor, seen => do
    refuse (cursor = id)
      (.error s!"Reparent would create a cycle: task {id} is an ancestor of {desired}")
    refuse (cursor ∈ seen) (.error s!"Pre-existing cycle in task hierarchy at {cursor}")
    match l.tasks[cursor]?.bind (·.parentTaskId) with
    | none => pure ()
    | some parentTaskId => assertNoReparentCycle id desired rounds parentTaskId (cursor :: seen)

/-- The checks of a move of `id` under `desiredParent`. -/
def assertReparent (id : UuidV7) (before desiredParent : Option UuidV7) : Call Unit :=
  if desiredParent = before then pure ()
  else
    match desiredParent with
    | none => pure ()
    | some parent => do
      refuse (parent = id) (.error "Task cannot be its own parent")
      l.assertNoReparentCycle id parent (l.tasks.size + 2) parent []
      let newParentDepth ← l.getTaskDepth parent
      let ownSubtreeHeight := l.subtreeHeight id
      refuse (newParentDepth + ownSubtreeHeight > maxTaskDepth)
        (.error s!"Reparent would exceed max task depth {maxTaskDepth} (parent depth {newParentDepth} + subtree height {ownSubtreeHeight}).")

/-- `Object.entries(parsed).some(([key, value]) => JSON.stringify(before[key]) !== JSON.stringify(value))` -/
def updateChanges (parsed : TaskUpdate) (before : Task) : Bool :=
  parsed.differs (fun m n => m = n) before.toCommitmentFields ||
    parsed.validationRequired.any (· ≠ before.validationRequired) ||
    parsed.projectId.any (· ≠ before.projectId) || parsed.goalId.any (· ≠ before.goalId) ||
    parsed.areaId.any (· ≠ before.areaId) || parsed.parentTaskId.any (· ≠ before.parentTaskId)

/-- A terminal status. -/
def Terminal (status : TaskStatus) : Prop := status = .done ∨ status = .cancelled

instance (status : TaskStatus) : Decidable (Terminal status) := by unfold Terminal; infer_instance

/-- `updateTaskInTransaction` -/
def updateTaskInTransaction (id : UuidV7) (parsed : TaskUpdate) (ctx : TaskContext)
    (expectedRevision : Option ℕ) : Call (Ledger × Task) := do
  let row ← l.getTask id
  let before ← demand row (.error s!"Task not found: {id}")
  refuse (truthy before.deletedAt = true) (.error s!"Task is deleted: {id}")
  let desired := parsed.apply before.toCommitmentFields
  let desiredValidationRequired := parsed.validationRequired.getD before.validationRequired
  refuse (desired.completionMode = .evidence ∧ Unstated desired.successCriteria)
    (.error "Evidence-backed tasks require explicit successCriteria")
  refuse (desiredValidationRequired = true ∧ desired.completionMode ≠ .evidence)
    (.error "Independently validated tasks must use evidence completion mode")
  refuse (Terminal before.status ∧ (parsed.completionMode.isSome ∨ parsed.successCriteria.isSome ∨
      parsed.validationRequired.isSome))
    (.error "Cannot change completion semantics on a terminal task; reopen it first")
  if updateChanges parsed before = false then pure (l, before)
  else do
    let desiredParent := parsed.parentTaskId.getD before.parentTaskId
    l.assertReparent id before.parentTaskId desiredParent
    let adoptsProjectScope := ∃ p ∈ parsed.projectId.join, some p ≠ before.projectId
    let inherit (supplied : Option (Option UuidV7)) (previous : Option UuidV7) : Option UuidV7 :=
      match supplied with
      | some value => value
      | none => if desiredParent.isSome ∨ adoptsProjectScope then none else previous
    let scope ← l.resolveScope
      { parentTaskId := desiredParent
        projectId :=
          match parsed.projectId with
          | some value => value
          | none => if desiredParent.isSome then none else before.projectId
        goalId := inherit parsed.goalId before.goalId
        areaId := inherit parsed.areaId before.areaId }
    refuse (∃ r ∈ expectedRevision, before.revision ≠ r)
      (.error s!"Stale task revision: expected {expectedRevision.getD 0}")
    -- The evidence trigger on `task` repeats the check on the desired state made above.
    let after : Task := { before with
      toCommitmentFields := desired
      validationRequired := desiredValidationRequired
      projectId := scope.projectId
      goalId := scope.goalId
      areaId := scope.areaId
      parentTaskId := scope.parentTaskId
      revision := before.revision + 1
      updatedAt := ctx.now }
    let l := { l with tasks := l.tasks.insert id after }
    let row ← l.getTask id
    let result ← demand row (.error s!"Task not found: {id}")
    let l ← l.recordEvent rt ctx.actor ctx.principalId
    pure (l, result)

/-! ### Soft delete -/

/-- Release one claim of a task that is deleted. -/
def releaseClaim (actor : String) (now : UnixMs) (l : Ledger) (claimId : UuidV7) : Call Ledger :=
  match l.claims[claimId]? with
  | none => pure l
  | some claim => do
    refuse (now < claim.acquiredAt ∨ now < claim.createdAt)
      (.constraint "invalid task claim invariant")
    let l := { l with claims := l.claims.insert claimId { claim with releasedAt := some now } }
    l.recordEvent rt actor none

/-- Cancel one attempt on a task that is deleted. -/
def cancelAttempt (actor : String) (now : UnixMs) (l : Ledger) (attemptId : UuidV7) :
    Call Ledger :=
  match l.attempts[attemptId]? with
  | none => pure l
  | some attempt => do
    refuse (now < attempt.startedAt) (.constraint "invalid task attempt lifecycle")
    let l := { l with attempts := l.attempts.insert attemptId { attempt with status := .cancelled } }
    l.recordEvent rt actor none

/-- Cancel one wait condition of a task that is deleted. -/
def cancelWait (actor : String) (now : UnixMs) (l : Ledger) (waitId : UuidV7) : Call Ledger :=
  match l.waits[waitId]? with
  | none => pure l
  | some wait => do
    refuse (now < wait.createdAt) (.constraint "wait_condition_lifecycle_check")
    let l := { l with waits := l.waits.insert waitId { wait with status := .cancelled } }
    l.recordEvent rt actor none

/-- `closeAgentExecutionForDeletion` -/
def closeAgentExecutionForDeletion (taskId : UuidV7) (actor : String) (now : UnixMs) :
    Call Ledger := do
  let claims := Table.keysWhere l.claims fun _ c => c.taskId = taskId && c.releasedAt.isNone
  let l ← claims.foldlM (releaseClaim rt actor now) l
  let attempts := Table.keysWhere l.attempts fun _ a =>
    a.taskId = taskId && (a.status = .running || a.status = .inputRequired)
  let l ← attempts.foldlM (cancelAttempt rt actor now) l
  let waits := Table.keysWhere l.waits fun _ w => w.taskId = taskId && w.status = .waiting
  waits.foldlM (cancelWait rt actor now) l

/-- The tombstone of a row. -/
def tombstone (now : UnixMs) (row : Task) : Task :=
  { row with deletedAt := some now, updatedAt := now, revision := row.revision + 1 }

/-- `softDeleteTaskTx`, with a bound on its depth. -/
def softDeleteFrom (actor : String) (now : UnixMs) : ℕ → Ledger → UuidV7 → Call Ledger
  | 0, _, _ => .error .unbounded
  | depth + 1, l, id =>
    match l.tasks[id]? with
    | none => pure l
    | some existing =>
      if existing.deletedAt.isSome then pure l
      else do
        let l ← (l.liveSubtaskIds id).foldlM (softDeleteFrom actor now depth) l
        let l ← l.closeAgentExecutionForDeletion rt id actor now
        let l := { l with tasks := l.tasks.modify id (tombstone now) }
        l.recordEvent rt actor none

/-- `softDeleteTaskTx`. The rows on one way down are distinct unless the hierarchy has a cycle, so
    a longer way than there are rows does not end. -/
def softDeleteTaskTx (id : UuidV7) (actor : String) (now : UnixMs) : Call Ledger :=
  softDeleteFrom rt actor now (l.tasks.size + 1) l id

/-! ### Restore -/

/-- `restoreTaskInTransaction` -/
def restoreTaskInTransaction (id : UuidV7) (ctx : TaskContext) : Call (Ledger × Task) := do
  let row ← l.getTask id
  let existing ← demand row (.error s!"Task not found: {id}")
  if truthy existing.deletedAt = false then pure (l, existing)
  else do
    match existing.parentTaskId with
    | none => pure ()
    | some parentTaskId => do
      let parent ← l.getTask parentTaskId
      let parent ← demand parent (.error s!"Parent task not found: {parentTaskId}")
      refuse (truthy parent.deletedAt = true)
        (.error s!"Cannot restore task {id}: parent task is deleted: {parentTaskId}")
    assertLiveAncestors existing
    let after : Task :=
      { existing with deletedAt := none, updatedAt := ctx.now, revision := existing.revision + 1 }
    let l := { l with tasks := l.tasks.insert id after }
    let l ← l.recordEvent rt ctx.actor ctx.principalId
    let row ← l.getTask id
    let result ← demand row (.error s!"Task not found: {id}")
    pure (l, result)

end Ledger

end Tasq
