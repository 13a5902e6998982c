import Mathlib.Tactic
import Tasq.Replication.Store
import Tasq.TaskEffects

/-! The commitment projection of a task row, and the commands of the contract as calls of the task
    service. -/

namespace Tasq

open Outcome

/-- `taskToProjection` -/
def taskToProjection (id : UuidV7) (row : Task) : Call ReplicatedCommitmentSnapshot := do
  refuse (row.projectId.isSome ∨ row.goalId.isSome ∨ row.areaId.isSome ∨ row.parentTaskId.isSome)
    (.protocol .projectionViolation
      s!"Commitment {id} uses compatibility-profile hierarchy fields outside tasq.commitment-projection.v1")
  refuse (row.validationRequired = true)
    (.protocol .projectionViolation
      s!"Commitment {id} requires authority-only resolution records outside tasq.commitment-projection.v1")
  pure { row with id := id }

/-- `getProjection` -/
def getProjection (l : Ledger) (recordId : UuidV7) : Call (Option ReplicatedCommitmentSnapshot) := do
  match ← l.getTask recordId with
  | none => pure none
  | some row => do
    let snapshot ← taskToProjection recordId row
    pure (some snapshot)

/-- `applyCommandInTransaction` -/
def applyCommandInTransaction (rt : Runtime) (l : Ledger) (command : ReplicationCommand)
    (ctx : TaskContext) : Call (Ledger × ReplicatedCommitmentSnapshot) :=
  match command with
  | .createCommitment input => do
    let (l, created) ← l.createTaskInTransaction rt (.ofCreate input) ctx
    let snapshot ← taskToProjection input.id created
    pure (l, snapshot)
  | .updateCommitment id patch => do
    let row ← l.getTask id
    let before ← demand row (.error s!"Task not found: {id}")
    let _ ← taskToProjection id before
    let (l, updated) ← l.updateTaskInTransaction rt id (.ofPatch patch.1) ctx (some before.revision)
    let snapshot ← taskToProjection id updated
    pure (l, snapshot)
  | .deleteCommitment id => do
    let row ← l.getTask id
    let before ← demand row (.error s!"Task not found: {id}")
    let _ ← taskToProjection id before
    let l ← l.softDeleteTaskTx rt id ctx.actor ctx.now
    let row ← l.getTask id
    let after ← demand row (.error s!"Deleted task disappeared: {id}")
    let snapshot ← taskToProjection id after
    pure (l, snapshot)
  | .restoreCommitment id => do
    let (l, restored) ← l.restoreTaskInTransaction rt id ctx
    let snapshot ← taskToProjection id restored
    pure (l, snapshot)

end Tasq
