import Mathlib.Tactic
import Tasq.Replication.Queue

/-! The verifier of one operation: it recomputes the digests and derives the outcome of the command
    from the claimed base, without the task service. -/

namespace Tasq

open Outcome

/-- The nullability and the digest of one record state. -/
def verifyRecordState (rt : Runtime) (state : ReplicationRecordState) : Call Unit := do
  refuse (state.snapshot.isNone ≠ state.stateDigest.isNone)
    (.protocol .operationDigestMismatch "Snapshot and state digest nullability differ")
  match state.snapshot with
  | none => pure ()
  | some snapshot => do
    let digest ← stateDigest rt snapshot
    refuse (some digest ≠ state.stateDigest)
      (.protocol .operationDigestMismatch "Record state digest does not match snapshot")

/-- The result of a command on its base, as the verifier derives it. -/
def expectedSnapshot (command : ReplicationCommand) (base : Option ReplicatedCommitmentSnapshot)
    (occurredAt : UnixMs) : Call ReplicatedCommitmentSnapshot :=
  match command with
  | .createCommitment input => do
    refuse (base.isSome) (.protocol .operationDigestMismatch "Create requires an absent base")
    pure { input with
      status := .open, startedAt := none, completedAt := none, lastDoneAt := none, streak := 0
      recurrenceParentId := none, createdAt := occurredAt, updatedAt := occurredAt
      deletedAt := none }
  | .updateCommitment _ patch => do
    let base ← demand base (.protocol .operationDigestMismatch "Update requires a base snapshot")
    let changed := patch.1.differs (fun m n => canonical m = canonical n) base.toCommitmentFields
    pure { base with
      toCommitmentFields := patch.1.apply base.toCommitmentFields
      updatedAt := if changed then occurredAt else base.updatedAt }
  | .deleteCommitment _ => do
    let base ← demand base (.protocol .operationDigestMismatch "Delete requires a base snapshot")
    pure (if base.deletedAt = none then
      { base with deletedAt := some occurredAt, updatedAt := occurredAt } else base)
  | .restoreCommitment _ => do
    let base ← demand base (.protocol .operationDigestMismatch "Restore requires a base snapshot")
    pure (if base.deletedAt ≠ none then
      { base with deletedAt := none, updatedAt := occurredAt } else base)

/-- `verifyOperation` -/
def verifyOperation (rt : Runtime) (operation : ReplicationOperation) : Call Unit := do
  let digest ← operationDigest rt operation.toUnsignedOperation
  refuse (digest ≠ operation.operationDigest)
    (.protocol .operationDigestMismatch "Operation digest does not match canonical content")
  match operation.preconditions, operation.outcomes with
  | [precondition], [outcome] => do
    let recordId := operationRecordId operation.command
    refuse (precondition.recordId ≠ recordId ∨ outcome.recordId ≠ recordId)
      (.protocol .operationDigestMismatch "Command and record state identities differ")
    verifyRecordState rt precondition
    verifyRecordState rt outcome
    let intended ← demand outcome.snapshot
      (.protocol .operationDigestMismatch "Commitment commands require an intended snapshot")
    let expected ← expectedSnapshot operation.command precondition.snapshot operation.occurredAt
    let expectedJson ← replicationCanonicalJson expected
    let intendedJson ← replicationCanonicalJson intended
    refuse (expectedJson ≠ intendedJson)
      (.protocol .operationDigestMismatch
        "Declared outcome is not the deterministic result of the explicit command and base")
  | _, _ => .error (.protocol .unsupportedOperation
      "v1 commitment operations require one record state")

/-! ### What a verified operation carries -/

/-- A record state with the digest of its own snapshot. -/
def ReplicationRecordState.Digested (rt : Runtime) (state : ReplicationRecordState) : Prop :=
  (∀ s ∈ state.snapshot, safe (semanticState s) = true) ∧
    state.stateDigest = state.snapshot.map rt.stateOf

theorem verifyRecordState_eq_ok (rt : Runtime) (state : ReplicationRecordState) (u : Unit) :
    verifyRecordState rt state = .ok u ↔ state.Digested rt := by
  obtain ⟨recordId, digest, snapshot⟩ := state
  cases snapshot with
  | none => cases digest <;> simp [verifyRecordState, ReplicationRecordState.Digested]
  | some s =>
    cases digest with
    | none => simp [verifyRecordState, ReplicationRecordState.Digested, bind_eq_ok]
    | some d =>
      simp [verifyRecordState, ReplicationRecordState.Digested, bind_eq_ok, stateDigest_eq_ok,
        eq_comm (a := d)]

/-- What `verifyOperation` establishes. -/
structure Verified (rt : Runtime) (operation : ReplicationOperation)
    (precondition outcome : ReplicationRecordState) (intended : ReplicatedCommitmentSnapshot) :
    Prop where
  safe_unsigned : safe operation.toUnsignedOperation = true
  digest : rt.operationOf operation.toUnsignedOperation = operation.operationDigest
  preconditions : operation.preconditions = [precondition]
  outcomes : operation.outcomes = [outcome]
  precondition_id : precondition.recordId = operationRecordId operation.command
  outcome_id : outcome.recordId = operationRecordId operation.command
  precondition_digest : precondition.Digested rt
  outcome_digest : outcome.Digested rt
  intended_eq : outcome.snapshot = some intended
  safe_intended : safe intended = true
  derived : ∃ expected, expectedSnapshot operation.command precondition.snapshot
    operation.occurredAt = .ok expected ∧ canonical expected = canonical intended

/-- VERIFY: completes exactly on operations with one record state each way, digests of their own
    content, and an outcome that the command derives from the base. -/
theorem verifyOperation_eq_ok (rt : Runtime) (operation : ReplicationOperation) (u : Unit) :
    verifyOperation rt operation = .ok u ↔
      ∃ precondition outcome intended, Verified rt operation precondition outcome intended := by
  constructor
  · intro h
    simp only [verifyOperation, bind_eq_ok, operationDigest_eq_ok, refuse_eq_ok, not_not] at h
    obtain ⟨_, ⟨hsafe, rfl⟩, -, hdigest, h⟩ := h
    split at h
    · rename_i precondition outcome hpre hout
      simp only [bind_eq_ok, refuse_eq_ok, verifyRecordState_eq_ok, demand_eq_ok, not_or, not_not,
        replicationCanonicalJson_eq_ok] at h
      obtain ⟨-, ⟨hpid, hoid⟩, -, hpd, -, hod, intended, hi, expected, he, _, ⟨-, rfl⟩, _,
        ⟨hsi, rfl⟩, heq⟩ := h
      exact ⟨precondition, outcome, intended, hsafe, hdigest, hpre, hout, hpid, hoid, hpd, hod, hi,
        hsi, expected, he, heq⟩
    · cases h
  · rintro ⟨precondition, outcome, intended, h⟩
    obtain ⟨expected, he, heq⟩ := h.derived
    have hse : safe expected = true := by
      rw [← CanonicalJson.safe_canonical, heq, CanonicalJson.safe_canonical, h.safe_intended]
    simp only [verifyOperation, bind_eq_ok, operationDigest_eq_ok, refuse_eq_ok, not_not]
    refine ⟨_, ⟨h.safe_unsigned, rfl⟩, (), h.digest, ?_⟩
    rw [h.preconditions, h.outcomes]
    simp only [bind_eq_ok, refuse_eq_ok, verifyRecordState_eq_ok, demand_eq_ok, not_or, not_not,
      replicationCanonicalJson_eq_ok]
    exact ⟨(), ⟨h.precondition_id, h.outcome_id⟩, (), h.precondition_digest, (), h.outcome_digest,
      intended, h.intended_eq, expected, he, _, ⟨hse, rfl⟩, _, ⟨h.safe_intended, rfl⟩, heq⟩

end Tasq
