import Mathlib.Tactic
import Tasq.Replication.Command

/-! The outgoing queue of a replica: local commands become operations, and pending operations become
    a push request. -/

namespace Tasq

open Outcome

/-- `ReplicatedMutationContext`, with the reading of its clock. -/
structure ReplicatedMutationContext where
  workspaceId : String
  actor : String
  principalId : Option String
  now : UnixMs
  deriving DecidableEq

/-- `QueueReplicationResult` -/
structure QueueReplicationResult where
  commitment : ReplicatedCommitmentSnapshot
  operation : ReplicationOperation

/-- `operationCaller` -/
def operationCaller (rt : Runtime) (context : ReplicatedMutationContext) : String :=
  context.principalId.getD (localPrincipalId rt context.workspaceId context.actor)

/-- The record state of a snapshot that may be absent. -/
def recordState (rt : Runtime) (recordId : UuidV7) (snapshot : Option ReplicatedCommitmentSnapshot) :
    Call ReplicationRecordState := do
  match snapshot with
  | none => pure ⟨recordId, none, none⟩
  | some s => do
    let digest ← stateDigest rt s
    pure ⟨recordId, some digest, some s⟩

/-- Digest and parse an operation: `ReplicationOperation.parse({ ...unsigned, operationDigest })`. -/
def signOperation (rt : Runtime) (unsigned : UnsignedOperation) : Call ReplicationOperation := do
  let digest ← operationDigest rt unsigned
  ReplicationOperation.parse { unsigned with operationDigest := digest }

/-- The record state that `recordState` answers. -/
def recordStateOf (rt : Runtime) (recordId : UuidV7)
    (snapshot : Option ReplicatedCommitmentSnapshot) : ReplicationRecordState :=
  ⟨recordId, snapshot.map rt.stateOf, snapshot⟩

theorem recordState_eq_ok (rt : Runtime) (recordId : UuidV7)
    (snapshot : Option ReplicatedCommitmentSnapshot) (state : ReplicationRecordState) :
    recordState rt recordId snapshot = .ok state ↔
      (∀ s ∈ snapshot, safe (semanticState s) = true) ∧
        recordStateOf rt recordId snapshot = state := by
  cases snapshot with
  | none => simp [recordState, recordStateOf]
  | some s => simp [recordState, recordStateOf, map_eq_ok, stateDigest_eq_ok]

/-- The operation that `signOperation` answers. -/
def signedOperation (rt : Runtime) (unsigned : UnsignedOperation) : ReplicationOperation :=
  ⟨unsigned.trimmed, rt.operationOf unsigned⟩

theorem signOperation_eq_ok (rt : Runtime) (unsigned : UnsignedOperation)
    (operation : ReplicationOperation) :
    signOperation rt unsigned = .ok operation ↔
      safe unsigned = true ∧ unsigned.WellFormed ∧ signedOperation rt unsigned = operation := by
  simp [signOperation, bind_eq_ok, operationDigest_eq_ok, ReplicationOperation.parse_eq_ok,
    ReplicationOperation.trimmed, signedOperation, and_assoc]

@[simp] theorem signedOperation_trimmed (rt : Runtime) (unsigned : UnsignedOperation) :
    (signedOperation rt unsigned).trimmed = signedOperation rt unsigned := by
  simp [signedOperation, ReplicationOperation.trimmed]

/-- A signed operation reads back from its stored text as that text. -/
theorem signedOperation_stored (rt : Runtime) {unsigned : UnsignedOperation}
    (h : unsigned.WellFormed) :
    (canonical (signedOperation rt unsigned)).parse = .ok (canonical (signedOperation rt unsigned)) := by
  rw [ReplicationOperation.parse_eq_ok, ← ReplicationOperation.canonical_trimmed,
    signedOperation_trimmed]
  refine ⟨?_, rfl⟩
  change (canonical unsigned.trimmed).WellFormed
  rwa [UnsignedOperation.wellFormed_canonical, UnsignedOperation.wellFormed_trimmed]

/-- `REPLICATION_LIMITS` -/
structure ReplicationLimits where
  pushOperations : ℕ := 500
  pushBytes : ℕ := 8 * 1024 * 1024
  operationBytes : ℕ := 1024 * 1024
  pullEntries : ℕ := 1000

/-- `REPLICATION_LIMITS` -/
def replicationLimits : ReplicationLimits := {}

/-- `queueCommand` -/
def queueCommand (rt : Runtime) (db : Database) (command : ReplicationCommand)
    (context : ReplicatedMutationContext) : Call (Database × QueueReplicationResult) := do
  assertWorkspaceId context.workspaceId
  assertNonBlank context.actor "actor"
  context.principalId.forM fun principalId => assertNonBlank principalId "principalId"
  let now ← clockSnapshot context.now
  let recordId := operationRecordId command
  let localReplica ← db.requireLocalReplica context.workspaceId
  let before ← getProjection db.ledger recordId
  refuse (command.isCreate = true ∧ recordId ∈ db.retired)
    (.error s!"Commitment identity is retired: {recordId}")
  let (ledger, snapshot) ← applyCommandInTransaction rt db.ledger command
    ⟨context.actor, context.principalId, now⟩
  let precondition ← recordState rt recordId before
  let outcome ← recordState rt recordId (some snapshot)
  let operation ← signOperation rt
    { workspaceId := context.workspaceId
      origin := ⟨localReplica.replicaId, localReplica.generationId, localReplica.nextCounter,
        localReplica.previousDigest⟩
      causalBase := ⟨localReplica.authorityReplicaId, localReplica.authorityEpoch,
        localReplica.observedSequence⟩
      callerPrincipalId := operationCaller rt context
      command := command
      preconditions := [precondition]
      outcomes := [outcome]
      occurredAt := now }
  let operationJson ← replicationCanonicalJson operation
  refuse (rt.operationBytes operationJson > replicationLimits.operationBytes)
    (.protocol .payloadTooLarge "Replication operation exceeds 1 MiB")
  let db ← Database.insertOutgoing { db with ledger := ledger } localReplica.nextCounter
    { operationDigest := operation.operationDigest
      previousDigest := localReplica.previousDigest
      operation := operationJson
      status := .pending
      authoritySequence := none
      createdAt := now
      updatedAt := now }
  let advanced : LocalReplica := { localReplica with
    nextCounter := localReplica.nextCounter + 1
    previousDigest := some operation.operationDigest
    updatedAt := now }
  pure ({ db with localReplica := some advanced }, ⟨snapshot, operation⟩)

/-- The pending rows in counter order. -/
def Database.pendingRows (db : Database) : List (ℕ × OutgoingRow) :=
  Table.rows db.outgoing fun _ row => row.status = .pending

/-- `listPendingReplicationOperations` -/
def listPendingReplicationOperations (db : Database) (workspaceId : String) (limit : ℕ) :
    Call (List ReplicationOperation) := do
  refuse (limit < 1 ∨ replicationLimits.pushOperations < limit)
    (.error s!"Replication operation limit must be 1..{replicationLimits.pushOperations}")
  let _ ← db.requireLocalReplica workspaceId
  (db.pendingRows.take limit).mapM fun row => row.2.operation.parse

/-- `buildReplicationPushRequest` -/
def buildReplicationPushRequest (db : Database) (workspaceId : String) (limit : ℕ) :
    Call ReplicationPushRequest := do
  let operations ← listPendingReplicationOperations db workspaceId limit
  match operations with
  | [] => .error (.error "No pending replication operations")
  | first :: _ =>
    ReplicationPushRequest.parse
      { workspaceId := workspaceId
        replicaId := first.origin.replicaId
        generationId := first.origin.generationId
        operations := operations }

end Tasq
