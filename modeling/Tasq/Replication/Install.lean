import Mathlib.Tactic
import Tasq.Replication.Authority

/-! The other side of the exchange: a replica acknowledges push responses, and installs a snapshot
    under its pending operations.

    Installing resets every record that replication knows, inserts the records of the snapshot and
    runs the pending commands again (`replayOperation`), each as a new operation under its old
    dot. -/

namespace Tasq

open Outcome

/-! ### Acknowledgement -/

/-- The status that a disposition gives an outgoing row. -/
def ReplicationDisposition.status : ReplicationDisposition → OutgoingStatus
  | .applied => .applied
  | .equivalent => .equivalent
  | .conflicted => .conflicted

/-- One result of a push response against the outgoing queue. -/
def acknowledgeResult (localReplica : LocalReplica) (now : UnixMs) (db : Database)
    (result : ReplicationOperationResult) : Call Database := do
  refuse (result.replicaId ≠ localReplica.replicaId ∨
      result.generationId ≠ localReplica.generationId)
    (.protocol .unauthenticatedOrigin "Push result belongs to another local generation")
  let differs := Failure.protocol .identityCorruption
    s!"Acknowledgement differs from durable state for counter {result.counter}"
  let row ← demand db.outgoing[result.counter]? differs
  if row.operationDigest = result.operationDigest ∧ row.status = .pending then
    let acknowledged : OutgoingRow := { row with
      status := result.disposition.status
      authoritySequence := some result.authoritySequence
      updatedAt := now }
    pure { db with outgoing := db.outgoing.insert result.counter acknowledged }
  else do
    refuse (row.operationDigest ≠ result.operationDigest ∨ row.status ≠ result.disposition.status ∨
      row.authoritySequence ≠ some result.authoritySequence) differs
    pure db

/-- `acknowledgeReplicationPush` -/
def acknowledgeReplicationPush (rt : Runtime) (db : Database) (input : ReplicationPushResponse)
    (now : UnixMs) : Call Database := do
  let response ← ReplicationPushResponse.parse rt input
  let now ← clockSnapshot now
  let localReplica ← db.requireLocalReplica response.workspaceId
  refuse (localReplica.authorityReplicaId ≠ response.authorityReplicaId ∨
      localReplica.authorityEpoch ≠ response.authorityEpoch)
    (.protocol .authorityEpochMismatch "Push response belongs to another authority epoch")
  response.results.foldlM (acknowledgeResult localReplica now) db

/-! ### Installation -/

/-- `rawTaskFromSnapshot` -/
def rawTaskFromSnapshot (snapshot : ReplicatedCommitmentSnapshot) : Call Task := do
  let metadata ← replicationCanonicalJson snapshot.metadata
  pure { snapshot with
    metadata := metadata
    projectId := none, goalId := none, areaId := none, parentTaskId := none
    validationRequired := false
    revision := 1 }

/-- Insert one record of a snapshot. -/
def installRecord (coveredSequence : ℕ) (now : UnixMs) (db : Database)
    (record : ReplicationSnapshotRecord) : Call Database := do
  let row ← rawTaskFromSnapshot record.snapshot
  let ledger ← db.ledger.insertTask record.snapshot.id row
  refuse (record.recordId ∈ db.materialized)
    (.constraint "replication_materialized_record primary key")
  pure { db with
    ledger := ledger
    materialized := db.materialized.insert record.recordId
      ⟨record.stateDigest, coveredSequence, now⟩ }

/-- Insert one retired identity of a snapshot. -/
def installRetired (db : Database) (record : ReplicationRetiredIdentity) : Call Database := do
  refuse (record.recordId ∈ db.retired) (.constraint "replication_retired_identity primary key")
  pure { db with
    retired := db.retired.insert record.recordId ⟨record.tombstoneDigest, record.retiredAt⟩ }

/-- Insert one unresolved conflict of a snapshot. -/
def installConflict (db : Database) (conflict : ReplicationConflict) : Call Database := do
  let baseSnapshot ← replicationCanonicalJson conflict.baseSnapshot
  let authoritySnapshot ← replicationCanonicalJson conflict.authoritySnapshot
  let incomingSnapshot ← replicationCanonicalJson conflict.incomingSnapshot
  db.insertConflict { conflict with
    baseSnapshot := baseSnapshot
    authoritySnapshot := authoritySnapshot
    incomingSnapshot := incomingSnapshot }

/-- The records that an installation resets. -/
def resetIds (db : Database) (pending : List ReplicationOperation) (snapshot : ReplicationSnapshot) :
    List UuidV7 :=
  (db.materialized.keys ++ pending.map (fun o => operationRecordId o.command) ++
    snapshot.records.map (·.recordId) ++ snapshot.retiredIdentities.map (·.recordId)).dedup

/-- The tables of a snapshot in place of the replicated records of the store. -/
def installTables (db : Database) (pending : List ReplicationOperation)
    (snapshot : ReplicationSnapshot) (now : UnixMs) : Call Database := do
  let ledger ← db.ledger.deleteTasks (resetIds db pending snapshot)
  let db := { db with ledger := ledger, materialized := ∅, retired := ∅, conflicts := ∅ }
  let db ← snapshot.records.foldlM (installRecord snapshot.coveredSequence now) db
  let db ← snapshot.retiredIdentities.foldlM installRetired db
  snapshot.unresolvedConflicts.foldlM installConflict db

/-- `UPDATE replication_outgoing_operation` of a rebased operation. -/
def Database.rebaseOutgoing (db : Database) (counter : ℕ) (previousDigest : Option Digest)
    (rebased operationJson : ReplicationOperation) (now : UnixMs) : Call Database := do
  refuse (Table.has db.outgoing (fun c r => c ≠ counter &&
      r.operationDigest = rebased.operationDigest) = true)
    (.constraint "uniq_replication_outgoing_digest")
  pure { db with outgoing := db.outgoing.modify counter fun row =>
    { row with
      previousDigest := previousDigest
      operationDigest := rebased.operationDigest
      operation := operationJson
      updatedAt := now } }

/-- One pending operation on the new base: the accepted prefix stays as it is, and every other
    operation is made again, from the record as it stands when the command can be replayed. -/
def replayOperation (rt : Runtime) (snapshot : ReplicationSnapshot) (acceptedCounter : ℕ)
    (actor : String) (now : UnixMs) (state : Database × Option Digest)
    (operation : ReplicationOperation) : Call (Database × Option Digest) := do
  let (db, previousDigest) := state
  if operation.origin.counter ≤ acceptedCounter then
    pure (db, some operation.operationDigest)
  else do
    let recordId := operationRecordId operation.command
    let before ← getProjection db.ledger recordId
    let priorUnsigned := operation.toUnsignedOperation
    let cannotReplay := operation.command.isCreate == before.isSome
    let (ledger, preconditions, outcomes) ←
      if cannotReplay then
        pure (db.ledger, priorUnsigned.preconditions, priorUnsigned.outcomes)
      else do
        let (ledger, applied) ← applyCommandInTransaction rt db.ledger operation.command
          ⟨actor, none, operation.occurredAt⟩
        let precondition ← recordState rt recordId before
        let outcome ← recordState rt recordId (some applied)
        pure (ledger, [precondition], [outcome])
    let rebased ← signOperation rt { priorUnsigned with
      origin := { operation.origin with previousDigest := previousDigest }
      causalBase := ⟨snapshot.authorityReplicaId, snapshot.authorityEpoch, snapshot.coveredSequence⟩
      preconditions := preconditions
      outcomes := outcomes }
    let operationJson ← replicationCanonicalJson rebased
    let db ← Database.rebaseOutgoing { db with ledger := ledger } operation.origin.counter
      previousDigest rebased operationJson now
    pure (db, some rebased.operationDigest)

/-- The frontier of a snapshot for the local generation, checked against the outgoing queue. -/
def checkFrontier (db : Database) (localReplica : LocalReplica) (snapshot : ReplicationSnapshot) :
    Call ReplicationAcceptedFrontier := do
  let acceptedFrontier ← demand
    (snapshot.acceptedFrontiers.find? fun f =>
      f.replicaId = localReplica.replicaId && f.generationId = localReplica.generationId)
    (.protocol .projectionViolation "Snapshot does not contain the local registered generation frontier")
  refuse (acceptedFrontier.acceptedCounter ≥ localReplica.nextCounter)
    (.protocol .identityCorruption
      "Authority accepted a counter this local generation never durably allocated")
  refuse (acceptedFrontier.acceptedCounter > 0 ∧
      db.outgoing[acceptedFrontier.acceptedCounter]?.map (fun row => some row.operationDigest) ≠
        some acceptedFrontier.acceptedDigest)
    (.protocol .identityCorruption "Authority and local generation disagree at the accepted frontier")
  pure acceptedFrontier

/-- `installReplicationSnapshotAndRebase` -/
def installReplicationSnapshotAndRebase (rt : Runtime) (db : Database)
    (input : ReplicationSnapshot) (actor : String) (cursor : Option Cursor) (now : UnixMs) :
    Call (Database × ℕ) := do
  let snapshot ← verifySnapshot rt input
  let now ← clockSnapshot now
  let localReplica ← db.requireLocalReplica snapshot.workspaceId
  refuse (localReplica.authorityReplicaId ≠ snapshot.authorityReplicaId ∨
      localReplica.authorityEpoch ≠ snapshot.authorityEpoch)
    (.protocol .authorityEpochMismatch "Snapshot belongs to another authority epoch")
  refuse (snapshot.coveredSequence < localReplica.observedSequence)
    (.protocol .authorityEpochMismatch
      "Authority sequence regressed without the mandatory authority epoch rotation")
  let pending ← db.pendingRows.mapM fun row => row.2.operation.parse
  let acceptedFrontier ← checkFrontier db localReplica snapshot
  let db ← installTables db pending snapshot now
  -- `null` is a meaningful predecessor: it is not replaced by the local tail digest.
  let first := match pending.head? with
    | some operation => operation.origin.previousDigest
    | none => localReplica.previousDigest
  let (db, previousDigest) ← pending.foldlM
    (replayOperation rt snapshot acceptedFrontier.acceptedCounter actor now) (db, first)
  let pullCursor ← match cursor with
    | some cursor => pure cursor
    | none => encodeCursor rt ⟨snapshot.workspaceId, snapshot.authorityReplicaId,
        snapshot.authorityEpoch, snapshot.coveredSequence⟩
  let observed : LocalReplica := { localReplica with
    authorityReplicaId := snapshot.authorityReplicaId
    authorityEpoch := snapshot.authorityEpoch
    observedSequence := snapshot.coveredSequence
    pullCursor := some pullCursor
    previousDigest := if pending = [] then localReplica.previousDigest else previousDigest
    updatedAt := now }
  pure ({ db with localReplica := some observed }, pending.length)

end Tasq
