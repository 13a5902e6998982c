import Mathlib.Tactic
import Tasq.Replication.Snapshot

/-! The other calls of an authority: setting up, registering replicas, serving pulls, pruning the
    accepted history, retiring tombstones and recovering under a fresh epoch. -/

namespace Tasq

open Text Outcome

/-! ### Setting up -/

/-- `initializeReplicationAuthority`, with the identifiers given or generated. -/
def initializeReplicationAuthority (db : Database) (workspaceId : String)
    (authorityReplicaId authorityEpoch : UuidV7) (now : UnixMs) : Call Database := do
  assertWorkspaceId workspaceId
  let now ← clockSnapshot now
  match db.within workspaceId db.authority with
  | some existing => do
    refuse (existing.authorityReplicaId ≠ authorityReplicaId)
      (.error "Replication authority replica identity already differs")
    refuse (existing.authorityEpoch ≠ authorityEpoch)
      (.error "Replication authority epoch already differs")
    pure db
  | none =>
    let row : ReplicationAuthority := ⟨authorityReplicaId, authorityEpoch, 0, 0, now, now⟩
    -- A row of another workspace is not a row of this one.
    pure (if workspaceId = db.workspaceId then { db with authority := some row } else db)

/-- `initializeLocalReplica` -/
def initializeLocalReplica (db : Database) (workspaceId : String)
    (replicaId generationId authorityReplicaId authorityEpoch : UuidV7) (observedSequence : ℕ)
    (pullCursor : Option Cursor) (now : UnixMs) : Call Database := do
  assertWorkspaceId workspaceId
  refuse (Json.maxSafeInteger < observedSequence)
    (.error "observedSequence must be a non-negative safe integer")
  let now ← clockSnapshot now
  match db.within workspaceId db.localReplica with
  | some existing => do
    refuse (existing.replicaId ≠ replicaId ∨ existing.generationId ≠ generationId)
      (.error "Local replica already has a different generation identity")
    refuse (existing.authorityReplicaId ≠ authorityReplicaId ∨
        existing.authorityEpoch ≠ authorityEpoch)
      (.error "Local replica already targets a different authority epoch")
    pure db
  | none =>
    let row : LocalReplica := ⟨replicaId, generationId, 1, none, authorityReplicaId, authorityEpoch,
      observedSequence, pullCursor, now, now⟩
    pure (if workspaceId = db.workspaceId then { db with localReplica := some row } else db)

/-- `registerReplicationReplica` -/
def registerReplicationReplica (db : Database) (workspaceId : String)
    (replicaId generationId : UuidV7) (principalId : String) (now : UnixMs) : Call Database := do
  assertWorkspaceId workspaceId
  assertNonBlank principalId "principalId"
  let now ← clockSnapshot now
  let _ ← db.requireAuthority workspaceId
  let key := generation replicaId generationId
  -- The first row of the replica, whatever its generation.
  let identity := (Table.rows db.replicas fun k _ => (ofLex k).1 = replicaId).head?
  refuse (∃ row ∈ identity, row.2.principalId ≠ principalId)
    (.protocol .unauthenticatedOrigin "Replica identity is already bound to another principal")
  match db.replicas[key]? with
  | some row => do
    refuse (row.principalId ≠ principalId)
      (.protocol .unauthenticatedOrigin "Replica generation belongs to another principal")
    refuse (row.status = .revoked)
      (.protocol .replicaRevoked "A revoked replica generation cannot re-register")
    refuse (row.status = .stale ∨ row.Silent now)
      (.protocol .replicaStale
        "A stale generation must bootstrap from a verified snapshot before reactivation")
    pure { db with replicas := db.replicas.insert key { row.contacted now with status := .active } }
  | none => do
    let row : ReplicaRow := ⟨principalId, .active, 0, none, 0, now, now, now⟩
    pure { db with replicas := db.replicas.insert key row }

/-! ### Pull -/

/-- `PullReplicationOptions` -/
structure PullReplicationOptions where
  workspaceId : String
  replicaId : UuidV7
  generationId : UuidV7
  authenticatedReplicaId : UuidV7
  authenticatedPrincipalId : String
  cursor : Option Cursor
  limit : ℕ
  now : UnixMs

/-- `ReplicationPullResponse` -/
structure ReplicationPullResponse where
  workspaceId : String
  authorityReplicaId : UuidV7
  authorityEpoch : UuidV7
  /-- The accepted entries and whether more follow; `none` when the cursor has expired. -/
  incremental : Option (List ReplicationOperationResult × Bool)
  minimumRetainedSequence : ℕ
  snapshot : ReplicationSnapshot
  nextCursor : Cursor
  deriving DecidableEq

/-- `decodeCursor` -/
def decodeCursor (rt : Runtime) : Cursor → Call CursorContent
  | .other _ => .error (.error "Invalid replication cursor encoding")
  | .payload payload => do
    refuse (Json.maxSafeInteger < payload.authoritySequence)
      (.error "Invalid replication cursor content or digest")
    let digest ← replicationDigest rt .cursor payload.toCursorContent
    refuse (digest ≠ payload.digest) (.error "Invalid replication cursor content or digest")
    pure payload.toCursorContent

/-- What the response schema checks of a pull and the types do not carry. -/
def ReplicationPullResponse.WellFormed (rt : Runtime) (r : ReplicationPullResponse) : Prop :=
  NonBlank r.workspaceId ∧ (∀ i ∈ r.incremental, i.1.length ≤ 1000 ∧
    ∀ result ∈ i.1, result.WellFormed) ∧ IsSequence r.minimumRetainedSequence ∧
    r.snapshot.WellFormed ∧ (1 ≤ r.nextCursor.textLength rt ∧ r.nextCursor.textLength rt ≤ 4096)

instance (rt : Runtime) (r : ReplicationPullResponse) : Decidable (r.WellFormed rt) := by
  unfold ReplicationPullResponse.WellFormed; infer_instance

/-- `ReplicationPullResponse.parse` -/
def ReplicationPullResponse.parse (rt : Runtime) (r : ReplicationPullResponse) :
    Call ReplicationPullResponse := do
  refuse (¬ r.WellFormed rt) (.invalid "ReplicationPullResponse")
  let snapshot ← r.snapshot.parse
  pure { r with
    workspaceId := jsTrim r.workspaceId
    incremental := r.incremental.map fun i => (i.1.map ReplicationOperationResult.trimmed, i.2)
    snapshot := snapshot }

/-- Where a pull starts, and whether its cursor has expired. -/
def cursorPosition (rt : Runtime) (authority : ReplicationAuthority) (workspaceId : String)
    (cursor : Option Cursor) : Call (ℕ × Bool) :=
  -- The empty text counts as no cursor.
  match cursor.filter (· ≠ .other "") with
  | none => pure (0, authority.minimumRetainedSequence > 0)
  | some cursor => do
    let content ← decodeCursor rt cursor
    pure (content.authoritySequence, content.workspaceId ≠ workspaceId ||
      content.authorityReplicaId ≠ authority.authorityReplicaId ||
      content.authorityEpoch ≠ authority.authorityEpoch ||
      content.authoritySequence < authority.minimumRetainedSequence ||
      content.authoritySequence > authority.currentSequence)

/-- `pullReplication` -/
def pullReplication (rt : Runtime) (db : Database) (options : PullReplicationOptions) :
    Call (Database × ReplicationPullResponse) := do
  assertWorkspaceId options.workspaceId
  assertNonBlank options.authenticatedPrincipalId "authenticatedPrincipalId"
  refuse (options.replicaId ≠ options.authenticatedReplicaId)
    (.protocol .unauthenticatedOrigin
      "Authenticated replica does not match the requested pull generation")
  let now ← clockSnapshot options.now
  refuse (options.limit < 1 ∨ replicationLimits.pullEntries < options.limit)
    (.error s!"Replication pull limit must be 1..{replicationLimits.pullEntries}")
  let authority ← db.requireAuthority options.workspaceId
  let key := generation options.replicaId options.generationId
  let registration ← db.requireRegistration
    ⟨"Authenticated principal does not own the requested replica generation", "Replica is revoked",
      "Replica generation is stale; fetch a verified snapshot and register a new generation"⟩
    options.workspaceId key options.authenticatedPrincipalId now
  let (cursorSequence, cursorExpired) ← cursorPosition rt authority options.workspaceId options.cursor
  if cursorExpired then do
    let snapshot ← buildSnapshot rt db authority
    let nextCursor ← encodeCursor rt ⟨options.workspaceId, authority.authorityReplicaId,
      authority.authorityEpoch, snapshot.coveredSequence⟩
    let row : ReplicaRow := { registration.contacted now with
      acknowledgedSequence := snapshot.coveredSequence, status := .active }
    let response ← ReplicationPullResponse.parse rt
      { workspaceId := options.workspaceId
        authorityReplicaId := authority.authorityReplicaId
        authorityEpoch := authority.authorityEpoch
        incremental := none
        minimumRetainedSequence := authority.minimumRetainedSequence
        snapshot := snapshot
        nextCursor := nextCursor }
    pure ({ db with replicas := db.replicas.insert key row }, response)
  else do
    let rows := (Table.rows db.accepted fun sequence _ => sequence > cursorSequence).take
      (options.limit + 1)
    let page := rows.take options.limit
    let nextSequence := (page.getLast?.map Prod.fst).getD cursorSequence
    let entries ← page.mapM fun entry => entry.2.result.parse
    let nextCursor ← encodeCursor rt ⟨options.workspaceId, authority.authorityReplicaId,
      authority.authorityEpoch, nextSequence⟩
    let snapshot ← buildSnapshot rt db authority
    let row : ReplicaRow := { registration.contacted now with
      acknowledgedSequence := max registration.acknowledgedSequence nextSequence
      status := .active }
    let response ← ReplicationPullResponse.parse rt
      { workspaceId := options.workspaceId
        authorityReplicaId := authority.authorityReplicaId
        authorityEpoch := authority.authorityEpoch
        incremental := some (entries, options.limit < rows.length)
        minimumRetainedSequence := authority.minimumRetainedSequence
        snapshot := snapshot
        nextCursor := nextCursor }
    pure ({ db with replicas := db.replicas.insert key row }, response)

/-! ### Compaction -/

/-- `retireReplicatedCommitment` -/
def retireReplicatedCommitment (rt : Runtime) (db : Database) (workspaceId : String)
    (recordId : UuidV7) (now : UnixMs) : Call Database := do
  let now ← clockSnapshot now
  let _ ← db.requireAuthority workspaceId
  let snapshot ← getProjection db.ledger recordId
  let notTombstone := Failure.error s!"Commitment is not a full tombstone: {recordId}"
  let snapshot ← demand snapshot notTombstone
  let deletedAt ← demand snapshot.deletedAt notTombstone
  refuse (now < deletedAt + replicationRetention.fullTombstoneMinimumMs)
    (.error "Full tombstone retention boundary has not elapsed")
  let digest ← stateDigest rt snapshot
  refuse (recordId ∈ db.retired) (.constraint "replication_retired_identity primary key")
  let ledger ← db.ledger.deleteTasks [recordId]
  pure { db with
    ledger := ledger
    retired := db.retired.insert recordId ⟨digest, now⟩
    materialized := db.materialized.erase recordId }

/-- Generations that have been silent for too long become stale. -/
def Database.markStale (db : Database) (now : UnixMs) : Database :=
  { db with replicas := db.replicas.map fun _ row =>
      if row.status = .active ∧ row.Silent now then { row with status := .stale, updatedAt := now }
      else row }

/-- The sequence up to which every active generation has acknowledged its pulls. -/
def Database.acknowledgedByActive (db : Database) (authority : ReplicationAuthority) : ℕ :=
  ((Table.rows db.replicas fun _ row => row.status = .active).map
    fun entry => entry.2.acknowledgedSequence).min?.getD authority.currentSequence

/-- `pruneReplicationHistory`, with the number of pruned rows and the new floor. -/
def pruneReplicationHistory (db : Database) (workspaceId : String) (now : UnixMs) :
    Call (Database × ℕ × ℕ) := do
  let now ← clockSnapshot now
  let authority ← db.requireAuthority workspaceId
  let db := db.markStale now
  let acknowledged := db.acknowledgedByActive authority
  let oldRows := Table.rows db.accepted fun sequence row => sequence ≤ acknowledged &&
    row.recordedAt + replicationRetention.operationMinimumMs ≤ now
  match oldRows.getLast? with
  | none => pure (db, 0, authority.minimumRetainedSequence)
  | some (floor, _) =>
    pure ({ db with
      accepted := db.accepted.filter fun sequence _ => floor < sequence
      authority := some { authority with minimumRetainedSequence := floor, updatedAt := now } },
      oldRows.length, floor)

/-! ### Recovery -/

/-- `RecoverReplicationAuthorityOptions` -/
structure RecoverReplicationAuthorityOptions where
  workspaceId : String
  expectedAuthorityReplicaId : UuidV7
  expectedAuthorityEpoch : UuidV7
  expectedCurrentSequence : ℕ
  newAuthorityEpoch : UuidV7
  reason : String
  now : UnixMs

/-- `recoverReplicationAuthority` -/
def recoverReplicationAuthority (rt : Runtime) (db : Database)
    (options : RecoverReplicationAuthorityOptions) : Call (Database × ReplicationSnapshot) := do
  assertWorkspaceId options.workspaceId
  refuse (options.newAuthorityEpoch = options.expectedAuthorityEpoch)
    (.error "Authority recovery must rotate to a distinct epoch")
  refuse (Json.maxSafeInteger < options.expectedCurrentSequence)
    (.error "expectedCurrentSequence must be a non-negative safe integer")
  let reason := jsTrim options.reason
  refuse (reason = "" ∨ 2000 < utf16Length reason)
    (.error "Authority recovery reason must contain 1..2000 characters")
  let now ← clockSnapshot options.now
  let current ← db.requireAuthority options.workspaceId
  refuse (current.authorityReplicaId ≠ options.expectedAuthorityReplicaId ∨
      current.currentSequence ≠ options.expectedCurrentSequence)
    (.protocol .authorityEpochMismatch
      "Restored authority identity or accepted frontier differs from the recovery precondition")
  let existing := db.recoveries[options.newAuthorityEpoch]?
  if current.authorityEpoch = options.newAuthorityEpoch then do
    let changed := Failure.protocol .identityCorruption
      "Recovery epoch already exists with different preconditions"
    let existing ← demand existing changed
    refuse (existing.priorAuthorityEpoch ≠ options.expectedAuthorityEpoch ∨
      existing.restoredSequence ≠ options.expectedCurrentSequence ∨ existing.reason ≠ reason) changed
    let snapshot ← buildSnapshot rt db current
    refuse (snapshot.snapshotDigest ≠ existing.snapshotDigest)
      (.protocol .identityCorruption
        "Recovered authority changed before the lost recovery response was retried")
    pure (db, snapshot)
  else do
    refuse (current.authorityEpoch ≠ options.expectedAuthorityEpoch ∨ existing.isSome)
      (.protocol .authorityEpochMismatch
        "Restored authority epoch differs from the recovery precondition")
    let authority := { current with authorityEpoch := options.newAuthorityEpoch, updatedAt := now }
    let db := { db with
      authority := some authority
      replicas := db.replicas.map fun _ row => { row with status := .stale, updatedAt := now } }
    let snapshot ← buildSnapshot rt db authority
    let row : AuthorityRecovery := ⟨authority.authorityReplicaId, options.expectedAuthorityEpoch,
      authority.currentSequence, snapshot.snapshotDigest, reason, now⟩
    pure ({ db with recoveries := db.recoveries.insert options.newAuthorityEpoch row }, snapshot)

end Tasq
