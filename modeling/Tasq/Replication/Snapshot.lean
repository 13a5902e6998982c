import Mathlib.Tactic
import Tasq.Replication.Accept

/-! Canonical snapshots: built by the authority from its tables, verified by whoever receives
    one. -/

namespace Tasq

open Outcome

/-- `conflictFromRow` -/
def conflictFromRow (row : ReplicationConflict) : Call ReplicationConflict := row.parse

/-- The snapshot record of one task row. -/
def snapshotRecord (rt : Runtime) (id : UuidV7) (row : Task) : Call ReplicationSnapshotRecord := do
  refuse (¬ CriteriaBounded row.successCriteria) (.invalid "Task")
  let snapshot ← taskToProjection id row
  let digest ← stateDigest rt snapshot
  pure ⟨snapshot.id, digest, snapshot⟩

/-- The task rows that a snapshot lists: those without planning scope and parent. -/
def Task.isUnscoped (row : Task) : Bool :=
  row.projectId.isNone && row.goalId.isNone && row.areaId.isNone && row.parentTaskId.isNone

/-- Digest and parse a snapshot: `ReplicationSnapshot.parse({ ...unsigned, snapshotDigest })`. -/
def signSnapshot (rt : Runtime) (unsigned : UnsignedSnapshot) : Call ReplicationSnapshot := do
  let digest ← snapshotDigest rt unsigned
  ReplicationSnapshot.parse { unsigned with snapshotDigest := digest }

/-- `buildSnapshot` -/
def buildSnapshot (rt : Runtime) (db : Database) (authority : ReplicationAuthority) :
    Call ReplicationSnapshot := do
  let records ← (Table.rows db.ledger.tasks fun _ row => row.isUnscoped).mapM fun entry =>
    snapshotRecord rt entry.1 entry.2
  let unresolvedConflicts ← (Table.rows db.conflicts fun _ c =>
    c.resolvedByOperationDigest.isNone).mapM fun entry => conflictFromRow entry.2
  signSnapshot rt
    { workspaceId := db.workspaceId
      authorityReplicaId := authority.authorityReplicaId
      authorityEpoch := authority.authorityEpoch
      coveredSequence := authority.currentSequence
      projectionDigest := replicationProjectionDigest rt
      acceptedFrontiers := db.replicas.toList.map fun entry =>
        ⟨(ofLex entry.1).1, (ofLex entry.1).2, entry.2.acceptedCounter, entry.2.acceptedDigest⟩
      records := records
      retiredIdentities := db.retired.toList.map fun entry =>
        ⟨entry.1, entry.2.retiredAt, entry.2.tombstoneDigest⟩
      unresolvedConflicts := unresolvedConflicts }

/-- `getReplicationSnapshot` -/
def getReplicationSnapshot (rt : Runtime) (db : Database) (workspaceId : String) :
    Call ReplicationSnapshot := do
  let authority ← db.requireAuthority workspaceId
  buildSnapshot rt db authority

/-- `assertUnique` -/
def assertUnique {α : Type} [DecidableEq α] (values : List α) (label : String) : Call Unit :=
  refuse (¬ values.Nodup)
    (.protocol .projectionViolation s!"Replication snapshot has duplicate {label}")

/-- The digest and the identity of one snapshot record. -/
def verifySnapshotRecord (rt : Runtime) (record : ReplicationSnapshotRecord) : Call Unit := do
  let digest ← stateDigest rt record.snapshot
  refuse (digest ≠ record.stateDigest ∨ record.recordId ≠ record.snapshot.id)
    (.error s!"Replication snapshot record digest mismatch: {record.recordId}")

/-- `verifySnapshot` -/
def verifySnapshot (rt : Runtime) (input : ReplicationSnapshot) : Call ReplicationSnapshot := do
  let parsed ← input.parse
  let digest ← snapshotDigest rt parsed.toUnsignedSnapshot
  refuse (digest ≠ parsed.snapshotDigest) (.error "Replication snapshot digest mismatch")
  refuse (parsed.projectionDigest ≠ replicationProjectionDigest rt)
    (.protocol .projectionViolation "Replication projection digest is unsupported")
  parsed.records.forM (verifySnapshotRecord rt)
  assertUnique (parsed.records.map (·.recordId)) "record identities"
  assertUnique (parsed.retiredIdentities.map (·.recordId)) "retired identities"
  assertUnique (parsed.acceptedFrontiers.map fun f => (f.replicaId, f.generationId))
    "accepted frontiers"
  assertUnique (parsed.unresolvedConflicts.map (·.id)) "conflict identities"
  refuse (∃ r ∈ parsed.retiredIdentities, r.recordId ∈ parsed.records.map (·.recordId))
    (.protocol .projectionViolation "A record identity cannot be both materialized and retired")
  refuse (∃ c ∈ parsed.unresolvedConflicts, c.workspaceId ≠ parsed.workspaceId ∨
      c.resolvedByOperationDigest ≠ none ∨ c.authoritySequence > parsed.coveredSequence)
    (.protocol .projectionViolation
      "Snapshot conflict escapes its workspace, sequence, or unresolved projection")
  pure parsed

/-! ### What a verified snapshot carries -/

/-- The snapshot as the parser returns it. -/
def ReplicationSnapshot.trimmed (s : ReplicationSnapshot) : ReplicationSnapshot :=
  { s with toUnsignedSnapshot := s.toUnsignedSnapshot.trimmed }

theorem ReplicationSnapshot.parse_eq_ok (s t : ReplicationSnapshot) :
    s.parse = .ok t ↔ s.WellFormed ∧ s.trimmed = t := by
  simp only [ReplicationSnapshot.parse, bind_eq_ok, refuse_eq_ok, not_not, pure_eq_ok, exists_const]
  rfl

/-- A record with its own id and the digest of its own snapshot. -/
structure ReplicationSnapshotRecord.Digested (rt : Runtime) (record : ReplicationSnapshotRecord) :
    Prop where
  safe_state : safe (semanticState record.snapshot) = true
  digest : rt.stateOf record.snapshot = record.stateDigest
  recordId : record.recordId = record.snapshot.id

/-- What `verifySnapshot` establishes of the parsed snapshot. -/
structure SnapshotVerified (rt : Runtime) (s : ReplicationSnapshot) : Prop where
  safe_unsigned : safe s.toUnsignedSnapshot = true
  digest : rt.sha256 (.snapshot (canonical s.toUnsignedSnapshot)) = s.snapshotDigest
  projection : s.projectionDigest = replicationProjectionDigest rt
  records : ∀ r ∈ s.records, r.Digested rt
  record_ids : (s.records.map (·.recordId)).Nodup
  retired_ids : (s.retiredIdentities.map (·.recordId)).Nodup
  frontier_ids : (s.acceptedFrontiers.map fun f => (f.replicaId, f.generationId)).Nodup
  conflict_ids : (s.unresolvedConflicts.map (·.id)).Nodup
  disjoint : ∀ r ∈ s.retiredIdentities, r.recordId ∉ s.records.map (·.recordId)
  conflicts : ∀ c ∈ s.unresolvedConflicts, c.workspaceId = s.workspaceId ∧
    c.resolvedByOperationDigest = none ∧ c.authoritySequence ≤ s.coveredSequence

theorem verifySnapshotRecord_eq_ok (rt : Runtime) (record : ReplicationSnapshotRecord) (u : Unit) :
    verifySnapshotRecord rt record = .ok u ↔ record.Digested rt := by
  simp only [verifySnapshotRecord, bind_eq_ok, stateDigest_eq_ok, refuse_eq_ok, not_or, not_not]
  constructor
  · rintro ⟨_, ⟨hsafe, rfl⟩, hdigest, hid⟩
    exact ⟨hsafe, hdigest, hid⟩
  · exact fun h => ⟨_, ⟨h.safe_state, rfl⟩, h.digest, h.recordId⟩

/-- VERIFY: completes exactly on well-formed snapshots that carry their own digests and name every
    identity once. -/
theorem verifySnapshot_eq_ok (rt : Runtime) (input s : ReplicationSnapshot) :
    verifySnapshot rt input = .ok s ↔
      input.WellFormed ∧ input.trimmed = s ∧ SnapshotVerified rt s := by
  simp only [verifySnapshot, assertUnique, bind_eq_ok, ReplicationSnapshot.parse_eq_ok,
    snapshotDigest, replicationDigest_eq_ok, refuse_eq_ok, not_not, not_exists, not_and, not_or,
    not_lt, gt_iff_lt, ne_eq, pure_eq_ok, forM_eq_ok, verifySnapshotRecord_eq_ok]
  constructor
  · rintro ⟨_, ⟨hwf, rfl⟩, _, ⟨hsafe, rfl⟩, -, hdigest, -, hprojection, -, hrecords, -, hrids, -,
      htids, -, hfids, -, hcids, -, hdisjoint, -, hconflicts, rfl⟩
    exact ⟨hwf, rfl, hsafe, hdigest, hprojection, hrecords, hrids, htids, hfids, hcids, hdisjoint,
      hconflicts⟩
  · rintro ⟨hwf, rfl, h⟩
    exact ⟨_, ⟨hwf, rfl⟩, _, ⟨h.safe_unsigned, rfl⟩, (), h.digest, (), h.projection, ⟨⟩, h.records, (),
      h.record_ids, (), h.retired_ids, (), h.frontier_ids, (), h.conflict_ids, (), h.disjoint, (),
      h.conflicts, rfl⟩

end Tasq
