import Mathlib.Tactic
import Tasq.Ledger

/-! The replication tables of one workspace, next to its ledger.

    Primary keys inside the workspace are the keys of the tables: outgoing operations by counter
    (a store has one local generation), accepted operations and conflicts by authority sequence,
    registered replicas by replica and generation. The inserts carry the unique indexes. -/

namespace Tasq

open Text Outcome

/-- A row of `replication_local_replica`. -/
structure LocalReplica where
  replicaId : UuidV7
  generationId : UuidV7
  nextCounter : ℕ
  previousDigest : Option Digest
  authorityReplicaId : UuidV7
  authorityEpoch : UuidV7
  observedSequence : ℕ
  pullCursor : Option Cursor
  createdAt : UnixMs
  updatedAt : UnixMs
  deriving DecidableEq

inductive OutgoingStatus where
  | pending | applied | equivalent | conflicted | rejected
  deriving DecidableEq, Repr

/-- A row of `replication_outgoing_operation`; `operation` is what its JSON reads back as. -/
structure OutgoingRow where
  operationDigest : Digest
  previousDigest : Option Digest
  operation : ReplicationOperation
  status : OutgoingStatus
  authoritySequence : Option ℕ
  createdAt : UnixMs
  updatedAt : UnixMs
  deriving DecidableEq

/-- A row of `replication_authority`. -/
structure ReplicationAuthority where
  authorityReplicaId : UuidV7
  authorityEpoch : UuidV7
  currentSequence : ℕ
  minimumRetainedSequence : ℕ
  createdAt : UnixMs
  updatedAt : UnixMs
  deriving DecidableEq

/-- A row of `replication_authority_recovery`. -/
structure AuthorityRecovery where
  authorityReplicaId : UuidV7
  priorAuthorityEpoch : UuidV7
  restoredSequence : ℕ
  snapshotDigest : Digest
  reason : String
  recoveredAt : UnixMs
  deriving DecidableEq

inductive ReplicaStatus where
  | active | stale | revoked
  deriving DecidableEq, Repr

/-- A row of `replication_replica`. -/
structure ReplicaRow where
  principalId : String
  status : ReplicaStatus
  acceptedCounter : ℕ
  acceptedDigest : Option Digest
  acknowledgedSequence : ℕ
  registeredAt : UnixMs
  lastContactAt : UnixMs
  updatedAt : UnixMs
  deriving DecidableEq

/-- A row of `replication_accepted_operation`. -/
structure AcceptedRow where
  replicaId : UuidV7
  generationId : UuidV7
  counter : ℕ
  operationDigest : Digest
  operation : ReplicationOperation
  disposition : ReplicationDisposition
  result : ReplicationOperationResult
  recordedAt : UnixMs
  deriving DecidableEq

/-- A row of `replication_retired_identity`. -/
structure RetiredIdentity where
  tombstoneDigest : Digest
  retiredAt : UnixMs
  deriving DecidableEq

/-- A row of `replication_materialized_record`. -/
structure MaterializedRecord where
  stateDigest : Digest
  coveredSequence : ℕ
  updatedAt : UnixMs
  deriving DecidableEq

/-- A replica with its generation. -/
abbrev Generation := ℕ ×ₗ ℕ

/-- The generation of a replica id and a generation id. -/
def generation (replicaId generationId : UuidV7) : Generation := toLex (replicaId, generationId)

@[simp] theorem generation_inj {r g r' g' : UuidV7} :
    generation r g = generation r' g' ↔ r = r' ∧ g = g' := by
  simp [generation]

/-- The row of a conflict keeps its snapshots as canonical text. -/
def ReplicationConflict.stored (c : ReplicationConflict) : ReplicationConflict :=
  { c with
    baseSnapshot := canonical c.baseSnapshot
    authoritySnapshot := canonical c.authoritySnapshot
    incomingSnapshot := canonical c.incomingSnapshot }

/-- One workspace of a store. -/
structure Database where
  ledger : Ledger
  localReplica : Option LocalReplica
  outgoing : Table ℕ OutgoingRow
  authority : Option ReplicationAuthority
  replicas : Table Generation ReplicaRow
  accepted : Table ℕ AcceptedRow
  conflicts : Table ℕ ReplicationConflict
  retired : Table UuidV7 RetiredIdentity
  materialized : Table UuidV7 MaterializedRecord
  recoveries : Table UuidV7 AuthorityRecovery
  /-- Conflict ids of the other workspaces of the store. -/
  otherConflictIds : List UuidV7

namespace Database

variable (db : Database)

/-- The workspace that the rows belong to. -/
def workspaceId : String := db.ledger.workspaceId

/-- A row of the workspace, as a query with this workspace id finds it. -/
def within {α : Type} (workspaceId : String) (row : Option α) : Option α :=
  if workspaceId = db.workspaceId then row else none

/-! ### Inserts -/

/-- `INSERT INTO replication_outgoing_operation` -/
def insertOutgoing (counter : ℕ) (row : OutgoingRow) : Call Database := do
  refuse (counter ∈ db.outgoing) (.constraint "replication_outgoing_operation primary key")
  refuse (Table.has db.outgoing (fun _ r => r.operationDigest = row.operationDigest) = true)
    (.constraint "uniq_replication_outgoing_digest")
  pure { db with outgoing := db.outgoing.insert counter row }

/-- `INSERT INTO replication_accepted_operation` -/
def insertAccepted (sequence : ℕ) (row : AcceptedRow) : Call Database := do
  refuse (sequence ∈ db.accepted) (.constraint "replication_accepted_operation primary key")
  refuse (Table.has db.accepted (fun _ r => r.replicaId = row.replicaId &&
      r.generationId = row.generationId && r.counter = row.counter) = true)
    (.constraint "uniq_replication_accepted_dot")
  refuse (Table.has db.accepted (fun _ r => r.operationDigest = row.operationDigest) = true)
    (.constraint "uniq_replication_accepted_digest")
  pure { db with accepted := db.accepted.insert sequence row }

/-- `INSERT INTO replication_conflict` -/
def insertConflict (conflict : ReplicationConflict) : Call Database := do
  refuse (Table.has db.conflicts (fun _ c => c.id = conflict.id) = true ∨
      conflict.id ∈ db.otherConflictIds)
    (.constraint "replication_conflict primary key")
  refuse (conflict.authoritySequence ∈ db.conflicts)
    (.constraint "uniq_replication_conflict_sequence")
  pure { db with conflicts := db.conflicts.insert conflict.authoritySequence conflict }

/-- The store without replication: what a fresh workspace holds. -/
def Fresh : Prop :=
  db.localReplica = none ∧ db.outgoing = ∅ ∧ db.authority = none ∧ db.replicas = ∅ ∧
    db.accepted = ∅ ∧ db.conflicts = ∅ ∧ db.retired = ∅ ∧ db.materialized = ∅ ∧ db.recoveries = ∅

/-- A store that holds nothing but its workspace. -/
def fresh (workspaceId : String) : Database where
  ledger := ⟨workspaceId, ∅, ∅, ∅, ∅, [], [], []⟩
  localReplica := none
  outgoing := ∅
  authority := none
  replicas := ∅
  accepted := ∅
  conflicts := ∅
  retired := ∅
  materialized := ∅
  recoveries := ∅
  otherConflictIds := []

theorem fresh_fresh (workspaceId : String) : (fresh workspaceId).Fresh :=
  ⟨rfl, rfl, rfl, rfl, rfl, rfl, rfl, rfl, rfl⟩

/-- The store of workspace `w` with its one principal `p`. -/
def plain : Database :=
  { fresh "w" with ledger := ⟨"w", ∅, ∅, ∅, ∅, [⟨"p", some "p", true⟩], [], []⟩ }

/-! ### The rows a call starts from -/

/-- `requireLocalReplica` -/
def requireLocalReplica (workspaceId : String) : Call LocalReplica :=
  demand (db.within workspaceId db.localReplica)
    (.error s!"Local replica is not initialized for workspace {workspaceId}")

/-- `requireAuthority` -/
def requireAuthority (workspaceId : String) : Call ReplicationAuthority :=
  demand (db.within workspaceId db.authority)
    (.protocol .authorityNotInitialized
      s!"Replication authority is not initialized for workspace {workspaceId}")

end Database

/-! ### Inputs that every call checks -/

/-- `clockSnapshot`: the reading of the injected clock. -/
def clockSnapshot (now : UnixMs) : Call UnixMs := do
  refuse (Json.maxSafeInteger < now)
    (.error "Injected replication clock must return a non-negative unix-ms integer")
  pure now

/-- `assertWorkspaceId` -/
def assertWorkspaceId (workspaceId : String) : Call Unit :=
  refuse (¬ NonBlank workspaceId)
    (.error "workspaceId must contain 1..1000 non-whitespace characters")

/-- `assertNonBlank` -/
def assertNonBlank (value label : String) : Call Unit :=
  refuse (Blank value ∨ 1000 < utf16Length value)
    (.error s!"{label} must contain 1..1000 characters")

/-- A text that passes `assertNonBlank` passes the schema of trimmed texts. -/
theorem assertNonBlank_eq_ok {value label : String} {u : Unit}
    (h : assertNonBlank value label = .ok u) : NonBlank value := by
  simp only [assertNonBlank, refuse_eq_ok, not_or, not_lt] at h
  exact ⟨utf16Length_pos h.1, (utf16Length_jsTrim_le value).trans h.2⟩

theorem Database.insertOutgoing_eq_ok {db db' : Database} {counter : ℕ} {row : OutgoingRow} :
    db.insertOutgoing counter row = .ok db' ↔ counter ∉ db.outgoing ∧
      (∀ (c : ℕ) r, db.outgoing[c]? = some r → r.operationDigest ≠ row.operationDigest) ∧
        { db with outgoing := db.outgoing.insert counter row } = db' := by
  simp only [insertOutgoing, bind_eq_ok, refuse_eq_ok, pure_eq_ok, exists_const, Bool.not_eq_true,
    Table.has_eq_false, decide_eq_false_iff_not, ne_eq]

theorem Database.insertAccepted_eq_ok {db db' : Database} {sequence : ℕ} {row : AcceptedRow} :
    db.insertAccepted sequence row = .ok db' ↔ sequence ∉ db.accepted ∧
      (∀ (s : ℕ) r, db.accepted[s]? = some r → ¬ (r.replicaId = row.replicaId ∧
        r.generationId = row.generationId ∧ r.counter = row.counter)) ∧
      (∀ (s : ℕ) r, db.accepted[s]? = some r → r.operationDigest ≠ row.operationDigest) ∧
        { db with accepted := db.accepted.insert sequence row } = db' := by
  simp only [insertAccepted, bind_eq_ok, refuse_eq_ok, pure_eq_ok, exists_const, Bool.not_eq_true,
    Table.has_eq_false, decide_eq_false_iff_not, ne_eq, Bool.and_eq_false_iff, not_and_or]
  simp only [or_assoc]

theorem Database.insertConflict_eq_ok {db db' : Database} {conflict : ReplicationConflict} :
    db.insertConflict conflict = .ok db' ↔
      (∀ (s : ℕ) c, db.conflicts[s]? = some c → c.id ≠ conflict.id) ∧
        conflict.id ∉ db.otherConflictIds ∧ conflict.authoritySequence ∉ db.conflicts ∧
        { db with conflicts := db.conflicts.insert conflict.authoritySequence conflict } = db' := by
  simp only [insertConflict, bind_eq_ok, refuse_eq_ok, pure_eq_ok, exists_const, Bool.not_eq_true,
    Table.has_eq_false, decide_eq_false_iff_not, ne_eq, not_or, and_assoc]

theorem Database.within_eq_some {db : Database} {α : Type} {workspaceId : String} {row : Option α}
    {a : α} : db.within workspaceId row = some a ↔ workspaceId = db.workspaceId ∧ row = some a := by
  simp [Database.within]

theorem Database.requireLocalReplica_eq_ok {db : Database} {workspaceId : String}
    {row : LocalReplica} : db.requireLocalReplica workspaceId = .ok row ↔
      workspaceId = db.workspaceId ∧ db.localReplica = some row := by
  simp [Database.requireLocalReplica, Database.within_eq_some]

theorem Database.requireAuthority_eq_ok {db : Database} {workspaceId : String}
    {row : ReplicationAuthority} : db.requireAuthority workspaceId = .ok row ↔
      workspaceId = db.workspaceId ∧ db.authority = some row := by
  simp [Database.requireAuthority, Database.within_eq_some]

theorem clockSnapshot_eq_ok {now n : UnixMs} :
    clockSnapshot now = .ok n ↔ now ≤ Json.maxSafeInteger ∧ now = n := by
  simp [clockSnapshot, map_eq_ok]

end Tasq
