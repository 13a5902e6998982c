import Mathlib.Tactic
import Tasq.Lib.Run
import Tasq.Replication.Effect
import Tasq.Replication.Install

/-! What installing a snapshot does: when it completes, the tables that it puts in place, and what
    running the pending commands again leaves.

    `install_eq_ok` takes a completed installation into its parts; the parts are `Installed` for the
    tables and `Replays` for one pending operation. -/

namespace Tasq

open Text Outcome Ledger Run

variable {rt : Runtime} {db db' base : Database} {snapshot : ReplicationSnapshot} {now : UnixMs}

/-! ### What an installation reads -/

/-- The pending operations of the queue as an installation reads them. -/
def Database.pendingOperations (db : Database) : List ReplicationOperation :=
  db.pendingRows.map fun row => row.2.operation.trimmed

/-- The frontier that a snapshot has for the generation of a replica. -/
def ReplicationSnapshot.frontierOf (snapshot : ReplicationSnapshot) (localReplica : LocalReplica) :
    Option ReplicationAcceptedFrontier :=
  snapshot.acceptedFrontiers.find? fun f =>
    f.replicaId = localReplica.replicaId && f.generationId = localReplica.generationId

/-- The frontier of a snapshot that agrees with the outgoing queue. -/
structure Agreed (db : Database) (localReplica : LocalReplica) (snapshot : ReplicationSnapshot)
    (frontier : ReplicationAcceptedFrontier) : Prop where
  found : snapshot.frontierOf localReplica = some frontier
  allocated : frontier.acceptedCounter < localReplica.nextCounter
  agrees : 0 < frontier.acceptedCounter →
    db.outgoing[frontier.acceptedCounter]?.map (fun row => some row.operationDigest) =
      some frontier.acceptedDigest

theorem checkFrontier_eq_ok {localReplica : LocalReplica} {frontier : ReplicationAcceptedFrontier} :
    checkFrontier db localReplica snapshot = .ok frontier ↔
      Agreed db localReplica snapshot frontier := by
  simp only [checkFrontier, bind_eq_ok, demand_eq_ok, refuse_eq_ok, not_and, not_not, not_le,
    ge_iff_le, gt_iff_lt, ne_eq, pure_eq_ok]
  constructor
  · rintro ⟨_, hfound, -, hallocated, -, hagrees, rfl⟩
    exact ⟨hfound, hallocated, hagrees⟩
  · exact fun h => ⟨_, h.found, (), h.allocated, (), h.agrees, rfl⟩

/-- The digest that the first pending operation follows. -/
def firstPredecessor (localReplica : LocalReplica) (pending : List ReplicationOperation) :
    Option Digest :=
  match pending.head? with
  | some operation => operation.origin.previousDigest
  | none => localReplica.previousDigest

/-- The local replica after an installation. -/
def LocalReplica.observing (localReplica : LocalReplica) (snapshot : ReplicationSnapshot)
    (pending : List ReplicationOperation) (previousDigest : Option Digest) (pullCursor : Cursor)
    (now : UnixMs) : LocalReplica :=
  { localReplica with
    authorityReplicaId := snapshot.authorityReplicaId
    authorityEpoch := snapshot.authorityEpoch
    observedSequence := snapshot.coveredSequence
    pullCursor := some pullCursor
    previousDigest := if pending = [] then localReplica.previousDigest else previousDigest
    updatedAt := now }

/-- The parts of a completed installation. -/
structure Installs (rt : Runtime) (db : Database) (input : ReplicationSnapshot) (actor : String)
    (cursor : Option Cursor) (now : UnixMs) (snapshot : ReplicationSnapshot)
    (localReplica : LocalReplica) (frontier : ReplicationAcceptedFrontier) (base after : Database)
    (previousDigest : Option Digest) (db' : Database) : Prop where
  verified : verifySnapshot rt input = .ok snapshot
  clock : now ≤ Json.maxSafeInteger
  workspace : snapshot.workspaceId = db.workspaceId
  localReplica_eq : db.localReplica = some localReplica
  authorityReplica : localReplica.authorityReplicaId = snapshot.authorityReplicaId
  epoch : localReplica.authorityEpoch = snapshot.authorityEpoch
  observed : localReplica.observedSequence ≤ snapshot.coveredSequence
  pending : ∀ row ∈ db.pendingRows, row.2.operation.WellFormed
  agreed : Agreed db localReplica snapshot frontier
  tables : installTables db db.pendingOperations snapshot now = .ok base
  replayed : db.pendingOperations.foldlM
    (replayOperation rt snapshot frontier.acceptedCounter actor now)
      (base, firstPredecessor localReplica db.pendingOperations) = .ok (after, previousDigest)
  after_eq : ∃ pullCursor, (cursor = some pullCursor ∨ cursor = none ∧
      encodeCursor rt ⟨snapshot.workspaceId, snapshot.authorityReplicaId, snapshot.authorityEpoch,
        snapshot.coveredSequence⟩ = .ok pullCursor) ∧
    db' = { after with localReplica := some (localReplica.observing snapshot db.pendingOperations
      previousDigest pullCursor now) }

/-- INSTALL: completes exactly when its parts do. -/
theorem install_eq_ok {input : ReplicationSnapshot} {actor : String} {cursor : Option Cursor}
    {n : ℕ} :
    installReplicationSnapshotAndRebase rt db input actor cursor now = .ok (db', n) ↔
      n = db.pendingOperations.length ∧
        ∃ snapshot localReplica frontier base after previousDigest,
          Installs rt db input actor cursor now snapshot localReplica frontier base after
            previousDigest db' := by
  have hpending (ops : List ReplicationOperation) :
      (db.pendingRows.mapM fun row => row.2.operation.parse) = .ok ops ↔
        (∀ row ∈ db.pendingRows, row.2.operation.WellFormed) ∧ db.pendingOperations = ops := by
    have hparse (row : ℕ × OutgoingRow) (_ : row ∈ db.pendingRows) (o : ReplicationOperation) :
        row.2.operation.parse = .ok o ↔ row.2.operation.WellFormed ∧ row.2.operation.trimmed = o :=
      row.2.operation.parse_eq_ok o
    exact mapM_eq_ok hparse ops
  simp only [installReplicationSnapshotAndRebase, bind_eq_ok, clockSnapshot_eq_ok,
    Database.requireLocalReplica_eq_ok, refuse_eq_ok, not_or, not_not, not_lt, ne_eq, hpending,
    checkFrontier_eq_ok, Prod.exists]
  constructor
  · rintro ⟨snapshot, hverified, _, ⟨hclock, rfl⟩, localReplica, ⟨hworkspace, hlocal⟩, -,
      ⟨hauthority, hepoch⟩, -, hobserved, _, ⟨hwf, rfl⟩, frontier, hagreed, base, htables, after,
      previousDigest, hreplayed, hrest⟩
    have hparts (pullCursor : Cursor) (hcursor : cursor = some pullCursor ∨ cursor = none ∧
        encodeCursor rt ⟨snapshot.workspaceId, snapshot.authorityReplicaId, snapshot.authorityEpoch,
          snapshot.coveredSequence⟩ = .ok pullCursor)
        (hafter : { after with localReplica := some (localReplica.observing snapshot
          db.pendingOperations previousDigest pullCursor now) } = db') :
        Installs rt db input actor cursor now snapshot localReplica frontier base after
          previousDigest db' :=
      ⟨hverified, hclock, hworkspace, hlocal, hauthority, hepoch, hobserved, hwf, hagreed, htables,
        hreplayed, pullCursor, hcursor, hafter.symm⟩
    cases cursor with
    | none =>
      simp only [bind_eq_ok, pure_eq_ok, Prod.mk.injEq] at hrest
      obtain ⟨pullCursor, hencode, hafter, rfl⟩ := hrest
      exact ⟨rfl, _, _, _, _, _, _, hparts pullCursor (.inr ⟨rfl, hencode⟩) hafter⟩
    | some pullCursor =>
      simp only [bind_eq_ok, pure_eq_ok, exists_eq_left', Prod.mk.injEq] at hrest
      obtain ⟨hafter, rfl⟩ := hrest
      exact ⟨rfl, _, _, _, _, _, _, hparts pullCursor (.inl rfl) hafter⟩
  · rintro ⟨rfl, snapshot, localReplica, frontier, base, after, previousDigest, h⟩
    obtain ⟨pullCursor, hcursor, rfl⟩ := h.after_eq
    refine ⟨snapshot, h.verified, _, ⟨h.clock, rfl⟩, localReplica, ⟨h.workspace, h.localReplica_eq⟩,
      (), ⟨h.authorityReplica, h.epoch⟩, (), h.observed, _, ⟨h.pending, rfl⟩, frontier, h.agreed,
      base, h.tables, after, previousDigest, h.replayed, ?_⟩
    obtain rfl | ⟨rfl, hencode⟩ := hcursor
    · rfl
    · simp only [bind_eq_ok]
      exact ⟨pullCursor, hencode, rfl⟩

/-! ### The tables that an installation puts in place -/

/-- The row of a record of a snapshot. -/
def installedRow (s : ReplicatedCommitmentSnapshot) : Task :=
  { s with
    metadata := canonical s.metadata
    projectId := none, goalId := none, areaId := none, parentTaskId := none
    validationRequired := false
    revision := 1 }

/-- A record that can be inserted. -/
structure RecordStorable (db : Database) (record : ReplicationSnapshotRecord) : Prop where
  safe_metadata : safe record.snapshot.metadata = true
  evidence : EvidenceStated record.snapshot.completionMode record.snapshot.successCriteria
  free : ¬ db.ledger.HasTask record.snapshot.id
  recurrence : ∀ p ∈ record.snapshot.recurrenceParentId, p ≠ record.snapshot.id →
    db.ledger.HasTask p
  fresh : record.recordId ∉ db.materialized

/-- The store with one record of a snapshot. -/
def Database.withRecord (coveredSequence : ℕ) (now : UnixMs) (db : Database)
    (record : ReplicationSnapshotRecord) : Database :=
  { db with
    ledger := { db.ledger with
      tasks := db.ledger.tasks.insert record.snapshot.id (installedRow record.snapshot) }
    materialized := db.materialized.insert record.recordId
      ⟨record.stateDigest, coveredSequence, now⟩ }

theorem installRecord_eq_ok {coveredSequence : ℕ} (s : Database) (record : ReplicationSnapshotRecord)
    (s' : Database) :
    installRecord coveredSequence now s record = .ok s' ↔
      RecordStorable s record ∧ s.withRecord coveredSequence now record = s' := by
  simp only [installRecord, rawTaskFromSnapshot, bind_eq_ok, replicationCanonicalJson_eq_ok,
    insertTask_eq_ok, refuse_eq_ok, pure_eq_ok]
  constructor
  · rintro ⟨_, ⟨_, ⟨hsafe, rfl⟩, rfl⟩, _, ⟨hevidence, hfree, -, hrecurrence, rfl⟩, _, hfresh, rfl⟩
    exact ⟨⟨hsafe, hevidence, hfree, hrecurrence, hfresh⟩, rfl⟩
  · rintro ⟨h, rfl⟩
    exact ⟨_, ⟨_, ⟨h.safe_metadata, rfl⟩, rfl⟩, _, ⟨h.evidence, h.free, by simp, h.recurrence, rfl⟩,
      (), h.fresh, rfl⟩

/-- The store with one retired identity of a snapshot. -/
def Database.withRetired (db : Database) (record : ReplicationRetiredIdentity) : Database :=
  { db with
    retired := db.retired.insert record.recordId ⟨record.tombstoneDigest, record.retiredAt⟩ }

theorem installRetired_eq_ok (s : Database) (record : ReplicationRetiredIdentity) (s' : Database) :
    installRetired s record = .ok s' ↔ record.recordId ∉ s.retired ∧ s.withRetired record = s' := by
  simp only [installRetired, bind_eq_ok, refuse_eq_ok, pure_eq_ok, exists_const]
  rfl

/-- A conflict that can be inserted. -/
structure ConflictStorable (db : Database) (conflict : ReplicationConflict) : Prop where
  safe_base : safe conflict.baseSnapshot = true
  safe_authority : safe conflict.authoritySnapshot = true
  safe_incoming : safe conflict.incomingSnapshot = true
  id_fresh : ∀ (s : ℕ) c, db.conflicts[s]? = some c → c.id ≠ conflict.id
  id_free : conflict.id ∉ db.otherConflictIds
  sequence_free : conflict.authoritySequence ∉ db.conflicts

/-- The store with one unresolved conflict of a snapshot. -/
def Database.withConflict (db : Database) (conflict : ReplicationConflict) : Database :=
  { db with conflicts := db.conflicts.insert conflict.authoritySequence conflict.stored }

theorem installConflict_eq_ok (s : Database) (conflict : ReplicationConflict) (s' : Database) :
    installConflict s conflict = .ok s' ↔
      ConflictStorable s conflict ∧ s.withConflict conflict = s' := by
  simp only [installConflict, bind_eq_ok, replicationCanonicalJson_eq_ok,
    Database.insertConflict_eq_ok]
  constructor
  · rintro ⟨_, ⟨hbase, rfl⟩, _, ⟨hauthority, rfl⟩, _, ⟨hincoming, rfl⟩, hid, hfree, hsequence, rfl⟩
    exact ⟨⟨hbase, hauthority, hincoming, hid, hfree, hsequence⟩, rfl⟩
  · rintro ⟨h, rfl⟩
    exact ⟨_, ⟨h.safe_base, rfl⟩, _, ⟨h.safe_authority, rfl⟩, _, ⟨h.safe_incoming, rfl⟩, h.id_fresh,
      h.id_free, h.sequence_free, rfl⟩

/-! ### All tables -/

/-- The store with the replicated records gone. -/
def Database.cleared (db : Database) (pending : List ReplicationOperation)
    (snapshot : ReplicationSnapshot) : Database :=
  { db with
    ledger := { db.ledger with
      tasks := db.ledger.tasks.filter fun id _ => id ∉ resetIds db pending snapshot }
    materialized := ∅, retired := ∅, conflicts := ∅ }

/-- The store with the tables of a snapshot. -/
def Database.installed (db : Database) (pending : List ReplicationOperation)
    (snapshot : ReplicationSnapshot) (now : UnixMs) : Database :=
  { db with
    ledger := { db.ledger with
      tasks := Table.insertAll (db.cleared pending snapshot).ledger.tasks
        (fun record => record.snapshot.id) (fun record => installedRow record.snapshot)
        snapshot.records }
    materialized := Table.insertAll ∅ (fun record => record.recordId)
      (fun record => ⟨record.stateDigest, snapshot.coveredSequence, now⟩) snapshot.records
    retired := Table.insertAll ∅ (fun record => record.recordId)
      (fun record => ⟨record.tombstoneDigest, record.retiredAt⟩) snapshot.retiredIdentities
    conflicts := Table.insertAll ∅ (fun conflict => conflict.authoritySequence)
      (fun conflict => conflict.stored) snapshot.unresolvedConflicts }

theorem run_withRecord (coveredSequence : ℕ) (db : Database)
    (records : List ReplicationSnapshotRecord) :
    run (Database.withRecord coveredSequence now) db records =
      { db with
        ledger := { db.ledger with
          tasks := Table.insertAll db.ledger.tasks (fun record => record.snapshot.id)
            (fun record => installedRow record.snapshot) records }
        materialized := Table.insertAll db.materialized (fun record => record.recordId)
          (fun record => ⟨record.stateDigest, coveredSequence, now⟩) records } := by
  induction records generalizing db with
  | nil => rfl
  | cons record records ih =>
    rw [run_cons, ih]
    rfl

theorem run_withRetired (db : Database) (records : List ReplicationRetiredIdentity) :
    run Database.withRetired db records =
      { db with
        retired := Table.insertAll db.retired (fun record => record.recordId)
          (fun record => ⟨record.tombstoneDigest, record.retiredAt⟩) records } := by
  induction records generalizing db with
  | nil => rfl
  | cons record records ih =>
    rw [run_cons, ih]
    rfl

theorem run_withConflict (db : Database) (conflicts : List ReplicationConflict) :
    run Database.withConflict db conflicts =
      { db with
        conflicts := Table.insertAll db.conflicts (fun conflict => conflict.authoritySequence)
          (fun conflict => conflict.stored) conflicts } := by
  induction conflicts generalizing db with
  | nil => rfl
  | cons conflict conflicts ih =>
    rw [run_cons, ih]
    rfl

/-- What an installation checks before its tables are in place. -/
structure Tabled (db : Database) (pending : List ReplicationOperation)
    (snapshot : ReplicationSnapshot) (now : UnixMs) : Prop where
  unreferenced : db.ledger.referenced
    ((resetIds db pending snapshot).filter (· ∈ db.ledger.tasks)) = false
  records : Along (Database.withRecord snapshot.coveredSequence now) RecordStorable
    (db.cleared pending snapshot) snapshot.records
  retired : Along Database.withRetired (fun db record => record.recordId ∉ db.retired)
    { db.installed pending snapshot now with retired := ∅, conflicts := ∅ }
    snapshot.retiredIdentities
  conflicts : Along Database.withConflict ConflictStorable
    { db.installed pending snapshot now with conflicts := ∅ } snapshot.unresolvedConflicts

/-- TABLES: completes exactly when every row can be stored. -/
theorem installTables_eq_ok {pending : List ReplicationOperation} :
    installTables db pending snapshot now = .ok base ↔
      Tabled db pending snapshot now ∧ db.installed pending snapshot now = base := by
  simp only [installTables, deleteTasks, bind_eq_ok, refuse_eq_ok, Bool.not_eq_true, pure_eq_ok,
    foldlM_eq_ok installRecord_eq_ok, foldlM_eq_ok installRetired_eq_ok,
    foldlM_eq_ok installConflict_eq_ok, run_withRecord, run_withRetired, run_withConflict]
  constructor
  · rintro ⟨_, ⟨-, hfree, rfl⟩, _, ⟨hrecords, rfl⟩, _, ⟨hretired, rfl⟩, hconflicts, rfl⟩
    exact ⟨⟨hfree, hrecords, hretired, hconflicts⟩, rfl⟩
  · rintro ⟨h, rfl⟩
    exact ⟨_, ⟨(), h.unreferenced, rfl⟩, _, ⟨h.records, rfl⟩, _, ⟨h.retired, rfl⟩, h.conflicts, rfl⟩

/-! ### What the installed tables hold -/

section

variable {pending : List ReplicationOperation} {id : UuidV7}

theorem mem_resetIds : id ∈ resetIds db pending snapshot ↔ id ∈ db.materialized ∨
    id ∈ pending.map (fun o => operationRecordId o.command) ∨
    id ∈ snapshot.records.map (·.recordId) ∨ id ∈ snapshot.retiredIdentities.map (·.recordId) := by
  simp only [resetIds, List.mem_dedup, List.mem_append, Std.ExtTreeMap.mem_keys, or_assoc]

/-- The ids of the records, by either name. -/
theorem SnapshotVerified.record_ids_eq (h : SnapshotVerified rt snapshot) :
    snapshot.records.map (fun record => record.snapshot.id) =
      snapshot.records.map (fun record => record.recordId) :=
  List.map_congr_left fun record hrecord => (h.records record hrecord).recordId.symm

/-- A listed record has its own row. -/
theorem installed_listed (h : SnapshotVerified rt snapshot) {record : ReplicationSnapshotRecord}
    (hrecord : record ∈ snapshot.records) :
    (db.installed pending snapshot now).ledger.tasks[record.recordId]? =
      some (installedRow record.snapshot) := by
  have hnodup := h.record_ids
  rw [← h.record_ids_eq] at hnodup
  rw [(h.records record hrecord).recordId]
  exact Table.insertAll_of_mem _ (fun record => record.snapshot.id)
    (fun record => installedRow record.snapshot) hnodup hrecord

/-- Every other record that was reset has no row, and what was not reset keeps its row. -/
theorem installed_unlisted (h : SnapshotVerified rt snapshot)
    (hid : id ∉ snapshot.records.map (·.recordId)) :
    (db.installed pending snapshot now).ledger.tasks[id]? =
      if id ∈ resetIds db pending snapshot then none else db.ledger.tasks[id]? := by
  rw [← h.record_ids_eq] at hid
  refine (Table.insertAll_of_notMem _ (fun record : ReplicationSnapshotRecord => record.snapshot.id)
    (fun record => installedRow record.snapshot) hid).trans ?_
  simp only [Database.cleared, Std.ExtTreeMap.getElem?_filter']
  split <;> rename_i hmem
  · simp [hmem]
  · cases db.ledger.tasks[id]? <;> simp [hmem]

/-- The retired identities are those of the snapshot. -/
theorem installed_retired : id ∈ (db.installed pending snapshot now).retired ↔
    id ∈ snapshot.retiredIdentities.map (·.recordId) := by
  simp [Database.installed, Table.mem_insertAll]

end

/-! ### One pending operation -/

/-- The replay of a command: one that cannot be replayed stays as it was, every other is made anew
    from the record as it stands. -/
def Replayed (rt : Runtime) (l : Ledger) (actor : String) (operation : ReplicationOperation)
    (l' : Ledger) (preconditions outcomes : List ReplicationRecordState) : Prop :=
  ∃ before, getProjection l (operationRecordId operation.command) = .ok before ∧
    (operation.command.isCreate = before.isSome ∧ l' = l ∧
        preconditions = operation.preconditions ∧ outcomes = operation.outcomes ∨
      operation.command.isCreate ≠ before.isSome ∧ ∃ applied,
        applyCommandInTransaction rt l operation.command ⟨actor, none, operation.occurredAt⟩ =
          .ok (l', applied) ∧
        (∀ s ∈ before, safe (semanticState s) = true) ∧ safe (semanticState applied) = true ∧
        preconditions = [recordStateOf rt (operationRecordId operation.command) before] ∧
        outcomes = [recordStateOf rt (operationRecordId operation.command) (some applied)])

/-- The content of a rebased operation. -/
def ReplicationOperation.rebasedOn (operation : ReplicationOperation)
    (snapshot : ReplicationSnapshot) (previousDigest : Option Digest)
    (preconditions outcomes : List ReplicationRecordState) : UnsignedOperation :=
  { operation.toUnsignedOperation with
    origin := { operation.origin with previousDigest := previousDigest }
    causalBase := ⟨snapshot.authorityReplicaId, snapshot.authorityEpoch, snapshot.coveredSequence⟩
    preconditions := preconditions
    outcomes := outcomes }

/-- The outgoing row of a rebased operation. -/
def OutgoingRow.rebased (rt : Runtime) (unsigned : UnsignedOperation) (now : UnixMs)
    (row : OutgoingRow) : OutgoingRow :=
  { row with
    previousDigest := unsigned.origin.previousDigest
    operationDigest := rt.operationOf unsigned
    operation := canonical (signedOperation rt unsigned)
    updatedAt := now }

/-- A pending operation that is made again on the new base. -/
structure Rebases (rt : Runtime) (snapshot : ReplicationSnapshot) (actor : String) (now : UnixMs)
    (db : Database) (previousDigest : Option Digest) (operation : ReplicationOperation)
    (unsigned : UnsignedOperation) (db' : Database) : Prop where
  unsigned_eq : ∃ preconditions outcomes,
    Replayed rt db.ledger actor operation db'.ledger preconditions outcomes ∧
      unsigned = operation.rebasedOn snapshot previousDigest preconditions outcomes
  safe_unsigned : safe unsigned = true
  wellFormed : unsigned.WellFormed
  digest_free : ∀ (c : ℕ) row, db.outgoing[c]? = some row → c ≠ operation.origin.counter →
    row.operationDigest ≠ rt.operationOf unsigned
  after_eq : db' = { db with
    ledger := db'.ledger
    outgoing := db.outgoing.modify operation.origin.counter (OutgoingRow.rebased rt unsigned now) }

theorem rebaseOutgoing_eq_ok {unsigned : UnsignedOperation} {counter : ℕ} :
    db.rebaseOutgoing counter unsigned.origin.previousDigest (signedOperation rt unsigned)
        (canonical (signedOperation rt unsigned)) now = .ok db' ↔
      (∀ (c : ℕ) row, db.outgoing[c]? = some row → c ≠ counter →
        row.operationDigest ≠ rt.operationOf unsigned) ∧
      { db with outgoing := db.outgoing.modify counter (OutgoingRow.rebased rt unsigned now) } =
        db' := by
  simp only [Database.rebaseOutgoing, bind_eq_ok, refuse_eq_ok, pure_eq_ok, exists_const,
    Bool.not_eq_true, Table.has_eq_false, Bool.and_eq_false_iff, decide_eq_false_iff_not, not_not,
    ne_eq, or_iff_not_imp_left]
  rfl

/-- The second half of a replay: sign the operation, and write it over its row. -/
theorem writeRebased_eq_ok {unsigned : UnsignedOperation} {counter : ℕ}
    {previousDigest : Option Digest} :
    (do
      let rebased ← signOperation rt unsigned
      let operationJson ← replicationCanonicalJson rebased
      let db ← db.rebaseOutgoing counter unsigned.origin.previousDigest rebased operationJson now
      pure (db, some rebased.operationDigest)) = .ok (db', previousDigest) ↔
      safe unsigned = true ∧ unsigned.WellFormed ∧
      (∀ (c : ℕ) row, db.outgoing[c]? = some row → c ≠ counter →
        row.operationDigest ≠ rt.operationOf unsigned) ∧
      { db with outgoing := db.outgoing.modify counter (OutgoingRow.rebased rt unsigned now) } =
        db' ∧ some (rt.operationOf unsigned) = previousDigest := by
  simp only [bind_eq_ok, signOperation_eq_ok, replicationCanonicalJson_eq_ok, pure_eq_ok,
    Prod.mk.injEq]
  constructor
  · rintro ⟨_, ⟨hsafe, hwf, rfl⟩, _, ⟨-, rfl⟩, _, hrow, rfl, rfl⟩
    obtain ⟨hfree, rfl⟩ := rebaseOutgoing_eq_ok.1 hrow
    exact ⟨hsafe, hwf, hfree, rfl, rfl⟩
  · rintro ⟨hsafe, hwf, hfree, hafter, rfl⟩
    exact ⟨_, ⟨hsafe, hwf, rfl⟩, _, ⟨hsafe, rfl⟩, _, rebaseOutgoing_eq_ok.2 ⟨hfree, hafter⟩, rfl, rfl⟩

/-- REPLAY: the accepted prefix stays as it is, every other operation is rebased. -/
theorem replay_eq_ok {k : ℕ} {actor : String} {operation : ReplicationOperation}
    {previousDigest previousDigest' : Option Digest} :
    replayOperation rt snapshot k actor now (db, previousDigest) operation =
        .ok (db', previousDigest') ↔
      operation.origin.counter ≤ k ∧ db' = db ∧ previousDigest' = some operation.operationDigest ∨
      k < operation.origin.counter ∧ ∃ unsigned,
        Rebases rt snapshot actor now db previousDigest operation unsigned db' ∧
        previousDigest' = some (rt.operationOf unsigned) := by
  by_cases hk : operation.origin.counter ≤ k
  · simp only [replayOperation, hk, if_true, pure_eq_ok, Prod.mk.injEq, true_and,
      Nat.not_lt.2 hk, false_and, or_false]
    exact and_congr eq_comm eq_comm
  -- What is left of the operation once it is known what it is made of.
  have hwrite (ledger : Ledger) (preconditions outcomes : List ReplicationRecordState) :=
    @writeRebased_eq_ok rt { db with ledger := ledger } db' now
      (operation.rebasedOn snapshot previousDigest preconditions outcomes) operation.origin.counter
      previousDigest'
  simp only [replayOperation, hk, if_false, false_and, false_or, Nat.lt_of_not_le hk, true_and,
    bind_eq_ok, beq_iff_eq]
  constructor
  · rintro ⟨before, hbefore, h⟩
    split at h
    · rename_i hcannot
      obtain ⟨hsafe, hwf, hfree, rfl, rfl⟩ := (hwrite _ _ _).1 h
      exact ⟨_, ⟨⟨_, _, ⟨before, hbefore, .inl ⟨hcannot, rfl, rfl, rfl⟩⟩, rfl⟩, hsafe, hwf, hfree,
        rfl⟩, rfl⟩
    · rename_i hcan
      obtain ⟨⟨ledger, applied⟩, happly, h⟩ := (bind_eq_ok _ _ _).1 h
      obtain ⟨_, hpre, h⟩ := (bind_eq_ok _ _ _).1 h
      obtain ⟨_, hpost, h⟩ := (bind_eq_ok _ _ _).1 h
      obtain ⟨hbase, rfl⟩ := (recordState_eq_ok _ _ _ _).1 hpre
      obtain ⟨hresult, rfl⟩ := (recordState_eq_ok _ _ _ _).1 hpost
      obtain ⟨hsafe, hwf, hfree, rfl, rfl⟩ := (hwrite _ _ _).1 h
      exact ⟨_, ⟨⟨_, _, ⟨before, hbefore, .inr ⟨hcan, applied, happly, hbase, hresult _ rfl, rfl, rfl⟩⟩,
        rfl⟩, hsafe, hwf, hfree, rfl⟩, rfl⟩
  · rintro ⟨unsigned, h, rfl⟩
    obtain ⟨preconditions, outcomes, ⟨before, hbefore, hreplayed⟩, rfl⟩ := h.unsigned_eq
    have hdone := (hwrite db'.ledger preconditions outcomes).2
      ⟨h.safe_unsigned, h.wellFormed, h.digest_free, h.after_eq.symm, rfl⟩
    refine ⟨before, hbefore, ?_⟩
    obtain ⟨hcannot, hledger, rfl, rfl⟩ | ⟨hcan, applied, happly, hpre, hpost, rfl, rfl⟩ := hreplayed
    · rw [if_pos hcannot, ← hledger]
      exact hdone
    · rw [if_neg hcan, happly, ok_bind, (recordState_eq_ok _ _ _ _).2 ⟨hpre, rfl⟩, ok_bind,
        (recordState_eq_ok _ _ _ _).2 ⟨fun s hs => Option.some.inj hs ▸ hpost, rfl⟩, ok_bind]
      exact hdone

end Tasq
