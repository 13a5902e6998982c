import Mathlib.Tactic
import Tasq.Replication.Feed

/-! When the snapshot of an authority can be built, and verified by whoever receives it.

    What replication itself writes is always fit to be published (`Publishable`, kept by every
    call); the tasks are not, because the ordinary task service writes them too. -/

namespace Tasq

open Text Outcome Run

variable {rt : Runtime} {db db' : Database}

/-! ### What replication writes -/

/-- A conflict row as acceptance leaves it. -/
structure ConflictRow (workspaceId : String) (s : ℕ) (c : ReplicationConflict) : Prop where
  sequence : c.authoritySequence = s
  workspace : c.workspaceId = workspaceId
  wellFormed : c.WellFormed
  trimmed : c.trimmed = c
  safe_row : safe c = true
  unresolved : c.resolvedByOperationDigest = none

/-- The rows of replication are fit to be published. -/
structure Publishable (db : Database) : Prop where
  workspace : db.authority ≠ none → NonBlank db.workspaceId
  conflict : ∀ (s : ℕ) c, db.conflicts[s]? = some c → ConflictRow db.workspaceId s c
  conflict_ids : ∀ (s s' : ℕ) c c', db.conflicts[s]? = some c → db.conflicts[s']? = some c' →
    c.id = c'.id → s = s'
  retired : ∀ (id : UuidV7) r, db.retired[id]? = some r → r.retiredAt ≤ Json.maxSafeInteger

theorem Database.Fresh.publishable (h : db.Fresh) : Publishable db := by
  obtain ⟨-, -, hauthority, -, -, hconflicts, hretired, -⟩ := h
  constructor <;> simp [hauthority, hconflicts, hretired]

/-- A step that writes no conflict and retires nothing. -/
theorem Publishable.same (h : Publishable db) (hworkspace : db'.workspaceId = db.workspaceId)
    (hauthority : db'.authority ≠ none → db.authority ≠ none ∨ NonBlank db.workspaceId)
    (hconflicts : db'.conflicts = db.conflicts) (hretired : db'.retired = db.retired) :
    Publishable db' where
  workspace hsome := by
    rw [hworkspace]
    exact (hauthority hsome).elim h.workspace id
  conflict s c hc := by
    rw [hworkspace]
    exact h.conflict s c (hconflicts ▸ hc)
  conflict_ids s s' c c' hc hc' := h.conflict_ids s s' c c' (hconflicts ▸ hc) (hconflicts ▸ hc')
  retired id r hr := h.retired id r (hretired ▸ hr)

/-- A conflict is stored as a row that can be published. -/
theorem ReplicationConflict.conflictRow (c : ReplicationConflict) {workspaceId : String}
    (hwf : c.WellFormed) (hbase : safe c.trimmed.baseSnapshot = true)
    (hauthority : safe c.trimmed.authoritySnapshot = true)
    (hincoming : safe c.trimmed.incomingSnapshot = true) (hclock : c.recordedAt ≤ Json.maxSafeInteger)
    (hworkspace : jsTrim c.workspaceId = workspaceId) (hopen : c.resolvedByOperationDigest = none) :
    ConflictRow workspaceId c.authoritySequence c.trimmed.stored where
  sequence := by dsimp only [ReplicationConflict.stored, ReplicationConflict.trimmed]
  workspace := by
    dsimp only [ReplicationConflict.stored, ReplicationConflict.trimmed]
    exact hworkspace
  wellFormed := (ReplicationConflict.wellFormed_trimmed c).2 hwf
  trimmed := by simp [ReplicationConflict.stored, ReplicationConflict.trimmed]
  safe_row := by
    obtain ⟨-, -, ⟨-, hsequence⟩, ⟨-, hcounter⟩⟩ := hwf
    rw [ReplicationConflict.safe_iff]
    simp only [ReplicationConflict.stored, CanonicalJson.safe_canonical]
    dsimp only [ReplicationConflict.trimmed] at hbase hauthority hincoming ⊢
    exact ⟨hsequence, hcounter, hbase, hauthority, hincoming, hclock⟩
  unresolved := by
    dsimp only [ReplicationConflict.stored, ReplicationConflict.trimmed]
    exact hopen

/-- The conflict that acceptance leaves. -/
theorem Classified.conflictRow {db₁ : Database} {operation : ReplicationOperation}
    {ctx : AcceptContext} {sequence : ℕ} {current : Option ReplicatedCommitmentSnapshot}
    {precondition intended : ReplicationRecordState} {c : ReplicationConflict}
    (h : Classified rt db operation ctx sequence ctx.now current precondition intended db₁
      .conflicted (some c))
    (hclock : ctx.now ≤ Json.maxSafeInteger)
    (hworkspace : jsTrim operation.workspaceId = db.workspaceId) :
    ConflictRow db.workspaceId sequence c.stored ∧
      db₁.conflicts = db.conflicts.insert sequence c.stored ∧
      ∀ (s : ℕ) c', db.conflicts[s]? = some c' → c'.id ≠ c.stored.id := by
  cases h with
  | conflicted different stale parsed safe_snapshots inserted =>
    obtain ⟨hwf, rfl⟩ := (ReplicationConflict.parse_eq_ok _ _).1 parsed
    obtain ⟨hids, -, -, rfl⟩ := Database.insertConflict_eq_ok.1 inserted
    exact ⟨ReplicationConflict.conflictRow _ hwf safe_snapshots.1 safe_snapshots.2.1
      safe_snapshots.2.2 hclock hworkspace rfl, rfl, hids⟩

/-- INVARIANT: acceptance leaves rows that can be published. -/
theorem Publishable.accept {operation : ReplicationOperation} {ctx : AcceptContext}
    {result : ReplicationOperationResult} (h : Publishable db)
    (hadmissible : Admissible rt operation)
    (haccept : acceptOneOperation rt db operation ctx = .ok (db', result)) : Publishable db' := by
  obtain ⟨authority, registration, hadmits, ⟨prior, hretry⟩ | ⟨db₁, d, c, haccepts⟩⟩ :=
    acceptOne_eq_ok.1 haccept
  · rw [hretry.after_eq]
    exact h.same rfl .inl rfl rfl
  obtain ⟨precondition, intended, current, -, -, -, -, hclass⟩ :=
    classify_eq_ok.1 haccepts.classified
  have hsome : db.authority ≠ none := by simp [hadmits.authority_eq]
  have hframe := hclass.frame
  have hconflicts : db'.conflicts = db₁.conflicts := by rw [haccepts.after_eq]
  have hretired : db'.retired = db.retired := by rw [haccepts.after_eq, hframe]
  have hworkspace : jsTrim operation.workspaceId = db.workspaceId :=
    (congrArg (fun o : ReplicationOperation => o.workspaceId) hadmissible.trimmed).trans
      hadmits.workspace
  cases hclass with
  | equivalent =>
    refine h.same ?_ (fun _ => .inl hsome) hconflicts hretired
    rw [haccepts.after_eq]
    rfl
  | applied _ _ _ effect =>
    refine h.same ?_ (fun _ => .inl hsome) hconflicts hretired
    rw [haccepts.after_eq]
    exact (apply_surroundings effect).1
  | @conflicted conflict _ different stale parsed safe_snapshots inserted =>
    obtain ⟨hrow, hinsert, hids⟩ := Classified.conflictRow
      (.conflicted different stale parsed safe_snapshots inserted) hadmits.clock hworkspace
    obtain ⟨-, -, -, hafter⟩ := Database.insertConflict_eq_ok.1 inserted
    have hworkspace' : db'.workspaceId = db.workspaceId := by
      rw [haccepts.after_eq, ← hafter]
      rfl
    have hlookup {s : ℕ} {c' : ReplicationConflict} (hc' : db'.conflicts[s]? = some c') :
        (s = authority.currentSequence + 1 ∧ c' = conflict.stored) ∨
          db.conflicts[s]? = some c' := by
      rw [hconflicts, hinsert, Table.getElem?_insert'] at hc'
      split at hc'
      · rename_i heq
        exact .inl ⟨heq.symm, (Option.some.inj hc').symm⟩
      · exact .inr hc'
    constructor
    case workspace =>
      intro _
      rw [hworkspace']
      exact h.workspace hsome
    case conflict =>
      intro s c' hc'
      rw [hworkspace']
      obtain ⟨rfl, rfl⟩ | hold := hlookup hc'
      · exact hrow
      · exact h.conflict s c' hold
    case conflict_ids =>
      intro s s' c₁ c₂ h₁ h₂ hid
      obtain ⟨rfl, rfl⟩ | hold₁ := hlookup h₁
      · obtain ⟨rfl, rfl⟩ | hold₂ := hlookup h₂
        · rfl
        · exact absurd hid.symm (hids s' c₂ hold₂)
      · obtain ⟨rfl, rfl⟩ | hold₂ := hlookup h₂
        · exact absurd hid (hids s c₁ hold₁)
        · exact h.conflict_ids s s' c₁ c₂ hold₁ hold₂ hid
    case retired => exact fun id r hr => h.retired id r (hretired ▸ hr)

/-- INVARIANT: every call leaves rows that can be published. -/
theorem Publishable.step (h : Publishable db) (action : AuthorityAction) :
    Publishable (authorityStep rt db action) := by
  cases action <;> simp only [authorityStep]
  case initializeAuthority =>
    refine settle_rule h fun db' hok => ?_
    obtain rfl | ⟨-, hblank, rfl⟩ := initialize_eq_ok hok
    · exact h
    · exact h.same rfl (fun _ => .inr hblank) rfl rfl
  case register =>
    refine settle_rule h fun db' hok => ?_
    obtain ⟨row, rfl, -⟩ := register_eq_ok hok
    exact h.same rfl .inl rfl rfl
  case pull =>
    refine settle_fst_rule h fun db' response hok => ?_
    obtain ⟨_, _, _, _, -, -, -, -, -, -, -, -, rfl⟩ := pull_eq_ok hok
    exact h.same rfl .inl rfl rfl
  case retire =>
    refine settle_rule h fun db' hok => ?_
    obtain ⟨snapshot, ledger, -, hdelete, -, hclock, rfl⟩ := retire_eq_ok hok
    have hworkspace : ledger.workspaceId = db.workspaceId := by
      simp only [Ledger.deleteTasks, bind_eq_ok, pure_eq_ok] at hdelete
      obtain ⟨-, -, rfl⟩ := hdelete
      rfl
    have hsame : Publishable { db with ledger := ledger } := h.same hworkspace .inl rfl rfl
    refine ⟨hsame.workspace, hsame.conflict, hsame.conflict_ids, fun id r hr => ?_⟩
    rw [Table.getElem?_insert'] at hr
    split at hr
    · rw [← Option.some.inj hr]
      exact hclock
    · exact h.retired id r hr
  case prune =>
    refine settle_fst_rule h fun db' _ hok => ?_
    obtain ⟨authority, hauthority, rfl | rfl⟩ := prune_eq_ok hok
    · exact h.same rfl .inl rfl rfl
    · exact h.same rfl (fun _ => .inl (by simp [hauthority])) rfl rfl
  case recover =>
    refine settle_fst_rule h fun db' snapshot hok => ?_
    obtain ⟨_, -, -, -, rfl, -⟩ | ⟨current, row, hcurrent, -, -, -, rfl, -⟩ := recover_eq_ok hok
    · exact h
    · exact h.same rfl (fun _ => .inl (by simp [hcurrent])) rfl rfl
  case edit ledger =>
    unfold Database.edit
    split
    · rename_i hworkspace
      exact h.same hworkspace .inl rfl rfl
    · exact h
  case push input options =>
    exact push_rule (fun _ _ _ _ _ hadmissible h haccept => h.accept hadmissible haccept) input
      options h

/-- INVARIANT: in every run the rows of replication can be published. -/
theorem authority_run_publishable (h : Publishable db) (actions : List AuthorityAction) :
    Publishable (run (authorityStep rt) db actions) :=
  run_invariant' (I := Publishable) (fun _ action h => h.step action) actions h

/-- RUN: also where a replica follows the feed. -/
theorem follow_publishable (fresh : db.Fresh) (rounds : List PullRound) :
    Publishable (run (follow rt) ⟨db, none, 0, []⟩ rounds).db := by
  refine run_invariant' (I := fun follower : Follower => Publishable follower.db) ?_ rounds
    fresh.publishable
  intro follower round h
  have hbefore : Publishable (follower.authorityAt rt round) :=
    authority_run_publishable h round.before
  cases hpull : pullReplication rt (follower.authorityAt rt round) (round.pull follower) with
  | error e =>
    rw [follow_error hpull]
    exact hbefore
  | ok outcome =>
    obtain ⟨db', response⟩ := outcome
    obtain ⟨_, _, _, _, -, -, -, -, -, -, -, -, hdb'⟩ := pull_eq_ok hpull
    have hafter : Publishable db' := by
      rw [hdb']
      exact hbefore.same rfl .inl rfl rfl
    rw [follow_ok hpull]
    unfold Follower.receive
    split <;> exact hafter

/-! ### The snapshot -/

/-- The rows that a snapshot lists. -/
def Database.unscoped (db : Database) : List (UuidV7 × Task) :=
  Table.rows db.ledger.tasks fun _ row => row.isUnscoped

/-- The row of a record. -/
def recordOf (rt : Runtime) (entry : UuidV7 × Task) : ReplicationSnapshotRecord :=
  ⟨entry.1, rt.stateOf (projectionOf entry.1 entry.2), projectionOf entry.1 entry.2⟩

/-- The row has a record. -/
structure Recordable (id : UuidV7) (row : Task) : Prop where
  bounded : CriteriaBounded row.successCriteria
  assertion : row.validationRequired = false
  safe_state : safe (semanticState (projectionOf id row)) = true

theorem isUnscoped_iff {row : Task} : row.isUnscoped = true ↔ row.Flat := by
  simp only [Task.isUnscoped, Bool.and_eq_true, Option.isNone_iff_eq_none]
  constructor
  · rintro ⟨⟨⟨hp, hg⟩, ha⟩, ht⟩
    exact ⟨hp, hg, ha, ht⟩
  · intro h
    exact ⟨⟨⟨h.project, h.goal⟩, h.area⟩, h.parent⟩

theorem mem_unscoped {e : UuidV7 × Task} :
    e ∈ db.unscoped ↔ db.ledger.tasks[e.1]? = some e.2 ∧ e.2.Flat := by
  rw [Database.unscoped, Table.mem_rows, isUnscoped_iff]

theorem snapshotRecord_eq_ok {id : UuidV7} {row : Task} (hflat : row.Flat)
    (record : ReplicationSnapshotRecord) :
    snapshotRecord rt id row = .ok record ↔ Recordable id row ∧ recordOf rt (id, row) = record := by
  simp only [snapshotRecord, bind_eq_ok, refuse_eq_ok, not_not, taskToProjection_eq_ok,
    stateDigest_eq_ok, pure_eq_ok]
  constructor
  · rintro ⟨-, hbounded, _, ⟨⟨-, hassertion⟩, rfl⟩, _, ⟨hsafe, rfl⟩, rfl⟩
    exact ⟨⟨hbounded, hassertion, hsafe⟩, rfl⟩
  · rintro ⟨h, rfl⟩
    exact ⟨(), h.bounded, _, ⟨⟨hflat, h.assertion⟩, rfl⟩, _, ⟨h.safe_state, rfl⟩, rfl⟩

/-- The snapshot of a store, without its digest. -/
def publishedSnapshot (rt : Runtime) (db : Database) (authority : ReplicationAuthority) :
    UnsignedSnapshot where
  workspaceId := db.workspaceId
  authorityReplicaId := authority.authorityReplicaId
  authorityEpoch := authority.authorityEpoch
  coveredSequence := authority.currentSequence
  projectionDigest := replicationProjectionDigest rt
  acceptedFrontiers := db.replicas.toList.map fun entry =>
    ⟨(ofLex entry.1).1, (ofLex entry.1).2, entry.2.acceptedCounter, entry.2.acceptedDigest⟩
  records := db.unscoped.map (recordOf rt)
  retiredIdentities := db.retired.toList.map fun entry =>
    ⟨entry.1, entry.2.retiredAt, entry.2.tombstoneDigest⟩
  unresolvedConflicts := db.conflicts.toList.map Prod.snd

/-- A snapshot with its digest. -/
def signedSnapshot (rt : Runtime) (unsigned : UnsignedSnapshot) : ReplicationSnapshot :=
  { unsigned.trimmed with snapshotDigest := rt.sha256 (.snapshot (canonical unsigned)) }

/-- No conflict is ever resolved, so a snapshot lists every one. -/
theorem Publishable.unresolved (h : Publishable db) :
    (Table.rows db.conflicts fun _ c => c.resolvedByOperationDigest.isNone) = db.conflicts.toList := by
  refine List.filter_eq_self.2 fun e he => ?_
  simp [(h.conflict e.1 e.2 (Table.mem_toList.1 he)).unresolved]

/-- BUILD: exactly when the snapshot of a store can be built, and what it is. -/
theorem buildSnapshot_eq_ok (h : Publishable db) {authority : ReplicationAuthority}
    (s : ReplicationSnapshot) :
    buildSnapshot rt db authority = .ok s ↔
      (∀ e ∈ db.unscoped, Recordable e.1 e.2) ∧ safe (publishedSnapshot rt db authority) = true ∧
        (publishedSnapshot rt db authority).WellFormed ∧
          signedSnapshot rt (publishedSnapshot rt db authority) = s := by
  have hrecords (records : List ReplicationSnapshotRecord) :
      (db.unscoped.mapM fun entry => snapshotRecord rt entry.1 entry.2) = .ok records ↔
        (∀ e ∈ db.unscoped, Recordable e.1 e.2) ∧ db.unscoped.map (recordOf rt) = records :=
    mapM_eq_ok (fun e he => snapshotRecord_eq_ok (mem_unscoped.1 he).2) records
  have hrow {e : ℕ × ReplicationConflict} (he : e ∈ db.conflicts.toList) :=
    h.conflict e.1 e.2 (Table.mem_toList.1 he)
  have hconflicts (conflicts : List ReplicationConflict) :
      ((Table.rows db.conflicts fun _ c => c.resolvedByOperationDigest.isNone).mapM fun entry =>
        conflictFromRow entry.2) = .ok conflicts ↔
          db.conflicts.toList.map Prod.snd = conflicts := by
    rw [h.unresolved, mapM_eq_ok (P := fun _ => True) (g := Prod.snd)]
    · simp
    · intro e he c
      rw [conflictFromRow, ReplicationConflict.parse_eq_ok, (hrow he).trimmed]
      simp [(hrow he).wellFormed]
  simp only [buildSnapshot, bind_eq_ok]
  constructor
  · rintro ⟨records, hr, conflicts, hc, hsign⟩
    obtain ⟨hall, rfl⟩ := (hrecords records).1 hr
    obtain rfl := (hconflicts conflicts).1 hc
    simp only [signSnapshot, snapshotDigest, bind_eq_ok, replicationDigest_eq_ok,
      ReplicationSnapshot.parse_eq_ok] at hsign
    obtain ⟨_, ⟨hsafe, rfl⟩, hwf, rfl⟩ := hsign
    exact ⟨hall, hsafe, hwf, rfl⟩
  · rintro ⟨hall, hsafe, hwf, rfl⟩
    refine ⟨_, (hrecords _).2 ⟨hall, rfl⟩, _, (hconflicts _).2 rfl, ?_⟩
    simp only [signSnapshot, snapshotDigest, bind_eq_ok, replicationDigest_eq_ok,
      ReplicationSnapshot.parse_eq_ok]
    exact ⟨_, ⟨hsafe, rfl⟩, hwf, rfl⟩

/-! ### When it verifies -/

/-- What a snapshot needs and replication does not see to. -/
structure Snapshotable (db : Database) : Prop where
  trimmed : jsTrim db.workspaceId = db.workspaceId
  bounded : ∀ e ∈ db.unscoped, CriteriaBounded e.2.successCriteria
  assertion : ∀ e ∈ db.unscoped, e.2.validationRequired = false
  safe_row : ∀ e ∈ db.unscoped, safe (projectionOf e.1 e.2) = true
  live : ∀ e ∈ db.unscoped, e.1 ∉ db.retired
  records_count : db.unscoped.length ≤ 100000
  replicas_count : db.replicas.size ≤ 100000
  retired_count : db.retired.size ≤ 100000
  conflicts_count : db.conflicts.size ≤ 100000

/-- A safe projection has a safe semantic state. -/
theorem safe_semanticState {s : ReplicatedCommitmentSnapshot} (h : safe s = true) :
    safe (semanticState s) = true := by
  change (safe s.toCommitmentFields && safe s.toEngineFields && safe s.createdAt &&
    safe s.updatedAt && safe s.deletedAt) = true at h
  change (safe s.toCommitmentFields && safe s.toEngineFields) = true
  simp only [Bool.and_eq_true] at h ⊢
  exact h.1.1.1

theorem Logged.sequence_safe {history : History} (h : Logged rt db history) :
    db.sequence ≤ Json.maxSafeInteger := by
  obtain hzero | hpos := Nat.eq_zero_or_pos db.sequence
  · rw [hzero]
    exact Nat.zero_le _
  · obtain ⟨row, hrow⟩ := (h.filled db.sequence).2 ⟨hpos, le_rfl⟩
    have hfaithful := h.faithful _ row hrow
    rw [← hfaithful.result_sequence]
    exact hfaithful.result_wellFormed.2.1.2

/-- A frontier that can be published. -/
theorem Logged.frontier_safe {history : History} (h : Logged rt db history) {g : Generation}
    {reg : ReplicaRow} (hreg : db.replicas[g]? = some reg) :
    reg.acceptedCounter ≤ Json.maxSafeInteger ∧
      (reg.acceptedCounter = 0 ↔ reg.acceptedDigest = none) := by
  obtain ⟨hnone, hfrontier⟩ := h.frontier g reg hreg
  obtain hzero | hpos := Nat.eq_zero_or_pos reg.acceptedCounter
  · exact ⟨by omega, iff_of_true hzero (hnone hzero)⟩
  · obtain ⟨s, row, hrow, hg, hcounter⟩ := h.complete g reg hreg _ hpos le_rfl
    have hfaithful := h.faithful s row hrow
    have hdigest := hfrontier s row hrow hg hcounter
    refine ⟨?_, iff_of_false (by omega) (by simp [hdigest])⟩
    rw [← hcounter, ← hfaithful.result_counter]
    exact hfaithful.result_wellFormed.1.2

theorem Snapshotable.recordable (h : Snapshotable db) :
    ∀ e ∈ db.unscoped, Recordable e.1 e.2 := fun e he =>
  ⟨h.bounded e he, h.assertion e he, safe_semanticState (h.safe_row e he)⟩

variable (rt) in
/-- Nothing but the rows of the tasks can be unsafe. -/
theorem publishedSnapshot_safe {history : History} (h : Publishable db) (hlog : Logged rt db history)
    {authority : ReplicationAuthority} (hauthority : db.authority = some authority) :
    safe (publishedSnapshot rt db authority) = true ↔
      ∀ e ∈ db.unscoped, safe (projectionOf e.1 e.2) = true := by
  have hsequence : authority.currentSequence ≤ Json.maxSafeInteger := by
    simpa [Database.sequence, hauthority] using hlog.sequence_safe
  rw [UnsignedSnapshot.safe_iff]
  simp only [publishedSnapshot, List.forall_mem_map]
  constructor
  · rintro ⟨-, -, hrecords, -⟩
    exact hrecords
  · refine fun hrecords => ⟨hsequence, ?_, hrecords, ?_, ?_⟩
    · exact fun e he => (hlog.frontier_safe (Table.mem_toList.1 he)).1
    · exact fun e he => h.retired e.1 e.2 (Table.mem_toList.1 he)
    · exact fun e he => (h.conflict e.1 e.2 (Table.mem_toList.1 he)).safe_row

variable (rt) in
/-- Nothing but its size can make a snapshot ill-formed. -/
theorem publishedSnapshot_wellFormed {history : History} (h : Publishable db)
    (hlog : Logged rt db history) {authority : ReplicationAuthority}
    (hauthority : db.authority = some authority) :
    (publishedSnapshot rt db authority).WellFormed ↔
      db.replicas.size ≤ 100000 ∧ db.unscoped.length ≤ 100000 ∧ db.retired.size ≤ 100000 ∧
        db.conflicts.size ≤ 100000 := by
  have hsequence : authority.currentSequence ≤ Json.maxSafeInteger := by
    simpa [Database.sequence, hauthority] using hlog.sequence_safe
  have hblank := h.workspace (by simp [hauthority])
  simp only [UnsignedSnapshot.WellFormed, publishedSnapshot, List.length_map,
    Std.ExtTreeMap.length_toList, List.forall_mem_map, IsSequence]
  constructor
  · rintro ⟨-, -, hreplicas, hrecords, hretired, hconflicts, -⟩
    exact ⟨hreplicas, hrecords, hretired, hconflicts⟩
  · rintro ⟨hreplicas, hrecords, hretired, hconflicts⟩
    refine ⟨hblank, hsequence, hreplicas, hrecords, hretired, hconflicts, ?_, ?_⟩
    · exact fun e he => hlog.frontier_safe (Table.mem_toList.1 he)
    · exact fun e he => (h.conflict e.1 e.2 (Table.mem_toList.1 he)).wellFormed

variable (rt) in
/-- The texts of a snapshot are trimmed when the workspace id is. -/
theorem publishedSnapshot_trimmed (h : Publishable db) (authority : ReplicationAuthority)
    (htrimmed : jsTrim db.workspaceId = db.workspaceId) :
    (publishedSnapshot rt db authority).trimmed = publishedSnapshot rt db authority := by
  have hconflicts : (db.conflicts.toList.map Prod.snd).map ReplicationConflict.trimmed =
      db.conflicts.toList.map Prod.snd := by
    rw [List.map_map]
    exact List.map_congr_left fun e he => (h.conflict e.1 e.2 (Table.mem_toList.1 he)).trimmed
  simp only [publishedSnapshot, UnsignedSnapshot.trimmed, hconflicts, htrimmed]

/-- What a snapshot of fit tasks carries. -/
theorem publishedSnapshot_verified {history : History} (h : Publishable db)
    (hlog : Logged rt db history) {authority : ReplicationAuthority}
    (hauthority : db.authority = some authority) (hready : Snapshotable db) :
    SnapshotVerified rt ⟨publishedSnapshot rt db authority,
      rt.sha256 (.snapshot (canonical (publishedSnapshot rt db authority)))⟩ where
  safe_unsigned := (publishedSnapshot_safe rt h hlog hauthority).2 hready.safe_row
  digest := rfl
  projection := rfl
  records r hr := by
    obtain ⟨e, he, rfl⟩ := List.mem_map.1 hr
    exact ⟨(hready.recordable e he).safe_state, rfl, rfl⟩
  record_ids := by
    rw [publishedSnapshot, List.map_map]
    exact (Table.keys_nodup db.ledger.tasks).sublist (List.filter_sublist.map _)
  retired_ids := by
    rw [publishedSnapshot, List.map_map]
    exact Table.keys_nodup db.retired
  frontier_ids := by
    rw [publishedSnapshot, List.map_map]
    have hnodup := (Table.keys_nodup db.replicas).map (f := ofLex) ofLex.injective
    rwa [List.map_map] at hnodup
  conflict_ids := by
    rw [publishedSnapshot, List.map_map]
    refine (List.Nodup.of_map _ (Table.keys_nodup db.conflicts)).map_on fun a ha b hb hid => ?_
    have ha := Table.mem_toList.1 ha
    have hb := Table.mem_toList.1 hb
    have hkey := h.conflict_ids a.1 b.1 a.2 b.2 ha hb hid
    rw [hkey, hb, Option.some.injEq] at ha
    exact Prod.ext hkey ha.symm
  disjoint r hr hmem := by
    obtain ⟨e, he, rfl⟩ := List.mem_map.1 hr
    obtain ⟨_, hrecord, hid⟩ := List.mem_map.1 hmem
    obtain ⟨e', he', rfl⟩ := List.mem_map.1 hrecord
    refine hready.live e' he' ?_
    rw [show e'.1 = e.1 from hid]
    exact Table.mem_of_getElem? (Table.mem_toList.1 he)
  conflicts c hc := by
    obtain ⟨e, he, rfl⟩ := List.mem_map.1 hc
    have he := Table.mem_toList.1 he
    have hrow := h.conflict e.1 e.2 he
    refine ⟨hrow.workspace, hrow.unresolved, ?_⟩
    rw [hrow.sequence]
    have hle := hlog.conflicts e.1 e.2 he
    simpa [Database.sequence, hauthority, publishedSnapshot] using hle

/-- PUBLISH: a snapshot is built and verifies exactly when the tasks are fit for it. -/
theorem snapshot_verifies_iff {history : History} (free : rt.CollisionFree) (h : Publishable db)
    (hlog : Logged rt db history) {authority : ReplicationAuthority}
    (hauthority : db.authority = some authority) :
    (∃ s, buildSnapshot rt db authority = .ok s ∧ Completes (verifySnapshot rt s)) ↔
      Snapshotable db := by
  have hsafe := publishedSnapshot_safe rt h hlog hauthority
  have hwf := publishedSnapshot_wellFormed rt h hlog hauthority
  simp only [buildSnapshot_eq_ok h, Completes, verifySnapshot_eq_ok]
  constructor
  · rintro ⟨_, ⟨hrecordable, hs, hw, rfl⟩, _, -, rfl, hverified⟩
    have hdigest := hverified.digest
    simp only [signedSnapshot, ReplicationSnapshot.trimmed, UnsignedSnapshot.trimmed_trimmed] at hdigest
    have hsame := free hdigest
    simp only [Document.snapshot.injEq] at hsame
    obtain ⟨hreplicas, hrecords, hretired, hconflicts⟩ := hwf.1 hw
    refine ⟨congrArg UnsignedSnapshot.workspaceId hsame, fun e he => (hrecordable e he).bounded,
      fun e he => (hrecordable e he).assertion, hsafe.1 hs, fun e he hmem => ?_, hrecords, hreplicas,
      hretired, hconflicts⟩
    have hrow := Std.ExtTreeMap.getElem?_eq_some_getElem hmem
    refine hverified.disjoint ⟨e.1, _, _⟩
      (List.mem_map.2 ⟨(e.1, _), Table.mem_toList.2 hrow, rfl⟩) ?_
    exact List.mem_map.2 ⟨recordOf rt e, List.mem_map.2 ⟨e, he, rfl⟩, rfl⟩
  · intro hready
    have htrimmed := publishedSnapshot_trimmed rt h authority hready.trimmed
    have hs := hsafe.2 hready.safe_row
    have hw := hwf.2 ⟨hready.replicas_count, hready.records_count, hready.retired_count,
      hready.conflicts_count⟩
    refine ⟨_, ⟨hready.recordable, hs, hw, rfl⟩, _, ?_, rfl, ?_⟩
    · simpa [signedSnapshot] using hw
    · have hsigned : (signedSnapshot rt (publishedSnapshot rt db authority)).trimmed =
          ⟨publishedSnapshot rt db authority,
            rt.sha256 (.snapshot (canonical (publishedSnapshot rt db authority)))⟩ := by
        simp [signedSnapshot, ReplicationSnapshot.trimmed, htrimmed]
      rw [hsigned]
      exact publishedSnapshot_verified h hlog hauthority hready

/-- PUBLISH: in every run, whatever other services write, the snapshot is built and verifies exactly
    when the tasks are fit for it. -/
theorem snapshot_self_consistent_iff (rt : Runtime) (free : rt.CollisionFree) (db : Database)
    (fresh : db.Fresh) (actions : List AuthorityAction) (authority : ReplicationAuthority)
    (started : (run (authorityStep rt) db actions).authority = some authority) :
    (∃ s, buildSnapshot rt (run (authorityStep rt) db actions) authority = .ok s ∧
        Completes (verifySnapshot rt s)) ↔
      Snapshotable (run (authorityStep rt) db actions) := by
  obtain ⟨history, hlog⟩ := authority_run_logged rt ⟨_, fresh.logged⟩ actions
  exact snapshot_verifies_iff free (authority_run_publishable fresh.publishable actions) hlog started

/-- An authority with commitment 7. -/
def publishedSeven : Call (List AuthorityAction × ReplicationAuthority) := do
  let replica ← plainReplica
  let (_, queued) ← queueCommand idealRuntime replica createSeven (localAt 10)
  let actions : List AuthorityAction := [.initializeAuthority "w" 2 3 5, .register "w" 1 1 "p" 6,
    pushOne queued.operation 11]
  let authority ← (run (authorityStep idealRuntime) .plain actions).requireAuthority "w"
  pure (actions, authority)

theorem snapshot_self_consistent_iff_pushed :
    ∃ actions authority,
      (run (authorityStep idealRuntime) .plain actions).authority = some authority ∧
      (run (authorityStep idealRuntime) .plain actions).ledger.tasks.size = 1 ∧
      ((∃ s, buildSnapshot idealRuntime (run (authorityStep idealRuntime) .plain actions) authority =
          .ok s ∧ Completes (verifySnapshot idealRuntime s)) ↔
        Snapshotable (run (authorityStep idealRuntime) .plain actions)) := by
  obtain ⟨⟨actions, authority⟩, -, hstarted, hsize⟩ : Ends publishedSeven fun outcome =>
      (run (authorityStep idealRuntime) .plain outcome.1).authority = some outcome.2 ∧
        (run (authorityStep idealRuntime) .plain outcome.1).ledger.tasks.size = 1 := by
    decide +kernel
  exact ⟨actions, authority, hstarted, hsize, snapshot_self_consistent_iff idealRuntime
    idealRuntime_collisionFree .plain (Database.fresh_fresh "w") actions authority hstarted⟩

/-- A local task that asks for independent validation stops every snapshot. -/
theorem validated_task_stops_snapshots :
    Ends (do
      let (ledger, _) ← Database.plain.ledger.createTaskInTransaction idealRuntime
        { TaskInsert.ofCreate (plainCommitment 8 ⟨"t", by decide⟩ ⟨[]⟩) with
          completionMode := .evidence
          successCriteria := some "c"
          validationRequired := true } ⟨"p", some "p", 10⟩
      let db := run (authorityStep idealRuntime) .plain
        [.initializeAuthority "w" 2 3 5, .register "w" 1 1 "p" 6, .edit ledger]
      let authority ← db.requireAuthority "w"
      pure (buildSnapshot idealRuntime db authority))
      fun built => built = .error (.protocol .projectionViolation
        "Commitment 8 requires authority-only resolution records outside tasq.commitment-projection.v1") := by
  decide +kernel

end Tasq
