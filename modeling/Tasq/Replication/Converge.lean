import Mathlib.Tactic
import Tasq.Replication.Publish
import Tasq.Replication.Rebase

/-! Convergence: what a replica without pending operations holds after it has installed the snapshot
    that the authority publishes.

    The commitments that the authority publishes are its rows without scope (`Publishes`), those of
    a replica are the rows that replication put there or that its own queue names (`Tracks`).
    `Converged` compares the two; the rows that an installation does not reset are `Stranded`. -/

namespace Tasq

open Text Outcome Ledger Run

variable {rt : Runtime} {authority replica replica' : Database} {snapshot : ReplicationSnapshot}
  {id : UuidV7}

/-! ### The two sides -/

/-- The row of a commitment that the authority publishes. -/
structure Publishes (authority : Database) (id : UuidV7) (row : Task) : Prop where
  found : authority.ledger.tasks[id]? = some row
  flat : row.Flat

/-- The replica holds the record through replication: a snapshot brought it, or a command of the
    replica named it. -/
def Database.Tracks (replica : Database) (id : UuidV7) : Prop :=
  id ∈ replica.materialized ∨ ∃ (counter : ℕ) (row : OutgoingRow),
    replica.outgoing[counter]? = some row ∧ operationRecordId row.operation.command = id

/-- The replicated commitments of a replica are those of the authority, and so are the retired
    identities; `tracked` are the records that the replica held through replication. -/
structure Converged (authority : Database) (tracked : UuidV7 → Prop) (replica : Database) : Prop where
  same : ∀ id row, Publishes authority id row → ∃ row', Projects replica.ledger id row' ∧
    projectionOf id row' = canonical (projectionOf id row)
  gone : ∀ id, tracked id → (∀ row, ¬ Publishes authority id row) → replica.ledger.tasks[id]? = none
  retired : replica.retired = authority.retired

/-- A row that the replica made itself, that no snapshot has brought since, and that the authority
    neither publishes nor lists as retired. -/
structure Stranded (authority replica : Database) (id : UuidV7) : Prop where
  sent : ∃ (counter : ℕ) (row : OutgoingRow), replica.outgoing[counter]? = some row ∧
    operationRecordId row.operation.command = id
  unmaterialized : id ∉ replica.materialized
  unpublished : ∀ row, ¬ Publishes authority id row
  unretired : id ∉ authority.retired
  present : replica.ledger.tasks[id]? ≠ none

/-! ### What is installed of a published snapshot -/

/-- The records of a published snapshot are the published rows. -/
theorem mem_published_records (h : snapshot.records = authority.unscoped.map (recordOf rt)) :
    id ∈ snapshot.records.map (·.recordId) ↔ ∃ row, Publishes authority id row := by
  rw [h, List.map_map]
  constructor
  · intro hmem
    obtain ⟨e, he, rfl⟩ := List.mem_map.1 hmem
    obtain ⟨hrow, hflat⟩ := mem_unscoped.1 he
    exact ⟨e.2, hrow, hflat⟩
  · rintro ⟨row, hrow, hflat⟩
    exact List.mem_map.2 ⟨(id, row), mem_unscoped.2 ⟨hrow, hflat⟩, rfl⟩

/-- A published row arrives with its own projection. -/
theorem installedRow_projects {l : Ledger} {row : Task} (hbounded : CriteriaBounded row.successCriteria)
    (h : l.tasks[id]? = some (installedRow (projectionOf id row))) :
    ∃ row', Projects l id row' ∧ projectionOf id row' = canonical (projectionOf id row) :=
  ⟨_, ⟨h, hbounded, ⟨⟨rfl, rfl, rfl, rfl⟩, rfl⟩⟩, rfl⟩

/-- The retired identities arrive as they are. -/
theorem installed_retired_eq (replica : Database) (pending : List ReplicationOperation)
    (now : UnixMs)
    (h : snapshot.retiredIdentities = authority.retired.toList.map fun entry =>
      ⟨entry.1, entry.2.retiredAt, entry.2.tombstoneDigest⟩) :
    (replica.installed pending snapshot now).retired = authority.retired := by
  have hids : snapshot.retiredIdentities.map (fun record => record.recordId) =
      authority.retired.toList.map Prod.fst := by
    rw [h, List.map_map]
    rfl
  refine Table.ext_rows fun k => ?_
  by_cases hk : k ∈ authority.retired
  · obtain ⟨row, hrow⟩ : ∃ row, authority.retired[k]? = some row :=
      ⟨_, Std.ExtTreeMap.getElem?_eq_some_getElem hk⟩
    have hmem : (⟨k, row.retiredAt, row.tombstoneDigest⟩ : ReplicationRetiredIdentity) ∈
        snapshot.retiredIdentities := by
      rw [h]
      exact List.mem_map.2 ⟨(k, row), Table.mem_toList.2 hrow, rfl⟩
    have hnodup : (snapshot.retiredIdentities.map fun record => record.recordId).Nodup := by
      rw [hids]
      exact Table.keys_nodup authority.retired
    rw [hrow]
    exact Table.insertAll_of_mem _ (fun record : ReplicationRetiredIdentity => record.recordId)
      (fun record => (⟨record.tombstoneDigest, record.retiredAt⟩ : RetiredIdentity)) hnodup hmem
  · have hnone : k ∉ (replica.installed pending snapshot now).retired := by
      rw [installed_retired, hids]
      intro hmem
      obtain ⟨e, he, rfl⟩ := List.mem_map.1 hmem
      exact hk (Table.mem_of_getElem? (Table.mem_toList.1 he))
    rw [Std.ExtTreeMap.getElem?_eq_none hk, Std.ExtTreeMap.getElem?_eq_none hnone]

/-- INSTALL: without pending operations, a published snapshot makes the replica converge exactly
    when no row is stranded. -/
theorem install_converged_iff {row₀ : ReplicationAuthority} {input : ReplicationSnapshot}
    {actor : String} {cursor : Option Cursor} {now : UnixMs} {n : ℕ}
    (hpublishable : Publishable authority)
    (hbuilt : buildSnapshot rt authority row₀ = .ok input) (hquiet : replica.pendingRows = [])
    (h : installReplicationSnapshotAndRebase rt replica input actor cursor now =
      .ok (replica', n)) :
    Converged authority replica.Tracks replica' ↔ ∀ id, ¬ Stranded authority replica id := by
  obtain ⟨hrecordable, -, -, rfl⟩ := (buildSnapshot_eq_ok hpublishable input).1 hbuilt
  obtain ⟨-, snapshot, localReplica, frontier, base, after, previousDigest, hinstalls⟩ :=
    install_eq_ok.1 h
  obtain ⟨-, htrimmed, hverified⟩ := (verifySnapshot_eq_ok rt _ snapshot).1 hinstalls.verified
  have hrecords : snapshot.records = authority.unscoped.map (recordOf rt) := by
    rw [← htrimmed]
    rfl
  have hretired : snapshot.retiredIdentities = authority.retired.toList.map fun entry =>
      ⟨entry.1, entry.2.retiredAt, entry.2.tombstoneDigest⟩ := by
    rw [← htrimmed]
    rfl
  have hnone : replica.pendingOperations = [] := by simp [Database.pendingOperations, hquiet]
  obtain ⟨-, hbase⟩ := installTables_eq_ok.1 hinstalls.tables
  obtain ⟨pullCursor, -, hafter⟩ := hinstalls.after_eq
  have hreplayed := hinstalls.replayed
  rw [hnone] at hbase hreplayed
  simp only [List.foldlM_nil, pure_eq_ok, Prod.mk.injEq] at hreplayed
  obtain ⟨rfl, -⟩ := hreplayed
  have hledger : replica'.ledger = (replica.installed [] snapshot now).ledger := by
    rw [hafter, hbase]
  have hidentities : replica'.retired = authority.retired := by
    rw [hafter, ← installed_retired_eq replica [] now hretired,
      hbase]
  -- What an unpublished record is left with.
  have hleft (k : UuidV7) (hk : ∀ row, ¬ Publishes authority k row) :
      replica'.ledger.tasks[k]? =
        if k ∈ replica.materialized ∨ k ∈ authority.retired then none
        else replica.ledger.tasks[k]? := by
    have hunlisted : k ∉ snapshot.records.map (·.recordId) := fun hmem => by
      obtain ⟨row, hrow⟩ := (mem_published_records hrecords).1 hmem
      exact hk row hrow
    have hreset : k ∈ resetIds replica [] snapshot ↔
        k ∈ replica.materialized ∨ k ∈ authority.retired := by
      rw [mem_resetIds, ← hidentities, hafter, ← hbase, installed_retired]
      simp only [List.map_nil, List.not_mem_nil, hunlisted, false_or]
    rw [hledger, installed_unlisted hverified hunlisted]
    simp only [hreset]
  constructor
  · intro hconverged k hstranded
    have hnone := hconverged.gone k (.inr hstranded.sent) hstranded.unpublished
    rw [hleft k hstranded.unpublished,
      if_neg (by simp [hstranded.unmaterialized, hstranded.unretired])] at hnone
    exact hstranded.present hnone
  · intro hstranded
    refine ⟨fun k row hrow => ?_, fun k htracked hunpublished => ?_, hidentities⟩
    · have hmem : (k, row) ∈ authority.unscoped := mem_unscoped.2 ⟨hrow.found, hrow.flat⟩
      have hrecord : recordOf rt (k, row) ∈ snapshot.records :=
        hrecords ▸ List.mem_map_of_mem hmem
      refine installedRow_projects (hrecordable _ hmem).bounded ?_
      rw [hledger]
      exact installed_listed hverified hrecord
    · rw [hleft k hunpublished]
      split
      · rfl
      · rename_i hkept
        rw [not_or] at hkept
        by_contra hpresent
        refine hstranded k ⟨?_, hkept.1, hunpublished, hkept.2, hpresent⟩
        exact htracked.resolve_left hkept.1

/-- CONVERGE: in every run of the authority, a replica without pending operations that installs the
    snapshot of the current sequence converges exactly when none of its rows is stranded. -/
theorem install_converges_iff (rt : Runtime) (db : Database) (fresh : db.Fresh)
    (actions : List AuthorityAction) (workspaceId : String) (snapshot : ReplicationSnapshot)
    (published : getReplicationSnapshot rt (run (authorityStep rt) db actions) workspaceId =
      .ok snapshot)
    (replica replica' : Database) (quiet : replica.pendingRows = []) (actor : String)
    (cursor : Option Cursor) (now : UnixMs) (n : ℕ)
    (installed : installReplicationSnapshotAndRebase rt replica snapshot actor cursor now =
      .ok (replica', n)) :
    Converged (run (authorityStep rt) db actions) replica.Tracks replica' ↔
      ∀ id, ¬ Stranded (run (authorityStep rt) db actions) replica id := by
  simp only [getReplicationSnapshot, bind_eq_ok] at published
  obtain ⟨row, -, hbuilt⟩ := published
  exact install_converged_iff (authority_run_publishable fresh.publishable actions) hbuilt quiet
    installed

/-- The authority and the replica of `strandedSeven`. -/
structure StrandedScene where
  actions : List AuthorityAction
  snapshot : ReplicationSnapshot
  replica : Database
  replica' : Database
  n : ℕ

/-- Record 7 of a replica is accepted and acknowledged, and moved under record 8 at the authority
    before the replica installs its first snapshot. -/
def strandedSeven : Call StrandedScene := do
  let replica ← plainReplica
  let (replica, made) ← queueCommand idealRuntime replica createSeven (localAt 10)
  let started : List AuthorityAction := [.initializeAuthority "w" 2 3 5, .register "w" 1 1 "p" 6]
  let request ← buildReplicationPushRequest replica "w" 10
  let response ← (acceptReplicationPush idealRuntime (run (authorityStep idealRuntime) .plain started)
    request ⟨1, "p", none, "p", none, fun _ => 11, fun _ => 11⟩).2
  let replica ← acknowledgeReplicationPush idealRuntime replica response 12
  let pushed := started ++ [pushOne made.operation 11]
  let ledger := (run (authorityStep idealRuntime) .plain pushed).ledger
  let (ledger, _) ← ledger.createTaskInTransaction idealRuntime
    (.ofCreate (plainCommitment 8 plainTitle ⟨[]⟩)) ⟨"p", some "p", 13⟩
  let (ledger, _) ← ledger.updateTaskInTransaction idealRuntime 7
    { parentTaskId := some (some 8) } ⟨"p", some "p", 14⟩ none
  let actions := pushed ++ [.edit ledger]
  let snapshot ← getReplicationSnapshot idealRuntime
    (run (authorityStep idealRuntime) .plain actions) "w"
  let (replica', n) ←
    installReplicationSnapshotAndRebase idealRuntime replica snapshot "p" none 20
  pure ⟨actions, snapshot, replica, replica', n⟩

theorem install_converges_iff_seven :
    ∃ actions snapshot replica replica' n,
      getReplicationSnapshot idealRuntime (run (authorityStep idealRuntime) .plain actions) "w" =
        .ok snapshot ∧ replica.pendingRows = [] ∧
      installReplicationSnapshotAndRebase idealRuntime replica snapshot "p" none 20 =
        .ok (replica', n) ∧
      (Converged (run (authorityStep idealRuntime) .plain actions) replica.Tracks replica' ↔
        ∀ id, ¬ Stranded (run (authorityStep idealRuntime) .plain actions) replica id) := by
  obtain ⟨scene, h, hquiet⟩ : Ends strandedSeven fun scene => scene.replica.pendingRows = [] := by
    decide +kernel
  simp only [strandedSeven, bind_eq_ok, Prod.exists, pure_eq_ok] at h
  obtain ⟨_, -, replica, _, -, _, -, _, -, acknowledged, -, _, _, -, _, _, -, snapshot, hpublished,
    replica', n, hinstalled, rfl⟩ := h
  exact ⟨_, snapshot, acknowledged, replica', n, hpublished, hquiet, hinstalled,
    install_converges_iff idealRuntime .plain (Database.fresh_fresh "w") _ "w" snapshot hpublished
      acknowledged replica' hquiet "p" none 20 n hinstalled⟩

/-- The authority no longer publishes record 7, and the replica keeps its row. -/
theorem moved_record_left_behind :
    Ends strandedSeven fun scene =>
      scene.replica.pendingRows = [] ∧
      ((run (authorityStep idealRuntime) .plain scene.actions).ledger.tasks[7]?.map
        (·.parentTaskId)) = some (some 8) ∧
      scene.snapshot.records.map (·.recordId) = [8] ∧
      scene.replica'.ledger.tasks[7]?.map (·.parentTaskId) = some none := by
  decide +kernel

end Tasq
