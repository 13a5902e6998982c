import Mathlib.Tactic
import Tasq.Replication.Dot
import Tasq.Replication.Rebase

/-! Retired identities: no push brings one back at the authority, and an installation leaves one
    without a row unless the replica has a creation of it that the authority has not accepted.

    `Gone` is the invariant of the authority; on the replica, `Replayed.absent`, `Replayed.present`
    and `Replayed.created` say what one pending operation does to the record. -/

namespace Tasq

open Text Outcome Ledger Run

variable {rt : Runtime} {db db' : Database} {r : UuidV7}

/-! ### At the authority -/

/-- The identity is retired and has no row. -/
structure Gone (r : UuidV7) (db : Database) : Prop where
  retired : r ∈ db.retired
  absent : db.ledger.tasks[r]? = none

/-- Other services do not make the record again. -/
def NotRemade (r : UuidV7) (_ : Database) : AuthorityAction → Prop
  | .edit ledger => ledger.tasks[r]? = none
  | _ => True

/-- RETIRE: afterwards the identity is gone. -/
theorem retire_gone {workspaceId : String} {now : UnixMs}
    (h : retireReplicatedCommitment rt db workspaceId r now = .ok db') : Gone r db' := by
  obtain ⟨snapshot, ledger, -, hdelete, -, -, rfl⟩ := retire_eq_ok h
  simp only [deleteTasks, bind_eq_ok, refuse_eq_ok, pure_eq_ok] at hdelete
  obtain ⟨-, -, rfl⟩ := hdelete
  exact ⟨Std.ExtTreeMap.mem_insert_self, by simp⟩

/-- ACCEPT: an accepted operation leaves a retired identity gone. -/
theorem Gone.accept {operation : ReplicationOperation} {ctx : AcceptContext}
    {result : ReplicationOperationResult} (hgone : Gone r db)
    (h : acceptOneOperation rt db operation ctx = .ok (db', result)) : Gone r db' := by
  obtain ⟨authority, registration, -, ⟨prior, hretry⟩ | ⟨db₁, d, c, haccepts⟩⟩ := acceptOne_eq_ok.1 h
  · rw [hretry.after_eq]
    exact ⟨hgone.retired, hgone.absent⟩
  obtain ⟨precondition, intended, current, -, -, -, -, hclass⟩ :=
    classify_eq_ok.1 haccepts.classified
  have hretired : r ∈ db₁.retired := by
    rw [hclass.frame]
    exact hgone.retired
  have habsent : db₁.ledger.tasks[r]? = none := by
    by_cases hd : d = .applied
    · -- Only a record that is not retired is written.
      subst hd
      cases hclass with
      | applied different live fresh effect safe_snapshot declared =>
        have hne : r ≠ operationRecordId operation.command := fun heq => live (heq ▸ hgone.retired)
        exact (apply_surroundings effect).2.2.2 r hne hgone.absent
    · rw [hclass.ledger_eq hd]
      exact hgone.absent
  rw [haccepts.after_eq]
  exact ⟨hretired, habsent⟩

/-- INVARIANT: a retired identity stays gone. -/
theorem Gone.step {db : Database} {action : AuthorityAction} (haction : NotRemade r db action)
    (hgone : Gone r db) : Gone r (authorityStep rt db action) := by
  cases action <;> simp only [authorityStep]
  case initializeAuthority =>
    refine settle_rule hgone fun _ h => ?_
    obtain rfl | ⟨-, -, rfl⟩ := initialize_eq_ok h <;> exact ⟨hgone.retired, hgone.absent⟩
  case register =>
    refine settle_rule hgone fun _ h => ?_
    obtain ⟨row, rfl, -⟩ := register_eq_ok h
    exact ⟨hgone.retired, hgone.absent⟩
  case push input options =>
    exact push_rule (I := Gone r) (fun _ _ _ _ _ _ hI h => hI.accept h) input options hgone
  case pull =>
    refine settle_fst_rule hgone fun _ _ h => ?_
    obtain ⟨-, -, -, -, -, -, -, -, -, -, -, -, rfl⟩ := pull_eq_ok h
    exact ⟨hgone.retired, hgone.absent⟩
  case retire =>
    refine settle_rule hgone fun _ h => ?_
    obtain ⟨snapshot, ledger, -, hdelete, -, -, rfl⟩ := retire_eq_ok h
    simp only [deleteTasks, bind_eq_ok, refuse_eq_ok, pure_eq_ok] at hdelete
    obtain ⟨-, -, rfl⟩ := hdelete
    refine ⟨Std.ExtTreeMap.mem_insert.2 (.inr hgone.retired), ?_⟩
    rw [Std.ExtTreeMap.getElem?_filter', hgone.absent]
    rfl
  case prune =>
    refine settle_fst_rule hgone fun _ _ h => ?_
    obtain ⟨-, -, rfl | rfl⟩ := prune_eq_ok h <;> exact ⟨hgone.retired, hgone.absent⟩
  case recover =>
    refine settle_fst_rule hgone fun _ _ h => ?_
    obtain ⟨-, -, -, -, rfl, -⟩ | ⟨-, -, -, -, -, -, rfl, -⟩ := recover_eq_ok h <;>
      exact ⟨hgone.retired, hgone.absent⟩
  case edit ledger =>
    unfold Database.edit
    split
    · exact ⟨hgone.retired, haction⟩
    · exact hgone

/-! ### At a replica -/

section

variable {l l' : Ledger} {actor : String} {operation : ReplicationOperation}
  {preconditions outcomes : List ReplicationRecordState}

/-- Only a creation of the record makes one. -/
theorem Replayed.absent (h : Replayed rt l actor operation l' preconditions outcomes)
    (hcreate : operation.command.isCreate = true → operationRecordId operation.command ≠ r)
    (hl : l.tasks[r]? = none) : l'.tasks[r]? = none := by
  obtain ⟨before, hbefore, ⟨-, rfl, -⟩ | ⟨hcan, applied, happly, -⟩⟩ := h
  · exact hl
  refine (apply_surroundings happly).2.2.2 r (fun heq => ?_) hl
  -- A command on the absent record that is no creation cannot be replayed.
  rw [← heq, getProjection_eq_none.2 hl, Except.ok.injEq] at hbefore
  subst hbefore
  exact hcreate (by simpa using hcan) heq.symm

/-- A record that has a row keeps one. -/
theorem Replayed.present (h : Replayed rt l actor operation l' preconditions outcomes)
    (hl : r ∈ l.tasks) : r ∈ l'.tasks := by
  obtain ⟨before, -, ⟨-, rfl, -⟩ | ⟨-, applied, happly, -⟩⟩ := h
  · exact hl
  · exact apply_present happly hl

/-- After a creation of the record it has a row. -/
theorem Replayed.created (h : Replayed rt l actor operation l' preconditions outcomes)
    (hcreate : operation.command.isCreate = true) :
    operationRecordId operation.command ∈ l'.tasks := by
  obtain ⟨before, hbefore, ⟨hcannot, rfl, -⟩ | ⟨-, applied, happly, -⟩⟩ := h
  · obtain ⟨s, rfl⟩ := Option.isSome_iff_exists.1 (hcannot.symm.trans hcreate)
    obtain ⟨row, hrow, -⟩ := getProjection_eq_some.1 hbefore
    exact Table.mem_of_getElem? hrow.found
  · obtain ⟨row, hrow, -⟩ := apply_after happly
    exact Table.mem_of_getElem? hrow.found

/-- A replay leaves the retired identities alone. -/
theorem Rebases.retired {snapshot : ReplicationSnapshot} {now : UnixMs}
    {previousDigest : Option Digest} {unsigned : UnsignedOperation}
    (h : Rebases rt snapshot actor now db previousDigest operation unsigned db') :
    db'.retired = db.retired := by rw [h.after_eq]

/-- REPLAY: a record without a row gets one exactly when the queue makes it beyond the frontier. -/
theorem replay_absent_iff {snapshot : ReplicationSnapshot} {k : ℕ} {now : UnixMs}
    {pending : List ReplicationOperation} {first last : Option Digest}
    (habsent : db.ledger.tasks[r]? = none)
    (h : pending.foldlM (replayOperation rt snapshot k actor now) (db, first) = .ok (db', last)) :
    db'.ledger.tasks[r]? = none ↔ ¬ ∃ operation ∈ pending, k < operation.origin.counter ∧
      operation.command.isCreate = true ∧ operationRecordId operation.command = r := by
  constructor
  · rintro hnone ⟨operation, hop, hbeyond, hcreate, rfl⟩
    have hpresent : operationRecordId operation.command ∈ db'.ledger.tasks := by
      refine foldlM_establishes _
        (fun state => operationRecordId operation.command ∈ state.1.ledger.tasks) hop ?_ ?_ h
      · rintro ⟨db₁, d₁⟩ ⟨db₂, d₂⟩ hstep
        obtain ⟨hle, -⟩ | ⟨-, unsigned, hrebases, -⟩ := replay_eq_ok.1 hstep
        · omega
        · obtain ⟨_, _, hreplayed, -⟩ := hrebases.unsigned_eq
          exact hreplayed.created hcreate
      · rintro ⟨db₁, d₁⟩ o ⟨db₂, d₂⟩ hmem hstep
        obtain ⟨-, rfl, -⟩ | ⟨-, unsigned, hrebases, -⟩ := replay_eq_ok.1 hstep
        · exact hmem
        · obtain ⟨_, _, hreplayed, -⟩ := hrebases.unsigned_eq
          exact hreplayed.present hmem
    rw [Std.ExtTreeMap.mem_iff_isSome_getElem?, hnone] at hpresent
    exact Bool.false_ne_true hpresent
  · intro hcreates
    refine foldlM_invariant _ (fun state => state.1.ledger.tasks[r]? = none) pending ?_ habsent h
    rintro ⟨db₁, d₁⟩ o ⟨db₂, d₂⟩ ho hnone hstep
    obtain ⟨-, rfl, -⟩ | ⟨hbeyond, unsigned, hrebases, -⟩ := replay_eq_ok.1 hstep
    · exact hnone
    · obtain ⟨_, _, hreplayed, -⟩ := hrebases.unsigned_eq
      exact hreplayed.absent (fun hcreate heq => hcreates ⟨o, ho, hbeyond, hcreate, heq⟩) hnone

end

/-- The queue makes the record, and the authority has not accepted that. -/
def CreatesBeyond (db : Database) (snapshot : ReplicationSnapshot) (r : UuidV7) : Prop :=
  ∃ localReplica frontier operation, db.localReplica = some localReplica ∧
    snapshot.frontierOf localReplica = some frontier ∧ operation ∈ db.pendingOperations ∧
    frontier.acceptedCounter < operation.origin.counter ∧
    operation.command.isCreate = true ∧ operationRecordId operation.command = r

/-- INSTALL: the retired identities are those of the snapshot, and one has no row exactly when the
    queue does not make it beyond the frontier. -/
theorem install_retired_iff {input : ReplicationSnapshot} {actor : String} {cursor : Option Cursor}
    {now : UnixMs} {n : ℕ}
    (h : installReplicationSnapshotAndRebase rt db input actor cursor now = .ok (db', n)) :
    (r ∈ db'.retired ↔ r ∈ input.retiredIdentities.map (·.recordId)) ∧
      (r ∈ db'.retired → (db'.ledger.tasks[r]? = none ↔ ¬ CreatesBeyond db input r)) := by
  obtain ⟨-, snapshot, localReplica, frontier, base, after, previousDigest, hinstalls⟩ :=
    install_eq_ok.1 h
  obtain ⟨-, htrimmed, hverified⟩ := (verifySnapshot_eq_ok rt input snapshot).1 hinstalls.verified
  obtain ⟨-, hbase⟩ := installTables_eq_ok.1 hinstalls.tables
  obtain ⟨pullCursor, -, hafter⟩ := hinstalls.after_eq
  have hidentities : snapshot.retiredIdentities = input.retiredIdentities := by rw [← htrimmed]; rfl
  have hretired : r ∈ db'.retired ↔ r ∈ input.retiredIdentities.map (·.recordId) := by
    have hkept : after.retired = base.retired := by
      refine foldlM_invariant _ (fun state => state.1.retired = base.retired) _ ?_ rfl
        hinstalls.replayed
      rintro ⟨db₁, d₁⟩ o ⟨db₂, d₂⟩ - hsame hstep
      obtain ⟨-, rfl, -⟩ | ⟨-, unsigned, hrebases, -⟩ := replay_eq_ok.1 hstep
      · exact hsame
      · exact hrebases.retired.trans hsame
    rw [hafter]
    change r ∈ after.retired ↔ _
    rw [hkept, ← hbase, installed_retired, hidentities]
  refine ⟨hretired, fun hr => ?_⟩
  rw [hretired, ← hidentities] at hr
  have habsent : base.ledger.tasks[r]? = none := by
    obtain ⟨identity, hmem, rfl⟩ := List.mem_map.1 hr
    rw [← hbase, installed_unlisted hverified (hverified.disjoint identity hmem),
      if_pos (mem_resetIds.2 (.inr (.inr (.inr hr))))]
  have hfrontier : input.frontierOf localReplica = some frontier := by
    have hfound := hinstalls.agreed.found
    rw [← htrimmed] at hfound
    exact hfound
  rw [hafter]
  change after.ledger.tasks[r]? = none ↔ _
  rw [replay_absent_iff habsent hinstalls.replayed, not_iff_not]
  constructor
  · rintro ⟨operation, hop, hbeyond, hcreate, hid⟩
    exact ⟨localReplica, frontier, operation, hinstalls.localReplica_eq, hfrontier, hop, hbeyond,
      hcreate, hid⟩
  · rintro ⟨localReplica', frontier', operation, hlocal, hfound, hop, hbeyond, hcreate, hid⟩
    obtain rfl : localReplica = localReplica' := by
      simpa [hinstalls.localReplica_eq] using hlocal
    obtain rfl : frontier = frontier' := by simpa [hfrontier] using hfound
    exact ⟨operation, hop, hbeyond, hcreate, hid⟩

/-- RETIRED: after a retirement no run of the authority makes the record again, as long as no other
    service does, and an installed snapshot leaves a retired identity without a row exactly when
    the queue of the replica does not make it beyond the frontier. -/
theorem retired_stays_retired_iff (rt : Runtime) (db db' : Database) (r : UuidV7) :
    (∀ workspaceId now actions,
      retireReplicatedCommitment rt db workspaceId r now = .ok db' →
      Along (authorityStep rt) (NotRemade r) db' actions →
        (run (authorityStep rt) db' actions).ledger.tasks[r]? = none) ∧
    ∀ input actor cursor now n,
      installReplicationSnapshotAndRebase rt db input actor cursor now = .ok (db', n) →
        (r ∈ db'.retired ↔ r ∈ input.retiredIdentities.map (·.recordId)) ∧
        (r ∈ db'.retired → (db'.ledger.tasks[r]? = none ↔ ¬ CreatesBeyond db input r)) := by
  refine ⟨fun workspaceId now actions hretire hactions => ?_, fun _ _ _ _ _ => install_retired_iff⟩
  have hgone : Gone r (run (authorityStep rt) db' actions) :=
    run_invariant (fun _ _ => Gone.step) hactions (retire_gone hretire)
  exact hgone.absent

/-- An authority with the tombstone of record 7, and a replica that has made record 7 too. -/
def twiceSeven : Call (Database × Database) := do
  let first ← plainReplica
  let (first, made) ← queueCommand idealRuntime first createSeven (localAt 10)
  let (_, deleted) ← queueCommand idealRuntime first (.deleteCommitment 7) (localAt 20)
  let second ← initializeLocalReplica .plain "w" 4 1 2 3 0 none 5
  let (second, _) ← queueCommand idealRuntime second createSeven (localAt 10)
  let authority := run (authorityStep idealRuntime) .plain
    [.initializeAuthority "w" 2 3 5, .register "w" 1 1 "p" 6, .register "w" 4 1 "p" 6,
      pushOne made.operation 11, pushOne deleted.operation 21]
  pure (authority, second)

/-- When the retention of its tombstone ends. -/
def retireSevenAt : UnixMs := 21 + replicationRetention.fullTombstoneMinimumMs

/-- Retire record 7, and install the snapshot at the other replica. -/
def retiredSeven : Call (Database × Database × Database × ReplicationSnapshot × Database × ℕ) := do
  let (authority, replica) ← twiceSeven
  let retired ← retireReplicatedCommitment idealRuntime authority "w" 7 retireSevenAt
  let snapshot ← getReplicationSnapshot idealRuntime retired "w"
  let (installed, replayed) ←
    installReplicationSnapshotAndRebase idealRuntime replica snapshot "p" none 30
  pure (authority, retired, replica, snapshot, installed, replayed)

theorem retired_stays_retired_iff_seven :
    ∃ authority retired replica snapshot installed n,
      retireReplicatedCommitment idealRuntime authority "w" 7 retireSevenAt = .ok retired ∧
      (run (authorityStep idealRuntime) retired []).ledger.tasks[7]? = none ∧
      installReplicationSnapshotAndRebase idealRuntime replica snapshot "p" none 30 =
        .ok (installed, n) ∧ CreatesBeyond replica snapshot 7 := by
  obtain ⟨⟨authority, retired, replica, snapshot, installed, n⟩, h, hretired, hpresent⟩ :
      Ends retiredSeven fun scene => 7 ∈ scene.2.2.2.2.1.retired ∧
        scene.2.2.2.2.1.ledger.tasks[7]? ≠ none := by decide +kernel
  simp only [retiredSeven, bind_eq_ok, Prod.exists, pure_eq_ok, Prod.mk.injEq] at h
  obtain ⟨_, _, -, _, hretire, _, -, _, _, hinstall, rfl, rfl, rfl, rfl, rfl, rfl⟩ := h
  refine ⟨_, _, _, _, _, _, hretire, ?_, hinstall, ?_⟩
  · exact (retired_stays_retired_iff idealRuntime _ _ 7).1 _ _ [] hretire trivial
  · by_contra hcreates
    exact hpresent (((retired_stays_retired_iff idealRuntime _ _ 7).2 _ _ _ _ _ hinstall).2
      hretired |>.2 hcreates)

/-- A replica with a creation of its own of a record that the authority has retired: after the
    installation the record is retired and has a row. -/
theorem retired_made_again :
    Ends retiredSeven fun (_, retired, _, _, installed, _) =>
      7 ∈ retired.retired ∧ 7 ∈ installed.retired ∧ 7 ∈ installed.ledger.tasks := by
  decide +kernel

end Tasq
