import Mathlib.Tactic
import Tasq.Replication.Dot

/-! What pruning removes, over whole runs.

    The retained sequences are the ones above the floor (`Retains`), so a floor that pruning sets
    is above the old one. Pruning sets it to the last expired row that every active generation has
    acknowledged, and removes everything below it: the rows in between are expired too unless the
    clock went back between two acceptances (`YoungBelow`). -/

namespace Tasq

open Text Outcome Run

variable {rt : Runtime} {db db' db₁ : Database}

/-- The retained floor of a store; zero before there is an authority. -/
def Database.floor (db : Database) : ℕ := db.authority.elim 0 (·.minimumRetainedSequence)

/-- The retained sequences are the ones above the floor. -/
structure Retains (db : Database) : Prop where
  keys : ∀ s : ℕ, s ∈ db.accepted ↔ db.floor < s ∧ s ≤ db.sequence
  floor_le : db.floor ≤ db.sequence

theorem Database.Fresh.retains (h : db.Fresh) : Retains db := by
  obtain ⟨-, -, hauthority, -, haccepted, -⟩ := h
  constructor
  · intro s
    simp only [haccepted, Database.floor, Database.sequence, hauthority, Option.elim_none,
      Std.ExtTreeMap.not_mem_empty, false_iff]
    omega
  · simp [Database.floor, Database.sequence, hauthority]

/-! ### Steps that leave the retained history alone -/

/-- The retained history is the same. -/
structure SameFeed (db db' : Database) : Prop where
  accepted : db'.accepted = db.accepted
  sequence : db'.sequence = db.sequence
  floor : db'.floor = db.floor

theorem SameFeed.refl (db : Database) : SameFeed db db := ⟨rfl, rfl, rfl⟩

theorem SameFeed.retains (h : SameFeed db db') (hr : Retains db) : Retains db' := by
  constructor
  · intro s
    rw [h.accepted, h.floor, h.sequence]
    exact hr.keys s
  · rw [h.floor, h.sequence]
    exact hr.floor_le

theorem initialize_sameFeed {workspaceId : String} {a e : UuidV7} {now : UnixMs}
    (h : initializeReplicationAuthority db workspaceId a e now = .ok db') : SameFeed db db' := by
  obtain rfl | ⟨hnone, -, rfl⟩ := initialize_eq_ok h
  · exact .refl _
  · exact ⟨rfl, by simp [Database.sequence, hnone], by simp [Database.floor, hnone]⟩

theorem register_sameFeed {workspaceId : String} {r g : UuidV7} {p : String} {now : UnixMs}
    (h : registerReplicationReplica db workspaceId r g p now = .ok db') : SameFeed db db' := by
  obtain ⟨row, rfl, -⟩ := register_eq_ok h
  exact ⟨rfl, rfl, rfl⟩

theorem pull_sameFeed {options : PullReplicationOptions} {response : ReplicationPullResponse}
    (h : pullReplication rt db options = .ok (db', response)) : SameFeed db db' := by
  obtain ⟨authority, registration, row, snapshot, -, -, -, -, -, -, -, -, rfl⟩ := pull_eq_ok h
  exact ⟨rfl, rfl, rfl⟩

theorem retire_sameFeed {workspaceId : String} {id : UuidV7} {now : UnixMs}
    (h : retireReplicatedCommitment rt db workspaceId id now = .ok db') : SameFeed db db' := by
  obtain ⟨snapshot, ledger, -, -, -, -, rfl⟩ := retire_eq_ok h
  exact ⟨rfl, rfl, rfl⟩

theorem recover_sameFeed {options : RecoverReplicationAuthorityOptions}
    {snapshot : ReplicationSnapshot}
    (h : recoverReplicationAuthority rt db options = .ok (db', snapshot)) : SameFeed db db' := by
  obtain ⟨current, -, -, -, rfl, -⟩ | ⟨current, row, hcurrent, -, -, -, rfl, -⟩ := recover_eq_ok h
  · exact .refl _
  · exact ⟨rfl, by simp [Database.sequence, hcurrent], by simp [Database.floor, hcurrent]⟩

theorem edit_sameFeed (ledger : Ledger) : SameFeed db (db.edit ledger) := by
  unfold Database.edit
  split
  · exact ⟨rfl, rfl, rfl⟩
  · exact .refl db

/-! ### Acceptance -/

/-- What a step may do to the retained history: grow at the end, shrink at the floor. -/
structure Feeds (db db' : Database) : Prop where
  retains : Retains db'
  floor : db.floor ≤ db'.floor
  sequence : db.sequence ≤ db'.sequence

theorem SameFeed.feeds (h : SameFeed db db') (hr : Retains db) : Feeds db db' :=
  ⟨h.retains hr, h.floor.ge, h.sequence.ge⟩

theorem Feeds.trans {db₂ : Database} (h : Feeds db db₁) (h' : Feeds db₁ db₂) : Feeds db db₂ :=
  ⟨h'.retains, h.floor.trans h'.floor, h.sequence.trans h'.sequence⟩

/-- ACCEPT: the next sequence joins the retained ones. -/
theorem accept_feeds {operation : ReplicationOperation} {ctx : AcceptContext}
    {result : ReplicationOperationResult} (hr : Retains db)
    (h : acceptOneOperation rt db operation ctx = .ok (db', result)) : Feeds db db' := by
  obtain ⟨authority, registration, hadmits, ⟨prior, hretry⟩ | ⟨db₁, d, c, haccepts⟩⟩ :=
    acceptOne_eq_ok.1 h
  · rw [hretry.after_eq]
    exact SameFeed.feeds ⟨rfl, rfl, rfl⟩ hr
  · obtain ⟨_, _, _, -, -, -, -, hclass⟩ := classify_eq_ok.1 haccepts.classified
    have hsequence : db.sequence = authority.currentSequence := by
      simp [Database.sequence, hadmits.authority_eq]
    have hfloor : db.floor = authority.minimumRetainedSequence := by
      simp [Database.floor, hadmits.authority_eq]
    have hle := hr.floor_le
    have hsequence' : db'.sequence = db.sequence + 1 := by
      rw [haccepts.after_eq, hsequence]
      rfl
    have hfloor' : db'.floor = db.floor := by
      rw [haccepts.after_eq, hfloor]
      rfl
    refine ⟨⟨fun s => ?_, by omega⟩, by omega, by omega⟩
    rw [hfloor', hsequence', haccepts.after_eq, hclass.frame]
    simp only [Std.ExtTreeMap.mem_insert, Std.compare_eq_iff_eq, hr.keys, ← hsequence]
    omega

/-! ### Pruning -/

/-- The row has been there for the minimum operation retention. -/
def AcceptedRow.Expired (row : AcceptedRow) (now : UnixMs) : Prop :=
  row.recordedAt + replicationRetention.operationMinimumMs ≤ now

instance (row : AcceptedRow) (now : UnixMs) : Decidable (row.Expired now) := by
  unfold AcceptedRow.Expired; infer_instance

/-- Every active generation has acknowledged the sequence, or there is none. -/
theorem acknowledgedByActive_le (authority : ReplicationAuthority) {g : Generation}
    {reg : ReplicaRow} (hreg : db.replicas[g]? = some reg) (hactive : reg.status = .active) :
    db.acknowledgedByActive authority ≤ reg.acknowledgedSequence := by
  have hmem : reg.acknowledgedSequence ∈ (Table.rows db.replicas fun _ row =>
      row.status = .active).map fun entry => entry.2.acknowledgedSequence :=
    List.mem_map.2 ⟨(g, reg), Table.mem_rows.2 ⟨hreg, by simpa using hactive⟩, rfl⟩
  unfold Database.acknowledgedByActive
  generalize List.map _ _ = sequences at hmem ⊢
  cases hmin : sequences.min? with
  | none =>
    rw [List.min?_eq_none_iff.1 hmin] at hmem
    cases hmem
  | some m => exact (List.min?_eq_some_iff.1 hmin).2 _ hmem

/-- The sequence that pruning does not pass. -/
def Database.pruneLimit (db : Database) (authority : ReplicationAuthority) (now : UnixMs) : ℕ :=
  (db.markStale now).acknowledgedByActive authority

/-- PRUNE: nothing that is acknowledged has expired, or everything goes up to the last row that is
    acknowledged and has expired. -/
theorem prune_cases {workspaceId : String} {now : UnixMs} {n floor : ℕ}
    (h : pruneReplicationHistory db workspaceId now = .ok (db', n, floor)) :
    ∃ authority, db.authority = some authority ∧
      (((∀ (s : ℕ) row, db.accepted[s]? = some row → s ≤ db.pruneLimit authority now →
          ¬ row.Expired now) ∧ db' = db.markStale now) ∨
        ∃ last, db.accepted[floor]? = some last ∧ floor ≤ db.pruneLimit authority now ∧
          last.Expired now ∧
          (∀ (s : ℕ) row, db.accepted[s]? = some row → s ≤ db.pruneLimit authority now →
            row.Expired now → s ≤ floor) ∧
          db' = { db.markStale now with
            accepted := db.accepted.filter fun sequence _ => floor < sequence
            authority := some { authority with
              minimumRetainedSequence := floor, updatedAt := now } }) := by
  simp only [pruneReplicationHistory, bind_eq_ok, clockSnapshot_eq_ok,
    Database.requireAuthority_eq_ok] at h
  obtain ⟨_, ⟨-, rfl⟩, authority, ⟨-, hauthority⟩, h⟩ := h
  refine ⟨authority, hauthority, ?_⟩
  split at h
  · rename_i hlast
    simp only [pure_eq_ok, Prod.mk.injEq] at h
    rw [List.getLast?_eq_none_iff, Table.rows_eq_nil] at hlast
    refine .inl ⟨fun s row hrow hs hexpired => ?_, h.1.symm⟩
    have hkept := hlast s row hrow
    simp only [Bool.and_eq_false_iff, decide_eq_false_iff_not] at hkept
    exact hkept.elim (absurd hs) (absurd hexpired)
  · rename_i hlast
    simp only [pure_eq_ok, Prod.mk.injEq] at h
    obtain ⟨rfl, -, rfl⟩ := h
    obtain ⟨hrow, hp, hmax⟩ := Table.rows_getLast? hlast
    simp only [Bool.and_eq_true, decide_eq_true_eq] at hp hmax
    exact .inr ⟨_, hrow, hp.1, hp.2, fun s row hs hle hexpired => hmax s row hs ⟨hle, hexpired⟩, rfl⟩

/-- What pruning may remove, and where it may put the floor. -/
structure RetentionLaw (db db' : Database) (now : UnixMs) : Prop where
  acknowledged : ∀ (s : ℕ) row, db.accepted[s]? = some row → s ∉ db'.accepted →
    ∀ (g : Generation) reg, db'.replicas[g]? = some reg → reg.status = .active →
      s ≤ reg.acknowledgedSequence
  expired : ∀ (s : ℕ) row, db.accepted[s]? = some row → s ∉ db'.accepted → row.Expired now
  floor : db.floor ≤ db'.floor

/-- Below an acknowledged row that has expired, a younger one. -/
def YoungBelow (db : Database) (now : UnixMs) : Prop :=
  ∃ authority, db.authority = some authority ∧ ∃ (s s' : ℕ) (row row' : AcceptedRow),
    db.accepted[s]? = some row ∧ db.accepted[s']? = some row' ∧ s < s' ∧
      s' ≤ db.pruneLimit authority now ∧ row'.Expired now ∧ ¬ row.Expired now

/-- PRUNE: when it completes, exactly the rows up to the floor that it sets are gone. -/
theorem prune_law_iff {workspaceId : String} {now : UnixMs} {n floor : ℕ} (hr : Retains db)
    (h : pruneReplicationHistory db workspaceId now = .ok (db', n, floor)) :
    Feeds db db' ∧ (RetentionLaw db db' now ↔ ¬ YoungBelow db now) := by
  obtain ⟨authority, hauthority, ⟨hnone, rfl⟩ | ⟨last, hlast, hle, hexpired, hmax, hafter⟩⟩ :=
    prune_cases h
  · have hsame : SameFeed db (db.markStale now) := ⟨rfl, rfl, rfl⟩
    refine ⟨hsame.feeds hr, iff_of_true ⟨?_, ?_, hsame.floor.ge⟩ ?_⟩
    · exact fun s row hrow hgone => absurd (Table.mem_of_getElem? hrow) hgone
    · exact fun s row hrow hgone => absurd (Table.mem_of_getElem? hrow) hgone
    · rintro ⟨authority', hauthority', s, s', row, row', -, hrow', -, hs', hexpired', -⟩
      obtain rfl : authority = authority' := by simpa [hauthority] using hauthority'
      exact hnone s' row' hrow' hs' hexpired'
  · have hfloor : db'.floor = floor := by rw [hafter]; rfl
    have hsequence : db'.sequence = db.sequence := by
      rw [hafter]
      simp [Database.sequence, hauthority]
    have hkeys (s : ℕ) : s ∈ db'.accepted ↔ s ∈ db.accepted ∧ floor < s := by
      rw [hafter, Std.ExtTreeMap.mem_iff_isSome_getElem?, Std.ExtTreeMap.getElem?_filter',
        Std.ExtTreeMap.mem_iff_isSome_getElem?, Option.isSome_filter]
      cases db.accepted[s]? <;> simp
    have hin : db.floor < floor ∧ floor ≤ db.sequence :=
      (hr.keys floor).1 (Table.mem_of_getElem? hlast)
    have hgone {s : ℕ} {row : AcceptedRow} (hrow : db.accepted[s]? = some row) :
        s ∉ db'.accepted ↔ s ≤ floor := by
      simp [hkeys, Table.mem_of_getElem? hrow]
    refine ⟨⟨⟨fun s => ?_, by omega⟩, by omega, by omega⟩, fun hlaw => ?_, fun hnot => ⟨?_, ?_, ?_⟩⟩
    · rw [hkeys, hr.keys, hfloor, hsequence]
      omega
    · rintro ⟨authority', hauthority', s, s', row, row', hrow, hrow', hlt, hs', hexpired', hyoung⟩
      obtain rfl : authority = authority' := by simpa [hauthority] using hauthority'
      have := hmax s' row' hrow' hs' hexpired'
      exact hyoung (hlaw.expired s row hrow ((hgone hrow).2 (by omega)))
    · intro s row hrow hs g reg hreg hactive
      have hreg' : (db.markStale now).replicas[g]? = some reg := by rw [hafter] at hreg; exact hreg
      have := acknowledgedByActive_le authority hreg' hactive
      exact ((hgone hrow).1 hs).trans (hle.trans this)
    · intro s row hrow hs
      by_contra hyoung
      have hle' := (hgone hrow).1 hs
      obtain rfl | hlt := Nat.eq_or_lt_of_le hle'
      · obtain rfl : last = row := by simpa [hlast] using hrow
        exact hyoung hexpired
      · exact hnot ⟨authority, hauthority, s, floor, row, last, hrow, hlast, hlt, hle, hexpired,
          hyoung⟩
    · omega

/-! ### Runs -/

/-- INVARIANT: every call keeps the retained sequences above a floor that only rises. -/
theorem authorityStep_feeds (action : AuthorityAction) (hr : Retains db) :
    Feeds db (authorityStep rt db action) := by
  have hhere : Feeds db db := (SameFeed.refl db).feeds hr
  cases action <;> simp only [authorityStep]
  case initializeAuthority => exact settle_rule hhere fun _ h => (initialize_sameFeed h).feeds hr
  case register => exact settle_rule hhere fun _ h => (register_sameFeed h).feeds hr
  case pull => exact settle_fst_rule hhere fun _ _ h => (pull_sameFeed h).feeds hr
  case retire => exact settle_rule hhere fun _ h => (retire_sameFeed h).feeds hr
  case prune => exact settle_fst_rule hhere fun _ _ h => (prune_law_iff hr h).1
  case recover => exact settle_fst_rule hhere fun _ _ h => (recover_sameFeed h).feeds hr
  case edit ledger => exact (edit_sameFeed ledger).feeds hr
  case push input options =>
    exact push_rule (I := Feeds db)
      (fun _ _ _ _ _ _ h haccept => h.trans (accept_feeds h.retains haccept)) input options hhere

variable (rt) in
/-- INVARIANT: in every run the retained sequences are the ones above the floor. -/
theorem authority_run_retains (hr : Retains db) (actions : List AuthorityAction) :
    Retains (run (authorityStep rt) db actions) :=
  run_invariant' (I := Retains) (fun _ action h => (authorityStep_feeds action h).retains) actions hr

/-- PRUNE: in every run the floor never decreases, and a pruning keeps the retention law exactly
    when no younger row is below an acknowledged row that has expired. -/
theorem retention_law_iff (rt : Runtime) (db : Database) (fresh : db.Fresh)
    (actions : List AuthorityAction) :
    (∀ action, (run (authorityStep rt) db actions).floor ≤
      (authorityStep rt (run (authorityStep rt) db actions) action).floor) ∧
    ∀ workspaceId now db' n floor,
      pruneReplicationHistory (run (authorityStep rt) db actions) workspaceId now =
        .ok (db', n, floor) →
      (RetentionLaw (run (authorityStep rt) db actions) db' now ↔
        ¬ YoungBelow (run (authorityStep rt) db actions) now) := by
  have hr := authority_run_retains rt fresh.retains actions
  exact ⟨fun action => (authorityStep_feeds action hr).floor,
    fun _ _ _ _ _ h => (prune_law_iff hr h).2⟩

/-- A pull of replica 1 of principal `p`. -/
def pullAt (cursor : Option Cursor) (limit : ℕ) (now : UnixMs) : PullReplicationOptions :=
  ⟨"w", 1, 1, 1, "p", cursor, limit, now⟩

/-- Commitment 7 accepted, pulled and pruned when its retention ends. -/
def prunedSeven : Call (List AuthorityAction × Database × ℕ × ℕ) := do
  let replica ← plainReplica
  let (_, queued) ← queueCommand idealRuntime replica createSeven (localAt 10)
  let actions : List AuthorityAction := [.initializeAuthority "w" 2 3 5, .register "w" 1 1 "p" 6,
    pushOne queued.operation 11, .pull (pullAt none 10 12)]
  let (db', n, floor) ← pruneReplicationHistory
    (run (authorityStep idealRuntime) .plain actions) "w"
    (11 + replicationRetention.operationMinimumMs)
  pure (actions, db', n, floor)

theorem retention_law_iff_pulled :
    ∃ actions db' n floor,
      pruneReplicationHistory (run (authorityStep idealRuntime) .plain actions) "w"
        (11 + replicationRetention.operationMinimumMs) = .ok (db', n, floor) ∧ n = 1 ∧
      (RetentionLaw (run (authorityStep idealRuntime) .plain actions) db'
          (11 + replicationRetention.operationMinimumMs) ↔
        ¬ YoungBelow (run (authorityStep idealRuntime) .plain actions)
          (11 + replicationRetention.operationMinimumMs)) := by
  obtain ⟨⟨actions, db', n, floor⟩, h, hn⟩ : Ends prunedSeven fun outcome =>
      outcome.2.2.1 = 1 := by decide +kernel
  simp only [prunedSeven, bind_eq_ok, Prod.exists, pure_eq_ok, Prod.mk.injEq] at h
  obtain ⟨_, -, _, _, -, _, _, _, hprune, rfl, rfl, rfl, rfl⟩ := h
  exact ⟨_, _, _, _, hprune, hn,
    (retention_law_iff idealRuntime .plain (Database.fresh_fresh "w") _).2 _ _ _ _ _ hprune⟩

/-- The clock goes back between two acceptances; pruning removes the first, whose time is still to
    come, with the second. -/
theorem pruned_before_its_time :
    Ends (do
      let replica ← plainReplica
      let (replica, first) ← queueCommand idealRuntime replica createSeven (localAt 10)
      let (_, second) ← queueCommand idealRuntime replica (.deleteCommitment 7) (localAt 11)
      let now := 20 + replicationRetention.operationMinimumMs
      let db := run (authorityStep idealRuntime) .plain [.initializeAuthority "w" 2 3 5,
        .register "w" 1 1 "p" 6, pushOne first.operation (now + 1), pushOne second.operation 20,
        .pull (pullAt none 10 21)]
      let (db', _, _) ← pruneReplicationHistory db "w" now
      pure (db, db', now))
      fun (db, db', now) => 1 ∉ db'.accepted ∧
        ∃ row ∈ db.accepted[1]?, ¬ row.Expired now := by
  decide +kernel

end Tasq
