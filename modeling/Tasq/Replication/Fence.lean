import Mathlib.Tactic
import Tasq.Replication.Feed
import Tasq.Replication.Install

/-! What a recovery fences off.

    A recovery rotates the epoch, makes every generation stale and records the epoch that it left.
    A stale generation stays stale (`Turn`), and the epochs that were left never come back as long
    as no recovery rotates back to the epoch that the authority started with, which is the one
    epoch that the recovery table has no row for (`RotatesForward`). -/

namespace Tasq

open Text Outcome Run

variable {rt : Runtime} {db db' : Database}

/-- The epoch of a store. -/
def Database.epoch (db : Database) : Option UuidV7 := db.authority.map (·.authorityEpoch)

/-- Some recovery has left the epoch. -/
def Database.Left (db : Database) (epoch : UuidV7) : Prop :=
  ∃ (e : UuidV7) (row : AuthorityRecovery),
    db.recoveries[e]? = some row ∧ row.priorAuthorityEpoch = epoch

/-- The action is no recovery that rotates back to the epoch that the authority started with: the
    one epoch that was left and that no recovery has rotated to. -/
def RotatesForward (db : Database) : AuthorityAction → Prop
  | .recover options => db.Left options.newAuthorityEpoch →
      options.newAuthorityEpoch ∈ db.recoveries
  | _ => True

/-! ### One call -/

/-- A step within an epoch: registered generations stay, and a stale one stays stale. -/
structure SameEpoch (db db' : Database) : Prop where
  epoch : ∀ e, db.epoch = some e → db'.epoch = some e
  recoveries : db'.recoveries = db.recoveries
  kept : ∀ (g : Generation) reg, db.replicas[g]? = some reg →
    ∃ reg', db'.replicas[g]? = some reg' ∧ (reg.status = .stale → reg'.status = .stale)

/-- A rotation: a fresh recovery row, and every generation stale. -/
structure Rotates (db db' : Database) (old new : UuidV7) : Prop where
  before : db.epoch = some old
  after : db'.epoch = some new
  different : new ≠ old
  unused : new ∉ db.recoveries
  recoveries : ∃ row, row.priorAuthorityEpoch = old ∧ db'.recoveries = db.recoveries.insert new row
  stale : ∀ (g : Generation) reg, db.replicas[g]? = some reg →
    ∃ reg', db'.replicas[g]? = some reg' ∧ reg'.status = .stale

theorem SameEpoch.refl (db : Database) : SameEpoch db db :=
  ⟨fun _ h => h, rfl, fun _ reg h => ⟨reg, h, id⟩⟩

theorem SameEpoch.trans {db₁ db₂ : Database} (h : SameEpoch db db₁) (h' : SameEpoch db₁ db₂) :
    SameEpoch db db₂ where
  epoch e he := h'.epoch e (h.epoch e he)
  recoveries := h'.recoveries.trans h.recoveries
  kept g reg hreg := by
    obtain ⟨reg₁, hreg₁, hstale₁⟩ := h.kept g reg hreg
    obtain ⟨reg₂, hreg₂, hstale₂⟩ := h'.kept g reg₁ hreg₁
    exact ⟨reg₂, hreg₂, fun hs => hstale₂ (hstale₁ hs)⟩

/-- Writing one registration: of a new generation, or of one that is not stale. -/
theorem SameEpoch.insert {g : Generation} {row : ReplicaRow}
    (h : ∀ reg, db.replicas[g]? = some reg → reg.status ≠ .stale) (hepoch : db'.epoch = db.epoch)
    (hrecoveries : db'.recoveries = db.recoveries)
    (hreplicas : db'.replicas = db.replicas.insert g row) : SameEpoch db db' where
  epoch e he := hepoch.trans he
  recoveries := hrecoveries
  kept k reg hreg := by
    rw [hreplicas, Table.getElem?_insert']
    split
    · rename_i hk
      subst hk
      exact ⟨row, rfl, fun hs => absurd hs (h reg hreg)⟩
    · exact ⟨reg, hreg, id⟩

/-- Writing every registration, no stale one back to life. -/
theorem SameEpoch.map {f : Generation → ReplicaRow → ReplicaRow}
    (hf : ∀ g reg, reg.status = .stale → (f g reg).status = .stale) (hepoch : db'.epoch = db.epoch)
    (hrecoveries : db'.recoveries = db.recoveries) (hreplicas : db'.replicas = db.replicas.map f) :
    SameEpoch db db' where
  epoch e he := hepoch.trans he
  recoveries := hrecoveries
  kept k reg hreg := by
    rw [hreplicas, Std.ExtTreeMap.getElem?_map, hreg]
    exact ⟨f k reg, rfl, hf k reg⟩

theorem initialize_sameEpoch {workspaceId : String} {a e : UuidV7} {now : UnixMs}
    (h : initializeReplicationAuthority db workspaceId a e now = .ok db') : SameEpoch db db' := by
  obtain rfl | ⟨hnone, -, rfl⟩ := initialize_eq_ok h
  · exact .refl _
  · exact ⟨fun e he => by simp [Database.epoch, hnone] at he, rfl, fun _ reg hreg => ⟨reg, hreg, id⟩⟩

/-- A stale generation is not registered again. -/
theorem register_not_stale {workspaceId : String} {r g : UuidV7} {p : String} {now : UnixMs}
    (h : registerReplicationReplica db workspaceId r g p now = .ok db') :
    ∀ reg, db.replicas[generation r g]? = some reg → reg.status ≠ .stale := by
  intro reg hreg
  obtain ⟨row, -, ⟨reg', hreg', hactive, -⟩ | ⟨hnone, -⟩⟩ := register_eq_ok h
  · obtain rfl : reg' = reg := by simpa [hreg'] using hreg
    simp [hactive]
  · simp [hnone] at hreg

theorem register_sameEpoch {workspaceId : String} {r g : UuidV7} {p : String} {now : UnixMs}
    (h : registerReplicationReplica db workspaceId r g p now = .ok db') : SameEpoch db db' := by
  obtain ⟨row, rfl, -⟩ := register_eq_ok h
  exact .insert (register_not_stale h) rfl rfl rfl

theorem pull_sameEpoch {options : PullReplicationOptions} {response : ReplicationPullResponse}
    (h : pullReplication rt db options = .ok (db', response)) : SameEpoch db db' := by
  obtain ⟨authority, registration, row, snapshot, -, -, hregistered, hactive, -, -, -, -, rfl⟩ :=
    pull_eq_ok h
  refine .insert (fun reg hreg => ?_) rfl rfl rfl
  obtain rfl : registration = reg := by simpa [hregistered] using hreg
  simp [hactive]

theorem retire_sameEpoch {workspaceId : String} {id : UuidV7} {now : UnixMs}
    (h : retireReplicatedCommitment rt db workspaceId id now = .ok db') : SameEpoch db db' := by
  obtain ⟨snapshot, ledger, -, -, -, -, rfl⟩ := retire_eq_ok h
  exact ⟨fun _ he => he, rfl, fun _ reg hreg => ⟨reg, hreg, fun hs => hs⟩⟩

theorem prune_sameEpoch {workspaceId : String} {now : UnixMs} {n floor : ℕ}
    (h : pruneReplicationHistory db workspaceId now = .ok (db', n, floor)) : SameEpoch db db' := by
  have hf (reg : ReplicaRow) (hs : reg.status = .stale) :
      (if reg.status = .active ∧ reg.Silent now then { reg with status := .stale, updatedAt := now }
        else reg).status = .stale := by
    split
    · rfl
    · exact hs
  obtain ⟨authority, hauthority, rfl | rfl⟩ := prune_eq_ok h
  · exact .map (fun _ reg hs => hf reg hs) rfl rfl rfl
  · exact .map (fun _ reg hs => hf reg hs) (by simp [Database.epoch, hauthority]) rfl rfl

theorem edit_sameEpoch (ledger : Ledger) : SameEpoch db (db.edit ledger) := by
  unfold Database.edit
  split
  · exact ⟨fun _ he => he, rfl, fun _ reg hreg => ⟨reg, hreg, id⟩⟩
  · exact .refl db

theorem accept_sameEpoch {operation : ReplicationOperation} {ctx : AcceptContext}
    {result : ReplicationOperationResult}
    (h : acceptOneOperation rt db operation ctx = .ok (db', result)) : SameEpoch db db' := by
  obtain ⟨authority, registration, hadmits, hcase⟩ := acceptOne_eq_ok.1 h
  have hactive : ∀ reg, db.replicas[operation.origin.generation]? = some reg →
      reg.status ≠ .stale := by
    intro reg hreg
    obtain rfl : registration = reg := by simpa [hadmits.registered] using hreg
    simp [hadmits.active]
  obtain ⟨prior, hretry⟩ | ⟨db₁, d, c, haccepts⟩ := hcase
  · rw [hretry.after_eq]
    exact .insert hactive rfl rfl rfl
  · obtain ⟨_, _, _, -, -, -, -, hclass⟩ := classify_eq_ok.1 haccepts.classified
    have hframe := hclass.frame
    refine .insert hactive ?_ ?_ (?_ : db'.replicas = db.replicas.insert operation.origin.generation
      (registration.accepting operation ctx.now))
    · rw [haccepts.after_eq]
      simp [Database.epoch, hadmits.authority_eq]
    · rw [haccepts.after_eq, hframe]
    · rw [haccepts.after_eq, hframe]

/-- RECOVER: a retry that changes nothing, or a rotation. -/
theorem recover_cases {options : RecoverReplicationAuthorityOptions}
    {snapshot : ReplicationSnapshot}
    (h : recoverReplicationAuthority rt db options = .ok (db', snapshot)) :
    db'.ledger = db.ledger ∧ db'.epoch = some options.newAuthorityEpoch ∧
      options.newAuthorityEpoch ∈ db'.recoveries ∧
      (∃ authority, db'.authority = some authority ∧
        buildSnapshot rt db' authority = .ok snapshot) ∧
      (db.epoch = some options.newAuthorityEpoch ∧ db' = db ∨
        ∃ old, Rotates db db' old options.newAuthorityEpoch) := by
  obtain ⟨current, hcurrent, hretry, hrow, rfl, hsnapshot⟩ |
    ⟨current, row, hcurrent, hdifferent, hunused, hprior, hafter, hsnapshot⟩ := recover_eq_ok h
  · have hepoch : db'.epoch = some options.newAuthorityEpoch := by
      rw [Database.epoch, hcurrent, Option.map_some, hretry]
    exact ⟨rfl, hepoch, hrow, ⟨current, hcurrent, hsnapshot⟩, .inl ⟨hepoch, rfl⟩⟩
  · refine ⟨by rw [hafter], by rw [hafter]; rfl, ?_, ⟨_, by rw [hafter], hsnapshot⟩,
      .inr ⟨current.authorityEpoch, ?_, by rw [hafter]; rfl, hdifferent, hunused,
        ⟨row, hprior, by rw [hafter]⟩, ?_⟩⟩
    · rw [hafter]
      exact Std.ExtTreeMap.mem_insert_self
    · rw [Database.epoch, hcurrent, Option.map_some]
    · intro g reg hreg
      rw [hafter]
      simp only [Std.ExtTreeMap.getElem?_map, hreg, Option.map_some]
      exact ⟨_, rfl, rfl⟩

variable (rt) in
/-- STEP: every call stays within the epoch, or is a recovery that rotates. -/
theorem authorityStep_turn (db : Database) (action : AuthorityAction) :
    SameEpoch db (authorityStep rt db action) ∨
      ∃ options old, action = .recover options ∧
        Rotates db (authorityStep rt db action) old options.newAuthorityEpoch := by
  have hhere : SameEpoch db db := .refl db
  cases action <;> simp only [authorityStep]
  case initializeAuthority => exact .inl (settle_rule hhere fun _ => initialize_sameEpoch)
  case register => exact .inl (settle_rule hhere fun _ => register_sameEpoch)
  case pull => exact .inl (settle_fst_rule hhere fun _ _ => pull_sameEpoch)
  case retire => exact .inl (settle_rule hhere fun _ => retire_sameEpoch)
  case prune => exact .inl (settle_fst_rule hhere fun _ _ => prune_sameEpoch)
  case edit ledger => exact .inl (edit_sameEpoch ledger)
  case push input options =>
    exact .inl (push_rule (I := SameEpoch db)
      (fun _ _ _ _ _ _ h haccept => h.trans (accept_sameEpoch haccept)) input options hhere)
  case recover options =>
    refine settle_fst_rule (I := fun db' => SameEpoch db db' ∨ ∃ o old,
      AuthorityAction.recover options = .recover o ∧ Rotates db db' old o.newAuthorityEpoch)
      (.inl hhere) fun db' snapshot hrecover => ?_
    obtain ⟨-, -, -, -, ⟨-, rfl⟩ | ⟨old, hrotates⟩⟩ := recover_cases hrecover
    · exact .inl hhere
    · exact .inr ⟨options, old, rfl, hrotates⟩

/-! ### What a later state remembers -/

/-- The epoch was left, and the generations of that time are stale. -/
structure Fence (past : Database) (epoch : UuidV7) (db : Database) : Prop where
  left : db.Left epoch
  stale : ∀ g ∈ past.replicas, ∃ reg, db.replicas[g]? = some reg ∧ reg.status = .stale

/-- The epoch of a past state is current, with its generations registered, or fenced off. -/
def Remembers (past : Database) (epoch : UuidV7) (db : Database) : Prop :=
  (db.epoch = some epoch ∧ ∀ g ∈ past.replicas, g ∈ db.replicas) ∨ Fence past epoch db

/-- The current epoch was never left; before there is one, there are no recoveries. -/
structure Forward (db : Database) : Prop where
  before : db.epoch = none → db.recoveries = ∅
  current : ∀ e, db.epoch = some e → ¬ db.Left e

theorem SameEpoch.left {e : UuidV7} (h : SameEpoch db db') : db'.Left e ↔ db.Left e := by
  unfold Database.Left
  rw [h.recoveries]

theorem Rotates.left_iff {old new e : UuidV7} (h : Rotates db db' old new) :
    db'.Left e ↔ db.Left e ∨ e = old := by
  obtain ⟨row, hprior, hrecoveries⟩ := h.recoveries
  have hunused : db.recoveries[new]? = none := Std.ExtTreeMap.getElem?_eq_none h.unused
  unfold Database.Left
  rw [hrecoveries]
  simp only [Table.getElem?_insert']
  constructor
  · rintro ⟨k, r, hk, rfl⟩
    split at hk
    · rw [Option.some.injEq] at hk
      exact .inr (hk ▸ hprior)
    · exact .inl ⟨k, r, hk, rfl⟩
  · rintro (⟨k, r, hk, rfl⟩ | rfl)
    · refine ⟨k, r, ?_, rfl⟩
      rw [if_neg, hk]
      rintro rfl
      simp [hk] at hunused
    · exact ⟨new, row, if_pos rfl, hprior⟩

/-- INVARIANT: a fence stands. -/
theorem Fence.step {past : Database} {epoch : UuidV7} (h : Fence past epoch db)
    (action : AuthorityAction) : Fence past epoch (authorityStep rt db action) := by
  obtain hsame | ⟨options, old, -, hrotates⟩ := authorityStep_turn rt db action
  · refine ⟨hsame.left.2 h.left, fun g hg => ?_⟩
    obtain ⟨reg, hreg, hstale⟩ := h.stale g hg
    obtain ⟨reg', hreg', hkept⟩ := hsame.kept g reg hreg
    exact ⟨reg', hreg', hkept hstale⟩
  · refine ⟨hrotates.left_iff.2 (.inl h.left), fun g hg => ?_⟩
    obtain ⟨reg, hreg, -⟩ := h.stale g hg
    exact hrotates.stale g reg hreg

/-- INVARIANT: a past epoch is current or fenced off. -/
theorem Remembers.step {past : Database} {epoch : UuidV7} (h : Remembers past epoch db)
    (action : AuthorityAction) : Remembers past epoch (authorityStep rt db action) := by
  obtain ⟨hepoch, hregistered⟩ | hfence := h
  · have hrow {g : Generation} (hg : g ∈ past.replicas) : ∃ reg, db.replicas[g]? = some reg :=
      ⟨_, Std.ExtTreeMap.getElem?_eq_some_getElem (hregistered g hg)⟩
    obtain hsame | ⟨options, old, -, hrotates⟩ := authorityStep_turn rt db action
    · refine .inl ⟨hsame.epoch epoch hepoch, fun g hg => ?_⟩
      obtain ⟨reg, hreg⟩ := hrow hg
      obtain ⟨reg', hreg', -⟩ := hsame.kept g reg hreg
      exact Table.mem_of_getElem? hreg'
    · obtain rfl : old = epoch := by simpa [hrotates.before] using hepoch
      refine .inr ⟨hrotates.left_iff.2 (.inr rfl), fun g hg => ?_⟩
      obtain ⟨reg, hreg⟩ := hrow hg
      exact hrotates.stale g reg hreg
  · exact .inr (hfence.step action)

/-- INVARIANT: as long as recoveries rotate forward, the current epoch was never left. -/
theorem Forward.step (action : AuthorityAction) (hforward : RotatesForward db action)
    (h : Forward db) : Forward (authorityStep rt db action) := by
  obtain hsame | ⟨options, old, rfl, hrotates⟩ := authorityStep_turn rt db action
  · cases hepoch : db.epoch with
    | none =>
      have hempty : (authorityStep rt db action).recoveries = ∅ :=
        hsame.recoveries.trans (h.before hepoch)
      refine ⟨fun _ => hempty, fun e _ => ?_⟩
      rintro ⟨k, row, hk, -⟩
      simp [hempty] at hk
    | some e =>
      have hepoch' := hsame.epoch e hepoch
      constructor
      · intro hnone
        rw [hnone] at hepoch'
        cases hepoch'
      · intro e' he'
        obtain rfl : e = e' := by simpa [hepoch'] using he'
        rw [hsame.left]
        exact h.current e hepoch
  · constructor
    · intro hnone
      rw [hrotates.after] at hnone
      cases hnone
    · intro e he
      obtain rfl : options.newAuthorityEpoch = e := by simpa [hrotates.after] using he
      rw [hrotates.left_iff]
      rintro (hleft | heq)
      · exact hrotates.unused (hforward hleft)
      · exact hrotates.different heq

/-! ### The fence -/

/-- Nothing of a past state of the epoch gets through. -/
structure FencedOff (rt : Runtime) (past : Database) (epoch : UuidV7) (db : Database) : Prop where
  operation_epoch : ∀ operation ctx, operation.causalBase.authorityEpoch = epoch →
    ¬ Completes (acceptOneOperation rt db operation ctx)
  operation_generation : ∀ operation ctx, operation.origin.generation ∈ past.replicas →
    ¬ Completes (acceptOneOperation rt db operation ctx)
  cursor : ∀ options db' response, pullReplication rt db options = .ok (db', response) →
    ∀ cursor ∈ options.cursor, ∀ content, decodeCursor rt cursor = .ok content →
      content.authorityEpoch = epoch → response.incremental = none
  pull_generation : ∀ options : PullReplicationOptions,
    generation options.replicaId options.generationId ∈ past.replicas →
      ¬ Completes (pullReplication rt db options)
  register_generation : ∀ workspaceId replicaId generationId principalId now,
    generation replicaId generationId ∈ past.replicas →
      ¬ Completes (registerReplicationReplica db workspaceId replicaId generationId principalId now)
  /-- A replica that has registered anew targets the epoch of the time. -/
  snapshot : ∀ (replica : Database) localReplica, replica.localReplica = some localReplica →
    db.epoch = some localReplica.authorityEpoch →
      ∀ snapshot actor cursor now, snapshot.authorityEpoch = epoch →
        ¬ Completes (installReplicationSnapshotAndRebase rt replica snapshot actor cursor now)

/-- A pull whose cursor names another epoch answers a snapshot. -/
theorem pull_of_other_epoch {options : PullReplicationOptions} {response : ReplicationPullResponse}
    {cursor : Cursor} {content : CursorContent}
    (h : pullReplication rt db options = .ok (db', response)) (hcursor : cursor ∈ options.cursor)
    (hdecode : decodeCursor rt cursor = .ok content)
    (hother : db.epoch ≠ some content.authorityEpoch) : response.incremental = none := by
  have hne : cursor ≠ .other "" := by
    rintro rfl
    cases hdecode
  simp only [pullReplication, bind_eq_ok, clockSnapshot_eq_ok, Database.requireAuthority_eq_ok,
    Prod.exists] at h
  obtain ⟨-, -, -, -, -, -, _, ⟨-, rfl⟩, -, -, authority, ⟨-, hauthority⟩, registration, -, p,
    expired, hposition, h⟩ := h
  have hexpired : expired = true := by
    simp only [cursorPosition, Option.mem_def.1 hcursor, Option.filter_some, hne, ne_eq,
      not_false_eq_true, decide_true, if_true, hdecode, ok_bind, pure_eq_ok, Prod.mk.injEq] at hposition
    have hepoch : content.authorityEpoch ≠ authority.authorityEpoch := by
      rintro heq
      exact hother (by rw [Database.epoch, hauthority, Option.map_some, heq])
    rw [← hposition.2]
    simp [hepoch]
  rw [if_pos hexpired] at h
  simp only [bind_eq_ok, pure_eq_ok, Prod.mk.injEq, ReplicationPullResponse.parse] at h
  obtain ⟨snapshot, -, _, -, response', ⟨-, -, parsed, -, rfl⟩, -, rfl⟩ := h
  rfl

/-- An installation is of a snapshot of the epoch that the replica targets. -/
theorem install_epoch {replica : Database} {snapshot : ReplicationSnapshot} {actor : String}
    {cursor : Option Cursor} {now : UnixMs}
    (h : Completes (installReplicationSnapshotAndRebase rt replica snapshot actor cursor now)) :
    ∃ localReplica, replica.localReplica = some localReplica ∧
      localReplica.authorityEpoch = snapshot.authorityEpoch := by
  obtain ⟨outcome, h⟩ := h
  simp only [installReplicationSnapshotAndRebase, verifySnapshot, ReplicationSnapshot.parse,
    bind_eq_ok, pure_eq_ok, Database.requireLocalReplica_eq_ok, refuse_eq_ok, not_or, not_not] at h
  obtain ⟨_, ⟨_, ⟨-, -, rfl⟩, -, -, -, -, -, -, -, -, -, -, -, -, -, -, -, -, -, -, -, -, rfl⟩, -, -,
    localReplica, ⟨-, hlocal⟩, -, ⟨-, hepoch⟩, -⟩ := h
  exact ⟨localReplica, hlocal, hepoch⟩

/-- FENCE: behind a fence, with the epoch never current again, nothing gets through. -/
theorem Fence.fencedOff {past : Database} {epoch : UuidV7} (h : Fence past epoch db)
    (hother : db.epoch ≠ some epoch) : FencedOff rt past epoch db where
  operation_epoch operation ctx hepoch := by
    rintro ⟨⟨db', result⟩, haccept⟩
    obtain ⟨authority, registration, hadmits, -⟩ := acceptOne_eq_ok.1 haccept
    refine hother ?_
    rw [Database.epoch, hadmits.authority_eq, Option.map_some, ← hadmits.epoch, hepoch]
  operation_generation operation ctx hg := by
    rintro ⟨⟨db', result⟩, haccept⟩
    obtain ⟨authority, registration, hadmits, -⟩ := acceptOne_eq_ok.1 haccept
    obtain ⟨reg, hreg, hstale⟩ := h.stale _ hg
    obtain rfl : registration = reg := by simpa [hadmits.registered] using hreg
    simp [hadmits.active] at hstale
  cursor options db' response hpull cursor hcursor content hdecode hepoch :=
    pull_of_other_epoch hpull hcursor hdecode (hepoch ▸ hother)
  pull_generation options hg := by
    rintro ⟨⟨db', response⟩, hpull⟩
    obtain ⟨_, registration, _, _, -, -, hregistered, hactive, -⟩ := pull_eq_ok hpull
    obtain ⟨reg, hreg, hstale⟩ := h.stale _ hg
    obtain rfl : registration = reg := by simpa [hregistered] using hreg
    simp [hactive] at hstale
  register_generation workspaceId replicaId generationId principalId now hg := by
    rintro ⟨db', hregister⟩
    obtain ⟨reg, hreg, hstale⟩ := h.stale _ hg
    exact register_not_stale hregister reg hreg hstale
  snapshot replica localReplica hlocal hepoch snapshot actor cursor now hsnapshot := by
    intro hinstall
    obtain ⟨localReplica', hlocal', hepoch'⟩ := install_epoch hinstall
    obtain rfl : localReplica = localReplica' := by simpa [hlocal] using hlocal'
    exact hother (by rw [hepoch, hepoch', hsnapshot])

/-- A recovery has rotated to the epoch. -/
def Recorded (epoch : UuidV7) (db : Database) : Prop := epoch ∈ db.recoveries

/-- INVARIANT: recovery rows stay. -/
theorem Recorded.step {epoch : UuidV7} (h : Recorded epoch db) (action : AuthorityAction) :
    Recorded epoch (authorityStep rt db action) := by
  unfold Recorded at h ⊢
  obtain hsame | ⟨_, _, -, hrotates⟩ := authorityStep_turn rt db action
  · rw [hsame.recoveries]
    exact h
  · obtain ⟨row, -, hrecoveries⟩ := hrotates.recoveries
    rw [hrecoveries]
    exact Std.ExtTreeMap.mem_insert.2 (.inr h)

/-- RECOVER: as long as recoveries rotate forward, after a recovery nothing of an earlier epoch or
    of a generation registered under one gets through, the commitments are those of the recovery
    source, and the recovery made again changes nothing. -/
theorem recovery_fences_past (rt : Runtime) (db : Database) (fresh : db.Fresh)
    (before after : List AuthorityAction) (options : RecoverReplicationAuthorityOptions)
    (recovered : Database) (snapshot : ReplicationSnapshot)
    (forward : Along (authorityStep rt) RotatesForward db (before ++ .recover options :: after))
    (recovery : recoverReplicationAuthority rt (run (authorityStep rt) db before) options =
      .ok (recovered, snapshot)) :
    recovered.ledger = (run (authorityStep rt) db before).ledger ∧
      (∃ authority, recovered.authority = some authority ∧
        buildSnapshot rt recovered authority = .ok snapshot) ∧
      (∀ earlier epoch, earlier <+: before →
        (run (authorityStep rt) db earlier).epoch = some epoch →
          epoch ≠ options.newAuthorityEpoch →
            FencedOff rt (run (authorityStep rt) db earlier) epoch
              (run (authorityStep rt) recovered after)) ∧
      ∀ again snapshot', recoverReplicationAuthority rt (run (authorityStep rt) recovered after)
        options = .ok (again, snapshot') → again = run (authorityStep rt) recovered after := by
  obtain ⟨hledger, hepoch, hrecorded, hsnapshot, hcase⟩ := recover_cases recovery
  have hstep : authorityStep rt (run (authorityStep rt) db before) (.recover options) =
      recovered := by
    simp only [authorityStep, recovery]
    rfl
  obtain ⟨hbefore, hnow, hafter⟩ := along_append.1 forward
  rw [hstep] at hafter
  have hforward₀ : Forward db :=
    ⟨fun _ => fresh.2.2.2.2.2.2.2.2, fun e he => by simp [Database.epoch, fresh.2.2.1] at he⟩
  have hforward₁ : Forward recovered := by
    rw [← hstep]
    exact Forward.step _ hnow (run_invariant (fun _ => Forward.step) hbefore hforward₀)
  have hforward : Forward (run (authorityStep rt) recovered after) :=
    run_invariant (fun _ => Forward.step) hafter hforward₁
  refine ⟨hledger, hsnapshot, fun earlier epoch hprefix hearlier hne => ?_,
    fun again snapshot' hagain => ?_⟩
  · obtain ⟨rest, rfl⟩ := hprefix
    have hremembers : Remembers (run (authorityStep rt) db earlier) epoch recovered := by
      rw [← hstep, run_append]
      exact Remembers.step (run_invariant' (fun _ action h => h.step action) rest
        (.inl ⟨hearlier, fun _ hg => hg⟩)) _
    obtain ⟨hcurrent, -⟩ | hfence := hremembers
    · exact absurd (Option.some.inj (hcurrent.symm.trans hepoch)) hne
    · have hfence' : Fence (run (authorityStep rt) db earlier) epoch
          (run (authorityStep rt) recovered after) :=
        run_invariant' (I := Fence _ epoch) (fun _ action h => h.step action) after hfence
      exact hfence'.fencedOff fun hcurrent => hforward.current epoch hcurrent hfence'.left
  · have hkept : options.newAuthorityEpoch ∈ (run (authorityStep rt) recovered after).recoveries :=
      run_invariant' (I := Recorded options.newAuthorityEpoch) (fun _ action h => h.step action) after
        hrecorded
    obtain ⟨-, -, -, -, ⟨-, heq⟩ | ⟨old, hrotates⟩⟩ := recover_cases hagain
    · exact heq
    · exact absurd hkept hrotates.unused

/-- A recovery of workspace `w` at sequence 0 from one epoch to another. -/
def recoverTo (old new : UuidV7) (now : UnixMs) : RecoverReplicationAuthorityOptions :=
  ⟨"w", 2, old, 0, new, "restored", now⟩

theorem recovery_fences_past_plain :
    ∃ recovered, Completes (recoverReplicationAuthority idealRuntime
        (run (authorityStep idealRuntime) .plain [.initializeAuthority "w" 2 3 5,
          .register "w" 1 1 "p" 6]) (recoverTo 3 4 7)) ∧
      FencedOff idealRuntime (run (authorityStep idealRuntime) .plain
        [.initializeAuthority "w" 2 3 5, .register "w" 1 1 "p" 6]) 3
        (run (authorityStep idealRuntime) recovered [.register "w" 1 2 "p" 8]) := by
  obtain ⟨⟨recovered, snapshot⟩, h, -⟩ : Ends (recoverReplicationAuthority idealRuntime
      (run (authorityStep idealRuntime) .plain [.initializeAuthority "w" 2 3 5,
        .register "w" 1 1 "p" 6]) (recoverTo 3 4 7)) fun _ => True := by decide +kernel
  refine ⟨recovered, ⟨_, h⟩, ?_⟩
  refine (recovery_fences_past idealRuntime .plain (Database.fresh_fresh "w")
    [.initializeAuthority "w" 2 3 5, .register "w" 1 1 "p" 6] [.register "w" 1 2 "p" 8]
    (recoverTo 3 4 7) recovered snapshot ?_ h).2.2.1 _ 3 (List.prefix_refl _) (by decide +kernel)
    (by decide)
  refine ⟨trivial, trivial, ?_, trivial, trivial⟩
  -- Nothing was left before the first recovery.
  rintro ⟨e, row, hrow, -⟩
  have hempty : (run (authorityStep idealRuntime) .plain [.initializeAuthority "w" 2 3 5,
      .register "w" 1 1 "p" 6]).recoveries.isEmpty = true := by decide +kernel
  change (run (authorityStep idealRuntime) .plain [.initializeAuthority "w" 2 3 5,
      .register "w" 1 1 "p" 6]).recoveries[e]? = some row at hrow
  rw [Std.ExtTreeMap.isEmpty_iff.1 hempty] at hrow
  simp at hrow

/-- Two recoveries, the second back to the first epoch: an operation and a cursor of before both are
    served to a generation that registers after them. -/
theorem recovered_to_first_epoch :
    Ends (do
      let next ← initializeLocalReplica .plain "w" 1 2 2 3 0 none 5
      let (_, queued) ← queueCommand idealRuntime next createSeven (localAt 6)
      let db := run (authorityStep idealRuntime) .plain
        [.initializeAuthority "w" 2 3 5, .register "w" 1 1 "p" 6]
      let (db, pulled) ← pullReplication idealRuntime db (pullAt none 10 7)
      let db := run (authorityStep idealRuntime) db [.recover (recoverTo 3 4 8)]
      let between := db.epoch
      let db := run (authorityStep idealRuntime) db
        [.recover (recoverTo 4 3 9), .register "w" 1 2 "p" 10]
      let (db, result) ← acceptOneOperation idealRuntime db queued.operation (servedAt 11)
      let (_, served) ← pullReplication idealRuntime db
        { pullAt (some pulled.nextCursor) 10 12 with generationId := 2 }
      pure (between, result, served))
      fun (between, result, served) => between = some 4 ∧ result.disposition = .applied ∧
        served.incremental = some ([result], false) := by
  decide +kernel

end Tasq
