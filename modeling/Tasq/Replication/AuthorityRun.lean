import Mathlib.Tactic
import Tasq.Replication.Log

/-! Runs of an authority: any order of its calls, with the changes that other services make to its
    ledger in between.

    A call that is refused changes nothing. Only a push accepts operations; `Path` takes a run apart
    into the transactions of its pushes and the steps between them. -/

namespace Tasq

open Text Outcome Run

/-- One call of an authority. -/
inductive AuthorityAction where
  | initializeAuthority (workspaceId : String) (authorityReplicaId authorityEpoch : UuidV7) (now : UnixMs)
  | register (workspaceId : String) (replicaId generationId : UuidV7) (principalId : String)
    (now : UnixMs)
  | push (request : ReplicationPushRequest) (options : AcceptReplicationOptions)
  | pull (options : PullReplicationOptions)
  | retire (workspaceId : String) (recordId : UuidV7) (now : UnixMs)
  | prune (workspaceId : String) (now : UnixMs)
  | recover (options : RecoverReplicationAuthorityOptions)
  /-- Any change of the ledger by other services. -/
  | edit (ledger : Ledger)

/-- Another service leaves a ledger of the same workspace. -/
def Database.edit (db : Database) (ledger : Ledger) : Database :=
  if ledger.workspaceId = db.workspaceId then { db with ledger := ledger } else db

/-- The store after a call. -/
def authorityStep (rt : Runtime) (db : Database) : AuthorityAction → Database
  | .initializeAuthority workspaceId authorityReplicaId authorityEpoch now =>
    settle db (initializeReplicationAuthority db workspaceId authorityReplicaId authorityEpoch now)
  | .register workspaceId replicaId generationId principalId now =>
    settle db (registerReplicationReplica db workspaceId replicaId generationId principalId now)
  | .push request options => (acceptReplicationPush rt db request options).1
  | .pull options => settle db (Prod.fst <$> pullReplication rt db options)
  | .retire workspaceId recordId now =>
    settle db (retireReplicatedCommitment rt db workspaceId recordId now)
  | .prune workspaceId now => settle db (Prod.fst <$> pruneReplicationHistory db workspaceId now)
  | .recover options => settle db (Prod.fst <$> recoverReplicationAuthority rt db options)
  | .edit ledger => db.edit ledger

variable {rt : Runtime} {db db' : Database} {operation : ReplicationOperation}

/-! ### What each call leaves -/

/-- INITIALIZE: nothing changes, or the authority starts at sequence zero. -/
theorem initialize_eq_ok {workspaceId : String} {a e : UuidV7} {now : UnixMs}
    (h : initializeReplicationAuthority db workspaceId a e now = .ok db') :
    db' = db ∨ db.authority = none ∧ NonBlank db.workspaceId ∧
      db' = { db with authority := some ⟨a, e, 0, 0, now, now⟩ } := by
  simp only [initializeReplicationAuthority, assertWorkspaceId, bind_eq_ok, clockSnapshot_eq_ok,
    refuse_eq_ok, not_not] at h
  obtain ⟨-, hblank, _, ⟨-, rfl⟩, h⟩ := h
  split at h
  · simp only [bind_eq_ok, pure_eq_ok] at h
    obtain ⟨-, -, -, -, rfl⟩ := h
    exact .inl rfl
  · rename_i hnone
    rw [pure_eq_ok] at h
    subst h
    split
    · rename_i hworkspace
      have hauthority : db.authority = none := by
        simpa [Database.within, hworkspace] using hnone
      exact .inr ⟨hauthority, hworkspace ▸ hblank, rfl⟩
    · exact .inl rfl

/-- REGISTER: the registration is renewed, or a blank one is added. -/
theorem register_eq_ok {workspaceId : String} {r g : UuidV7} {p : String} {now : UnixMs}
    (h : registerReplicationReplica db workspaceId r g p now = .ok db') :
    ∃ row, db' = { db with replicas := db.replicas.insert (generation r g) row } ∧
      ((∃ reg, db.replicas[generation r g]? = some reg ∧ reg.status = .active ∧
          row = { reg.contacted now with status := .active }) ∨
        db.replicas[generation r g]? = none ∧ NonBlank p ∧
          row = ⟨p, .active, 0, none, 0, now, now, now⟩) := by
  simp only [registerReplicationReplica, bind_eq_ok, clockSnapshot_eq_ok] at h
  obtain ⟨-, -, _, hprincipal, _, ⟨-, rfl⟩, -, -, -, -, h⟩ := h
  split at h
  · rename_i row hrow
    simp only [bind_eq_ok, refuse_eq_ok, pure_eq_ok, not_or] at h
    obtain ⟨-, -, -, hrevoked, -, ⟨hstale, -⟩, rfl⟩ := h
    exact ⟨_, rfl, .inl ⟨row, hrow, ReplicaStatus.eq_active hrevoked hstale, rfl⟩⟩
  · rename_i hnone
    rw [pure_eq_ok] at h
    subst h
    exact ⟨_, rfl, .inr ⟨hnone, assertNonBlank_eq_ok hprincipal, rfl⟩⟩

/-- PULL: what a completed pull leaves, and the snapshot that it answers. -/
theorem pull_eq_ok {options : PullReplicationOptions} {response : ReplicationPullResponse}
    (h : pullReplication rt db options = .ok (db', response)) :
    ∃ authority registration row snapshot,
      db.authority = some authority ∧ options.workspaceId = db.workspaceId ∧
      db.replicas[generation options.replicaId options.generationId]? = some registration ∧
      registration.status = .active ∧ registration.SameFrontier row ∧ row.status = .active ∧
      buildSnapshot rt db authority = .ok snapshot ∧ snapshot.parse = .ok response.snapshot ∧
      db' = { db with
        replicas := db.replicas.insert (generation options.replicaId options.generationId) row } := by
  simp only [pullReplication, bind_eq_ok, clockSnapshot_eq_ok, Database.requireAuthority_eq_ok,
    Database.requireRegistration_eq_ok, Prod.exists] at h
  obtain ⟨-, -, -, -, -, -, _, ⟨-, rfl⟩, -, -, authority, ⟨hworkspace, hauthority⟩, registration,
    ⟨-, hregistered, -, hactive, -⟩, position, expired, -, h⟩ := h
  split at h
  · simp only [bind_eq_ok, pure_eq_ok, Prod.mk.injEq, ReplicationPullResponse.parse] at h
    obtain ⟨snapshot, hsnapshot, _, -, response', ⟨-, -, parsed, hparsed, rfl⟩, rfl, rfl⟩ := h
    refine ⟨authority, registration, _, snapshot, hauthority, hworkspace, hregistered, hactive, ?_,
      ?_, hsnapshot, hparsed, rfl⟩
    · exact ⟨rfl, rfl, rfl⟩
    · rfl
  · simp only [bind_eq_ok, pure_eq_ok, Prod.mk.injEq, ReplicationPullResponse.parse] at h
    obtain ⟨_, -, _, -, snapshot, hsnapshot, response', ⟨-, -, parsed, hparsed, rfl⟩, rfl, rfl⟩ := h
    refine ⟨authority, registration, _, snapshot, hauthority, hworkspace, hregistered, hactive, ?_,
      ?_, hsnapshot, hparsed, rfl⟩
    · exact ⟨rfl, rfl, rfl⟩
    · rfl

/-- RETIRE: the row of an old tombstone gives way to a retired identity. -/
theorem retire_eq_ok {workspaceId : String} {id : UuidV7} {now : UnixMs}
    (h : retireReplicatedCommitment rt db workspaceId id now = .ok db') :
    ∃ snapshot ledger, getProjection db.ledger id = .ok (some snapshot) ∧
      db.ledger.deleteTasks [id] = .ok ledger ∧ id ∉ db.retired ∧ now ≤ Json.maxSafeInteger ∧
      db' = { db with
        ledger := ledger
        retired := db.retired.insert id ⟨rt.stateOf snapshot, now⟩
        materialized := db.materialized.erase id } := by
  simp only [retireReplicatedCommitment, bind_eq_ok, clockSnapshot_eq_ok, demand_eq_ok,
    refuse_eq_ok, stateDigest_eq_ok, pure_eq_ok] at h
  obtain ⟨_, ⟨hnow, rfl⟩, -, -, _, hprojection, snapshot, rfl, -, -, -, -, _, ⟨-, rfl⟩, -, hfresh,
    ledger, hledger, rfl⟩ := h
  exact ⟨snapshot, ledger, hprojection, hledger, hfresh, hnow, rfl⟩

/-- PRUNE: what a completed pruning leaves: silent generations become stale, and the accepted rows
    up to a floor that every active generation has acknowledged go. -/
theorem prune_eq_ok {workspaceId : String} {now : UnixMs} {n floor : ℕ}
    (h : pruneReplicationHistory db workspaceId now = .ok (db', n, floor)) :
    ∃ authority, db.authority = some authority ∧
      (db' = db.markStale now ∨
        db' = { db.markStale now with
          accepted := db.accepted.filter fun sequence _ => floor < sequence
          authority := some { authority with minimumRetainedSequence := floor, updatedAt := now } }) := by
  simp only [pruneReplicationHistory, bind_eq_ok, clockSnapshot_eq_ok,
    Database.requireAuthority_eq_ok] at h
  obtain ⟨_, ⟨-, rfl⟩, authority, ⟨-, hauthority⟩, h⟩ := h
  refine ⟨authority, hauthority, ?_⟩
  split at h
  · simp only [pure_eq_ok, Prod.mk.injEq] at h
    exact .inl h.1.symm
  · simp only [pure_eq_ok, Prod.mk.injEq] at h
    obtain ⟨rfl, -, rfl⟩ := h
    exact .inr rfl

/-- RECOVER: a retry that changes nothing, or a rotation to an epoch without a recovery row, with
    every generation stale. -/
theorem recover_eq_ok {options : RecoverReplicationAuthorityOptions}
    {snapshot : ReplicationSnapshot}
    (h : recoverReplicationAuthority rt db options = .ok (db', snapshot)) :
    (∃ current, db.authority = some current ∧ current.authorityEpoch = options.newAuthorityEpoch ∧
        options.newAuthorityEpoch ∈ db.recoveries ∧ db' = db ∧
        buildSnapshot rt db current = .ok snapshot) ∨
      ∃ current row, db.authority = some current ∧
        options.newAuthorityEpoch ≠ current.authorityEpoch ∧
        options.newAuthorityEpoch ∉ db.recoveries ∧
        row.priorAuthorityEpoch = current.authorityEpoch ∧
        db' = { db with
          authority := some { current with
            authorityEpoch := options.newAuthorityEpoch, updatedAt := options.now }
          replicas := db.replicas.map fun _ row =>
            { row with status := .stale, updatedAt := options.now }
          recoveries := db.recoveries.insert options.newAuthorityEpoch row } ∧
        buildSnapshot rt db' { current with
          authorityEpoch := options.newAuthorityEpoch, updatedAt := options.now } =
            .ok snapshot := by
  simp only [recoverReplicationAuthority, bind_eq_ok, clockSnapshot_eq_ok,
    Database.requireAuthority_eq_ok] at h
  obtain ⟨_, _, _, hdistinct, _, _, _, _, _, ⟨_, rfl⟩, current, ⟨_, hcurrent⟩, _, _, h⟩ := h
  split at h
  · rename_i hretry
    simp only [bind_eq_ok, demand_eq_ok, pure_eq_ok, Prod.mk.injEq] at h
    obtain ⟨existing, hexisting, -, -, _, hsnapshot, -, -, rfl, rfl⟩ := h
    exact .inl ⟨current, hcurrent, hretry, Table.mem_of_getElem? hexisting, rfl, hsnapshot⟩
  · simp only [bind_eq_ok, refuse_eq_ok, pure_eq_ok, Prod.mk.injEq, not_or, not_not,
      Option.not_isSome_iff_eq_none] at h hdistinct
    obtain ⟨-, ⟨hexpected, hunused⟩, _, hsnapshot, rfl, rfl⟩ := h
    refine .inr ⟨current, _, hcurrent, hexpected ▸ hdistinct, ?_, hexpected.symm, rfl, hsnapshot⟩
    rw [Std.ExtTreeMap.mem_iff_isSome_getElem?, hunused]
    exact Bool.false_ne_true

/-! ### Calls that accept nothing -/

/-- Writing a registration with the same frontier. -/
theorem SameLog.insert {g : Generation} {reg reg' : ReplicaRow} (hreg : db.replicas[g]? = some reg)
    (hsame : reg.SameFrontier reg') :
    SameLog db { db with replicas := db.replicas.insert g reg' } where
  accepted _ _ h := h
  sequence := rfl
  conflicts _ _ h := h
  kept k r hr := by
    rw [Table.getElem?_insert']
    split
    · rename_i hk
      rw [← hk, hreg, Option.some.injEq] at hr
      exact ⟨reg', rfl, hr ▸ hsame⟩
    · exact ⟨r, hr, .refl r⟩
  new k r hr := by
    rw [Table.getElem?_insert'] at hr
    split at hr
    · rename_i hk
      exact .inl ⟨reg, hk ▸ hreg⟩
    · exact .inl ⟨r, hr⟩

/-- Writing the registration of a new generation. -/
theorem SameLog.insert_new {g : Generation} {reg' : ReplicaRow} (hreg : db.replicas[g]? = none)
    (hblank : reg'.Blank) : SameLog db { db with replicas := db.replicas.insert g reg' } where
  accepted _ _ h := h
  sequence := rfl
  conflicts _ _ h := h
  kept k r hr := by
    rw [Table.getElem?_insert']
    split
    · rename_i hk
      rw [← hk, hreg] at hr
      cases hr
    · exact ⟨r, hr, .refl r⟩
  new k r hr := by
    rw [Table.getElem?_insert'] at hr
    split at hr
    · exact .inr (Option.some.inj hr ▸ hblank)
    · exact .inl ⟨r, hr⟩

/-- Rewriting every registration without its frontier. -/
theorem SameLog.map {f : Generation → ReplicaRow → ReplicaRow}
    (hf : ∀ g r, ReplicaRow.SameFrontier r (f g r)) (hsequence : db'.sequence = db.sequence)
    (haccepted : ∀ (s : ℕ) row, db'.accepted[s]? = some row → db.accepted[s]? = some row)
    (hconflicts : db'.conflicts = db.conflicts) (hreplicas : db'.replicas = db.replicas.map f) :
    SameLog db db' where
  accepted := haccepted
  sequence := hsequence
  conflicts s c h := by rw [hconflicts] at h; exact h
  kept g r hr := by
    rw [hreplicas, Std.ExtTreeMap.getElem?_map, hr]
    exact ⟨f g r, rfl, hf g r⟩
  new g r' hr' := by
    rw [hreplicas, Std.ExtTreeMap.getElem?_map] at hr'
    obtain ⟨r, hr, -⟩ := Option.map_eq_some_iff.1 hr'
    exact .inl ⟨r, hr⟩

theorem initialize_sameLog {workspaceId : String} {a e : UuidV7} {now : UnixMs}
    (h : initializeReplicationAuthority db workspaceId a e now = .ok db') : SameLog db db' := by
  obtain rfl | ⟨hnone, -, rfl⟩ := initialize_eq_ok h
  · exact .refl _
  · exact ⟨fun _ _ h => h, by simp [Database.sequence, hnone], fun _ _ h => h,
      fun _ r h => ⟨r, h, .refl r⟩, fun _ r h => .inl ⟨r, h⟩⟩

theorem register_sameLog {workspaceId : String} {r g : UuidV7} {p : String} {now : UnixMs}
    (h : registerReplicationReplica db workspaceId r g p now = .ok db') : SameLog db db' := by
  obtain ⟨row, rfl, ⟨reg, hreg, -, rfl⟩ | ⟨hnone, hprincipal, rfl⟩⟩ := register_eq_ok h
  · exact .insert hreg ⟨rfl, rfl, rfl⟩
  · exact .insert_new hnone ⟨rfl, rfl, hprincipal⟩

theorem pull_sameLog {options : PullReplicationOptions} {response : ReplicationPullResponse}
    (h : pullReplication rt db options = .ok (db', response)) : SameLog db db' := by
  obtain ⟨authority, registration, row, snapshot, -, -, hregistered, -, hsame, -, -, -, rfl⟩ :=
    pull_eq_ok h
  exact .insert hregistered hsame

theorem retire_sameLog {workspaceId : String} {id : UuidV7} {now : UnixMs}
    (h : retireReplicatedCommitment rt db workspaceId id now = .ok db') : SameLog db db' := by
  obtain ⟨snapshot, ledger, -, -, -, -, rfl⟩ := retire_eq_ok h
  exact ⟨fun _ _ h => h, rfl, fun _ _ h => h, fun _ r h => ⟨r, h, .refl r⟩, fun _ r h => .inl ⟨r, h⟩⟩

theorem prune_sameLog {workspaceId : String} {now : UnixMs} {n floor : ℕ}
    (h : pruneReplicationHistory db workspaceId now = .ok (db', n, floor)) : SameLog db db' := by
  have hf (g : Generation) (r : ReplicaRow) : r.SameFrontier
      (if r.status = .active ∧ r.Silent now then { r with status := .stale, updatedAt := now }
        else r) := by
    split <;> exact ⟨rfl, rfl, rfl⟩
  obtain ⟨authority, hauthority, rfl | rfl⟩ := prune_eq_ok h
  · exact .map hf rfl (fun _ _ h => h) rfl rfl
  · refine .map hf (by simp [Database.sequence, hauthority]) (fun s row hrow => ?_) rfl rfl
    rw [Std.ExtTreeMap.getElem?_filter'] at hrow
    exact (Option.filter_eq_some_iff.1 hrow).1

theorem recover_sameLog {options : RecoverReplicationAuthorityOptions}
    {snapshot : ReplicationSnapshot}
    (h : recoverReplicationAuthority rt db options = .ok (db', snapshot)) : SameLog db db' := by
  obtain ⟨current, -, -, -, rfl, -⟩ | ⟨current, row, hcurrent, -, -, -, rfl, -⟩ := recover_eq_ok h
  · exact .refl _
  · exact .map (f := fun _ row => { row with status := .stale, updatedAt := options.now })
      (fun _ _ => ⟨rfl, rfl, rfl⟩) (by simp [Database.sequence, hcurrent]) (fun _ _ h => h) rfl rfl

theorem edit_sameLog (ledger : Ledger) : SameLog db (db.edit ledger) := by
  unfold Database.edit
  split
  · exact ⟨fun _ _ h => h, rfl, fun _ _ h => h, fun _ r h => ⟨r, h, .refl r⟩,
      fun _ r h => .inl ⟨r, h⟩⟩
  · exact .refl db

/-! ### The transactions of a push -/

/-- A completed transaction: one operation accepted, or answered again. -/
structure Transaction where
  db : Database
  operation : ReplicationOperation
  ctx : AcceptContext
  after : Database
  result : ReplicationOperationResult

/-- The completed transactions of `acceptOperations`. -/
def transactions (rt : Runtime) (options : AcceptReplicationOptions) :
    ℕ → Database → List ReplicationOperation → List Transaction
  | _, _, [] => []
  | index, db, operation :: operations =>
    match acceptOneOperation rt db operation (options.context index operation) with
    | .error _ => []
    | .ok (after, result) =>
      ⟨db, operation, options.context index operation, after, result⟩ ::
        transactions rt options (index + 1) after operations

/-- The completed transactions of a call. -/
def authorityTransactions (rt : Runtime) (db : Database) : AuthorityAction → List Transaction
  | .push request options =>
    match admitReplicationPush rt request options with
    | .error _ => []
    | .ok request => transactions rt options 0 db request.operations
  | _ => []

/-- What admission has established of the operation of a transaction. -/
structure Admissible (rt : Runtime) (operation : ReplicationOperation) : Prop where
  wellFormed : operation.WellFormed
  trimmed : operation.trimmed = operation
  verified : verifyOperation rt operation = .ok ()

/-- A run as a path: transactions on admissible operations, with steps between them that accept
    nothing. -/
inductive Path (rt : Runtime) : Database → List Transaction → Database → Prop where
  | done (db : Database) : Path rt db [] db
  | quiet {db db₁ db' : Database} {ts : List Transaction} (same : SameLog db db₁)
    (rest : Path rt db₁ ts db') : Path rt db ts db'
  | transact {t : Transaction} {db' : Database} {ts : List Transaction}
    (admissible : Admissible rt t.operation)
    (accepted : acceptOneOperation rt t.db t.operation t.ctx = .ok (t.after, t.result))
    (rest : Path rt t.after ts db') : Path rt t.db (t :: ts) db'

theorem Path.append {ts us : List Transaction} {db₁ : Database} (h : Path rt db ts db₁)
    (h' : Path rt db₁ us db') : Path rt db (ts ++ us) db' := by
  induction h with
  | done => exact h'
  | quiet same _ ih => exact .quiet same (ih h')
  | transact admissible accepted _ ih => exact .transact admissible accepted (ih h')

/-- The operations of an admitted push are admissible. -/
theorem admit_admissible {input request : ReplicationPushRequest}
    {options : AcceptReplicationOptions} (h : admitReplicationPush rt input options = .ok request) :
    ∀ operation ∈ request.operations, Admissible rt operation := by
  simp only [admitReplicationPush, bind_eq_ok, ReplicationPushRequest.parse, refuse_eq_ok,
    pure_eq_ok, not_not, forM_eq_ok] at h
  obtain ⟨_, _, _, _, _, ⟨_, hwf, rfl⟩, _, _, _, _, _, _, _, _, _, _, _, hchecked, rfl⟩ := h
  intro operation hop
  obtain ⟨index, hindex⟩ := List.getElem?_of_mem hop
  have hcheck := hchecked (operation, index) (List.mk_mem_zipIdx_iff_getElem?.2 hindex)
  simp only [admitOperation, bind_eq_ok] at hcheck
  obtain ⟨_, _, _, _, _, _, _, _, _, _, hverified⟩ := hcheck
  obtain ⟨source, hsource, rfl⟩ := List.mem_map.1 hop
  exact ⟨(UnsignedOperation.wellFormed_trimmed source.toUnsignedOperation).2 (hwf.2.2 source hsource),
    ReplicationOperation.trimmed_trimmed source, hverified⟩

/-- The loop of a push is the path of its transactions. -/
theorem transactions_path (options : AcceptReplicationOptions) (index : ℕ) (db : Database)
    (operations : List ReplicationOperation) (h : ∀ o ∈ operations, Admissible rt o) :
    Path rt db (transactions rt options index db operations)
      (acceptOperations rt options index db operations).1 := by
  induction operations generalizing index db with
  | nil => exact .done db
  | cons operation operations ih =>
    cases haccept : acceptOneOperation rt db operation (options.context index operation) with
    | error e =>
      simp only [transactions, acceptOperations, haccept]
      exact .done db
    | ok outcome =>
      obtain ⟨after, result⟩ := outcome
      simp only [transactions, acceptOperations, haccept]
      let t : Transaction := ⟨db, operation, options.context index operation, after, result⟩
      exact .transact (t := t) (h operation (.head _)) haccept
        (ih (index + 1) after fun o ho => h o (.tail _ ho))

/-- INVARIANT RULE: what every completed transaction on an admissible operation preserves, a push
    preserves. -/
theorem push_rule {I : Database → Prop}
    (step : ∀ db operation ctx db' result, Admissible rt operation → I db →
      acceptOneOperation rt db operation ctx = .ok (db', result) → I db')
    (input : ReplicationPushRequest) (options : AcceptReplicationOptions) (hI : I db) :
    I (acceptReplicationPush rt db input options).1 := by
  have hloop (index : ℕ) (db : Database) (operations : List ReplicationOperation)
      (hops : ∀ o ∈ operations, Admissible rt o) (hI : I db) :
      I (acceptOperations rt options index db operations).1 := by
    induction operations generalizing index db with
    | nil => exact hI
    | cons operation operations ih =>
      cases haccept : acceptOneOperation rt db operation (options.context index operation) with
      | error e =>
        simp only [acceptOperations, haccept]
        exact hI
      | ok outcome =>
        simp only [acceptOperations, haccept]
        exact ih (index + 1) outcome.1 (fun o ho => hops o (.tail _ ho))
          (step _ _ _ _ _ (hops operation (.head _)) hI haccept)
  cases hadmit : admitReplicationPush rt input options with
  | error e =>
    simp only [acceptReplicationPush, hadmit]
    exact hI
  | ok request =>
    simp only [acceptReplicationPush, hadmit]
    exact hloop 0 db request.operations (admit_admissible hadmit) hI

/-- A step that accepts nothing is a path without transactions. -/
theorem SameLog.path (h : SameLog db db') : Path rt db [] db' := .quiet h (.done _)

/-- A call is the path of its transactions. -/
theorem authorityStep_path (db : Database) (action : AuthorityAction) :
    Path rt db (authorityTransactions rt db action) (authorityStep rt db action) := by
  have hdone : Path rt db [] db := .done db
  cases action <;> simp only [authorityTransactions, authorityStep]
  case initializeAuthority => exact settle_rule hdone fun _ h => (initialize_sameLog h).path
  case register => exact settle_rule hdone fun _ h => (register_sameLog h).path
  case pull => exact settle_fst_rule hdone fun _ _ h => (pull_sameLog h).path
  case retire => exact settle_rule hdone fun _ h => (retire_sameLog h).path
  case prune => exact settle_fst_rule hdone fun _ _ h => (prune_sameLog h).path
  case recover => exact settle_fst_rule hdone fun _ _ h => (recover_sameLog h).path
  case edit ledger => exact (edit_sameLog ledger).path
  case push input options =>
    cases hadmit : admitReplicationPush rt input options with
    | error e =>
      simp only [acceptReplicationPush, hadmit]
      exact .done db
    | ok request =>
      simp only [acceptReplicationPush, hadmit]
      exact transactions_path options 0 db request.operations (admit_admissible hadmit)

variable (rt) in
/-- RUN: a run is the path of its transactions. -/
theorem authority_run_path (db : Database) (actions : List AuthorityAction) :
    Path rt db (trace (authorityStep rt) (authorityTransactions rt) db actions)
      (run (authorityStep rt) db actions) := by
  induction actions generalizing db with
  | nil => exact .done db
  | cons action actions ih => exact (authorityStep_path db action).append (ih _)

/-! ### What a path keeps -/

/-- A verified operation carries the digest of its content. -/
theorem Admissible.digest (h : Admissible rt operation) :
    rt.operationOf operation.toUnsignedOperation = operation.operationDigest := by
  obtain ⟨_, _, _, hverified⟩ := (verifyOperation_eq_ok rt operation _).1 h.verified
  exact hverified.digest

/-- INVARIANT: after a path the store agrees with a log that extends the one before. -/
theorem Path.logged {ts : List Transaction} {history : History} (h : Path rt db ts db')
    (hlog : Logged rt db history) :
    ∃ history', Logged rt db' history' ∧ ∀ s row, history s = some row → history' s = some row := by
  induction h generalizing history with
  | done => exact ⟨history, hlog, fun _ _ hs => hs⟩
  | quiet same _ ih => exact ih (hlog.same same)
  | @transact t db' ts admissible accepted _ ih =>
    obtain ⟨authority, registration, hadmits, ⟨prior, hretry⟩ | ⟨db₁, d, c, haccepts⟩⟩ :=
      acceptOne_eq_ok.1 accepted
    · refine ih (hlog.same ?_)
      rw [hretry.after_eq]
      exact .insert hadmits.registered ⟨rfl, rfl, rfl⟩
    · obtain ⟨history', hlog', hext⟩ := ih (hlog.accept hadmits haccepts admissible.digest)
      refine ⟨history', hlog', fun s row hs => hext s row ?_⟩
      have hne : s ≠ t.db.sequence + 1 := by
        have := ((hlog.filled s).1 ⟨row, hs⟩).2
        omega
      rw [Function.update_of_ne hne, hs]

end Tasq
