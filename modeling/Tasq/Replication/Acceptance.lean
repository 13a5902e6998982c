import Mathlib.Tactic
import Tasq.Ideal
import Tasq.Replication.Authority
import Tasq.Replication.Effect

/-! What accepting an operation does: exactly when it completes, and what it leaves.

    `Admits` are the checks on the origin, `Classified` the three dispositions with their effects,
    `Accepts` a first acceptance and `Retries` the answer to an operation whose dot is known.
    `acceptOne_eq_ok` puts them together; nothing after this module opens `acceptOneOperation`. -/

namespace Tasq

open Text Outcome

variable {rt : Runtime} {db db' db₁ : Database} {operation : ReplicationOperation}
  {ctx : AcceptContext} {result : ReplicationOperationResult}

/-! ### Admission -/

/-- The checks on the origin of an operation. -/
structure Admits (db : Database) (operation : ReplicationOperation) (ctx : AcceptContext)
    (authority : ReplicationAuthority) (registration : ReplicaRow) : Prop where
  clock : ctx.now ≤ Json.maxSafeInteger
  workspace : operation.workspaceId = db.workspaceId
  authority_eq : db.authority = some authority
  authorityReplica : operation.causalBase.authorityReplicaId = authority.authorityReplicaId
  epoch : operation.causalBase.authorityEpoch = authority.authorityEpoch
  observed : operation.causalBase.observedSequence ≤ authority.currentSequence
  registered : db.replicas[operation.origin.generation]? = some registration
  principal : registration.principalId = ctx.authenticatedPrincipalId
  active : registration.status = .active
  contact : ¬ registration.Silent ctx.now

theorem ReplicaStatus.eq_active {s : ReplicaStatus} (h : s ≠ .revoked) (h' : s ≠ .stale) :
    s = .active := by
  cases s <;> simp_all

theorem Database.requireRegistration_eq_ok {texts : RegistrationTexts} {workspaceId : String}
    {key : Generation} {principalId : String} {now : UnixMs} {row : ReplicaRow} :
    db.requireRegistration texts workspaceId key principalId now = .ok row ↔
      workspaceId = db.workspaceId ∧ db.replicas[key]? = some row ∧
        row.principalId = principalId ∧ row.status = .active ∧ ¬ row.Silent now := by
  simp only [requireRegistration, bind_eq_ok, demand_eq_ok, within_eq_some, refuse_eq_ok, not_not,
    pure_eq_ok, exists_const, not_or]
  constructor
  · rintro ⟨row', ⟨hw, hrow⟩, hp, hrevoked, ⟨hstale, hsilent⟩, rfl⟩
    exact ⟨hw, hrow, hp, ReplicaStatus.eq_active hrevoked hstale, hsilent⟩
  · rintro ⟨hw, hrow, hp, hactive, hsilent⟩
    exact ⟨row, ⟨hw, hrow⟩, hp, by simp [hactive], ⟨by simp [hactive], hsilent⟩, rfl⟩

/-! ### Classification -/

/-- The conflict that an operation on a stale base or a retired identity leaves. -/
def conflictOf (operation : ReplicationOperation) (ctx : AcceptContext) (sequence : ℕ)
    (now : UnixMs) (retired : Prop) [Decidable retired]
    (base authority incoming : Option ReplicatedCommitmentSnapshot) : ReplicationConflict where
  id := ctx.conflictId
  workspaceId := operation.workspaceId
  authoritySequence := sequence
  replicaId := operation.origin.replicaId
  generationId := operation.origin.generationId
  counter := operation.origin.counter
  operationDigest := operation.operationDigest
  recordId := operationRecordId operation.command
  reason := if retired then .retiredIdentity else .concurrentMutation
  baseSnapshot := base
  authoritySnapshot := authority
  incomingSnapshot := incoming
  principalId := ctx.authenticatedPrincipalId
  recordedAt := now
  resolvedByOperationDigest := none

/-- The three dispositions of an operation, each with what it leaves. -/
inductive Classified (rt : Runtime) (db : Database) (operation : ReplicationOperation)
    (ctx : AcceptContext) (sequence : ℕ) (now : UnixMs)
    (current : Option ReplicatedCommitmentSnapshot)
    (precondition intended : ReplicationRecordState) :
    Database → ReplicationDisposition → Option ReplicationConflict → Prop where
  | equivalent (same : current.map rt.stateOf = intended.stateDigest) (present : current ≠ none) :
    Classified rt db operation ctx sequence now current precondition intended db .equivalent none
  | conflicted {conflict : ReplicationConflict} {db₁ : Database}
    (different : ¬ (current.map rt.stateOf = intended.stateDigest ∧ current ≠ none))
    (stale : operationRecordId operation.command ∈ db.retired ∨
      current.map rt.stateOf ≠ precondition.stateDigest)
    (parsed : ReplicationConflict.parse (conflictOf operation ctx sequence now
      (operationRecordId operation.command ∈ db.retired) precondition.snapshot current
      intended.snapshot) = .ok conflict)
    (safe_snapshots : safe conflict.baseSnapshot = true ∧ safe conflict.authoritySnapshot = true ∧
      safe conflict.incomingSnapshot = true)
    (inserted : db.insertConflict conflict.stored = .ok db₁) :
    Classified rt db operation ctx sequence now current precondition intended db₁ .conflicted
      (some conflict)
  | applied {ledger : Ledger} {snapshot : ReplicatedCommitmentSnapshot}
    (different : ¬ (current.map rt.stateOf = intended.stateDigest ∧ current ≠ none))
    (live : operationRecordId operation.command ∉ db.retired)
    (fresh : current.map rt.stateOf = precondition.stateDigest)
    (effect : applyCommandInTransaction rt db.ledger operation.command
      ⟨ctx.actor, some (ctx.domainPrincipalId.getD ctx.authenticatedPrincipalId), now⟩ =
        .ok (ledger, snapshot))
    (safe_snapshot : safe (semanticState snapshot) = true)
    (declared : some (rt.stateOf snapshot) = intended.stateDigest) :
    Classified rt db operation ctx sequence now current precondition intended
      { db with ledger := ledger } .applied none

theorem classify_eq_ok {sequence : ℕ} {now : UnixMs} {d : ReplicationDisposition}
    {c : Option ReplicationConflict} :
    classifyOperation rt db operation ctx sequence now = .ok (db₁, d, c) ↔
      ∃ precondition intended current, operation.preconditions.head? = some precondition ∧
        operation.outcomes.head? = some intended ∧
        getProjection db.ledger (operationRecordId operation.command) = .ok current ∧
        (∀ s ∈ current, safe (semanticState s) = true) ∧
        Classified rt db operation ctx sequence now current precondition intended db₁ d c := by
  simp only [classifyOperation, bind_eq_ok, demand_eq_ok, recordState_eq_ok]
  constructor
  · rintro ⟨precondition, hpre, intended, hout, current, hcurrent, _, ⟨hsafe, rfl⟩, h⟩
    refine ⟨precondition, intended, current, hpre, hout, hcurrent, hsafe, ?_⟩
    split at h
    · rename_i hsame
      simp only [pure_eq_ok, Prod.mk.injEq] at h
      obtain ⟨rfl, rfl, rfl⟩ := h
      exact .equivalent hsame.1 (by simpa [recordStateOf] using hsame.2)
    rename_i hdifferent
    replace hdifferent : ¬ (current.map rt.stateOf = intended.stateDigest ∧ current ≠ none) := by
      simpa [recordStateOf] using hdifferent
    split at h
    · rename_i hstale
      simp only [bind_eq_ok, replicationCanonicalJson_eq_ok, pure_eq_ok, Prod.mk.injEq] at h
      obtain ⟨conflict, hparsed, _, ⟨hb, rfl⟩, _, ⟨ha, rfl⟩, _, ⟨hi, rfl⟩, _, hinserted, rfl, rfl,
        rfl⟩ := h
      exact .conflicted hdifferent hstale hparsed ⟨hb, ha, hi⟩ hinserted
    · rename_i hfresh
      rw [not_or, not_not] at hfresh
      simp only [bind_eq_ok, Prod.exists, stateDigest_eq_ok, refuse_eq_ok, not_not, pure_eq_ok,
        Prod.mk.injEq] at h
      obtain ⟨ledger, snapshot, heffect, _, ⟨hs, rfl⟩, -, hdeclared, rfl, rfl, rfl⟩ := h
      exact .applied hdifferent hfresh.1 hfresh.2 heffect hs hdeclared
  · rintro ⟨precondition, intended, current, hpre, hout, hcurrent, hsafe, h⟩
    refine ⟨precondition, hpre, intended, hout, current, hcurrent, _, ⟨hsafe, rfl⟩, ?_⟩
    cases h with
    | equivalent same present => rw [if_pos ⟨same, by simpa [recordStateOf] using present⟩]; rfl
    | conflicted different stale parsed safe_snapshots inserted =>
      rw [if_neg (by simpa [recordStateOf] using different), if_pos (by exact stale)]
      simp only [bind_eq_ok, replicationCanonicalJson_eq_ok, pure_eq_ok, Prod.mk.injEq]
      exact ⟨_, parsed, _, ⟨safe_snapshots.1, rfl⟩, _, ⟨safe_snapshots.2.1, rfl⟩, _,
        ⟨safe_snapshots.2.2, rfl⟩, _, inserted, rfl, trivial, rfl⟩
    | applied different live fresh effect safe_snapshot declared =>
      rw [if_neg (by simpa [recordStateOf] using different),
        if_neg (by simp [live, fresh, recordStateOf])]
      simp only [bind_eq_ok, Prod.exists, stateDigest_eq_ok, refuse_eq_ok, not_not, pure_eq_ok,
        Prod.mk.injEq]
      exact ⟨_, _, effect, _, ⟨safe_snapshot, rfl⟩, (), declared, rfl, trivial⟩

section

variable {sequence : ℕ} {now : UnixMs} {current : Option ReplicatedCommitmentSnapshot}
  {precondition intended : ReplicationRecordState} {d : ReplicationDisposition}
  {c : Option ReplicationConflict}

/-- FRAME: classifying touches the ledger and the conflicts. -/
theorem Classified.frame
    (h : Classified rt db operation ctx sequence now current precondition intended db₁ d c) :
    db₁ = { db with ledger := db₁.ledger, conflicts := db₁.conflicts } := by
  cases h with
  | equivalent => rfl
  | conflicted _ _ _ _ inserted =>
    obtain ⟨-, -, -, rfl⟩ := Database.insertConflict_eq_ok.1 inserted
    rfl
  | applied => rfl

/-- FRAME: classifying adds at most the conflict of its sequence. -/
theorem Classified.conflicts
    (h : Classified rt db operation ctx sequence now current precondition intended db₁ d c) {s : ℕ}
    {conflict : ReplicationConflict} (hs : db₁.conflicts[s]? = some conflict) :
    db.conflicts[s]? = some conflict ∨ s = sequence := by
  cases h with
  | equivalent => exact .inl hs
  | conflicted _ _ parsed _ inserted =>
    obtain ⟨-, -, -, rfl⟩ := Database.insertConflict_eq_ok.1 inserted
    obtain ⟨-, rfl⟩ := (ReplicationConflict.parse_eq_ok _ _).1 parsed
    rw [Table.getElem?_insert'] at hs
    split at hs
    · rename_i heq
      exact .inr heq.symm
    · exact .inl hs
  | applied => exact .inl hs

/-- FRAME: only an applied operation touches the ledger. -/
theorem Classified.ledger_eq
    (h : Classified rt db operation ctx sequence now current precondition intended db₁ d c)
    (hd : d ≠ .applied) : db₁.ledger = db.ledger := by
  cases h with
  | equivalent => rfl
  | conflicted _ _ _ _ inserted =>
    obtain ⟨-, -, -, rfl⟩ := Database.insertConflict_eq_ok.1 inserted
    rfl
  | applied => exact absurd rfl hd

end

/-! ### Acceptance -/

/-- The result of a first acceptance. -/
def resultOf (operation : ReplicationOperation) (sequence : ℕ) (disposition : ReplicationDisposition)
    (conflict : Option ReplicationConflict) : ReplicationOperationResult where
  replicaId := operation.origin.replicaId
  generationId := operation.origin.generationId
  counter := operation.origin.counter
  operationDigest := operation.operationDigest
  disposition := disposition
  authoritySequence := sequence
  conflict := conflict

/-- The row of a first acceptance. -/
def acceptedRowOf (operation : ReplicationOperation) (result : ReplicationOperationResult)
    (now : UnixMs) : AcceptedRow where
  replicaId := operation.origin.replicaId
  generationId := operation.origin.generationId
  counter := operation.origin.counter
  operationDigest := operation.operationDigest
  operation := canonical operation
  disposition := result.disposition
  result := canonical result
  recordedAt := now

/-- The registration after a first acceptance. -/
def ReplicaRow.accepting (row : ReplicaRow) (operation : ReplicationOperation) (now : UnixMs) :
    ReplicaRow :=
  { row.contacted now with
    acceptedCounter := operation.origin.counter
    acceptedDigest := some operation.operationDigest }

/-- The answer to an operation whose dot is known. -/
structure Retries (db : Database) (operation : ReplicationOperation) (ctx : AcceptContext)
    (registration : ReplicaRow) (prior : AcceptedRow) (db' : Database)
    (result : ReplicationOperationResult) : Prop where
  known : db.acceptedAt operation.origin = some prior
  digest : prior.operationDigest = operation.operationDigest
  persisted : persistSignedOrigin ctx.signedOrigin = .ok ()
  wellFormed : prior.result.WellFormed
  result_eq : result = prior.result.trimmed
  after_eq : db' = { db with
    replicas := db.replicas.insert operation.origin.generation (registration.contacted ctx.now) }

/-- A first acceptance, with the store after the effect. -/
structure Accepts (rt : Runtime) (db : Database) (operation : ReplicationOperation)
    (ctx : AcceptContext) (authority : ReplicationAuthority) (registration : ReplicaRow)
    (db₁ : Database) (disposition : ReplicationDisposition) (conflict : Option ReplicationConflict)
    (db' : Database) (result : ReplicationOperationResult) : Prop where
  unknown : db.acceptedAt operation.origin = none
  counter : operation.origin.counter = registration.acceptedCounter + 1
  predecessor : operation.origin.previousDigest = registration.acceptedDigest
  classified : classifyOperation rt db operation ctx (authority.currentSequence + 1) ctx.now =
    .ok (db₁, disposition, conflict)
  wellFormed : (resultOf operation (authority.currentSequence + 1) disposition conflict).WellFormed
  result_eq : result =
    (resultOf operation (authority.currentSequence + 1) disposition conflict).trimmed
  safe_operation : safe operation = true
  safe_result : safe result = true
  persisted : persistSignedOrigin ctx.signedOrigin = .ok ()
  fresh_sequence : authority.currentSequence + 1 ∉ db₁.accepted
  fresh_dot : ∀ (s : ℕ) r, db₁.accepted[s]? = some r → ¬ (r.replicaId = operation.origin.replicaId ∧
    r.generationId = operation.origin.generationId ∧ r.counter = operation.origin.counter)
  fresh_digest : ∀ (s : ℕ) r, db₁.accepted[s]? = some r →
    r.operationDigest ≠ operation.operationDigest
  after_eq : db' = { db₁ with
    accepted := db₁.accepted.insert (authority.currentSequence + 1)
      (acceptedRowOf operation result ctx.now)
    authority := some { authority with
      currentSequence := authority.currentSequence + 1, updatedAt := ctx.now }
    replicas := db₁.replicas.insert operation.origin.generation
      (registration.accepting operation ctx.now) }

/-- ACCEPT: completes exactly on an admitted operation that is a retry or a first acceptance. -/
theorem acceptOne_eq_ok :
    acceptOneOperation rt db operation ctx = .ok (db', result) ↔
      ∃ authority registration, Admits db operation ctx authority registration ∧
        ((∃ prior, Retries db operation ctx registration prior db' result) ∨
          ∃ db₁ d c, Accepts rt db operation ctx authority registration db₁ d c db' result) := by
  simp only [acceptOneOperation, bind_eq_ok, clockSnapshot_eq_ok, Database.requireAuthority_eq_ok,
    Database.requireRegistration_eq_ok, refuse_eq_ok, not_or, not_not, not_lt, gt_iff_lt, ne_eq]
  constructor
  · rintro ⟨_, ⟨hclock, rfl⟩, authority, ⟨hworkspace, hauthority⟩, -, ⟨hreplica, hepoch⟩, -, hobserved,
      registration, ⟨-, hregistered, hprincipal, hactive, hcontact⟩, h⟩
    refine ⟨authority, registration, ⟨hclock, hworkspace, hauthority, hreplica, hepoch, hobserved,
      hregistered, hprincipal, hactive, hcontact⟩, ?_⟩
    split at h
    · rename_i prior hprior
      simp only [bind_eq_ok, refuse_eq_ok, not_not, ReplicationOperationResult.parse_eq_ok, pure_eq_ok,
        Prod.mk.injEq] at h
      obtain ⟨-, hdigest, _, hpersist, _, ⟨hwf, rfl⟩, rfl, rfl⟩ := h
      exact .inl ⟨prior, hprior, hdigest, hpersist, hwf, rfl, rfl⟩
    · rename_i hunknown
      simp only [bind_eq_ok, refuse_eq_ok, not_not, ReplicationOperationResult.parse_eq_ok, Prod.exists,
        replicationCanonicalJson_eq_ok, Database.insertAccepted_eq_ok, pure_eq_ok,
        Prod.mk.injEq] at h
      obtain ⟨-, hcounter, -, hpredecessor, db₁, d, c, hclassified, _, ⟨hwf, rfl⟩, _, ⟨hso, rfl⟩, _,
        ⟨hsr, rfl⟩, _, ⟨hseq, hdot, hdigest, rfl⟩, _, hpersist, rfl, rfl⟩ := h
      exact .inr ⟨db₁, d, c, hunknown, hcounter, hpredecessor, hclassified, hwf, rfl, hso, hsr,
        hpersist, hseq, hdot, hdigest, rfl⟩
  · rintro ⟨authority, registration, ha, h⟩
    refine ⟨_, ⟨ha.clock, rfl⟩, authority, ⟨ha.workspace, ha.authority_eq⟩, (),
      ⟨ha.authorityReplica, ha.epoch⟩, (), ha.observed, registration,
      ⟨ha.workspace, ha.registered, ha.principal, ha.active, ha.contact⟩, ?_⟩
    obtain ⟨prior, h⟩ | ⟨db₁, d, c, h⟩ := h
    · rw [h.known]
      simp only [bind_eq_ok, refuse_eq_ok, not_not, ReplicationOperationResult.parse_eq_ok, pure_eq_ok, Prod.mk.injEq]
      exact ⟨(), h.digest, (), h.persisted, _, ⟨h.wellFormed, rfl⟩, h.after_eq.symm, h.result_eq.symm⟩
    · rw [h.unknown]
      simp only [bind_eq_ok, refuse_eq_ok, not_not, ReplicationOperationResult.parse_eq_ok, Prod.exists,
        replicationCanonicalJson_eq_ok, Database.insertAccepted_eq_ok, pure_eq_ok, Prod.mk.injEq]
      exact ⟨(), h.counter, (), h.predecessor, db₁, d, c, h.classified, _, ⟨h.wellFormed, rfl⟩, _,
        ⟨h.safe_operation, rfl⟩, _, ⟨h.result_eq ▸ h.safe_result, rfl⟩, _,
        ⟨h.fresh_sequence, h.fresh_dot, h.fresh_digest, rfl⟩, (), h.persisted,
        by rw [h.after_eq, h.result_eq]; rfl, h.result_eq.symm⟩

/-! ### Two stores to run with -/

/-- An authority that serves replica 1 of principal `p`. -/
def plainAuthority : Call Database := do
  let db ← initializeReplicationAuthority .plain "w" 2 3 5
  registerReplicationReplica db "w" 1 1 "p" 6

/-- Replica 1 of principal `p`. -/
def plainReplica : Call Database := initializeLocalReplica .plain "w" 1 1 2 3 0 none 5

/-- A local command of principal `p`. -/
def localAt (now : UnixMs) : ReplicatedMutationContext := ⟨"w", "p", some "p", now⟩

/-- A push of principal `p`. -/
def servedAt (now : UnixMs) : AcceptContext := ⟨"p", none, "p", now, now, none⟩

end Tasq
