import Mathlib.Tactic
import Tasq.Replication.Acceptance

/-! The producer and the verifier of an operation: what queueing stores, and when the verifier takes
    it.

    The task service and the verifier derive the effect of a command on their own. `Agrees` names
    the two places where they part: metadata whose keys a patch only reorders, and a tombstone of
    time zero. -/

namespace Tasq

open Text Outcome

variable {rt : Runtime} {db db' : Database} {command : ReplicationCommand}
  {context : ReplicatedMutationContext} {result : QueueReplicationResult}

/-! ### What queueing does -/

/-- The operation that queueing builds, before it is signed. -/
def queuedOperation (rt : Runtime) (localReplica : LocalReplica) (command : ReplicationCommand)
    (context : ReplicatedMutationContext) (before : Option ReplicatedCommitmentSnapshot)
    (after : ReplicatedCommitmentSnapshot) : UnsignedOperation where
  workspaceId := context.workspaceId
  origin := ⟨localReplica.replicaId, localReplica.generationId, localReplica.nextCounter,
    localReplica.previousDigest⟩
  causalBase := ⟨localReplica.authorityReplicaId, localReplica.authorityEpoch,
    localReplica.observedSequence⟩
  callerPrincipalId := operationCaller rt context
  command := command
  preconditions := [recordStateOf rt (operationRecordId command) before]
  outcomes := [recordStateOf rt (operationRecordId command) (some after)]
  occurredAt := context.now

/-- The outgoing row that queueing writes. -/
def queuedRow (rt : Runtime) (unsigned : UnsignedOperation) (previousDigest : Option Digest)
    (now : UnixMs) : OutgoingRow where
  operationDigest := rt.operationOf unsigned
  previousDigest := previousDigest
  operation := canonical (signedOperation rt unsigned)
  status := .pending
  authoritySequence := none
  createdAt := now
  updatedAt := now

/-- The local replica after queueing an operation. -/
def LocalReplica.advanced (localReplica : LocalReplica) (digest : Digest) (now : UnixMs) :
    LocalReplica :=
  { localReplica with
    nextCounter := localReplica.nextCounter + 1, previousDigest := some digest, updatedAt := now }

/-- Everything that a completed `queueCommand` read and wrote. -/
structure Queues (rt : Runtime) (db db' : Database) (command : ReplicationCommand)
    (context : ReplicatedMutationContext) (result : QueueReplicationResult)
    (localReplica : LocalReplica) (before : Option ReplicatedCommitmentSnapshot)
    (unsigned : UnsignedOperation) : Prop where
  workspace : context.workspaceId = db.workspaceId
  replica : db.localReplica = some localReplica
  clock : context.now ≤ Json.maxSafeInteger
  before_eq : getProjection db.ledger (operationRecordId command) = .ok before
  applied : applyCommandInTransaction rt db.ledger command
    ⟨context.actor, context.principalId, context.now⟩ = .ok (db'.ledger, result.commitment)
  unsigned_eq : unsigned = queuedOperation rt localReplica command context before result.commitment
  safe_before : ∀ s ∈ before, safe (semanticState s) = true
  safe_after : safe (semanticState result.commitment) = true
  safe_unsigned : safe unsigned = true
  wellFormed : unsigned.WellFormed
  signed : result.operation = signedOperation rt unsigned
  fresh : localReplica.nextCounter ∉ db.outgoing
  fresh_digest : ∀ (c : ℕ) row, db.outgoing[c]? = some row →
    row.operationDigest ≠ rt.operationOf unsigned
  after_eq : db' = { db with
    ledger := db'.ledger
    outgoing := db.outgoing.insert localReplica.nextCounter
      (queuedRow rt unsigned localReplica.previousDigest context.now)
    localReplica := some (localReplica.advanced (rt.operationOf unsigned) context.now) }

theorem queueCommand_queues (h : queueCommand rt db command context = .ok (db', result)) :
    ∃ localReplica before unsigned,
      Queues rt db db' command context result localReplica before unsigned := by
  simp only [queueCommand, bind_eq_ok, clockSnapshot_eq_ok, Database.requireLocalReplica_eq_ok,
    recordState_eq_ok, signOperation_eq_ok, replicationCanonicalJson_eq_ok, refuse_eq_ok,
    Database.insertOutgoing_eq_ok, Prod.exists, pure_eq_ok, Prod.mk.injEq] at h
  obtain ⟨-, -, -, -, -, -, _, ⟨hnow, rfl⟩, localReplica, ⟨hworkspace, hreplica⟩, before, hbefore, -,
    -, ledger, after, happly, _, ⟨hpre, rfl⟩, _, ⟨hpost, rfl⟩, operation, ⟨hsafe, hwf, rfl⟩, _,
    ⟨-, rfl⟩, -, -, _, ⟨hfresh, hdigest, rfl⟩, rfl, rfl⟩ := h
  exact ⟨localReplica, before, queuedOperation rt localReplica command context before after,
    hworkspace, hreplica, hnow, hbefore, happly, rfl, hpre, hpost _ rfl, hsafe, hwf, rfl, hfresh,
    hdigest, rfl⟩

/-! ### Where the two derivations agree -/

/-- The task service and the verifier make the same of the command: a patch that changes the text
    of metadata without changing its canonical form leaves a mark in the recorded time alone, and
    a tombstone of time zero is restored by the verifier only. -/
def Agrees (command : ReplicationCommand) (now : UnixMs) :
    Option ReplicatedCommitmentSnapshot → Prop
  | none => True
  | some base =>
    match command with
    | .updateCommitment _ patch =>
      patch.1.apply base.toCommitmentFields ≠ base.toCommitmentFields →
        canonical (patch.1.apply base.toCommitmentFields) = canonical base.toCommitmentFields →
        base.updatedAt = now
    | .restoreCommitment _ => base.deletedAt ≠ some 0
    | _ => True

/-- What the verifier derives does not depend on the order of keys. -/
theorem expectedSnapshot_canonical (command : ReplicationCommand)
    (base : Option ReplicatedCommitmentSnapshot) (now : UnixMs) :
    expectedSnapshot (canonical command) (canonical base) now =
      canonical <$> expectedSnapshot command base now := by
  cases command with
  | createCommitment input => cases base <;> rfl
  | updateCommitment id patch =>
    cases base with
    | none => rfl
    | some s =>
      have hdiffers : (canonical patch.1).differs (fun m n => canonical m = canonical n)
          (canonical s.toCommitmentFields) =
          patch.1.differs (fun m n => canonical m = canonical n) s.toCommitmentFields := by
        rw [Bool.eq_iff_iff, ReplicatedCommitmentPatch.differs_canonical,
          ReplicatedCommitmentPatch.differs_canonical, ReplicatedCommitmentPatch.canonical_apply]
        simp
      exact congrArg₂ (fun fields changed => Except.ok { canonical s with
        toCommitmentFields := fields, updatedAt := if changed = true then now else s.updatedAt })
        (patch.1.canonical_apply s.toCommitmentFields) hdiffers
  | deleteCommitment id =>
    cases base with
    | none => rfl
    | some s => obtain ⟨_, _, _, _, _, deletedAt⟩ := s; cases deletedAt <;> rfl
  | restoreCommitment id =>
    cases base with
    | none => rfl
    | some s => obtain ⟨_, _, _, _, _, deletedAt⟩ := s; cases deletedAt <;> rfl

/-- AGREEMENT: the verifier derives the outcome of the service exactly when the two agree. -/
theorem expectedSnapshot_iff {now : UnixMs} {base : Option ReplicatedCommitmentSnapshot}
    {after : ReplicatedCommitmentSnapshot} (h : serviceOutcome command now base = some after) :
    (∃ expected, expectedSnapshot command base now = .ok expected ∧
      canonical expected = canonical after) ↔ Agrees command now base := by
  cases command with
  | createCommitment input =>
    cases base with
    | some s => cases h
    | none =>
      obtain rfl := Option.some.inj h
      exact ⟨fun _ => trivial, fun _ => ⟨_, rfl, rfl⟩⟩
  | updateCommitment id patch =>
    cases base with
    | none => cases h
    | some s =>
      obtain rfl := Option.some.inj h
      simp only [expectedSnapshot, demand, ok_bind, pure_eq_ok, exists_eq_left', Agrees,
        ReplicatedCommitmentPatch.differs_canonical]
      by_cases hsame : patch.1.apply s.toCommitmentFields = s.toCommitmentFields
      · simp [hsame]
      · by_cases hcanonical :
          canonical (patch.1.apply s.toCommitmentFields) = canonical s.toCommitmentFields
        · simp only [hsame, hcanonical, ne_eq, not_true_eq_false, if_false, not_false_eq_true,
            forall_const]
          exact ⟨fun heq => congrArg ReplicatedCommitmentSnapshot.updatedAt heq,
            fun heq => by rw [heq]⟩
        · simp [hsame, hcanonical]
  | deleteCommitment id =>
    cases base with
    | none => cases h
    | some s =>
      obtain rfl := Option.some.inj h
      exact ⟨fun _ => trivial, fun _ => ⟨_, rfl, rfl⟩⟩
  | restoreCommitment id =>
    cases base with
    | none => cases h
    | some s =>
      obtain rfl := Option.some.inj h
      simp only [expectedSnapshot, demand, ok_bind, pure_eq_ok, exists_eq_left', Agrees]
      obtain hlive | ⟨n, hdead⟩ := Option.eq_none_or_eq_some s.deletedAt
      · simp [hlive, truthy]
      · by_cases hzero : n = 0
        · subst hzero
          simp only [hdead, truthy, ne_eq, reduceCtorEq, not_false_eq_true, if_true, Option.any_some,
            not_true_eq_false, decide_false, Bool.false_eq_true, if_false, iff_false]
          intro heq
          have := congrArg ReplicatedCommitmentSnapshot.deletedAt heq
          exact absurd (this.trans hdead) (by simp)
        · simp [hdead, truthy, hzero]

/-! ### The stored operation against the verifier -/

/-- What makes the verifier take a queued operation: texts that parsing leaves as they are, and a
    command on which the two derivations agree. -/
structure Verifiable (rt : Runtime) (db : Database) (command : ReplicationCommand)
    (context : ReplicatedMutationContext) : Prop where
  workspace : jsTrim context.workspaceId = context.workspaceId
  caller : jsTrim (operationCaller rt context) = operationCaller rt context
  agrees : ∀ before, getProjection db.ledger (operationRecordId command) = .ok before →
    Agrees command context.now before

/-- A record state that carries the digest of its own snapshot keeps it in canonical form. -/
theorem recordStateOf_digested {recordId : UuidV7} {s : Option ReplicatedCommitmentSnapshot}
    (h : ∀ t ∈ s, safe (semanticState t) = true) :
    (canonical (recordStateOf rt recordId s)).Digested rt := by
  constructor
  · intro t ht
    obtain ⟨t₀, ht₀, rfl⟩ := Option.map_eq_some_iff.1 ht
    rw [semanticState_canonical, CanonicalJson.safe_canonical]
    exact h t₀ ht₀
  · cases s with
    | none => rfl
    | some t => exact congrArg some (rt.stateOf_canonical t).symm

/-- The digest of an operation survives parsing exactly when parsing changes no text. -/
theorem operationOf_trimmed (hcf : rt.CollisionFree) (u : UnsignedOperation) :
    rt.operationOf u.trimmed = rt.operationOf u ↔
      jsTrim u.workspaceId = u.workspaceId ∧ jsTrim u.callerPrincipalId = u.callerPrincipalId := by
  rw [hcf.operation_eq]
  constructor
  · intro h
    exact ⟨congrArg UnsignedOperation.workspaceId h, congrArg UnsignedOperation.callerPrincipalId h⟩
  · rintro ⟨hw, hc⟩
    rw [UnsignedOperation.trimmed, hw, hc]

section

variable {localReplica : LocalReplica} {before : Option ReplicatedCommitmentSnapshot}
  {unsigned : UnsignedOperation}

theorem Queues.outcome
    (hq : Queues rt db db' command context result localReplica before unsigned) :
    serviceOutcome command context.now before = some result.commitment := by
  obtain ⟨b, hb, hout⟩ := apply_outcome hq.applied
  rw [hq.before_eq, Except.ok.injEq] at hb
  exact hb ▸ hout

/-- The stored operation of a queue step against the verifier. -/
theorem Queues.verified_iff (hcf : rt.CollisionFree)
    (hq : Queues rt db db' command context result localReplica before unsigned) :
    (∃ precondition outcome intended,
        Verified rt (canonical (signedOperation rt unsigned)) precondition outcome intended) ↔
      (jsTrim context.workspaceId = context.workspaceId ∧
        jsTrim (operationCaller rt context) = operationCaller rt context) ∧
        Agrees command context.now before := by
  have htexts := operationOf_trimmed hcf unsigned
  rw [hq.unsigned_eq] at htexts
  rw [← expectedSnapshot_iff hq.outcome]
  constructor
  · rintro ⟨precondition, outcome, intended, hv⟩
    have hdigest : rt.operationOf (canonical unsigned.trimmed) = rt.operationOf unsigned := hv.digest
    rw [Runtime.operationOf_canonical, hq.unsigned_eq] at hdigest
    have hpre := hv.preconditions
    have hout := hv.outcomes
    obtain ⟨expected, hexpected, hcanonical⟩ := hv.derived
    have hintended := hv.intended_eq
    rw [hq.unsigned_eq] at hpre hout hexpected
    obtain rfl := List.head_eq_of_cons_eq hpre
    obtain rfl := List.head_eq_of_cons_eq hout
    obtain rfl := Option.some.inj hintended
    change expectedSnapshot (canonical command) (canonical before) context.now = _ at hexpected
    rw [expectedSnapshot_canonical, map_eq_ok] at hexpected
    obtain ⟨derived, hderived, rfl⟩ := hexpected
    refine ⟨htexts.1 hdigest, derived, hderived, ?_⟩
    simpa using hcanonical
  · rintro ⟨htrimmed, derived, hderived, hcanonical⟩
    have hsafe : safe result.commitment = true := by
      have := hq.safe_unsigned
      rw [hq.unsigned_eq] at this
      simp only [safe, queuedOperation, recordStateOf, Bool.and_eq_true, List.all_cons,
        Option.all_some, List.all_nil] at this ⊢
      exact this.1.2.1
    refine ⟨canonical (recordStateOf rt (operationRecordId command) before),
      canonical (recordStateOf rt (operationRecordId command) (some result.commitment)),
      canonical result.commitment, ?_⟩
    constructor
    case safe_unsigned =>
      change safe (canonical unsigned.trimmed) = true
      simpa using hq.safe_unsigned
    case digest =>
      change rt.operationOf (canonical unsigned.trimmed) = rt.operationOf unsigned
      rw [Runtime.operationOf_canonical, hq.unsigned_eq, htexts.2 htrimmed]
    case preconditions => rw [hq.unsigned_eq]; rfl
    case outcomes => rw [hq.unsigned_eq]; rfl
    case precondition_id => rw [hq.unsigned_eq]; exact (operationRecordId_canonical command).symm
    case outcome_id => rw [hq.unsigned_eq]; exact (operationRecordId_canonical command).symm
    case precondition_digest => exact recordStateOf_digested hq.safe_before
    case outcome_digest =>
      exact recordStateOf_digested fun t ht => Option.some.inj ht ▸ hq.safe_after
    case intended_eq => rfl
    case safe_intended => simpa using hsafe
    case derived =>
      refine ⟨canonical derived, ?_, by rw [hcanonical]⟩
      rw [hq.unsigned_eq]
      change expectedSnapshot (canonical command) (canonical before) context.now = _
      rw [expectedSnapshot_canonical, hderived]
      rfl

end

/-- AGREEMENT: the verifier takes a stored operation exactly when it is verifiable. -/
theorem queued_verified_iff (hcf : rt.CollisionFree)
    (h : queueCommand rt db command context = .ok (db', result)) :
    ∃ row stored, db'.outgoing[result.operation.origin.counter]? = some row ∧
      row.operation.parse = .ok stored ∧
      (verifyOperation rt stored = .ok () ↔ Verifiable rt db command context) := by
  obtain ⟨localReplica, before, unsigned, hq⟩ := queueCommand_queues h
  refine ⟨queuedRow rt unsigned localReplica.previousDigest context.now,
    canonical (signedOperation rt unsigned), ?_, ?_, ?_⟩
  · rw [hq.after_eq, hq.signed, hq.unsigned_eq]
    exact Std.ExtTreeMap.getElem?_insert_self
  · exact signedOperation_stored rt hq.wellFormed
  rw [verifyOperation_eq_ok, hq.verified_iff hcf]
  constructor
  · rintro ⟨⟨hw, hc⟩, hagrees⟩
    refine ⟨hw, hc, fun b hb => ?_⟩
    rw [hq.before_eq, Except.ok.injEq] at hb
    exact hb ▸ hagrees
  · intro hv
    exact ⟨⟨hv.workspace, hv.caller⟩, hv.agrees before hq.before_eq⟩

theorem queued_verified_iff_create :
    ∃ db db' result, plainReplica = .ok db ∧
      queueCommand idealRuntime db createSeven (localAt 10) = .ok (db', result) ∧
      ∃ row stored, db'.outgoing[result.operation.origin.counter]? = some row ∧
        row.operation.parse = .ok stored ∧ (verifyOperation idealRuntime stored = .ok () ↔
          Verifiable idealRuntime db createSeven (localAt 10)) := by
  obtain ⟨⟨db', result⟩, h, -⟩ : Ends
      (plainReplica >>= fun db => queueCommand idealRuntime db createSeven (localAt 10))
      fun _ => True := by decide +kernel
  obtain ⟨db, hdb, h⟩ := (bind_eq_ok _ _ _).1 h
  exact ⟨db, db', result, hdb, h, queued_verified_iff idealRuntime_collisionFree h⟩

/-- A patch that only reorders the keys of metadata: queued, and refused by the verifier. -/
theorem reordered_metadata_refused :
    Ends (do
      let db ← plainReplica
      let (db, _) ← queueCommand idealRuntime db
        (.createCommitment (plainCommitment 7 ⟨"t", by decide⟩ ⟨[("b", .num 2), ("a", .num 1)]⟩))
        (localAt 10)
      queueCommand idealRuntime db
        (.updateCommitment 7 ⟨{ metadata := some ⟨[("a", .num 1), ("b", .num 2)]⟩ }, by decide⟩)
        (localAt 20))
      fun (db, _) =>
        (db.outgoing[2]?.map fun row => row.operation.parse >>= verifyOperation idealRuntime) =
          some (.error (.protocol .operationDigestMismatch
            "Declared outcome is not the deterministic result of the explicit command and base")) := by
  decide +kernel

end Tasq
