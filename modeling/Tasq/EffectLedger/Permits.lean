import Mathlib.Tactic
import Tasq.EffectLedger.Execution

/-! Permits: all permits of an effect bind the same dispatch, whichever call answers them; a
    connector accepts one only before the expiries that it was issued with; a resolved effect gets
    none. -/

namespace Tasq

open Text Outcome Run Chain

/-- What a permit binds. -/
structure DispatchBinding where
  dispatchIdempotencyKey : String
  requestDigest : Digest
  approvalId : UuidV7
  claimId : UuidV7
  fence : ℕ
  effectRevision : ℕ
  deriving DecidableEq

/-- The dispatch that a permit is for. -/
def EffectDispatchPermitPayload.binding (p : EffectDispatchPermitPayload) : DispatchBinding where
  dispatchIdempotencyKey := p.dispatchIdempotencyKey
  requestDigest := p.requestDigest
  approvalId := p.approval.id
  claimId := p.claim.id
  fence := p.claim.fence
  effectRevision := p.effectRevision

/-- CORRECT: a connector accepts a permit before its expiries only. -/
theorem enforceEffectDispatch_spec {rt : EffectRuntime} {permit : EffectDispatchPermit}
    {policy : EffectConnectorPolicy} {verifier : EffectPermitVerifier} {now : UnixMs}
    {answer : EffectDispatchPermit × EffectJsonObject}
    (h : enforceEffectDispatch rt permit policy verifier now = .ok answer) :
    now < permit.payload.claim.expiresAt ∧
      ∀ t ∈ permit.payload.approval.expiresAt, now < t := by
  simp only [enforceEffectDispatch, parsePermit, bind_eq_ok, refuse_eq_ok, pure_eq_ok] at h
  obtain ⟨parsed, ⟨-, -, -, -, rfl⟩, -, -, -, -, -, -, -, hclaim, prepared, -, -, -, -, -, parameters,
    hauthority, -⟩ := h
  obtain ⟨-, -, hvalid⟩ := EffectStore.assertEffectAuthority_spec hauthority
  exact ⟨not_le.1 hclaim, hvalid.2⟩

namespace EffectStore

variable {rt : EffectRuntime} {s s' : EffectStore} {id : UuidV7}

/-! ### The revision at which execution began -/

/-- The effect, still open or resolved, entered `executing` at the revision. -/
def BegunAt (e : Effect) (revision : ℕ) : Prop :=
  (e.status = .executing ∧ e.revision = revision) ∨
    (e.status = .indeterminate ∧ e.revision = revision + 1) ∨ e.status ∈ [.committed, .failed]

theorem BegunAt.status_mem {e : Effect} {revision : ℕ} (h : BegunAt e revision) :
    e.status ∈ [.executing, .indeterminate, .committed, .failed] := by
  rcases h with ⟨hcase, -⟩ | ⟨hcase, -⟩ | hcase
  · simp [hcase]
  · simp [hcase]
  · simp only [List.mem_cons] at hcase ⊢
    tauto

/-- A rewritten effect entered `executing` when it did. -/
theorem BegunAt.rewrites {old new : Effect} {revision : ℕ} (h : BegunAt old revision)
    (hrewrites : Rewrites s s' id old new) : BegunAt new revision := by
  have hnext := hrewrites.next
  have hrevision := hrewrites.revision
  rcases h with ⟨hexecuting, rfl⟩ | ⟨hindeterminate, -⟩ | hended
  · rw [hexecuting] at hnext
    rcases List.mem_cons.1 hnext with hcommitted | hnext
    · exact .inr (.inr (by simp [hcommitted]))
    · rcases List.mem_cons.1 hnext with hfailed | hnext
      · exact .inr (.inr (by simp [hfailed]))
      · exact .inr (.inl ⟨List.mem_singleton.1 hnext, hrevision⟩)
  · rw [hindeterminate] at hnext
    exact .inr (.inr hnext)
  · cases hcase : old.status <;> rw [hcase] at hnext hended <;> simp_all [EffectStatus.next]

/-- While the effect is open, the revision is determined. -/
theorem BegunAt.unique {e : Effect} {m n : ℕ} (hm : BegunAt e m) (hn : BegunAt e n)
    (hopen : e.status = .executing ∨ e.status = .indeterminate) : m = n := by
  rcases hopen with hstatus | hstatus
  · simp only [BegunAt, hstatus] at hm hn
    simp at hm hn
    omega
  · simp only [BegunAt, hstatus] at hm hn
    simp at hm hn
    omega

/-- INVARIANT: a record of a dispatch has the revision at which the execution began. -/
def DispatchesRecorded (s : EffectStore) : Prop :=
  ∀ r ∈ s.retries, r.operation = .effectExecutionBegin → ∃ e revision,
    s.effects[r.resultId]? = some e ∧ r.resultRevision = some revision ∧ BegunAt e revision

/-- The records of dispatches that a move brings. -/
theorem Moves.new_dispatch (h : Moves rt s s') {r : IdempotencyRecord} (hr : r ∈ s'.retries)
    (hop : r.operation = .effectExecutionBegin) : r ∈ s.retries ∨ ∃ e revision,
      s'.effects[r.resultId]? = some e ∧ r.resultRevision = some revision ∧ BegunAt e revision := by
  cases h with
  | stays h => exact .inl (h.dispatches r hr hop)
  | proposes k e h => exact .inl (h.dispatches r hr hop)
  | decides k a h => exact .inl (h.dispatches r hr hop)
  | authorizes k old new h => exact .inl (h.dispatches r hr hop)
  | begins k old new claimId claim h =>
    rcases h.dispatches r hr hop with hold | ⟨hresult, hrevision⟩
    · exact .inl hold
    · refine .inr ⟨new, new.revision, ?_, hrevision, .inl ⟨h.status, rfl⟩⟩
      rw [h.toRewrites.getElem?, if_pos hresult.symm]
  | resolves k old new receiptId r' h => exact .inl (h.dispatches r hr hop)
  | cancels k old new h => exact .inl (h.dispatches r hr hop)

/-- STEP: records of dispatches stay right. -/
theorem DispatchesRecorded.moves (hs : DispatchesRecorded s) (h : Moves rt s s') :
    DispatchesRecorded s' := by
  intro r hr hop
  rcases h.new_dispatch hr hop with hold | hnew
  · obtain ⟨e, revision, he, hrevision, hbegun⟩ := hs r hold hop
    rcases h.row_after he with hsame | ⟨new, hrewrites⟩
    · exact ⟨e, revision, hsame, hrevision, hbegun⟩
    · refine ⟨new, revision, ?_, hrevision, hbegun.rewrites hrewrites⟩
      rw [hrewrites.getElem?, if_pos rfl]
  · exact hnew

/-- INVARIANT: in every reachable ledger, records of dispatches are right. -/
theorem Reachable.dispatchesRecorded (hs : Reachable rt s) : DispatchesRecorded s := by
  refine reachable_invariant ?_ (fun _ _ h hI => hI.moves h) hs
  intro workspaceId work others r hr
  simp [opening] at hr

/-! ### The binding of an effect -/

/-- The execution of the effect began with the binding. -/
def BoundTo (s : EffectStore) (id : UuidV7) (b : DispatchBinding) : Prop :=
  ∃ e, s.effects[id]? = some e ∧ BegunAt e b.effectRevision ∧
    e.dispatchIdempotencyKey = b.dispatchIdempotencyKey ∧ e.requestDigest = b.requestDigest ∧
    e.authorizedByApprovalId = some b.approvalId ∧ e.claimId = some b.claimId ∧
    e.fence = some b.fence

/-- A row of a begun effect is rewritten by a receipt alone, which keeps its binding. -/
theorem Moves.rewrites_begun (h : Moves rt s s') {old new : Effect} {revision : ℕ}
    (hrewrites : Rewrites s s' id old new) (hbegun : BegunAt old revision) :
    new.authorizedByApprovalId = old.authorizedByApprovalId ∧ new.claimId = old.claimId ∧
      new.fence = old.fence := by
  -- Any other rewriting ends in a status that does not follow execution.
  have hnew := EffectStatus.next_of_begun _ hbegun.status_mem _ hrewrites.next
  cases h with
  | stays h => exact absurd h.effects hrewrites.effects_ne
  | proposes k e h => exact absurd hrewrites h.not_rewrites
  | decides k a h =>
    obtain ⟨e, -, -, current, -, -, ⟨-, hwithdrawn⟩ | ⟨-, heffects⟩⟩ := h.target
    · rw [hrewrites.unique hwithdrawn] at hnew
      simp [withdrawn] at hnew
    · exact absurd heffects hrewrites.effects_ne
  | authorizes k e e' h =>
    rw [hrewrites.unique h.toRewrites, h.status] at hnew
    simp at hnew
  | begins k e e' claimId claim h =>
    rw [hrewrites.unique h.toRewrites, h.status] at hnew
    simp at hnew
  | resolves k e e' receiptId r h =>
    have hsame := hrewrites.unique h.toRewrites
    have hrow := h.toRewrites.getElem? (k := id)
    rw [hrewrites.getElem?, if_pos rfl] at hrow
    split at hrow
    · rename_i hk
      subst hk
      obtain rfl := Option.some.inj (h.row.symm.trans hrewrites.row)
      rw [hsame]
      exact h.binding
    · rw [hrewrites.row] at hrow
      have hrevision := hrewrites.revision
      rw [Option.some.inj hrow] at hrevision
      omega
  | cancels k e e' h =>
    rw [hrewrites.unique h.toRewrites, h.status] at hnew
    simp at hnew

/-- STEP: a binding stays. -/
theorem BoundTo.moves {b : DispatchBinding} (hs : BoundTo s id b) (h : Moves rt s s') :
    BoundTo s' id b := by
  obtain ⟨e, he, hbegun, hkey, hdigest, happroval, hclaim, hfence⟩ := hs
  rcases h.row_after he with hsame | ⟨new, hrewrites⟩
  · exact ⟨e, hsame, hbegun, hkey, hdigest, happroval, hclaim, hfence⟩
  · obtain ⟨happroval', hclaim', hfence'⟩ := h.rewrites_begun hrewrites hbegun
    obtain ⟨-, -, -, hdigest', hkey', -⟩ := hrewrites.identity
    refine ⟨new, by rw [hrewrites.getElem?, if_pos rfl], hbegun.rewrites hrewrites, ?_, ?_, ?_, ?_,
      ?_⟩
    · rw [hkey', hkey]
    · rw [hdigest', hdigest]
    · rw [happroval', happroval]
    · rw [hclaim', hclaim]
    · rw [hfence', hfence]

/-! ### Issues -/

/-- A permit that a call answers is bound as the effect is, which is open then. -/
theorem issued_spec (hs : Reachable rt s) {a : EffectAction} {p : EffectDispatchPermitPayload}
    (h : issued rt s a = some p) : ∃ e, (s.step rt a).effects[p.effectId]? = some e ∧
      (e.status = .executing ∨ e.status = .indeterminate) ∧ BegunAt e p.effectRevision ∧
      Carries s e p := by
  cases a with
  | begin k options ctx =>
    cases hcall : s.beginEffectExecution rt k options ctx with
    | error failure => simp [issued, hcall] at h
    | ok answer =>
      have hstep : s.step rt (.begin k options ctx) = answer.1 := by
        simp only [step, hcall]
        rfl
      have hp : answer.2.2.payload = p := by simpa [issued, hcall] using h
      subst hp
      rw [hstep]
      rcases beginEffectExecution_spec hcall with ⟨hkept, record, hreplays⟩ |
        ⟨old, approval, claim, callerId, hbegins, -, -, heffect, hrevision, hcarries, -⟩
      · obtain ⟨e, revision, he, hrecorded, hbegun⟩ :=
          hs.dispatchesRecorded record hreplays.recorded.1 hreplays.recorded.2
        obtain rfl := Option.some.inj (hreplays.row.symm.trans he)
        obtain rfl := Option.some.inj (hrecorded.symm.trans hreplays.revision)
        refine ⟨_, ?_, hreplays.dispatched, hbegun, hreplays.carries⟩
        rw [hreplays.effectId, hkept.effects]
        exact he
      · refine ⟨_, ?_, .inl hbegins.status, ?_, hcarries⟩
        · rw [heffect, hbegins.toRewrites.getElem?, if_pos rfl]
        · rw [hrevision]
          exact .inl ⟨hbegins.status, rfl⟩
  | propose => cases h
  | decide => cases h
  | authorize => cases h
  | report => cases h
  | cancel => cases h
  | acquire => cases h
  | release => cases h
  | elsewhere => cases h

/-- The effect of an issued permit is bound to it. -/
theorem issued_boundTo (hs : Reachable rt s) {a : EffectAction} {p : EffectDispatchPermitPayload}
    (h : issued rt s a = some p) : BoundTo (s.step rt a) p.effectId p.binding := by
  obtain ⟨e, he, -, hbegun, hcarries⟩ := issued_spec hs h
  exact ⟨e, he, hbegun, hcarries.dispatchKey.symm, hcarries.requestDigest.symm, hcarries.approval,
    hcarries.claim, hcarries.fence⟩

/-- A permit of a bound effect has its binding. -/
theorem BoundTo.issued_eq (hs : Reachable rt s) {b : DispatchBinding} (hb : BoundTo s id b)
    {a : EffectAction} {p : EffectDispatchPermitPayload} (h : issued rt s a = some p)
    (hid : p.effectId = id) : p.binding = b := by
  obtain ⟨e, he, hopen, hbegun, hcarries⟩ := issued_spec hs h
  obtain ⟨e', he', hbegun', hkey, hdigest, happroval, hclaim, hfence⟩ := hb.moves (step_moves a)
  rw [hid] at he
  obtain rfl := Option.some.inj (he.symm.trans he')
  have hrevision := hbegun.unique hbegun' hopen
  obtain ⟨key, digest, approvalId, claimId, fence, revision⟩ := b
  simp only [EffectDispatchPermitPayload.binding, DispatchBinding.mk.injEq]
  refine ⟨hcarries.dispatchKey.trans hkey, hcarries.requestDigest.trans hdigest, ?_, ?_, ?_,
    hrevision⟩
  · exact Option.some.inj (hcarries.approval.symm.trans happroval)
  · exact Option.some.inj (hcarries.claim.symm.trans hclaim)
  · exact Option.some.inj (hcarries.fence.symm.trans hfence)

/-- What every reachable ledger owes the permits of an effect, now and in whatever runs on. -/
structure PermitsStable (rt : EffectRuntime) (s : EffectStore) (id : UuidV7) : Prop where
  /-- A permit issued now and any one issued later bind the same dispatch. -/
  stable : ∀ a p actions b q, issued rt s a = some p → p.effectId = id →
    issued rt (run (step rt) (s.step rt a) actions) b = some q → q.effectId = id →
    q.binding = p.binding
  /-- A permit has the expiries that its approval and its claim have at issue, and no connector
      accepts it once the earlier of them is reached. -/
  expires : ∀ a p, issued rt s a = some p → p.effectId = id →
    ∃ approval claim, s.approvals[p.approval.id]? = some approval ∧
      s.claims[p.claim.id]? = some claim ∧
      ∀ permit policy verifier now answer, permit.payload = p →
        enforceEffectDispatch rt permit policy verifier now = .ok answer →
        now < claim.expiresAt ∧ ∀ t ∈ approval.expiresAt, now < t
  /-- A terminal receipt ends the permits. -/
  ended : ∀ a p (k : UuidV7) r, s.receipts[k]? = some r → r.effectId = id → r.Terminal →
    issued rt s a = some p → p.effectId ≠ id

/-- CORRECT: the permits of an effect are stable in every reachable ledger. -/
theorem effect_permits_stable (hs : Reachable rt s) (id : UuidV7) : PermitsStable rt s id where
  stable a p actions b q hp hpid hq hqid := by
    have hbound := issued_boundTo hs hp
    rw [hpid] at hbound
    obtain ⟨hreachable, hlater⟩ := reachable_run (I := fun t => BoundTo t id p.binding)
      (fun _ _ _ h ht => ht.moves h) (hs.step a) hbound actions
    exact hlater.issued_eq hreachable hq hqid
  expires a p hp hpid := by
    obtain ⟨e, -, -, -, hcarries⟩ := issued_spec hs hp
    obtain ⟨approval, happroval, -, happrovalExpires⟩ := hcarries.approval_row
    obtain ⟨claim, hclaim, hclaimExpires⟩ := hcarries.claim_row
    refine ⟨approval, claim, happroval, hclaim, ?_⟩
    rintro permit policy verifier now answer rfl henforced
    rw [← happrovalExpires, ← hclaimExpires]
    exact enforceEffectDispatch_spec henforced
  ended a p k r hr hrid hterminal hp hpid := by
    obtain ⟨e, he, hstatus⟩ := hs.receiptsFit.resolved k r hr
    have hended : e.status ∈ [.committed, .failed, .cancelled] := by
      rcases hstatus with ⟨-, hnot⟩ | hended
      · exact absurd hterminal hnot
      · simp only [List.mem_cons] at hended ⊢
        tauto
    have hsame := ended_moves hended he (step_moves a : Moves rt s _)
    obtain ⟨e', he', hopen, -⟩ := issued_spec hs hp
    rw [hpid, ← hrid, hsame] at he'
    obtain rfl := Option.some.inj he'
    rcases hopen with hopen | hopen <;> simp [hopen] at hended

theorem effect_permits_stable_plain :
    Executing plainLedger 4 ∧ PermitsStable plainEffectRuntime plainLedger 4 := by
  refine ⟨?_, effect_permits_stable plainLedger_reachable 4⟩
  have hstatus : (plainLedger.effects[4]?.map Effect.status) = some .executing := by
    decide +kernel
  exact Option.map_eq_some_iff.1 hstatus

end EffectStore

end Tasq
