import Mathlib.Tactic
import Tasq.EffectLedger.Frame

/-! What a completed service call can do to the ledger, said once: one lemma for each service, with
    its guards, and `Moves` for any of them. Every invariant of the ledger is derived from these
    and never from the services themselves. -/

namespace Tasq

open Text Outcome

namespace EffectStore

variable {s s' : EffectStore} {rt : EffectRuntime} {id : UuidV7}

/-- No record of a dispatch is new. -/
def NoNewDispatch (s s' : EffectStore) : Prop :=
  ∀ r ∈ s'.retries, r.operation = .effectExecutionBegin → r ∈ s.retries

theorem NoNewDispatch.trans {t : EffectStore} (h : NoNewDispatch s t) (h' : NoNewDispatch t s') :
    NoNewDispatch s s' :=
  fun r hr hop => h r (h' r hr hop) hop

theorem noNewDispatch_of_eq (h : s'.retries = s.retries) : NoNewDispatch s s' :=
  fun _ hr _ => h ▸ hr

/-- Effects, decisions and receipts are as before. -/
structure SameLedger (s s' : EffectStore) : Prop where
  effects : s'.effects = s.effects
  approvals : s'.approvals = s.approvals
  receipts : s'.receipts = s.receipts
  dispatches : NoNewDispatch s s'

theorem Bookkept.sameLedger (h : Bookkept s s') : SameLedger s s' :=
  ⟨h.effects, h.approvals, h.receipts, h.dispatches⟩

theorem SameLedger.trans {t : EffectStore} (h : SameLedger s t) (h' : SameLedger t s') :
    SameLedger s s' := by
  refine ⟨h'.effects.trans h.effects, h'.approvals.trans h.approvals,
    h'.receipts.trans h.receipts, NoNewDispatch.trans h.dispatches h'.dispatches⟩

/-- A new effect is proposed. -/
structure Proposes (rt : EffectRuntime) (s s' : EffectStore) (id : UuidV7) (e : Effect) :
    Prop where
  fresh : id ∉ s.effects
  status : e.status = .proposed
  readable : rt.Readable id e
  effects : s'.effects = s.effects.insert id e
  approvals : s'.approvals = s.approvals
  receipts : s'.receipts = s.receipts
  dispatches : NoNewDispatch s s'

/-- The row of one effect is rewritten along the lifecycle. -/
structure Rewrites (s s' : EffectStore) (id : UuidV7) (old new : Effect) : Prop where
  row : s.effects[id]? = some old
  identity : Effect.SameIdentity old new
  revision : new.revision = old.revision + 1
  next : new.status ∈ old.status.next
  refined : new.Refined
  effects : s'.effects = s.effects.insert id new

/-- The effect as it is when its authorizing decision is superseded. -/
def withdrawn (e : Effect) (now : UnixMs) : Effect :=
  { e with
    status := .proposed
    authorizedByApprovalId := none
    authorizedAt := none
    updatedAt := now
    revision := e.revision + 1 }

/-- A decision is recorded; it supersedes the current one. -/
structure Decides (s s' : EffectStore) (id : UuidV7) (a : EffectApproval) : Prop where
  target : ∃ e, s.effects[a.effectId]? = some e ∧ e.requestDigest = a.requestDigest ∧
    ∃ current, s.getEffectiveEffectApproval a.effectId = .ok current ∧
      a.supersedesApprovalId = current.map Prod.fst ∧
      (((e.status = .authorized ∧ ∃ c ∈ current, e.authorizedByApprovalId = some c.1) ∧
          Rewrites s s' a.effectId e (withdrawn e a.decidedAt)) ∨
        (¬ (e.status = .authorized ∧ ∃ c ∈ current, e.authorizedByApprovalId = some c.1) ∧
          s'.effects = s.effects))
  readable : a.Readable
  fresh : id ∉ s.approvals
  approvals : s'.approvals = s.approvals.insert id a
  receipts : s'.receipts = s.receipts
  dispatches : NoNewDispatch s s'

/-- An effect is authorized by the current decision. -/
structure Authorizes (s s' : EffectStore) (id : UuidV7) (old new : Effect) : Prop
    extends Rewrites s s' id old new where
  old_status : old.status = .proposed
  status : new.status = .authorized
  current : ∃ approval, s.getEffectiveEffectApproval id = .ok (some approval) ∧
    approval.2.decision = .approved ∧ approval.2.requestDigest = old.requestDigest ∧
    new.authorizedByApprovalId = some approval.1
  approvals : s'.approvals = s.approvals
  receipts : s'.receipts = s.receipts
  dispatches : NoNewDispatch s s'

/-- Who may begin: an approval that is current, exact and in force, and a live claim of the
    caller. -/
structure Entitled (s : EffectStore) (id : UuidV7) (e : Effect) (now : UnixMs) (callerId : String)
    (approval : UuidV7 × EffectApproval) (claimId : UuidV7) (claim : LeasedClaim) : Prop where
  current : s.getEffectiveEffectApproval id = .ok (some approval)
  authorizing : e.authorizedByApprovalId = some approval.1
  decision : approval.2.decision = .approved
  digest : approval.2.requestDigest = e.requestDigest
  valid : approval.2.ValidAt now
  claim_row : s.claims[claimId]? = some claim
  claim_task : claim.taskId = e.taskId
  live : claim.LiveAt now
  holder : claim.principalId = some callerId

/-- The effect enters `executing`. -/
structure Begins (s s' : EffectStore) (id : UuidV7) (old new : Effect) (claimId : UuidV7)
    (claim : LeasedClaim) : Prop extends Rewrites s s' id old new where
  old_status : old.status = .authorized
  status : new.status = .executing
  binding : new.authorizedByApprovalId = old.authorizedByApprovalId ∧
    new.claimId = some claimId ∧ new.fence = some claim.fence
  approvals : s'.approvals = s.approvals
  receipts : s'.receipts = s.receipts
  dispatches : ∀ r ∈ s'.retries, r.operation = .effectExecutionBegin →
    r ∈ s.retries ∨ r.resultId = id ∧ r.resultRevision = some new.revision

/-- A receipt is recorded, and its outcome resolves the effect. -/
structure Resolves (s s' : EffectStore) (id : UuidV7) (old new : Effect) (receiptId : UuidV7)
    (r : EffectReceipt) : Prop extends Rewrites s s' id old new where
  dispatched : old.status = .executing ∨ old.status = .indeterminate
  status : new.status = r.report.outcome.status
  uncertain : r.report.outcome = .indeterminate → old.status = .executing
  binding : new.authorizedByApprovalId = old.authorizedByApprovalId ∧
    new.claimId = old.claimId ∧ new.fence = old.fence
  outcome : new.outcomeReceiptId = some receiptId
  effect : r.effectId = id
  fresh : receiptId ∉ s.receipts
  approvals : s'.approvals = s.approvals
  receipts : s'.receipts = s.receipts.insert receiptId r
  dispatches : NoNewDispatch s s'

/-- The effect is cancelled. -/
structure Cancels (s s' : EffectStore) (id : UuidV7) (old new : Effect) : Prop
    extends Rewrites s s' id old new where
  status : new.status = .cancelled
  approvals : s'.approvals = s.approvals
  receipts : s'.receipts = s.receipts
  dispatches : NoNewDispatch s s'

/-- What one call can do to the ledger. -/
inductive Moves (rt : EffectRuntime) (s s' : EffectStore) : Prop
  | stays (h : SameLedger s s')
  | proposes (id : UuidV7) (e : Effect) (h : Proposes rt s s' id e)
  | decides (id : UuidV7) (a : EffectApproval) (h : Decides s s' id a)
  | authorizes (id : UuidV7) (old new : Effect) (h : Authorizes s s' id old new)
  | begins (id : UuidV7) (old new : Effect) (claimId : UuidV7) (claim : LeasedClaim)
      (h : Begins s s' id old new claimId claim)
  | resolves (id : UuidV7) (old new : Effect) (receiptId : UuidV7) (r : EffectReceipt)
      (h : Resolves s s' id old new receiptId r)
  | cancels (id : UuidV7) (old new : Effect) (h : Cancels s s' id old new)

/-! ### Rows that the database admits -/

/-- The columns that a status needs for the order of times. -/
theorem times_known {e : Effect} (h : e.StatusChecked) :
    (e.executionStartedAt.isSome → e.authorizedAt.isSome) ∧
      (e.indeterminateAt.isSome → e.executionStartedAt.isSome) ∧
      (e.resolvedAt.isSome → e.executionStartedAt.isSome) := by
  unfold Effect.StatusChecked at h
  cases hstatus : e.status <;> rw [hstatus] at h <;> simp_all

/-- A bound that holds of every time holds of a time that is there. -/
theorem bound_known {o : Option UnixMs} {P : UnixMs → Prop} (hsome : o.isSome)
    (h : ∀ t ∈ o, P t) : ∃ t ∈ o, P t := by
  obtain ⟨t, ht⟩ := Option.isSome_iff_exists.1 hsome
  exact ⟨t, ht, h t ht⟩

theorem Checked.timed {e : Effect} (h : e.Checked id) : e.Timed := by
  obtain ⟨hstarted, hind, hres⟩ := times_known h.status
  refine ⟨h.updated, h.authorized, ?_, ?_, ?_, h.cancelled⟩
  · intro t ht
    exact bound_known (hstarted (Option.isSome_of_mem ht)) (h.started t ht)
  · intro t ht
    exact bound_known (hind (Option.isSome_of_mem ht)) (h.uncertain t ht)
  · intro t ht
    exact bound_known (hres (Option.isSome_of_mem ht)) (h.resolved t ht)

theorem Checked.fence_isSome {e : Effect} (h : e.Checked id) :
    e.fence.isSome = e.claimId.isSome ∧ ∀ n ∈ e.fence, 0 < n := by
  rcases h.claim_fence with ⟨hclaim, hfence⟩ | ⟨hclaim, n, hn, hpos⟩
  · simp [hclaim, hfence]
  · rw [Option.mem_def] at hn
    simp [hclaim, hn, hpos]

/-- CORRECT: the database admits what the schema does, but for the blank reason of a
    cancellation. -/
theorem Updates.refined {old new : Effect} (h : s.Updates id old new)
    (hreason : new.status = .cancelled → ∃ reason ∈ new.cancelReason, ¬ Blank reason) :
    new.Refined := by
  have hstatus := h.checked.status
  obtain ⟨hfence, hpos⟩ := Checked.fence_isSome h.checked
  have hno := h.no_outcome
  have houtcome : new.status ∈ [.indeterminate, .committed, .failed] →
      new.outcomeReceiptId.isSome := by
    intro hmem
    obtain ⟨receiptId, hreceipt, -⟩ := h.outcome hmem
    exact Option.isSome_of_mem hreceipt
  have hsome : new.status = .cancelled → new.cancelReason.isSome := by
    intro hcancelled
    obtain ⟨reason, hmem, -⟩ := hreason hcancelled
    exact Option.isSome_of_mem hmem
  refine ⟨Checked.timed h.checked, ?_, hpos, h.checked.revision_pos⟩
  unfold Effect.StatusChecked at hstatus
  unfold Effect.Shaped
  cases hcase : new.status <;> rw [hcase] at hstatus hno houtcome hreason hsome <;>
    simp_all [Effect.Authority, Effect.Execution, Effect.Cancellation]

/-- What a rewritten row owes to the update and to the reader before it. -/
theorem rewrites_of_updates {t : EffectStore} {old new : Effect} (hrow : s.effects[id]? = some old)
    (h : t.Updates id old new)
    (hreason : new.status = .cancelled → ∃ reason ∈ new.cancelReason, ¬ Blank reason)
    (heffects : s'.effects = s.effects.insert id new) : Rewrites s s' id old new :=
  ⟨hrow, h.identity, h.revision, h.next, h.refined hreason, heffects⟩

theorem Rewrites.congr {t t' : EffectStore} {old new : Effect} (h : Rewrites t t' id old new)
    (hs : t.effects = s.effects) (hs' : s'.effects = t'.effects) : Rewrites s s' id old new :=
  ⟨hs ▸ h.row, h.identity, h.revision, h.next, h.refined, by rw [hs', h.effects, hs]⟩

/-- The current decision is read from the decisions alone. -/
theorem getEffectiveEffectApproval_congr {t : EffectStore} (h : t.approvals = s.approvals) :
    t.getEffectiveEffectApproval id = s.getEffectiveEffectApproval id := by
  simp only [getEffectiveEffectApproval, listEffectApprovals, h]

/-! ### One lemma for each service -/

theorem insertEffect_spec {e : Effect} (h : s.insertEffect id e = .ok s') :
    id ∉ s.effects ∧ { s with effects := s.effects.insert id e } = s' := by
  simp only [insertEffect, bind_eq_ok, refuse_eq_ok, pure_eq_ok, not_or] at h
  obtain ⟨-, -, -, -, -, -, -, -, -, -, -, -, -, -, -, -, -, ⟨hfresh, -⟩, -, -, -, -, hs⟩ := h
  exact ⟨hfresh, hs⟩

theorem proposeEffect_spec {input : EffectProposal} {ctx : PrincipalContext} {freshId : UuidV7}
    {e : Effect} (h : s.proposeEffect rt input ctx freshId = .ok (s', e)) :
    SameLedger s s' ∨ ∃ id e, Proposes rt s s' id e := by
  simp only [proposeEffect, bind_eq_ok, Prod.exists] at h
  obtain ⟨-, -, -, -, prepared, -, s₁, prior, identity, hretry, h⟩ := h
  obtain ⟨hkept₁, -, hop⟩ := retryResult_spec hretry
  cases prior with
  | some record =>
    simp only [bind_eq_ok, pure_eq_ok, Prod.mk.injEq] at h
    obtain ⟨_, -, rfl, -⟩ := h
    exact .inl hkept₁.sameLedger
  | none =>
    simp only [bind_eq_ok, Prod.exists, demand_eq_ok, pure_eq_ok, Prod.mk.injEq] at h
    obtain ⟨-, -, -, -, s₂, caller, hcaller, -, -, -, -, s₃, hinsert, _, hread, result, rfl, s₄,
      hevent, s₅, hsave, rfl, -⟩ := h
    have hkept₂ := hkept₁.trans (contextPrincipal_spec hcaller)
    have hkept₃ := (recordEvent_spec hevent).trans
      (saveIdempotencyResult_bookkept hop (by decide) hsave)
    obtain ⟨hfresh, rfl⟩ := insertEffect_spec hinsert
    obtain ⟨hrow, hreadable⟩ := getEffect_eq_some.1 hread
    rw [Table.getElem?_insert', if_pos rfl] at hrow
    obtain rfl := Option.some.inj hrow
    refine .inr ⟨_, _, ?_, rfl, hreadable, ?_, ?_, ?_, ?_⟩
    · rwa [hkept₂.effects] at hfresh
    · rw [hkept₃.effects, hkept₂.effects]
    · rw [hkept₃.approvals, hkept₂.approvals]
    · rw [hkept₃.receipts, hkept₂.receipts]
    · exact NoNewDispatch.trans hkept₂.dispatches hkept₃.dispatches

theorem insertApproval_spec {a : EffectApproval} (h : s.insertApproval id a = .ok s') :
    a.Refined ∧ id ∉ s.approvals ∧ { s with approvals := s.approvals.insert id a } = s' := by
  simp only [insertApproval, bind_eq_ok, refuse_eq_ok, pure_eq_ok, not_or, not_not] at h
  obtain ⟨-, -, -, -, -, -, -, -, -, -, -, hrefined, -, -, -, ⟨hfresh, -⟩, -, -, -, -, hs⟩ := h
  exact ⟨hrefined, hfresh, hs⟩

/-- Where the authorizing decision is superseded, the effect is proposed again. -/
theorem withdrawAuthority_spec {ctx : PrincipalContext} {caller : Principal} {e : Effect}
    {current : Option (UuidV7 × EffectApproval)} (hrow : s.effects[id]? = some e)
    (h : s.withdrawAuthority rt ctx caller id e current = .ok s') :
    s'.approvals = s.approvals ∧ s'.receipts = s.receipts ∧ NoNewDispatch s s' ∧
      (((e.status = .authorized ∧ ∃ c ∈ current, e.authorizedByApprovalId = some c.1) ∧
          Rewrites s s' id e (withdrawn e ctx.now)) ∨
        (¬ (e.status = .authorized ∧ ∃ c ∈ current, e.authorizedByApprovalId = some c.1) ∧
          s'.effects = s.effects)) := by
  unfold withdrawAuthority at h
  split at h
  · rename_i hcase
    simp only [bind_eq_ok, Prod.exists] at h
    obtain ⟨t, new, hset, hevent⟩ := h
    obtain ⟨old, hold, -, rfl, hupdates, rfl⟩ := setEffect_eq_ok.1 hset
    obtain rfl : old = e := Option.some.inj (hold.symm.trans hrow)
    have hkept := recordEvent_spec hevent
    refine ⟨hkept.approvals, hkept.receipts, hkept.dispatches, .inl ⟨hcase, ?_⟩⟩
    exact rewrites_of_updates hrow hupdates (fun hstatus => by cases hstatus) hkept.effects
  · rename_i hcase
    rw [pure_eq_ok] at h
    subst h
    exact ⟨rfl, rfl, fun _ hr _ => hr, .inr ⟨hcase, rfl⟩⟩

theorem recordEffectApproval_spec {input : EffectApprovalDecision} {ctx : PrincipalContext}
    {supplied : Option AuthorityVerification} {freshId : UuidV7} {a : EffectApproval}
    (h : s.recordEffectApproval rt input ctx supplied freshId = .ok (s', a)) :
    SameLedger s s' ∨ ∃ id a, Decides s s' id a := by
  simp only [recordEffectApproval, bind_eq_ok, Prod.exists, demand_eq_ok] at h
  obtain ⟨-, -, -, -, verification, -, -, -, -, -, -, -, _, hfound, target, rfl, s₁, caller,
    hcaller, s₂, prior, identity, hretry, h⟩ := h
  obtain ⟨hkept₂, -, hop⟩ := retryResult_spec hretry
  have hkept := (contextPrincipal_spec hcaller).trans hkept₂
  cases prior with
  | some record =>
    simp only [bind_eq_ok, pure_eq_ok, Prod.mk.injEq] at h
    obtain ⟨_, -, _, -, rfl, -⟩ := h
    exact .inl hkept.sameLedger
  | none =>
    simp only [bind_eq_ok, refuse_eq_ok, demand_eq_ok, pure_eq_ok, Prod.mk.injEq] at h
    obtain ⟨current, hcurrent, -, hfirst, -, hleaf, -, -, s₃, hinsert, s₄, hevent, s₅, hwithdraw,
      s₆, hsave, _, -, result, -, rfl, -⟩ := h
    obtain ⟨hrow, -⟩ := getEffect_eq_some.1 hfound
    obtain ⟨hrefined, hfresh, rfl⟩ := insertApproval_spec hinsert
    have hkept₄ := recordEvent_spec hevent
    have heffects : s₄.effects = s.effects := hkept₄.effects.trans hkept.effects
    obtain ⟨happrovals, hreceipts, hdispatches, hcase⟩ :=
      withdrawAuthority_spec (heffects ▸ hrow) hwithdraw
    have hkept₆ := saveIdempotencyResult_bookkept hop (by decide) hsave
    rw [getEffectiveEffectApproval_congr hkept.approvals] at hcurrent
    refine .inr ⟨input.id.getD freshId,
      decidedApproval input target.requestDigest caller.id verification ctx.now,
      ⟨target, hrow, rfl, current, hcurrent, ?_, ?_⟩, ?_, ?_, ?_, ?_, ?_⟩
    · change input.supersedesApprovalId = _
      cases current with
      | none => simpa using hfirst
      | some c => simpa using hleaf
    · rcases hcase with ⟨hwas, hrewrites⟩ | ⟨hwas, hsame⟩
      · exact .inl ⟨hwas, hrewrites.congr heffects hkept₆.effects⟩
      · exact .inr ⟨hwas, by rw [hkept₆.effects, hsame, heffects]⟩
    · exact ⟨CanonicalJson.canonical_canonical _, CanonicalJson.canonical_canonical _,
        CanonicalJson.canonical_canonical _, hrefined⟩
    · rwa [hkept.approvals] at hfresh
    · rw [hkept₆.approvals, happrovals, hkept₄.approvals, hkept.approvals]
    · rw [hkept₆.receipts, hreceipts, hkept₄.receipts, hkept.receipts]
    · refine NoNewDispatch.trans hkept.dispatches (NoNewDispatch.trans ?_ hkept₆.dispatches)
      exact NoNewDispatch.trans hkept₄.dispatches hdispatches

theorem authorizeEffect_spec {approvalId : UuidV7} {expectedRevision : ℕ}
    {ctx : PrincipalContext} {e : Effect}
    (h : s.authorizeEffect rt id approvalId expectedRevision ctx = .ok (s', e)) :
    SameLedger s s' ∨ ∃ old new, Authorizes s s' id old new := by
  simp only [authorizeEffect, bind_eq_ok, Prod.exists] at h
  obtain ⟨s₁, prior, identity, hretry, h⟩ := h
  obtain ⟨hkept₁, -, hop⟩ := retryResult_spec hretry
  cases prior with
  | some record =>
    simp only [bind_eq_ok, pure_eq_ok, Prod.mk.injEq] at h
    obtain ⟨_, -, rfl, -⟩ := h
    exact .inl hkept₁.sameLedger
  | none =>
    simp only [bind_eq_ok, Prod.exists, demand_eq_ok, refuse_eq_ok, pure_eq_ok, Prod.mk.injEq,
      Option.filter_eq_some_iff, decide_eq_true_eq, not_not] at h
    obtain ⟨_, hfound, before, rfl, -, hproposed, current, hcurrent, _, approval,
      ⟨rfl, -, hdecision⟩, -, hdigest, -, -, -, -, s₂, caller, hcaller, s₃, row, hset, _, -, s₄,
      hevent, s₅, hsave, rfl, -⟩ := h
    have hkept₂ := hkept₁.trans (contextPrincipal_spec hcaller)
    have hkept₅ := (recordEvent_spec hevent).trans
      (saveIdempotencyResult_bookkept hop (by decide) hsave)
    obtain ⟨hrow, -⟩ := getEffect_eq_some.1 hfound
    obtain ⟨old, hold, -, hnew, hupdates, rfl⟩ := setEffect_eq_ok.1 hset
    rw [hkept₁.effects] at hrow
    rw [hkept₂.effects] at hold
    obtain rfl : old = before := Option.some.inj (hold.symm.trans hrow)
    rw [getEffectiveEffectApproval_congr hkept₁.approvals] at hcurrent
    have hstatus : row.status = .authorized := by rw [← hnew]
    refine .inr ⟨old, row, ?_, hproposed, hstatus,
      ⟨_, hcurrent, hdecision, hdigest, by rw [← hnew]⟩, ?_, ?_, ?_⟩
    · refine rewrites_of_updates hold hupdates (fun hcancelled => ?_) ?_
      · rw [hstatus] at hcancelled
        cases hcancelled
      · rw [hkept₅.effects, hkept₂.effects]
    · rw [hkept₅.approvals, hkept₂.approvals]
    · rw [hkept₅.receipts, hkept₂.receipts]
    · exact NoNewDispatch.trans hkept₂.dispatches hkept₅.dispatches

theorem cancelEffect_spec {reason : String} {expectedRevision : ℕ} {ctx : PrincipalContext}
    {e : Effect} (h : s.cancelEffect rt id reason expectedRevision ctx = .ok (s', e)) :
    SameLedger s s' ∨ ∃ old new, Cancels s s' id old new := by
  simp only [cancelEffect, bind_eq_ok, Prod.exists, refuse_eq_ok] at h
  obtain ⟨-, hreason, s₁, prior, identity, hretry, h⟩ := h
  obtain ⟨hkept₁, -, hop⟩ := retryResult_spec hretry
  cases prior with
  | some record =>
    simp only [bind_eq_ok, pure_eq_ok, Prod.mk.injEq] at h
    obtain ⟨_, -, rfl, -⟩ := h
    exact .inl hkept₁.sameLedger
  | none =>
    simp only [bind_eq_ok, Prod.exists, demand_eq_ok, refuse_eq_ok, pure_eq_ok,
      Prod.mk.injEq] at h
    obtain ⟨_, -, _, -, -, -, s₂, caller, hcaller, s₃, row, hset, _, -, s₄, hevent, s₅, hsave,
      rfl, -⟩ := h
    have hkept₂ := hkept₁.trans (contextPrincipal_spec hcaller)
    have hkept₅ := (recordEvent_spec hevent).trans
      (saveIdempotencyResult_bookkept hop (by decide) hsave)
    obtain ⟨old, hold, -, hnew, hupdates, rfl⟩ := setEffect_eq_ok.1 hset
    rw [hkept₂.effects] at hold
    have hblank : ¬ Blank (jsTrim reason) := by rwa [Blank, jsTrim_jsTrim]
    refine .inr ⟨old, row, ?_, by rw [← hnew], ?_, ?_, ?_⟩
    · refine rewrites_of_updates hold hupdates
        (fun _ => ⟨jsTrim reason, by rw [← hnew]; rfl, hblank⟩) ?_
      rw [hkept₅.effects, hkept₂.effects]
    · rw [hkept₅.approvals, hkept₂.approvals]
    · rw [hkept₅.receipts, hkept₂.receipts]
    · exact NoNewDispatch.trans hkept₂.dispatches hkept₅.dispatches

/-! ### Dispatch -/

/-- The permit repeats the binding of the effect, with the expiries of the rows as they are. -/
structure Carries (s : EffectStore) (e : Effect) (p : EffectDispatchPermitPayload) : Prop where
  requestDigest : p.requestDigest = e.requestDigest
  dispatchKey : p.dispatchIdempotencyKey = e.dispatchIdempotencyKey
  approval : e.authorizedByApprovalId = some p.approval.id
  claim : e.claimId = some p.claim.id
  fence : e.fence = some p.claim.fence
  approval_row : ∃ a, s.approvals[p.approval.id]? = some a ∧ a.decision = .approved ∧
    p.approval.expiresAt = a.expiresAt
  claim_row : ∃ c, s.claims[p.claim.id]? = some c ∧ p.claim.expiresAt = c.expiresAt
  request : p.request = e.request ∧ p.canonicalRequest = e.request
  granted : ∃ a, s.approvals[p.approval.id]? = some a ∧ a.Readable ∧
    p.approval = a.granted p.approval.id

/-- The permit of a repeated call. -/
structure Replays (s : EffectStore) (record : IdempotencyRecord) (e : Effect)
    (p : EffectDispatchPermitPayload) : Prop where
  recorded : record ∈ s.retries ∧ record.operation = .effectExecutionBegin
  effectId : p.effectId = record.resultId
  row : s.effects[record.resultId]? = some e
  dispatched : e.status = .executing ∨ e.status = .indeterminate
  revision : record.resultRevision = some p.effectRevision
  carries : Carries s e p

/-- The principal that the context of a call resolves to. -/
def CallerIs (rt : EffectRuntime) (s : EffectStore) (ctx : PrincipalContext) (callerId : String) :
    Prop :=
  ∃ t caller, s.contextPrincipal rt ctx = .ok (t, caller) ∧ caller.id = callerId

/-- Records of calls do not say who calls. -/
theorem callerIs_of_retries {t : EffectStore} {ctx : PrincipalContext} {callerId : String}
    (hsame : t = { s with retries := t.retries }) (h : CallerIs rt t ctx callerId) :
    CallerIs rt s ctx callerId := by
  obtain ⟨u, caller, hcaller, hid⟩ := h
  have hprincipals : t.principals = s.principals := by rw [hsame]
  have hledger : t.ledger = s.ledger := by rw [hsame]; rfl
  unfold contextPrincipal at hcaller
  rw [hprincipals, hledger] at hcaller
  cases hfilter : ctx.principalId.filter (· ≠ "") with
  | some id =>
    simp only [hfilter, bind_eq_ok, pure_eq_ok, Prod.mk.injEq] at hcaller
    obtain ⟨_, hfind, _, henabled, -, rfl⟩ := hcaller
    refine ⟨s, _, ?_, hid⟩
    simp only [contextPrincipal, hfilter, bind_eq_ok, pure_eq_ok]
    exact ⟨_, hfind, (), henabled, rfl⟩
  | none =>
    simp only [hfilter, bind_eq_ok, pure_eq_ok, Prod.mk.injEq] at hcaller
    obtain ⟨l, hensure, _, hfind, -, rfl⟩ := hcaller
    refine ⟨{ s with principals := l.principals }, _, ?_, hid⟩
    simp only [contextPrincipal, hfilter, bind_eq_ok, pure_eq_ok]
    exact ⟨l, hensure, _, hfind, rfl⟩

theorem Carries.congr {t : EffectStore} {e : Effect} {p : EffectDispatchPermitPayload}
    (h : Carries t e p) (happrovals : t.approvals = s.approvals) (hclaims : t.claims = s.claims) :
    Carries s e p :=
  ⟨h.requestDigest, h.dispatchKey, h.approval, h.claim, h.fence, happrovals ▸ h.approval_row,
    hclaims ▸ h.claim_row, h.request, happrovals ▸ h.granted⟩

/-- What the authority check has established when it lets a call pass. -/
theorem assertEffectAuthority_spec {request : EffectRequestEnvelope} {requestDigest : Digest}
    {decision : ApprovalDecision} {approval : PermitApproval} {now : UnixMs}
    {policy : EffectConnectorPolicy} {parameters : EffectJsonObject}
    (h : assertEffectAuthority rt request requestDigest decision approval now policy =
      .ok parameters) :
    decision = .approved ∧ approval.requestDigest = requestDigest ∧ approval.ValidAt now := by
  simp only [assertEffectAuthority, bind_eq_ok, refuse_eq_ok, not_or, not_not, not_exists,
    not_and, not_lt, not_le] at h
  obtain ⟨-, ⟨hdecision, hdigest⟩, -, hfrom, -, hexpires, -⟩ := h
  exact ⟨hdecision, hdigest, hfrom, hexpires⟩

theorem parsePermit_eq {permit parsed : EffectDispatchPermit} (h : parsePermit permit = .ok parsed) :
    permit = parsed := by
  simp only [parsePermit, bind_eq_ok, refuse_eq_ok, pure_eq_ok] at h
  obtain ⟨-, -, -, -, rfl⟩ := h
  rfl

theorem issueEffectDispatchPermit_spec {e : Effect} {approvalId attemptId : UuidV7}
    {approval : EffectApproval} {claim : PermitClaim} {revision : ℕ} {issuedAt : UnixMs}
    {issuer : EffectPermitIssuer} {permit : EffectDispatchPermit}
    (h : s.issueEffectDispatchPermit rt id e approvalId approval attemptId claim revision issuedAt
      issuer = .ok permit) :
    approval.decision = .approved ∧ permit.payload = s.permitPayload id e approvalId approval
      attemptId claim revision issuedAt ∧ permit.payload.Refined := by
  simp only [issueEffectDispatchPermit, parsePermit, bind_eq_ok, refuse_eq_ok, pure_eq_ok,
    not_not] at h
  obtain ⟨-, hdecision, -, -, _, -, -, hrefined, -, -, rfl⟩ := h
  exact ⟨hdecision, rfl, hrefined⟩

/-- The permit is the issuer's. -/
structure Signed (rt : EffectRuntime) (issuer : EffectPermitIssuer) (permit : EffectDispatchPermit) :
    Prop where
  admitted : rt.admits (.permit permit.payload)
  signature : issuer.sign (canonical permit.payload) = .ok permit.signature
  algorithm : permit.algorithm = issuer.algorithm
  keyId : permit.keyId = issuer.keyId
  refined : permit.payload.Refined
  parsed : parsePermit permit = .ok permit

theorem issueEffectDispatchPermit_signed {e : Effect} {approvalId attemptId : UuidV7}
    {approval : EffectApproval} {claim : PermitClaim} {revision : ℕ} {issuedAt : UnixMs}
    {issuer : EffectPermitIssuer} {permit : EffectDispatchPermit}
    (h : s.issueEffectDispatchPermit rt id e approvalId approval attemptId claim revision issuedAt
      issuer = .ok permit) : Signed rt issuer permit := by
  have hrefined := (issueEffectDispatchPermit_spec h).2.2
  simp only [issueEffectDispatchPermit, EffectRuntime.assertCanonical, bind_eq_ok, refuse_eq_ok] at h
  obtain ⟨-, -, -, hadmits, signature, hsign, hparse⟩ := h
  obtain rfl : _ = permit := parsePermit_eq hparse
  exact ⟨by simpa using hadmits, hsign, rfl, rfl, hrefined, hparse⟩

theorem replayDispatch_spec {record : IdempotencyRecord} {issuer : EffectPermitIssuer}
    {e : Effect} {permit : EffectDispatchPermit}
    (h : s.replayDispatch rt record issuer = .ok (e, permit)) :
    permit.payload.effectId = record.resultId ∧ s.effects[record.resultId]? = some e ∧
      (e.status = .executing ∨ e.status = .indeterminate) ∧
      record.resultRevision = some permit.payload.effectRevision ∧ Carries s e permit.payload := by
  simp only [replayDispatch, bind_eq_ok, refuse_eq_ok, demand_eq_ok, pure_eq_ok, Prod.mk.injEq,
    Option.filter_eq_some_iff, decide_eq_true_eq] at h
  obtain ⟨_, hprior, -, hstatus, startedAt, -, attemptId, -, approvalId, hauthorized, claimId,
    hclaimId, fence, hfence, revision, hrevision, _, hdecided, approval, ⟨rfl, hdecision⟩, claim,
    ⟨hclaim, rfl⟩, holder, -, _, hissue, rfl, rfl⟩ := h
  obtain ⟨hrow, -⟩ := priorEffect_eq_ok hprior
  obtain ⟨-, hpayload, -⟩ := issueEffectDispatchPermit_spec hissue
  have hread := getEffectApproval_eq_some hdecided
  rw [hpayload]
  refine ⟨rfl, hrow, ?_, hrevision, rfl, rfl, hauthorized, hclaimId, hfence,
    ⟨approval, hread.1, hdecision, rfl⟩, ⟨claim, hclaim, rfl⟩, ⟨rfl, rfl⟩,
    ⟨approval, hread.1, hread.2, rfl⟩⟩
  rw [not_and_or, not_not, not_not] at hstatus
  exact hstatus

/-- The decisions of an effect are its rows, as long as a reader accepts each. -/
theorem listEffectApprovals_eq_ok {approvals : List (UuidV7 × EffectApproval)} :
    s.listEffectApprovals id = .ok approvals ↔
      (∀ row ∈ Table.rows s.approvals fun _ a => a.effectId = id, row.2.Readable) ∧
        (Table.rows s.approvals fun _ a => a.effectId = id) = approvals := by
  have hread : ∀ row ∈ Table.rows s.approvals fun _ a => a.effectId = id, ∀ y,
      Prod.mk row.1 <$> parseApproval row.1 row.2 = .ok y ↔ row.2.Readable ∧ row = y := by
    intro row _ y
    simp only [map_eq_ok, parseApproval_eq_ok]
    constructor
    · rintro ⟨_, ⟨hread, rfl⟩, rfl⟩
      exact ⟨hread, rfl⟩
    · rintro ⟨hread, rfl⟩
      exact ⟨row.2, ⟨hread, rfl⟩, rfl⟩
  rw [listEffectApprovals, mapM_eq_ok hread, List.map_id']

/-- The current decision is the one decision of the effect that none supersedes. -/
theorem getEffectiveEffectApproval_eq_ok {current : Option (UuidV7 × EffectApproval)}
    (h : s.getEffectiveEffectApproval id = .ok current) :
    ∃ approvals, approvals = (Table.rows s.approvals fun _ a => a.effectId = id) ∧
      ((approvals = [] ∧ current = none) ∨ ∃ leaf, leaves approvals = [leaf] ∧ current = leaf) := by
  simp only [getEffectiveEffectApproval, bind_eq_ok] at h
  obtain ⟨approvals, hlist, h⟩ := h
  refine ⟨approvals, (listEffectApprovals_eq_ok.1 hlist).2.symm, ?_⟩
  split at h
  · rename_i hnil
    rw [pure_eq_ok] at h
    exact .inl ⟨hnil, h.symm⟩
  · simp only [bind_eq_ok, refuse_eq_ok, pure_eq_ok, not_not] at h
    obtain ⟨-, hlength, rfl⟩ := h
    obtain ⟨leaf, hleaf⟩ := List.length_eq_one_iff.1 hlength
    exact .inr ⟨leaf, hleaf, by rw [hleaf]; rfl⟩

/-- The current decision is a row of the effect. -/
theorem getEffectiveEffectApproval_row {c : UuidV7 × EffectApproval}
    (h : s.getEffectiveEffectApproval id = .ok (some c)) :
    s.approvals[c.1]? = some c.2 ∧ c.2.effectId = id ∧ c.2.Readable := by
  have hlisted := h
  simp only [getEffectiveEffectApproval, bind_eq_ok] at hlisted
  obtain ⟨listed, hlist, -⟩ := hlisted
  obtain ⟨approvals, rfl, ⟨-, hnone⟩ | ⟨leaf, hleaf, hc⟩⟩ := getEffectiveEffectApproval_eq_ok h
  · cases hnone
  · obtain rfl := Option.some.inj hc
    have hmem : c ∈ leaves (Table.rows s.approvals fun _ a => a.effectId = id) := by simp [hleaf]
    have hrows := (List.mem_filter.1 hmem).1
    obtain ⟨hrow, heffect⟩ := Table.mem_rows.1 hrows
    exact ⟨hrow, by simpa using heffect, (listEffectApprovals_eq_ok.1 hlist).1 c hrows⟩

/-- The policy has let the dispatch of the payload pass at some time. -/
def Vets (rt : EffectRuntime) (policy : EffectConnectorPolicy) (p : EffectDispatchPermitPayload) :
    Prop :=
  ∃ now parameters, assertEffectAuthority rt p.request p.requestDigest .approved p.approval now
    policy = .ok parameters

/-- What beginning an execution does: it answers for an earlier call, or enters `executing`. -/
theorem beginEffectExecution_spec {options : BeginOptions} {ctx : PrincipalContext} {e : Effect}
    {permit : EffectDispatchPermit}
    (h : s.beginEffectExecution rt id options ctx = .ok (s', e, permit)) :
    (Bookkept s s' ∧ ∃ record, Replays s record e permit.payload) ∨
      ∃ old approval claim callerId, Begins s s' id old e options.claimId claim ∧
        Entitled s id old ctx.now callerId approval options.claimId claim ∧
        CallerIs rt s ctx callerId ∧ permit.payload.effectId = id ∧
        permit.payload.effectRevision = e.revision ∧ Carries s e permit.payload ∧
        Vets rt options.policy permit.payload := by
  simp only [beginEffectExecution, bind_eq_ok, Prod.exists] at h
  obtain ⟨s₁, prior, identity, hretry, h⟩ := h
  obtain ⟨hkept₁, hprior, hop⟩ := retryResult_spec hretry
  cases prior with
  | some record =>
    simp only [bind_eq_ok, Prod.exists, pure_eq_ok, Prod.mk.injEq] at h
    obtain ⟨_, _, hreplay, rfl, rfl, rfl⟩ := h
    obtain ⟨heffectId, hrow, hstatus, hrevision, hcarries⟩ := replayDispatch_spec hreplay
    rw [hkept₁.effects] at hrow
    refine .inl ⟨hkept₁, record, hprior record rfl, heffectId, hrow, hstatus, hrevision,
      hcarries.congr hkept₁.approvals hkept₁.claims⟩
  | none =>
    simp only [bind_eq_ok, Prod.exists, demand_eq_ok, refuse_eq_ok, pure_eq_ok, Prod.mk.injEq,
      Option.filter_eq_some_iff, decide_eq_true_eq, not_not] at h
    obtain ⟨_, hfound, before, rfl, -, hauthorized, attemptId, hattemptId, current, hcurrent,
      approvalId, approval, ⟨rfl, hauthorizing, hdecision⟩, attempt, ⟨hattempt, -, -, -⟩, claim,
      ⟨hclaim, htask, hlive, hfence⟩, holder, ⟨hholder, -⟩, -, -, s₂, caller, hcaller, -, hcallerId,
      _, hauthority, s₃, row, hset, after, hparse, permit', hissue, s₄, hevent, s₅, hsave, rfl,
      rfl, rfl⟩ := h
    have hkept₂ := hkept₁.trans (contextPrincipal_spec hcaller)
    obtain ⟨hrow, -⟩ := getEffect_eq_some.1 hfound
    obtain ⟨old, hold, -, hnew, hupdates, rfl⟩ := setEffect_eq_ok.1 hset
    rw [hkept₁.effects] at hrow
    rw [hkept₂.effects] at hold
    obtain rfl : old = before := Option.some.inj (hold.symm.trans hrow)
    obtain ⟨-, rfl⟩ := EffectRuntime.parseEffect_eq_ok.1 hparse
    rw [getEffectiveEffectApproval_congr hkept₁.approvals] at hcurrent
    obtain ⟨-, hdigest, hvalid⟩ := assertEffectAuthority_spec hauthority
    obtain ⟨-, hpayload, -⟩ := issueEffectDispatchPermit_spec hissue
    obtain ⟨hsame₅, hrecords⟩ := saveIdempotencyResult_spec hop hsave
    have hkept₄ := recordEvent_spec hevent
    have happroval := getEffectiveEffectApproval_row hcurrent
    rw [hkept₁.claims] at hclaim
    have hstatus : row.status = .executing := by rw [← hnew]
    refine .inr ⟨old, (approvalId, approval), claim, caller.id, ?_, ?_, ?_, ?_, ?_, ?_, ?_⟩
    · refine ⟨?_, hauthorized, hstatus, ?_, ?_, ?_, ?_⟩
      · refine rewrites_of_updates hold hupdates (fun hcancelled => ?_) ?_
        · rw [hstatus] at hcancelled
          cases hcancelled
        · rw [hsame₅, hkept₄.effects, hkept₂.effects]
      · rw [← hnew]
        exact ⟨rfl, rfl, rfl⟩
      · rw [hsame₅, hkept₄.approvals, hkept₂.approvals]
      · rw [hsame₅, hkept₄.receipts, hkept₂.receipts]
      · intro r hr hbegin
        rcases hrecords r hr with hmem | ⟨-, hresult, hrevision⟩
        · exact .inl (hkept₂.dispatches r (hkept₄.dispatches r hmem hbegin) hbegin)
        · exact .inr ⟨hresult, hrevision⟩
    · exact ⟨hcurrent, hauthorizing.symm, hdecision, hdigest, hvalid, hclaim, htask, hlive,
        hcallerId ▸ hholder⟩
    · exact callerIs_of_retries (retryResult_same hretry) ⟨s₂, caller, hcaller, rfl⟩
    · rw [hpayload]
      rfl
    · rw [hpayload]
      rfl
    · rw [hpayload]
      refine ⟨rfl, rfl, ?_, ?_, ?_, ?_, ?_, ?_, ?_⟩
      · rw [← hnew]
        exact hauthorizing.symm
      · rw [← hnew]
        rfl
      · rw [← hnew]
        rfl
      · exact ⟨_, happroval.1, hdecision, rfl⟩
      · exact ⟨claim, hclaim, rfl⟩
      · exact ⟨rfl, rfl⟩
      · exact ⟨_, happroval.1, happroval.2.2, rfl⟩
    · rw [hdecision] at hauthority
      rw [hpayload, ← hnew]
      exact ⟨ctx.now, _, hauthority⟩

/-! ### Receipts -/

theorem insertEvidence_spec {ev : TaskEvidence} (h : s.insertEvidence id ev = .ok s') :
    s' = { s with evidence := s'.evidence } := by
  simp only [insertEvidence, bind_eq_ok, refuse_eq_ok, pure_eq_ok] at h
  obtain ⟨-, -, -, -, rfl⟩ := h
  rfl

theorem insertReceipt_spec {r : EffectReceipt} (h : s.insertReceipt id r = .ok s') :
    id ∉ s.receipts ∧ { s with receipts := s.receipts.insert id r } = s' := by
  simp only [insertReceipt, bind_eq_ok, refuse_eq_ok, pure_eq_ok, not_or] at h
  obtain ⟨-, -, -, -, -, -, -, -, -, -, -, -, -, -, -, ⟨hfresh, -⟩, -, -, -, -, hs⟩ := h
  exact ⟨hfresh, hs⟩

/-- Uncertainty follows execution alone. -/
theorem assertOutcomeAllowed_spec {report : EffectReceiptReport} {target : Effect} {u : Unit}
    (h : assertOutcomeAllowed report target = .ok u) (houtcome : report.outcome = .indeterminate) :
    target.status = .executing := by
  rw [assertOutcomeAllowed, if_pos houtcome, refuse_eq_ok, not_or, not_not] at h
  exact h.1

theorem recordEffectReceipt_spec {input : EffectReceiptInput} {expectedRevision : ℕ}
    {verifier : EffectReceiptVerifier} {ctx : PrincipalContext}
    {freshReceiptId freshEvidenceId : UuidV7} {r : EffectReceipt}
    (h : s.recordEffectReceipt rt input expectedRevision verifier ctx freshReceiptId
      freshEvidenceId = .ok (s', r)) :
    SameLedger s s' ∨ ∃ id old new receiptId r, Resolves s s' id old new receiptId r := by
  simp only [recordEffectReceipt, bind_eq_ok] at h
  obtain ⟨prepared, hprepared, -, -, h⟩ := h
  have hreport : prepared.canonicalReport = canonical prepared.report := by
    simp only [EffectRuntime.prepareEffectReceiptReport, bind_eq_ok, pure_eq_ok] at hprepared
    obtain ⟨-, -, rfl⟩ := hprepared
    rfl
  cases hprior : (s.deliveries prepared.report.connectorInstanceRef
      prepared.report.externalReceiptId).head? with
  | some prior =>
    simp only [hprior, bind_eq_ok, pure_eq_ok, Prod.mk.injEq] at h
    obtain ⟨-, -, _, -, rfl, -⟩ := h
    exact .inl Bookkept.refl.sameLedger
  | none =>
    simp only [hprior, bind_eq_ok, Prod.exists, demand_eq_ok, refuse_eq_ok, pure_eq_ok,
      Prod.mk.injEq, not_not] at h
    obtain ⟨_, hfound, target, rfl, -, -, -, hstatus, attemptId, -, approvalId, hauthorized, -, -, -,
      -, _, hallowed, s₁, caller, hcaller, verified, -, -, -, -, -, -, -, -, -, s₂, hevidence, s₃,
      hreceipt, s₄, row, hset, s₅, hevent, s₆, hevent', _, -, result, -, rfl, -⟩ := h
    have hkept₁ := contextPrincipal_spec hcaller
    have hsame₂ := insertEvidence_spec hevidence
    obtain ⟨hfresh, rfl⟩ := insertReceipt_spec hreceipt
    obtain ⟨old, hold, -, hnew, hupdates, rfl⟩ := setEffect_eq_ok.1 hset
    have hkept₆ := (recordEvent_spec hevent).trans (recordEvent_spec hevent')
    have heffects : s₂.effects = s.effects := by rw [hsame₂, hkept₁.effects]
    have hreceipts : s₂.receipts = s.receipts := by rw [hsame₂, hkept₁.receipts]
    have happrovals : s₂.approvals = s.approvals := by rw [hsame₂, hkept₁.approvals]
    have hretries : s₂.retries = s₁.retries := by rw [hsame₂]
    obtain ⟨hrow, -⟩ := getEffect_eq_some.1 hfound
    rw [heffects] at hold
    obtain rfl : old = target := Option.some.inj (hold.symm.trans hrow)
    have hstatus' : row.status = prepared.report.outcome.status := by rw [← hnew]
    refine .inr ⟨prepared.report.effectId, old, row, input.id.getD freshReceiptId,
      receiptRow old attemptId approvalId (input.evidenceId.getD freshEvidenceId) prepared verified
        caller ctx.now, ?_, ?_, ?_, ?_, ?_, by rw [← hnew], rfl, ?_, ?_, ?_, ?_⟩
    · refine rewrites_of_updates hold hupdates (fun hcancelled => ?_) ?_
      · rw [hstatus'] at hcancelled
        cases hcase : prepared.report.outcome <;> rw [hcase] at hcancelled <;> cases hcancelled
      · rw [hkept₆.effects, heffects]
    · rw [not_and_or, not_not, not_not] at hstatus
      exact hstatus
    · rw [hstatus']
      change _ = prepared.canonicalReport.outcome.status
      rw [hreport]
      rfl
    · intro houtcome
      change prepared.canonicalReport.outcome = _ at houtcome
      rw [hreport] at houtcome
      exact assertOutcomeAllowed_spec hallowed houtcome
    · rw [← hnew]
      exact ⟨rfl, rfl, rfl⟩
    · rwa [hreceipts] at hfresh
    · rw [hkept₆.approvals, happrovals]
    · rw [hkept₆.receipts, hreceipts]
    · refine NoNewDispatch.trans hkept₁.dispatches (NoNewDispatch.trans ?_ hkept₆.dispatches)
      exact noNewDispatch_of_eq hretries

/-! ### Claims -/

/-- Only claims may differ. -/
theorem updateClaim_spec {old new : LeasedClaim} {f : LeasedClaim → LeasedClaim}
    {expectedRevision : Option ℕ} (h : s.updateClaim id old f expectedRevision = .ok (s', new)) :
    s' = { s with claims := s'.claims } := by
  simp only [updateClaim, bind_eq_ok, pure_eq_ok, Prod.mk.injEq] at h
  obtain ⟨-, -, -, -, -, -, _, -, rfl, -⟩ := h
  rfl

theorem insertClaim_spec {c : LeasedClaim} (h : s.insertClaim id c = .ok s') :
    s' = { s with claims := s'.claims } := by
  simp only [insertClaim, bind_eq_ok, pure_eq_ok] at h
  obtain ⟨-, -, -, -, -, -, -, -, -, -, -, -, rfl⟩ := h
  rfl

theorem sameLedger_of_claims {claims : Table UuidV7 LeasedClaim}
    (h : s' = { s with claims := claims }) : SameLedger s s' := by
  subst h
  exact ⟨rfl, rfl, rfl, fun _ hr _ => hr⟩

theorem expireClaim_spec {current : Option (UuidV7 × LeasedClaim)} {now : UnixMs}
    (h : s.expireClaim current now = .ok s') : SameLedger s s' := by
  cases current with
  | none =>
    simp only [expireClaim, pure_eq_ok] at h
    subst h
    exact Bookkept.refl.sameLedger
  | some row =>
    simp only [expireClaim, bind_eq_ok, Prod.exists, pure_eq_ok] at h
    obtain ⟨t, _, hupdate, rfl⟩ := h
    exact sameLedger_of_claims (updateClaim_spec hupdate)

theorem acquireTaskClaim_sameLedger {options : AcquireClaimOptions} {ctx : PrincipalContext}
    {freshId : UuidV7} {c : LeasedClaim}
    (h : s.acquireTaskClaim rt id options ctx freshId = .ok (s', c)) : SameLedger s s' := by
  simp only [acquireTaskClaim, bind_eq_ok, Prod.exists] at h
  obtain ⟨leaseMs, -, -, -, s₁, prior, identity, hretry, h⟩ := h
  obtain ⟨hkept₁, -, hop⟩ := retryResult_spec hretry
  cases prior with
  | some record =>
    simp only [bind_eq_ok, pure_eq_ok, Prod.mk.injEq] at h
    obtain ⟨_, -, rfl, -⟩ := h
    exact hkept₁.sameLedger
  | none =>
    simp only [bind_eq_ok, Prod.exists] at h
    obtain ⟨linkedTask, -, s₂, caller, hcaller, -, -, -, -, -, -, -, -, current, -, -, -, -, -, -, -,
      h⟩ := h
    have hkept₂ := hkept₁.trans (contextPrincipal_spec hcaller)
    cases hlive : current.filter fun c => ctx.now < c.2.expiresAt with
    | some live =>
      simp only [hlive, bind_eq_ok, Prod.exists, pure_eq_ok, Prod.mk.injEq] at h
      obtain ⟨s₃, renewed, hupdate, s₄, hevent, s₅, hsave, rfl, -⟩ := h
      have hkept₅ := (recordEvent_spec hevent).trans
        (saveIdempotencyResult_bookkept hop (by decide) hsave)
      exact hkept₂.sameLedger.trans
        ((sameLedger_of_claims (updateClaim_spec hupdate)).trans hkept₅.sameLedger)
    | none =>
      simp only [hlive, bind_eq_ok, pure_eq_ok, Prod.mk.injEq] at h
      obtain ⟨s₃, hexpire, s₄, hinsert, _, -, s₅, hevent, s₆, hsave, rfl, -⟩ := h
      have hkept₆ := (recordEvent_spec hevent).trans
        (saveIdempotencyResult_bookkept hop (by decide) hsave)
      exact hkept₂.sameLedger.trans ((expireClaim_spec hexpire).trans
        ((sameLedger_of_claims (insertClaim_spec hinsert)).trans hkept₆.sameLedger))

theorem releaseTaskClaim_sameLedger {options : ReleaseClaimOptions} {ctx : PrincipalContext}
    {c : LeasedClaim} (h : s.releaseTaskClaim rt id options ctx = .ok (s', c)) :
    SameLedger s s' := by
  simp only [releaseTaskClaim, bind_eq_ok, Prod.exists] at h
  obtain ⟨s₁, prior, identity, hretry, h⟩ := h
  obtain ⟨hkept₁, -, hop⟩ := retryResult_spec hretry
  cases prior with
  | some record =>
    simp only [bind_eq_ok, pure_eq_ok, Prod.mk.injEq] at h
    obtain ⟨_, -, rfl, -⟩ := h
    exact hkept₁.sameLedger
  | none =>
    simp only [bind_eq_ok, Prod.exists, pure_eq_ok, Prod.mk.injEq] at h
    obtain ⟨_, -, _, -, _, _, -, -, -, s₂, caller, hcaller, -, -, s₃, _, hupdate, s₄, hevent, s₅,
      hsave, rfl, -⟩ := h
    have hkept₂ := hkept₁.trans (contextPrincipal_spec hcaller)
    have hkept₅ := (recordEvent_spec hevent).trans
      (saveIdempotencyResult_bookkept hop (by decide) hsave)
    exact hkept₂.sameLedger.trans
      ((sameLedger_of_claims (updateClaim_spec hupdate)).trans hkept₅.sameLedger)

end EffectStore

end Tasq
