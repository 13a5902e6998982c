import Mathlib.Tactic
import Tasq.EffectLedger.Permits

/-! Permits at the connector. The ledger and the connector derive the identity of a request, the
    signed payload and the window of a dispatch on their own, and agree: an issued permit is
    accepted until the earlier of its expiries, under the policy that let its execution begin, and
    what is accepted is what was issued. -/

namespace Tasq

open Text Outcome Run Chain

/-- The decision of the policy does not depend on the clock. -/
def EffectConnectorPolicy.ClockBlind (policy : EffectConnectorPolicy) : Prop :=
  ∀ query now, policy.evaluateAuthority { query with now } = policy.evaluateAuthority query

/-- From the issue of the permit up to the earlier of the expiries that it carries. -/
def EffectDispatchPermitPayload.InWindow (p : EffectDispatchPermitPayload) (now : UnixMs) : Prop :=
  p.issuedAt ≤ now ∧ now < p.claim.expiresAt ∧ ∀ t ∈ p.approval.expiresAt, now < t

/-- The verifier accepts what the issuer signs. -/
def EffectPermitIssuer.VerifiedBy (issuer : EffectPermitIssuer) (verifier : EffectPermitVerifier) :
    Prop :=
  ∀ payload signature, issuer.sign payload = .ok signature →
    verifier.verify ⟨payload, issuer.algorithm, issuer.keyId, signature⟩ = true

/-- The request of the payload is its own canonical form, and its digest and its dispatch key are
    derived from it. -/
structure EffectDispatchPermitPayload.Derived (rt : EffectRuntime)
    (p : EffectDispatchPermitPayload) : Prop where
  prepared : ∃ prepared, rt.prepareEffectRequest p.request = .ok prepared ∧
    prepared.canonicalRequest = p.canonicalRequest ∧ prepared.requestDigest = p.requestDigest ∧
    rt.deriveEffectDispatchKey p.effectId prepared = p.dispatchIdempotencyKey
  canonical : canonical p = p

theorem canonical_payload (p : EffectDispatchPermitPayload) : canonical p =
    { p with
      request := canonical p.request
      approval :=
        { p.approval with
          scope := canonical p.approval.scope
          limits := canonical p.approval.limits
          verification := canonical p.approval.verification } } := rfl

/-! ### The check at the connector -/

variable {rt : EffectRuntime} {policy : EffectConnectorPolicy} {now : UnixMs}

/-- What the authority check looks at besides the clock. -/
structure LetsPass (rt : EffectRuntime) (policy : EffectConnectorPolicy)
    (request : EffectRequestEnvelope) (requestDigest : Digest) (approval : PermitApproval)
    (now : UnixMs) (parameters : EffectJsonObject) : Prop where
  exact : approval.requestDigest = requestDigest
  valid : approval.ValidAt now
  bound : assertPolicyBinding request policy = .ok ()
  parsed : policy.parseParameters request.parameters = .ok parameters
  admitted : rt.admits (.object request.parameters) ∧ rt.admits (.object parameters)
  unchanged : canonical parameters = canonical request.parameters
  allowed : ∃ verdict, policy.evaluateAuthority ⟨parameters, request.secretBindings,
    approval.scope, approval.limits, approval.approverPrincipalId, approval.verificationLevel,
    approval.verification, now⟩ = .ok verdict ∧
      ¬ (Blank verdict.reasonCode ∨ Blank verdict.explanation) ∧ verdict.allowed = true

theorem assertEffectAuthority_eq_ok {request : EffectRequestEnvelope} {requestDigest : Digest}
    {approval : PermitApproval} {parameters : EffectJsonObject} :
    assertEffectAuthority rt request requestDigest .approved approval now policy =
      .ok parameters ↔ LetsPass rt policy request requestDigest approval now parameters := by
  simp only [assertEffectAuthority, EffectRuntime.assertCanonical, bind_eq_ok, refuse_eq_ok,
    pure_eq_ok, exists_const]
  constructor
  · rintro ⟨hexact, hfrom, hexpires, _, hbound, parsed, hparsed, hadmits, hadmits', hsame,
      verdict, hverdict, hblank, hallowed, rfl⟩
    refine ⟨by simpa using hexact, ⟨?_, ?_⟩, hbound, hparsed, ⟨by simpa using hadmits,
      by simpa using hadmits'⟩, not_not.1 hsame, verdict, hverdict, hblank, by simpa using hallowed⟩
    · exact fun v hv => not_lt.1 fun hlt => hfrom ⟨v, hv, hlt⟩
    · exact fun t ht => not_le.1 fun hle => hexpires ⟨t, ht, hle⟩
  · intro h
    obtain ⟨verdict, hverdict, hblank, hallowed⟩ := h.allowed
    refine ⟨by simpa using h.exact, ?_, ?_, (), h.bound, parameters, h.parsed, by simp [h.admitted.1],
      by simp [h.admitted.2], not_not.2 h.unchanged, verdict, hverdict, hblank, by simp [hallowed],
      rfl⟩
    · rintro ⟨v, hv, hlt⟩
      exact absurd (h.valid.1 v hv) (not_le.2 hlt)
    · rintro ⟨t, ht, hle⟩
      exact absurd (h.valid.2 t ht) (not_lt.2 hle)

/-- What a clock-blind policy has let pass it lets pass while the approval is valid. -/
theorem LetsPass.later {request : EffectRequestEnvelope} {requestDigest : Digest}
    {approval : PermitApproval} {parameters : EffectJsonObject} {t : UnixMs}
    (h : LetsPass rt policy request requestDigest approval t parameters)
    (hblind : policy.ClockBlind) (hvalid : approval.ValidAt now) :
    LetsPass rt policy request requestDigest approval now parameters := by
  obtain ⟨verdict, hverdict, hpasses⟩ := h.allowed
  refine { h with valid := hvalid, allowed := ⟨verdict, ?_, hpasses⟩ }
  rw [← hverdict]
  exact hblind ⟨parameters, request.secretBindings, approval.scope, approval.limits,
    approval.approverPrincipalId, approval.verificationLevel, approval.verification, t⟩ now

theorem vets_iff {p : EffectDispatchPermitPayload} : EffectStore.Vets rt policy p ↔
    ∃ t parameters, LetsPass rt policy p.request p.requestDigest p.approval t parameters := by
  simp only [EffectStore.Vets, assertEffectAuthority_eq_ok]

/-- What the connector has established when it accepts a permit. -/
structure ConnectorAccepts (rt : EffectRuntime) (policy : EffectConnectorPolicy)
    (verifier : EffectPermitVerifier) (now : UnixMs) (permit : EffectDispatchPermit)
    (parameters : EffectJsonObject) : Prop where
  parsed : parsePermit permit = .ok permit
  admitted : rt.admits (.permit permit.payload)
  verified : verifier.verify { permit with payload := canonical permit.payload } = true
  started : permit.payload.issuedAt ≤ now
  live : now < permit.payload.claim.expiresAt
  prepared : ∃ prepared, rt.prepareEffectRequest permit.payload.request = .ok prepared ∧
    prepared.canonicalRequest = permit.payload.canonicalRequest ∧
    prepared.requestDigest = permit.payload.requestDigest ∧
    rt.deriveEffectDispatchKey permit.payload.effectId prepared =
      permit.payload.dispatchIdempotencyKey
  passes : LetsPass rt policy permit.payload.request permit.payload.requestDigest
    permit.payload.approval now parameters

theorem enforceEffectDispatch_eq_ok {permit : EffectDispatchPermit}
    {verifier : EffectPermitVerifier} {answer : EffectDispatchPermit × EffectJsonObject} :
    enforceEffectDispatch rt permit policy verifier now = .ok answer ↔
      answer.1 = permit ∧ ConnectorAccepts rt policy verifier now permit answer.2 := by
  simp only [enforceEffectDispatch, EffectRuntime.assertCanonical, bind_eq_ok, refuse_eq_ok,
    pure_eq_ok, exists_const, assertEffectAuthority_eq_ok]
  constructor
  · rintro ⟨parsed, hparsed, hadmits, hverified, hstarted, hlive, prepared, hprepared, hidentity,
      hkey, parameters, hpasses, rfl⟩
    obtain rfl := EffectStore.parsePermit_eq hparsed
    obtain ⟨hcanonical, hdigest⟩ := not_or.1 hidentity
    exact ⟨rfl, hparsed, by simpa using hadmits, by simpa using hverified, not_lt.1 hstarted,
      not_le.1 hlive, ⟨prepared, hprepared, not_not.1 hcanonical, not_not.1 hdigest, not_not.1 hkey⟩,
      hpasses⟩
  · rintro ⟨hsame, h⟩
    obtain ⟨prepared, hprepared, hcanonical, hdigest, hkey⟩ := h.prepared
    exact ⟨permit, h.parsed, by simp [h.admitted], by simp [h.verified], not_lt.2 h.started,
      not_le.2 h.live, prepared, hprepared, not_or.2 ⟨not_not.2 hcanonical, not_not.2 hdigest⟩,
      not_not.2 hkey, answer.2, h.passes, Prod.ext hsame.symm rfl⟩

/-- EXACT: in its window, a signed permit of a derived request is accepted under a clock-blind
    policy exactly when the policy lets its dispatch pass. -/
theorem accepted_iff {issuer : EffectPermitIssuer} {verifier : EffectPermitVerifier}
    {permit : EffectDispatchPermit} (hsigned : EffectStore.Signed rt issuer permit)
    (hderived : permit.payload.Derived rt) (hverified : issuer.VerifiedBy verifier)
    (hblind : policy.ClockBlind) (hwindow : permit.payload.InWindow now) :
    (∃ parameters, enforceEffectDispatch rt permit policy verifier now =
      .ok (permit, parameters)) ↔ EffectStore.Vets rt policy permit.payload := by
  rw [vets_iff]
  constructor
  · rintro ⟨parameters, h⟩
    exact ⟨now, parameters, (enforceEffectDispatch_eq_ok.1 h).2.passes⟩
  · rintro ⟨t, parameters, hpasses⟩
    refine ⟨parameters, enforceEffectDispatch_eq_ok.2 ⟨rfl, hsigned.parsed, hsigned.admitted, ?_,
      hwindow.1, hwindow.2.1, hderived.prepared, ?_⟩⟩
    · have hverifies := hverified _ _ hsigned.signature
      rw [← hsigned.algorithm, ← hsigned.keyId] at hverifies
      exact hverifies
    · have hfrom : ∀ v ∈ permit.payload.approval.validFrom, v ≤ now := fun v hv =>
        (hsigned.refined.approval_valid.1 v hv).trans hwindow.1
      exact hpasses.later hblind ⟨hfrom, hwindow.2.2⟩

/-- An execution begins with `executing`. -/
theorem EffectStatus.executing_of_begun {old new : EffectStatus}
    (hold : old ∉ [EffectStatus.executing, .indeterminate, .committed, .failed])
    (hnext : new ∈ old.next)
    (hnew : new ∈ [EffectStatus.executing, .indeterminate, .committed, .failed]) :
    new = .executing := by
  cases old <;> cases new <;> simp_all [EffectStatus.next]

namespace EffectStore

variable {s s' : EffectStore} {id : UuidV7}

/-! ### The permit of a call -/

/-- The permit of a call is signed by the issuer of the call. -/
theorem beginEffectExecution_signed {options : BeginOptions} {ctx : PrincipalContext} {e : Effect}
    {permit : EffectDispatchPermit}
    (h : s.beginEffectExecution rt id options ctx = .ok (s', e, permit)) :
    Signed rt options.permitIssuer permit := by
  simp only [beginEffectExecution, bind_eq_ok, Prod.exists] at h
  obtain ⟨s₁, prior, identity, -, h⟩ := h
  cases prior with
  | some record =>
    simp only [replayDispatch, bind_eq_ok, pure_eq_ok, Prod.exists, Prod.mk.injEq] at h
    obtain ⟨_, _, ⟨_, -, _, -, _, -, _, -, _, -, _, -, _, -, _, -, _, -, _, -, _, -, _, -, _, hissue,
      rfl, rfl⟩, rfl, rfl, rfl⟩ := h
    exact issueEffectDispatchPermit_signed hissue
  | none =>
    simp only [bind_eq_ok, pure_eq_ok, Prod.exists, Prod.mk.injEq] at h
    obtain ⟨_, -, _, -, _, -, _, -, _, -, _, _, -, _, -, _, -, _, -, _, -, _, _, -, _, -, _, -, _, _,
      -, _, -, _, hissue, _, -, _, -, rfl, rfl, rfl⟩ := h
    exact issueEffectDispatchPermit_signed hissue

/-- The permit of a call repeats the effect as it is then, and the current rows. -/
theorem begin_carries (hs : Reachable rt s) {options : BeginOptions} {ctx : PrincipalContext}
    {e : Effect} {permit : EffectDispatchPermit}
    (h : s.beginEffectExecution rt id options ctx = .ok (s', e, permit)) :
    Begun s' permit.payload.effectId ∧ ∃ row, s'.effects[permit.payload.effectId]? = some row ∧
      rt.Readable permit.payload.effectId row ∧ Carries s row permit.payload := by
  have hissued : issued rt s (.begin id options ctx) = some permit.payload := by
    simp only [issued, h]
  have hstep : s.step rt (.begin id options ctx) = s' := by
    simp only [step, h]
    rfl
  obtain ⟨row, hrow, -, hbegun, hcarries⟩ := issued_spec hs hissued
  rw [hstep] at hrow
  have hreadable := (hs.step (.begin id options ctx)).allReadable
  rw [hstep] at hreadable
  exact ⟨⟨row, hrow, hbegun.status_mem⟩, row, hrow, hreadable _ row hrow, hcarries⟩

/-- The permit of a call is of a derived request. -/
theorem begin_derived (hs : Reachable rt s) {options : BeginOptions} {ctx : PrincipalContext}
    {e : Effect} {permit : EffectDispatchPermit}
    (h : s.beginEffectExecution rt id options ctx = .ok (s', e, permit)) :
    permit.payload.Derived rt := by
  obtain ⟨-, row, -, hreadable, hcarries⟩ := begin_carries hs h
  obtain ⟨prepared, hprepared, hcanonical, hdigest, hkey⟩ := hreadable.identified
  obtain ⟨hrequest, htext⟩ := hcarries.request
  refine ⟨⟨prepared, ?_, ?_, ?_, ?_⟩, ?_⟩
  · rw [hrequest, hprepared]
  · rw [htext, hcanonical]
  · rw [hcarries.requestDigest, hdigest]
  · rw [hcarries.dispatchKey, hkey]
  · -- the request and the documents of the approval are stored in canonical form
    have hcanonicalRequest : canonical permit.payload.request = permit.payload.request := by
      have hsame := EffectRuntime.prepared_request_eq hprepared hcanonical
      obtain ⟨-, hform, -⟩ := EffectRuntime.prepareEffectRequest_eq_ok hprepared
      rw [hcanonical, hsame] at hform
      rw [hrequest, ← hform]
    obtain ⟨a, -, ⟨hscope, hlimits, hverification, -⟩, hgranted⟩ := hcarries.granted
    have happroval : { permit.payload.approval with
        scope := canonical permit.payload.approval.scope
        limits := canonical permit.payload.approval.limits
        verification := canonical permit.payload.approval.verification } =
          permit.payload.approval := by
      rw [hgranted]
      simp only [EffectApproval.granted, hscope, hlimits, hverification]
    rw [canonical_payload, hcanonicalRequest, happroval]

/-! ### The policy that let an execution begin -/

/-- The execution of the effect has begun, and the policy has let what it began with pass. -/
def BegunUnder (rt : EffectRuntime) (s : EffectStore) (id : UuidV7)
    (policy : EffectConnectorPolicy) : Prop :=
  ∃ e revision approvalId a, s.effects[id]? = some e ∧ BegunAt e revision ∧
    e.authorizedByApprovalId = some approvalId ∧ s.approvals[approvalId]? = some a ∧
    ∃ t parameters, LetsPass rt policy e.request e.requestDigest (a.granted approvalId) t parameters

/-- STEP: a recorded decision stays. -/
theorem Moves.approval_stays (h : Moves rt s s') {k : UuidV7} {a : EffectApproval}
    (ha : s.approvals[k]? = some a) : s'.approvals[k]? = some a := by
  cases h with
  | stays h => rw [h.approvals, ha]
  | proposes _ _ h => rw [h.approvals, ha]
  | decides k' a' h =>
    rw [h.approvals, Table.getElem?_insert', if_neg]
    · exact ha
    · rintro rfl
      exact h.fresh (Table.mem_of_getElem? ha)
  | authorizes _ _ _ h => rw [h.approvals, ha]
  | begins _ _ _ _ _ h => rw [h.approvals, ha]
  | resolves _ _ _ _ _ h => rw [h.approvals, ha]
  | cancels _ _ _ h => rw [h.approvals, ha]

/-- STEP: the policy that let an execution begin is still that. -/
theorem BegunUnder.moves (hs : BegunUnder rt s id policy) (h : Moves rt s s') :
    BegunUnder rt s' id policy := by
  obtain ⟨e, revision, approvalId, a, he, hbegun, happroval, ha, hpasses⟩ := hs
  rcases h.row_after he with hsame | ⟨new, hrewrites⟩
  · exact ⟨e, revision, approvalId, a, hsame, hbegun, happroval, h.approval_stays ha, hpasses⟩
  · obtain ⟨happroval', -, -⟩ := h.rewrites_begun hrewrites hbegun
    obtain ⟨-, -, hrequest, hdigest, -⟩ := hrewrites.identity
    refine ⟨new, revision, approvalId, a, by rw [hrewrites.getElem?, if_pos rfl],
      hbegun.rewrites hrewrites, happroval'.trans happroval, h.approval_stays ha, ?_⟩
    rw [hrequest, hdigest]
    exact hpasses

/-- The policy that let an execution begin lets every permit of it pass. -/
theorem BegunUnder.vets (hs : BegunUnder rt s' id policy) (hmoves : Moves rt s s') {row : Effect}
    {p : EffectDispatchPermitPayload} (hrow : s'.effects[id]? = some row)
    (hcarries : Carries s row p) : Vets rt policy p := by
  obtain ⟨e, -, approvalId, a, he, -, happroval, ha, t, parameters, hpasses⟩ := hs
  obtain rfl := Option.some.inj (he.symm.trans hrow)
  obtain rfl := Option.some.inj (happroval.symm.trans hcarries.approval)
  obtain ⟨a', ha', -, hgranted⟩ := hcarries.granted
  obtain rfl := Option.some.inj (ha.symm.trans (hmoves.approval_stays ha'))
  refine vets_iff.2 ⟨t, parameters, ?_⟩
  rw [hcarries.request.1, hcarries.requestDigest, hgranted]
  exact hpasses

/-- A call that makes an effect enter `executing` lets it begin under its policy. -/
theorem enters_begunUnder {a : EffectAction} (h : Enters s (s.step rt a) id) :
    ∃ options ctx, a = .begin id options ctx ∧ BegunUnder rt (s.step rt a) id options.policy := by
  obtain ⟨options, ctx, p, -, -, -, -, rfl, -, -⟩ := enters_rightful h
  refine ⟨options, ctx, rfl, ?_⟩
  cases hcall : s.beginEffectExecution rt id options ctx with
  | error failure =>
    simp only [step, hcall] at h
    exact absurd h SameLedger.refl.not_enters
  | ok answer =>
    have hstep : s.step rt (.begin id options ctx) = answer.1 := by
      simp only [step, hcall]
      rfl
    rw [hstep] at h ⊢
    rcases beginEffectExecution_spec hcall with ⟨hkept, -⟩ |
      ⟨old, approval, claim, callerId, hbegins, hentitled, -, -, -, hcarries, hvets⟩
    · exact absurd h hkept.sameLedger.not_enters
    · obtain ⟨a, ha, -, hgranted⟩ := hcarries.granted
      refine ⟨answer.2.1, answer.2.1.revision, _, a, ?_, .inl ⟨hbegins.status, rfl⟩,
        hcarries.approval, ?_, ?_⟩
      · rw [hbegins.toRewrites.getElem?, if_pos rfl]
      · rw [hbegins.approvals]
        exact ha
      · rw [← hgranted, ← hcarries.request.1, ← hcarries.requestDigest]
        exact vets_iff.1 hvets

/-- An execution begins where the effect enters `executing`. -/
theorem enters_of_begun (hbefore : ¬ Begun s id) (h : Begun s' id) (hmoves : Moves rt s s') :
    Enters s s' id := by
  obtain ⟨new, hnew, hstatus⟩ := h
  have hnot : ¬ Executing s id := fun ⟨e, he, hexecuting⟩ =>
    hbefore ⟨e, he, by simp [hexecuting]⟩
  refine ⟨⟨new, hnew, ?_⟩, hnot⟩
  rcases hmoves.row_before hnew with ⟨old, hold⟩ | hproposes
  · rcases hmoves.row_after hold with hsame | ⟨new', hrewrites⟩
    · obtain rfl := Option.some.inj (hsame.symm.trans hnew)
      exact absurd ⟨old, hold, hstatus⟩ hbefore
    · rw [hrewrites.getElem?, if_pos rfl] at hnew
      obtain rfl := Option.some.inj hnew
      have hnext := hrewrites.next
      exact EffectStatus.executing_of_begun (fun hmem => hbefore ⟨old, hold, hmem⟩) hnext hstatus
  · rw [hproposes.status] at hstatus
    simp at hstatus

/-- RUN: the execution of an effect that has begun was begun by one call of the run, under a policy
    that let it pass. -/
theorem begun_by {s₀ : EffectStore} (hnone : ¬ Begun s₀ id) (actions : List EffectAction)
    (h : Begun (run (step rt) s₀ actions) id) :
    ∃ before options ctx after, actions = before ++ EffectAction.begin id options ctx :: after ∧
      Enters (run (step rt) s₀ before) (step rt (run (step rt) s₀ before) (.begin id options ctx))
        id ∧
      BegunUnder rt (run (step rt) s₀ actions) id options.policy := by
  induction actions using List.reverseRecOn with
  | nil => exact absurd h hnone
  | append_singleton actions a ih =>
    rw [run_append] at h ⊢
    by_cases hbefore : Begun (run (step rt) s₀ actions) id
    · obtain ⟨before, options, ctx, after, rfl, henters, hunder⟩ := ih hbefore
      exact ⟨before, options, ctx, after ++ [a], by simp, henters, hunder.moves (step_moves a)⟩
    · -- the last call is the one that began it
      have henters : Enters (run (step rt) s₀ actions) (step rt (run (step rt) s₀ actions) a) id :=
        enters_of_begun hbefore h (step_moves a)
      obtain ⟨options, ctx, rfl, hunder⟩ := enters_begunUnder henters
      exact ⟨actions, options, ctx, [], rfl, henters, hunder⟩

/-! ### CORRECT: issued permits are honoured, and no others -/

/-- The permit was answered by a call of the run with the issuer. -/
def HandedOut (rt : EffectRuntime) (s₀ : EffectStore) (actions : List EffectAction)
    (issuer : EffectPermitIssuer) (permit : EffectDispatchPermit) : Prop :=
  ∃ before id options ctx after s' e, actions = before ++ EffectAction.begin id options ctx :: after ∧
    options.permitIssuer = issuer ∧
    (run (step rt) s₀ before).beginEffectExecution rt id options ctx = .ok (s', e, permit)

/-- The signatures on the presented permits are not forged: what the verifier accepts has the
    signature of the issuer; of a presented permit, one that was handed out; and no presented payload
    shares the signature of another that was handed out. -/
structure Unforgeable (rt : EffectRuntime) (s₀ : EffectStore) (actions : List EffectAction)
    (issuer : EffectPermitIssuer) (verifier : EffectPermitVerifier)
    (presented : EffectDispatchPermit → Prop) : Prop where
  genuine : ∀ permit, verifier.verify permit = true →
    issuer.sign permit.payload = .ok permit.signature
  known : ∀ permit, presented permit →
    verifier.verify { permit with payload := canonical permit.payload } = true →
      ∃ given, HandedOut rt s₀ actions issuer given ∧ given.signature = permit.signature
  separate : ∀ given, HandedOut rt s₀ actions issuer given → ∀ permit, presented permit →
    issuer.sign (canonical permit.payload) = .ok given.signature →
      canonical permit.payload = canonical given.payload

theorem handedOut_canonical {workspaceId : String} {work : Coordination} {others : OtherIds}
    {actions : List EffectAction} {issuer : EffectPermitIssuer} {given : EffectDispatchPermit}
    (h : HandedOut rt (opening workspaceId work others) actions issuer given) :
    canonical given.payload = given.payload := by
  obtain ⟨before, id, options, ctx, after, s', e, -, -, hcall⟩ := h
  exact (begin_derived ⟨workspaceId, work, others, before, rfl⟩ hcall).canonical

/-- The call that makes an effect begin lets it begin under its own policy. -/
theorem begunUnder_first {options : BeginOptions} {ctx : PrincipalContext} {k : UuidV7}
    (hbefore : ¬ Begun s k) (h : Begun (s.step rt (.begin id options ctx)) k) :
    BegunUnder rt (s.step rt (.begin id options ctx)) k options.policy := by
  obtain ⟨options', ctx', hsame, hunder⟩ :=
    enters_begunUnder (enters_of_begun hbefore h (step_moves _))
  simp only [EffectAction.begin.injEq] at hsame
  obtain ⟨-, rfl, -⟩ := hsame
  exact hunder

/-- CORRECT: every permit that a call issues is accepted at every reading in its window: of a first
    issue under the policy of the call, of any issue under the policy that let the execution begin,
    and under another policy exactly when it lets the dispatch pass. And a presented permit that is
    accepted has the payload of one that was handed out, so that a handed out permit with another
    payload is refused. -/
theorem permits_honoured (rt : EffectRuntime) (workspaceId : String) (work : Coordination)
    (others : OtherIds) (actions : List EffectAction) :
    (∀ id options ctx s' e permit,
      (run (step rt) (opening workspaceId work others) actions).beginEffectExecution rt id options
        ctx = .ok (s', e, permit) →
      (¬ Begun (run (step rt) (opening workspaceId work others) actions) permit.payload.effectId →
        ∀ verifier, options.permitIssuer.VerifiedBy verifier → options.policy.ClockBlind →
          ∀ now, permit.payload.InWindow now → ∃ parameters,
            enforceEffectDispatch rt permit options.policy verifier now =
              .ok (permit, parameters)) ∧
      (∃ before options' ctx' after, actions ++ [.begin id options ctx] =
          before ++ EffectAction.begin permit.payload.effectId options' ctx' :: after ∧
        Enters (run (step rt) (opening workspaceId work others) before)
          (step rt (run (step rt) (opening workspaceId work others) before)
            (.begin permit.payload.effectId options' ctx')) permit.payload.effectId ∧
        ∀ verifier, options.permitIssuer.VerifiedBy verifier → options'.policy.ClockBlind →
          ∀ now, permit.payload.InWindow now → ∃ parameters,
            enforceEffectDispatch rt permit options'.policy verifier now =
              .ok (permit, parameters)) ∧
      ∀ verifier policy, options.permitIssuer.VerifiedBy verifier → policy.ClockBlind →
        ∀ now, permit.payload.InWindow now →
          ((∃ parameters, enforceEffectDispatch rt permit policy verifier now =
            .ok (permit, parameters)) ↔ Vets rt policy permit.payload)) ∧
    ∀ issuer verifier presented,
      Unforgeable rt (opening workspaceId work others) actions issuer verifier presented →
      (∀ permit, presented permit → ∀ policy now answer,
        enforceEffectDispatch rt permit policy verifier now = .ok answer →
          ∃ given, HandedOut rt (opening workspaceId work others) actions issuer given ∧
            canonical permit.payload = given.payload) ∧
      ∀ given, HandedOut rt (opening workspaceId work others) actions issuer given →
        ∀ payload, presented { given with payload } → canonical payload ≠ given.payload →
          ∀ policy now answer,
            enforceEffectDispatch rt { given with payload } policy verifier now ≠ .ok answer := by
  refine ⟨?_, ?_⟩
  · intro id options ctx s' e permit hcall
    have hs : Reachable rt (run (step rt) (opening workspaceId work others) actions) :=
      ⟨workspaceId, work, others, actions, rfl⟩
    have hsigned := beginEffectExecution_signed hcall
    have hderived := begin_derived hs hcall
    obtain ⟨hbegun, row, hrow, -, hcarries⟩ := begin_carries hs hcall
    have hstep : step rt (run (step rt) (opening workspaceId work others) actions)
        (.begin id options ctx) = s' := by
      rw [step, hcall]
      rfl
    have haccepted : ∀ policy : EffectConnectorPolicy,
        BegunUnder rt s' permit.payload.effectId policy →
          ∀ verifier, options.permitIssuer.VerifiedBy verifier → policy.ClockBlind →
            ∀ now, permit.payload.InWindow now → ∃ parameters,
              enforceEffectDispatch rt permit policy verifier now = .ok (permit, parameters) :=
      fun policy hunder verifier hverified hblind now hwindow =>
        (accepted_iff hsigned hderived hverified hblind hwindow).2
          (hunder.vets (hstep ▸ step_moves _) hrow hcarries)
    refine ⟨fun hfirst => ?_, ?_, fun verifier policy hverified hblind now hwindow =>
      accepted_iff hsigned hderived hverified hblind hwindow⟩
    · refine haccepted options.policy ?_
      rw [← hstep] at hbegun ⊢
      exact begunUnder_first hfirst hbegun
    · -- the effect has begun, by this call or an earlier one
      have hrun : run (step rt) (opening workspaceId work others)
          (actions ++ [.begin id options ctx]) = s' := by
        rw [run_append, run_cons, run_nil, hstep]
      rw [← hrun] at hbegun
      have hnone : ¬ Begun (opening workspaceId work others) permit.payload.effectId := by
        rintro ⟨e, he, -⟩
        simp [opening] at he
      obtain ⟨before, options', ctx', after, hactions, henters, hunder⟩ :=
        begun_by hnone (actions ++ [.begin id options ctx]) hbegun
      exact ⟨before, options', ctx', after, hactions, henters,
        haccepted options'.policy (hrun ▸ hunder)⟩
  · intro issuer verifier presented hunforged
    refine ⟨?_, ?_⟩
    · intro permit hpresented policy now answer h
      have hverified := (enforceEffectDispatch_eq_ok.1 h).2.verified
      obtain ⟨given, hgiven, hsignature⟩ := hunforged.known permit hpresented hverified
      have hsign := hunforged.genuine _ hverified
      rw [← hsignature] at hsign
      refine ⟨given, hgiven, ?_⟩
      rw [← handedOut_canonical hgiven]
      exact hunforged.separate given hgiven permit hpresented hsign
    · intro given hgiven payload hpresented hother policy now answer h
      have hverified := (enforceEffectDispatch_eq_ok.1 h).2.verified
      have hsign := hunforged.genuine _ hverified
      refine hother ?_
      rw [← handedOut_canonical hgiven]
      exact hunforged.separate given hgiven _ hpresented hsign

/-! ### Permits of an authenticator -/

/-- The verifier that signs again and compares, as the keyed authenticator does. -/
def authenticator (issuer : EffectPermitIssuer) : EffectPermitVerifier where
  verify permit := decide (permit.algorithm = issuer.algorithm ∧ permit.keyId = issuer.keyId ∧
    issuer.sign permit.payload = .ok permit.signature)

theorem verifiedBy_authenticator (issuer : EffectPermitIssuer) :
    issuer.VerifiedBy (authenticator issuer) := by
  intro payload signature h
  exact decide_eq_true ⟨rfl, rfl, h⟩

/-- An issuer whose signatures tell fences apart. -/
def fenceIssuer : EffectPermitIssuer :=
  ⟨"hmac-sha256", "k", fun p => pure (String.ofList (List.replicate (31 + p.claim.fence) 'a'))⟩

/-- A call of principal `p` that may be repeated. -/
def keyedCall (now : UnixMs) : PrincipalContext := ⟨none, some "p", some "k", now⟩

/-- The options of the call that begins effect 4 under the policy. -/
def beginUnder (policy : EffectConnectorPolicy) : BeginOptions := ⟨2, 2, 1, policy, fenceIssuer⟩

/-- A policy that denies everything. -/
def denyingPolicy : EffectConnectorPolicy :=
  { plainPolicy with evaluateAuthority := fun _ => pure ⟨false, "no", "no"⟩ }

instance (p : EffectDispatchPermitPayload) (now : UnixMs) : Decidable (p.InWindow now) :=
  inferInstanceAs (Decidable (_ ∧ _ ∧ ∀ t ∈ p.approval.expiresAt, now < t))

/-- Propose, approve and authorize. -/
def authorizedActions : List EffectAction := plainActions.take 3

/-- The permit with another fence. -/
def otherFence (permit : EffectDispatchPermit) : EffectDispatchPermitPayload :=
  { permit.payload with claim := { permit.payload.claim with fence := 2 } }

/-- Of one call that begins, one permit is handed out. -/
theorem handedOut_once {s' : EffectStore} {e : Effect} {permit given : EffectDispatchPermit}
    (hcall : (run (step plainEffectRuntime) (opening "w" plainWork ⟨[], [], [], [], []⟩)
      authorizedActions).beginEffectExecution plainEffectRuntime 4 (beginUnder plainPolicy)
        (keyedCall 13) = .ok (s', e, permit))
    (h : HandedOut plainEffectRuntime (opening "w" plainWork ⟨[], [], [], [], []⟩)
      (authorizedActions ++ [.begin 4 (beginUnder plainPolicy) (keyedCall 13)]) fenceIssuer given) :
    given = permit := by
  obtain ⟨before, id, options, ctx, after, s'', e', hsplit, -, hgiven⟩ := h
  simp only [authorizedActions, plainActions, List.take_succ_cons, List.take_zero, List.cons_append,
    List.nil_append] at hsplit
  rcases before with _ | ⟨a₁, _ | ⟨a₂, _ | ⟨a₃, _ | ⟨a₄, before⟩⟩⟩⟩ <;>
    simp only [List.nil_append, List.cons_append, List.cons.injEq, reduceCtorEq, false_and, and_false,
      EffectAction.begin.injEq, List.nil_eq, List.append_eq_nil_iff] at hsplit
  obtain ⟨rfl, rfl, rfl, ⟨rfl, rfl, rfl⟩, rfl⟩ := hsplit
  have hsame := hcall.symm.trans hgiven
  simp only [Except.ok.injEq, Prod.mk.injEq] at hsame
  exact hsame.2.2.symm

/-- The permit of a first issue is accepted to the end of its window, and refused with another
    fence. -/
theorem permits_honoured_first :
    Ends ((run (step plainEffectRuntime) (opening "w" plainWork ⟨[], [], [], [], []⟩)
      authorizedActions).beginEffectExecution plainEffectRuntime 4 (beginUnder plainPolicy)
        (keyedCall 13)) fun answer =>
      (∃ parameters, enforceEffectDispatch plainEffectRuntime answer.2.2 plainPolicy
        (authenticator fenceIssuer) 89 = .ok (answer.2.2, parameters)) ∧
      ∀ accepted, enforceEffectDispatch plainEffectRuntime
        { answer.2.2 with payload := otherFence answer.2.2 } plainPolicy
          (authenticator fenceIssuer) 89 ≠ .ok accepted := by
  obtain ⟨⟨s', e, permit⟩, hcall, hwindow, heffect, hrefused, hother⟩ :
      Ends ((run (step plainEffectRuntime) (opening "w" plainWork ⟨[], [], [], [], []⟩)
        authorizedActions).beginEffectExecution plainEffectRuntime 4 (beginUnder plainPolicy)
          (keyedCall 13)) fun answer =>
        answer.2.2.payload.InWindow 89 ∧ answer.2.2.payload.effectId = 4 ∧
        fenceIssuer.sign (canonical (otherFence answer.2.2)) ≠ .ok answer.2.2.signature ∧
        canonical (otherFence answer.2.2) ≠ answer.2.2.payload := by
    decide +kernel
  have hstatus : ((run (step plainEffectRuntime) (opening "w" plainWork ⟨[], [], [], [], []⟩)
      authorizedActions).effects[4]?.map Effect.status) = some .authorized := by
    decide +kernel
  have hgiven : HandedOut plainEffectRuntime (opening "w" plainWork ⟨[], [], [], [], []⟩)
      (authorizedActions ++ [.begin 4 (beginUnder plainPolicy) (keyedCall 13)]) fenceIssuer permit :=
    ⟨_, 4, beginUnder plainPolicy, keyedCall 13, [], s', e, rfl, rfl, hcall⟩
  -- the permit is presented as it is and with the other fence
  have hunforged : Unforgeable plainEffectRuntime (opening "w" plainWork ⟨[], [], [], [], []⟩)
      (authorizedActions ++ [.begin 4 (beginUnder plainPolicy) (keyedCall 13)]) fenceIssuer
      (authenticator fenceIssuer) fun p =>
        p = permit ∨ p = { permit with payload := otherFence permit } := by
    refine ⟨fun p hp => (of_decide_eq_true hp).2.2, ?_, ?_⟩
    · rintro p (rfl | rfl) hverified
      · exact ⟨p, hgiven, rfl⟩
      · exact absurd (of_decide_eq_true hverified).2.2 hrefused
    · rintro given hg p (rfl | rfl) hsign
      · rw [handedOut_once hcall hg]
      · rw [handedOut_once hcall hg] at hsign
        exact absurd hsign hrefused
  refine ⟨(s', e, permit), hcall, ?_, ?_⟩
  · obtain ⟨hfirst, -, -⟩ := (permits_honoured plainEffectRuntime "w" plainWork ⟨[], [], [], [], []⟩
      authorizedActions).1 4 (beginUnder plainPolicy) (keyedCall 13) s' e permit hcall
    refine hfirst ?_ _ (verifiedBy_authenticator fenceIssuer) (fun _ _ => rfl) 89 hwindow
    rw [heffect]
    rintro ⟨row, hrow, hbegun⟩
    rw [hrow, Option.map_some, Option.some.injEq] at hstatus
    simp [hstatus] at hbegun
  · exact ((permits_honoured plainEffectRuntime "w" plainWork ⟨[], [], [], [], []⟩ _).2 fenceIssuer
      (authenticator fenceIssuer) _ hunforged).2 permit hgiven _ (.inr rfl) hother plainPolicy 89

/-- NOT SO: a call is repeated under a policy that denies the dispatch; it answers a permit, and the
    connector refuses the permit under that policy. -/
theorem permits_refused :
    EffectConnectorPolicy.ClockBlind denyingPolicy ∧
    fenceIssuer.VerifiedBy (authenticator fenceIssuer) ∧
    Ends ((run (step plainEffectRuntime) (opening "w" plainWork ⟨[], [], [], [], []⟩)
      (authorizedActions ++ [.begin 4 (beginUnder plainPolicy) (keyedCall 13)])).beginEffectExecution
        plainEffectRuntime 4 (beginUnder denyingPolicy) (keyedCall 14)) fun answer =>
      answer.2.2.payload.InWindow 14 ∧
      ¬ Ends (enforceEffectDispatch plainEffectRuntime answer.2.2 denyingPolicy
        (authenticator fenceIssuer) 14) fun _ => True := by
  refine ⟨fun _ _ => rfl, verifiedBy_authenticator fenceIssuer, ?_⟩
  decide +kernel

end EffectStore

end Tasq
