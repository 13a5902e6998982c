import Mathlib.Tactic
import Tasq.Signing.Answers

/-! The authority of a signing mutation at its use. A decision is taken for live when the revision
    of its workspace has not moved, and then it rests on the same rows; but a row, or the token
    that was presented, may have expired by the reading of the clock at which it is used. -/

namespace Tasq.Signing

open Text Outcome Rows Authority Run

variable {rt : AuthorityRuntime} {srt : SigningRuntime} {s s' : SigningStore} {now : ℕ}

/-- The decision that a context names. -/
def SigningStore.decisionNamed (rt : AuthorityRuntime) (s : SigningStore)
    (context : SigningContext) : Option DecisionRow :=
  s.authority.decisions.find? fun d => SigningStore.decisionText rt d = context.authorityDecisionId

/-- Two decisions on the same subject, actor, action and resource. -/
structure SameRequest (d d' : AuthorizationDecision) : Prop where
  workspaceId : d'.workspaceId = d.workspaceId
  subject : d'.subjectPrincipalId = d.subjectPrincipalId
  actor : d'.actorPrincipalId = d.actorPrincipalId
  actionUri : d'.actionUri = d.actionUri
  resourceKind : d'.resourceKind = d.resourceKind
  resourceId : d'.resourceId = d.resourceId

/-- The request of the decision, evaluated again at a reading of the clock, is allowed. -/
def AllowedAgain (rt : AuthorityRuntime) (s : AuthorityStore) (d : DecisionRow) (now : ℕ) : Prop :=
  ∃ input request decision, d.envelopeDigest = rt.digest (.envelope input) ∧
    s.requestAt rt input now = .ok request ∧
    rt.evaluateAuthorization request now = .ok decision ∧ decision.decision = .allow ∧
    SameRequest d.decision decision

/-- What the decision rests on is in force: the token and the bindings, and of grants, delegations
    and eligibilities one of each kind that it needs. -/
def Lasts (rt : AuthorityRuntime) (s : AuthorityStore) (d : DecisionRow) (now : ℕ) : Prop :=
  IsUnixMs now ∧ ∃ input request, d.envelopeDigest = rt.digest (.envelope input) ∧
    s.requestAt rt input now = .ok request ∧ rt.InForce request now

/-- The store shows the request of an earlier reading again, up to the delegation. -/
theorem requestAt_later {s : AuthorityStore} {input : WorkspaceAuthorizationInput} {t : ℕ}
    {request : AuthorizationRequest} (h : s.requestAt rt input t = .ok request) (now : ℕ) :
    ∃ d, s.requestAt rt input now = .ok { request with delegation := d } ∧
      (∀ x ∈ d, rt.IsDelegation x) ∧ (request.identity.actor = none → d = none) := by
  obtain ⟨workspace, hworkspace, hload⟩ := (bind_eq_ok _ _ _).1 h
  obtain ⟨d, hload', hvalid, hactor⟩ := AuthorityRows.loadRequest_at hload now
  exact ⟨d, (bind_eq_ok _ _ _).2 ⟨workspace, hworkspace, hload'⟩, hvalid, hactor⟩

/-- The delegation of a request does not tell who asks for what. -/
theorem sameRequest_later {request : AuthorizationRequest} {t : ℕ} {d : Option Delegation}
    {decision decision' : AuthorizationDecision}
    (h : rt.evaluateAuthorization request t = .ok decision)
    (h' : rt.evaluateAuthorization { request with delegation := d } now = .ok decision') :
    SameRequest decision decision' := by
  obtain ⟨-, -, -, rfl⟩ := (AuthorityRuntime.evaluateAuthorization_eq_ok _).1 h
  obtain ⟨-, -, -, rfl⟩ := (AuthorityRuntime.evaluateAuthorization_eq_ok _).1 h'
  exact ⟨rfl, rfl, rfl, rfl, rfl, rfl⟩

/-- EXACT: an allow on the rows as they are is allowed again exactly when what it rests on lasts. -/
theorem allowedAgain_iff {s : AuthorityStore} {d : DecisionRow}
    (hdigest : Function.Injective rt.digest) (h : AuthorityStore.DecidedOn rt s d)
    (hallow : d.decision.decision = .allow) : AllowedAgain rt s d now ↔ Lasts rt s d now := by
  obtain ⟨input, request, t, henvelope, -, hrequest, hevaluated⟩ := h
  have hallows : rt.Allows request t := ⟨d.decision, hevaluated, hallow⟩
  obtain ⟨delegation, hlater, hvalid, hactor⟩ := requestAt_later hrequest now
  -- the digest of the decision tells the request
  have hsame : ∀ input', d.envelopeDigest = rt.digest (.envelope input') → input' = input := by
    intro input' henvelope'
    exact (AuthorityValue.envelope.inj (hdigest (henvelope.symm.trans henvelope'))).symm
  constructor
  · rintro ⟨input', request', decision, henvelope', hrequest', hevaluated', hallow', -⟩
    obtain rfl := hsame input' henvelope'
    obtain rfl := Except.ok.inj (hlater.symm.trans hrequest')
    have hallows' : rt.Allows { request with delegation } now := ⟨decision, hevaluated', hallow'⟩
    obtain ⟨-, hnow, -⟩ := AuthorityRuntime.allows_iff.1 hallows'
    exact ⟨hnow, input', _, henvelope', hlater,
      (AuthorityRuntime.allows_later hallows hvalid hactor hnow).1 hallows'⟩
  · rintro ⟨hnow, input', request', henvelope', hrequest', hforce⟩
    obtain rfl := hsame input' henvelope'
    obtain rfl := Except.ok.inj (hlater.symm.trans hrequest')
    obtain ⟨decision, hevaluated', hallow'⟩ :=
      (AuthorityRuntime.allows_later hallows hvalid hactor hnow).2 hforce
    exact ⟨input', _, decision, henvelope', hlater, hevaluated', hallow',
      sameRequest_later hevaluated hevaluated'⟩

/-! ### The decision that a committed mutation uses -/

/-- A mutation leaves the authority store alone. -/
theorem Commits.authority {context : SigningContext} (h : Commits rt s context s') :
    s'.authority = s.authority := by
  cases h <;> rfl

/-- RUN: stored decisions at the current revision rest on the rows as they are. -/
theorem standing_signing (actions : List SigningAction) :
    AuthorityStore.Standing rt (SigningStore.empty.run rt srt actions).authority := by
  refine (run_invariant' (I := fun s : SigningStore => History s ∧
    AuthorityStore.Standing rt s.authority) ?_ actions
      ⟨history_empty, AuthorityStore.standing_empty⟩).2
  rintro s action ⟨hs, hstanding⟩
  refine ⟨history_step hs action, ?_⟩
  cases action with
  | authority action => exact AuthorityStore.standing_step action hstanding
  | mutate mutation =>
    cases h : s.transact rt srt mutation with
    | error e =>
      rw [SigningStore.step, perform_refused h]
      exact hstanding
    | ok s' =>
      rw [SigningStore.step, perform_committed h, (transact_commits hs h).authority]
      exact hstanding

/-- A committed mutation names an allow that rests on the rows as they are. -/
theorem committed_decidedOn {mutation : SigningMutation} (hs : History s)
    (hstanding : AuthorityStore.Standing rt s.authority) (h : Committed rt srt s mutation) :
    ∃ d, s.decisionNamed rt mutation.context = some d ∧ d.decision.decision = .allow ∧
      AuthorityStore.DecidedOn rt s.authority d := by
  obtain ⟨use, ⟨⟨d, workspace, hconsumes⟩, -⟩, -⟩ := committed_uses hs h
  have hmem := List.mem_of_find?_eq_some hconsumes.found
  obtain ⟨hallow, hworkspace, -⟩ := hconsumes.manages
  refine ⟨d, hconsumes.found, hallow, hstanding.decided d hmem ?_⟩
  -- an allow has a revision, and it is the current one
  obtain ⟨n, hn⟩ := Option.ne_none_iff_exists'.1 (hstanding.known d hmem hallow)
  have hrevision := hconsumes.revision
  rw [hn, Option.getD_some] at hrevision
  rw [hn, AuthorityStore.revisionOf, hworkspace, hconsumes.workspaceRow, Option.map_some, hrevision]

/-! ### CORRECT: when the authority of a mutation is live -/

/-- CORRECT: in every run whose mutations name decisions that last, a mutation commits only when its
    decision would be allowed again on the state of that transaction and at that reading; and in
    any run the decision of a committed mutation would be allowed again exactly when it lasts. -/
theorem credential_authority_live (srt : SigningRuntime)
    (hdigest : Function.Injective rt.digest) :
    (∀ actions, Along (SigningStore.step rt srt) (fun s action => ∀ mutation d,
        action = .mutate mutation → s.decisionNamed rt mutation.context = some d →
          Lasts rt s.authority d mutation.now) SigningStore.empty actions →
      ∀ before mutation after, actions = before ++ SigningAction.mutate mutation :: after →
        Committed rt srt (SigningStore.empty.run rt srt before) mutation →
        ∃ d, (SigningStore.empty.run rt srt before).decisionNamed rt mutation.context = some d ∧
          AllowedAgain rt (SigningStore.empty.run rt srt before).authority d mutation.now) ∧
    ∀ actions mutation d, Committed rt srt (SigningStore.empty.run rt srt actions) mutation →
      (SigningStore.empty.run rt srt actions).decisionNamed rt mutation.context = some d →
      (AllowedAgain rt (SigningStore.empty.run rt srt actions).authority d mutation.now ↔
        Lasts rt (SigningStore.empty.run rt srt actions).authority d mutation.now) := by
  have hdecided : ∀ actions mutation,
      Committed rt srt (SigningStore.empty.run rt srt actions) mutation →
      ∃ d, (SigningStore.empty.run rt srt actions).decisionNamed rt mutation.context = some d ∧
        d.decision.decision = .allow ∧
        AuthorityStore.DecidedOn rt (SigningStore.empty.run rt srt actions).authority d :=
    fun actions mutation =>
      committed_decidedOn (history_run history_empty actions) (standing_signing actions)
  refine ⟨?_, ?_⟩
  · rintro _ halong before mutation after rfl hcommitted
    obtain ⟨-, hlasts, -⟩ := along_append.1 halong
    obtain ⟨d, hnamed, hallow, hon⟩ := hdecided before mutation hcommitted
    exact ⟨d, hnamed, (allowedAgain_iff hdigest hon hallow).2 (hlasts mutation d rfl hnamed)⟩
  · intro actions mutation d hcommitted hnamed
    obtain ⟨d', hnamed', hallow, hon⟩ := hdecided actions mutation hcommitted
    obtain rfl := Option.some.inj (hnamed.symm.trans hnamed')
    exact allowedAgain_iff hdigest hon hallow

theorem shortAuthority_injective : Function.Injective shortAuthority.digest :=
  fun _ _ h => idealAuthority_collisionFree.digest h

theorem committed_of_toBool {mutation : SigningMutation} {actions : List SigningAction}
    (h : ((SigningStore.empty.run rt srt actions).transact rt srt mutation).toBool = true) :
    Committed rt srt (SigningStore.empty.run rt srt actions) mutation := by
  obtain ⟨s', h⟩ := ok_of_toBool h
  exact committed_of_ok (history_run history_empty actions) h

theorem credential_authority_live_enrolling :
    ∃ d, (SigningStore.empty.run shortAuthority openSigning allowing).decisionNamed shortAuthority
        allowedContext = some d ∧
      (AllowedAgain shortAuthority
          (SigningStore.empty.run shortAuthority openSigning allowing).authority d 2 ↔
        Lasts shortAuthority
          (SigningStore.empty.run shortAuthority openSigning allowing).authority d 2) := by
  have hcommitted := committed_of_toBool enrolling_transacts.2.1
  obtain ⟨d, hnamed, -⟩ := committed_decidedOn (history_run history_empty allowing)
    (standing_signing allowing) hcommitted
  exact ⟨d, hnamed, (credential_authority_live openSigning shortAuthority_injective).2 allowing
    (enrolling none 2) d hcommitted hnamed⟩

/-- NOT SO: a decision whose token has expired at 10 is used at 20. -/
theorem late_enrollment :
    Committed shortAuthority openSigning
        (SigningStore.empty.run shortAuthority openSigning allowing) (enrolling none 20) ∧
      ∃ d, (SigningStore.empty.run shortAuthority openSigning allowing).decisionNamed
          shortAuthority allowedContext = some d ∧
        ¬ AllowedAgain shortAuthority
          (SigningStore.empty.run shortAuthority openSigning allowing).authority d 20 := by
  have hcommitted := committed_of_toBool enrolling_transacts.2.2
  obtain ⟨d, hnamed, -⟩ := committed_decidedOn (history_run history_empty allowing)
    (standing_signing allowing) hcommitted
  refine ⟨hcommitted, d, hnamed, ?_⟩
  rintro ⟨input, request, decision, henvelope, hrequest, hevaluated, hallow, -⟩
  have hdigest : ((SigningStore.empty.run shortAuthority openSigning allowing).decisionNamed
      shortAuthority allowedContext).map DecisionRow.envelopeDigest =
        some (shortAuthority.digest (.envelope manageInput)) := by
    decide +kernel
  have hnamed' : (SigningStore.empty.run shortAuthority openSigning allowing).decisionNamed
      shortAuthority allowedContext = some d := hnamed
  rw [hnamed', Option.map_some, Option.some.injEq, henvelope] at hdigest
  obtain rfl := AuthorityValue.envelope.inj (shortAuthority_injective hdigest)
  obtain ⟨-, ⟨action, hauthorized⟩, -⟩ :=
    AuthorityRuntime.Allows.authorized ⟨decision, hevaluated, hallow⟩
  simp only [AuthorityStore.requestAt, AuthorityRows.loadRequest, bind_eq_ok, pure_eq_ok] at hrequest
  obtain ⟨_, -, _, -, _, -, _, -, _, -, _, -, _, -, _, -, rfl⟩ := hrequest
  have hexpires : 20 < 10 := hauthorized.identityLive.2.2
  omega

end Tasq.Signing
