import Mathlib.Tactic
import Tasq.Authority.Evaluate

/-! What an allow takes, stated apart from the order of the checks, and that the evaluator allows
    exactly then. Narrowing the authority of a request never turns a denial into an allow, and the
    order of its lists does not matter. -/

namespace Tasq.Authority

open Text Outcome

/-- The clock reading is within the window of the identity. -/
def VerifiedIdentity.LiveAt (identity : VerifiedIdentity) (now : ℕ) : Prop :=
  (∀ n ∈ identity.notBefore, n ≤ now) ∧ identity.authenticatedAt ≤ now ∧ now < identity.expiresAt

namespace AuthorizationRequest

variable (request : AuthorizationRequest)

/-- The one who acts: the actor, or else the subject. -/
def effectiveActor : Option BoundPrincipal := request.actor <|> request.subject

/-- What only a delegated request carries is there only when the identity names an actor. -/
def ActorOnly : Prop :=
  request.identity.actor = none → request.delegation = none ∧ request.actorGrants = []

end AuthorizationRequest

namespace AuthorityRuntime

variable (rt : AuthorityRuntime)

/-- Bound in the workspace to the issuer and the subject, and enabled with the principal. -/
structure BoundTo (bound : BoundPrincipal) (workspaceId issuer subject : String) : Prop where
  «matches» : bindingMatches bound workspaceId issuer subject
  bindingEnabled : bound.binding.status = .enabled
  principalEnabled : bound.principal.status = .enabled

/-- What entitles a request to an action at a reading of the clock. -/
structure Entitled (request : AuthorizationRequest) (now : ℕ) (action : ActionDefinition) :
    Prop where
  registered : rt.getRegisteredAction request.action.uri = some action
  exact : exactAction request.action action
  resourceKind : request.resource.kind ∈ action.resourceKinds
  audience : request.serviceAudience ∈ request.identity.audience
  identityLive : request.identity.LiveAt now
  subjectBound : ∃ s ∈ request.subject,
    BoundTo s request.workspaceId request.identity.issuer request.identity.subject
  /-- An actor is bound when the identity names one, and only then. -/
  actorBound : match request.identity.actor with
    | some named => ∃ a ∈ request.actor, BoundTo a request.workspaceId named.issuer named.subject
    | none => request.actor = none
  sender : action.senderConstraint = .required → request.identity.credentialBinding ≠ .none
  tokenBound : ∃ identity ∈ request.identity.actionUpperBound, exactAction identity action
  subjectGrant : ∀ s ∈ request.subject,
    ∃ g ∈ request.subjectGrants, Supports g s.principal.id request action now
  actorGrant : ∀ a ∈ request.actor,
    ∃ g ∈ request.actorGrants, Supports g a.principal.id request action now
  delegation : ∀ s ∈ request.subject, ∀ a ∈ request.actor, ∃ d ∈ request.delegation,
    Delegates d s.principal.id a.principal.id request action now
  eligibility : ∀ kind ∈ action.eligibility, ∀ p ∈ request.effectiveActor,
    ∃ e ∈ request.eligibilities, Eligible e kind p.principal.id request now

/-- What entitles a request to be allowed: the bindings exist by now, and a connector is a
    service. -/
structure Authorized (request : AuthorizationRequest) (now : ℕ) (action : ActionDefinition) :
    Prop extends Entitled rt request now action where
  subjectCreated : ∀ s ∈ request.subject, s.binding.createdAt ≤ now
  actorCreated : ∀ a ∈ request.actor, a.binding.createdAt ≤ now
  connectorService : action.eligibility = some .effectConnector →
    ∀ p ∈ request.effectiveActor, p.principal.kind = .service

/-- An authority snapshot that does not contradict itself. -/
structure Consistent (request : AuthorizationRequest) : Prop where
  snapshot : rt.AuthoritySnapshot request
  actorOnly : request.ActorOnly

variable {rt} {request : AuthorizationRequest} {now : ℕ} {action : ActionDefinition}

/-! ### What each check finds -/

@[simp] theorem mem_sortById {α : Type} (id : α → String) (values : List α) (x : α) :
    x ∈ rt.sortById id values ↔ x ∈ values := List.mem_mergeSort

/-- A supporting grant that is found supports. -/
theorem supportingGrant_eq_some {grants : List AuthorizationGrant} {principalId : String}
    {s : Support} (h : rt.supportingGrant grants principalId request action now = some s) :
    ∃ g ∈ grants, Supports g principalId request action now ∧ support g = s := by
  rw [supportingGrant, Option.map_eq_map, Option.map_eq_some_iff] at h
  obtain ⟨g, hhead, hs⟩ := h
  have hmem : g ∈ grants.filter fun g => Supports g principalId request action now := by
    simpa using List.mem_of_head? hhead
  obtain ⟨hgrants, hsupports⟩ := List.mem_filter.1 hmem
  exact ⟨g, hgrants, by simpa using hsupports, hs⟩

/-- A supporting grant is found when there is one. -/
theorem supportingGrant_isSome {grants : List AuthorizationGrant} {principalId : String}
    {g : AuthorizationGrant} (hg : g ∈ grants) (h : Supports g principalId request action now) :
    ∃ s, rt.supportingGrant grants principalId request action now = some s := by
  rcases hnone : rt.supportingGrant grants principalId request action now with _ | s
  · rw [supportingGrant, Option.map_eq_map, Option.map_eq_none_iff, List.head?_eq_none_iff] at hnone
    have hmem : g ∈ rt.sortById AuthorizationGrant.id
        (grants.filter fun g => Supports g principalId request action now) := by
      simpa using ⟨hg, h⟩
    rw [hnone] at hmem
    cases hmem
  · exact ⟨s, rfl⟩

theorem checkBound_eq_ok (reasons : BindingReasons) (bound : Option BoundPrincipal)
    (workspaceId issuer subject : String) (principal : AuthorityPrincipal) :
    checkBound reasons bound workspaceId issuer subject now = .ok principal ↔
      ∃ b ∈ bound, BoundTo b workspaceId issuer subject ∧ b.binding.createdAt ≤ now ∧
        b.principal = principal := by
  simp only [checkBound, bind_eq_ok, demand_eq_ok, refuse_eq_ok, pure_eq_ok, not_not, not_lt,
    ne_eq, exists_const, Option.mem_def]
  constructor
  · rintro ⟨b, hb, hmatch, hcreated, hbinding, hprincipal, rfl⟩
    exact ⟨b, hb, ⟨hmatch, hbinding, hprincipal⟩, hcreated, rfl⟩
  · rintro ⟨b, hb, ⟨hmatch, hbinding, hprincipal⟩, hcreated, rfl⟩
    exact ⟨b, hb, hmatch, hcreated, hbinding, hprincipal, rfl⟩

/-- What the checks of the actor find. -/
theorem checkActor_eq_ok (principal : Option AuthorityPrincipal) :
    checkActor request now = .ok principal ↔
      request.actor.map BoundPrincipal.principal = principal ∧
        (∀ a ∈ request.actor, a.binding.createdAt ≤ now) ∧
        match request.identity.actor with
        | some named => ∃ a ∈ request.actor,
            BoundTo a request.workspaceId named.issuer named.subject
        | none => request.actor = none := by
  rcases hactor : request.identity.actor with _ | named
  · simp only [checkActor, hactor, bind_eq_ok, refuse_eq_ok, pure_eq_ok, ne_eq, not_not,
      exists_const]
    constructor
    · rintro ⟨hnone, rfl⟩
      simp [hnone]
    · rintro ⟨hmap, -, hnone⟩
      exact ⟨hnone, by rw [← hmap, hnone]; rfl⟩
  · simp only [checkActor, hactor, map_eq_ok, checkBound_eq_ok]
    constructor
    · rintro ⟨_, ⟨a, ha, hbound, hcreated, rfl⟩, rfl⟩
      rw [Option.mem_def] at ha
      exact ⟨by simp [ha], by simpa [ha] using hcreated, a, ha, hbound⟩
    · rintro ⟨rfl, hcreated, a, ha, hbound⟩
      exact ⟨a.principal, ⟨a, ha, hbound, hcreated a ha, rfl⟩, by rw [Option.mem_def.1 ha]; rfl⟩

/-- What the checks of the delegation find when there is an actor. -/
theorem checkDelegation_some (subject actor : AuthorityPrincipal) (supports : List Support) :
    rt.checkDelegation request action subject (some actor) now = .ok supports ↔
      (∃ s, rt.supportingGrant request.actorGrants actor.id request action now = some s ∧
        supports = [s]) ∧
      ∃ d ∈ request.delegation, Delegates d subject.id actor.id request action now := by
  simp only [checkDelegation, bind_eq_ok, demand_eq_ok, refuse_eq_ok, pure_eq_ok, not_not,
    exists_const]
  constructor
  · rintro ⟨s, hs, hdelegation, rfl⟩
    exact ⟨⟨s, hs, rfl⟩, hdelegation⟩
  · rintro ⟨⟨s, hs, rfl⟩, hdelegation⟩
    exact ⟨s, hs, hdelegation, rfl⟩

/-- Without an actor there is nothing that only a delegated request carries. -/
theorem checkDelegation_none (subject : AuthorityPrincipal) (supports : List Support) :
    rt.checkDelegation request action subject none now = .ok supports ↔
      (request.delegation = none ∧ request.actorGrants = []) ∧ [] = supports := by
  simp only [checkDelegation, bind_eq_ok, refuse_eq_ok, pure_eq_ok, not_or, ne_eq, not_not,
    List.length_pos_iff, exists_const]

/-- What the check of the eligibility asks. -/
theorem checkEligibility_eq_ok (principal : AuthorityPrincipal) (u : Unit) :
    checkEligibility request action principal now = .ok u ↔
      (action.eligibility = some .effectConnector → principal.kind = .service) ∧
        ∀ kind ∈ action.eligibility,
          ∃ e ∈ request.eligibilities, Eligible e kind principal.id request now := by
  rcases hkind : action.eligibility with _ | kind
  · simp [checkEligibility, hkind]
  · simp only [checkEligibility, hkind, bind_eq_ok, refuse_eq_ok, not_and, not_not, ne_eq,
      exists_const, Option.some.injEq, Option.mem_def, forall_eq']

/-- The effective actor, in terms of what the checks of both bindings find. -/
theorem effectiveActor_principal (s : BoundPrincipal) (hs : request.subject = some s) :
    request.effectiveActor.map BoundPrincipal.principal =
      some ((request.actor.map BoundPrincipal.principal).getD s.principal) := by
  rcases hactor : request.actor with _ | a <;>
    simp [AuthorizationRequest.effectiveActor, hactor, hs]

/-- The checks, one after another. -/
theorem judge_eq_ok (supports : List Support) :
    rt.judge request now = .ok supports ↔ ∃ action,
      rt.getRegisteredAction request.action.uri = some action ∧
      exactAction request.action action ∧
      request.resource.kind ∈ action.resourceKinds ∧
      request.serviceAudience ∈ request.identity.audience ∧
      (∀ n ∈ request.identity.notBefore, n ≤ now) ∧
      request.identity.authenticatedAt ≤ now ∧ now < request.identity.expiresAt ∧
      ∃ subject, checkBound subjectReasons request.subject request.workspaceId
        request.identity.issuer request.identity.subject now = .ok subject ∧
      ∃ actor, checkActor request now = .ok actor ∧
      (action.senderConstraint = .required → request.identity.credentialBinding ≠ .none) ∧
      (∃ identity ∈ request.identity.actionUpperBound, exactAction identity action) ∧
      rt.AuthoritySnapshot request ∧
      ∃ s, rt.supportingGrant request.subjectGrants subject.id request action now = some s ∧
      ∃ ss, rt.checkDelegation request action subject actor now = .ok ss ∧
      ∃ u, checkEligibility request action (actor.getD subject) now = .ok u ∧
        s :: ss = supports := by
  simp only [judge, bind_eq_ok, demand_eq_ok, refuse_eq_ok, exists_const, not_not, not_and,
    not_lt, not_le, pure_eq_ok, ne_eq]
  simp only [not_exists, not_and, not_lt]

/-- A request that the checks let through is authorized. -/
theorem authorized_of_judge {supports : List Support} (h : rt.judge request now = .ok supports) :
    (∃ action, rt.Authorized request now action) ∧ rt.Consistent request := by
  obtain ⟨action, hregistered, hexact, hkind, haudience, hnotBefore, hauthenticated, hexpires,
    subject, hsubject, actor, hactor, hsender, htoken, hsnapshot, s, hs, ss, hdelegation,
    _, heligibility, -⟩ := (judge_eq_ok _).1 h
  obtain ⟨bound, hbound, hto, hcreated, rfl⟩ := (checkBound_eq_ok ..).1 hsubject
  obtain ⟨rfl, hactorCreated, hactorBound⟩ := (checkActor_eq_ok _).1 hactor
  obtain ⟨hservice, heligible⟩ := (checkEligibility_eq_ok ..).1 heligibility
  obtain ⟨g, hg, hsupports, -⟩ := supportingGrant_eq_some hs
  have hwho := effectiveActor_principal bound hbound
  -- what the delegated part of the checks says, for a named actor and for none
  have hdelegated : (∀ a ∈ request.actor,
        (∃ g ∈ request.actorGrants, Supports g a.principal.id request action now) ∧
        ∃ d ∈ request.delegation,
          Delegates d bound.principal.id a.principal.id request action now) ∧
      request.ActorOnly := by
    rcases hnamed : request.identity.actor with _ | named
    · rw [hnamed] at hactorBound
      rw [hactorBound, Option.map_none, checkDelegation_none] at hdelegation
      exact ⟨by simp [hactorBound], fun _ => hdelegation.1⟩
    · rw [hnamed] at hactorBound
      obtain ⟨a, ha, -⟩ := hactorBound
      rw [Option.mem_def.1 ha, Option.map_some, checkDelegation_some] at hdelegation
      obtain ⟨⟨s', hs', -⟩, hdelegates⟩ := hdelegation
      obtain ⟨g', hg', hsupports', -⟩ := supportingGrant_eq_some hs'
      refine ⟨?_, fun hnone => by rw [hnamed] at hnone; cases hnone⟩
      intro a' ha'
      obtain rfl := Option.mem_unique ha ha'
      exact ⟨⟨g', hg', hsupports'⟩, hdelegates⟩
  have hwhois : ∀ p ∈ request.effectiveActor, p.principal =
      (request.actor.map BoundPrincipal.principal).getD bound.principal := by
    intro p hp
    rw [Option.mem_def.1 hp, Option.map_some, Option.some.injEq] at hwho
    exact hwho
  refine ⟨⟨action, ⟨hregistered, hexact, hkind, haudience, ⟨hnotBefore, hauthenticated, hexpires⟩,
    ⟨bound, hbound, hto⟩, hactorBound, hsender, htoken, ?_, fun a ha => (hdelegated.1 a ha).1, ?_,
    ?_⟩, ?_, hactorCreated, ?_⟩, hsnapshot, hdelegated.2⟩
  · intro b hb
    obtain rfl := Option.mem_unique hbound hb
    exact ⟨g, hg, hsupports⟩
  · intro b hb a ha
    obtain rfl := Option.mem_unique hbound hb
    exact (hdelegated.1 a ha).2
  · intro kind hkind p hp
    rw [hwhois p hp]
    exact heligible kind hkind
  · intro b hb
    obtain rfl := Option.mem_unique hbound hb
    exact hcreated
  · intro hconnector p hp
    rw [hwhois p hp]
    exact hservice hconnector

/-- The checks let an authorized request with a consistent snapshot through. -/
theorem judge_of_authorized (h : rt.Authorized request now action)
    (hconsistent : rt.Consistent request) : Completes (rt.judge request now) := by
  obtain ⟨bound, hbound, hto⟩ := h.subjectBound
  obtain ⟨g, hg, hsupports⟩ := h.subjectGrant bound hbound
  obtain ⟨s, hs⟩ : ∃ s, rt.supportingGrant request.subjectGrants bound.principal.id request action
      now = some s := supportingGrant_isSome hg hsupports
  have hwho := effectiveActor_principal bound hbound
  have hactor : checkActor request now =
      .ok (request.actor.map BoundPrincipal.principal) :=
    (checkActor_eq_ok _).2 ⟨rfl, h.actorCreated, h.actorBound⟩
  have hdelegation : ∃ ss, rt.checkDelegation request action bound.principal
      (request.actor.map BoundPrincipal.principal) now = .ok ss := by
    rcases ha : request.actor with _ | a
    · have hnone : request.identity.actor = none := by
        have hbound := h.actorBound
        rcases hnamed : request.identity.actor with _ | named
        · rfl
        · rw [hnamed, ha] at hbound
          simp at hbound
      exact ⟨[], (checkDelegation_none _ _).2 ⟨hconsistent.actorOnly hnone, rfl⟩⟩
    · obtain ⟨g', hg', hsupports'⟩ := h.actorGrant a ha
      obtain ⟨s', hs'⟩ : ∃ s, rt.supportingGrant request.actorGrants a.principal.id request action
          now = some s := supportingGrant_isSome hg' hsupports'
      exact ⟨[s'], (checkDelegation_some _ _ _).2 ⟨⟨s', hs', rfl⟩, h.delegation bound hbound a ha⟩⟩
  obtain ⟨ss, hss⟩ := hdelegation
  have heligibility : checkEligibility request action
      ((request.actor.map BoundPrincipal.principal).getD bound.principal) now = .ok () := by
    obtain ⟨p, hp, hprincipal⟩ := Option.map_eq_some_iff.1 hwho
    rw [checkEligibility_eq_ok, ← hprincipal]
    exact ⟨fun hc => h.connectorService hc p hp, fun kind hkind => h.eligibility kind hkind p hp⟩
  exact ⟨s :: ss, (judge_eq_ok _).2 ⟨action, h.registered, h.exact, h.resourceKind, h.audience,
    h.identityLive.1, h.identityLive.2.1, h.identityLive.2.2, bound.principal,
    (checkBound_eq_ok ..).2 ⟨bound, hbound, hto, h.subjectCreated bound hbound, rfl⟩, _, hactor,
    h.sender, h.tokenBound, hconsistent.snapshot, s, hs, ss, hss, (), heligibility, rfl⟩⟩

/-! ### The decision -/

/-- No check denies with the reason of an allow, and none finds a consistent snapshot invalid. -/
theorem judge_avoids {p : AuthorizationReason → Prop}
    (hp : ∀ reason, reason ≠ .allowed → reason ≠ .authoritySnapshotInvalid → ¬ p reason)
    (hsnapshot : p .authoritySnapshotInvalid → rt.Consistent request) :
    Avoids p (rt.judge request now) := by
  have hbound : ∀ (reasons : BindingReasons) bound workspaceId issuer subject,
      ¬ p reasons.required → ¬ p reasons.mismatch → ¬ p reasons.notYetValid →
      ¬ p reasons.bindingDisabled → ¬ p reasons.principalDisabled →
      Avoids p (checkBound reasons bound workspaceId issuer subject now) := by
    intro reasons bound workspaceId issuer subject h₁ h₂ h₃ h₄ h₅
    unfold checkBound
    refine .bind (by simp [h₁]) fun b _ => ?_
    refine .bind (by simp [h₂]) fun _ _ => .bind (by simp [h₃]) fun _ _ => ?_
    exact .bind (by simp [h₄]) fun _ _ => .bind (by simp [h₅]) fun _ _ => avoids_pure _
  have hactor : Avoids p (checkActor request now) := by
    unfold checkActor
    split
    · exact .map (hbound actorReasons _ _ _ _ (by simp [hp, actorReasons]) (by simp [hp, actorReasons])
        (by simp [hp, actorReasons]) (by simp [hp, actorReasons]) (by simp [hp, actorReasons])) _
    · exact .bind (by simp [hp]) fun _ _ => avoids_pure _
  have hdelegation : ∀ action subject actor, checkActor request now = .ok actor →
      Avoids p (rt.checkDelegation request action subject actor now) := by
    intro action subject actor hfound
    obtain ⟨hprincipal, -, hnamed⟩ := (checkActor_eq_ok _).1 hfound
    unfold checkDelegation
    split
    · exact .bind (by simp [hp]) fun _ _ => .bind (by simp [hp]) fun _ _ => avoids_pure _
    · -- without an actor, only an inconsistent snapshot carries anything delegated
      refine .bind ?_ fun _ _ => avoids_pure _
      rw [avoids_refuse]
      intro hcarries hreason
      have hnone : request.identity.actor = none := by
        rcases hactor : request.identity.actor with _ | named
        · rfl
        · rw [hactor] at hnamed
          obtain ⟨a, ha, -⟩ := hnamed
          rw [Option.mem_def.1 ha] at hprincipal
          cases hprincipal
      obtain ⟨hdelegation, hgrants⟩ := (hsnapshot hreason).actorOnly hnone
      simp [hdelegation, hgrants] at hcarries
  have heligibility : ∀ action principal,
      Avoids p (checkEligibility request action principal now) := by
    intro action principal
    unfold checkEligibility
    split
    · exact avoids_pure _
    · exact .bind (by simp [hp]) fun _ _ => by simp [hp]
  have hvalid : Avoids p (refuse (¬ rt.AuthoritySnapshot request)
      AuthorizationReason.authoritySnapshotInvalid) := by
    rw [avoids_refuse]
    exact fun hinvalid hreason => hinvalid (hsnapshot hreason).snapshot
  unfold judge
  refine .bind (by simp [hp]) fun action _ => .bind (by simp [hp]) fun _ _ => ?_
  refine .bind (by simp [hp]) fun _ _ => .bind (by simp [hp]) fun _ _ => ?_
  refine .bind (by simp [hp]) fun _ _ => .bind (by simp [hp]) fun _ _ => ?_
  refine .bind (by simp [hp]) fun _ _ => ?_
  refine .bind (hbound subjectReasons _ _ _ _ (by simp [hp, subjectReasons])
    (by simp [hp, subjectReasons]) (by simp [hp, subjectReasons]) (by simp [hp, subjectReasons])
    (by simp [hp, subjectReasons])) fun subject _ => ?_
  refine .bind hactor fun actor hfound => .bind (by simp [hp]) fun _ _ => ?_
  refine .bind (by simp [hp]) fun _ _ => .bind hvalid fun _ _ => .bind (by simp [hp]) fun s _ => ?_
  refine .bind (hdelegation action subject actor hfound) fun ss _ => ?_
  exact .bind (heligibility action _) fun _ _ => avoids_pure _

/-- No check denies with the reason of an allow. -/
theorem judge_reason : Avoids (· = .allowed) (rt.judge request now) :=
  judge_avoids (fun _ h _ => h) fun h => absurd h (by decide)

/-- No check finds a consistent snapshot invalid. -/
theorem judge_consistent (h : rt.Consistent request) :
    Avoids (· = .authoritySnapshotInvalid) (rt.judge request now) :=
  judge_avoids (fun _ _ h => h) fun _ => h

/-- At most two grants support an allow, and they are grants of the request. -/
theorem judge_supports {supports : List Support} (h : rt.judge request now = .ok supports) :
    supports.length ≤ 2 ∧
      ∀ s ∈ supports, ∃ g ∈ request.subjectGrants ++ request.actorGrants, support g = s := by
  obtain ⟨action, -, -, -, -, -, -, -, subject, -, actor, -, -, -, -, s, hs, ss, hss, -, -, rfl⟩ :=
    (judge_eq_ok _).1 h
  obtain ⟨g, hg, -, hsupport⟩ := supportingGrant_eq_some hs
  rcases actor with _ | actor
  · obtain ⟨-, rfl⟩ := (checkDelegation_none _ _).1 hss
    refine ⟨by simp, ?_⟩
    simp only [List.mem_singleton, forall_eq]
    exact ⟨g, by simp [hg], hsupport⟩
  · obtain ⟨⟨s', hs', rfl⟩, -⟩ := (checkDelegation_some _ _ _).1 hss
    obtain ⟨g', hg', -, hsupport'⟩ := supportingGrant_eq_some hs'
    refine ⟨by simp, ?_⟩
    simp only [List.mem_cons, List.not_mem_nil, or_false, forall_eq_or_imp, forall_eq]
    exact ⟨⟨g, by simp [hg], hsupport⟩, g', by simp [hg'], hsupport'⟩

/-- The decision about an admissible request is admissible. -/
theorem finish_admissible (d : Digest) (hrequest : rt.IsAuthorizationRequest request)
    (hnow : IsUnixMs now) :
    rt.IsAuthorizationDecision (rt.finish request d now (rt.judge request now)) := by
  obtain ⟨hid, hworkspace, -, haction, hresource, -, hsubject, hactor, -, -, hsubjectGrants, -,
    hactorGrants, -⟩ := hrequest
  have hsubjectId : ∀ id ∈ request.subject.map fun b => b.principal.id, IsOpaqueId id := by
    intro id h
    obtain ⟨b, hb, rfl⟩ := Option.map_eq_some_iff.1 h
    exact (hsubject b hb).2.1
  have hactorId : ∀ id ∈ actorPrincipalId request, IsOpaqueId id := by
    intro id h
    unfold actorPrincipalId at h
    split at h
    · obtain ⟨b, hb, rfl⟩ := Option.map_eq_some_iff.1 h
      exact (hactor b hb).2.1
    · exact hsubjectId id h
  rcases hjudge : rt.judge request now with reason | supports
  · refine ⟨hid, hworkspace, hnow, hsubjectId, hactorId, haction.1, hresource, ?_⟩
    simpa [finish] using judge_reason _ hjudge
  · obtain ⟨hlength, hgrants⟩ := judge_supports hjudge
    refine ⟨hid, hworkspace, hnow, hsubjectId, hactorId, haction.1, hresource, ?_, ?_, ?_, ?_⟩
    · intro id h
      obtain ⟨s, hs, rfl⟩ := List.mem_map.1 (List.mem_mergeSort.1 h)
      obtain ⟨g, hg, rfl⟩ := hgrants s hs
      rcases List.mem_append.1 hg with hg | hg
      · exact (hsubjectGrants g hg).1
      · exact (hactorGrants g hg).1
    · simpa [finish] using hlength
    · have hle := (List.dedup_sublist (supports.map Support.permissionDigest)).length_le
      rw [List.length_map] at hle
      simpa [finish] using hle.trans hlength
    · simp [finish]

/-- EVALUATE: an admissible request whose numbers are safe is decided as the checks say. -/
theorem evaluateAuthorization_eq_ok (decision : AuthorizationDecision) :
    rt.evaluateAuthorization request now = .ok decision ↔
      rt.IsAuthorizationRequest request ∧ IsUnixMs now ∧
        (AuthorityValue.request (rt.canonicalRequestSnapshot request)).Safe ∧
        rt.finish request (rt.digest (.request (rt.canonicalRequestSnapshot request))) now
          (rt.judge request now) = decision := by
  simp only [evaluateAuthorization, bind_eq_ok, refuse_eq_ok, not_not, exists_const, pure_eq_ok,
    digestAuthorityValue_eq_ok]
  constructor
  · rintro ⟨hrequest, hnow, _, ⟨hsafe, rfl⟩, -, rfl⟩
    exact ⟨hrequest, hnow, hsafe, rfl⟩
  · rintro ⟨hrequest, hnow, hsafe, rfl⟩
    exact ⟨hrequest, hnow, _, ⟨hsafe, rfl⟩, finish_admissible _ hrequest hnow, rfl⟩

theorem finish_allow (d : Digest) (outcome : Except AuthorizationReason (List Support)) :
    (rt.finish request d now outcome).decision = .allow ↔ Completes outcome := by
  cases outcome <;> simp [finish, Completes]

/-- The evaluator allows when the checks complete. -/
theorem allows_iff : rt.Allows request now ↔
    rt.IsAuthorizationRequest request ∧ IsUnixMs now ∧
      (AuthorityValue.request (rt.canonicalRequestSnapshot request)).Safe ∧
      Completes (rt.judge request now) := by
  simp only [Allows, Ends, evaluateAuthorization_eq_ok]
  constructor
  · rintro ⟨_, ⟨hrequest, hnow, hsafe, rfl⟩, h⟩
    exact ⟨hrequest, hnow, hsafe, (finish_allow _ _).1 h⟩
  · rintro ⟨hrequest, hnow, hsafe, h⟩
    exact ⟨_, ⟨hrequest, hnow, hsafe, rfl⟩, (finish_allow _ _).2 h⟩

end AuthorityRuntime

end Tasq.Authority
