import Mathlib.Tactic
import Tasq.Authority.Entitled
import Tasq.Authority.Ideal

/-! Between two requests: narrowing the authority of a request never turns a denial into an allow,
    and the order of its lists does not change the decision. -/

namespace Tasq.Authority

open Text Outcome

/-! ### Narrower authority -/

/-- Whatever resource the narrower scope covers, the other covers. -/
def GrantScope.Narrows (narrow wide : GrantScope) : Prop :=
  ∀ resource, covers narrow resource → covers wide resource

/-- Whenever the narrower lifetime is live, the other is. -/
def Lifetime.Narrows (narrow wide : Lifetime) : Prop := ∀ now, narrow.live now → wide.live now

/-- A grant of the same permission set to the same principal, with less scope or time. -/
structure AuthorizationGrant.Narrows (narrow wide : AuthorizationGrant) : Prop where
  workspaceId : narrow.workspaceId = wide.workspaceId
  granteePrincipalId : narrow.granteePrincipalId = wide.granteePrincipalId
  permissionSet : narrow.permissionSet = wide.permissionSet
  scope : narrow.scope.Narrows wide.scope
  lifetime : narrow.toLifetime.Narrows wide.toLifetime

/-- A delegation between the same principals, with fewer actions, less scope or time. -/
structure Delegation.Narrows (narrow wide : Delegation) : Prop where
  workspaceId : narrow.workspaceId = wide.workspaceId
  subjectPrincipalId : narrow.subjectPrincipalId = wide.subjectPrincipalId
  actorPrincipalId : narrow.actorPrincipalId = wide.actorPrincipalId
  actions : ∀ identity ∈ narrow.actions, identity ∈ wide.actions
  scope : narrow.scope.Narrows wide.scope
  lifetime : narrow.toLifetime.Narrows wide.toLifetime

/-- The same eligibility, with less time. -/
structure AuthorityEligibility.Narrows (narrow wide : AuthorityEligibility) : Prop where
  workspaceId : narrow.workspaceId = wide.workspaceId
  principalId : narrow.principalId = wide.principalId
  kind : narrow.kind = wide.kind
  lifetime : narrow.toLifetime.Narrows wide.toLifetime

/-- The same binding of the same principal, later or disabled. -/
structure BoundPrincipal.Narrows (narrow wide : BoundPrincipal) : Prop where
  workspaceId : narrow.binding.workspaceId = wide.binding.workspaceId
  principalWorkspaceId : narrow.principal.workspaceId = wide.principal.workspaceId
  principalId : narrow.binding.principalId = wide.binding.principalId
  issuer : narrow.binding.issuer = wide.binding.issuer
  subject : narrow.binding.subject = wide.binding.subject
  id : narrow.principal.id = wide.principal.id
  kind : narrow.principal.kind = wide.principal.kind
  bindingStatus : narrow.binding.status = .enabled → wide.binding.status = .enabled
  principalStatus : narrow.principal.status = .enabled → wide.principal.status = .enabled
  createdAt : wide.binding.createdAt ≤ narrow.binding.createdAt

/-- The same request for the same identity, with authority removed or narrowed. -/
structure AuthorizationRequest.Narrows (narrow wide : AuthorizationRequest) : Prop where
  workspaceId : narrow.workspaceId = wide.workspaceId
  serviceAudience : narrow.serviceAudience = wide.serviceAudience
  action : narrow.action = wide.action
  resource : narrow.resource = wide.resource
  identity : { narrow.identity with actionUpperBound := wide.identity.actionUpperBound } =
    wide.identity
  tokenBound : ∀ i ∈ narrow.identity.actionUpperBound, i ∈ wide.identity.actionUpperBound
  subject : ∀ n ∈ narrow.subject, ∃ w ∈ wide.subject, n.Narrows w
  actor : ∀ n ∈ narrow.actor, ∃ w ∈ wide.actor, n.Narrows w
  /-- The binding of an actor is there only when the identity names one. -/
  actorNamed : wide.identity.actor = none → wide.actor = none
  permissionSets : ∀ d ∈ narrow.permissionSets, d ∈ wide.permissionSets
  subjectGrants : ∀ n ∈ narrow.subjectGrants, ∃ w ∈ wide.subjectGrants, n.Narrows w
  actorGrants : ∀ n ∈ narrow.actorGrants, ∃ w ∈ wide.actorGrants, n.Narrows w
  delegation : ∀ n ∈ narrow.delegation, ∃ w ∈ wide.delegation, n.Narrows w
  eligibilities : ∀ n ∈ narrow.eligibilities, ∃ w ∈ wide.eligibilities, n.Narrows w

/-- The request with its lists in another order. -/
def AuthorizationRequest.reorder (request : AuthorizationRequest)
    (permissionSets : List PermissionSetDefinition)
    (subjectGrants actorGrants : List AuthorizationGrant)
    (eligibilities : List AuthorityEligibility) : AuthorizationRequest :=
  { request with permissionSets, subjectGrants, actorGrants, eligibilities }

namespace AuthorityRuntime

variable {rt : AuthorityRuntime} {request narrow wide : AuthorizationRequest} {now : ℕ}
  {action : ActionDefinition}

/-! ### Permission sets under their keys -/

theorem mem_of_definitionFor {permissionSets : List PermissionSetDefinition} {uri : String}
    {version : ℕ} {d : PermissionSetDefinition}
    (h : definitionFor permissionSets uri version = some d) :
    d ∈ permissionSets ∧ d.uri = uri ∧ d.version = version := by
  obtain ⟨hmem, hkey⟩ := List.mem_filter.1 (List.mem_of_getLast? h)
  exact ⟨hmem, by simpa using hkey⟩

/-- Under distinct keys, a permission set is the one under its key. -/
theorem definitionFor_of_mem {permissionSets : List PermissionSetDefinition}
    (hnodup : (permissionSets.map fun d => (d.uri, d.version)).Nodup)
    {d : PermissionSetDefinition} (hd : d ∈ permissionSets) :
    definitionFor permissionSets d.uri d.version = some d := by
  have hmem : d ∈ permissionSets.filter fun e => e.uri = d.uri ∧ e.version = d.version :=
    List.mem_filter.2 ⟨hd, by simp⟩
  obtain ⟨e, he⟩ : ∃ e, definitionFor permissionSets d.uri d.version = some e := by
    rcases hnone : definitionFor permissionSets d.uri d.version with _ | e
    · rw [definitionFor, List.getLast?_eq_none_iff] at hnone
      rw [hnone] at hmem
      cases hmem
    · exact ⟨e, rfl⟩
  obtain ⟨hemem, huri, hversion⟩ := mem_of_definitionFor he
  have heq : e = d := List.inj_on_of_nodup_map hnodup hemem hd (by simp [huri, hversion])
  rw [he, heq]

/-- A permission set found in fewer is found in all, under distinct keys. -/
theorem definitionFor_mono {fewer all : List PermissionSetDefinition}
    (hnodup : (all.map fun d => (d.uri, d.version)).Nodup) (hsub : ∀ d ∈ fewer, d ∈ all)
    {uri : String} {version : ℕ} {d : PermissionSetDefinition}
    (h : definitionFor fewer uri version = some d) : definitionFor all uri version = some d := by
  obtain ⟨hmem, rfl, rfl⟩ := mem_of_definitionFor h
  exact definitionFor_of_mem hnodup (hsub d hmem)

/-! ### Narrowing -/

section

variable (hn : narrow.Narrows wide)
include hn

/-- A grant that supports under less authority supports under more. -/
theorem supports_mono (hwide : rt.AuthoritySnapshot wide) {n w : AuthorizationGrant}
    (hgrant : n.Narrows w) {principalId : String}
    (h : Supports n principalId narrow action now) : Supports w principalId wide action now := by
  obtain ⟨hworkspace, hgrantee, hlive, hcovers, d, hd, hdigest, hactions⟩ := h
  refine ⟨?_, ?_, hgrant.lifetime now hlive, ?_, d, ?_, ?_, hactions⟩
  · rw [← hgrant.workspaceId, hworkspace, hn.workspaceId]
  · rw [← hgrant.granteePrincipalId, hgrantee]
  · rw [← hn.resource]
    exact hgrant.scope _ hcovers
  · rw [← hgrant.permissionSet]
    exact definitionFor_mono hwide.1 hn.permissionSets hd
  · rw [← hgrant.permissionSet, hdigest]

theorem delegates_mono {n w : Delegation} (hdelegation : n.Narrows w) {subjectId actorId : String}
    (h : Delegates n subjectId actorId narrow action now) :
    Delegates w subjectId actorId wide action now := by
  obtain ⟨hworkspace, hsubject, hactor, hlive, hcovers, identity, hmem, hexact⟩ := h
  refine ⟨?_, ?_, ?_, hdelegation.lifetime now hlive, ?_, identity, hdelegation.actions _ hmem,
    hexact⟩
  · rw [← hdelegation.workspaceId, hworkspace, hn.workspaceId]
  · rw [← hdelegation.subjectPrincipalId, hsubject]
  · rw [← hdelegation.actorPrincipalId, hactor]
  · rw [← hn.resource]
    exact hdelegation.scope _ hcovers

theorem eligible_mono {n w : AuthorityEligibility} (hentry : n.Narrows w) {kind : EligibilityKind}
    {principalId : String} (h : Eligible n kind principalId narrow now) :
    Eligible w kind principalId wide now := by
  obtain ⟨hworkspace, hprincipal, hkind, hlive⟩ := h
  refine ⟨?_, ?_, ?_, hentry.lifetime now hlive⟩
  · rw [← hentry.workspaceId, hworkspace, hn.workspaceId]
  · rw [← hentry.principalId, hprincipal]
  · rw [← hentry.kind, hkind]

omit hn in
theorem boundTo_mono {n w : BoundPrincipal} (hbound : n.Narrows w)
    {workspaceId issuer subject : String} (h : BoundTo n workspaceId issuer subject) :
    BoundTo w workspaceId issuer subject := by
  obtain ⟨⟨hworkspace, hprincipal, hid, hissuer, hsubject⟩, hbinding, hstatus⟩ := h
  refine ⟨⟨?_, ?_, ?_, ?_, ?_⟩, hbound.bindingStatus hbinding, hbound.principalStatus hstatus⟩
  · rw [← hbound.workspaceId, hworkspace]
  · rw [← hbound.principalWorkspaceId, hprincipal]
  · rw [← hbound.principalId, hid, hbound.id]
  · rw [← hbound.issuer, hissuer]
  · rw [← hbound.subject, hsubject]

/-- CORRECT: what is authorized under less authority is authorized under more. -/
theorem authorized_mono (hwide : rt.AuthoritySnapshot wide)
    (h : rt.Authorized narrow now action) : rt.Authorized wide now action := by
  -- the identities differ in the token bound alone
  have hidentity : ∀ {β : Type} (f : VerifiedIdentity → β),
      (∀ i bound, f { i with actionUpperBound := bound } = f i) →
      f narrow.identity = f wide.identity := by
    intro β f hf
    rw [← hn.identity]
    exact (hf _ _).symm
  have hnamed : narrow.identity.actor = wide.identity.actor :=
    hidentity VerifiedIdentity.actor fun _ _ => rfl
  obtain ⟨s', hs', hbound'⟩ := h.subjectBound
  obtain ⟨s, hs, hsubject⟩ := hn.subject s' hs'
  have honlySubject : ∀ b ∈ wide.subject, b = s := fun b hb => Option.mem_unique hb hs
  -- the actor of the wide request is the one of the narrow request, or there is none
  have hactor : ∀ a ∈ wide.actor, ∃ a' ∈ narrow.actor, a'.Narrows a := by
    intro a ha
    rcases hname : wide.identity.actor with _ | named
    · rw [hn.actorNamed hname] at ha
      cases ha
    · have hbound := h.actorBound
      rw [hnamed, hname] at hbound
      obtain ⟨a', ha', -⟩ := hbound
      obtain ⟨w, hw, hnarrows⟩ := hn.actor a' ha'
      obtain rfl := Option.mem_unique hw ha
      exact ⟨a', ha', hnarrows⟩
  have hwho : ∀ p ∈ wide.effectiveActor, ∃ p' ∈ narrow.effectiveActor, p'.Narrows p := by
    intro p hp
    rcases ha : wide.actor with _ | a
    · have hnone : narrow.actor = none := by
        rcases ha' : narrow.actor with _ | a'
        · rfl
        · obtain ⟨w, hw, -⟩ := hn.actor a' ha'
          rw [ha] at hw
          cases hw
      have hp : p ∈ wide.subject := by simpa [AuthorizationRequest.effectiveActor, ha] using hp
      rw [honlySubject p hp]
      refine ⟨s', ?_, hsubject⟩
      simpa [AuthorizationRequest.effectiveActor, hnone] using hs'
    · obtain ⟨a', ha', hnarrows⟩ := hactor a ha
      have hpa : p = a := by
        simpa [AuthorizationRequest.effectiveActor, ha, eq_comm] using hp
      refine ⟨a', ?_, hpa ▸ hnarrows⟩
      rw [Option.mem_def] at ha' ⊢
      simp [AuthorizationRequest.effectiveActor, ha']
  refine ⟨⟨?_, ?_, ?_, ?_, ?_, ⟨s, hs, ?_⟩, ?_, ?_, ?_, ?_, ?_, ?_, ?_⟩, ?_, ?_, ?_⟩
  · rw [← hn.action, h.registered]
  · rw [← hn.action]
    exact h.exact
  · rw [← hn.resource]
    exact h.resourceKind
  · rw [← hn.serviceAudience, ← hidentity VerifiedIdentity.audience fun _ _ => rfl]
    exact h.audience
  · rw [← hidentity (VerifiedIdentity.LiveAt · now) fun _ _ => rfl]
    exact h.identityLive
  · rw [← hn.workspaceId, ← hidentity VerifiedIdentity.issuer fun _ _ => rfl,
      ← hidentity VerifiedIdentity.subject fun _ _ => rfl]
    exact boundTo_mono hsubject hbound'
  · have hbound := h.actorBound
    rw [hnamed] at hbound
    rcases hname : wide.identity.actor with _ | named
    · exact hn.actorNamed hname
    · rw [hname] at hbound
      obtain ⟨a', ha', hto⟩ := hbound
      obtain ⟨a, ha, hnarrows⟩ := hn.actor a' ha'
      refine ⟨a, ha, ?_⟩
      rw [← hn.workspaceId]
      exact boundTo_mono hnarrows hto
  · rw [← hidentity VerifiedIdentity.credentialBinding fun _ _ => rfl]
    exact h.sender
  · obtain ⟨identity, hmem, hexact⟩ := h.tokenBound
    exact ⟨identity, hn.tokenBound _ hmem, hexact⟩
  · intro b hb
    obtain ⟨g', hg', hsupports⟩ := h.subjectGrant s' hs'
    obtain ⟨g, hg, hgrant⟩ := hn.subjectGrants g' hg'
    rw [honlySubject b hb, ← hsubject.id]
    exact ⟨g, hg, supports_mono hn hwide hgrant hsupports⟩
  · intro a ha
    obtain ⟨a', ha', hnarrows⟩ := hactor a ha
    obtain ⟨g', hg', hsupports⟩ := h.actorGrant a' ha'
    obtain ⟨g, hg, hgrant⟩ := hn.actorGrants g' hg'
    rw [← hnarrows.id]
    exact ⟨g, hg, supports_mono hn hwide hgrant hsupports⟩
  · intro b hb a ha
    obtain ⟨a', ha', hnarrows⟩ := hactor a ha
    obtain ⟨d', hd', hdelegates⟩ := h.delegation s' hs' a' ha'
    obtain ⟨d, hd, hdelegation⟩ := hn.delegation d' hd'
    rw [honlySubject b hb, ← hsubject.id, ← hnarrows.id]
    exact ⟨d, hd, delegates_mono hn hdelegation hdelegates⟩
  · intro kind hkind p hp
    obtain ⟨p', hp', hnarrows⟩ := hwho p hp
    obtain ⟨e', he', heligible⟩ := h.eligibility kind hkind p' hp'
    obtain ⟨e, he, hentry⟩ := hn.eligibilities e' he'
    rw [← hnarrows.id]
    exact ⟨e, he, eligible_mono hn hentry heligible⟩
  · intro b hb
    rw [honlySubject b hb]
    exact hsubject.createdAt.trans (h.subjectCreated s' hs')
  · intro a ha
    obtain ⟨a', ha', hnarrows⟩ := hactor a ha
    exact hnarrows.createdAt.trans (h.actorCreated a' ha')
  · intro hconnector p hp
    obtain ⟨p', hp', hnarrows⟩ := hwho p hp
    rw [← hnarrows.kind]
    exact h.connectorService hconnector p' hp'

end

/-! ### Another order -/

section

variable {permissionSets : List PermissionSetDefinition}
  {subjectGrants actorGrants : List AuthorizationGrant} {eligibilities : List AuthorityEligibility}

/-- Under distinct keys, the order of the permission sets does not matter. -/
theorem definitionFor_perm {other all : List PermissionSetDefinition} (h : other.Perm all)
    (hnodup : (all.map fun d => (d.uri, d.version)).Nodup) (uri : String) (version : ℕ) :
    definitionFor other uri version = definitionFor all uri version := by
  have hnodup' := (h.map fun d => (d.uri, d.version)).nodup_iff.2 hnodup
  ext d
  exact ⟨definitionFor_mono hnodup fun d => h.mem_iff.1,
    definitionFor_mono hnodup' fun d => h.mem_iff.2⟩

variable (hsets : permissionSets.Perm request.permissionSets)
  (hsubject : subjectGrants.Perm request.subjectGrants)
  (hactor : actorGrants.Perm request.actorGrants)
  (heligible : eligibilities.Perm request.eligibilities)

include hsets hsubject hactor heligible in
/-- Whether the snapshot is valid does not depend on the order. -/
theorem authoritySnapshot_reorder :
    rt.AuthoritySnapshot (request.reorder permissionSets subjectGrants actorGrants eligibilities) ↔
      rt.AuthoritySnapshot request := by
  have hgrants := hsubject.append hactor
  have hkeys := (hsets.map fun d => (d.uri, d.version)).nodup_iff
  refine and_congr_right_iff.2 ?_ |>.trans (and_congr_left' hkeys)
  intro hnodup
  have hfind := definitionFor_perm hsets (hkeys.1 hnodup)
  refine and_congr ?_ (and_congr ?_ (and_congr ?_ ?_))
  · exact forall_congr' fun d => imp_congr_left hsets.mem_iff
  · exact (hgrants.map AuthorizationGrant.id).nodup_iff
  · refine forall_congr' fun g => imp_congr hgrants.mem_iff ?_
    exact exists_congr fun d => and_congr_left' (by
      rw [Option.mem_def, Option.mem_def]
      exact (hfind _ _).congr_left)
  · exact (heligible.map AuthorityEligibility.id).nodup_iff

include hsets in
theorem supports_reorder (hnodup : (request.permissionSets.map fun d => (d.uri, d.version)).Nodup)
    (g : AuthorizationGrant) (principalId : String) :
    Supports g principalId (request.reorder permissionSets subjectGrants actorGrants eligibilities)
      action now ↔ Supports g principalId request action now := by
  have hfind := definitionFor_perm hsets hnodup g.permissionSet.uri g.permissionSet.version
  refine and_congr_right fun _ => and_congr_right fun _ => and_congr_right fun _ =>
    and_congr_right fun _ => exists_congr fun d => and_congr_left' ?_
  rw [Option.mem_def, Option.mem_def]
  exact hfind.congr_left

include hsets in
/-- Whether a supporting grant is found does not depend on the order. -/
theorem supportingGrant_reorder
    (hnodup : (request.permissionSets.map fun d => (d.uri, d.version)).Nodup)
    {grants grants' : List AuthorizationGrant} (hgrants : grants'.Perm grants)
    (principalId : String) :
    (rt.supportingGrant grants' principalId
      (request.reorder permissionSets subjectGrants actorGrants eligibilities) action now).isSome =
    (rt.supportingGrant grants principalId request action now).isSome := by
  rw [Bool.eq_iff_iff, Option.isSome_iff_exists, Option.isSome_iff_exists]
  constructor
  · rintro ⟨s, hs⟩
    obtain ⟨g, hg, hsupports, -⟩ := supportingGrant_eq_some hs
    exact supportingGrant_isSome (hgrants.mem_iff.1 hg)
      ((supports_reorder hsets hnodup g principalId).1 hsupports)
  · rintro ⟨s, hs⟩
    obtain ⟨g, hg, hsupports, -⟩ := supportingGrant_eq_some hs
    exact supportingGrant_isSome (hgrants.mem_iff.2 hg)
      ((supports_reorder hsets hnodup g principalId).2 hsupports)

include hsets hsubject hactor heligible in
/-- CORRECT: the checks come out alike in any order of the lists. -/
theorem judge_reorder :
    Alike (fun _ _ => True)
      (rt.judge (request.reorder permissionSets subjectGrants actorGrants eligibilities) now)
      (rt.judge request now) := by
  have hsnapshot : rt.AuthoritySnapshot
        (request.reorder permissionSets subjectGrants actorGrants eligibilities) ↔
      rt.AuthoritySnapshot request :=
    authoritySnapshot_reorder hsets hsubject hactor heligible
  unfold judge
  refine (alike_self _).bind ?_
  rintro action _ - - rfl
  refine (alike_self _).bind fun _ _ _ _ _ => (alike_self _).bind fun _ _ _ _ _ => ?_
  refine (alike_self _).bind fun _ _ _ _ _ => (alike_self _).bind fun _ _ _ _ _ => ?_
  refine (alike_self _).bind fun _ _ _ _ _ => (alike_self _).bind fun _ _ _ _ _ => ?_
  refine (alike_self _).bind ?_
  rintro subject _ - - rfl
  refine (alike_self _).bind ?_
  rintro actor _ - - rfl
  refine (alike_self _).bind fun _ _ _ _ _ => (alike_self _).bind fun _ _ _ _ _ => ?_
  refine (alike_refuse _ (not_congr hsnapshot)).bind ?_
  rintro _ _ - hvalid -
  have hnodup := (not_not.1 ((refuse_eq_ok _ _ _).1 hvalid)).1
  refine (alike_demand _ (supportingGrant_reorder hsets hnodup hsubject _)).bind ?_
  rintro s s' - - -
  have hdelegation : Alike (fun _ _ => True)
      (rt.checkDelegation
        (request.reorder permissionSets subjectGrants actorGrants eligibilities) action subject
        actor now)
      (rt.checkDelegation request action subject actor now) := by
    rcases actor with _ | actor
    · refine (alike_refuse _ ?_).bind fun _ _ _ _ _ => trivial
      exact or_congr_right (by rw [← hactor.length_eq]; rfl)
    · refine (alike_demand _ (supportingGrant_reorder hsets hnodup hactor _)).bind ?_
      rintro _ _ - - -
      exact (alike_self _).bind fun _ _ _ _ _ => trivial
  refine hdelegation.bind ?_
  rintro ss ss' - - -
  have heligibility : Alike Eq
      (checkEligibility
        (request.reorder permissionSets subjectGrants actorGrants eligibilities) action
        (actor.getD subject) now)
      (checkEligibility request action (actor.getD subject) now) := by
    unfold checkEligibility
    split
    · exact alike_self _
    · refine (alike_self _).bind fun _ _ _ _ _ => alike_refuse _ (not_congr ?_)
      exact exists_congr fun entry => and_congr_left' heligible.mem_iff
  exact heligibility.bind fun _ _ _ _ _ => trivial

include hsets hsubject hactor heligible in
/-- The schema admits a request in any order of its lists. -/
theorem isAuthorizationRequest_reorder :
    rt.IsAuthorizationRequest
        (request.reorder permissionSets subjectGrants actorGrants eligibilities) ↔
      rt.IsAuthorizationRequest request := by
  simp only [IsAuthorizationRequest, AuthorizationRequest.reorder, hsets.mem_iff,
    hsets.length_eq, hsubject.mem_iff, hsubject.length_eq, hactor.mem_iff, hactor.length_eq,
    heligible.mem_iff, heligible.length_eq]

/-- The numbers of a request, wherever they stand. -/
theorem safe_request : (AuthorityValue.request request).Safe ↔
    request.action.version ≤ Json.maxSafeInteger ∧
      (∀ d ∈ request.permissionSets, d.version ≤ Json.maxSafeInteger ∧
        ∀ identity ∈ d.actions, identity.version ≤ Json.maxSafeInteger) ∧
      (∀ g ∈ request.subjectGrants, g.permissionSet.version ≤ Json.maxSafeInteger) ∧
      ∀ g ∈ request.actorGrants, g.permissionSet.version ≤ Json.maxSafeInteger := by
  simp only [AuthorityValue.Safe, AuthorityValue.numbers, List.cons_append, List.mem_cons,
    List.mem_append, List.mem_flatMap, List.mem_map, or_imp, forall_and, forall_eq,
    forall_exists_index, and_imp, forall_apply_eq_imp_iff₂]
  constructor
  · rintro ⟨haction, ⟨hversion, hidentity⟩, hsubject, hactor⟩
    exact ⟨haction, ⟨fun d hd => hversion _ d hd rfl, fun d hd i hi => hidentity _ d hd i hi rfl⟩,
      hsubject, hactor⟩
  · rintro ⟨haction, ⟨hversion, hidentity⟩, hsubject, hactor⟩
    exact ⟨haction, ⟨fun _ d hd h => h ▸ hversion d hd, fun _ d hd i hi h => h ▸ hidentity d hd i hi⟩,
      hsubject, hactor⟩

theorem safe_canonicalRequestSnapshot :
    (AuthorityValue.request (rt.canonicalRequestSnapshot request)).Safe ↔
      (AuthorityValue.request request).Safe := by
  simp only [safe_request, canonicalRequestSnapshot, List.mem_mergeSort, mem_sortById]

include hsets hsubject hactor in
theorem safe_reorder :
    (AuthorityValue.request
        (request.reorder permissionSets subjectGrants actorGrants eligibilities)).Safe ↔
      (AuthorityValue.request request).Safe := by
  simp only [safe_request, AuthorizationRequest.reorder, hsets.mem_iff, hsubject.mem_iff,
    hactor.mem_iff]

/-- A consistent snapshot has safe numbers, as the digests of its permission sets say. -/
theorem Consistent.safe (h : rt.Consistent request)
    (haction : request.action.version ≤ Json.maxSafeInteger) :
    (AuthorityValue.request request).Safe := by
  have hset : ∀ d ∈ request.permissionSets,
      (AuthorityValue.permissionSet d.uri d.version d.actions).Safe := by
    intro d hd
    obtain ⟨_, hdigest, -⟩ := (h.snapshot.2.1 d hd).1
    exact ((rt.digestAuthorityValue_eq_ok _ _).1 hdigest).1
  have hgrant : ∀ g ∈ request.subjectGrants ++ request.actorGrants,
      g.permissionSet.version ≤ Json.maxSafeInteger := by
    intro g hg
    obtain ⟨d, hd, -⟩ := h.snapshot.2.2.2.1 g hg
    obtain ⟨hmem, -, hversion⟩ := mem_of_definitionFor hd
    rw [← hversion]
    exact hset d hmem _ List.mem_cons_self
  refine safe_request.2 ⟨haction, fun d hd => ⟨hset d hd _ List.mem_cons_self, ?_⟩, ?_, ?_⟩
  · intro identity hidentity
    exact hset d hd _ (List.mem_cons_of_mem _ (List.mem_map_of_mem hidentity))
  · exact fun g hg => hgrant g (List.mem_append_left _ hg)
  · exact fun g hg => hgrant g (List.mem_append_right _ hg)

/-- EXACT: a consistent request is allowed exactly when it is authorized. -/
theorem allows_iff_authorized (hrequest : rt.IsAuthorizationRequest request)
    (hconsistent : rt.Consistent request) (hnow : IsUnixMs now) :
    rt.Allows request now ↔ ∃ action, rt.Authorized request now action := by
  rw [allows_iff, safe_canonicalRequestSnapshot]
  constructor
  · rintro ⟨-, -, -, supports, h⟩
    exact (authorized_of_judge h).1
  · rintro ⟨action, h⟩
    have hversion : request.action.version = 1 := by
      rw [h.exact.2.1, rt.getRegisteredAction_version h.registered]
    refine ⟨hrequest, hnow, hconsistent.safe ?_, judge_of_authorized h hconsistent⟩
    rw [hversion]
    decide

/-- Outcomes that are alike are recorded with one verdict and one reason. -/
theorem finish_alike {request' : AuthorizationRequest} (d d' : Digest)
    {outcome outcome' : Except AuthorizationReason (List Support)}
    (h : Alike (fun _ _ => True) outcome outcome') :
    (rt.finish request d now outcome).decision = (rt.finish request' d' now outcome').decision ∧
      (rt.finish request d now outcome).reasonCode =
        (rt.finish request' d' now outcome').reasonCode := by
  cases outcome <;> cases outcome' <;> simp_all [Alike, finish]

include hsets hsubject hactor heligible in
/-- The decision is the same in any order of the lists, up to the digests that name it. -/
theorem evaluateAuthorization_reorder :
    Alike (fun d d' : AuthorizationDecision =>
        d.decision = d'.decision ∧ d.reasonCode = d'.reasonCode)
      (rt.evaluateAuthorization
        (request.reorder permissionSets subjectGrants actorGrants eligibilities) now)
      (rt.evaluateAuthorization request now) := by
  have hrequest : rt.IsAuthorizationRequest
        (request.reorder permissionSets subjectGrants actorGrants eligibilities) ↔
      rt.IsAuthorizationRequest request :=
    isAuthorizationRequest_reorder hsets hsubject hactor heligible
  have hsafe : (AuthorityValue.request (rt.canonicalRequestSnapshot
        (request.reorder permissionSets subjectGrants actorGrants eligibilities))).Safe ↔
      (AuthorityValue.request (rt.canonicalRequestSnapshot request)).Safe := by
    rw [safe_canonicalRequestSnapshot, safe_canonicalRequestSnapshot,
      safe_reorder hsets hsubject hactor]
  have hdigest : Alike (fun _ _ => True)
      (rt.digestAuthorityValue (.request (rt.canonicalRequestSnapshot
        (request.reorder permissionSets subjectGrants actorGrants eligibilities))))
      (rt.digestAuthorityValue (.request (rt.canonicalRequestSnapshot request))) :=
    (alike_refuse _ (not_congr hsafe)).bind fun _ _ _ _ _ => trivial
  unfold evaluateAuthorization
  refine (alike_refuse _ (not_congr hrequest)).bind ?_
  rintro _ _ hvalid' hvalid -
  refine (alike_self _).bind ?_
  rintro _ _ hnow - -
  refine hdigest.bind ?_
  rintro d' d - - -
  rw [refuse_eq_ok, not_not] at hvalid' hvalid hnow
  have hdecision' := finish_admissible d' hvalid' hnow
  have hdecision := finish_admissible d hvalid hnow
  refine (alike_refuse _ (not_congr (iff_of_true hdecision' hdecision))).bind fun _ _ _ _ _ => ?_
  exact finish_alike _ _ (judge_reorder hsets hsubject hactor heligible)

end

/-- CORRECT: authorization is exact, monotone in the authority of a request, and blind to the order
    of its lists. -/
theorem authorization_exact (hnow : IsUnixMs now) :
    (∀ request, rt.IsAuthorizationRequest request → rt.Consistent request →
      (rt.Allows request now ↔ ∃ action, rt.Authorized request now action)) ∧
    (∀ narrow wide : AuthorizationRequest,
      rt.IsAuthorizationRequest narrow → rt.Consistent narrow →
      rt.IsAuthorizationRequest wide → rt.Consistent wide → narrow.Narrows wide →
      rt.Allows narrow now → rt.Allows wide now) ∧
    ∀ (request : AuthorizationRequest) (permissionSets : List PermissionSetDefinition)
      (subjectGrants actorGrants : List AuthorizationGrant)
      (eligibilities : List AuthorityEligibility),
      permissionSets.Perm request.permissionSets → subjectGrants.Perm request.subjectGrants →
      actorGrants.Perm request.actorGrants → eligibilities.Perm request.eligibilities →
      Alike (fun d d' : AuthorizationDecision =>
          d.decision = d'.decision ∧ d.reasonCode = d'.reasonCode)
        (rt.evaluateAuthorization
          (request.reorder permissionSets subjectGrants actorGrants eligibilities) now)
        (rt.evaluateAuthorization request now) := by
  refine ⟨fun _ hrequest hconsistent => allows_iff_authorized hrequest hconsistent hnow, ?_, ?_⟩
  · intro narrow wide hnarrow hconsistent hwide hconsistent' hnarrows h
    obtain ⟨action, h⟩ := (allows_iff_authorized hnarrow hconsistent hnow).1 h
    exact (allows_iff_authorized hwide hconsistent' hnow).2
      ⟨action, authorized_mono hnarrows hconsistent'.snapshot h⟩
  · intro request permissionSets subjectGrants actorGrants eligibilities h₁ h₂ h₃ h₄
    exact evaluateAuthorization_reorder h₁ h₂ h₃ h₄

/-! ### A connector -/

/-- The registered action of dispatching effects, on the ideal platform. -/
def dispatchAction : ActionDefinition :=
  idealAuthority.actionDefinition ("effect.dispatch", [.effect], .required, some .effectConnector)

/-- A permission set with that action alone. -/
def dispatchSet : PermissionSetDefinition where
  uri := "urn:p"
  version := 1
  implementationDigest :=
    idealAuthority.digest (.permissionSet "urn:p" 1 [dispatchAction.identity])
  actions := [dispatchAction.identity]

/-- An enabled binding of a principal of the kind. -/
def plainBound (principalId : String) (kind : PrincipalKind) (createdAt : ℕ) : BoundPrincipal where
  binding :=
    { id := "b" ++ principalId, workspaceId := "w", principalId, issuer := "https://i.example/",
      subject := "s" ++ principalId, method := "oidc", status := .enabled, revision := 1, createdAt,
      disabledAt := none, replacedByBindingId := none }
  principal := { id := principalId, workspaceId := "w", kind, status := .enabled, revision := 1 }

/-- No bounds in time. -/
def plainLifetime : Lifetime where
  notBefore := none
  expiresAt := none
  status := .active
  revision := 1

/-- An identity of a subject, live from 0 until 10. -/
def plainIdentity (subject : String) (actions : List ActionIdentity) : VerifiedIdentity where
  issuer := "https://i.example/"
  subject := subject
  audience := ["https://a.example/"]
  authenticationMethod := .oauthIntrospection
  authenticatedAt := 0
  notBefore := none
  expiresAt := 10
  clientId := none
  actor := none
  credentialBinding := .dpop ⟨.null⟩
  tokenIdDigest := none
  issuerConfigurationDigest := ⟨.null⟩
  credentialKeyDigest := ⟨.null⟩
  actionUpperBound := actions

/-- Principal `p` asks to dispatch an effect, with grant and eligibility. -/
def dispatchRequest (kind : PrincipalKind) (createdAt : ℕ) (actor : Option BoundPrincipal) :
    AuthorizationRequest where
  requestId := "r"
  workspaceId := "w"
  serviceAudience := "https://a.example/"
  action := dispatchAction.identity
  resource := ⟨.effect, "e"⟩
  identity := plainIdentity "sp" [dispatchAction.identity]
  subject := some (plainBound "p" kind createdAt)
  actor := actor
  permissionSets := [dispatchSet]
  subjectGrants :=
    [{ plainLifetime with
        id := "g", workspaceId := "w", grantorPrincipalId := "p", granteePrincipalId := "p",
        permissionSet := ⟨dispatchSet.uri, dispatchSet.version, dispatchSet.implementationDigest⟩,
        scope := .workspace }]
  actorGrants := []
  delegation := none
  eligibilities :=
    [{ plainLifetime with
        id := "e", workspaceId := "w", principalId := "p", kind := .effectConnector }]

theorem authorization_exact_dispatch :
    idealAuthority.Allows (dispatchRequest .service 0 none) 1 ↔
      ∃ action, idealAuthority.Authorized (dispatchRequest .service 0 none) 1 action :=
  (authorization_exact (by decide)).1 _ (by decide +kernel) ⟨by decide +kernel, fun _ => ⟨rfl, rfl⟩⟩

theorem dispatchAction_registered :
    idealAuthority.getRegisteredAction dispatchAction.uri = some dispatchAction := by
  decide +kernel

theorem dispatchSet_found :
    definitionFor [dispatchSet] dispatchSet.uri dispatchSet.version = some dispatchSet := by
  decide +kernel

theorem plainLifetime_live : plainLifetime.live 1 := ⟨rfl, nofun, nofun⟩

/-- The request is entitled whoever the connector is and whenever it was bound. -/
theorem dispatchRequest_entitled (kind : PrincipalKind) (createdAt : ℕ) :
    idealAuthority.Entitled (dispatchRequest kind createdAt none) 1 dispatchAction where
  registered := dispatchAction_registered
  exact := (exactAction_iff _ _).2 rfl
  resourceKind := List.mem_singleton_self _
  audience := List.mem_singleton_self _
  identityLive := ⟨nofun, Nat.zero_le _, (by decide : 1 < 10)⟩
  subjectBound := ⟨_, rfl, ⟨⟨rfl, rfl, rfl, rfl, rfl⟩, rfl, rfl⟩⟩
  actorBound := rfl
  sender := fun _ => nofun
  tokenBound := ⟨_, List.mem_singleton_self _, (exactAction_iff _ _).2 rfl⟩
  subjectGrant := by
    rintro _ ⟨⟩
    exact ⟨_, List.mem_singleton_self _, rfl, rfl, plainLifetime_live, trivial, dispatchSet,
      dispatchSet_found, rfl, _, List.mem_singleton_self _, (exactAction_iff _ _).2 rfl⟩
  actorGrant := nofun
  delegation := fun _ _ => nofun
  eligibility := by
    rintro _ ⟨⟩ _ ⟨⟩
    exact ⟨_, List.mem_singleton_self _, rfl, rfl, rfl, plainLifetime_live⟩

/-- NOT SO: an agent with a live connector eligibility, and a subject that is bound only later, are
    denied; and taking away the binding of an actor that the identity does not name turns a denial
    into an allow. -/
theorem entitled_denied :
    (idealAuthority.IsAuthorizationRequest (dispatchRequest .agent 0 none) ∧
      idealAuthority.Consistent (dispatchRequest .agent 0 none) ∧
      idealAuthority.Entitled (dispatchRequest .agent 0 none) 1 dispatchAction ∧
      ¬ idealAuthority.Allows (dispatchRequest .agent 0 none) 1) ∧
    (idealAuthority.IsAuthorizationRequest (dispatchRequest .service 2 none) ∧
      idealAuthority.Consistent (dispatchRequest .service 2 none) ∧
      idealAuthority.Entitled (dispatchRequest .service 2 none) 1 dispatchAction ∧
      ¬ idealAuthority.Allows (dispatchRequest .service 2 none) 1) ∧
    idealAuthority.IsAuthorizationRequest
      (dispatchRequest .service 0 (some (plainBound "q" .agent 0))) ∧
    idealAuthority.Consistent (dispatchRequest .service 0 (some (plainBound "q" .agent 0))) ∧
    ¬ idealAuthority.Allows (dispatchRequest .service 0 (some (plainBound "q" .agent 0))) 1 ∧
    idealAuthority.Allows (dispatchRequest .service 0 none) 1 := by
  refine ⟨⟨by decide +kernel, ⟨by decide +kernel, fun _ => ⟨rfl, rfl⟩⟩,
    dispatchRequest_entitled _ _, by decide +kernel⟩, ⟨by decide +kernel,
    ⟨by decide +kernel, fun _ => ⟨rfl, rfl⟩⟩, dispatchRequest_entitled _ _, by decide +kernel⟩,
    by decide +kernel, ⟨by decide +kernel, fun _ => ⟨rfl, rfl⟩⟩, by decide +kernel,
    by decide +kernel⟩

end AuthorityRuntime

end Tasq.Authority
