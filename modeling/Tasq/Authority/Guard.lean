import Mathlib.Tactic
import Tasq.Authority.Ideal
import Tasq.Authority.Keyed
import Tasq.Authority.Monotone
import Tasq.Authority.Revision

/-! Guarded execution. A new decision is evaluated on the store of its own transaction; a replay
    rests on a decision that was evaluated on the same rows, because the revision did not move, but
    at another reading of the clock. -/

namespace Tasq.Authority

open Text Outcome Rows

namespace AuthorityRows

/-- The tables that an authorization reads agree on a workspace. -/
structure SameAt (workspaceId : String) (rows rows' : AuthorityRows) : Prop where
  principals : rows'.principals.filter (·.workspaceId = workspaceId) =
    rows.principals.filter (·.workspaceId = workspaceId)
  bindings : rows'.bindings.filter (·.workspaceId = workspaceId) =
    rows.bindings.filter (·.workspaceId = workspaceId)
  permissionSets : rows'.permissionSets.filter (·.workspaceId = workspaceId) =
    rows.permissionSets.filter (·.workspaceId = workspaceId)
  grants : rows'.grants.filter (·.workspaceId = workspaceId) =
    rows.grants.filter (·.workspaceId = workspaceId)
  delegations : rows'.delegations.filter (·.workspaceId = workspaceId) =
    rows.delegations.filter (·.workspaceId = workspaceId)
  eligibilities : rows'.eligibilities.filter (·.workspaceId = workspaceId) =
    rows.eligibilities.filter (·.workspaceId = workspaceId)

variable {rt : AuthorityRuntime} {m : Mutation} {now : ℕ} {rows rows' : AuthorityRows}
  {workspaceId : String}

theorem SameAt.refl (rows : AuthorityRows) : SameAt workspaceId rows rows :=
  ⟨rfl, rfl, rfl, rfl, rfl, rfl⟩

theorem SameAt.trans {rows'' : AuthorityRows} (h : SameAt workspaceId rows rows')
    (h' : SameAt workspaceId rows' rows'') : SameAt workspaceId rows rows'' :=
  ⟨h'.principals.trans h.principals, h'.bindings.trans h.bindings,
    h'.permissionSets.trans h.permissionSets, h'.grants.trans h.grants,
    h'.delegations.trans h.delegations, h'.eligibilities.trans h.eligibilities⟩

/-! ### The workspace of what a mutation writes -/

theorem insertsSet_workspaceId {w : String} {p : PermissionSetDefinition}
    (h : m.InsertsSet rt w p) : w = m.workspaceId := by
  obtain rfl | ⟨intent, compiled, rfl, hcompiled, rfl, -⟩ := h
  · rfl
  · rw [(AuthorityRuntime.compileMandate_eq_ok.1 hcompiled).source]
    rfl

theorem insertsGrant_workspaceId {g : AuthorizationGrant} (h : m.InsertsGrant rt g) :
    g.workspaceId = m.workspaceId := by
  obtain rfl | ⟨intent, compiled, rfl, hcompiled, rfl | hg⟩ := h
  · rfl
  · rw [(AuthorityRuntime.compileMandate_eq_ok.1 hcompiled).subjectGrant]
    rfl
  · rw [(AuthorityRuntime.compileMandate_eq_ok.1 hcompiled).actorGrant, eq_comm,
      Option.map_eq_some_iff] at hg
    obtain ⟨id, -, rfl⟩ := hg
    rfl

theorem insertsDelegation_workspaceId {d : Delegation} (h : m.InsertsDelegation rt d) :
    d.workspaceId = m.workspaceId := by
  obtain rfl | ⟨intent, compiled, rfl, hcompiled, hd⟩ := h
  · rfl
  · rw [(AuthorityRuntime.compileMandate_eq_ok.1 hcompiled).delegation, eq_comm,
      Option.map_eq_some_iff] at hd
    obtain ⟨id, -, rfl⟩ := hd
    rfl

theorem revokesGrant_workspaceId {w id : String} {n : ℕ} (h : m.RevokesGrant rt w id n) :
    w = m.workspaceId := by
  obtain rfl | ⟨_, rfl, -⟩ := h <;> rfl

theorem revokesDelegation_workspaceId {w id : String} {n : ℕ} (h : m.RevokesDelegation rt w id n) :
    w = m.workspaceId := by
  obtain rfl | ⟨_, rfl, -⟩ := h <;> rfl

/-- An inserted row of another workspace. -/
theorem filter_insert_other {α : Type} {values values' : List α} {clash : α → Prop}
    [DecidablePred clash] {row : α} {key : α → String} (hrow : key row ≠ workspaceId)
    (h : insertRow values clash row alreadyExists = .ok values') :
    values'.filter (key · = workspaceId) = values.filter (key · = workspaceId) :=
  filter_insertRow (by simpa using hrow) h

/-- An updated row of another workspace. -/
theorem filter_update_other {α : Type} {values values' : List α} {p : α → Prop} [DecidablePred p]
    {f : α → α} {e : AuthorityFailure} {key : α → String} {w : String}
    (h : updateRow values p f e = .ok values') (hw : w ≠ workspaceId) (hp : ∀ r, p r → key r = w)
    (hf : ∀ r, key (f r) = key r) :
    values'.filter (key · = workspaceId) = values.filter (key · = workspaceId) := by
  refine filter_updateRow (fun r hr => ?_) (fun r hr => ?_) h
  · simpa [hp r hr] using hw
  · simpa [hf, hp r hr] using hw

/-- STEP: a write in one workspace leaves the others alone. -/
theorem Write.sameAt (h : Write rt m now rows rows') (hw : m.workspaceId ≠ workspaceId) :
    SameAt workspaceId rows rows' := by
  cases h with
  | registerPrincipal p principals hm h =>
    subst hm
    exact { SameAt.refl rows with principals := filter_insert_other hw h }
  | disablePrincipal w id n principals hm h =>
    subst hm
    exact { SameAt.refl rows with
      principals := filter_update_other h hw (fun _ hp => hp.1) fun _ => rfl }
  | bindSubject b bindings hm h _ _ =>
    subst hm
    exact { SameAt.refl rows with bindings := filter_insert_other hw h }
  | disableBinding w id n replaced bindings hm h _ =>
    subst hm
    exact { SameAt.refl rows with
      bindings := filter_update_other h hw (fun _ hp => hp.1) fun _ => rfl }
  | insertPermissionSet w p sets hm h =>
    rw [← insertsSet_workspaceId hm] at hw
    exact { SameAt.refl rows with permissionSets := filter_insert_other hw h }
  | retirePermissionSet w uri version n sets hm h =>
    subst hm
    exact { SameAt.refl rows with
      permissionSets := filter_update_other h hw (fun _ hp => hp.1) fun _ => rfl }
  | insertGrant g grants hm h _ _ _ =>
    rw [← insertsGrant_workspaceId hm] at hw
    exact { SameAt.refl rows with grants := filter_insert_other hw h }
  | revokeGrant w id message n grants hm h =>
    rw [← revokesGrant_workspaceId hm] at hw
    exact { SameAt.refl rows with
      grants := filter_update_other h hw (fun _ hp => hp.1) fun _ => rfl }
  | insertDelegation d delegations hm h _ _ =>
    rw [← insertsDelegation_workspaceId hm] at hw
    exact { SameAt.refl rows with delegations := filter_insert_other hw h }
  | revokeDelegation w id message n delegations hm h =>
    rw [← revokesDelegation_workspaceId hm] at hw
    exact { SameAt.refl rows with
      delegations := filter_update_other h hw (fun _ hp => hp.1) fun _ => rfl }
  | grantEligibility e eligibilities hm h _ =>
    subst hm
    exact { SameAt.refl rows with eligibilities := filter_insert_other hw h }
  | revokeEligibility w id n eligibilities hm h =>
    subst hm
    exact { SameAt.refl rows with
      eligibilities := filter_update_other h hw (fun _ hp => hp.1) fun _ => rfl }
  | createEnrollment => exact { SameAt.refl rows with }
  | revokeEnrollment => exact { SameAt.refl rows with }
  | revokeAccessCredential => exact { SameAt.refl rows with }

/-- STEP: a mutation of one workspace leaves the others alone. -/
theorem Writes.sameAt (h : Writes rt m now rows rows') (hw : m.workspaceId ≠ workspaceId) :
    SameAt workspaceId rows rows' := by
  induction h with
  | refl => exact .refl rows
  | tail _ hwrite ih => exact ih.trans (hwrite.sameAt hw)

/-! ### What an authorization reads -/

section

variable (hsame : SameAt workspaceId rows rows')
include hsame

theorem loadBoundPrincipal_same (issuer subject : String) :
    rows'.loadBoundPrincipal rt workspaceId issuer subject =
      rows.loadBoundPrincipal rt workspaceId issuer subject := by
  have hbindings := find?_of_filter_eq hsame.bindings
    (p := fun b => b.workspaceId = workspaceId ∧ b.issuer = issuer ∧ b.subject = subject)
    (by simp +contextual)
  unfold loadBoundPrincipal
  rw [hbindings]
  split
  · rfl
  · rename_i b hb
    have hworkspace : b.workspaceId = workspaceId := by
      have hfound := List.find?_some hb
      simp only [decide_eq_true_eq] at hfound
      exact hfound.1
    have hprincipals := find?_of_filter_eq hsame.principals
      (p := fun p => p.workspaceId = b.workspaceId ∧ p.id = b.principalId)
      (by simp +contextual [hworkspace])
    rw [hprincipals]

theorem loadPermissionSets_same :
    rows'.loadPermissionSets rt workspaceId = rows.loadPermissionSets rt workspaceId := by
  unfold loadPermissionSets
  rw [filter_of_filter_eq hsame.permissionSets (by simp +contextual)]

theorem grantActive_same {g : AuthorizationGrant} (hg : g.workspaceId = workspaceId) :
    rows'.GrantActive g ↔ rows.GrantActive g := by
  unfold GrantActive
  constructor
  · rintro ⟨p, hp, hworkspace, h⟩
    exact ⟨p, (mem_of_filter_eq hsame.permissionSets (by simp [hworkspace, hg])).1 hp, hworkspace, h⟩
  · rintro ⟨p, hp, hworkspace, h⟩
    exact ⟨p, (mem_of_filter_eq hsame.permissionSets (by simp [hworkspace, hg])).2 hp, hworkspace, h⟩

theorem loadGrants_same (principalId : Option String) :
    rows'.loadGrants rt workspaceId principalId = rows.loadGrants rt workspaceId principalId := by
  cases principalId with
  | none => rfl
  | some id =>
    have hactive : rows'.grants.filter (fun g => g.workspaceId = workspaceId ∧
          g.granteePrincipalId = id ∧ rows'.GrantActive g) =
        rows'.grants.filter (fun g => g.workspaceId = workspaceId ∧
          g.granteePrincipalId = id ∧ rows.GrantActive g) := by
      refine List.filter_congr fun g _ => ?_
      rw [decide_eq_decide]
      exact and_congr_right fun hg => and_congr_right fun _ => grantActive_same hsame hg
    simp only [loadGrants]
    rw [hactive, filter_of_filter_eq hsame.grants (by simp +contextual)]

theorem loadDelegation_same (subjectId actorId : Option String) (action : ActionIdentity)
    (resource : ResourceRef) (now : ℕ) :
    rows'.loadDelegation rt workspaceId subjectId actorId action resource now =
      rows.loadDelegation rt workspaceId subjectId actorId action resource now := by
  cases subjectId <;> cases actorId <;> try rfl
  simp only [loadDelegation]
  rw [filter_of_filter_eq hsame.delegations (by simp +contextual)]

theorem loadEligibilities_same (principalId : Option String) :
    rows'.loadEligibilities workspaceId principalId =
      rows.loadEligibilities workspaceId principalId := by
  cases principalId with
  | none => rfl
  | some id =>
    simp only [loadEligibilities]
    rw [filter_of_filter_eq hsame.eligibilities (by simp +contextual)]

end

/-- Tables that agree on a workspace show the evaluator the same request in it. -/
theorem loadRequest_same {input : WorkspaceAuthorizationInput}
    (hsame : SameAt input.workspaceId rows rows') (enabled : Bool) (now : ℕ) :
    rows'.loadRequest rt enabled input now = rows.loadRequest rt enabled input now := by
  unfold loadRequest loadActor
  simp only [loadBoundPrincipal_same hsame, loadPermissionSets_same hsame, loadGrants_same hsame,
    loadDelegation_same hsame, loadEligibilities_same hsame]

/-! ### The same request at another reading of the clock -/

theorem parseAll_eq_ok {α : Type} {admits : α → Prop} [DecidablePred admits]
    {values values' : List α} :
    parseAll admits values = .ok values' ↔ (∀ v ∈ values, admits v) ∧ values = values' := by
  simp only [parseAll, bind_eq_ok, refuse_eq_ok, pure_eq_ok, exists_const, not_not]

/-- The delegation that is loaded is one of those that parse; which one, the clock says. -/
theorem loadDelegation_at {subjectId actorId : Option String} {action : ActionIdentity}
    {resource : ResourceRef} {t : ℕ} {d : Option Delegation}
    (h : rows.loadDelegation rt workspaceId subjectId actorId action resource t = .ok d)
    (now : ℕ) :
    ∃ d', rows.loadDelegation rt workspaceId subjectId actorId action resource now = .ok d' ∧
      (∀ x ∈ d', rt.IsDelegation x) ∧ (actorId = none → d' = none) := by
  cases subjectId with
  | none => exact ⟨none, rfl, fun _ hx => absurd hx (Option.not_mem_none _), fun _ => rfl⟩
  | some subjectId =>
    cases actorId with
    | none => exact ⟨none, rfl, fun _ hx => absurd hx (Option.not_mem_none _), fun _ => rfl⟩
    | some actorId =>
      simp only [loadDelegation, bind_eq_ok, pure_eq_ok, parseAll_eq_ok] at h
      obtain ⟨parsed, ⟨hvalid, rfl⟩, -⟩ := h
      refine ⟨_, by rw [loadDelegation, (parseAll_eq_ok).2 ⟨hvalid, rfl⟩, ok_bind]; rfl, ?_,
        fun h => absurd h (Option.some_ne_none _)⟩
      intro x hx
      rw [Option.mem_def, Option.orElse_eq_some] at hx
      rcases hx with hx | ⟨-, hx⟩
      · exact hvalid x (List.mem_of_find?_eq_some hx)
      · exact hvalid x (List.mem_of_find?_eq_some hx)

theorem loadActor_none {enabled : Bool} {input : WorkspaceAuthorizationInput}
    {actor : Option BoundPrincipal} (hnone : input.identity.actor = none)
    (h : rows.loadActor rt enabled input = .ok actor) : actor = none := by
  rw [loadActor, hnone, pure_eq_ok] at h
  exact h.symm

/-- Only the delegation of a request depends on the clock. -/
theorem loadRequest_at {enabled : Bool} {input : WorkspaceAuthorizationInput} {t : ℕ}
    {r : AuthorizationRequest} (h : rows.loadRequest rt enabled input t = .ok r) (now : ℕ) :
    ∃ d, rows.loadRequest rt enabled input now = .ok { r with delegation := d } ∧
      (∀ x ∈ d, rt.IsDelegation x) ∧ (r.identity.actor = none → d = none) := by
  simp only [loadRequest, bind_eq_ok, pure_eq_ok] at h ⊢
  obtain ⟨subject, hsubject, actor, hactor, sets, hsets, sg, hsg, ag, hag, d, hd, es, hes, rfl⟩ := h
  obtain ⟨d', hd', hvalid, hnone⟩ := loadDelegation_at hd now
  refine ⟨d', ⟨subject, hsubject, actor, hactor, sets, hsets, sg, hsg, ag, hag, d', hd', es, hes,
    rfl⟩, hvalid, fun h => hnone ?_⟩
  rw [loadActor_none h hactor]
  rfl

end AuthorityRows

/-! ### What an allow rests on -/

namespace AuthorityRuntime

variable (rt : AuthorityRuntime)

/-- What an allow rests on is in force: the identity is within its window, the bindings exist, and
    of each kind of record that supports the request one is live. -/
structure InForce (request : AuthorizationRequest) (now : ℕ) : Prop where
  identity : request.identity.LiveAt now
  subject : ∀ s ∈ request.subject, s.binding.createdAt ≤ now
  actor : ∀ a ∈ request.actor, a.binding.createdAt ≤ now
  subjectGrant : ∀ action ∈ rt.getRegisteredAction request.action.uri, ∀ s ∈ request.subject,
    ∃ g ∈ request.subjectGrants, Supports g s.principal.id request action now
  actorGrant : ∀ action ∈ rt.getRegisteredAction request.action.uri, ∀ a ∈ request.actor,
    ∃ g ∈ request.actorGrants, Supports g a.principal.id request action now
  delegation : ∀ action ∈ rt.getRegisteredAction request.action.uri, ∀ s ∈ request.subject,
    ∀ a ∈ request.actor, ∃ d ∈ request.delegation,
      Delegates d s.principal.id a.principal.id request action now
  eligibility : ∀ action ∈ rt.getRegisteredAction request.action.uri,
    ∀ kind ∈ action.eligibility, ∀ p ∈ request.effectiveActor,
      ∃ e ∈ request.eligibilities, Eligible e kind p.principal.id request now

variable {rt} {request : AuthorizationRequest} {t now : ℕ} {action : ActionDefinition}

/-- A request that was authorized once is authorized when what it rests on is in force. -/
theorem Authorized.later (h : rt.Authorized request t action) {d : Option Delegation}
    (hforce : rt.InForce { request with delegation := d } now) :
    rt.Authorized { request with delegation := d } now action where
  registered := h.registered
  exact := h.exact
  resourceKind := h.resourceKind
  audience := h.audience
  identityLive := hforce.identity
  subjectBound := h.subjectBound
  actorBound := h.actorBound
  sender := h.sender
  tokenBound := h.tokenBound
  subjectGrant := hforce.subjectGrant action h.registered
  actorGrant := hforce.actorGrant action h.registered
  delegation := hforce.delegation action h.registered
  eligibility := hforce.eligibility action h.registered
  subjectCreated := hforce.subject
  actorCreated := hforce.actor
  connectorService := h.connectorService

/-- What an authorized request rests on is in force. -/
theorem Authorized.inForce (h : rt.Authorized request now action) : rt.InForce request now := by
  have haction : ∀ other ∈ rt.getRegisteredAction request.action.uri, other = action := by
    intro other hother
    exact Option.mem_unique hother h.registered
  refine ⟨h.identityLive, h.subjectCreated, h.actorCreated, ?_, ?_, ?_, ?_⟩
  · intro other hother
    exact haction other hother ▸ h.subjectGrant
  · intro other hother
    exact haction other hother ▸ h.actorGrant
  · intro other hother
    exact haction other hother ▸ h.delegation
  · intro other hother
    exact haction other hother ▸ h.eligibility

/-- An allow comes of a consistent request. -/
theorem Allows.authorized (h : rt.Allows request now) :
    rt.IsAuthorizationRequest request ∧ (∃ action, rt.Authorized request now action) ∧
      rt.Consistent request := by
  obtain ⟨hrequest, -, -, supports, hjudge⟩ := allows_iff.1 h
  obtain ⟨hauthorized, hconsistent⟩ := authorized_of_judge hjudge
  exact ⟨hrequest, hauthorized, hconsistent⟩

/-- EXACT: a request that was allowed on the same authority, up to the delegation that the clock
    selects, is allowed now exactly when what it rests on is in force now. -/
theorem allows_later (h : rt.Allows request t) {d : Option Delegation}
    (hvalid : ∀ x ∈ d, rt.IsDelegation x) (hnone : request.identity.actor = none → d = none)
    (hnow : IsUnixMs now) :
    rt.Allows { request with delegation := d } now ↔
      rt.InForce { request with delegation := d } now := by
  obtain ⟨hrequest, ⟨action, hauthorized⟩, hconsistent⟩ := h.authorized
  have hrequest' : rt.IsAuthorizationRequest { request with delegation := d } := by
    obtain ⟨h₁, h₂, h₃, h₄, h₅, h₆, h₇, h₈, h₉, h₁₀, h₁₁, h₁₂, h₁₃, h₁₄, -, h₁₆⟩ := hrequest
    exact ⟨h₁, h₂, h₃, h₄, h₅, h₆, h₇, h₈, h₉, h₁₀, h₁₁, h₁₂, h₁₃, h₁₄, hvalid, h₁₆⟩
  have hconsistent' : rt.Consistent { request with delegation := d } :=
    ⟨hconsistent.snapshot, fun hactor => ⟨hnone hactor, (hconsistent.actorOnly hactor).2⟩⟩
  rw [allows_iff_authorized hrequest' hconsistent' hnow]
  constructor
  · rintro ⟨action', hauthorized'⟩
    exact hauthorized'.inForce
  · intro hforce
    exact ⟨action, hauthorized.later hforce⟩

end AuthorityRuntime

/-! ### INVARIANT: what stored allows rest on -/

namespace AuthorityStore

variable {rt : AuthorityRuntime} {s s' : AuthorityStore} {input : WorkspaceAuthorizationInput}
  {now : ℕ}

/-- The request of the decision is one that the store shows, and that was allowed. -/
def AllowedOnce (rt : AuthorityRuntime) (s : AuthorityStore) (d : DecisionRow) : Prop :=
  ∃ input request t, d.envelopeDigest = rt.digest (.envelope input) ∧
    input.workspaceId = d.workspaceId ∧ s.requestAt rt input t = .ok request ∧
    rt.Allows request t

/-- A stored allow at the current revision was decided on the rows as they are. -/
structure Current (rt : AuthorityRuntime) (s : AuthorityStore) : Prop where
  bounded : ∀ d ∈ s.decisions, ∀ k ∈ d.authorityRevision, ∃ n,
    s.revisionOf d.workspaceId = some n ∧ k ≤ n
  allowed : ∀ d ∈ s.decisions, d.decision.decision = .allow →
    d.authorityRevision = s.revisionOf d.workspaceId → AllowedOnce rt s d

/-- The decision is the evaluator's, on a request that the store shows. -/
def DecidedOn (rt : AuthorityRuntime) (s : AuthorityStore) (d : DecisionRow) : Prop :=
  ∃ input request t, d.envelopeDigest = rt.digest (.envelope input) ∧
    input.workspaceId = d.workspaceId ∧ s.requestAt rt input t = .ok request ∧
    rt.evaluateAuthorization request t = .ok d.decision

/-- A stored decision at the current revision was made on the rows as they are. -/
structure Standing (rt : AuthorityRuntime) (s : AuthorityStore) : Prop where
  bounded : ∀ d ∈ s.decisions, ∀ k ∈ d.authorityRevision, ∃ n,
    s.revisionOf d.workspaceId = some n ∧ k ≤ n
  known : ∀ d ∈ s.decisions, d.decision.decision = .allow → d.authorityRevision ≠ none
  decided : ∀ d ∈ s.decisions, d.authorityRevision = s.revisionOf d.workspaceId →
    DecidedOn rt s d

theorem Standing.current (h : Standing rt s) : Current rt s := by
  refine ⟨h.bounded, fun d hd hallow hrevision => ?_⟩
  obtain ⟨input, request, t, hdigest, hid, hrequest, hevaluated⟩ := h.decided d hd hrevision
  exact ⟨input, request, t, hdigest, hid, hrequest, d.decision, hevaluated, hallow⟩

theorem loadWorkspace_eq_ok {id : String} {workspace : Option HostedWorkspace}
    (h : s.loadWorkspace id = .ok workspace) : workspace = s.workspaceRow id := by
  unfold loadWorkspace at h
  split at h
  · rename_i hnone
    rw [hnone, (pure_eq_ok _ _).1 h]
  · rename_i row hrow
    simp only [workspaceFromRow, map_eq_ok, bind_eq_ok, refuse_eq_ok, pure_eq_ok,
      exists_const] at h
    obtain ⟨_, ⟨-, rfl⟩, rfl⟩ := h
    rw [hrow]

/-- Stores that agree on a workspace show the evaluator the same request in it. -/
theorem requestAt_same (hrow : s'.workspaceRow input.workspaceId = s.workspaceRow input.workspaceId)
    (hsame : AuthorityRows.SameAt input.workspaceId s.toAuthorityRows s'.toAuthorityRows) :
    s'.requestAt rt input now = s.requestAt rt input now := by
  unfold requestAt loadWorkspace
  rw [hrow]
  simp only [AuthorityRows.loadRequest_same hsame]

theorem DecidedOn.same {d : DecisionRow} (h : DecidedOn rt s d)
    (hrow : s'.workspaceRow d.workspaceId = s.workspaceRow d.workspaceId)
    (hsame : AuthorityRows.SameAt d.workspaceId s.toAuthorityRows s'.toAuthorityRows) :
    DecidedOn rt s' d := by
  obtain ⟨input, request, t, hdigest, hid, hrequest, hevaluated⟩ := h
  rw [← hid] at hrow hsame
  exact ⟨input, request, t, hdigest, hid, (requestAt_same hrow hsame).trans hrequest, hevaluated⟩

/-- A step that leaves the decisions, the workspaces and what is read alone. -/
theorem Standing.frame (h : Standing rt s) (hdecisions : s'.decisions = s.decisions)
    (hworkspaces : s'.workspaces = s.workspaces)
    (hsame : ∀ id, AuthorityRows.SameAt id s.toAuthorityRows s'.toAuthorityRows) :
    Standing rt s' := by
  have hrow : ∀ id, s'.workspaceRow id = s.workspaceRow id := by
    intro id
    rw [workspaceRow, hworkspaces, workspaceRow]
  refine ⟨fun d hd => ?_, fun d hd => h.known d (hdecisions ▸ hd), fun d hd hrevision => ?_⟩
  · rw [hdecisions] at hd
    rw [revisionOf, hrow]
    exact h.bounded d hd
  · rw [hdecisions] at hd
    rw [revisionOf, hrow] at hrevision
    exact (h.decided d hd hrevision).same (hrow _) (hsame _)

/-- STEP: a commit raises the revision of its workspace above every decision in it, and leaves the
    other workspaces alone. -/
theorem Commits.standing {m m' : Mutation} {context : AuthorityMutationContext}
    {apply : AuthorityRows → AuthorityCall AuthorityRows} {w : HostedWorkspace}
    {rows : AuthorityRows} (h : s.Commits m' context now apply w rows)
    (hhands : s.Hands rt m now m' apply) (hs : Standing rt s) :
    Standing rt (s.committed rt m' context now w.authorityRevision rows) := by
  have hgrows : s.Grows (s.committed rt m' context now w.authorityRevision rows) := h.grows
  refine ⟨fun d hd k hk => ?_, hs.known, fun d hd hrevision => ?_⟩
  · obtain ⟨n, hn, hle⟩ := hs.bounded d hd k hk
    obtain ⟨n', hn', hle'⟩ := hgrows.revision _ n hn
    exact ⟨n', hn', hle.trans hle'⟩
  · by_cases hid : d.workspaceId = m'.workspaceId
    · -- the decision is older than the new revision of its workspace
      rw [hid, h.revisionOf_committed] at hrevision
      obtain ⟨n, hn, hle⟩ := hs.bounded d hd _ hrevision
      rw [hid, h.revisionOf, Option.some.injEq] at hn
      omega
    · rw [revisionOf_committed_of_ne _ hid] at hrevision
      refine (hs.decided d hd hrevision).same (committed_workspaceRow_of_ne _ hid) ?_
      exact (hhands.writes h.apply).sameAt (Ne.symm hid)

/-- STEP: a new workspace has no decisions. -/
theorem Standing.provision (hs : Standing rt s) {w : HostedWorkspace}
    (hnew : ∀ v ∈ s.workspaces, v.workspaceId ≠ w.workspaceId)
    (hworkspaces : s'.workspaces = s.workspaces ++ [w]) (hdecisions : s'.decisions = s.decisions)
    (hrows : s'.toAuthorityRows = s.toAuthorityRows) : Standing rt s' := by
  have hrow := workspaceRow_append hworkspaces hnew
  have hnone : s.revisionOf w.workspaceId = none := by
    rw [revisionOf, workspaceRow_eq_none hnew]
    rfl
  refine ⟨fun d hd k hk => ?_, fun d hd => hs.known d (hdecisions ▸ hd), fun d hd hrevision => ?_⟩
  · rw [hdecisions] at hd
    obtain ⟨n, hn, hle⟩ := hs.bounded d hd k hk
    have hid : d.workspaceId ≠ w.workspaceId := by
      intro hid
      rw [hid, hnone] at hn
      cases hn
    exact ⟨n, by rw [revisionOf, hrow, if_neg hid]; exact hn, hle⟩
  · rw [hdecisions] at hd
    by_cases hid : d.workspaceId = w.workspaceId
    · rw [revisionOf, hrow, if_pos hid, Option.map_some] at hrevision
      obtain ⟨n, hn, -⟩ := hs.bounded d hd _ hrevision
      rw [hid, hnone] at hn
      cases hn
    · rw [revisionOf, hrow, if_neg hid] at hrevision
      refine (hs.decided d hd hrevision).same (by rw [hrow, if_neg hid]) ?_
      rw [hrows]
      exact .refl _

/-- What a decision is about. -/
theorem Decides.about {workspace : Option HostedWorkspace} {request : AuthorizationRequest}
    {decision : AuthorizationDecision} (h : s.Decides rt input now workspace request decision) :
    workspace = s.workspaceRow input.workspaceId ∧ decision.workspaceId = input.workspaceId ∧
      decision.requestId = input.requestId ∧
      (decision.decision = .allow → rt.Allows request now) := by
  have hrequest := h.asked
  simp only [requestAt, AuthorityRows.loadRequest, bind_eq_ok, pure_eq_ok] at hrequest
  obtain ⟨_, -, _, -, _, -, _, -, _, -, _, -, _, -, _, -, rfl⟩ := hrequest
  obtain ⟨-, -, -, rfl⟩ := (AuthorityRuntime.evaluateAuthorization_eq_ok _).1 h.evaluated
  exact ⟨loadWorkspace_eq_ok h.loaded, rfl, rfl, fun hallow => ⟨_, h.evaluated, hallow⟩⟩

/-- Where there is no workspace nothing is allowed. -/
theorem Decides.known {request : AuthorizationRequest} {decision : AuthorizationDecision}
    (h : s.Decides rt input now none request decision) : decision.decision ≠ .allow := by
  intro hallow
  have hrequest := h.asked
  simp only [requestAt, h.loaded, AuthorityRows.loadRequest, bind_eq_ok, pure_eq_ok,
    Except.ok.injEq, exists_eq_left', Option.any_none, AuthorityRows.whenEnabled,
    Bool.false_eq_true, if_false] at hrequest
  obtain ⟨_, -, _, -, _, -, _, -, _, -, rfl⟩ := hrequest
  obtain ⟨-, ⟨action, hauthorized⟩, -⟩ := AuthorityRuntime.Allows.authorized
    ⟨decision, h.evaluated, hallow⟩
  obtain ⟨_, hsubject, -⟩ := hauthorized.subjectBound
  cases hsubject

/-- STEP: a new decision rests on the rows that it was evaluated on. -/
theorem Decides.standing {workspace : Option HostedWorkspace} {request : AuthorizationRequest}
    {decision : AuthorizationDecision} (h : s.Decides rt input now workspace request decision)
    (hs : Standing rt s) (hdecisions : s'.decisions = s.decisions ++
      [decided rt input workspace decision]) (hworkspaces : s'.workspaces = s.workspaces)
    (hrows : s'.toAuthorityRows = s.toAuthorityRows) : Standing rt s' := by
  obtain ⟨rfl, hid, -, -⟩ := h.about
  have hrow : ∀ id, s'.workspaceRow id = s.workspaceRow id := by
    intro id
    rw [workspaceRow, hworkspaces, workspaceRow]
  have hsame : ∀ id, AuthorityRows.SameAt id s.toAuthorityRows s'.toAuthorityRows := by
    intro id
    rw [hrows]
    exact .refl _
  refine ⟨fun d hd k hk => ?_, fun d hd hallow => ?_, fun d hd hrevision => ?_⟩
  · rw [revisionOf, hrow]
    rw [hdecisions, List.mem_append, List.mem_singleton] at hd
    rcases hd with hd | rfl
    · exact hs.bounded d hd k hk
    · refine ⟨k, ?_, le_rfl⟩
      rw [decided, hid]
      exact hk
  · rw [hdecisions, List.mem_append, List.mem_singleton] at hd
    rcases hd with hd | rfl
    · exact hs.known d hd hallow
    · intro hnone
      rw [decided, Option.map_eq_none_iff] at hnone
      rw [hnone] at h
      exact h.known hallow
  · rw [hdecisions, List.mem_append, List.mem_singleton] at hd
    rcases hd with hd | rfl
    · rw [revisionOf, hrow] at hrevision
      exact (hs.decided d hd hrevision).same (hrow _) (hsame _)
    · refine ⟨input, request, now, rfl, hid.symm, ?_, h.evaluated⟩
      rw [requestAt_same (hrow _) (hsame _)]
      exact h.asked

/-- STEP: every call keeps stored decisions at the current revision current. -/
theorem standing_step (action : AuthorityAction) (hs : Standing rt s) :
    Standing rt (step rt s action) := by
  refine step_rule action hs ?_ ?_ ?_ ?_ ?_
  · intro m context now m' apply w rows _ hhands _ hcommits
    exact hcommits.standing hhands hs
  · intro tenants row operation _ _ _
    exact hs.frame rfl rfl fun _ => .refl _
  · intro w row operation _ hnew _ _ _ _
    exact hs.provision hnew rfl rfl rfl
  · intro input now e row _ _ _ _
    exact hs.frame rfl rfl fun _ => { AuthorityRows.SameAt.refl s.toAuthorityRows with }
  · intro input now fails workspace request decision _ _ _ hdecides
    exact hdecides.standing hs rfl rfl rfl

theorem standing_empty : Standing rt empty := ⟨by simp [empty], by simp [empty], by simp [empty]⟩

/-- RUN: stored decisions at the current revision rest on the rows as they are. -/
theorem standing_run (actions : List AuthorityAction) : Standing rt (empty.run rt actions) :=
  Run.run_invariant' (I := Standing rt) (fun _ action hs => standing_step action hs) actions
    standing_empty

/-! ### CORRECT: when a guarded execution is live -/

/-- The evaluator would allow what the store shows of the request, at this reading. -/
def AllowsNow (rt : AuthorityRuntime) (s : AuthorityStore) (input : WorkspaceAuthorizationInput)
    (now : ℕ) : Prop :=
  ∃ request, s.requestAt rt input now = .ok request ∧ rt.Allows request now

/-- A request id that was decided before is replayed while what it rests on is in force. -/
def Timely (rt : AuthorityRuntime) (s : AuthorityStore) (input : WorkspaceAuthorizationInput)
    (now : ℕ) : Prop :=
  s.decisionRow input.workspaceId input.requestId ≠ none →
    ∃ request, s.requestAt rt input now = .ok request ∧ rt.InForce request now

/-- What a replay that runs the callback finds. -/
theorem replayDecision_guarded {d : Digest} {previous : DecisionRow}
    {result : WorkspaceAuthorizationResult}
    (h : s.replayDecision rt input d previous = .ok result) (hguarded : result.Guarded) :
    previous.envelopeDigest = d ∧ previous.decision.decision = .allow ∧
      previous.authorityRevision = s.revisionOf input.workspaceId := by
  simp only [replayDecision, bind_eq_ok, refuse_eq_ok, exists_const, not_not, ne_eq] at h
  obtain ⟨hdigest, -, h⟩ := h
  split at h
  · rename_i hallow
    simp only [bind_eq_ok, demand_eq_ok, refuse_eq_ok, exists_const, not_not] at h
    obtain ⟨current, hcurrent, -, -, hrevision, -⟩ := h
    exact ⟨hdigest, hallow, by rw [revisionOf, hcurrent, ← hrevision]; rfl⟩
  · rename_i hdeny
    obtain rfl := (pure_eq_ok _ _).1 h
    exact absurd hguarded.1 hdeny

/-- EXACT: an executed callback is live exactly when it is not a late replay. -/
theorem executes_live (hrt : rt.CollisionFree) (hs : Current rt s)
    (h : s.Executes rt input now) : AllowsNow rt s input now ↔ Timely rt s input now := by
  obtain ⟨⟨t, result⟩, hauthorize, hguarded⟩ := h
  obtain ⟨hasks, ⟨previous, hprevious, hreplay, -⟩ | ⟨hnone, hdecide⟩⟩ :=
    authorizeIn_eq_ok.1 hauthorize
  · -- a replay: the stored allow rests on the same rows
    obtain ⟨hdigest, hallow, hrevision⟩ := replayDecision_guarded hreplay hguarded
    have hfound := List.find?_some hprevious
    simp only [decide_eq_true_eq] at hfound
    obtain ⟨input', request, t, hdigest', -, hrequest, hallows⟩ :=
      hs.allowed previous (List.mem_of_find?_eq_some hprevious) hallow (by rw [hfound.1, hrevision])
    obtain rfl : input' = input :=
      AuthorityValue.envelope.inj (hrt.digest (hdigest'.symm.trans hdigest))
    obtain ⟨workspace, hworkspace, hload⟩ := (bind_eq_ok _ _ _).1 hrequest
    obtain ⟨d, hload', hvalid, hactor⟩ := AuthorityRows.loadRequest_at hload now
    have hrequest' : s.requestAt rt input' now = .ok { request with delegation := d } :=
      (bind_eq_ok _ _ _).2 ⟨workspace, hworkspace, hload'⟩
    have hiff := AuthorityRuntime.allows_later hallows hvalid hactor hasks.isNow
    simp only [AllowsNow, Timely, hprevious, hrequest', Except.ok.injEq, exists_eq_left', ne_eq,
      reduceCtorEq, not_false_eq_true, forall_const, hiff]
  · -- a new decision: it was evaluated here and now
    obtain ⟨workspace, request, decision, hdecides, -, rfl⟩ := decide_eq_ok.1 hdecide
    have hlive : AllowsNow rt s input now :=
      ⟨request, hdecides.asked, hdecides.about.2.2.2 hguarded.1⟩
    simp [hlive, Timely, hnone]

/-- CORRECT: in every run whose replays are timely, the guarded callback runs only when the
    evaluator would allow the request on the state of that transaction and at that reading; and in
    any run a callback that runs is live exactly when it is timely. -/
theorem guarded_execution_live (hrt : rt.CollisionFree) :
    (∀ actions, Run.Along (step rt) (fun s action => ∀ input now fails,
        action = .authorize input now fails → Timely rt s input now) empty actions →
      ∀ before input now fails after,
        actions = before ++ AuthorityAction.authorize input now fails :: after →
        (empty.run rt before).Executes rt input now → AllowsNow rt (empty.run rt before) input now) ∧
    ∀ actions input now, (empty.run rt actions).Executes rt input now →
      (AllowsNow rt (empty.run rt actions) input now ↔
        Timely rt (empty.run rt actions) input now) := by
  refine ⟨?_, fun actions input now h => executes_live hrt (standing_run actions).current h⟩
  rintro _ halong before input now fails after rfl h
  obtain ⟨-, htimely, -⟩ := Run.along_append.1 halong
  exact (executes_live hrt (standing_run before).current h).2 (htimely input now fails rfl)

/-- A grant of the dispatch set to the service. -/
def dispatchGrant (id : String) : AuthorizationGrant :=
  { AuthorityRuntime.plainLifetime with
    id := id, workspaceId := "w", grantorPrincipalId := "h", granteePrincipalId := "p"
    permissionSet := ⟨AuthorityRuntime.dispatchSet.uri, AuthorityRuntime.dispatchSet.version,
      AuthorityRuntime.dispatchSet.implementationDigest⟩
    scope := .workspace }

/-- The service may dispatch effects. -/
def entitling : List AuthorityAction :=
  founding ++
  [.mutate (.bindSubject (AuthorityRuntime.plainBound "p" .service 0).binding)
     (expecting "op:b" (some 2) none) 1,
   .mutate (.activatePermissionSet "w" AuthorityRuntime.dispatchSet)
     (expecting "op:s" (some 3) none) 1,
   .mutate (.createGrant (dispatchGrant "g")) (expecting "op:g" (some 4) none) 1,
   .mutate (.grantEligibility { AuthorityRuntime.plainLifetime with
       id := "e", workspaceId := "w", principalId := "p", kind := .effectConnector })
     (expecting "op:e" (some 5) none) 1]

/-- A request of the service to dispatch, with an identity that expires at 10. -/
def dispatchInput (requestId : String) : WorkspaceAuthorizationInput where
  requestId := requestId
  workspaceId := "w"
  serviceAudience := "https://a.example/"
  action := AuthorityRuntime.dispatchAction.identity
  resource := ⟨.effect, "e"⟩
  identity := AuthorityRuntime.plainIdentity "sp" [AuthorityRuntime.dispatchAction.identity]

/-- The service dispatches once. -/
def dispatching : List AuthorityAction :=
  entitling ++ [.authorize (dispatchInput "r") 1 false]

theorem guarded_execution_live_dispatching :
    AllowsNow idealAuthority (empty.run idealAuthority dispatching) (dispatchInput "r") 2 ↔
      Timely idealAuthority (empty.run idealAuthority dispatching) (dispatchInput "r") 2 :=
  (guarded_execution_live idealAuthority_collisionFree).2 dispatching _ 2
    (by decide +kernel)

/-- NOT SO: the callback runs on a replay at 20, when the identity has expired. -/
theorem late_replay_executes :
    (empty.run idealAuthority dispatching).Executes idealAuthority (dispatchInput "r") 20 ∧
      ¬ AllowsNow idealAuthority (empty.run idealAuthority dispatching) (dispatchInput "r") 20 := by
  refine ⟨by decide +kernel, ?_⟩
  rintro ⟨request, hrequest, hallows⟩
  obtain ⟨-, ⟨action, hauthorized⟩, -⟩ := hallows.authorized
  simp only [requestAt, AuthorityRows.loadRequest, bind_eq_ok, pure_eq_ok] at hrequest
  obtain ⟨_, -, _, -, _, -, _, -, _, -, _, -, _, -, _, -, rfl⟩ := hrequest
  have hexpires : 20 < 10 := hauthorized.identityLive.2.2
  omega

end AuthorityStore

end Tasq.Authority
