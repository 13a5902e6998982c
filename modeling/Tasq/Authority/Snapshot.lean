import Mathlib.Tactic
import Tasq.Authority.Guard

/-! What can be stored against what can be evaluated. The evaluator fails as a whole on an inexact
    permission set, on a binding that does not parse, on a list that is too long and on a grant that
    it is shown twice; the mutations admit each of these. Where none of them happens, every
    authorization reaches a decision, and never one for an invalid snapshot. -/

namespace Tasq.Authority

open Text Outcome Rows

namespace AuthorityRuntime

variable (rt : AuthorityRuntime)

/-- The permission set carries its own digest and only registered actions. -/
def Exact (d : PermissionSetDefinition) : Prop :=
  Ends (rt.digestAuthorityValue (.permissionSet d.uri d.version d.actions))
      (· = d.implementationDigest) ∧
    ∀ identity ∈ d.actions, rt.Registered identity

instance (d : PermissionSetDefinition) : Decidable (rt.Exact d) := by
  unfold Exact; infer_instance

/-- What the schemas ask of the input of an authorization. -/
def IsAuthorizationInput (input : WorkspaceAuthorizationInput) : Prop :=
  IsOpaqueId input.requestId ∧ IsWorkspaceId input.workspaceId ∧
    rt.IsAbsoluteUri input.serviceAudience ∧ rt.IsActionIdentity input.action ∧
    IsOpaqueId input.resource.id ∧ rt.IsVerifiedIdentity input.identity ∧
    (input.resource.kind = .workspace → input.resource.id = input.workspaceId)

instance (input : WorkspaceAuthorizationInput) : Decidable (rt.IsAuthorizationInput input) := by
  unfold IsAuthorizationInput; infer_instance

end AuthorityRuntime

/-! ### The conditions -/

namespace AuthorityRows

variable (rows : AuthorityRows)

/-- The active permission sets of a workspace. -/
def activeSets (workspaceId : String) : List PermissionSetRow :=
  rows.permissionSets.filter fun p => p.workspaceId = workspaceId ∧ p.status = .active

/-- The grants of a principal under active permission sets, revoked ones included. -/
def activeGrants (workspaceId principalId : String) : List AuthorizationGrant :=
  rows.grants.filter fun g =>
    g.workspaceId = workspaceId ∧ g.granteePrincipalId = principalId ∧ rows.GrantActive g

/-- The principal that an issuer and a subject are bound to. -/
def boundTo (workspaceId issuer subject : String) : Option String :=
  (rows.bindings.find? fun b => b.workspaceId = workspaceId ∧ b.issuer = issuer ∧
    b.subject = subject).map SubjectBinding.principalId

end AuthorityRows

namespace AuthorityStore

/-- The event id of the audit row of a decision. -/
def DecisionEvent (rt : AuthorityRuntime) (id : String) : Prop :=
  ∃ d, id = "decision:sha256:" ++ rt.hex d

/-- What a call must not do for authorization to stay evaluable: activate an inexact permission
    set, disable a binding before it was created or in favour of itself, or take the event id of a
    decision for its own. -/
def Sound (rt : AuthorityRuntime) (s : AuthorityStore) : AuthorityAction → Prop
  | .mutate m context now => ¬ DecisionEvent rt context.operationId ∧
    match m with
    | .activatePermissionSet _ p => rt.Exact p
    | .disableBinding workspaceId id _ replaced => replaced ≠ some id ∧
      ∀ b ∈ s.bindings, b.workspaceId = workspaceId → b.id = id → b.createdAt ≤ now
    | _ => True
  | .provisionHostTenant _ context _ => ¬ DecisionEvent rt context.operationId
  | .provisionWorkspace _ _ _ context _ => ¬ DecisionEvent rt context.operationId
  | .redeem input _ => ¬ DecisionEvent rt input.auditEventId
  | .authorize .. => True

/-- The principals of an authorization: the subject, and the actor if the identity names one. -/
def subjectOf (s : AuthorityStore) (input : WorkspaceAuthorizationInput) : Option String :=
  s.boundTo input.workspaceId input.identity.issuer input.identity.subject

def actorOf (s : AuthorityStore) (input : WorkspaceAuthorizationInput) : Option String :=
  input.identity.actor.bind fun actor => s.boundTo input.workspaceId actor.issuer actor.subject

/-- What an authorization finds within the bounds of the evaluator: the numbers are safe, there are
    at most 100 active permission sets and at most 100 grants under them for either principal, and
    a principal with such grants is not both. -/
structure Within (s : AuthorityStore) (input : WorkspaceAuthorizationInput) : Prop where
  version : input.action.version ≤ Json.maxSafeInteger
  revision : ∀ n ∈ s.revisionOf input.workspaceId, n ≤ Json.maxSafeInteger
  sets : (s.activeSets input.workspaceId).length ≤ 100
  subject : ∀ id ∈ s.subjectOf input, (s.activeGrants input.workspaceId id).length ≤ 100
  actor : ∀ id ∈ s.actorOf input, (s.activeGrants input.workspaceId id).length ≤ 100
  apart : ∀ id ∈ s.subjectOf input, id ∈ s.actorOf input → s.activeGrants input.workspaceId id = []

end AuthorityStore

/-! ### INVARIANT: what is stored is admissible -/

namespace AuthorityRows

/-- Every stored record passes its schema, permission sets are exact, and what was not yet disabled
    or revoked is at its first revision. -/
structure Sane (rt : AuthorityRuntime) (rows : AuthorityRows) : Prop where
  principals : ∀ p ∈ rows.principals, AuthorityRuntime.IsAuthorityPrincipal p ∧
    (p.status = .enabled → p.revision = 1)
  bindings : ∀ b ∈ rows.bindings, rt.IsSubjectBinding b ∧ (b.status = .enabled → b.revision = 1)
  permissionSets : ∀ p ∈ rows.permissionSets, rt.IsPermissionSetDefinition p.definition ∧
    rt.Exact p.definition
  grants : ∀ g ∈ rows.grants, rt.IsAuthorizationGrant g ∧ (g.status = .active → g.revision = 1)
  delegations : ∀ d ∈ rows.delegations, rt.IsDelegation d ∧ (d.status = .active → d.revision = 1)
  eligibilities : ∀ e ∈ rows.eligibilities, AuthorityRuntime.IsAuthorityEligibility e ∧
    (e.status = .active → e.revision = 1)

/-- What a sound mutation that was prepared is known to be. -/
def Admits (rt : AuthorityRuntime) (bindings : List SubjectBinding) (now : ℕ) : Mutation → Prop
  | .registerPrincipal p => AuthorityRuntime.IsAuthorityPrincipal p ∧ p.revision = 1
  | .bindSubject b => rt.IsSubjectBinding b ∧ b.revision = 1
  | .activatePermissionSet _ p => rt.IsPermissionSetDefinition p ∧ rt.Exact p
  | .createGrant g => rt.IsAuthorizationGrant g ∧ g.revision = 1
  | .createDelegation d => rt.IsDelegation d ∧ d.revision = 1
  | .grantEligibility e => AuthorityRuntime.IsAuthorityEligibility e ∧ e.revision = 1
  | .disableBinding workspaceId id _ replaced => replaced ≠ some id ∧
    ∀ b ∈ bindings, b.workspaceId = workspaceId → b.id = id → b.createdAt ≤ now
  | _ => True

variable {rt : AuthorityRuntime} {m : Mutation} {now : ℕ} {rows rows' : AuthorityRows}

theorem isRevision_succ {n : ℕ} (h : n = 1) : IsRevision (n + 1) := by
  subst h
  exact ⟨by omega, by decide⟩

/-- Revoking keeps a lifetime admissible. -/
theorem isLifetime_revoked {value : Lifetime} (h : AuthorityRuntime.IsLifetime value)
    (hrevision : value.revision = 1) : AuthorityRuntime.IsLifetime (revoked value) :=
  ⟨h.1, h.2.1, isRevision_succ hrevision, h.2.2.2⟩

/-- Every inserted or updated row of a table is admissible when the old ones are. -/
theorem insert_sane {α : Type} {values values' : List α} {clash : α → Prop} [DecidablePred clash]
    {row : α} {P : α → Prop} (hvalues : ∀ v ∈ values, P v) (hrow : P row)
    (h : insertRow values clash row alreadyExists = .ok values') : ∀ v ∈ values', P v := by
  obtain ⟨-, rfl⟩ := insertRow_eq_ok.1 h
  intro v hv
  rcases List.mem_append.1 hv with hv | hv
  · exact hvalues v hv
  · exact List.mem_singleton.1 hv ▸ hrow

theorem update_sane {α : Type} {values values' : List α} {p : α → Prop} [DecidablePred p]
    {f : α → α} {e : AuthorityFailure} {P : α → Prop} (hvalues : ∀ v ∈ values, P v)
    (h : updateRow values p f e = .ok values') (hf : ∀ v ∈ values, p v → P v → P (f v)) :
    ∀ v ∈ values', P v := by
  intro v hv
  rcases mem_updateRow h hv with ⟨hv, -⟩ | ⟨old, hold, hp, rfl⟩
  · exact hvalues v hv
  · exact hf old hold hp (hvalues old hold)

/-- The permission set of a compiled mandate is exact. -/
theorem compiled_exact {intent : MandateIntent} {compiled : CompiledMandate}
    (h : rt.Compiles intent compiled) :
    rt.IsPermissionSetDefinition compiled.permissionSet ∧ rt.Exact compiled.permissionSet := by
  obtain ⟨actions, hactions, hset⟩ := h.permissionSet
  obtain ⟨hdefinition, -, -, hidentities, hsafe, hdigest⟩ :=
    AuthorityRuntime.definePermissionSet_eq_ok rt hset
  refine ⟨hdefinition, ⟨_, (rt.digestAuthorityValue_eq_ok _ _).2 ⟨hsafe, rfl⟩, hdigest⟩, ?_⟩
  intro identity hidentity
  rw [hidentities, List.mem_mergeSort, rt.compileActions_identity hactions] at hidentity
  exact ((rt.compileActions_eq_ok.1 hactions).1 identity hidentity).1

/-- What a mandate is compiled to is admissible. -/
theorem insertsSet_sane {w : String} {p : PermissionSetDefinition}
    (hadmits : Admits rt rows.bindings now m) (h : m.InsertsSet rt w p) :
    rt.IsPermissionSetDefinition p ∧ rt.Exact p := by
  obtain rfl | ⟨intent, compiled, rfl, hcompiled, -, rfl⟩ := h
  · exact hadmits
  · exact compiled_exact (AuthorityRuntime.compileMandate_eq_ok.1 hcompiled)

theorem insertsGrant_sane {g : AuthorizationGrant} (hadmits : Admits rt rows.bindings now m)
    (h : m.InsertsGrant rt g) : rt.IsAuthorizationGrant g ∧ g.revision = 1 := by
  obtain rfl | ⟨intent, compiled, rfl, hcompiled, hg⟩ := h
  · exact hadmits
  · have hcompiles := AuthorityRuntime.compileMandate_eq_ok.1 hcompiled
    rcases hg with rfl | hg
    · exact ⟨hcompiles.isSubjectGrant, by rw [hcompiles.subjectGrant]; rfl⟩
    · refine ⟨hcompiles.isActorGrant g hg.symm, ?_⟩
      rw [hcompiles.actorGrant, eq_comm, Option.map_eq_some_iff] at hg
      obtain ⟨id, -, rfl⟩ := hg
      rfl

theorem insertsDelegation_sane {d : Delegation} (hadmits : Admits rt rows.bindings now m)
    (h : m.InsertsDelegation rt d) : rt.IsDelegation d ∧ d.revision = 1 := by
  obtain rfl | ⟨intent, compiled, rfl, hcompiled, hd⟩ := h
  · exact hadmits
  · have hcompiles := AuthorityRuntime.compileMandate_eq_ok.1 hcompiled
    refine ⟨hcompiles.isDelegation d hd.symm, ?_⟩
    rw [hcompiles.delegation, eq_comm, Option.map_eq_some_iff] at hd
    obtain ⟨id, -, rfl⟩ := hd
    rfl

/-- A binding that is disabled after it was created, in favour of another one, parses. -/
theorem isSubjectBinding_disabled {b : SubjectBinding} {replaced : Option String}
    (hb : rt.IsSubjectBinding b) (hrevision : b.revision = 1) (hnow : IsUnixMs now)
    (hcreated : b.createdAt ≤ now) (hreplaced : replaced ≠ some b.id)
    (hids : ∀ id ∈ replaced, IsOpaqueId id) :
    rt.IsSubjectBinding { b with
      status := .disabled, revision := b.revision + 1, disabledAt := some now
      replacedByBindingId := replaced } := by
  obtain ⟨h₁, h₂, h₃, h₄, h₅, h₆, -, h₈, -⟩ := hb
  exact ⟨h₁, h₂, h₃, h₄, h₅, h₆, isRevision_succ hrevision, h₈, by simpa using hnow, hids,
    by simp, by simpa using hcreated, hreplaced⟩

/-- STEP: a write of a sound mutation keeps what is stored admissible. -/
theorem Write.sane (h : Write rt m now rows rows') (hadmits : Admits rt rows.bindings now m)
    (hnow : IsUnixMs now) (hrows : Sane rt rows) : Sane rt rows' := by
  cases h with
  | registerPrincipal p principals hm h =>
    subst hm
    obtain ⟨hp, hrevision⟩ := hadmits
    exact { hrows with principals := insert_sane hrows.principals ⟨hp, fun _ => hrevision⟩ h }
  | disablePrincipal w id n principals hm h =>
    refine { hrows with principals := update_sane hrows.principals h ?_ }
    rintro p - ⟨-, -, henabled, -⟩ ⟨⟨h₁, h₂, -⟩, hrevision⟩
    exact ⟨⟨h₁, h₂, isRevision_succ (hrevision henabled)⟩, nofun⟩
  | bindSubject b bindings hm h _ _ =>
    subst hm
    obtain ⟨hb, hrevision⟩ := hadmits
    exact { hrows with bindings := insert_sane hrows.bindings ⟨hb, fun _ => hrevision⟩ h }
  | disableBinding w id n replaced bindings hm h hreplaced =>
    subst hm
    obtain ⟨hself, hcreated⟩ := hadmits
    refine { hrows with bindings := update_sane hrows.bindings h ?_ }
    rintro b hb ⟨hworkspace, hid, henabled, -⟩ ⟨hbinding, hrevision⟩
    refine ⟨isSubjectBinding_disabled hbinding (hrevision henabled) hnow
      (hcreated b hb hworkspace hid) (hid ▸ hself) ?_, nofun⟩
    intro other hother
    obtain ⟨c, hc, -, rfl⟩ := hreplaced other hother
    exact (hrows.bindings c hc).1.1
  | insertPermissionSet w p sets hm h =>
    exact { hrows with
      permissionSets := insert_sane hrows.permissionSets (insertsSet_sane hadmits hm) h }
  | retirePermissionSet w uri version n sets hm h =>
    exact { hrows with permissionSets := update_sane hrows.permissionSets h fun _ _ _ hp => hp }
  | insertGrant g grants hm h _ _ _ =>
    obtain ⟨hg, hrevision⟩ := insertsGrant_sane hadmits hm
    exact { hrows with grants := insert_sane hrows.grants ⟨hg, fun _ => hrevision⟩ h }
  | revokeGrant w id message n grants hm h =>
    refine { hrows with grants := update_sane hrows.grants h ?_ }
    rintro g - ⟨-, -, hactive, -⟩ ⟨⟨h₁, h₂, h₃, h₄, h₅, h₆, h₇, h₈⟩, hrevision⟩
    exact ⟨⟨h₁, h₂, h₃, h₄, h₅, h₆, h₇, isLifetime_revoked h₈ (hrevision hactive)⟩, nofun⟩
  | insertDelegation d delegations hm h _ _ =>
    obtain ⟨hd, hrevision⟩ := insertsDelegation_sane hadmits hm
    exact { hrows with
      delegations := insert_sane hrows.delegations ⟨hd, fun _ => hrevision⟩ h }
  | revokeDelegation w id message n delegations hm h =>
    refine { hrows with delegations := update_sane hrows.delegations h ?_ }
    rintro d - ⟨-, -, hactive, -⟩ ⟨⟨h₁, h₂, h₃, h₄, h₅, h₆, h₇, h₈, h₉, h₁₀⟩, hrevision⟩
    exact ⟨⟨h₁, h₂, h₃, h₄, h₅, h₆, h₇, h₈, h₉, isLifetime_revoked h₁₀ (hrevision hactive)⟩, nofun⟩
  | grantEligibility e eligibilities hm h _ =>
    subst hm
    obtain ⟨he, hrevision⟩ := hadmits
    exact { hrows with
      eligibilities := insert_sane hrows.eligibilities ⟨he, fun _ => hrevision⟩ h }
  | revokeEligibility w id n eligibilities hm h =>
    refine { hrows with eligibilities := update_sane hrows.eligibilities h ?_ }
    rintro e - ⟨-, -, hactive, -⟩ ⟨⟨h₁, h₂, h₃, h₄⟩, hrevision⟩
    exact ⟨⟨h₁, h₂, h₃, isLifetime_revoked h₄ (hrevision hactive)⟩, nofun⟩
  | createEnrollment => exact { hrows with }
  | revokeEnrollment => exact { hrows with }
  | revokeAccessCredential => exact { hrows with }

/-- A mutation stays sound from one of its writes to the next. -/
theorem Write.admits (h : Write rt m now rows rows') (hadmits : Admits rt rows.bindings now m) :
    Admits rt rows'.bindings now m := by
  cases h with
  | bindSubject b bindings hm h _ _ =>
    subst hm
    exact hadmits
  | disableBinding w id n replaced bindings hm h _ =>
    subst hm
    refine ⟨hadmits.1, fun b hb hworkspace hid => ?_⟩
    rcases mem_updateRow h hb with ⟨hb, -⟩ | ⟨old, hold, -, rfl⟩
    · exact hadmits.2 b hb hworkspace hid
    · exact hadmits.2 old hold hworkspace hid
  | _ => exact hadmits

/-- STEP: a sound mutation keeps what is stored admissible. -/
theorem Writes.sane (h : Writes rt m now rows rows') (hadmits : Admits rt rows.bindings now m)
    (hnow : IsUnixMs now) (hrows : Sane rt rows) : Sane rt rows' :=
  (h.invariant (I := fun rows => Sane rt rows ∧ Admits rt rows.bindings now m)
    (fun _ _ hwrite h => ⟨hwrite.sane h.2 hnow h.1, hwrite.admits h.2⟩) ⟨hrows, hadmits⟩).1

end AuthorityRows

namespace AuthorityStore

variable {rt : AuthorityRuntime} {s s' : AuthorityStore} {now : ℕ}
  {input : WorkspaceAuthorizationInput}

/-- A sound mutation, once prepared, is known to be admissible. -/
theorem admits_of_prepare {m m' : Mutation} {context : AuthorityMutationContext}
    (h : m.prepare rt = .ok m') (hsound : Sound rt s (.mutate m context now)) :
    AuthorityRows.Admits rt s.bindings now m' := by
  have hsound := hsound.2
  cases m with
  | registerPrincipal p =>
    simp only [Mutation.prepare, bind_eq_ok, refuse_eq_ok, pure_eq_ok, exists_const, not_not,
      not_or] at h
    obtain ⟨hp, ⟨hrevision, -⟩, rfl⟩ := h
    exact ⟨hp, hrevision⟩
  | bindSubject b =>
    simp only [Mutation.prepare, bind_eq_ok, refuse_eq_ok, pure_eq_ok, exists_const, not_not,
      not_or] at h
    obtain ⟨hb, ⟨hrevision, -, -⟩, rfl⟩ := h
    exact ⟨hb, hrevision⟩
  | activatePermissionSet w p =>
    simp only [Mutation.prepare, bind_eq_ok, refuse_eq_ok, pure_eq_ok, exists_const, not_not] at h
    obtain ⟨-, hp, rfl⟩ := h
    exact ⟨hp, hsound⟩
  | createGrant g =>
    simp only [Mutation.prepare, bind_eq_ok, refuse_eq_ok, pure_eq_ok, exists_const, not_not,
      not_or] at h
    obtain ⟨hg, ⟨hrevision, -⟩, rfl⟩ := h
    exact ⟨hg, hrevision⟩
  | createDelegation d =>
    simp only [Mutation.prepare, bind_eq_ok, refuse_eq_ok, pure_eq_ok, exists_const, not_not,
      not_or] at h
    obtain ⟨hd, ⟨hrevision, -⟩, rfl⟩ := h
    exact ⟨hd, hrevision⟩
  | grantEligibility e =>
    simp only [Mutation.prepare, bind_eq_ok, refuse_eq_ok, pure_eq_ok, exists_const, not_not,
      not_or] at h
    obtain ⟨he, ⟨hrevision, -⟩, rfl⟩ := h
    exact ⟨he, hrevision⟩
  | disableBinding w id n replaced =>
    simp only [Mutation.prepare, bind_eq_ok, pure_eq_ok] at h
    obtain ⟨-, -, rfl⟩ := h
    exact hsound
  | createEnrollment input =>
    simp only [Mutation.prepare, bind_eq_ok, refuse_eq_ok, pure_eq_ok, exists_const] at h
    obtain ⟨_, -, -, -, rfl⟩ := h
    trivial
  | _ =>
    simp only [Mutation.prepare, Mutation.checkId, bind_eq_ok, refuse_eq_ok, pure_eq_ok,
      exists_const] at h
    obtain ⟨-, -, rfl⟩ := h
    trivial

/-- A sound public mutation hands over an admissible one. -/
theorem Hands.admits {m m' : Mutation} {context : AuthorityMutationContext}
    {apply : AuthorityRows → AuthorityCall AuthorityRows} (h : s.Hands rt m now m' apply)
    (hsound : Sound rt s (.mutate m context now)) :
    AuthorityRows.Admits rt s.bindings now m' := by
  cases h with
  | direct _ hprepare _ => exact admits_of_prepare hprepare hsound
  | revokeMandate workspaceId mandateId expected before hm _ _ _ =>
    subst hm
    trivial

/-! ### INVARIANT: the names of decisions -/

/-- Stored decisions are named by the digest of their request, and audit rows with the event id of a
    decision are those of stored decisions. -/
structure Named (rt : AuthorityRuntime) (s : AuthorityStore) : Prop where
  decisions : ∀ d ∈ s.decisions, ∃ request now outcome,
    d.decision = rt.finish request (rt.digest (.request (rt.canonicalRequestSnapshot request))) now
      outcome ∧ d.workspaceId = request.workspaceId ∧ d.requestId = request.requestId
  audit : ∀ r ∈ s.audit, ∀ d, r.eventId = "decision:sha256:" ++ rt.hex d →
    ∃ row ∈ s.decisions, row.decision.decisionId = d

theorem Named.append {row : AuditRow} (hs : Named rt s) (hdecisions : s'.decisions = s.decisions)
    (haudit : s'.audit = s.audit ++ [row]) (hrow : ¬ DecisionEvent rt row.eventId) :
    Named rt s' := by
  refine ⟨by rw [hdecisions]; exact hs.decisions, fun r hr d hd => ?_⟩
  rw [haudit, List.mem_append, List.mem_singleton] at hr
  rcases hr with hr | rfl
  · rw [hdecisions]
    exact hs.audit r hr d hd
  · exact absurd ⟨d, hd⟩ hrow

/-- Under injective texts, the event id of a decision names it. -/
theorem decisionEvent_inj (hrt : rt.CollisionFree) {a b : Digest}
    (h : "decision:sha256:" ++ rt.hex a = "decision:sha256:" ++ rt.hex b) : a = b :=
  hrt.hex (String.append_right_inj _ |>.1 h)

/-- STEP: a new decision is named by its request. -/
theorem Decides.named {workspace : Option HostedWorkspace} {request : AuthorizationRequest}
    {decision : AuthorizationDecision} (hrt : rt.CollisionFree)
    (h : s.Decides rt input now workspace request decision) (hs : Named rt s) :
    Named rt { s with
      decisions := s.decisions ++ [decided rt input workspace decision]
      audit := s.audit ++ [decisionAudit rt decision workspace now] } := by
  obtain ⟨-, -, -, rfl⟩ := (AuthorityRuntime.evaluateAuthorization_eq_ok _).1 h.evaluated
  refine ⟨fun d hd => ?_, fun r hr d hd => ?_⟩
  · rcases List.mem_append.1 hd with hd | hd
    · exact hs.decisions d hd
    · obtain rfl := List.mem_singleton.1 hd
      exact ⟨request, now, _, rfl, rfl, rfl⟩
  · rcases List.mem_append.1 hr with hr | hr
    · obtain ⟨row, hrow, hname⟩ := hs.audit r hr d hd
      exact ⟨row, List.mem_append_left _ hrow, hname⟩
    · obtain rfl := List.mem_singleton.1 hr
      exact ⟨_, List.mem_append_right _ (List.mem_singleton_self _), decisionEvent_inj hrt hd⟩

/-- STEP: every sound call keeps decisions named. -/
theorem named_step (hrt : rt.CollisionFree) (action : AuthorityAction)
    (hsound : Sound rt s action) (hs : Named rt s) : Named rt (step rt s action) := by
  cases action with
  | mutate m context now =>
    rw [step, perform_fst]
    refine settle_fst_rule hs fun s' answer h => ?_
    obtain ⟨m', apply, -, hcall⟩ := transact_eq_ok h
    obtain ⟨-, ⟨row, -, rfl⟩ | ⟨w, rows, -, rfl, -⟩⟩ := workspaceMutation_eq_ok hcall
    · exact hs
    · exact hs.append rfl rfl hsound.1
  | provisionHostTenant id context now =>
    refine settle_fst_rule hs fun s' result h => ?_
    rcases provisionHostTenant_eq_ok h with rfl | ⟨tenants, row, operation, -, -, hevent, -, rfl⟩
    · exact hs
    · exact hs.append rfl rfl (by rw [hevent]; exact hsound)
  | provisionWorkspace workspaceId hostTenantId storageBindingId context now =>
    refine settle_fst_rule hs fun s' result h => ?_
    rcases provisionWorkspace_eq_ok h with rfl | ⟨w, row, operation, -, -, -, -, -, hevent, -, rfl⟩
    · exact hs
    · exact hs.append rfl rfl (by rw [hevent]; exact hsound)
  | redeem input now =>
    refine settle_fst_rule hs fun s' credential h => ?_
    obtain ⟨e, row, -, -, -, hevent, rfl⟩ := redeemEnrollment_eq_ok h
    exact hs.append rfl rfl (by rw [hevent]; exact hsound)
  | authorize input now fails =>
    refine settle_fst_rule hs fun s' answer h => ?_
    obtain ⟨-, ⟨previous, -, -, rfl⟩ | ⟨-, hdecision⟩⟩ :=
      authorizeIn_eq_ok.1 (authorizeAndExecuteAt_eq_ok h)
    · exact hs
    · obtain ⟨workspace, request, decision, hdecides, rfl, -⟩ := decide_eq_ok.1 hdecision
      exact hdecides.named hrt hs

/-- STEP: every sound call keeps what is stored admissible. -/
theorem sane_step (action : AuthorityAction) (hsound : Sound rt s action)
    (hs : AuthorityRows.Sane rt s.toAuthorityRows) :
    AuthorityRows.Sane rt (step rt s action).toAuthorityRows := by
  refine step_rule (I := fun s : AuthorityStore => AuthorityRows.Sane rt s.toAuthorityRows) action
    hs ?_ ?_ ?_ ?_ ?_
  · rintro m context now m' apply w rows rfl hhands hadmitted hcommits
    exact (hhands.writes hcommits.apply).sane (hhands.admits hsound) hadmitted.isNow hs
  · intro tenants row operation _ _ _
    exact hs
  · intro w row operation _ _ _ _ _ _
    exact hs
  · intro input now e row _ _ _ _
    exact { hs with }
  · intro input now fails workspace request decision _ _ _ _
    exact hs

/-- What a run of sound calls keeps. -/
structure Evaluable (rt : AuthorityRuntime) (s : AuthorityStore) : Prop where
  keyed : s.Keyed
  sane : AuthorityRows.Sane rt s.toAuthorityRows
  named : Named rt s

theorem evaluable_empty : Evaluable rt empty where
  keyed := keyed_empty
  sane := by
    constructor <;> exact fun _ h => absurd h List.not_mem_nil
  named :=
    ⟨fun _ h => absurd h List.not_mem_nil, fun _ h => absurd h List.not_mem_nil⟩

/-- RUN: sound calls keep the store evaluable. -/
theorem evaluable_run (hrt : rt.CollisionFree) {actions : List AuthorityAction}
    (halong : Run.Along (step rt) (Sound rt) empty actions) :
    Evaluable rt (empty.run rt actions) := by
  refine Run.run_invariant (fun s action hsound hs => ?_) halong evaluable_empty
  exact ⟨keyed_step action hs.keyed, sane_step action hsound hs.sane,
    named_step hrt action hsound hs.named⟩

end AuthorityStore

/-! ### What the loaders answer -/

namespace AuthorityRows

variable {rt : AuthorityRuntime} {rows : AuthorityRows} {workspaceId : String}

/-- A binding that is loaded is admissible, and is the one that is bound. -/
theorem loadBoundPrincipal_sane (hs : Sane rt rows) (issuer subject : String) :
    ∃ bound, rows.loadBoundPrincipal rt workspaceId issuer subject = .ok bound ∧
      ∀ b ∈ bound, rt.IsBoundPrincipal b ∧
        rows.boundTo workspaceId issuer subject = some b.principal.id := by
  unfold loadBoundPrincipal boundTo
  split
  · exact ⟨none, rfl, nofun⟩
  · rename_i b hb
    split
    · exact ⟨none, rfl, nofun⟩
    · rename_i p hp
      have hbound : rt.IsBoundPrincipal ⟨b, p⟩ :=
        ⟨(hs.bindings b (List.mem_of_find?_eq_some hb)).1,
          (hs.principals p (List.mem_of_find?_eq_some hp)).1⟩
      have hid := List.find?_some hp
      simp only [decide_eq_true_eq] at hid
      refine ⟨some ⟨b, p⟩, by simp [hbound, refuse], ?_⟩
      rintro _ ⟨⟩
      exact ⟨hbound, by rw [hb, Option.map_some, hid.2]⟩

/-- The actor that is loaded is bound to what the identity names. -/
theorem loadActor_sane (hs : Sane rt rows) (enabled : Bool) (input : WorkspaceAuthorizationInput) :
    ∃ actor, rows.loadActor rt enabled input = .ok actor ∧
      (input.identity.actor = none → actor = none) ∧
      ∀ a ∈ actor, enabled = true ∧ rt.IsBoundPrincipal a ∧ ∃ named ∈ input.identity.actor,
        rows.boundTo input.workspaceId named.issuer named.subject = some a.principal.id := by
  unfold loadActor
  split
  · rename_i named hnamed
    rw [hnamed]
    cases enabled with
    | false => exact ⟨none, rfl, nofun, nofun⟩
    | true =>
      obtain ⟨bound, hload, hbound⟩ :
          ∃ bound, rows.loadBoundPrincipal rt input.workspaceId named.issuer named.subject =
            .ok bound ∧ ∀ b ∈ bound, rt.IsBoundPrincipal b ∧
              rows.boundTo input.workspaceId named.issuer named.subject = some b.principal.id :=
        loadBoundPrincipal_sane hs named.issuer named.subject
      exact ⟨bound, hload, nofun, fun a ha =>
        ⟨rfl, (hbound a ha).1, named, rfl, (hbound a ha).2⟩⟩
  · exact ⟨none, rfl, fun _ => rfl, nofun⟩

theorem loadPermissionSets_sane (hs : Sane rt rows) :
    rows.loadPermissionSets rt workspaceId =
      .ok (byKey ((rows.activeSets workspaceId).map PermissionSetRow.definition)) := by
  refine parseAll_eq_ok.2 ⟨fun d hd => ?_, rfl⟩
  simp only [byKey, List.mem_mergeSort, List.mem_map] at hd
  obtain ⟨p, hp, rfl⟩ := hd
  exact (hs.permissionSets p (List.mem_of_mem_filter hp)).1

/-- The grants of a principal, sorted; none without a principal. -/
def sortedGrants (rows : AuthorityRows) (workspaceId : String) (principalId : Option String) :
    List AuthorizationGrant :=
  principalId.elim [] fun id => (rows.activeGrants workspaceId id).mergeSort fun a b => a.id ≤ b.id

theorem loadGrants_sane (hs : Sane rt rows) (principalId : Option String) :
    rows.loadGrants rt workspaceId principalId =
      .ok (rows.sortedGrants workspaceId principalId) := by
  cases principalId with
  | none => rfl
  | some id =>
    refine parseAll_eq_ok.2 ⟨fun g hg => ?_, rfl⟩
    exact (hs.grants g (List.mem_of_mem_filter (List.mem_mergeSort.1 hg))).1

theorem loadDelegation_sane (hs : Sane rt rows) (subjectId actorId : Option String)
    (action : ActionIdentity) (resource : ResourceRef) (now : ℕ) :
    ∃ d, rows.loadDelegation rt workspaceId subjectId actorId action resource now = .ok d ∧
      (∀ x ∈ d, rt.IsDelegation x) ∧ (actorId = none → d = none) := by
  have hload : ∃ d, rows.loadDelegation rt workspaceId subjectId actorId action resource now =
      .ok d := by
    cases subjectId with
    | none => exact ⟨none, rfl⟩
    | some subjectId =>
      cases actorId with
      | none => exact ⟨none, rfl⟩
      | some actorId =>
        refine ⟨_, (bind_eq_ok _ _ _).2 ⟨_, parseAll_eq_ok.2 ⟨fun d hd => ?_, rfl⟩, rfl⟩⟩
        exact (hs.delegations d (List.mem_of_mem_filter (List.mem_mergeSort.1 hd))).1
  obtain ⟨_, hd⟩ := hload
  exact loadDelegation_at hd now

/-- The eligibilities of a principal, sorted; none without a principal. -/
def sortedEligibilities (rows : AuthorityRows) (workspaceId : String)
    (principalId : Option String) : List AuthorityEligibility :=
  principalId.elim [] fun id => (rows.eligibilities.filter fun e =>
    e.workspaceId = workspaceId ∧ e.principalId = id).mergeSort fun a b => a.id ≤ b.id

theorem loadEligibilities_sane (hs : Sane rt rows) (principalId : Option String) :
    rows.loadEligibilities workspaceId principalId =
      .ok (rows.sortedEligibilities workspaceId principalId) := by
  cases principalId with
  | none => rfl
  | some id =>
    refine parseAll_eq_ok.2 ⟨fun e he => ?_, rfl⟩
    exact (hs.eligibilities e (List.mem_of_mem_filter (List.mem_mergeSort.1 he))).1

/-! ### The snapshot -/

/-- The permission sets that a workspace shows: the active ones, if it is enabled. -/
def shownSets (rows : AuthorityRows) (enabled : Bool) (workspaceId : String) :
    List PermissionSetDefinition :=
  if enabled then byKey ((rows.activeSets workspaceId).map PermissionSetRow.definition) else []

theorem mem_shownSets {d : PermissionSetDefinition} :
    d ∈ rows.shownSets true workspaceId ↔
      ∃ p ∈ rows.activeSets workspaceId, p.definition = d := by
  simp [shownSets, byKey]

theorem shownSets_sane (hs : Sane rt rows) (enabled : Bool) :
    ∀ d ∈ rows.shownSets enabled workspaceId, rt.IsPermissionSetDefinition d ∧ rt.Exact d := by
  cases enabled with
  | false => nofun
  | true =>
    intro d hd
    obtain ⟨p, hp, rfl⟩ := mem_shownSets.1 hd
    exact hs.permissionSets p (List.mem_of_mem_filter hp)

theorem shownSets_nodup (hkeyed : rows.Keyed) (enabled : Bool) :
    ((rows.shownSets enabled workspaceId).map fun d => (d.uri, d.version)).Nodup := by
  cases enabled with
  | false => exact List.nodup_nil
  | true =>
    have hperm := List.mergeSort_perm ((rows.activeSets workspaceId).map PermissionSetRow.definition)
      fun a b => a.uri < b.uri ∨ a.uri = b.uri ∧ a.version ≤ b.version
    have hnodup := (hperm.map fun d => (d.uri, d.version)).nodup_iff.2
    refine hnodup ?_
    rw [List.map_map]
    exact nodup_map_filter hkeyed.permissionSets fun p hp => (of_decide_eq_true hp).1

/-- A grant under an active permission set finds it among the sets that are shown. -/
theorem definitionFor_shownSets (hkeyed : rows.Keyed) {g : AuthorizationGrant}
    (hg : g.workspaceId = workspaceId) (hactive : rows.GrantActive g) :
    ∃ d ∈ AuthorityRuntime.definitionFor (rows.shownSets true workspaceId) g.permissionSet.uri
      g.permissionSet.version, d.implementationDigest = g.permissionSet.implementationDigest := by
  obtain ⟨p, hp, hworkspace, huri, hversion, hdigest, hstatus⟩ := hactive
  have hmem : p.definition ∈ rows.shownSets true workspaceId :=
    mem_shownSets.2 ⟨p, List.mem_filter.2 ⟨hp, by simp [hworkspace, hg, hstatus]⟩, rfl⟩
  have hfound := AuthorityRuntime.definitionFor_of_mem (shownSets_nodup hkeyed true) hmem
  rw [huri, hversion] at hfound
  exact ⟨p.definition, hfound, hdigest⟩

theorem mem_sortedGrants {principalId : Option String} {g : AuthorizationGrant} :
    g ∈ rows.sortedGrants workspaceId principalId ↔
      ∃ id ∈ principalId, g ∈ rows.activeGrants workspaceId id := by
  cases principalId <;> simp [sortedGrants]

theorem mem_activeGrants {id : String} {g : AuthorizationGrant} :
    g ∈ rows.activeGrants workspaceId id ↔ g ∈ rows.grants ∧ g.workspaceId = workspaceId ∧
      g.granteePrincipalId = id ∧ rows.GrantActive g := by
  simp [activeGrants]

theorem sortedGrants_nodup (hkeyed : rows.Keyed) (principalId : Option String) :
    ((rows.sortedGrants workspaceId principalId).map AuthorizationGrant.id).Nodup := by
  cases principalId with
  | none => exact List.nodup_nil
  | some id =>
    have hperm := List.mergeSort_perm (rows.activeGrants workspaceId id) fun a b => a.id ≤ b.id
    refine (hperm.map AuthorizationGrant.id).nodup_iff.2 ?_
    exact nodup_map_filter hkeyed.grants fun g hg => (of_decide_eq_true hg).1

/-- The grants of two principals are told apart by their ids, unless the principals are one. -/
theorem sortedGrants_append_nodup (hkeyed : rows.Keyed) {subjectId actorId : Option String}
    (hapart : ∀ id ∈ subjectId, id ∈ actorId → rows.activeGrants workspaceId id = []) :
    ((rows.sortedGrants workspaceId subjectId ++ rows.sortedGrants workspaceId actorId).map
      AuthorizationGrant.id).Nodup := by
  rw [List.map_append, List.nodup_append]
  refine ⟨sortedGrants_nodup hkeyed _, sortedGrants_nodup hkeyed _, ?_⟩
  rintro _ hid _ hid' rfl
  obtain ⟨g, hg, hgid⟩ := List.mem_map.1 hid
  obtain ⟨g', hg', hgid'⟩ := List.mem_map.1 hid'
  obtain ⟨subjectId, hsubject, hg⟩ := mem_sortedGrants.1 hg
  obtain ⟨actorId, hactor, hg'⟩ := mem_sortedGrants.1 hg'
  obtain ⟨hmem, hworkspace, hgrantee, -⟩ := mem_activeGrants.1 hg
  obtain ⟨hmem', hworkspace', hgrantee', -⟩ := mem_activeGrants.1 hg'
  obtain rfl : g = g' := List.inj_on_of_nodup_map hkeyed.grants hmem hmem'
    (by rw [hworkspace, hworkspace', hgid, hgid'])
  obtain rfl : subjectId = actorId := hgrantee.symm.trans hgrantee'
  rw [hapart subjectId hsubject hactor] at hg
  cases hg

theorem sortedEligibilities_nodup (hkeyed : rows.Keyed) (principalId : Option String) :
    ((rows.sortedEligibilities workspaceId principalId).map AuthorityEligibility.id).Nodup := by
  cases principalId with
  | none => exact List.nodup_nil
  | some id =>
    refine ((List.mergeSort_perm _ _).map AuthorityEligibility.id).nodup_iff.2 ?_
    exact nodup_map_filter hkeyed.eligibilities fun e he => (of_decide_eq_true he).1

/-- A principal has at most one eligibility of each kind. -/
theorem sortedEligibilities_length (hkeyed : rows.Keyed) (principalId : Option String) :
    (rows.sortedEligibilities workspaceId principalId).length ≤ 2 := by
  cases principalId with
  | none => exact Nat.zero_le _
  | some id =>
    have hkinds : ((rows.eligibilities.filter fun e =>
        e.workspaceId = workspaceId ∧ e.principalId = id).map AuthorityEligibility.kind).Nodup := by
      have hpairs : (rows.eligibilities.map fun e =>
          ((e.workspaceId, e.principalId), e.kind)).Nodup := by
        have h := hkeyed.kinds.map (f := fun k : String × String × EligibilityKind =>
          ((k.1, k.2.1), k.2.2)) (by rintro ⟨_, _, _⟩ ⟨_, _, _⟩; simp +contextual)
        rwa [List.map_map] at h
      exact nodup_map_filter (k := (workspaceId, id)) hpairs fun e he =>
        Prod.ext (of_decide_eq_true he).1 (of_decide_eq_true he).2
    have hsub : ∀ k ∈ (rows.eligibilities.filter fun e =>
        e.workspaceId = workspaceId ∧ e.principalId = id).map AuthorityEligibility.kind,
        k ∈ [EligibilityKind.effectApprover, .effectConnector] := by
      intro k _
      cases k <;> simp
    have hlength := (hkinds.subperm hsub).length_le
    rw [List.length_map] at hlength
    simpa [sortedEligibilities] using hlength

end AuthorityRows

namespace AuthorityStore

variable {rt : AuthorityRuntime} {s s' : AuthorityStore} {input : WorkspaceAuthorizationInput}
  {now : ℕ}

/-! ### CORRECT: every authorization reaches a decision -/

/-- What the store shows the evaluator: the lists are those of the tables, and the principals are
    the bound ones. -/
structure Shown (rt : AuthorityRuntime) (s : AuthorityStore) (input : WorkspaceAuthorizationInput)
    (enabled : Bool) (request : AuthorizationRequest) : Prop where
  requestId : request.requestId = input.requestId
  workspaceId : request.workspaceId = input.workspaceId
  serviceAudience : request.serviceAudience = input.serviceAudience
  action : request.action = input.action
  resource : request.resource = input.resource
  identity : request.identity = input.identity
  subject : ∀ b ∈ request.subject, enabled = true ∧ rt.IsBoundPrincipal b ∧
    s.subjectOf input = some b.principal.id
  actor : ∀ a ∈ request.actor, enabled = true ∧ rt.IsBoundPrincipal a ∧
    s.actorOf input = some a.principal.id
  noActor : request.identity.actor = none → request.actor = none
  permissionSets : request.permissionSets = s.shownSets enabled input.workspaceId
  subjectGrants : request.subjectGrants = s.sortedGrants input.workspaceId
    (request.subject.map fun b => b.principal.id)
  actorGrants : request.actorGrants = s.sortedGrants input.workspaceId
    (request.actor.map fun b => b.principal.id)
  delegation : ∀ d ∈ request.delegation, rt.IsDelegation d
  noDelegation : request.actor = none → request.delegation = none
  eligibilities : ∃ id, request.eligibilities = s.sortedEligibilities input.workspaceId id

/-- An evaluable store shows the evaluator every request. -/
theorem Evaluable.shown (hs : Evaluable rt s) (enabled : Bool) :
    ∃ request, s.toAuthorityRows.loadRequest rt enabled input now = .ok request ∧
      Shown rt s input enabled request := by
  have hsane := hs.sane
  obtain ⟨subject, hsubject, hbound⟩ : ∃ subject, AuthorityRows.whenEnabled enabled none
      (s.loadBoundPrincipal rt input.workspaceId input.identity.issuer input.identity.subject) =
        .ok subject ∧ ∀ b ∈ subject, enabled = true ∧ rt.IsBoundPrincipal b ∧
          s.subjectOf input = some b.principal.id := by
    cases enabled with
    | false => exact ⟨none, rfl, nofun⟩
    | true =>
      obtain ⟨bound, hload, hbound⟩ :
          ∃ bound, s.loadBoundPrincipal rt input.workspaceId input.identity.issuer
              input.identity.subject = .ok bound ∧ ∀ b ∈ bound, rt.IsBoundPrincipal b ∧
                s.subjectOf input = some b.principal.id :=
        AuthorityRows.loadBoundPrincipal_sane hsane _ _
      exact ⟨bound, hload, fun b hb => ⟨rfl, hbound b hb⟩⟩
  obtain ⟨actor, hactor, hnone, hnamed⟩ := AuthorityRows.loadActor_sane hsane enabled input
  have hsets : AuthorityRows.whenEnabled enabled [] (s.loadPermissionSets rt input.workspaceId) =
      .ok (s.shownSets enabled input.workspaceId) := by
    cases enabled with
    | false => rfl
    | true => exact AuthorityRows.loadPermissionSets_sane hsane
  obtain ⟨d, hd, hdelegation, hnoDelegation⟩ :
      ∃ d, s.loadDelegation rt input.workspaceId (subject.map fun b => b.principal.id)
          (actor.map fun b => b.principal.id) input.action input.resource now = .ok d ∧
        (∀ x ∈ d, rt.IsDelegation x) ∧ ((actor.map fun b => b.principal.id) = none → d = none) :=
    AuthorityRows.loadDelegation_sane hsane _ _ _ _ _
  have heligibilities : ∀ id, s.loadEligibilities input.workspaceId id =
      .ok (s.sortedEligibilities input.workspaceId id) :=
    AuthorityRows.loadEligibilities_sane hsane
  refine ⟨
    { requestId := input.requestId
      workspaceId := input.workspaceId
      serviceAudience := input.serviceAudience
      action := input.action
      resource := input.resource
      identity := input.identity
      subject := subject
      actor := actor
      permissionSets := s.shownSets enabled input.workspaceId
      subjectGrants := s.sortedGrants input.workspaceId (subject.map fun b => b.principal.id)
      actorGrants := s.sortedGrants input.workspaceId (actor.map fun b => b.principal.id)
      delegation := d
      eligibilities := s.sortedEligibilities input.workspaceId
        (if input.identity.actor.isSome then actor.map fun b => b.principal.id
          else subject.map fun b => b.principal.id) }, ?_, ?_⟩
  · simp only [AuthorityRows.loadRequest, hsubject, hactor, hsets, hd,
      AuthorityRows.loadGrants_sane hsane, heligibilities, ok_bind]
    rfl
  · refine ⟨rfl, rfl, rfl, rfl, rfl, rfl, hbound, fun a ha => ?_, hnone, rfl, rfl, rfl, hdelegation,
      fun h => hnoDelegation (by simpa using h), _, rfl⟩
    obtain ⟨henabled, hadmits, named, hmem, hid⟩ := hnamed a ha
    refine ⟨henabled, hadmits, ?_⟩
    rw [actorOf, Option.mem_def.1 hmem, Option.bind_some, hid]

/-- The request that is shown is admissible, within the bounds. -/
theorem Shown.isRequest {enabled : Bool} {request : AuthorizationRequest}
    (h : Shown rt s input enabled request) (hs : Evaluable rt s)
    (hinput : rt.IsAuthorizationInput input) (hwithin : s.Within input) :
    rt.IsAuthorizationRequest request := by
  obtain ⟨hid, hworkspace, haudience, haction, hresource, hidentity, htarget⟩ := hinput
  have hgrants : ∀ id, ∀ g ∈ s.sortedGrants input.workspaceId id, rt.IsAuthorizationGrant g := by
    intro id g hg
    obtain ⟨id, -, hg⟩ := AuthorityRows.mem_sortedGrants.1 hg
    exact (hs.sane.grants g (AuthorityRows.mem_activeGrants.1 hg).1).1
  have hlength : ∀ (bound : Option BoundPrincipal),
      (∀ b ∈ bound, (s.activeGrants input.workspaceId b.principal.id).length ≤ 100) →
      (s.sortedGrants input.workspaceId (bound.map fun b => b.principal.id)).length ≤ 100 := by
    intro bound hbound
    cases bound with
    | none => exact Nat.zero_le _
    | some b => simpa [AuthorityRows.sortedGrants] using hbound b rfl
  obtain ⟨eligible, heligible⟩ := h.eligibilities
  refine ⟨?_, ?_, ?_, ?_, ?_, ?_, fun b hb => (h.subject b hb).2.1, fun a ha => (h.actor a ha).2.1,
    ?_, ?_, ?_, ?_, ?_, ?_, h.delegation, ?_, ?_, ?_⟩
  · rw [h.requestId]; exact hid
  · rw [h.workspaceId]; exact hworkspace
  · rw [h.serviceAudience]; exact haudience
  · rw [h.action]; exact haction
  · rw [h.resource]; exact hresource
  · rw [h.identity]; exact hidentity
  · rw [h.permissionSets]
    exact fun d hd => (AuthorityRows.shownSets_sane hs.sane enabled d hd).1
  · rw [h.permissionSets]
    cases enabled with
    | false => exact Nat.zero_le _
    | true => simpa [AuthorityRows.shownSets, AuthorityRows.byKey] using hwithin.sets
  · rw [h.subjectGrants]; exact hgrants _
  · rw [h.subjectGrants]
    exact hlength _ fun b hb => hwithin.subject _ (h.subject b hb).2.2
  · rw [h.actorGrants]; exact hgrants _
  · rw [h.actorGrants]
    exact hlength _ fun a ha => hwithin.actor _ (h.actor a ha).2.2
  · rw [heligible]
    intro e he
    cases eligible with
    | none => cases he
    | some id =>
      exact (hs.sane.eligibilities e (List.mem_of_mem_filter (List.mem_mergeSort.1 he))).1
  · rw [heligible]
    exact (AuthorityRows.sortedEligibilities_length hs.keyed.toKeyed _).trans (by omega)
  · rw [h.resource, h.workspaceId]; exact htarget

/-- The request that is shown is consistent, within the bounds. -/
theorem Shown.consistent {enabled : Bool} {request : AuthorizationRequest}
    (h : Shown rt s input enabled request) (hs : Evaluable rt s) (hwithin : s.Within input) :
    rt.Consistent request := by
  have hkeyed := hs.keyed.toKeyed
  obtain ⟨eligible, heligible⟩ := h.eligibilities
  have henabled : ∀ (bound : Option BoundPrincipal) g, (∀ b ∈ bound, enabled = true) →
      g ∈ s.sortedGrants input.workspaceId (bound.map fun b => b.principal.id) →
      enabled = true ∧ g.workspaceId = input.workspaceId ∧ s.GrantActive g := by
    intro bound g hbound hg
    obtain ⟨id, hid, hg⟩ := AuthorityRows.mem_sortedGrants.1 hg
    obtain ⟨b, hb, -⟩ := Option.map_eq_some_iff.1 hid
    obtain ⟨-, hworkspace, -, hactive⟩ := AuthorityRows.mem_activeGrants.1 hg
    exact ⟨hbound b hb, hworkspace, hactive⟩
  refine ⟨⟨?_, ?_, ?_, ?_, ?_⟩, fun hnone => ?_⟩
  · rw [h.permissionSets]
    exact AuthorityRows.shownSets_nodup hkeyed enabled
  · rw [h.permissionSets]
    exact fun d hd => (AuthorityRows.shownSets_sane hs.sane enabled d hd).2
  · rw [h.subjectGrants, h.actorGrants]
    refine AuthorityRows.sortedGrants_append_nodup hkeyed fun id hid hid' => ?_
    obtain ⟨b, hb, rfl⟩ := Option.map_eq_some_iff.1 hid
    obtain ⟨a, ha, heq⟩ := Option.map_eq_some_iff.1 hid'
    refine hwithin.apart _ (h.subject b hb).2.2 ?_
    rw [← heq]
    exact (h.actor a ha).2.2
  · rw [h.subjectGrants, h.actorGrants, h.permissionSets]
    intro g hg
    have hfound : enabled = true ∧ g.workspaceId = input.workspaceId ∧ s.GrantActive g := by
      rcases List.mem_append.1 hg with hg | hg
      · exact henabled _ g (fun b hb => (h.subject b hb).1) hg
      · exact henabled _ g (fun a ha => (h.actor a ha).1) hg
    obtain ⟨rfl, hworkspace, hactive⟩ := hfound
    exact AuthorityRows.definitionFor_shownSets hkeyed hworkspace hactive
  · rw [heligible]
    exact AuthorityRows.sortedEligibilities_nodup hkeyed _
  · have hactor := h.noActor hnone
    refine ⟨h.noDelegation hactor, ?_⟩
    rw [h.actorGrants, hactor]
    rfl

/-- The envelope of an admissible input has a digest. -/
theorem safe_envelope (hinput : rt.IsAuthorizationInput input)
    (hversion : input.action.version ≤ Json.maxSafeInteger) :
    (AuthorityValue.envelope input).Safe := by
  obtain ⟨-, -, -, -, -, ⟨-, -, -, -, -, hauthenticated, hbefore, hexpires, -, -, -, -, -,
    hactions, -⟩, -⟩ := hinput
  have hsafe : ∀ n, IsUnixMs n → n ≤ Json.maxSafeInteger := fun n hn => hn
  simp only [AuthorityValue.Safe, AuthorityValue.numbers, VerifiedIdentity.numbers, List.mem_cons,
    List.mem_append, Option.mem_toList, List.mem_map]
  rintro n (rfl | rfl | rfl | hn | ⟨identity, hidentity, rfl⟩)
  · exact hversion
  · exact hsafe _ hauthenticated
  · exact hsafe _ hexpires
  · exact hsafe _ (hbefore n hn)
  · rw [(hactions.2.2 identity hidentity).version]
    decide

/-- The workspace is read within the bounds. -/
theorem Within.loadWorkspace (h : s.Within input) :
    s.loadWorkspace input.workspaceId = .ok (s.workspaceRow input.workspaceId) := by
  unfold AuthorityStore.loadWorkspace
  split
  · rename_i hnone
    rw [hnone]
    rfl
  · rename_i row hrow
    have hrevision : row.authorityRevision ≤ Json.maxSafeInteger :=
      h.revision _ (by rw [revisionOf, hrow]; rfl)
    rw [hrow]
    simp only [workspaceFromRow, map_eq_ok, bind_eq_ok, refuse_eq_ok, pure_eq_ok, exists_const,
      not_lt]
    exact ⟨row, ⟨hrevision, rfl⟩, rfl⟩

/-- A decision about an unused request id is not stored yet, by name or by event. -/
theorem Named.fresh (hrt : rt.CollisionFree) (hs : Named rt s) {request : AuthorizationRequest}
    {outcome : Except AuthorizationReason (List AuthorityRuntime.Support)}
    (hunused : s.decisionRow request.workspaceId request.requestId = none) :
    ∀ d ∈ s.decisions, d.decision.decisionId ≠ (rt.finish request
      (rt.digest (.request (rt.canonicalRequestSnapshot request))) now outcome).decisionId := by
  intro d hd heq
  obtain ⟨request', now', outcome', hdecision, hworkspace, hid⟩ := hs.decisions d hd
  rw [hdecision] at heq
  have hdigest := hrt.digest heq
  simp only [AuthorityValue.decision.injEq] at hdigest
  have hrequest := AuthorityValue.request.inj (hrt.digest hdigest.2.1)
  have hrequestId : (rt.canonicalRequestSnapshot request').requestId =
      (rt.canonicalRequestSnapshot request).requestId := by rw [hrequest]
  have hworkspaceId : (rt.canonicalRequestSnapshot request').workspaceId =
      (rt.canonicalRequestSnapshot request).workspaceId := by rw [hrequest]
  exact List.find?_eq_none.1 hunused d hd
    (decide_eq_true ⟨hworkspace.trans hworkspaceId, hid.trans hrequestId⟩)

/-- `authorizeAt` calls nothing back. -/
theorem authorizeAt_of_authorizeIn {result : WorkspaceAuthorizationResult}
    (h : s.authorizeIn rt input now = .ok (s', result)) :
    s.authorizeAt rt input now = .ok (s', result) := by
  by_cases hguarded : result.Guarded <;> simp [authorizeAt, authorizeAndExecuteAt, h, hguarded]

/-- A decision gives the reason that no check avoided. -/
theorem finish_reason {request : AuthorizationRequest} {d : Digest}
    {outcome : Except AuthorizationReason (List AuthorityRuntime.Support)}
    (h : Avoids (· = .authoritySnapshotInvalid) outcome) :
    (rt.finish request d now outcome).reasonCode ≠ .authoritySnapshotInvalid := by
  cases outcome with
  | ok supports => nofun
  | error reason => exact h reason rfl

/-- An evaluable store decides every admissible input with an unused request id, within the bounds
    of the evaluator, and not for an invalid snapshot. -/
theorem Evaluable.decides (hrt : rt.CollisionFree) (hs : Evaluable rt s)
    (hinput : rt.IsAuthorizationInput input) (hnow : IsUnixMs now)
    (hunused : s.decisionRow input.workspaceId input.requestId = none)
    (hwithin : s.Within input) :
    Ends (s.authorizeAt rt input now) fun outcome =>
      outcome.2.decision.reasonCode ≠ .authoritySnapshotInvalid := by
  let workspace := s.workspaceRow input.workspaceId
  let enabled := workspace.any (·.status = .enabled)
  obtain ⟨request, hload, hshown⟩ :
      ∃ request, s.toAuthorityRows.loadRequest rt enabled input now = .ok request ∧
        Shown rt s input enabled request := hs.shown enabled
  have hconsistent := hshown.consistent hs hwithin
  have hversion : request.action.version ≤ Json.maxSafeInteger := by
    rw [hshown.action]
    exact hwithin.version
  have hsafe : (AuthorityValue.request (rt.canonicalRequestSnapshot request)).Safe :=
    AuthorityRuntime.safe_canonicalRequestSnapshot.2 (hconsistent.safe hversion)
  let decision := rt.finish request (rt.digest (.request (rt.canonicalRequestSnapshot request)))
    now (rt.judge request now)
  have hevaluated : rt.evaluateAuthorization request now = .ok decision :=
    (AuthorityRuntime.evaluateAuthorization_eq_ok _).2
      ⟨hshown.isRequest hs hinput hwithin, hnow, hsafe, rfl⟩
  have hfresh : ∀ d ∈ s.decisions, d.decision.decisionId ≠ decision.decisionId :=
    hs.named.fresh hrt (by rw [hshown.workspaceId, hshown.requestId]; exact hunused)
  have hdecides : s.Decides rt input now workspace request decision :=
    { loaded := hwithin.loadWorkspace
      asked := (bind_eq_ok _ _ _).2 ⟨workspace, hwithin.loadWorkspace, hload⟩
      evaluated := hevaluated
      fresh := by
        rintro d hd (h | ⟨hworkspace, hid⟩)
        · exact hfresh d hd h
        · refine List.find?_eq_none.1 hunused d hd (decide_eq_true ⟨?_, ?_⟩)
          · rw [hworkspace, ← hshown.workspaceId]
            rfl
          · rw [hid, ← hshown.requestId]
            rfl
      audit := by
        intro r hr hevent
        obtain ⟨d, hd, hname⟩ := hs.named.audit r hr _ hevent
        exact hfresh d hd hname }
  have hauthorize := authorizeIn_eq_ok.2 ⟨⟨hnow, hinput.1, hinput.2.1,
    safe_envelope hinput hwithin.version⟩,
    .inr ⟨hunused, decide_eq_ok.2 ⟨_, _, _, hdecides, rfl, rfl⟩⟩⟩
  exact ⟨_, authorizeAt_of_authorizeIn hauthorize,
    finish_reason (AuthorityRuntime.judge_consistent hconsistent)⟩

/-- CORRECT: after every run of sound calls, every admissible authorization under an unused request
    id and within the bounds of the evaluator reaches a decision, and not for an invalid
    snapshot. -/
theorem sound_run_decides (hrt : rt.CollisionFree) (actions : List AuthorityAction)
    (halong : Run.Along (step rt) (Sound rt) empty actions) (input : WorkspaceAuthorizationInput)
    (now : ℕ) (hinput : rt.IsAuthorizationInput input) (hnow : IsUnixMs now)
    (hunused : (empty.run rt actions).decisionRow input.workspaceId input.requestId = none)
    (hwithin : (empty.run rt actions).Within input) :
    Ends ((empty.run rt actions).authorizeAt rt input now) fun outcome =>
      outcome.2.decision.reasonCode ≠ .authoritySnapshotInvalid :=
  (evaluable_run hrt halong).decides hrt hinput hnow hunused hwithin

/-- An id with another start is not the event id of a decision. -/
theorem not_decisionEvent {id : String} (h : ¬ "decision:sha256:".toList <+: id.toList) :
    ¬ DecisionEvent rt id := by
  rintro ⟨d, rfl⟩
  rw [String.toList_append] at h
  exact h (List.prefix_append _ _)

theorem sound_run_decides_entitling :
    Ends ((empty.run idealAuthority entitling).authorizeAt idealAuthority (dispatchInput "r") 1)
      fun outcome => outcome.2.decision.reasonCode ≠ .authoritySnapshotInvalid := by
  have hinput : idealAuthority.IsAuthorizationInput (dispatchInput "r") := by decide +kernel
  have hsound : Run.Along (step idealAuthority) (Sound idealAuthority) empty entitling :=
    ⟨not_decisionEvent (by decide), not_decisionEvent (by decide),
      ⟨not_decisionEvent (by decide), trivial⟩, ⟨not_decisionEvent (by decide), trivial⟩,
      ⟨not_decisionEvent (by decide), trivial⟩,
      ⟨not_decisionEvent (by decide), by decide +kernel⟩,
      ⟨not_decisionEvent (by decide), trivial⟩, ⟨not_decisionEvent (by decide), trivial⟩, trivial⟩
  -- One evaluation of the run answers all questions about its end.
  have hend : ∀ s, s = empty.run idealAuthority entitling → s.decisionRow "w" "r" = none ∧
      (∀ n ∈ s.revisionOf "w", n ≤ Json.maxSafeInteger) ∧ (s.activeSets "w").length ≤ 100 ∧
      (∀ id ∈ s.subjectOf (dispatchInput "r"), (s.activeGrants "w" id).length ≤ 100) ∧
      (∀ id ∈ s.actorOf (dispatchInput "r"), (s.activeGrants "w" id).length ≤ 100) ∧
      ∀ id ∈ s.subjectOf (dispatchInput "r"), id ∈ s.actorOf (dispatchInput "r") →
        s.activeGrants "w" id = [] := by
    intro s hs
    rw [hs]
    decide +kernel
  obtain ⟨hunused, hrevision, hsets, hsubject, hactor, hapart⟩ := hend _ rfl
  exact sound_run_decides idealAuthority_collisionFree entitling hsound (dispatchInput "r") 1
    hinput (by decide) hunused ⟨by decide, hrevision, hsets, hsubject, hactor, hapart⟩

/-- The dispatch set under another name, and so with a wrong digest. -/
def misnamedSet : PermissionSetDefinition :=
  { AuthorityRuntime.dispatchSet with uri := "https://b.example/" }

/-- A workspace in which the service is bound. -/
def binding : List AuthorityAction :=
  founding ++ [.mutate (.bindSubject (AuthorityRuntime.plainBound "p" .service 0).binding)
    (expecting "op:b" (some 2) none) 1]

/-- The misnamed set is activated in it. -/
def misnaming : AuthorityAction :=
  .mutate (.activatePermissionSet "w" misnamedSet) (expecting "op:m" (some 3) none) 1

/-- NOT SO: the activation of a permission set with a wrong digest is accepted, and what was denied
    for the want of a grant is denied for an invalid snapshot from then on. -/
theorem misnamed_set_poisons :
    idealAuthority.IsAuthorizationInput (dispatchInput "r") ∧
    Ends ((empty.run idealAuthority binding).authorizeAt idealAuthority (dispatchInput "r") 1)
      (fun outcome => outcome.2.decision.reasonCode ≠ .authoritySnapshotInvalid) ∧
    Ends ((empty.run idealAuthority binding).perform idealAuthority
      (.activatePermissionSet "w" misnamedSet) (expecting "op:m" (some 3) none) 1).2
        (fun _ => True) ∧
    (empty.run idealAuthority (binding ++ [misnaming])).decisionRow "w" "r" = none ∧
    Ends ((empty.run idealAuthority (binding ++ [misnaming])).authorizeAt idealAuthority
        (dispatchInput "r") 1)
      fun outcome => outcome.2.decision.reasonCode = .authoritySnapshotInvalid := by
  decide +kernel

end AuthorityStore

end Tasq.Authority
