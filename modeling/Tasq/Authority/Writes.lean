import Mathlib.Tactic
import Tasq.Authority.System

/-! The single writes that the mutations of a workspace are made of: one row inserted, or one row
    updated. What every write preserves, every mutation preserves (`Hands.invariant`). -/

namespace Tasq.Authority

open Text Outcome Rows

namespace Mutation

variable (rt : AuthorityRuntime)

/-- The permission set that a mutation inserts. -/
def InsertsSet (m : Mutation) (workspaceId : String) (p : PermissionSetDefinition) : Prop :=
  m = .activatePermissionSet workspaceId p ∨
    ∃ intent compiled, m = .issueMandate intent ∧ rt.compileMandate intent = .ok compiled ∧
      workspaceId = compiled.intent.workspaceId ∧ p = compiled.permissionSet

/-- A grant that a mutation inserts. -/
def InsertsGrant (m : Mutation) (g : AuthorizationGrant) : Prop :=
  m = .createGrant g ∨
    ∃ intent compiled, m = .issueMandate intent ∧ rt.compileMandate intent = .ok compiled ∧
      (g = compiled.subjectGrant ∨ some g = compiled.actorGrant)

/-- A delegation that a mutation inserts. -/
def InsertsDelegation (m : Mutation) (d : Delegation) : Prop :=
  m = .createDelegation d ∨
    ∃ intent compiled, m = .issueMandate intent ∧ rt.compileMandate intent = .ok compiled ∧
      some d = compiled.delegation

/-- A grant that a mutation revokes, at a revision. -/
def RevokesGrant (m : Mutation) (workspaceId id : String) (n : ℕ) : Prop :=
  m = .revokeGrant workspaceId id n ∨
    ∃ mandateId, m = .revokeMandate workspaceId mandateId n ∧
      (id = (rt.mandateRecordIds workspaceId mandateId).subjectGrantId ∨
        id = (rt.mandateRecordIds workspaceId mandateId).actorGrantId)

/-- A delegation that a mutation revokes, at a revision. -/
def RevokesDelegation (m : Mutation) (workspaceId id : String) (n : ℕ) : Prop :=
  m = .revokeDelegation workspaceId id n ∨
    ∃ mandateId, m = .revokeMandate workspaceId mandateId n ∧
      id = (rt.mandateRecordIds workspaceId mandateId).delegationId

end Mutation

namespace AuthorityRows

/-- One write of a mutation, at the reading `now` of the clock. -/
inductive Write (rt : AuthorityRuntime) (m : Mutation) (now : ℕ) (rows : AuthorityRows) :
    AuthorityRows → Prop where
  | registerPrincipal (p : AuthorityPrincipal) (principals : List AuthorityPrincipal)
      (hm : m = .registerPrincipal p)
      (h : insertRow rows.principals (fun q => q.workspaceId = p.workspaceId ∧ q.id = p.id) p
        alreadyExists = .ok principals) :
      Write rt m now rows { rows with principals }
  | disablePrincipal (workspaceId id : String) (n : ℕ) (principals : List AuthorityPrincipal)
      (hm : m = .disablePrincipal workspaceId id n)
      (h : updateRow rows.principals
        (fun p => p.workspaceId = workspaceId ∧ p.id = id ∧ p.status = .enabled ∧ p.revision = n)
        (fun p => { p with status := .disabled, revision := p.revision + 1 })
        (revisionConflict "principal revision changed") = .ok principals) :
      Write rt m now rows { rows with principals }
  | bindSubject (b : SubjectBinding) (bindings : List SubjectBinding) (hm : m = .bindSubject b)
      (h : insertRow rows.bindings (fun c => c.workspaceId = b.workspaceId ∧
        (c.id = b.id ∨ c.issuer = b.issuer ∧ c.subject = b.subject)) b alreadyExists =
          .ok bindings)
      (hprincipal : rows.HasPrincipal b.workspaceId b.principalId)
      (hreplaced : ∀ id ∈ b.replacedByBindingId, rows.HasBinding b.workspaceId id) :
      Write rt m now rows { rows with bindings }
  | disableBinding (workspaceId id : String) (n : ℕ) (replaced : Option String)
      (bindings : List SubjectBinding) (hm : m = .disableBinding workspaceId id n replaced)
      (h : updateRow rows.bindings
        (fun b => b.workspaceId = workspaceId ∧ b.id = id ∧ b.status = .enabled ∧ b.revision = n)
        (fun b => { b with status := .disabled, revision := b.revision + 1, disabledAt := some now
                           replacedByBindingId := replaced })
        (revisionConflict "binding revision changed") = .ok bindings)
      (hreplaced : ∀ id ∈ replaced, rows.HasBinding workspaceId id) :
      Write rt m now rows { rows with bindings }
  | insertPermissionSet (workspaceId : String) (p : PermissionSetDefinition)
      (permissionSets : List PermissionSetRow) (hm : m.InsertsSet rt workspaceId p)
      (h : insertRow rows.permissionSets (fun q => q.workspaceId = workspaceId ∧
        q.definition.uri = p.uri ∧ q.definition.version = p.version)
        ⟨workspaceId, p, .active, 1⟩ alreadyExists = .ok permissionSets) :
      Write rt m now rows { rows with permissionSets }
  | retirePermissionSet (workspaceId uri : String) (version n : ℕ)
      (permissionSets : List PermissionSetRow)
      (hm : m = .retirePermissionSet workspaceId uri version n)
      (h : updateRow rows.permissionSets
        (fun p => p.workspaceId = workspaceId ∧ p.definition.uri = uri ∧
          p.definition.version = version ∧ p.status = .active ∧ p.revision = n)
        (fun p => { p with status := .retired, revision := p.revision + 1 })
        (revisionConflict "permission set revision changed") = .ok permissionSets) :
      Write rt m now rows { rows with permissionSets }
  | insertGrant (g : AuthorizationGrant) (grants : List AuthorizationGrant)
      (hm : m.InsertsGrant rt g)
      (h : insertRow rows.grants (fun f => f.workspaceId = g.workspaceId ∧ f.id = g.id) g
        alreadyExists = .ok grants)
      (hgrantor : rows.HasPrincipal g.workspaceId g.grantorPrincipalId)
      (hgrantee : rows.HasPrincipal g.workspaceId g.granteePrincipalId)
      (hset : ∃ p ∈ rows.permissionSets, p.workspaceId = g.workspaceId ∧
        p.definition.uri = g.permissionSet.uri ∧
        p.definition.version = g.permissionSet.version ∧
        p.definition.implementationDigest = g.permissionSet.implementationDigest) :
      Write rt m now rows { rows with grants }
  | revokeGrant (workspaceId id message : String) (n : ℕ) (grants : List AuthorizationGrant)
      (hm : m.RevokesGrant rt workspaceId id n)
      (h : updateRow rows.grants
        (fun g => g.workspaceId = workspaceId ∧ g.id = id ∧ g.status = .active ∧ g.revision = n)
        (fun g => { g with toLifetime := revoked g.toLifetime }) (revisionConflict message) =
          .ok grants) :
      Write rt m now rows { rows with grants }
  | insertDelegation (d : Delegation) (delegations : List Delegation)
      (hm : m.InsertsDelegation rt d)
      (h : insertRow rows.delegations (fun e => e.workspaceId = d.workspaceId ∧ e.id = d.id) d
        alreadyExists = .ok delegations)
      (hsubject : rows.HasPrincipal d.workspaceId d.subjectPrincipalId)
      (hactor : rows.HasPrincipal d.workspaceId d.actorPrincipalId) :
      Write rt m now rows { rows with delegations }
  | revokeDelegation (workspaceId id message : String) (n : ℕ) (delegations : List Delegation)
      (hm : m.RevokesDelegation rt workspaceId id n)
      (h : updateRow rows.delegations
        (fun d => d.workspaceId = workspaceId ∧ d.id = id ∧ d.status = .active ∧ d.revision = n)
        (fun d => { d with toLifetime := revoked d.toLifetime }) (revisionConflict message) =
          .ok delegations) :
      Write rt m now rows { rows with delegations }
  | grantEligibility (e : AuthorityEligibility) (eligibilities : List AuthorityEligibility)
      (hm : m = .grantEligibility e)
      (h : insertRow rows.eligibilities (fun f => f.workspaceId = e.workspaceId ∧
        (f.id = e.id ∨ f.principalId = e.principalId ∧ f.kind = e.kind)) e alreadyExists =
          .ok eligibilities)
      (hprincipal : rows.HasPrincipal e.workspaceId e.principalId) :
      Write rt m now rows { rows with eligibilities }
  | revokeEligibility (workspaceId id : String) (n : ℕ)
      (eligibilities : List AuthorityEligibility)
      (hm : m = .revokeEligibility workspaceId id n)
      (h : updateRow rows.eligibilities
        (fun e => e.workspaceId = workspaceId ∧ e.id = id ∧ e.status = .active ∧ e.revision = n)
        (fun e => { e with toLifetime := revoked e.toLifetime })
        (revisionConflict "eligibility revision changed") = .ok eligibilities) :
      Write rt m now rows { rows with eligibilities }
  | createEnrollment (e : EnrollmentRecord) (enrollments : List EnrollmentRecord)
      (hm : m = .createEnrollment e)
      (h : insertRow rows.enrollments (fun f => f.id = e.id ∨ f.tokenDigest = e.tokenDigest) e
        alreadyExists = .ok enrollments) :
      Write rt m now rows { rows with enrollments }
  | revokeEnrollment (workspaceId id : String) (enrollments : List EnrollmentRecord)
      (hm : m = .revokeEnrollment workspaceId id)
      (h : updateRow rows.enrollments
        (fun e => e.workspaceId = workspaceId ∧ e.id = id ∧ e.consumedAt = none ∧
          e.revokedAt = none)
        (fun e => { e with revokedAt := some now }) (AuthorityFailure.enrollment .consumed) =
          .ok enrollments) :
      Write rt m now rows { rows with enrollments }
  | revokeAccessCredential (workspaceId id : String) (n : ℕ)
      (credentials : List AccessCredentialRecord)
      (hm : m = .revokeAccessCredential workspaceId id n)
      (h : updateRow rows.credentials
        (fun c => c.workspaceId = workspaceId ∧ c.id = id ∧ c.status = .active ∧ c.revision = n)
        (fun c => { c with status := .revoked, revision := c.revision + 1, revokedAt := some now })
        (AuthorityFailure.enrollment .revoked) = .ok credentials) :
      Write rt m now rows { rows with credentials }

/-- The writes of a mutation, one after another. -/
abbrev Writes (rt : AuthorityRuntime) (m : Mutation) (now : ℕ) :
    AuthorityRows → AuthorityRows → Prop := Relation.ReflTransGen (Write rt m now)

variable {rt : AuthorityRuntime} {m : Mutation} {now : ℕ} {rows rows' : AuthorityRows}

/-! ### The parts of a mutation -/

theorem writes_insertPermissionSet {workspaceId : String} {p : PermissionSetDefinition}
    (hm : m.InsertsSet rt workspaceId p)
    (h : rows.insertPermissionSet workspaceId p = .ok rows') : Writes rt m now rows rows' := by
  simp only [insertPermissionSet, bind_eq_ok, pure_eq_ok] at h
  obtain ⟨sets, h, rfl⟩ := h
  exact .single (.insertPermissionSet workspaceId p sets hm h)

theorem writes_insertGrant {g : AuthorizationGrant} (hm : m.InsertsGrant rt g)
    (h : rows.insertGrant g = .ok rows') : Writes rt m now rows rows' := by
  simp only [insertGrant, bind_eq_ok, refuse_eq_ok, pure_eq_ok, exists_const, not_not] at h
  obtain ⟨grants, h, ⟨hgrantor, hgrantee, hset⟩, rfl⟩ := h
  exact .single (.insertGrant g grants hm h hgrantor hgrantee hset)

theorem writes_insertDelegation {d : Delegation} (hm : m.InsertsDelegation rt d)
    (h : rows.insertDelegation d = .ok rows') : Writes rt m now rows rows' := by
  simp only [insertDelegation, bind_eq_ok, refuse_eq_ok, pure_eq_ok, exists_const, not_not] at h
  obtain ⟨delegations, h, ⟨hsubject, hactor⟩, rfl⟩ := h
  exact .single (.insertDelegation d delegations hm h hsubject hactor)

theorem writes_revokeGrantRow {workspaceId id message : String} {n : ℕ}
    (hm : m.RevokesGrant rt workspaceId id n)
    (h : rows.revokeGrantRow workspaceId id n message = .ok rows') : Writes rt m now rows rows' := by
  simp only [revokeGrantRow, bind_eq_ok, pure_eq_ok] at h
  obtain ⟨grants, h, rfl⟩ := h
  exact .single (.revokeGrant workspaceId id message n grants hm h)

theorem writes_revokeDelegationRow {workspaceId id message : String} {n : ℕ}
    (hm : m.RevokesDelegation rt workspaceId id n)
    (h : rows.revokeDelegationRow workspaceId id n message = .ok rows') :
    Writes rt m now rows rows' := by
  simp only [revokeDelegationRow, bind_eq_ok, pure_eq_ok] at h
  obtain ⟨delegations, h, rfl⟩ := h
  exact .single (.revokeDelegation workspaceId id message n delegations hm h)

/-- The records of a mandate are inserted one after another. -/
theorem writes_insertMandate {intent : MandateIntent} {compiled : CompiledMandate}
    (hm : m = .issueMandate intent) (hcompiled : rt.compileMandate intent = .ok compiled)
    (h : rows.insertMandate compiled = .ok rows') : Writes rt m now rows rows' := by
  simp only [insertMandate, bind_eq_ok] at h
  obtain ⟨rows₁, hset, rows₂, hsubject, rows₃, hactor, hdelegation⟩ := h
  have hset : Writes rt m now rows rows₁ :=
    writes_insertPermissionSet (.inr ⟨intent, compiled, hm, hcompiled, rfl, rfl⟩) hset
  have hsubject : Writes rt m now rows₁ rows₂ :=
    writes_insertGrant (.inr ⟨intent, compiled, hm, hcompiled, .inl rfl⟩) hsubject
  have hactor : Writes rt m now rows₂ rows₃ := by
    cases hgrant : compiled.actorGrant with
    | none =>
      rw [hgrant, Option.elim_none, pure_eq_ok] at hactor
      exact hactor ▸ .refl
    | some g =>
      rw [hgrant] at hactor
      exact writes_insertGrant (.inr ⟨intent, compiled, hm, hcompiled, .inr hgrant.symm⟩) hactor
  have hdelegation : Writes rt m now rows₃ rows' := by
    cases hd : compiled.delegation with
    | none =>
      rw [hd, Option.elim_none, pure_eq_ok] at hdelegation
      exact hdelegation ▸ .refl
    | some d =>
      rw [hd] at hdelegation
      exact writes_insertDelegation (.inr ⟨intent, compiled, hm, hcompiled, hd.symm⟩) hdelegation
  exact ((hset.trans hsubject).trans hactor).trans hdelegation

/-- The records of a mandate are revoked one after another. -/
theorem writes_revokeMandateRows {workspaceId mandateId : String} {n : ℕ} {actor delegation : Bool}
    (hm : m = .revokeMandate workspaceId mandateId n)
    (h : rows.revokeMandateRows workspaceId (rt.mandateRecordIds workspaceId mandateId) actor
      delegation n = .ok rows') : Writes rt m now rows rows' := by
  have hdelegation : ∀ rows₂ : AuthorityRows,
      (if delegation then rows₂.revokeDelegationRow workspaceId
        (rt.mandateRecordIds workspaceId mandateId).delegationId n "mandate revision changed"
      else pure rows₂) = .ok rows' → Writes rt m now rows₂ rows' := by
    intro rows₂ h
    cases delegation with
    | false =>
      obtain rfl : rows₂ = rows' := by simpa using h
      exact .refl
    | true => exact writes_revokeDelegationRow (.inr ⟨mandateId, hm, rfl⟩) h
  obtain ⟨rows₁, hsubject, h⟩ := (bind_eq_ok _ _ _).1 h
  have hsubject : Writes rt m now rows rows₁ :=
    writes_revokeGrantRow (.inr ⟨mandateId, hm, .inl rfl⟩) hsubject
  cases actor with
  | false =>
    simp only [Bool.false_eq_true, ↓reduceIte, bind_eq_ok, pure_eq_ok, exists_eq_left'] at h
    exact hsubject.trans (hdelegation rows₁ h)
  | true =>
    simp only [↓reduceIte, bind_eq_ok] at h
    obtain ⟨rows₂, hactor, h⟩ := h
    have hactor : Writes rt m now rows₁ rows₂ :=
      writes_revokeGrantRow (.inr ⟨mandateId, hm, .inr rfl⟩) hactor
    exact (hsubject.trans hactor).trans (hdelegation rows₂ h)

/-! ### A whole mutation -/

/-- STEP: what a mutation writes is a sequence of single writes. -/
theorem writes_apply (h : rows.apply rt m now = .ok rows') : Writes rt m now rows rows' := by
  cases m with
  | issueMandate intent =>
    simp only [apply, bind_eq_ok] at h
    obtain ⟨compiled, hcompiled, h⟩ := h
    exact writes_insertMandate rfl hcompiled h
  | revokeMandate workspaceId mandateId n =>
    obtain rfl : rows = rows' := by simpa [apply] using h
    exact .refl
  | activatePermissionSet workspaceId p => exact writes_insertPermissionSet (.inl rfl) h
  | createGrant g => exact writes_insertGrant (.inl rfl) h
  | createDelegation d => exact writes_insertDelegation (.inl rfl) h
  | revokeGrant workspaceId id n => exact writes_revokeGrantRow (.inl rfl) h
  | revokeDelegation workspaceId id n => exact writes_revokeDelegationRow (.inl rfl) h
  | registerPrincipal p =>
    simp only [apply, bind_eq_ok, pure_eq_ok] at h
    obtain ⟨principals, h, rfl⟩ := h
    exact .single (.registerPrincipal p principals rfl h)
  | disablePrincipal workspaceId id n =>
    simp only [apply, bind_eq_ok, pure_eq_ok] at h
    obtain ⟨principals, h, rfl⟩ := h
    exact .single (.disablePrincipal workspaceId id n principals rfl h)
  | bindSubject b =>
    simp only [apply, bind_eq_ok, refuse_eq_ok, pure_eq_ok, exists_const, not_not] at h
    obtain ⟨bindings, h, ⟨hprincipal, hreplaced⟩, rfl⟩ := h
    exact .single (.bindSubject b bindings rfl h hprincipal hreplaced)
  | disableBinding workspaceId id n replaced =>
    simp only [apply, bind_eq_ok, refuse_eq_ok, pure_eq_ok, exists_const, not_not] at h
    obtain ⟨bindings, h, hreplaced, rfl⟩ := h
    exact .single (.disableBinding workspaceId id n replaced bindings rfl h hreplaced)
  | retirePermissionSet workspaceId uri version n =>
    simp only [apply, bind_eq_ok, pure_eq_ok] at h
    obtain ⟨sets, h, rfl⟩ := h
    exact .single (.retirePermissionSet workspaceId uri version n sets rfl h)
  | grantEligibility e =>
    simp only [apply, bind_eq_ok, refuse_eq_ok, pure_eq_ok, exists_const, not_not] at h
    obtain ⟨eligibilities, h, hprincipal, rfl⟩ := h
    exact .single (.grantEligibility e eligibilities rfl h hprincipal)
  | revokeEligibility workspaceId id n =>
    simp only [apply, bind_eq_ok, pure_eq_ok] at h
    obtain ⟨eligibilities, h, rfl⟩ := h
    exact .single (.revokeEligibility workspaceId id n eligibilities rfl h)
  | createEnrollment e =>
    simp only [apply, bind_eq_ok, refuse_eq_ok, pure_eq_ok, exists_const] at h
    obtain ⟨-, enrollments, h, rfl⟩ := h
    exact .single (.createEnrollment e enrollments rfl h)
  | revokeEnrollment workspaceId id =>
    simp only [apply, bind_eq_ok, pure_eq_ok] at h
    obtain ⟨enrollments, h, rfl⟩ := h
    exact .single (.revokeEnrollment workspaceId id enrollments rfl h)
  | revokeAccessCredential workspaceId id n =>
    simp only [apply, bind_eq_ok, pure_eq_ok] at h
    obtain ⟨credentials, h, rfl⟩ := h
    exact .single (.revokeAccessCredential workspaceId id n credentials rfl h)

/-- INVARIANT RULE: what every write preserves, the writes of a mutation preserve. -/
theorem Writes.invariant {I : AuthorityRows → Prop} (h : Writes rt m now rows rows')
    (hstep : ∀ rows rows', Write rt m now rows rows' → I rows → I rows') (hrows : I rows) :
    I rows' := by
  induction h with
  | refl => exact hrows
  | tail _ hwrite ih => exact hstep _ _ hwrite ih

end AuthorityRows

/-- STEP: what a public mutation writes is a sequence of single writes. -/
theorem AuthorityStore.Hands.writes {rt : AuthorityRuntime} {s : AuthorityStore} {m m' : Mutation}
    {now : ℕ} {apply : AuthorityRows → AuthorityCall AuthorityRows} {rows rows' : AuthorityRows}
    (h : s.Hands rt m now m' apply) (happly : apply rows = .ok rows') :
    AuthorityRows.Writes rt m' now rows rows' := by
  cases h with
  | direct _ _ _ => exact AuthorityRows.writes_apply happly
  | revokeMandate workspaceId mandateId n before hm _ _ _ =>
    exact AuthorityRows.writes_revokeMandateRows hm happly

end Tasq.Authority
