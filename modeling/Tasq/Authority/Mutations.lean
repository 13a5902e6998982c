import Mathlib.Tactic
import Tasq.Authority.Mandates

/-! The mutations of a workspace: what each checks before its transaction, and what it writes in
    it. Creations insert a record that starts live at revision 1; disabling, retiring and revoking
    update the one record that is live at the expected revision. -/

namespace Tasq.Authority

open Text Outcome Rows

/-- A guarded update that met no row. -/
def revisionConflict (message : String) : AuthorityFailure := .store .revisionConflict message

/-! ### Before the transaction -/

/-- `z.string().url()` -/
def AuthorityRuntime.IsUrl (rt : AuthorityRuntime) (value : String) : Prop := (rt.url value).isSome

instance (rt : AuthorityRuntime) (value : String) : Decidable (rt.IsUrl value) := by
  unfold AuthorityRuntime.IsUrl; infer_instance

/-- `EnrollmentRecordSchema` -/
def AuthorityRuntime.IsEnrollmentRecord (rt : AuthorityRuntime) (e : EnrollmentRecord) : Prop :=
  IsOpaqueId e.id ∧ IsWorkspaceId e.workspaceId ∧ IsOpaqueId e.principalId ∧ rt.IsUrl e.issuer ∧
    IsOpaqueId e.subject ∧ (∀ identity ∈ e.actionUpperBound, rt.IsActionIdentity identity) ∧
    1 ≤ e.actionUpperBound.length ∧ IsUnixMs e.createdAt ∧ IsUnixMs e.expiresAt ∧
    IsUnixMs e.accessExpiresAt ∧ (∀ n ∈ e.consumedAt, IsUnixMs n) ∧ ∀ n ∈ e.revokedAt, IsUnixMs n

instance (rt : AuthorityRuntime) (e : EnrollmentRecord) : Decidable (rt.IsEnrollmentRecord e) := by
  unfold AuthorityRuntime.IsEnrollmentRecord; infer_instance

/-- `exactRegisteredActions` -/
def AuthorityRuntime.exactRegisteredActions (rt : AuthorityRuntime) (value : List ActionIdentity) :
    AuthorityCall (List ActionIdentity) := do
  refuse (¬ ((∀ identity ∈ value, rt.IsActionIdentity identity) ∧ 1 ≤ value.length ∧
    value.length ≤ 32)) (.invalid "ActionIdentity")
  let sorted := value.mergeSort fun a b => rt.localeCompare a.uri b.uri ≠ .gt
  refuse (¬ (sorted.map ActionIdentity.uri).Nodup) (.enrollment .invalidBinding)
  refuse (¬ ∀ identity ∈ sorted, rt.Registered identity) (.enrollment .invalidBinding)
  pure sorted

namespace Mutation

variable (rt : AuthorityRuntime)

/-- The id of a target that a mutation parses before its transaction. -/
def checkId (id : String) : AuthorityCall Unit := refuse (¬ IsOpaqueId id) (.invalid "Id")

/-- What a mutation checks before its transaction; the mutation that goes through it. -/
def prepare : Mutation → AuthorityCall Mutation
  | registerPrincipal principal => do
    refuse (¬ AuthorityRuntime.IsAuthorityPrincipal principal) (.invalid "AuthorityPrincipal")
    refuse (principal.revision ≠ 1 ∨ principal.status ≠ .enabled)
      (revisionConflict "new principals must start enabled at revision 1")
    pure (registerPrincipal principal)
  | bindSubject binding => do
    refuse (¬ rt.IsSubjectBinding binding) (.invalid "SubjectBinding")
    refuse (binding.revision ≠ 1 ∨ binding.status ≠ .enabled ∨ binding.disabledAt ≠ none)
      (revisionConflict "new bindings must start enabled at revision 1")
    pure (bindSubject binding)
  | activatePermissionSet workspaceId permissionSet => do
    refuse (¬ IsWorkspaceId workspaceId) (.invalid "WorkspaceId")
    refuse (¬ rt.IsPermissionSetDefinition permissionSet) (.invalid "PermissionSetDefinition")
    pure (activatePermissionSet workspaceId permissionSet)
  | createGrant grant => do
    refuse (¬ rt.IsAuthorizationGrant grant) (.invalid "AuthorizationGrant")
    refuse (grant.revision ≠ 1 ∨ grant.status ≠ .active)
      (revisionConflict "new grants must start active at revision 1")
    pure (createGrant grant)
  | createDelegation delegation => do
    refuse (¬ rt.IsDelegation delegation) (.invalid "Delegation")
    refuse (delegation.revision ≠ 1 ∨ delegation.status ≠ .active)
      (revisionConflict "new delegations must start active at revision 1")
    pure (createDelegation delegation)
  | grantEligibility eligibility => do
    refuse (¬ AuthorityRuntime.IsAuthorityEligibility eligibility)
      (.invalid "AuthorityEligibility")
    refuse (eligibility.revision ≠ 1 ∨ eligibility.status ≠ .active)
      (revisionConflict "new eligibility must start active at revision 1")
    pure (grantEligibility eligibility)
  | createEnrollment input => do
    let actionUpperBound ← rt.exactRegisteredActions input.actionUpperBound
    let enrollment := { input with actionUpperBound, consumedAt := none, revokedAt := none }
    refuse (¬ rt.IsEnrollmentRecord enrollment) (.invalid "EnrollmentRecord")
    refuse (enrollment.expiresAt ≤ enrollment.createdAt ∨
      enrollment.accessExpiresAt ≤ enrollment.createdAt) (.enrollment .expired)
    pure (createEnrollment enrollment)
  | issueMandate intent => do
    let _ ← rt.compileMandate intent
    pure (issueMandate intent)
  | m@(disablePrincipal _ id _) => do checkId id; pure m
  | m@(disableBinding _ id _ _) => do checkId id; pure m
  | m@(revokeGrant _ id _) => do checkId id; pure m
  | m@(revokeDelegation _ id _) => do checkId id; pure m
  | m@(revokeEligibility _ id _) => do checkId id; pure m
  | m@(revokeEnrollment _ id) => do checkId id; pure m
  | m@(revokeAccessCredential _ id _) => do checkId id; pure m
  | m => pure m

end Mutation

/-! ### In the transaction -/

namespace AuthorityRows

variable (rt : AuthorityRuntime) (rows : AuthorityRows)

/-- The principal exists, as a foreign key requires. -/
def HasPrincipal (workspaceId id : String) : Prop :=
  ∃ p ∈ rows.principals, p.workspaceId = workspaceId ∧ p.id = id

instance (workspaceId id : String) : Decidable (rows.HasPrincipal workspaceId id) := by
  unfold HasPrincipal; infer_instance

/-- The binding exists, as a foreign key requires. -/
def HasBinding (workspaceId id : String) : Prop :=
  ∃ b ∈ rows.bindings, b.workspaceId = workspaceId ∧ b.id = id

instance (workspaceId id : String) : Decidable (rows.HasBinding workspaceId id) := by
  unfold HasBinding; infer_instance

/-- `INSERT INTO permission_set` -/
def insertPermissionSet (workspaceId : String) (permissionSet : PermissionSetDefinition) :
    AuthorityCall AuthorityRows := do
  let permissionSets ← insertRow rows.permissionSets
    (fun p => p.workspaceId = workspaceId ∧ p.definition.uri = permissionSet.uri ∧
      p.definition.version = permissionSet.version)
    ⟨workspaceId, permissionSet, .active, 1⟩ alreadyExists
  pure { rows with permissionSets }

/-- `INSERT INTO authorization_grant` -/
def insertGrant (grant : AuthorizationGrant) : AuthorityCall AuthorityRows := do
  let grants ← insertRow rows.grants
    (fun g => g.workspaceId = grant.workspaceId ∧ g.id = grant.id) grant alreadyExists
  refuse (¬ (rows.HasPrincipal grant.workspaceId grant.grantorPrincipalId ∧
    rows.HasPrincipal grant.workspaceId grant.granteePrincipalId ∧
    ∃ p ∈ rows.permissionSets, p.workspaceId = grant.workspaceId ∧
      p.definition.uri = grant.permissionSet.uri ∧
      p.definition.version = grant.permissionSet.version ∧
      p.definition.implementationDigest = grant.permissionSet.implementationDigest))
    missingReference
  pure { rows with grants }

/-- `INSERT INTO authority_delegation` -/
def insertDelegation (delegation : Delegation) : AuthorityCall AuthorityRows := do
  let delegations ← insertRow rows.delegations
    (fun d => d.workspaceId = delegation.workspaceId ∧ d.id = delegation.id) delegation
    alreadyExists
  refuse (¬ (rows.HasPrincipal delegation.workspaceId delegation.subjectPrincipalId ∧
    rows.HasPrincipal delegation.workspaceId delegation.actorPrincipalId)) missingReference
  pure { rows with delegations }

/-- The update of a lifetime that revokes it. -/
def revoked (value : Lifetime) : Lifetime :=
  { value with status := .revoked, revision := value.revision + 1 }

/-- `UPDATE authorization_grant SET status = 'revoked'`, guarded by the revision. -/
def revokeGrantRow (workspaceId id : String) (expected : ℕ) (message : String) :
    AuthorityCall AuthorityRows := do
  let grants ← updateRow rows.grants
    (fun g => g.workspaceId = workspaceId ∧ g.id = id ∧ g.status = .active ∧ g.revision = expected)
    (fun g => { g with toLifetime := revoked g.toLifetime }) (revisionConflict message)
  pure { rows with grants }

/-- `UPDATE authority_delegation SET status = 'revoked'`, guarded by the revision. -/
def revokeDelegationRow (workspaceId id : String) (expected : ℕ) (message : String) :
    AuthorityCall AuthorityRows := do
  let delegations ← updateRow rows.delegations
    (fun d => d.workspaceId = workspaceId ∧ d.id = id ∧ d.status = .active ∧ d.revision = expected)
    (fun d => { d with toLifetime := revoked d.toLifetime }) (revisionConflict message)
  pure { rows with delegations }

/-- The records of a compiled mandate, one after another. -/
def insertMandate (compiled : CompiledMandate) : AuthorityCall AuthorityRows := do
  let rows ← rows.insertPermissionSet compiled.intent.workspaceId compiled.permissionSet
  let rows ← rows.insertGrant compiled.subjectGrant
  let rows ← compiled.actorGrant.elim (pure rows) rows.insertGrant
  compiled.delegation.elim (pure rows) rows.insertDelegation

/-- The records of a mandate, revoked one after another. -/
def revokeMandateRows (workspaceId : String) (ids : MandateRecordIds)
    (actorGrant delegation : Bool) (expected : ℕ) : AuthorityCall AuthorityRows := do
  let rows ← rows.revokeGrantRow workspaceId ids.subjectGrantId expected "mandate revision changed"
  let rows ← if actorGrant then
      rows.revokeGrantRow workspaceId ids.actorGrantId expected "mandate revision changed"
    else pure rows
  if delegation then
    rows.revokeDelegationRow workspaceId ids.delegationId expected "mandate revision changed"
  else pure rows

/-- What a mutation writes, at the reading `now` of the clock. A mandate is revoked by
    `revokeMandateRows`, which needs its view. -/
def apply (m : Mutation) (now : ℕ) : AuthorityCall AuthorityRows :=
  match m with
  | .registerPrincipal principal => do
    let principals ← insertRow rows.principals
      (fun p => p.workspaceId = principal.workspaceId ∧ p.id = principal.id) principal alreadyExists
    pure { rows with principals }
  | .disablePrincipal workspaceId principalId expected => do
    let principals ← updateRow rows.principals
      (fun p => p.workspaceId = workspaceId ∧ p.id = principalId ∧ p.status = .enabled ∧
        p.revision = expected)
      (fun p => { p with status := .disabled, revision := p.revision + 1 })
      (revisionConflict "principal revision changed")
    pure { rows with principals }
  | .bindSubject binding => do
    let bindings ← insertRow rows.bindings
      (fun b => b.workspaceId = binding.workspaceId ∧
        (b.id = binding.id ∨ b.issuer = binding.issuer ∧ b.subject = binding.subject))
      binding alreadyExists
    refuse (¬ (rows.HasPrincipal binding.workspaceId binding.principalId ∧
      ∀ id ∈ binding.replacedByBindingId, rows.HasBinding binding.workspaceId id)) missingReference
    pure { rows with bindings }
  | .disableBinding workspaceId bindingId expected replacedByBindingId => do
    let bindings ← updateRow rows.bindings
      (fun b => b.workspaceId = workspaceId ∧ b.id = bindingId ∧ b.status = .enabled ∧
        b.revision = expected)
      (fun b => { b with status := .disabled, revision := b.revision + 1, disabledAt := some now
                         replacedByBindingId })
      (revisionConflict "binding revision changed")
    refuse (¬ ∀ id ∈ replacedByBindingId, rows.HasBinding workspaceId id) missingReference
    pure { rows with bindings }
  | .activatePermissionSet workspaceId permissionSet =>
    rows.insertPermissionSet workspaceId permissionSet
  | .retirePermissionSet workspaceId uri version expected => do
    let permissionSets ← updateRow rows.permissionSets
      (fun p => p.workspaceId = workspaceId ∧ p.definition.uri = uri ∧
        p.definition.version = version ∧ p.status = .active ∧ p.revision = expected)
      (fun p => { p with status := .retired, revision := p.revision + 1 })
      (revisionConflict "permission set revision changed")
    pure { rows with permissionSets }
  | .createGrant grant => rows.insertGrant grant
  | .revokeGrant workspaceId grantId expected =>
    rows.revokeGrantRow workspaceId grantId expected "grant revision changed"
  | .createDelegation delegation => rows.insertDelegation delegation
  | .revokeDelegation workspaceId delegationId expected =>
    rows.revokeDelegationRow workspaceId delegationId expected "delegation revision changed"
  | .grantEligibility eligibility => do
    let eligibilities ← insertRow rows.eligibilities
      (fun e => e.workspaceId = eligibility.workspaceId ∧
        (e.id = eligibility.id ∨
          e.principalId = eligibility.principalId ∧ e.kind = eligibility.kind))
      eligibility alreadyExists
    refuse (¬ rows.HasPrincipal eligibility.workspaceId eligibility.principalId) missingReference
    pure { rows with eligibilities }
  | .revokeEligibility workspaceId eligibilityId expected => do
    let eligibilities ← updateRow rows.eligibilities
      (fun e => e.workspaceId = workspaceId ∧ e.id = eligibilityId ∧ e.status = .active ∧
        e.revision = expected)
      (fun e => { e with toLifetime := revoked e.toLifetime })
      (revisionConflict "eligibility revision changed")
    pure { rows with eligibilities }
  | .createEnrollment enrollment => do
    let bound := rows.bindings.filter fun b => b.workspaceId = enrollment.workspaceId ∧
      b.principalId = enrollment.principalId ∧ b.issuer = enrollment.issuer ∧
      b.subject = enrollment.subject ∧ b.status = .enabled ∧
      ∃ p ∈ rows.principals, p.workspaceId = b.workspaceId ∧ p.id = b.principalId ∧
        p.status = .enabled
    refuse (bound.length ≠ 1) (.enrollment .invalidBinding)
    let enrollments ← insertRow rows.enrollments
      (fun e => e.id = enrollment.id ∨ e.tokenDigest = enrollment.tokenDigest) enrollment
      alreadyExists
    pure { rows with enrollments }
  | .revokeEnrollment workspaceId enrollmentId => do
    let enrollments ← updateRow rows.enrollments
      (fun e => e.workspaceId = workspaceId ∧ e.id = enrollmentId ∧ e.consumedAt = none ∧
        e.revokedAt = none)
      (fun e => { e with revokedAt := some now }) (.enrollment .consumed)
    pure { rows with enrollments }
  | .revokeAccessCredential workspaceId credentialId expected => do
    let credentials ← updateRow rows.credentials
      (fun c => c.workspaceId = workspaceId ∧ c.id = credentialId ∧ c.status = .active ∧
        c.revision = expected)
      (fun c => { c with status := .revoked, revision := c.revision + 1, revokedAt := some now })
      (.enrollment .revoked)
    pure { rows with credentials }
  | .issueMandate intent => do
    let compiled ← rt.compileMandate intent
    rows.insertMandate compiled
  | .revokeMandate .. => pure rows

end AuthorityRows

/-! ### The calls -/

namespace AuthorityStore

variable (rt : AuthorityRuntime) (s : AuthorityStore)

/-- A mutation other than the revocation of a mandate: `registerPrincipal`, `disablePrincipal`,
    `bindSubject` and so on. -/
def mutate (m : Mutation) (context : AuthorityMutationContext) (now : ℕ) :
    AuthorityCall (AuthorityStore × AuthorityMutationResult) := do
  let m ← m.prepare rt
  s.workspaceMutation rt m context now fun rows => rows.apply rt m now

/-- `issueMandate`; the view is read after the transaction. -/
def issueMandate (intent : MandateIntent) (context : AuthorityMutationContext) (now : ℕ) :
    AuthorityCall (AuthorityStore × AuthorityMutationResult × AuthorityCall MandateView) := do
  let _ ← rt.compileMandate intent
  refuse (context.actorPrincipalId ≠ some intent.grantorPrincipalId)
    (revisionConflict "authenticated mutation actor must be the mandate grantor")
  let (s, result) ← s.mutate rt (.issueMandate intent) context now
  pure (s, result, s.inspectMandate rt intent.workspaceId intent.id)

/-- `revokeMandate`; the view is read before the transaction and again after it. -/
def revokeMandate (workspaceId mandateId : String) (expectedMandateRevision : ℕ)
    (context : AuthorityMutationContext) (now : ℕ) :
    AuthorityCall (AuthorityStore × AuthorityMutationResult × AuthorityCall MandateView) := do
  let before ← s.inspectMandate rt workspaceId mandateId
  refuse (context.actorPrincipalId ≠ some before.intent.grantorPrincipalId)
    (revisionConflict "authenticated mutation actor must be the mandate grantor")
  refuse (before.revision ≠ expectedMandateRevision ∨ before.status ≠ .active)
    (revisionConflict "mandate revision changed")
  let (s, result) ← s.workspaceMutation rt
    (.revokeMandate workspaceId mandateId expectedMandateRevision) context now fun rows =>
      rows.revokeMandateRows workspaceId (rt.mandateRecordIds workspaceId mandateId)
        before.actorGrantId.isSome before.delegationId.isSome expectedMandateRevision
  pure (s, result, s.inspectMandate rt workspaceId mandateId)

end AuthorityStore

end Tasq.Authority
