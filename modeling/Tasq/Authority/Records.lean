import Mathlib.Tactic
import Tasq.Authority.Schema

/-! The documents of the authority store: mutation contexts and results, the mutations of a
    workspace, mandate intents, enrollments, access credentials, and the input of a workspace
    authorization. -/

namespace Tasq.Authority

/-- `AuthorityMutationContext` -/
structure AuthorityMutationContext where
  operationId : String
  actorPrincipalId : Option String
  reason : String
  expectedAuthorityRevision : Option ℕ
  deriving DecidableEq, Repr

/-- `AuthorityMutationResult` -/
structure AuthorityMutationResult where
  operationId : String
  workspaceId : Option String
  operation : String
  targetType : String
  targetId : String
  authorityRevision : Option ℕ
  occurredAt : ℕ
  replayed : Bool
  deriving DecidableEq, Repr

/-- `WorkspaceAuthorizationInput` -/
structure WorkspaceAuthorizationInput where
  requestId : String
  workspaceId : String
  serviceAudience : String
  action : ActionIdentity
  resource : ResourceRef
  identity : VerifiedIdentity
  deriving DecidableEq

/-! ### Enrollments -/

inductive ClientKind where
  | humanDevice | workloadAgent
  deriving DecidableEq, Repr

/-- `EnrollmentRecord` -/
structure EnrollmentRecord where
  id : String
  workspaceId : String
  principalId : String
  issuer : String
  subject : String
  clientKind : ClientKind
  tokenDigest : Digest
  actionUpperBound : List ActionIdentity
  createdAt : ℕ
  expiresAt : ℕ
  accessExpiresAt : ℕ
  consumedAt : Option ℕ
  revokedAt : Option ℕ
  deriving DecidableEq

/-- `AccessCredentialRecord` -/
structure AccessCredentialRecord where
  id : String
  enrollmentId : String
  workspaceId : String
  principalId : String
  issuer : String
  subject : String
  clientKind : ClientKind
  tokenDigest : Digest
  actionUpperBound : List ActionIdentity
  issuedAt : ℕ
  expiresAt : ℕ
  status : RecordStatus
  revision : ℕ
  revokedAt : Option ℕ
  deriving DecidableEq

/-! ### Mandates -/

/-- `MandateIntent`. The only admissible constraints are `null`. -/
structure MandateIntent where
  id : String
  workspaceId : String
  grantorPrincipalId : String
  subjectPrincipalId : String
  actorPrincipalId : Option String
  actions : List ActionIdentity
  target : GrantScope
  notBefore : Option ℕ
  expiresAt : Option ℕ
  maxOperations : Option ℕ
  budget : Option ℕ
  deriving DecidableEq

/-- `MandateView`, with the ids of the records it is compiled to. -/
structure MandateView where
  intent : MandateIntent
  status : RecordStatus
  revision : ℕ
  authorityRevision : ℕ
  permissionUri : String
  subjectGrantId : String
  actorGrantId : Option String
  delegationId : Option String
  deriving DecidableEq

/-! ### Mutations -/

/-- A mutation of a workspace: the operation with its target and its request. -/
inductive Mutation where
  | registerPrincipal (principal : AuthorityPrincipal)
  | disablePrincipal (workspaceId principalId : String) (expectedPrincipalRevision : ℕ)
  | bindSubject (binding : SubjectBinding)
  | disableBinding (workspaceId bindingId : String) (expectedBindingRevision : ℕ)
      (replacedByBindingId : Option String)
  | activatePermissionSet (workspaceId : String) (permissionSet : PermissionSetDefinition)
  | retirePermissionSet (workspaceId uri : String) (version expectedPermissionRevision : ℕ)
  | createGrant (grant : AuthorizationGrant)
  | revokeGrant (workspaceId grantId : String) (expectedGrantRevision : ℕ)
  | createDelegation (delegation : Delegation)
  | revokeDelegation (workspaceId delegationId : String) (expectedDelegationRevision : ℕ)
  | grantEligibility (eligibility : AuthorityEligibility)
  | revokeEligibility (workspaceId eligibilityId : String) (expectedEligibilityRevision : ℕ)
  | createEnrollment (enrollment : EnrollmentRecord)
  | revokeEnrollment (workspaceId enrollmentId : String)
  | revokeAccessCredential (workspaceId credentialId : String) (expectedCredentialRevision : ℕ)
  | issueMandate (intent : MandateIntent)
  | revokeMandate (workspaceId mandateId : String) (expectedMandateRevision : ℕ)
  deriving DecidableEq

namespace Mutation

/-- `workspaceId` -/
def workspaceId : Mutation → String
  | registerPrincipal principal => principal.workspaceId
  | disablePrincipal workspaceId _ _ => workspaceId
  | bindSubject binding => binding.workspaceId
  | disableBinding workspaceId _ _ _ => workspaceId
  | activatePermissionSet workspaceId _ => workspaceId
  | retirePermissionSet workspaceId _ _ _ => workspaceId
  | createGrant grant => grant.workspaceId
  | revokeGrant workspaceId _ _ => workspaceId
  | createDelegation delegation => delegation.workspaceId
  | revokeDelegation workspaceId _ _ => workspaceId
  | grantEligibility eligibility => eligibility.workspaceId
  | revokeEligibility workspaceId _ _ => workspaceId
  | createEnrollment enrollment => enrollment.workspaceId
  | revokeEnrollment workspaceId _ => workspaceId
  | revokeAccessCredential workspaceId _ _ => workspaceId
  | issueMandate intent => intent.workspaceId
  | revokeMandate workspaceId _ _ => workspaceId

/-- `operation` -/
def operation : Mutation → String
  | registerPrincipal _ => "principal.register"
  | disablePrincipal .. => "principal.disable"
  | bindSubject _ => "subject_binding.create"
  | disableBinding .. => "subject_binding.disable"
  | activatePermissionSet .. => "permission_set.activate"
  | retirePermissionSet .. => "permission_set.retire"
  | createGrant _ => "grant.create"
  | revokeGrant .. => "grant.revoke"
  | createDelegation _ => "delegation.create"
  | revokeDelegation .. => "delegation.revoke"
  | grantEligibility _ => "eligibility.grant"
  | revokeEligibility .. => "eligibility.revoke"
  | createEnrollment _ => "enrollment.create"
  | revokeEnrollment .. => "enrollment.revoke"
  | revokeAccessCredential .. => "access_credential.revoke"
  | issueMandate _ => "mandate.issue"
  | revokeMandate .. => "mandate.revoke"

/-- `targetType` -/
def targetType : Mutation → String
  | registerPrincipal _ | disablePrincipal .. => "principal"
  | bindSubject _ | disableBinding .. => "subject_binding"
  | activatePermissionSet .. | retirePermissionSet .. => "permission_set"
  | createGrant _ | revokeGrant .. => "grant"
  | createDelegation _ | revokeDelegation .. => "delegation"
  | grantEligibility _ | revokeEligibility .. => "eligibility"
  | createEnrollment _ | revokeEnrollment .. => "enrollment"
  | revokeAccessCredential .. => "access_credential"
  | issueMandate _ | revokeMandate .. => "mandate_projection"

/-- `targetId` -/
def targetId : Mutation → String
  | registerPrincipal principal => principal.id
  | disablePrincipal _ principalId _ => principalId
  | bindSubject binding => binding.id
  | disableBinding _ bindingId _ _ => bindingId
  | activatePermissionSet _ permissionSet => s!"{permissionSet.uri}#{permissionSet.version}"
  | retirePermissionSet _ uri version _ => s!"{uri}#{version}"
  | createGrant grant => grant.id
  | revokeGrant _ grantId _ => grantId
  | createDelegation delegation => delegation.id
  | revokeDelegation _ delegationId _ => delegationId
  | grantEligibility eligibility => eligibility.id
  | revokeEligibility _ eligibilityId _ => eligibilityId
  | createEnrollment enrollment => enrollment.id
  | revokeEnrollment _ enrollmentId => enrollmentId
  | revokeAccessCredential _ credentialId _ => credentialId
  | issueMandate intent => intent.id
  | revokeMandate _ mandateId _ => mandateId

end Mutation

/-! ### Failures -/

/-- The codes of `AuthorityStoreError`. -/
inductive AuthorityStoreCode where
  | notFound | alreadyExists | revisionConflict | idempotencyConflict | workspaceDisabled
  | authorityCorrupt
  deriving DecidableEq, Repr

/-- The codes of `EnrollmentStoreError`. -/
inductive EnrollmentStoreCode where
  | notFound | expired | consumed | revoked | invalidBinding
  deriving DecidableEq, Repr

/-- `MandateCompileDenial` -/
inductive MandateCompileDenial where
  | unknownAction | actionIdentityMismatch | actionTargetMismatch | genericUsageLimitUnsupported
  | genericBudgetUnsupported | remoteEffectDispatchDisabled
  deriving DecidableEq, Repr

/-- What a refused authority call throws. -/
inductive AuthorityFailure where
  /-- `new AuthorityStoreError(code, message)` -/
  | store (code : AuthorityStoreCode) (message : String)
  /-- `new EnrollmentStoreError(code)` -/
  | enrollment (code : EnrollmentStoreCode)
  /-- `new MandateCompileError(code, message)` -/
  | mandate (code : MandateCompileDenial) (message : String)
  /-- `new CredentialVerificationError("invalid_token")` -/
  | invalidToken
  /-- `new Error(message)` -/
  | error (message : String)
  /-- A value that the named schema does not admit. -/
  | invalid (schema : String)
  /-- A row that a constraint or a trigger of the database does not admit. -/
  | constraint (name : String)
  deriving DecidableEq, Repr

/-- An authority call: the answer, or a refusal that changes nothing. -/
abbrev AuthorityCall (σ : Type) := Except AuthorityFailure σ

end Tasq.Authority
