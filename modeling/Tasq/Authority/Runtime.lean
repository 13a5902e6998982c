import Mathlib.Tactic
import Tasq.Authority.Records
import Tasq.Lib.Outcome

/-! What hosted authority takes from the platform, the action registry, and what the schemas admit.

    The platform gives the digest function, the text of a digest, the URL parser, the collation of
    `localeCompare` and the keyed digest of a secret. Digests stand for their texts, so the schema
    of digest texts has nothing to check. -/

namespace Tasq.Authority

open Text Outcome

/-- What `digestAuthorityValue` is taken of. -/
inductive AuthorityValue where
  | action (uri : String) (version : ℕ) (resourceKinds : List ResourceKind)
      (senderConstraint : SenderConstraint) (eligibility : Option EligibilityKind)
  | policy (actions : List ActionDefinition)
  | permissionSet (uri : String) (version : ℕ) (actions : List ActionIdentity)
  | request (request : AuthorizationRequest)
  | decision (policyImplementationDigest requestDigest : Digest) (evaluatedAt : ℕ)
      (decision : Verdict) (reasonCode : AuthorizationReason) (grantIds : List String)
      (permissionSetDigests : List Digest)
  | hostTenant (id : String) (context : AuthorityMutationContext)
  | workspace (workspaceId hostTenantId storageBindingId : String)
      (context : AuthorityMutationContext)
  | mutation (mutation : Mutation) (context : AuthorityMutationContext)
  | envelope (input : WorkspaceAuthorizationInput)
  | redemption (enrollmentId credentialId : String) (credentialTokenDigest : Digest)
      (credentialExpiresAt : ℕ)
  | mandate (workspaceId mandateId : String)
  | grant (grant : AuthorizationGrant)
  | delegation (delegation : Delegation)
  | issuerConfiguration (issuer audience : String)
  | credentialKey
  deriving DecidableEq

/-- What `new URL(text)` reads. -/
structure Url where
  href : String
  username : String
  password : String
  protocol : String
  search : String
  hash : String
  deriving DecidableEq, Repr

/-- The platform under hosted authority. -/
structure AuthorityRuntime where
  /-- `sha256` of the canonical text of a value. -/
  digest : AuthorityValue → Digest
  /-- The hex digits of a digest. -/
  hex : Digest → String
  /-- `new URL(text)`, when it does not throw. -/
  url : String → Option Url
  /-- `a.localeCompare(b)` -/
  localeCompare : String → String → Ordering
  /-- `secretDigest` under the pepper of the host. -/
  secretDigest : String → Digest

/-- No two values share a digest, and no two digests a text. -/
structure AuthorityRuntime.CollisionFree (rt : AuthorityRuntime) : Prop where
  digest : Function.Injective rt.digest
  hex : Function.Injective rt.hex

/-! ### Safe numbers -/

/-- The numbers of an identity that its schema leaves unbounded. -/
def VerifiedIdentity.numbers (identity : VerifiedIdentity) : List ℕ :=
  identity.authenticatedAt :: identity.expiresAt ::
    (identity.notBefore.toList ++ identity.actionUpperBound.map ActionIdentity.version)

/-- The numbers of a mutation that no schema bounds before the digest is taken. -/
def Mutation.numbers : Mutation → List ℕ
  | registerPrincipal _ | bindSubject _ | grantEligibility _ | revokeEnrollment .. => []
  | disablePrincipal _ _ n | disableBinding _ _ n _ | revokeGrant _ _ n | revokeDelegation _ _ n
  | revokeEligibility _ _ n | revokeAccessCredential _ _ n | revokeMandate _ _ n => [n]
  | activatePermissionSet _ permissionSet =>
    permissionSet.version :: permissionSet.actions.map ActionIdentity.version
  | retirePermissionSet _ _ version n => [version, n]
  | createGrant grant => [grant.permissionSet.version]
  | createDelegation delegation => delegation.actions.map ActionIdentity.version
  | createEnrollment enrollment => enrollment.actionUpperBound.map ActionIdentity.version
  | issueMandate intent => intent.actions.map ActionIdentity.version

/-- The numbers of a value that no schema bounds before its digest is taken. -/
def AuthorityValue.numbers : AuthorityValue → List ℕ
  | permissionSet _ version actions => version :: actions.map ActionIdentity.version
  | request r => r.action.version ::
      (r.permissionSets.flatMap fun p => p.version :: p.actions.map ActionIdentity.version) ++
      (r.subjectGrants ++ r.actorGrants).map fun g => g.permissionSet.version
  | hostTenant _ context | workspace _ _ _ context => context.expectedAuthorityRevision.toList
  | mutation m context => m.numbers ++ context.expectedAuthorityRevision.toList
  | envelope input => input.action.version :: input.identity.numbers
  | grant g => [g.permissionSet.version]
  | _ => []

/-- `canonical` accepts the numbers of the value. -/
def AuthorityValue.Safe (value : AuthorityValue) : Prop :=
  ∀ n ∈ value.numbers, n ≤ Json.maxSafeInteger

instance (value : AuthorityValue) : Decidable value.Safe := by
  unfold AuthorityValue.Safe; infer_instance

namespace AuthorityRuntime

variable (rt : AuthorityRuntime)

/-- `digestAuthorityValue` -/
def digestAuthorityValue (value : AuthorityValue) : AuthorityCall Digest := do
  refuse (¬ value.Safe) (.error "authority canonical JSON accepts safe integers only")
  pure (rt.digest value)

theorem digestAuthorityValue_eq_ok (value : AuthorityValue) (d : Digest) :
    rt.digestAuthorityValue value = .ok d ↔ value.Safe ∧ rt.digest value = d := by
  simp [digestAuthorityValue, map_eq_ok]

/-! ### URIs -/

/-- `absoluteUri` -/
def absoluteUri (value : String) : Prop :=
  '*' ∉ value.toList ∧ ∃ u ∈ rt.url value, u.href = value ∧ u.username = "" ∧ u.password = ""

instance (value : String) : Decidable (rt.absoluteUri value) := by
  unfold absoluteUri; infer_instance

/-- `AbsoluteUri` -/
def IsAbsoluteUri (value : String) : Prop :=
  1 ≤ utf16Length value ∧ utf16Length value ≤ 500 ∧ rt.absoluteUri value

instance (value : String) : Decidable (rt.IsAbsoluteUri value) := by
  unfold IsAbsoluteUri; infer_instance

/-- `HttpsIssuer` -/
def IsHttpsIssuer (value : String) : Prop :=
  rt.IsAbsoluteUri value ∧ ∃ u ∈ rt.url value, u.protocol = "https:" ∧ u.search = "" ∧ u.hash = ""

instance (value : String) : Decidable (rt.IsHttpsIssuer value) := by
  unfold IsHttpsIssuer; infer_instance

/-! ### The action registry -/

/-- `rawActions` -/
def rawActions : List (String × List ResourceKind × SenderConstraint × Option EligibilityKind) :=
  [("workspace.read", [.workspace], .none, none),
   ("workspace.admin", [.workspace], .required, none),
   ("commitment.read", [.commitment], .none, none),
   ("commitment.propose", [.workspace], .none, none),
   ("commitment.mutate", [.commitment], .none, none),
   ("claim.coordinate", [.commitment], .none, none),
   ("attempt.execute", [.commitment], .none, none),
   ("evidence.append", [.commitment], .none, none),
   ("resolution.trust", [.commitment], .none, none),
   ("resolution.propose", [.commitment], .none, none),
   ("resolution.decide", [.commitment], .none, none),
   ("credential.manage", [.workspace], .required, none),
   ("statement.accept", [.workspace], .none, none),
   ("resource.coordinate", [.resource], .none, none),
   ("collaboration.assign", [.commitment], .none, none),
   ("effect.propose", [.effect], .none, none),
   ("effect.approval.record", [.effect], .required, some .effectApprover),
   ("effect.dispatch", [.effect], .required, some .effectConnector),
   ("replication.enroll", [.workspace, .replica], .required, none),
   ("replication.push", [.replica], .required, none),
   ("replication.pull", [.replica], .none, none)]

/-- `actionDefinition` -/
def actionDefinition
    (entry : String × List ResourceKind × SenderConstraint × Option EligibilityKind) :
    ActionDefinition where
  uri := "urn:tasq:action:" ++ entry.1
  version := 1
  implementationDigest := rt.digest
    (.action ("urn:tasq:action:" ++ entry.1) 1 entry.2.1 entry.2.2.1 entry.2.2.2)
  resourceKinds := entry.2.1
  senderConstraint := entry.2.2.1
  eligibility := entry.2.2.2

/-- `ACTION_REGISTRY` -/
def actionRegistry : List ActionDefinition := rawActions.map rt.actionDefinition

/-- `getRegisteredAction` -/
def getRegisteredAction (uri : String) : Option ActionDefinition :=
  rt.actionRegistry.find? (·.uri = uri)

/-- `AUTHORIZATION_POLICY_IMPLEMENTATION_DIGEST` -/
def policyImplementationDigest : Digest := rt.digest (.policy rt.actionRegistry)

/-- The identity is that of a registered action. -/
def Registered (identity : ActionIdentity) : Prop :=
  ∃ definition ∈ rt.getRegisteredAction identity.uri, exactAction identity definition

instance (identity : ActionIdentity) : Decidable (rt.Registered identity) := by
  unfold Registered; infer_instance

theorem getRegisteredAction_uri {uri : String} {definition : ActionDefinition}
    (h : rt.getRegisteredAction uri = some definition) : definition.uri = uri := by
  simpa using List.find?_some h

/-- Every registered action has version 1. -/
theorem getRegisteredAction_version {uri : String} {definition : ActionDefinition}
    (h : rt.getRegisteredAction uri = some definition) : definition.version = 1 := by
  obtain ⟨entry, -, rfl⟩ := List.mem_map.1 (List.mem_of_find?_eq_some h)
  rfl

theorem Registered.version {identity : ActionIdentity} (h : rt.Registered identity) :
    identity.version = 1 := by
  obtain ⟨definition, hget, hexact⟩ := h
  rw [hexact.2.1, rt.getRegisteredAction_version hget]

/-! ### What the schemas admit -/

/-- `ActionIdentity` -/
def IsActionIdentity (identity : ActionIdentity) : Prop :=
  rt.IsAbsoluteUri identity.uri ∧ 1 ≤ identity.version

instance (identity : ActionIdentity) : Decidable (rt.IsActionIdentity identity) := by
  unfold IsActionIdentity; infer_instance

/-- A list of exact registered action identities, sorted and unique. -/
def ExactActions (actions : List ActionIdentity) : Prop :=
  (∀ identity ∈ actions, rt.IsActionIdentity identity) ∧
    SortedUnique (actions.map ActionIdentity.uri) ∧ ∀ identity ∈ actions, rt.Registered identity

instance (actions : List ActionIdentity) : Decidable (rt.ExactActions actions) := by
  unfold ExactActions; infer_instance

/-- `CredentialBinding` -/
def IsCredentialBinding : CredentialBinding → Prop
  | .none => True
  | .dpop _ => True
  | .mtlsSpiffe identityUri _ => rt.IsAbsoluteUri identityUri

instance (binding : CredentialBinding) : Decidable (rt.IsCredentialBinding binding) := by
  cases binding <;> unfold IsCredentialBinding <;> infer_instance

/-- A binding that a SPIFFE identity may have. -/
def IsSpiffeBinding : CredentialBinding → Prop
  | .mtlsSpiffe .. => True
  | _ => False

instance (binding : CredentialBinding) : Decidable (IsSpiffeBinding binding) := by
  cases binding <;> unfold IsSpiffeBinding <;> infer_instance

/-- `ActorSubject` -/
def IsActorSubject (actor : ActorSubject) : Prop :=
  rt.IsHttpsIssuer actor.issuer ∧ IsOpaqueId actor.subject

instance (actor : ActorSubject) : Decidable (rt.IsActorSubject actor) := by
  unfold IsActorSubject; infer_instance

/-- `VerifiedIdentity` -/
def IsVerifiedIdentity (identity : VerifiedIdentity) : Prop :=
  rt.IsHttpsIssuer identity.issuer ∧ IsOpaqueId identity.subject ∧
    (∀ audience ∈ identity.audience, rt.IsAbsoluteUri audience) ∧
    1 ≤ identity.audience.length ∧ identity.audience.length ≤ 16 ∧
    IsUnixMs identity.authenticatedAt ∧ (∀ n ∈ identity.notBefore, IsUnixMs n) ∧
    IsUnixMs identity.expiresAt ∧ (∀ id ∈ identity.clientId, IsOpaqueId id) ∧
    (∀ actor ∈ identity.actor, rt.IsActorSubject actor) ∧
    rt.IsCredentialBinding identity.credentialBinding ∧
    identity.actionUpperBound.length ≤ rt.actionRegistry.length ∧
    SortedUnique identity.audience ∧ rt.ExactActions identity.actionUpperBound ∧
    (∀ n ∈ identity.notBefore, n ≤ identity.authenticatedAt) ∧
    identity.authenticatedAt < identity.expiresAt ∧
    (identity.authenticationMethod = .spiffeSvid → IsSpiffeBinding identity.credentialBinding)

instance (identity : VerifiedIdentity) : Decidable (rt.IsVerifiedIdentity identity) := by
  unfold IsVerifiedIdentity; infer_instance

/-- `SubjectBinding` -/
def IsSubjectBinding (binding : SubjectBinding) : Prop :=
  IsOpaqueId binding.id ∧ IsWorkspaceId binding.workspaceId ∧ IsOpaqueId binding.principalId ∧
    rt.IsHttpsIssuer binding.issuer ∧ IsOpaqueId binding.subject ∧
    (binding.method ∈ ["oidc", "oauth_introspection", "spiffe"] ∨
      rt.IsAbsoluteUri binding.method) ∧
    IsRevision binding.revision ∧ IsUnixMs binding.createdAt ∧
    (∀ n ∈ binding.disabledAt, IsUnixMs n) ∧
    (∀ id ∈ binding.replacedByBindingId, IsOpaqueId id) ∧
    (binding.status = .enabled ↔ binding.disabledAt = none) ∧
    (∀ n ∈ binding.disabledAt, binding.createdAt ≤ n) ∧
    binding.replacedByBindingId ≠ some binding.id

instance (binding : SubjectBinding) : Decidable (rt.IsSubjectBinding binding) := by
  unfold IsSubjectBinding; infer_instance

/-- `AuthorityPrincipal` -/
def IsAuthorityPrincipal (principal : AuthorityPrincipal) : Prop :=
  IsOpaqueId principal.id ∧ IsWorkspaceId principal.workspaceId ∧ IsRevision principal.revision

instance (principal : AuthorityPrincipal) : Decidable (IsAuthorityPrincipal principal) := by
  unfold IsAuthorityPrincipal; infer_instance

/-- `BoundPrincipal` -/
def IsBoundPrincipal (bound : BoundPrincipal) : Prop :=
  rt.IsSubjectBinding bound.binding ∧ IsAuthorityPrincipal bound.principal

instance (bound : BoundPrincipal) : Decidable (rt.IsBoundPrincipal bound) := by
  unfold IsBoundPrincipal; infer_instance

/-- `PermissionSetDefinition` -/
def IsPermissionSetDefinition (definition : PermissionSetDefinition) : Prop :=
  rt.IsAbsoluteUri definition.uri ∧ 1 ≤ definition.version ∧
    (∀ identity ∈ definition.actions, rt.IsActionIdentity identity) ∧
    1 ≤ definition.actions.length ∧ definition.actions.length ≤ rt.actionRegistry.length ∧
    SortedUnique (definition.actions.map ActionIdentity.uri)

instance (definition : PermissionSetDefinition) :
    Decidable (rt.IsPermissionSetDefinition definition) := by
  unfold IsPermissionSetDefinition; infer_instance

/-- `GrantScope` -/
def IsGrantScope : GrantScope → Prop
  | .workspace => True
  | .exact resource => IsOpaqueId resource.id

instance : (scope : GrantScope) → Decidable (IsGrantScope scope)
  | .workspace => instDecidableTrue
  | .exact resource => inferInstanceAs (Decidable (IsOpaqueId resource.id))

/-- The bounds of a validity window, and its expiry after its start. -/
def IsLifetime (value : Lifetime) : Prop :=
  (∀ n ∈ value.notBefore, IsUnixMs n) ∧ (∀ n ∈ value.expiresAt, IsUnixMs n) ∧
    IsRevision value.revision ∧ ∀ start ∈ value.notBefore, ∀ stop ∈ value.expiresAt, start < stop

instance (value : Lifetime) : Decidable (IsLifetime value) := by
  unfold IsLifetime; infer_instance

/-- `AuthorizationGrant` -/
def IsAuthorizationGrant (grant : AuthorizationGrant) : Prop :=
  IsOpaqueId grant.id ∧ IsWorkspaceId grant.workspaceId ∧ IsOpaqueId grant.grantorPrincipalId ∧
    IsOpaqueId grant.granteePrincipalId ∧ rt.IsAbsoluteUri grant.permissionSet.uri ∧
    1 ≤ grant.permissionSet.version ∧ IsGrantScope grant.scope ∧ IsLifetime grant.toLifetime

instance (grant : AuthorizationGrant) : Decidable (rt.IsAuthorizationGrant grant) := by
  unfold IsAuthorizationGrant; infer_instance

/-- `Delegation` -/
def IsDelegation (delegation : Delegation) : Prop :=
  IsOpaqueId delegation.id ∧ IsWorkspaceId delegation.workspaceId ∧
    IsOpaqueId delegation.subjectPrincipalId ∧ IsOpaqueId delegation.actorPrincipalId ∧
    1 ≤ delegation.actions.length ∧ delegation.actions.length ≤ rt.actionRegistry.length ∧
    rt.ExactActions delegation.actions ∧ IsGrantScope delegation.scope ∧
    delegation.subjectPrincipalId ≠ delegation.actorPrincipalId ∧ IsLifetime delegation.toLifetime

instance (delegation : Delegation) : Decidable (rt.IsDelegation delegation) := by
  unfold IsDelegation; infer_instance

/-- `AuthorityEligibility` -/
def IsAuthorityEligibility (eligibility : AuthorityEligibility) : Prop :=
  IsOpaqueId eligibility.id ∧ IsWorkspaceId eligibility.workspaceId ∧
    IsOpaqueId eligibility.principalId ∧ IsLifetime eligibility.toLifetime

instance (eligibility : AuthorityEligibility) : Decidable (IsAuthorityEligibility eligibility) := by
  unfold IsAuthorityEligibility; infer_instance

/-- `AuthorizationRequest` -/
def IsAuthorizationRequest (request : AuthorizationRequest) : Prop :=
  IsOpaqueId request.requestId ∧ IsWorkspaceId request.workspaceId ∧
    rt.IsAbsoluteUri request.serviceAudience ∧ rt.IsActionIdentity request.action ∧
    IsOpaqueId request.resource.id ∧ rt.IsVerifiedIdentity request.identity ∧
    (∀ bound ∈ request.subject, rt.IsBoundPrincipal bound) ∧
    (∀ bound ∈ request.actor, rt.IsBoundPrincipal bound) ∧
    (∀ definition ∈ request.permissionSets, rt.IsPermissionSetDefinition definition) ∧
    request.permissionSets.length ≤ 100 ∧
    (∀ grant ∈ request.subjectGrants, rt.IsAuthorizationGrant grant) ∧
    request.subjectGrants.length ≤ 100 ∧
    (∀ grant ∈ request.actorGrants, rt.IsAuthorizationGrant grant) ∧
    request.actorGrants.length ≤ 100 ∧
    (∀ delegation ∈ request.delegation, rt.IsDelegation delegation) ∧
    (∀ eligibility ∈ request.eligibilities, IsAuthorityEligibility eligibility) ∧
    request.eligibilities.length ≤ 100 ∧
    (request.resource.kind = .workspace → request.resource.id = request.workspaceId)

instance (request : AuthorizationRequest) : Decidable (rt.IsAuthorizationRequest request) := by
  unfold IsAuthorizationRequest; infer_instance

/-- `AuthorizationDecision` -/
def IsAuthorizationDecision (decision : AuthorizationDecision) : Prop :=
  IsOpaqueId decision.requestId ∧ IsWorkspaceId decision.workspaceId ∧
    IsUnixMs decision.evaluatedAt ∧ (∀ id ∈ decision.subjectPrincipalId, IsOpaqueId id) ∧
    (∀ id ∈ decision.actorPrincipalId, IsOpaqueId id) ∧ rt.IsAbsoluteUri decision.actionUri ∧
    IsOpaqueId decision.resourceId ∧ (∀ id ∈ decision.grantIds, IsOpaqueId id) ∧
    decision.grantIds.length ≤ 2 ∧ decision.permissionSetDigests.length ≤ 2 ∧
    (decision.decision = .allow ↔ decision.reasonCode = .allowed) ∧
    (decision.decision = .deny → decision.grantIds = [] ∧ decision.permissionSetDigests = [])

instance (decision : AuthorizationDecision) : Decidable (rt.IsAuthorizationDecision decision) := by
  unfold IsAuthorizationDecision; infer_instance

end AuthorityRuntime

end Tasq.Authority
