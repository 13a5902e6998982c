import Mathlib.Tactic
import Tasq.Authority.Runtime

/-! The evaluator: a deny-by-default decision over one authority snapshot at one reading of the
    clock.

    `judge` is the ordered list of checks; it ends with the supporting grants or with the reason of
    the denial. `evaluateAuthorization` parses the request, takes its digest and records the
    outcome of the checks as a decision. -/

namespace Tasq.Authority

open Text Outcome

namespace AuthorityRuntime

variable (rt : AuthorityRuntime)

/-! ### The authority snapshot -/

/-- The permission set under a URI and a version: of two with one key, the last. -/
def definitionFor (permissionSets : List PermissionSetDefinition) (uri : String) (version : ℕ) :
    Option PermissionSetDefinition :=
  (permissionSets.filter fun d => d.uri = uri ∧ d.version = version).getLast?

/-- `authoritySnapshot`, the part of it that says whether the snapshot is valid. -/
def AuthoritySnapshot (request : AuthorizationRequest) : Prop :=
  (request.permissionSets.map fun d => (d.uri, d.version)).Nodup ∧
    (∀ d ∈ request.permissionSets,
      Ends (rt.digestAuthorityValue (.permissionSet d.uri d.version d.actions))
          (· = d.implementationDigest) ∧
        ∀ identity ∈ d.actions, rt.Registered identity) ∧
    ((request.subjectGrants ++ request.actorGrants).map AuthorizationGrant.id).Nodup ∧
    (∀ g ∈ request.subjectGrants ++ request.actorGrants,
      ∃ d ∈ definitionFor request.permissionSets g.permissionSet.uri g.permissionSet.version,
        d.implementationDigest = g.permissionSet.implementationDigest) ∧
    (request.eligibilities.map AuthorityEligibility.id).Nodup

instance (request : AuthorizationRequest) : Decidable (rt.AuthoritySnapshot request) := by
  unfold AuthoritySnapshot; infer_instance

/-- A grant that supports the principal: live, in the workspace, over the resource, through a
    permission set of the snapshot with the action. -/
def Supports (grant : AuthorizationGrant) (principalId : String) (request : AuthorizationRequest)
    (action : ActionDefinition) (now : ℕ) : Prop :=
  grant.workspaceId = request.workspaceId ∧ grant.granteePrincipalId = principalId ∧
    grant.live now ∧ covers grant.scope request.resource ∧
    ∃ d ∈ definitionFor request.permissionSets grant.permissionSet.uri grant.permissionSet.version,
      d.implementationDigest = grant.permissionSet.implementationDigest ∧
        ∃ identity ∈ d.actions, exactAction identity action

instance (grant : AuthorizationGrant) (principalId : String) (request : AuthorizationRequest)
    (action : ActionDefinition) (now : ℕ) :
    Decidable (Supports grant principalId request action now) := by
  unfold Supports; infer_instance

/-- `Support` -/
structure Support where
  grantId : String
  permissionDigest : Digest
  deriving DecidableEq

/-- The grant as a support. -/
def support (grant : AuthorizationGrant) : Support where
  grantId := grant.id
  permissionDigest := grant.permissionSet.implementationDigest

/-- Sorted by `left.id.localeCompare(right.id)`. -/
def sortById {α : Type} (id : α → String) (values : List α) : List α :=
  values.mergeSort fun left right => rt.localeCompare (id left) (id right) ≠ .gt

/-- `supportingGrant` -/
def supportingGrant (grants : List AuthorizationGrant) (principalId : String)
    (request : AuthorizationRequest) (action : ActionDefinition) (now : ℕ) : Option Support :=
  let found := grants.filter fun grant => Supports grant principalId request action now
  support <$> (rt.sortById AuthorizationGrant.id found).head?

/-- `bindingMatches` -/
def bindingMatches (bound : BoundPrincipal) (workspaceId issuer subject : String) : Prop :=
  bound.binding.workspaceId = workspaceId ∧ bound.principal.workspaceId = workspaceId ∧
    bound.binding.principalId = bound.principal.id ∧ bound.binding.issuer = issuer ∧
    bound.binding.subject = subject

instance (bound : BoundPrincipal) (workspaceId issuer subject : String) :
    Decidable (bindingMatches bound workspaceId issuer subject) := by
  unfold bindingMatches; infer_instance

/-- The delegation covers the pair, the resource and the action. -/
def Delegates (delegation : Delegation) (subjectId actorId : String)
    (request : AuthorizationRequest) (action : ActionDefinition) (now : ℕ) : Prop :=
  delegation.workspaceId = request.workspaceId ∧ delegation.subjectPrincipalId = subjectId ∧
    delegation.actorPrincipalId = actorId ∧ delegation.live now ∧
    covers delegation.scope request.resource ∧
    ∃ identity ∈ delegation.actions, exactAction identity action

instance (delegation : Delegation) (subjectId actorId : String) (request : AuthorizationRequest)
    (action : ActionDefinition) (now : ℕ) :
    Decidable (Delegates delegation subjectId actorId request action now) := by
  unfold Delegates; infer_instance

/-- The eligibility is of the kind and live for the principal. -/
def Eligible (entry : AuthorityEligibility) (kind : EligibilityKind) (principalId : String)
    (request : AuthorizationRequest) (now : ℕ) : Prop :=
  entry.workspaceId = request.workspaceId ∧ entry.principalId = principalId ∧ entry.kind = kind ∧
    entry.live now

instance (entry : AuthorityEligibility) (kind : EligibilityKind) (principalId : String)
    (request : AuthorizationRequest) (now : ℕ) :
    Decidable (Eligible entry kind principalId request now) := by
  unfold Eligible; infer_instance

/-! ### The checks -/

/-- The reasons to deny for a binding. -/
structure BindingReasons where
  required : AuthorizationReason
  mismatch : AuthorizationReason
  notYetValid : AuthorizationReason
  bindingDisabled : AuthorizationReason
  principalDisabled : AuthorizationReason

/-- The reasons to deny for the binding of the subject. -/
def subjectReasons : BindingReasons where
  required := .membershipRequired
  mismatch := .subjectBindingMismatch
  notYetValid := .subjectBindingNotYetValid
  bindingDisabled := .subjectBindingDisabled
  principalDisabled := .subjectPrincipalDisabled

/-- The reasons to deny for the binding of the actor. -/
def actorReasons : BindingReasons where
  required := .actorBindingRequired
  mismatch := .actorBindingMismatch
  notYetValid := .actorBindingNotYetValid
  bindingDisabled := .actorBindingDisabled
  principalDisabled := .actorPrincipalDisabled

/-- The checks of one binding, the same for the subject and for the actor. -/
def checkBound (reasons : BindingReasons) (bound : Option BoundPrincipal)
    (workspaceId issuer subject : String) (now : ℕ) :
    Except AuthorizationReason AuthorityPrincipal := do
  let bound ← demand bound reasons.required
  refuse (¬ bindingMatches bound workspaceId issuer subject) reasons.mismatch
  refuse (now < bound.binding.createdAt) reasons.notYetValid
  refuse (bound.binding.status ≠ .enabled) reasons.bindingDisabled
  refuse (bound.principal.status ≠ .enabled) reasons.principalDisabled
  pure bound.principal

/-- The checks of the actor: the principal, when the identity names an actor. -/
def checkActor (request : AuthorizationRequest) (now : ℕ) :
    Except AuthorizationReason (Option AuthorityPrincipal) :=
  match request.identity.actor with
  | some actor =>
    some <$> checkBound actorReasons request.actor request.workspaceId actor.issuer actor.subject now
  | none => do
    refuse (request.actor ≠ none) .actorBindingMismatch
    pure none

/-- The support of the actor: its grant under a delegation, when there is an actor. -/
def checkDelegation (request : AuthorizationRequest) (action : ActionDefinition)
    (subject : AuthorityPrincipal) (actor : Option AuthorityPrincipal) (now : ℕ) :
    Except AuthorizationReason (List Support) :=
  match actor with
  | some actor => do
    let actorSupport ← demand (rt.supportingGrant request.actorGrants actor.id request action now)
      .actorGrantDenied
    refuse (¬ ∃ d ∈ request.delegation, Delegates d subject.id actor.id request action now)
      .delegationDenied
    pure [actorSupport]
  | none => do
    refuse (request.delegation ≠ none ∨ 0 < request.actorGrants.length) .authoritySnapshotInvalid
    pure []

/-- The eligibility that an action may require of the effective actor. -/
def checkEligibility (request : AuthorizationRequest) (action : ActionDefinition)
    (effectiveActor : AuthorityPrincipal) (now : ℕ) : Except AuthorizationReason Unit :=
  match action.eligibility with
  | none => pure ()
  | some kind => do
    refuse (kind = .effectConnector ∧ effectiveActor.kind ≠ .service) .effectEligibilityRequired
    refuse (¬ ∃ entry ∈ request.eligibilities, Eligible entry kind effectiveActor.id request now)
      .effectEligibilityRequired

/-- The checks of `evaluateAuthorization`, in order. -/
def judge (request : AuthorizationRequest) (now : ℕ) :
    Except AuthorizationReason (List Support) := do
  let action ← demand (rt.getRegisteredAction request.action.uri) .unknownAction
  refuse (¬ exactAction request.action action) .actionIdentityMismatch
  refuse (request.resource.kind ∉ action.resourceKinds) .actionResourceMismatch
  refuse (request.serviceAudience ∉ request.identity.audience) .serviceAudienceMismatch
  refuse (∃ n ∈ request.identity.notBefore, now < n) .identityNotYetValid
  refuse (now < request.identity.authenticatedAt) .identityNotYetValid
  refuse (request.identity.expiresAt ≤ now) .identityExpired
  let subject ← checkBound subjectReasons request.subject request.workspaceId
    request.identity.issuer request.identity.subject now
  let actor ← checkActor request now
  refuse (action.senderConstraint = .required ∧ request.identity.credentialBinding = .none)
    .senderConstraintRequired
  refuse (¬ ∃ identity ∈ request.identity.actionUpperBound, exactAction identity action)
    .tokenUpperBoundDenied
  refuse (¬ rt.AuthoritySnapshot request) .authoritySnapshotInvalid
  let subjectSupport ← demand
    (rt.supportingGrant request.subjectGrants subject.id request action now) .subjectGrantDenied
  let actorSupports ← rt.checkDelegation request action subject actor now
  checkEligibility request action (actor.getD subject) now
  pure (subjectSupport :: actorSupports)

/-! ### The decision -/

/-- `canonicalRequestSnapshot` -/
def canonicalRequestSnapshot (request : AuthorizationRequest) : AuthorizationRequest :=
  { request with
    permissionSets := request.permissionSets.mergeSort fun a b =>
      (rt.localeCompare a.uri b.uri).then ((compare a.version b.version).then
        (rt.localeCompare (rt.hex a.implementationDigest) (rt.hex b.implementationDigest))) ≠ .gt
    subjectGrants := rt.sortById AuthorizationGrant.id request.subjectGrants
    actorGrants := rt.sortById AuthorizationGrant.id request.actorGrants
    eligibilities := rt.sortById AuthorityEligibility.id request.eligibilities }

/-- The principal that acts: the actor when the identity names one, else the subject. -/
def actorPrincipalId (request : AuthorizationRequest) : Option String :=
  if request.identity.actor.isSome then request.actor.map fun b => b.principal.id
  else request.subject.map fun b => b.principal.id

/-- `finish`, for an outcome of the checks. -/
def finish (request : AuthorizationRequest) (requestDigest : Digest) (now : ℕ)
    (outcome : Except AuthorizationReason (List Support)) : AuthorizationDecision :=
  let decision := match outcome with
    | .ok _ => Verdict.allow
    | .error _ => .deny
  let reasonCode := match outcome with
    | .ok _ => AuthorizationReason.allowed
    | .error reason => reason
  let supports := match outcome with
    | .ok supports => supports
    | .error _ => []
  let grantIds := (supports.map Support.grantId).mergeSort fun a b => utf16 a ≤ utf16 b
  let permissionSetDigests := (supports.map Support.permissionDigest).dedup.mergeSort
    fun a b => utf16 (rt.hex a) ≤ utf16 (rt.hex b)
  { decisionId := rt.digest (.decision rt.policyImplementationDigest requestDigest now decision
      reasonCode grantIds permissionSetDigests)
    requestId := request.requestId
    workspaceId := request.workspaceId
    evaluatedAt := now
    subjectPrincipalId := request.subject.map fun b => b.principal.id
    actorPrincipalId := actorPrincipalId request
    actionUri := request.action.uri
    resourceKind := request.resource.kind
    resourceId := request.resource.id
    decision := decision
    reasonCode := reasonCode
    grantIds := grantIds
    permissionSetDigests := permissionSetDigests
    policyImplementationDigest := rt.policyImplementationDigest
    requestDigest := requestDigest }

/-- `evaluateAuthorization` -/
def evaluateAuthorization (request : AuthorizationRequest) (now : ℕ) :
    AuthorityCall AuthorizationDecision := do
  refuse (¬ rt.IsAuthorizationRequest request) (.invalid "AuthorizationRequest")
  refuse (¬ IsUnixMs now) (.invalid "UnixMs")
  let requestDigest ← rt.digestAuthorityValue (.request (rt.canonicalRequestSnapshot request))
  let decision := rt.finish request requestDigest now (rt.judge request now)
  refuse (¬ rt.IsAuthorizationDecision decision) (.invalid "AuthorizationDecision")
  pure decision

/-- The evaluator allows the request at `now`. -/
def Allows (request : AuthorizationRequest) (now : ℕ) : Prop :=
  Ends (rt.evaluateAuthorization request now) fun decision => decision.decision = .allow

instance (request : AuthorizationRequest) (now : ℕ) : Decidable (rt.Allows request now) := by
  unfold Allows; infer_instance

end AuthorityRuntime

end Tasq.Authority
