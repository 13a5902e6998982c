import Mathlib.Data.List.Sort
import Mathlib.Tactic
import Tasq.Lib.Text
import Tasq.Schema.Replication

/-! The documents of hosted authority: registered actions, verified identities, subject bindings,
    principals, permission sets, grants, delegations and eligibilities, the request an evaluator is
    shown and the decision it answers.

    Contract version literals are left out. Ids, URIs and digests are what the source has them as;
    what their schemas admit is said in `Tasq.Authority.Runtime`. -/

namespace Tasq.Authority

open Text

/-! ### Bounds -/

/-- `/[\u0000-\u001f\u007f]/` finds a character. -/
def hasControl (s : String) : Bool := s.toList.any fun c => c.toNat ≤ 0x1F || c.toNat = 0x7F

/-- `z.string().min(1).max(limit)`, trimmed and without control characters. -/
def IsId (limit : ℕ) (s : String) : Prop :=
  1 ≤ utf16Length s ∧ utf16Length s ≤ limit ∧ jsTrim s = s ∧ hasControl s = false

/-- `OpaqueId` -/
def IsOpaqueId (s : String) : Prop := IsId 500 s

/-- `[a-zA-Z0-9]` -/
def isAlphanumeric (c : Char) : Bool :=
  (c.toNat ∈ List.range' 0x30 10) || (c.toNat ∈ List.range' 0x41 26) ||
    (c.toNat ∈ List.range' 0x61 26)

/-- A letter or digit, and then letters, digits, dots, underscores, slashes and hyphens. -/
def matchesWorkspaceId (s : String) : Bool :=
  match s.toList with
  | [] => false
  | c :: cs => isAlphanumeric c && cs.all fun c => isAlphanumeric c || c ∈ ['.', '_', '/', '-']

/-- `WorkspaceId` -/
def IsWorkspaceId (s : String) : Prop := utf16Length s ≤ 200 ∧ matchesWorkspaceId s = true

/-- `UnixMs` -/
def IsUnixMs (n : ℕ) : Prop := n ≤ Json.maxSafeInteger

/-- `Revision` -/
def IsRevision (n : ℕ) : Prop := 1 ≤ n ∧ n ≤ Json.maxSafeInteger

instance (limit : ℕ) (s : String) : Decidable (IsId limit s) := by unfold IsId; infer_instance
instance (s : String) : Decidable (IsOpaqueId s) := by unfold IsOpaqueId; infer_instance
instance (s : String) : Decidable (IsWorkspaceId s) := by unfold IsWorkspaceId; infer_instance
instance (n : ℕ) : Decidable (IsUnixMs n) := by unfold IsUnixMs; infer_instance
instance (n : ℕ) : Decidable (IsRevision n) := by unfold IsRevision; infer_instance

/-- `sortedUnique`: every value is below the next in the order of code units. -/
def SortedUnique (values : List String) : Prop := (values.map utf16).Pairwise (· < ·)

instance (values : List String) : Decidable (SortedUnique values) := by
  unfold SortedUnique; infer_instance

/-! ### Actions -/

inductive ResourceKind where
  | workspace | commitment | resource | effect | replica
  deriving DecidableEq, Repr

/-- `ResourceRef` -/
structure ResourceRef where
  kind : ResourceKind
  id : String
  deriving DecidableEq, Repr

inductive SenderConstraint where
  | none | required
  deriving DecidableEq, Repr

/-- The kinds of eligibility. -/
inductive EligibilityKind where
  | effectApprover | effectConnector
  deriving DecidableEq, Repr

/-- `ActionIdentity` -/
structure ActionIdentity where
  uri : String
  version : ℕ
  implementationDigest : Digest
  deriving DecidableEq

/-- `ActionDefinition`. An eligibility of `"none"` is no eligibility. -/
structure ActionDefinition where
  uri : String
  version : ℕ
  implementationDigest : Digest
  resourceKinds : List ResourceKind
  senderConstraint : SenderConstraint
  eligibility : Option EligibilityKind
  deriving DecidableEq

/-- `exactAction` -/
def exactAction (identity : ActionIdentity) (definition : ActionDefinition) : Prop :=
  identity.uri = definition.uri ∧ identity.version = definition.version ∧
    identity.implementationDigest = definition.implementationDigest

instance (identity : ActionIdentity) (definition : ActionDefinition) :
    Decidable (exactAction identity definition) := by unfold exactAction; infer_instance

/-- The identity of a definition. -/
def ActionDefinition.identity (definition : ActionDefinition) : ActionIdentity where
  uri := definition.uri
  version := definition.version
  implementationDigest := definition.implementationDigest

theorem exactAction_iff (identity : ActionIdentity) (definition : ActionDefinition) :
    exactAction identity definition ↔ identity = definition.identity := by
  cases identity
  simp [exactAction, ActionDefinition.identity]

/-! ### Identities -/

/-- `CredentialBinding` -/
inductive CredentialBinding where
  | none
  | dpop (keyThumbprintDigest : Digest)
  | mtlsSpiffe (identityUri : String) (certificateThumbprintDigest : Digest)
  deriving DecidableEq

inductive AuthenticationMethod where
  | oauthJwtAccessToken | oauthIntrospection | spiffeSvid
  deriving DecidableEq, Repr

/-- `ActorSubject` -/
structure ActorSubject where
  issuer : String
  subject : String
  deriving DecidableEq, Repr

/-- `VerifiedIdentity` -/
structure VerifiedIdentity where
  issuer : String
  subject : String
  audience : List String
  authenticationMethod : AuthenticationMethod
  authenticatedAt : ℕ
  notBefore : Option ℕ
  expiresAt : ℕ
  clientId : Option String
  actor : Option ActorSubject
  credentialBinding : CredentialBinding
  tokenIdDigest : Option Digest
  issuerConfigurationDigest : Digest
  credentialKeyDigest : Digest
  actionUpperBound : List ActionIdentity
  deriving DecidableEq

inductive EnabledStatus where
  | enabled | disabled
  deriving DecidableEq, Repr

/-- `SubjectBinding` -/
structure SubjectBinding where
  id : String
  workspaceId : String
  principalId : String
  issuer : String
  subject : String
  method : String
  status : EnabledStatus
  revision : ℕ
  createdAt : ℕ
  disabledAt : Option ℕ
  replacedByBindingId : Option String
  deriving DecidableEq

inductive PrincipalKind where
  | human | agent | service | runtime
  deriving DecidableEq, Repr

/-- `AuthorityPrincipal` -/
structure AuthorityPrincipal where
  id : String
  workspaceId : String
  kind : PrincipalKind
  status : EnabledStatus
  revision : ℕ
  deriving DecidableEq, Repr

/-- `BoundPrincipal` -/
structure BoundPrincipal where
  binding : SubjectBinding
  principal : AuthorityPrincipal
  deriving DecidableEq

/-! ### Authority records -/

/-- `PermissionSetDefinition` -/
structure PermissionSetDefinition where
  uri : String
  version : ℕ
  implementationDigest : Digest
  actions : List ActionIdentity
  deriving DecidableEq

/-- `GrantScope` -/
inductive GrantScope where
  | workspace
  | exact (resource : ResourceRef)
  deriving DecidableEq, Repr

/-- `covers` -/
def covers : GrantScope → ResourceRef → Prop
  | .workspace, _ => True
  | .exact covered, resource => covered.kind = resource.kind ∧ covered.id = resource.id

instance (scope : GrantScope) (resource : ResourceRef) : Decidable (covers scope resource) := by
  cases scope <;> unfold covers <;> infer_instance

inductive RecordStatus where
  | active | revoked
  deriving DecidableEq, Repr

/-- The validity window and the status that grants, delegations and eligibilities carry. -/
structure Lifetime where
  notBefore : Option ℕ
  expiresAt : Option ℕ
  status : RecordStatus
  revision : ℕ
  deriving DecidableEq, Repr

/-- `live` -/
def Lifetime.live (value : Lifetime) (now : ℕ) : Prop :=
  value.status = .active ∧ (∀ n ∈ value.notBefore, n ≤ now) ∧ ∀ n ∈ value.expiresAt, now < n

instance (value : Lifetime) (now : ℕ) : Decidable (value.live now) := by
  unfold Lifetime.live; infer_instance

/-- The permission set that a grant names. -/
structure PermissionSetRef where
  uri : String
  version : ℕ
  implementationDigest : Digest
  deriving DecidableEq

/-- `AuthorizationGrant` -/
structure AuthorizationGrant extends Lifetime where
  id : String
  workspaceId : String
  grantorPrincipalId : String
  granteePrincipalId : String
  permissionSet : PermissionSetRef
  scope : GrantScope
  deriving DecidableEq

/-- `Delegation` -/
structure Delegation extends Lifetime where
  id : String
  workspaceId : String
  subjectPrincipalId : String
  actorPrincipalId : String
  actions : List ActionIdentity
  scope : GrantScope
  deriving DecidableEq

/-- `AuthorityEligibility` -/
structure AuthorityEligibility extends Lifetime where
  id : String
  workspaceId : String
  principalId : String
  kind : EligibilityKind
  deriving DecidableEq

/-! ### Requests and decisions -/

/-- `AuthorizationRequest` -/
structure AuthorizationRequest where
  requestId : String
  workspaceId : String
  serviceAudience : String
  action : ActionIdentity
  resource : ResourceRef
  identity : VerifiedIdentity
  subject : Option BoundPrincipal
  actor : Option BoundPrincipal
  permissionSets : List PermissionSetDefinition
  subjectGrants : List AuthorizationGrant
  actorGrants : List AuthorizationGrant
  delegation : Option Delegation
  eligibilities : List AuthorityEligibility
  deriving DecidableEq

inductive AuthorizationReason where
  | allowed
  | unknownAction
  | actionIdentityMismatch
  | actionResourceMismatch
  | serviceAudienceMismatch
  | identityNotYetValid
  | identityExpired
  | membershipRequired
  | subjectBindingMismatch
  | subjectBindingNotYetValid
  | subjectBindingDisabled
  | subjectPrincipalDisabled
  | actorBindingRequired
  | actorBindingMismatch
  | actorBindingNotYetValid
  | actorBindingDisabled
  | actorPrincipalDisabled
  | senderConstraintRequired
  | tokenUpperBoundDenied
  | authoritySnapshotInvalid
  | subjectGrantDenied
  | actorGrantDenied
  | delegationDenied
  | effectEligibilityRequired
  deriving DecidableEq, Repr

inductive Verdict where
  | allow | deny
  deriving DecidableEq, Repr

/-- `AuthorizationDecision` -/
structure AuthorizationDecision where
  decisionId : Digest
  requestId : String
  workspaceId : String
  evaluatedAt : ℕ
  subjectPrincipalId : Option String
  actorPrincipalId : Option String
  actionUri : String
  resourceKind : ResourceKind
  resourceId : String
  decision : Verdict
  reasonCode : AuthorizationReason
  grantIds : List String
  permissionSetDigests : List Digest
  policyImplementationDigest : Digest
  requestDigest : Digest
  deriving DecidableEq

end Tasq.Authority
