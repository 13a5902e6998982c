import Mathlib.Tactic
import Tasq.Authority.Mutations

/-! Remote enrollment: a one-use token is created for a bound principal, redeemed for an opaque
    access credential, and the credential is verified to an identity.

    The store sees digests of the tokens only. Random ids and secrets are inputs. -/

namespace Tasq.Authority

open Text Outcome Rows

/-- `AccessCredentialRecordSchema` -/
def AuthorityRuntime.IsAccessCredentialRecord (rt : AuthorityRuntime)
    (c : AccessCredentialRecord) : Prop :=
  IsOpaqueId c.id ∧ IsOpaqueId c.enrollmentId ∧ IsWorkspaceId c.workspaceId ∧
    IsOpaqueId c.principalId ∧ rt.IsUrl c.issuer ∧ IsOpaqueId c.subject ∧
    (∀ identity ∈ c.actionUpperBound, rt.IsActionIdentity identity) ∧
    1 ≤ c.actionUpperBound.length ∧ IsUnixMs c.issuedAt ∧ IsUnixMs c.expiresAt ∧
    1 ≤ c.revision ∧ ∀ n ∈ c.revokedAt, IsUnixMs n

instance (rt : AuthorityRuntime) (c : AccessCredentialRecord) :
    Decidable (rt.IsAccessCredentialRecord c) := by
  unfold AuthorityRuntime.IsAccessCredentialRecord; infer_instance

/-- What `redeemEnrollment` is given. -/
structure Redemption where
  workspaceId : String
  enrollmentTokenDigest : Digest
  credentialId : String
  credentialTokenDigest : Digest
  auditEventId : String
  deriving DecidableEq

/-- The credential of an enrollment that is redeemed at `now`. -/
def credentialFor (enrollment : EnrollmentRecord) (input : Redemption) (now : ℕ) :
    AccessCredentialRecord where
  id := input.credentialId
  enrollmentId := enrollment.id
  workspaceId := enrollment.workspaceId
  principalId := enrollment.principalId
  issuer := enrollment.issuer
  subject := enrollment.subject
  clientKind := enrollment.clientKind
  tokenDigest := input.credentialTokenDigest
  actionUpperBound := enrollment.actionUpperBound
  issuedAt := now
  expiresAt := enrollment.accessExpiresAt
  status := .active
  revision := 1
  revokedAt := none

/-! ### In the store -/

namespace AuthorityStore

variable (rt : AuthorityRuntime) (s : AuthorityStore)

/-- The workspace, the principal and the binding of an enrollment are enabled. -/
def EnrollmentLive (e : EnrollmentRecord) : Prop :=
  (∃ w ∈ s.workspaces, w.workspaceId = e.workspaceId ∧ w.status = .enabled) ∧
    (∃ p ∈ s.principals, p.workspaceId = e.workspaceId ∧ p.id = e.principalId ∧
      p.status = .enabled) ∧
    ∃ b ∈ s.bindings, b.workspaceId = e.workspaceId ∧ b.principalId = e.principalId ∧
      b.issuer = e.issuer ∧ b.subject = e.subject ∧ b.status = .enabled

instance (e : EnrollmentRecord) : Decidable (s.EnrollmentLive e) := by
  unfold EnrollmentLive; infer_instance

/-- The row that a redemption is joined with. -/
def enrollmentRow (workspaceId : String) (tokenDigest : Digest) : Option EnrollmentRecord :=
  s.enrollments.find? fun e => s.EnrollmentLive e ∧ e.workspaceId = workspaceId ∧
    e.tokenDigest = tokenDigest

/-- The audit row of a redemption. -/
def redemptionAudit (credential : AccessCredentialRecord) (workspace : HostedWorkspace)
    (auditEventId : String) (requestDigest : Digest) : AuditRow where
  eventId := auditEventId
  workspaceId := some workspace.workspaceId
  occurredAt := credential.issuedAt
  actorPrincipalId := some credential.principalId
  eventType := "enrollment.redeem"
  targetType := "access_credential"
  targetId := credential.id
  authorityRevision := some workspace.authorityRevision
  requestDigest := requestDigest
  reason := "one-use remote enrollment"

/-- `redeemEnrollment` of the store -/
def redeemEnrollment (input : Redemption) (now : ℕ) :
    AuthorityCall (AuthorityStore × AccessCredentialRecord) := do
  refuse (¬ IsWorkspaceId input.workspaceId) (.invalid "WorkspaceId")
  refuse (¬ IsOpaqueId input.credentialId) (.invalid "Id")
  refuse (¬ IsOpaqueId input.auditEventId) (.invalid "Id")
  refuse (¬ IsUnixMs now) (.invalid "UnixMs")
  let enrollment ← demand (s.enrollmentRow input.workspaceId input.enrollmentTokenDigest)
    (.enrollment .notFound)
  refuse (¬ rt.IsEnrollmentRecord enrollment) corruptRecord
  refuse (enrollment.revokedAt ≠ none) (.enrollment .revoked)
  refuse (enrollment.consumedAt ≠ none) (.enrollment .consumed)
  refuse (enrollment.expiresAt ≤ now) (.enrollment .expired)
  refuse (enrollment.accessExpiresAt ≤ now) (.enrollment .expired)
  let enrollments ← updateRow s.enrollments
    (fun e => e.id = enrollment.id ∧ e.consumedAt = none ∧ e.revokedAt = none)
    (fun e => { e with consumedAt := some now }) (.enrollment .consumed)
  let credential := credentialFor enrollment input now
  let credentials ← insertRow s.credentials
    (fun c => c.id = credential.id ∨ c.enrollmentId = credential.enrollmentId ∨
      c.tokenDigest = credential.tokenDigest) credential alreadyExists
  refuse (¬ rt.IsAccessCredentialRecord credential) corruptRecord
  let requestDigest ← rt.digestAuthorityValue
    (.redemption enrollment.id credential.id credential.tokenDigest credential.expiresAt)
  let workspace ← demand (s.workspaces.find? (·.workspaceId = input.workspaceId))
    (.enrollment .notFound)
  let audit ← insertRow s.audit (·.eventId = input.auditEventId)
    (redemptionAudit credential workspace input.auditEventId requestDigest) alreadyExists
  pure ({ s with enrollments, credentials, audit }, credential)

/-- `findAccessCredential` -/
def findAccessCredential (tokenDigest : Digest) : AuthorityCall (Option AccessCredentialRecord) :=
  match s.credentials.find? (·.tokenDigest = tokenDigest) with
  | none => pure none
  | some credential => do
    refuse (¬ rt.IsAccessCredentialRecord credential) corruptRecord
    pure (some credential)

end AuthorityStore

/-! ### The remote authority -/

/-- `Id` of the enrollment module, which admits control characters. -/
def IsTrimmedId (id : String) : Prop :=
  1 ≤ utf16Length id ∧ utf16Length id ≤ 500 ∧ jsTrim id = id

instance (id : String) : Decidable (IsTrimmedId id) := by unfold IsTrimmedId; infer_instance

/-- `Secret` -/
def IsSecret (secret : String) : Prop := 32 ≤ utf16Length secret ∧ utf16Length secret ≤ 2000

instance (secret : String) : Decidable (IsSecret secret) := by unfold IsSecret; infer_instance

/-- `canonicalIssuer`, `canonicalAudience` -/
def AuthorityRuntime.IsCanonicalUrl (rt : AuthorityRuntime) (value : String) : Prop :=
  ∃ u ∈ rt.url value, u.protocol = "https:" ∧ u.username = "" ∧ u.password = "" ∧ u.search = "" ∧
    u.hash = "" ∧ u.href = value

/-- What `createRemoteEnrollmentAuthority` configures. -/
structure RemoteEnrollmentAuthority (rt : AuthorityRuntime) where
  issuer : String
  audience : String
  canonical_issuer : rt.IsCanonicalUrl issuer
  canonical_audience : rt.IsCanonicalUrl audience

/-- `CreateRemoteEnrollmentInput` -/
structure CreateRemoteEnrollmentInput where
  workspaceId : String
  principalId : String
  subject : String
  clientKind : ClientKind
  actionUpperBound : List ActionIdentity
  enrollmentExpiresAt : ℕ
  accessExpiresAt : ℕ
  context : AuthorityMutationContext
  deriving DecidableEq

/-- `CreatedRemoteEnrollment` -/
structure CreatedRemoteEnrollment where
  enrollmentId : String
  workspaceId : String
  enrollmentToken : String
  enrollmentExpiresAt : ℕ
  accessExpiresAt : ℕ
  mutation : AuthorityMutationResult
  deriving DecidableEq

/-- `RedeemedRemoteEnrollment` -/
structure RedeemedRemoteEnrollment where
  credentialId : String
  workspaceId : String
  principalId : String
  clientKind : ClientKind
  accessToken : String
  issuedAt : ℕ
  expiresAt : ℕ
  actionUpperBound : List ActionIdentity
  deriving DecidableEq

/-- A character that `.` does not match. -/
def lineTerminators : List Char := ['\n', '\r', '\u2028', '\u2029']

/-- The group of the match of an authorization header with `^Bearer (tasq_access_.+)$`. -/
def bearerToken (authorization : String) : Option String :=
  let token := authorization.toList.drop "Bearer ".length
  let rest := token.drop "tasq_access_".length
  if "Bearer tasq_access_".toList <+: authorization.toList ∧ rest ≠ [] ∧
      rest.all fun c => c ∉ lineTerminators
  then some (String.ofList token)
  else none

namespace RemoteEnrollmentAuthority

variable {rt : AuthorityRuntime} (remote : RemoteEnrollmentAuthority rt) (s : AuthorityStore)

/-- The enrollment that `create` asks the store for. -/
def enrollment (input : CreateRemoteEnrollmentInput) (randomId secret : String) (now : ℕ) :
    EnrollmentRecord where
  id := "enrollment-" ++ randomId
  workspaceId := input.workspaceId
  principalId := input.principalId
  issuer := remote.issuer
  subject := input.subject
  clientKind := input.clientKind
  tokenDigest := rt.secretDigest ("tasq_enroll_enrollment-" ++ randomId ++ "." ++ secret)
  actionUpperBound := input.actionUpperBound
  createdAt := now
  expiresAt := input.enrollmentExpiresAt
  accessExpiresAt := input.accessExpiresAt
  consumedAt := none
  revokedAt := none

/-- `create`; the store reads the clock again, at `later`. -/
def create (input : CreateRemoteEnrollmentInput) (randomId secret : String) (now later : ℕ) :
    AuthorityCall (AuthorityStore × CreatedRemoteEnrollment) := do
  refuse (¬ IsUnixMs now) (.invalid "UnixMs")
  refuse (¬ IsTrimmedId ("enrollment-" ++ randomId)) (.invalid "Id")
  refuse (¬ IsSecret secret) (.invalid "Secret")
  refuse (¬ IsWorkspaceId input.workspaceId) (.invalid "WorkspaceId")
  refuse (¬ IsTrimmedId input.principalId) (.invalid "Id")
  refuse (¬ IsTrimmedId input.subject) (.invalid "Id")
  refuse (¬ IsUnixMs input.enrollmentExpiresAt) (.invalid "UnixMs")
  refuse (¬ IsUnixMs input.accessExpiresAt) (.invalid "UnixMs")
  let (s, mutation) ← s.mutate rt
    (.createEnrollment (remote.enrollment input randomId secret now)) input.context later
  pure (s,
    { enrollmentId := "enrollment-" ++ randomId
      workspaceId := input.workspaceId
      enrollmentToken := "tasq_enroll_enrollment-" ++ randomId ++ "." ++ secret
      enrollmentExpiresAt := input.enrollmentExpiresAt
      accessExpiresAt := input.accessExpiresAt
      mutation })

/-- The access token of a redemption. -/
def accessToken (randomId secret : String) : String :=
  "tasq_access_credential-" ++ randomId ++ "." ++ secret

/-- `redeem` -/
def redeem (rt : AuthorityRuntime) (s : AuthorityStore)
    (workspaceId enrollmentToken randomId secret auditId : String) (now : ℕ) :
    AuthorityCall (AuthorityStore × RedeemedRemoteEnrollment) := do
  refuse (¬ IsSecret secret) (.invalid "Secret")
  refuse (¬ IsTrimmedId ("credential-" ++ randomId)) (.invalid "Id")
  refuse (¬ IsWorkspaceId workspaceId) (.invalid "WorkspaceId")
  refuse (¬ IsSecret enrollmentToken) (.invalid "Secret")
  refuse (¬ IsTrimmedId ("redeem-" ++ auditId)) (.invalid "Id")
  let (s, credential) ← s.redeemEnrollment rt
    { workspaceId
      enrollmentTokenDigest := rt.secretDigest enrollmentToken
      credentialId := "credential-" ++ randomId
      credentialTokenDigest := rt.secretDigest (accessToken randomId secret)
      auditEventId := "redeem-" ++ auditId } now
  pure (s,
    { credentialId := credential.id
      workspaceId := credential.workspaceId
      principalId := credential.principalId
      clientKind := credential.clientKind
      accessToken := accessToken randomId secret
      issuedAt := credential.issuedAt
      expiresAt := credential.expiresAt
      actionUpperBound := credential.actionUpperBound })

/-- The identity of a credential. -/
def identity (credential : AccessCredentialRecord) : VerifiedIdentity where
  issuer := remote.issuer
  subject := credential.subject
  audience := [remote.audience]
  authenticationMethod := .oauthIntrospection
  authenticatedAt := credential.issuedAt
  notBefore := some credential.issuedAt
  expiresAt := credential.expiresAt
  clientId := some credential.id
  actor := none
  credentialBinding := .none
  tokenIdDigest := some credential.tokenDigest
  issuerConfigurationDigest := rt.digest (.issuerConfiguration remote.issuer remote.audience)
  credentialKeyDigest := rt.digest .credentialKey
  actionUpperBound := credential.actionUpperBound

/-- `verify` of the `verifier` -/
def verify (authorization expectedAudience : String) (now : ℕ) :
    AuthorityCall VerifiedIdentity := do
  let token ← demand (bearerToken authorization) .invalidToken
  refuse (expectedAudience ≠ remote.audience) .invalidToken
  refuse (¬ IsUnixMs now) (.invalid "UnixMs")
  refuse (¬ IsSecret token) (.invalid "Secret")
  let found ← s.findAccessCredential rt (rt.secretDigest token)
  let credential ← demand found .invalidToken
  refuse (credential.status ≠ .active ∨ credential.expiresAt ≤ now) .invalidToken
  refuse (¬ rt.IsVerifiedIdentity (remote.identity credential)) (.invalid "VerifiedIdentity")
  pure (remote.identity credential)

end RemoteEnrollmentAuthority

end Tasq.Authority
