import Mathlib.Tactic
import Tasq.Authority.System

/-! Signing credentials beside the authority store: credentials with their events and the authority
    decisions that their mutations have used up, the constraints and the trigger of their tables,
    and the document that a stored credential is read back as.

    Times of creation and of each status, and the payloads of events, are left out. -/

namespace Tasq.Signing

open Text Outcome Rows Authority

/-- `SigningCredentialStatus` -/
inductive SigningStatus where
  | pending | active | suspended | revoked | compromised | retired
  deriving DecidableEq, Repr

/-- `SigningCredentialIsolationClass` -/
inductive IsolationClass where
  | sharedUserSoftware | isolatedProcess | hardware | kms | webauthn | workloadIdentity
  deriving DecidableEq, Repr

/-- `event_type` of `signing_credential_event` -/
inductive SigningEventType where
  | enrolled | activated | rotated | suspended | resumed | revoked | compromised | retired
  | recovered
  deriving DecidableEq, Repr

/-- A row of `signing_credential`. -/
structure CredentialRow where
  credentialId : String
  workspaceId : String
  principalId : String
  profileUri : String
  profileVersion : ℕ
  publicMaterial : String
  publicMaterialDigest : Digest
  trustRootDigest : Digest
  isolationClass : IsolationClass
  status : SigningStatus
  revision : ℕ
  validFrom : ℤ
  expiresAt : Option ℤ
  replaces : Option String
  replacedBy : Option String
  enrollmentMethod : String
  enrollmentEvidenceDigest : Digest
  deriving DecidableEq

/-- A row of `signing_credential_event`. -/
structure CredentialEvent where
  eventId : String
  credentialId : String
  workspaceId : String
  principalId : String
  eventType : SigningEventType
  priorStatus : Option SigningStatus
  nextStatus : SigningStatus
  revision : ℕ
  occurredAt : ℕ
  actorPrincipalId : String
  authorityDecisionId : String
  reason : String
  deriving DecidableEq

/-- A row of `signing_credential_authorization_use`. -/
structure AuthorizationUse where
  authorityDecisionId : String
  workspaceId : String
  credentialId : String
  operationDigest : Digest
  usedAt : ℕ
  deriving DecidableEq

/-- The authority store with the tables of the signing credentials. -/
structure SigningStore where
  authority : AuthorityStore
  credentials : List CredentialRow
  events : List CredentialEvent
  uses : List AuthorizationUse
  deriving DecidableEq

/-- The tables of a new database. -/
def SigningStore.empty : SigningStore := ⟨.empty, [], [], []⟩

/-- `SigningCredentialMutationContext` -/
structure SigningContext where
  actorPrincipalId : String
  authorityDecisionId : String
  reason : String
  expectedRevision : Option ℕ
  deriving DecidableEq, Repr

/-- The input of `enrollEd25519`. -/
structure Enrollment where
  credentialId : String
  workspaceId : String
  principalId : String
  publicMaterial : String
  trustRootDigest : Digest
  isolationClass : IsolationClass
  challenge : String
  proofOfPossession : String
  validFrom : Option ℤ
  expiresAt : Option ℤ
  replaces : Option String
  enrollmentMethod : String
  enrollmentEvidenceDigest : Digest
  deriving DecidableEq

/-- What the digests of this store are taken of. -/
inductive SigningValue where
  | material (publicMaterial : String)
  | enroll (input : Enrollment) (publicMaterialDigest : Digest) (validFrom : ℤ)
  | transition (credentialId workspaceId : String) (prior next : SigningStatus)
      (expectedRevision : ℕ) (compromiseEffectiveAt : Option ℤ)
  deriving DecidableEq

/-- The platform under the signing credentials: digests, and whether an Ed25519 key verifies a
    signature of a text. -/
structure SigningRuntime where
  digest : SigningValue → Digest
  verify : (publicMaterial text proof : String) → Bool

/-! ### What the schemas admit -/

/-- `z.string().min(1).max(limit)` -/
def IsText (limit : ℕ) (s : String) : Prop := 1 ≤ utf16Length s ∧ utf16Length s ≤ limit

instance (limit : ℕ) (s : String) : Decidable (IsText limit s) := by unfold IsText; infer_instance

/-- `Portable` -/
def IsPortable (s : String) : Prop := IsText 500 s ∧ hasControl s = false

instance (s : String) : Decidable (IsPortable s) := by unfold IsPortable; infer_instance

/-- `Context` -/
def IsSigningContext (context : SigningContext) : Prop :=
  IsText 500 context.actorPrincipalId ∧ IsText 500 context.authorityDecisionId ∧
    IsText 1000 context.reason ∧ ∀ n ∈ context.expectedRevision, 0 < n

instance (context : SigningContext) : Decidable (IsSigningContext context) := by
  unfold IsSigningContext; infer_instance

/-- `Number.isSafeInteger` -/
def IsSafeInteger (n : ℤ) : Prop := n.natAbs ≤ Json.maxSafeInteger

instance (n : ℤ) : Decidable (IsSafeInteger n) := by unfold IsSafeInteger; infer_instance

/-- A character of base64url, with its value. -/
def base64Value (c : Char) : Option ℕ :=
  "ABCDEFGHIJKLMNOPQRSTUVWXYZabcdefghijklmnopqrstuvwxyz0123456789-_".toList.findIdx? (· = c)

/-- `/^[A-Za-z0-9_-]{count}$/` -/
def IsBase64 (count : ℕ) (s : String) : Prop :=
  s.toList.length = count ∧ ∀ c ∈ s.toList, (base64Value c).isSome

-- over the characters of the text, not over all characters
instance (count : ℕ) (s : String) : Decidable (IsBase64 count s) :=
  @instDecidableAnd _ _ _ (List.decidableBAll _ _)

/-- `materialKey`: 43 characters that are the canonical text of 32 bytes. -/
def IsKeyText (s : String) : Prop :=
  IsBase64 43 s ∧ ∀ n ∈ s.toList.getLast?.bind base64Value, n % 4 = 0

instance (s : String) : Decidable (IsKeyText s) := by unfold IsKeyText; infer_instance

/-- The last instant whose ISO text has a year of four digits. -/
def lastInstant : ℤ := 253402300799999

/-- The last instant of a `Date`. -/
def lastDate : ℤ := 8640000000000000

/-! ### The document -/

/-- `SigningCredentialV1`. Instants stand for their ISO texts. -/
structure Credential where
  credentialId : String
  workspaceId : String
  principalId : String
  profileUri : String
  profileVersion : ℕ
  publicMaterial : String
  publicMaterialDigest : Digest
  trustRootDigest : Digest
  isolationClass : IsolationClass
  status : SigningStatus
  revision : ℕ
  validFrom : ℤ
  expiresAt : Option ℤ
  replacesCredentialId : Option String
  enrollmentMethod : String
  enrollmentEvidenceDigest : Digest
  deriving DecidableEq

/-- `integer` of a column. -/
def integer (key : String) (n : ℤ) : AuthorityCall ℤ := do
  refuse (¬ IsSafeInteger n ∨ n < 0) (.error s!"invalid credential {key}")
  pure n

/-- `iso` -/
def iso (n : ℤ) : AuthorityCall ℤ := do
  refuse (lastDate < n) (.error "Invalid time value")
  pure n

/-- What `SigningCredentialV1` admits of a row whose instants have ISO texts. -/
def Admitted (row : CredentialRow) : Prop :=
  IsPortable row.credentialId ∧ IsPortable row.workspaceId ∧ IsPortable row.principalId ∧
    0 < row.profileVersion ∧ 0 < row.revision ∧ row.validFrom ≤ lastInstant ∧
    (∀ n ∈ row.expiresAt, n ≤ lastInstant) ∧ (∀ id ∈ row.replaces, IsPortable id) ∧
    IsText 200 row.enrollmentMethod

instance (row : CredentialRow) : Decidable (Admitted row) := by
  unfold Admitted; infer_instance

/-- The document of a row. -/
def document (row : CredentialRow) : Credential where
  credentialId := row.credentialId
  workspaceId := row.workspaceId
  principalId := row.principalId
  profileUri := row.profileUri
  profileVersion := row.profileVersion
  publicMaterial := row.publicMaterial
  publicMaterialDigest := row.publicMaterialDigest
  trustRootDigest := row.trustRootDigest
  isolationClass := row.isolationClass
  status := row.status
  revision := row.revision
  validFrom := row.validFrom
  expiresAt := row.expiresAt
  replacesCredentialId := row.replaces
  enrollmentMethod := row.enrollmentMethod
  enrollmentEvidenceDigest := row.enrollmentEvidenceDigest

/-- An instant of a column. -/
def instant (key : String) (n : ℤ) : AuthorityCall ℤ := do
  let n ← integer key n
  iso n

/-- An instant of a column that may be null. -/
def nullableInstant (key : String) : Option ℤ → AuthorityCall (Option ℤ)
  | none => pure none
  | some n => some <$> instant key n

/-- `parse` -/
def parse (row : CredentialRow) : AuthorityCall Credential := do
  let _ ← integer "profile_version" row.profileVersion
  let _ ← integer "revision" row.revision
  let _ ← instant "valid_from" row.validFrom
  let _ ← nullableInstant "expires_at" row.expiresAt
  refuse (¬ Admitted row) (.invalid "SigningCredentialV1")
  pure (document row)

/-! ### The constraints of the tables -/

/-- The moves between statuses that the trigger `signing_credential_lifecycle` lets through. -/
def Passes : SigningStatus → SigningStatus → Bool
  | .pending, next => next = .active || next = .revoked
  | .active, next =>
    next = .suspended || next = .revoked || next = .compromised || next = .retired
  | .suspended, next =>
    next = .active || next = .revoked || next = .compromised || next = .retired
  | _, _ => false

/-- What the trigger `signing_credential_lifecycle` lets through. -/
def Lifecycle (old new : CredentialRow) : Prop :=
  { new with status := old.status, revision := old.revision, replacedBy := old.replacedBy } = old ∧
    new.revision = old.revision + 1 ∧ Passes old.status new.status

instance (old new : CredentialRow) : Decidable (Lifecycle old new) := by
  unfold Lifecycle; infer_instance

namespace SigningStore

variable (rt : AuthorityRuntime) (srt : SigningRuntime) (s : SigningStore)

/-- The row of a credential. -/
def credentialRow (id : String) : Option CredentialRow :=
  s.credentials.find? (·.credentialId = id)

/-- `UPDATE signing_credential … WHERE credential_id = ?`, under its trigger. -/
def updateCredential (id : String) (f : CredentialRow → CredentialRow) :
    AuthorityCall SigningStore := do
  refuse (¬ ∀ row ∈ s.credentials, row.credentialId = id → Lifecycle row (f row))
    (.constraint "invalid signing credential lifecycle")
  pure { s with credentials := s.credentials.map fun row =>
    if row.credentialId = id then f row else row }

/-- `INSERT INTO signing_credential` -/
def insertCredential (row : CredentialRow) : AuthorityCall SigningStore := do
  refuse (row.validFrom < 0 ∨ ∃ n ∈ row.expiresAt, n ≤ row.validFrom)
    (.constraint "signing_credential")
  refuse (∃ id ∈ row.replaces, s.credentialRow id = none) (.constraint "replaces_credential_id")
  let credentials ← insertRow s.credentials
    (fun other => other.credentialId = row.credentialId ∨ other.workspaceId = row.workspaceId ∧
      other.profileUri = row.profileUri ∧ other.profileVersion = row.profileVersion ∧
      other.publicMaterialDigest = row.publicMaterialDigest)
    row (.constraint "signing_credential")
  pure { s with credentials }

/-- `INSERT INTO signing_credential_event` -/
def insertEvent (event : CredentialEvent) : AuthorityCall SigningStore := do
  let events ← insertRow s.events (·.eventId = event.eventId) event
    (.constraint "signing_credential_event")
  pure { s with events }

/-- The text of the id of a decision. -/
def decisionText (row : DecisionRow) : String := "sha256:" ++ rt.hex row.decision.decisionId

/-- The stored decision is an exact authority to manage the credentials of the workspace. -/
def Manages (row : DecisionRow) (workspaceId : String) (context : SigningContext) : Prop :=
  row.decision.decision = .allow ∧ row.workspaceId = workspaceId ∧
    row.decision.actionUri = "urn:tasq:action:credential.manage" ∧
    row.decision.resourceKind = .workspace ∧ row.decision.resourceId = workspaceId ∧
    (row.decision.actorPrincipalId = some context.actorPrincipalId ∨
      row.decision.subjectPrincipalId = some context.actorPrincipalId)

instance (row : DecisionRow) (workspaceId : String) (context : SigningContext) :
    Decidable (Manages row workspaceId context) := by
  unfold Manages; infer_instance

/-- `consumeCredentialAuthority` -/
def consumeCredentialAuthority (workspaceId credentialId : String) (operationDigest : Digest)
    (now : ℕ) (context : SigningContext) : AuthorityCall SigningStore := do
  let row ← demand (s.authority.decisions.find? fun d =>
      decisionText rt d = context.authorityDecisionId)
    (.error "credential mutation lacks an exact live authority decision")
  refuse (¬ Manages row workspaceId context)
    (.error "credential mutation lacks an exact live authority decision")
  let workspace ← demand (s.authority.workspaceRow workspaceId)
    (.error "credential authority decision is stale")
  refuse (workspace.status ≠ .enabled ∨
      workspace.authorityRevision ≠ row.authorityRevision.getD 0)
    (.error "credential authority decision is stale")
  let uses ← insertRow s.uses (·.authorityDecisionId = context.authorityDecisionId)
    { authorityDecisionId := context.authorityDecisionId
      workspaceId := workspaceId
      credentialId := credentialId
      operationDigest := operationDigest
      usedAt := now } (.constraint "signing_credential_authorization_use")
  pure { s with uses }

/-- `get` -/
def get (id : String) : AuthorityCall (Option Credential) :=
  match s.credentialRow id with
  | none => pure none
  | some row => some <$> parse row

end SigningStore

end Tasq.Signing
