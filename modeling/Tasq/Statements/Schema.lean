import Mathlib.Tactic
import Tasq.Bundles.Envelope
import Tasq.Lib.Stringify

/-! The schemas of signed statements: the statement, the bundle that carries it, and the credential
    that a signature is checked against. Literal fields stand in the shapes only. -/

namespace Tasq.Statements

open Text Json Bytes Authority Custody

/-! ### Scalars -/

/-- The platform: SHA-256, the date parser, and Ed25519. -/
structure StatementRuntime where
  sha256 : List UInt8 → List UInt8
  /-- `z.string().datetime({ offset: true })` -/
  isDateTime : String → Bool
  /-- `Date.parse`, when it is not NaN. -/
  dateParse : String → Option ℤ
  /-- `createPublicKey` does not throw for the key. -/
  isPublicKey : List UInt8 → Bool
  /-- `verifySignature(null, message, publicKey, signature)` -/
  verifySignature : List UInt8 → List UInt8 → List UInt8 → Bool

/-- `Portable` -/
def IsPortable (s : String) : Prop :=
  1 ≤ utf16Length s ∧ utf16Length s ≤ 500 ∧ hasControl s = false

instance (s : String) : Decidable (IsPortable s) := by unfold IsPortable; infer_instance

/-- A character of base64url. -/
def isBase64url (c : Char) : Bool := isAlphanumeric c || c ∈ ['_', '-']

/-- `/^[A-Za-z0-9_-]+$/` -/
def matchesBase64url (s : String) : Bool := s.toList ≠ [] && s.toList.all isBase64url

/-- `Base64Url` -/
def IsBase64url (s : String) : Prop :=
  1 ≤ utf16Length s ∧ utf16Length s ≤ 16384 ∧ matchesBase64url s = true

instance (s : String) : Decidable (IsBase64url s) := by unfold IsBase64url; infer_instance

/-- A letter of either case. -/
def isLetter (c : Char) : Bool :=
  (c.toNat ∈ List.range' 0x41 26) || (c.toNat ∈ List.range' 0x61 26)

/-- `/^[a-z][a-z0-9+.-]*:/i` -/
def matchesScheme (s : String) : Bool :=
  match s.toList with
  | [] => false
  | c :: cs => isLetter c &&
      ((cs.dropWhile fun c => isAlphanumeric c || c ∈ ['+', '.', '-']).head? = some ':')

/-- `AbsoluteUri` -/
def IsAbsoluteUri (s : String) : Prop :=
  3 ≤ utf16Length s ∧ utf16Length s ≤ 2000 ∧ matchesScheme s = true

instance (s : String) : Decidable (IsAbsoluteUri s) := by unfold IsAbsoluteUri; infer_instance

/-- `Sha256Digest` -/
def IsDigest (s : String) : Prop :=
  "sha256:".toList <+: s.toList ∧ matchesHex64 (String.ofList (s.toList.drop 7)) = true

instance (s : String) : Decidable (IsDigest s) := by unfold IsDigest; infer_instance

/-! ### Statements -/

/-- `purpose` -/
structure StatementPurpose where
  uri : String
  version : ℕ+
  deriving DecidableEq, Repr

/-- `subject` -/
structure StatementSubject where
  typeUri : String
  id : String
  revision : Option ℕ+
  digest : String
  deriving DecidableEq, Repr

/-- `SignedStatementPayloadV1` -/
structure StatementPayload where
  statementId : String
  workspaceId : String
  audience : String
  issuerPrincipalId : String
  credentialId : String
  purpose : StatementPurpose
  subject : StatementSubject
  actionUri : Option String
  payloadDigest : Option String
  expectedRevision : Option ℕ+
  nonce : String
  issuedAt : String
  notBefore : Option String
  expiresAt : Option String
  metadata : List (String × Json)
  deriving DecidableEq

def StatementPurpose.json (p : StatementPurpose) : Json :=
  .obj [("uri", .str p.uri), ("version", .num (p.version : ℕ))]

/-- The entries of a subject. -/
def StatementSubject.entries (s : StatementSubject) : List (String × Option Json) :=
  [("typeUri", some (.str s.typeUri)), ("id", some (.str s.id)),
    ("revision", s.revision.map fun n : ℕ+ => .num (n : ℕ)), ("digest", some (.str s.digest))]

/-- The entries of a statement, in the order of the schema. -/
def StatementPayload.entries (p : StatementPayload) : List (String × Option Json) :=
  [("contractVersion", some (.str "tasq.signed-statement.v1")),
    ("statementId", some (.str p.statementId)), ("workspaceId", some (.str p.workspaceId)),
    ("audience", some (.str p.audience)), ("issuerPrincipalId", some (.str p.issuerPrincipalId)),
    ("credentialId", some (.str p.credentialId)), ("purpose", some p.purpose.json),
    ("subject", some (.obj (present p.subject.entries))), ("actionUri", p.actionUri.map .str),
    ("payloadDigest", p.payloadDigest.map .str),
    ("expectedRevision", p.expectedRevision.map fun n : ℕ+ => .num (n : ℕ)),
    ("nonce", some (.str p.nonce)), ("issuedAt", some (.str p.issuedAt)),
    ("notBefore", p.notBefore.map .str), ("expiresAt", p.expiresAt.map .str),
    ("metadata", some (.obj p.metadata))]

/-- A statement as a value. -/
def StatementPayload.json (p : StatementPayload) : Json := .obj (present p.entries)

/-- The shape of `purpose`. -/
def readPurpose (v : Json) : Option StatementPurpose := do
  guard (hasOnly ["uri", "version"] v)
  let uri ← text? v "uri"
  let version ← positive? v "version"
  return ⟨uri, version⟩

/-- The shape of `subject`. -/
def readSubject (v : Json) : Option StatementSubject := do
  guard (hasOnly ["typeUri", "id", "revision", "digest"] v)
  let typeUri ← text? v "typeUri"
  let id ← text? v "id"
  let revision ← optionalPositive? v "revision"
  let digest ← text? v "digest"
  return ⟨typeUri, id, revision, digest⟩

/-- The shape of `SignedStatementPayloadV1`. -/
def readPayload (v : Json) : Option StatementPayload := do
  guard (hasOnly ["contractVersion", "statementId", "workspaceId", "audience", "issuerPrincipalId",
    "credentialId", "purpose", "subject", "actionUri", "payloadDigest", "expectedRevision", "nonce",
    "issuedAt", "notBefore", "expiresAt", "metadata"] v)
  guard (text? v "contractVersion" = some "tasq.signed-statement.v1")
  let statementId ← text? v "statementId"
  let workspaceId ← text? v "workspaceId"
  let audience ← text? v "audience"
  let issuerPrincipalId ← text? v "issuerPrincipalId"
  let credentialId ← text? v "credentialId"
  let purpose ← (property v "purpose").bind readPurpose
  let subject ← (property v "subject").bind readSubject
  let actionUri ← optionalText? v "actionUri"
  let payloadDigest ← optionalText? v "payloadDigest"
  let expectedRevision ← optionalPositive? v "expectedRevision"
  let nonce ← text? v "nonce"
  let issuedAt ← text? v "issuedAt"
  let notBefore ← optionalText? v "notBefore"
  let expiresAt ← optionalText? v "expiresAt"
  let metadata ← record? v "metadata"
  return ⟨statementId, workspaceId, audience, issuerPrincipalId, credentialId, purpose, subject,
    actionUri, payloadDigest, expectedRevision, nonce, issuedAt, notBefore, expiresAt, metadata⟩

variable (rt : StatementRuntime)

/-- `a <= b` for what `Date.parse` answers: never with NaN. -/
def dateLE (a b : Option ℤ) : Prop := ∃ x ∈ a, ∃ y ∈ b, x ≤ y

instance (a b : Option ℤ) : Decidable (dateLE a b) := by unfold dateLE; infer_instance

/-- What `superRefine` says of the window of a statement. -/
def StatementPayload.Window (p : StatementPayload) : Prop :=
  (∀ notBefore ∈ p.notBefore, ∀ expiresAt ∈ p.expiresAt,
    ¬ dateLE (rt.dateParse expiresAt) (rt.dateParse notBefore)) ∧
  ∀ expiresAt ∈ p.expiresAt, ¬ dateLE (rt.dateParse expiresAt) (rt.dateParse p.issuedAt)

instance (p : StatementPayload) : Decidable (p.Window rt) := by
  unfold StatementPayload.Window; infer_instance

/-- What `SignedStatementPayloadV1` says of a statement. -/
def IsPayload (p : StatementPayload) : Prop :=
  IsPortable p.statementId ∧ IsPortable p.workspaceId ∧ IsAbsoluteUri p.audience ∧
    IsPortable p.issuerPrincipalId ∧ IsPortable p.credentialId ∧ IsAbsoluteUri p.purpose.uri ∧
    IsAbsoluteUri p.subject.typeUri ∧ IsPortable p.subject.id ∧ IsDigest p.subject.digest ∧
    (∀ uri ∈ p.actionUri, IsAbsoluteUri uri) ∧ (∀ digest ∈ p.payloadDigest, IsDigest digest) ∧
    IsPortable p.nonce ∧ rt.isDateTime p.issuedAt = true ∧
    (∀ time ∈ p.notBefore, rt.isDateTime time = true) ∧
    (∀ time ∈ p.expiresAt, rt.isDateTime time = true) ∧ p.Window rt ∧
    bytes (stringify (.obj p.metadata)) ≤ 8192

instance (p : StatementPayload) : Decidable (IsPayload rt p) := by
  unfold IsPayload; infer_instance

/-- `SignedStatementPayloadV1.parse(input)`, when it does not throw. -/
def parsePayload (input : Json) : Option StatementPayload :=
  (readPayload input).filter fun p => IsPayload rt p

/-! ### Bundles -/

/-- `supportingProofs` -/
structure SupportingProof where
  typeUri : String
  version : ℕ+
  digest : String
  bundle : Option Json
  deriving DecidableEq

/-- `SignedStatementBundleV1` -/
structure SignedBundle where
  payload : String
  profileUri : String
  profileVersion : ℕ+
  keyId : String
  value : String
  supportingProofs : List SupportingProof
  deriving DecidableEq

/-- The entries of a supporting proof. -/
def SupportingProof.entries (p : SupportingProof) : List (String × Option Json) :=
  [("typeUri", some (.str p.typeUri)), ("version", some (.num (p.version : ℕ))),
    ("digest", some (.str p.digest)), ("bundle", p.bundle)]

/-- `signature`, as a value. -/
def SignedBundle.signatureJson (b : SignedBundle) : Json :=
  .obj [("profileUri", .str b.profileUri), ("profileVersion", .num (b.profileVersion : ℕ)),
    ("keyId", .str b.keyId), ("value", .str b.value)]

/-- `SIGNED_STATEMENT_PAYLOAD_TYPE` -/
def payloadType : String := "application/vnd.tasq.signed-statement.v1+json"

/-- A bundle as a value. -/
def SignedBundle.json (b : SignedBundle) : Json :=
  .obj [("envelopeVersion", .str "tasq.signed-statement-envelope.v1"),
    ("payloadType", .str payloadType), ("payload", .str b.payload), ("signature", b.signatureJson),
    ("supportingProofs", .arr (b.supportingProofs.map fun p => .obj (present p.entries)))]

/-- The shape of a supporting proof. -/
def readProof (v : Json) : Option SupportingProof := do
  guard (hasOnly ["typeUri", "version", "digest", "bundle"] v)
  let typeUri ← text? v "typeUri"
  let version ← positive? v "version"
  let digest ← text? v "digest"
  return ⟨typeUri, version, digest, property v "bundle"⟩

/-- The shape of `supportingProofs`. -/
def readProofs (v : Json) : Option (List SupportingProof) :=
  match v with
  | .arr items => items.mapM readProof
  | _ => none

/-- The shape of `SignedStatementBundleV1`. -/
def readBundle (v : Json) : Option SignedBundle := do
  guard (hasOnly ["envelopeVersion", "payloadType", "payload", "signature", "supportingProofs"] v)
  guard (text? v "envelopeVersion" = some "tasq.signed-statement-envelope.v1")
  guard (text? v "payloadType" = some payloadType)
  let payload ← text? v "payload"
  let signature ← property v "signature"
  guard (hasOnly ["profileUri", "profileVersion", "keyId", "value"] signature)
  let profileUri ← text? signature "profileUri"
  let profileVersion ← positive? signature "profileVersion"
  let keyId ← text? signature "keyId"
  let value ← text? signature "value"
  let supportingProofs ← (property v "supportingProofs").bind readProofs
  return ⟨payload, profileUri, profileVersion, keyId, value, supportingProofs⟩

/-- What `SignedStatementBundleV1` says of a bundle. -/
def IsBundle (b : SignedBundle) : Prop :=
  IsBase64url b.payload ∧ IsAbsoluteUri b.profileUri ∧ IsPortable b.keyId ∧ IsBase64url b.value ∧
    b.supportingProofs.length ≤ 16 ∧
    ∀ p ∈ b.supportingProofs, IsAbsoluteUri p.typeUri ∧ IsDigest p.digest

instance (b : SignedBundle) : Decidable (IsBundle b) := by unfold IsBundle; infer_instance

/-- `SignedStatementBundleV1.parse(input)`, when it does not throw. -/
def parseBundle (input : Json) : Option SignedBundle :=
  (readBundle input).filter fun b => IsBundle b

/-! ### Credentials -/

/-- `SigningCredentialStatus` -/
inductive CredentialStatus where
  | pending | active | suspended | revoked | compromised | retired
  deriving DecidableEq, Repr

/-- The text of a status. -/
def CredentialStatus.text : CredentialStatus → String
  | pending => "pending"
  | active => "active"
  | suspended => "suspended"
  | revoked => "revoked"
  | compromised => "compromised"
  | retired => "retired"

/-- `SigningCredentialIsolationClass` -/
inductive IsolationClass where
  | sharedUserSoftware | isolatedProcess | hardware | kms | webauthn | workloadIdentity
  deriving DecidableEq, Repr

/-- `SigningCredentialV1` -/
structure Credential where
  credentialId : String
  workspaceId : String
  principalId : String
  profileUri : String
  profileVersion : ℕ+
  publicMaterial : Option Json
  publicMaterialDigest : String
  trustRootDigest : String
  isolationClass : IsolationClass
  status : CredentialStatus
  revision : ℕ+
  validFrom : String
  expiresAt : Option String
  replacesCredentialId : Option String
  enrollmentMethod : String
  enrollmentEvidenceDigest : String
  deriving DecidableEq

/-- What `SigningCredentialV1` says of a credential. -/
def IsCredential (c : Credential) : Prop :=
  IsPortable c.credentialId ∧ IsPortable c.workspaceId ∧ IsPortable c.principalId ∧
    IsAbsoluteUri c.profileUri ∧ IsDigest c.publicMaterialDigest ∧
    IsDigest c.trustRootDigest ∧ rt.isDateTime c.validFrom = true ∧
    (∀ time ∈ c.expiresAt, rt.isDateTime time = true) ∧
    (∀ id ∈ c.replacesCredentialId, IsPortable id) ∧ IsText 200 c.enrollmentMethod ∧
    IsDigest c.enrollmentEvidenceDigest

instance (c : Credential) : Decidable (IsCredential rt c) := by
  unfold IsCredential; infer_instance

end Tasq.Statements
