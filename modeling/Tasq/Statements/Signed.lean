import Mathlib.Tactic
import Tasq.Statements.Schema

/-! Signing a statement for one purpose, and verifying the bundle that carries it.

    The signature is over the payload type and the payload bytes. The verifier then reads the bytes
    as a statement, and checks bindings, windows and the nonce in this order. -/

namespace Tasq.Statements

open Text Outcome Json Bytes Custody Bundles

/-! ### Encoding -/

/-- `TextEncoder.encode` -/
def encode (s : String) : List UInt8 := utf8 s.toList

/-- The space between the parts of an encoding. -/
def space : UInt8 := 0x20

/-- `statementPreAuthenticationEncoding` -/
def preAuthenticationEncoding (type : String) (payload : List UInt8) : List UInt8 :=
  encode "DSSEv1 " ++ (encode (toString (encode type).length) ++ space :: (encode type ++
    space :: (encode (toString payload.length) ++ space :: payload)))

/-- `decodeBase64url`, when it does not throw. -/
def decodeBase64url (value : String) : Option (List UInt8) :=
  let decoded := ofBase64url value.toList
  if matchesBase64url value = true ∧ base64url decoded = value.toList then some decoded else none

/-- The bytes of U+FEFF. -/
def byteOrderMark : List UInt8 := [0xEF, 0xBB, 0xBF]

/-- `new TextDecoder("utf-8", { fatal: true }).decode(bytes)`, when it does not throw. A byte order
    mark at the start is dropped. -/
def decodeText (bytes : List UInt8) : Option (List Char) :=
  strictText? (if byteOrderMark <+: bytes then bytes.drop 3 else bytes)

variable (rt : StatementRuntime)

/-- `sha` -/
def sha (bytes : List UInt8) : String := String.ofList ("sha256:".toList ++ Bytes.hex (rt.sha256 bytes))

/-! ### Signing -/

/-- `PurposeBoundStatementSigner`, of the one profile. -/
structure Signer where
  credentialId : String
  allowedPurposeUris : List String
  signStatement : String → List UInt8 → List UInt8 → Except String (List UInt8)

/-- `ED25519_STATEMENT_PROFILE_URI` -/
def profileUri : String := "https://schemas.tasq.dev/signatures/ed25519/v1"

/-- The version of the profile. -/
def profileVersion : ℕ+ := ⟨1, Nat.one_pos⟩

/-- The bundle of a payload and a signature. -/
def signedBundle (credentialId : String) (payload signature : List UInt8) : SignedBundle where
  payload := String.ofList (base64url payload)
  profileUri := profileUri
  profileVersion := profileVersion
  keyId := credentialId
  value := String.ofList (base64url signature)
  supportingProofs := []

/-- `signPurposeBoundStatement` -/
def signPurposeBoundStatement (input : Json) (signer : Signer) : Except String SignedBundle := do
  let payload ← demand (parsePayload rt input) "SignedStatementPayloadV1"
  refuse (payload.credentialId ≠ signer.credentialId) "signer credential mismatch"
  refuse (payload.purpose.uri ∉ signer.allowedPurposeUris) "signer purpose denied"
  let text ← canonicalizeEffectJson payload.json
  let canonicalPayload := utf8 text
  let signature ← signer.signStatement payload.purpose.uri canonicalPayload
    (preAuthenticationEncoding payloadType canonicalPayload)
  refuse (signature.length ≠ 64) "Ed25519 signature must be exactly 64 bytes"
  let bundle := signedBundle signer.credentialId canonicalPayload signature
  refuse (¬ IsBundle bundle) "SignedStatementBundleV1"
  return bundle

/-! ### Verifying -/

inductive VerificationOutcome where
  | valid | invalid | indeterminate
  deriving DecidableEq, Repr

/-- `StatementVerificationResult` -/
structure VerificationResult where
  outcome : VerificationOutcome
  reasonCode : String
  payload : Option StatementPayload
  statementDigest : Option String
  bundleDigest : String
  credential : Option Credential
  deriving DecidableEq

/-- What a nonce is consumed for. -/
structure NonceUse where
  workspaceId : String
  purposeUri : String
  nonce : String
  statementId : String
  deriving DecidableEq, Repr

/-- The input of `verifyPurposeBoundStatement`, for a host with a state of its own. A credential
    that is not there, or not of the shape of one, is `none`. -/
structure VerifyInput (σ : Type*) where
  bundle : Json
  expectedWorkspaceId : String
  expectedAudience : String
  acceptanceTime : String
  acceptedTrustRootDigests : Option (List String)
  resolveCredential : String → Option Credential
  consumeNonce : Option (σ → NonceUse → Bool × σ)

/-- `bundleDigest` -/
def bundleDigest (bundle : Json) : String :=
  match canonicalizeEffectJson bundle with
  | .ok text => sha rt (utf8 text)
  | .error _ => sha rt (encode "invalid-bundle")

/-- `result` -/
def result (bundle : Json) (outcome : VerificationOutcome) (reasonCode : String) :
    VerificationResult :=
  ⟨outcome, reasonCode, none, none, bundleDigest rt bundle, none⟩

/-- The public key of a credential, when its material is as it says. -/
def publicKey (credential : Credential) : Option (List UInt8) := do
  let material ← credential.publicMaterial
  guard (text? material "format" = some "jwk-okp-ed25519")
  let x ← text? material "x"
  let key ← decodeBase64url x
  guard (key.length = 32)
  let text ← (canonicalizeEffectJson material).toOption
  guard (sha rt (utf8 text) = credential.publicMaterialDigest)
  guard (rt.isPublicKey key = true)
  return key

/-- The payload bytes, the signature and the key that the signature is checked with. -/
def cryptographicMaterial (bundle : SignedBundle) (credential : Credential) :
    Option (List UInt8 × List UInt8 × List UInt8) := do
  let payloadBytes ← decodeBase64url bundle.payload
  let signature ← decodeBase64url bundle.value
  guard (signature.length = 64)
  let key ← publicKey rt credential
  return (payloadBytes, signature, key)

/-- The statement that the payload bytes are the text of. -/
def readStatement (payloadBytes : List UInt8) : Option StatementPayload := do
  let text ← decodeText payloadBytes
  let value ← parse text
  let payload ← parsePayload rt value
  guard (canonicalizeEffectJson payload.json = .ok text)
  return payload

/-- The acceptance time is in the windows, as far as `Date.parse` reads their bounds. -/
def InWindows (acceptedAt : ℤ) (credential : Credential) (payload : StatementPayload) : Prop :=
  (∀ start ∈ rt.dateParse credential.validFrom, start ≤ acceptedAt) ∧
    (∀ time ∈ credential.expiresAt, ∀ expiry ∈ rt.dateParse time, acceptedAt < expiry) ∧
    (∀ time ∈ payload.notBefore, ∀ start ∈ rt.dateParse time, start ≤ acceptedAt) ∧
    ∀ time ∈ payload.expiresAt, ∀ expiry ∈ rt.dateParse time, acceptedAt < expiry

instance (acceptedAt : ℤ) (credential : Credential) (payload : StatementPayload) :
    Decidable (InWindows rt acceptedAt credential payload) := by
  unfold InWindows; infer_instance

/-- What a statement was accepted with, before its nonce. -/
structure Accepted where
  bundle : SignedBundle
  credential : Credential
  payloadBytes : List UInt8
  payload : StatementPayload

/-- `verifyPurposeBoundStatement`, up to the nonce; an early return is an error. -/
def checkStatement {σ : Type*} (input : VerifyInput σ) : Except VerificationResult Accepted := do
  let bundle ← demand (parseBundle input.bundle) (result rt input.bundle .invalid "bundle_invalid")
  let bundleResult := result rt bundle.json .invalid "verification_failed"
  refuse (bundle.profileUri ≠ profileUri ∨ bundle.profileVersion ≠ profileVersion)
    { bundleResult with reasonCode := "profile_unsupported" }
  let credential ← demand ((input.resolveCredential bundle.keyId).filter fun c => IsCredential rt c)
    { bundleResult with outcome := .indeterminate, reasonCode := "credential_unavailable" }
  let known := { bundleResult with credential := some credential }
  refuse (credential.profileUri ≠ bundle.profileUri ∨
      credential.profileVersion ≠ bundle.profileVersion ∨ credential.credentialId ≠ bundle.keyId)
    { known with reasonCode := "credential_profile_mismatch" }
  refuse (∃ roots ∈ input.acceptedTrustRootDigests, credential.trustRootDigest ∉ roots)
    { known with reasonCode := "credential_trust_root_denied" }
  let (payloadBytes, signature, key) ← demand (cryptographicMaterial rt bundle credential)
    { known with reasonCode := "cryptographic_material_invalid" }
  refuse (rt.verifySignature key (preAuthenticationEncoding payloadType payloadBytes) signature =
    false) { known with reasonCode := "signature_invalid" }
  let payload ← demand (readStatement rt payloadBytes)
    { known with reasonCode := "payload_noncanonical_or_invalid" }
  let read :=
    { known with payload := some payload, statementDigest := some (sha rt payloadBytes) }
  let acceptedAt ← demand (rt.dateParse input.acceptanceTime)
    { read with outcome := .indeterminate, reasonCode := "acceptance_time_invalid" }
  refuse (payload.workspaceId ≠ input.expectedWorkspaceId ∨
      payload.audience ≠ input.expectedAudience ∨
      payload.issuerPrincipalId ≠ credential.principalId ∨
      payload.credentialId ≠ credential.credentialId ∨
      payload.workspaceId ≠ credential.workspaceId)
    { read with reasonCode := "binding_mismatch" }
  refuse (credential.status ≠ .active)
    { read with reasonCode := "credential_" ++ credential.status.text }
  refuse (¬ InWindows rt acceptedAt credential payload)
    { read with reasonCode := "validity_window_failed" }
  return ⟨bundle, credential, payloadBytes, payload⟩

/-- What the nonce of a statement is consumed for. -/
def StatementPayload.nonceUse (p : StatementPayload) : NonceUse :=
  ⟨p.workspaceId, p.purpose.uri, p.nonce, p.statementId⟩

/-- What the verifier answers about an accepted statement. -/
def Accepted.result (a : Accepted) (outcome : VerificationOutcome) (reasonCode : String) :
    VerificationResult :=
  ⟨outcome, reasonCode, some a.payload, some (sha rt a.payloadBytes),
    bundleDigest rt a.bundle.json, some a.credential⟩

/-- `verifyPurposeBoundStatement`, with the state of the host after it. -/
def verifyPurposeBoundStatement {σ : Type*} (input : VerifyInput σ) (s : σ) :
    VerificationResult × σ :=
  match checkStatement rt input with
  | .error answer => (answer, s)
  | .ok accepted =>
    match input.consumeNonce with
    | none => (accepted.result rt .valid "valid_at_acceptance", s)
    | some consume =>
      let (fresh, s') := consume s accepted.payload.nonceUse
      if fresh then (accepted.result rt .valid "valid_at_acceptance", s')
      else (accepted.result rt .invalid "nonce_reused", s')

end Tasq.Statements
