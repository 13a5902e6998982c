import Mathlib.Tactic
import Tasq.Bundles.Bundle

/-! Signed outcome bundles: an envelope carries the bytes of a canonical text, and verifying it
    reads the text back.

    What signing makes always verifies. The other direction depends on the bytes: the reader of the
    payload replaces what is not UTF-8, so a payload need not be the bytes of its bundle. -/

namespace Tasq.Bundles

open Text Outcome Json Bytes Custody

variable (rt : BundleRuntime)

/-! ### Signing -/

/-- A bundle as the program holds it: no object has a key twice. -/
structure BundleObject where
  value : Json
  value_distinct : value.distinct = true

/-- `OutcomeBundleSigner` -/
structure OutcomeBundleSigner where
  keyId : String
  sign : List UInt8 → Except String (List UInt8)

/-- `SignedOutcomeBundleV1` -/
structure SignedOutcomeBundle where
  contractVersion : String
  payloadType : String
  payload : String
  payloadDigest : String
  keyId : String
  signature : String
  assurance : String

/-- `serializeOutcomeBundle` -/
def serializeOutcomeBundle (bundle : Json) : Except String (List UInt8) := do
  let text ← canonicalizeEffectJson bundle
  return utf8 text

/-- `signOutcomeBundle` -/
def signOutcomeBundle (bundle : BundleObject) (signer : OutcomeBundleSigner) :
    Except String SignedOutcomeBundle := do
  let payload ← serializeOutcomeBundle bundle.value
  let signature ← signer.sign payload
  refuse (signature = []) "empty outcome bundle signature"
  return {
    contractVersion := "tasq.signed-outcome-bundle.v1"
    payloadType := "application/vnd.tasq.outcome-bundle.v1+json"
    payload := String.ofList (base64url payload)
    payloadDigest := digestBytes rt payload
    keyId := signer.keyId
    signature := String.ofList (base64url signature)
    assurance := "signature_authenticates_exact_bundle_bytes_not_real_world_truth" }

/-! ### Verifying -/

inductive EnvelopeOutcome where
  | valid | invalid
  deriving DecidableEq, Repr

/-- What `verifySignedOutcomeBundle` answers. -/
structure EnvelopeVerdict where
  outcome : EnvelopeOutcome
  reasonCode : String
  bundle : Option Json
  deriving DecidableEq

/-- The bytes that an envelope carries. -/
def SignedOutcomeBundle.bytes (envelope : SignedOutcomeBundle) : List UInt8 :=
  ofBase64url envelope.payload.toList

/-- `verifySignedOutcomeBundle`, once the signature is accepted. -/
def readPayload (payload : List UInt8) : EnvelopeVerdict :=
  let text := toText payload
  match parse text with
  | some bundle =>
    if canonicalizeEffectJson bundle = .ok text then
      ⟨.valid, "exact_bundle_bytes_authenticated", some bundle⟩
    else ⟨.invalid, "payload_invalid", none⟩
  | none => ⟨.invalid, "payload_invalid", none⟩

/-- `verifySignedOutcomeBundle` -/
def verifySignedOutcomeBundle (verify : String → List UInt8 → List UInt8 → Except String Bool)
    (envelope : SignedOutcomeBundle) : Except String EnvelopeVerdict := do
  let payload := envelope.bytes
  let signature := ofBase64url envelope.signature.toList
  if base64url payload = envelope.payload.toList ∧
      digestBytes rt payload = envelope.payloadDigest then
    let accepted ← verify envelope.keyId payload signature
    if accepted then return readPayload payload
    else return ⟨.invalid, "signature_invalid", none⟩
  else return ⟨.invalid, "envelope_integrity_failed", none⟩

/-! ### The bytes of a text -/

theorem canonicalizeEffectJson_eq_ok {value : Json} {text : List Char} :
    canonicalizeEffectJson value = .ok text ↔
      Within effectLimits value ∧ serialize value = text := by
  unfold canonicalizeEffectJson
  split <;> simp_all

theorem serializeOutcomeBundle_eq_ok {bundle : Json} {bytes : List UInt8} :
    serializeOutcomeBundle bundle = .ok bytes ↔
      Within effectLimits bundle ∧ utf8 (serialize bundle) = bytes := by
  simp only [serializeOutcomeBundle, bind_eq_ok, canonicalizeEffectJson_eq_ok, pure_eq_ok]
  constructor
  · rintro ⟨text, ⟨hwithin, rfl⟩, hbytes⟩
    exact ⟨hwithin, hbytes⟩
  · rintro ⟨hwithin, hbytes⟩
    exact ⟨_, ⟨hwithin, rfl⟩, hbytes⟩

/-- CORRECT: the bytes of a bundle are read back as its canonical form. -/
theorem readPayload_serialize {bundle : Json} (hdistinct : bundle.distinct = true)
    {bytes : List UInt8} (h : serializeOutcomeBundle bundle = .ok bytes) :
    readPayload bytes =
      ⟨.valid, "exact_bundle_bytes_authenticated", some bundle.canonical⟩ := by
  obtain ⟨hwithin, rfl⟩ := serializeOutcomeBundle_eq_ok.1 h
  have hcanonical : canonicalizeEffectJson bundle.canonical = .ok (serialize bundle) :=
    canonicalizeEffectJson_eq_ok.2
      ⟨(within_canonical _ _).2 hwithin, serialize_canonical hdistinct⟩
  rw [readPayload, toText_utf8, parse_serialize hwithin.1 hdistinct]
  exact if_pos hcanonical

/-- What a payload that is read gives: the text read from it is the canonical one. -/
theorem readPayload_valid {bytes : List UInt8} {reason : String} {bundle : Option Json}
    (h : readPayload bytes = ⟨.valid, reason, bundle⟩) :
    ∃ b, bundle = some b ∧ Within effectLimits b ∧ serialize b = toText bytes := by
  unfold readPayload at h
  dsimp only at h
  split at h
  · rename_i b hb
    split at h
    · rename_i hcanonical
      simp only [EnvelopeVerdict.mk.injEq, true_and] at h
      exact ⟨b, h.2.symm, canonicalizeEffectJson_eq_ok.1 hcanonical⟩
    · simp at h
  · simp at h

/-- EXACT: the text read from bytes has those bytes exactly when they are UTF-8. -/
theorem utf8_toText_iff {bytes : List UInt8} :
    utf8 (toText bytes) = bytes ↔ ∃ text, utf8 text = bytes := by
  constructor
  · exact fun h => ⟨_, h⟩
  · rintro ⟨text, rfl⟩
    rw [toText_utf8]

/-! ### Envelopes -/

variable {rt}

/-- The envelope that signing makes. -/
theorem signOutcomeBundle_eq_ok {bundle : BundleObject} {signer : OutcomeBundleSigner}
    {envelope : SignedOutcomeBundle} (h : signOutcomeBundle rt bundle signer = .ok envelope) :
    ∃ payload signature, serializeOutcomeBundle bundle.value = .ok payload ∧
      signer.sign payload = .ok signature ∧ envelope.keyId = signer.keyId ∧
      envelope.payload.toList = base64url payload ∧
      envelope.payloadDigest = digestBytes rt payload ∧
      envelope.signature.toList = base64url signature := by
  simp only [signOutcomeBundle, bind_eq_ok, refuse_eq_ok, pure_eq_ok] at h
  obtain ⟨payload, hpayload, signature, hsignature, -, -, rfl⟩ := h
  exact ⟨payload, signature, hpayload, hsignature, rfl, String.toList_ofList, rfl,
    String.toList_ofList⟩

/-- What a valid envelope has been checked for. -/
theorem verifySignedOutcomeBundle_valid
    {verify : String → List UInt8 → List UInt8 → Except String Bool}
    {envelope : SignedOutcomeBundle} {reason : String} {bundle : Option Json}
    (h : verifySignedOutcomeBundle rt verify envelope = .ok ⟨.valid, reason, bundle⟩) :
    digestBytes rt envelope.bytes = envelope.payloadDigest ∧
      readPayload envelope.bytes = ⟨.valid, reason, bundle⟩ := by
  unfold verifySignedOutcomeBundle at h
  dsimp only at h
  split at h
  · rename_i hintegrity
    obtain ⟨accepted, -, h⟩ := (bind_eq_ok _ _ _).1 h
    cases accepted with
    | true => exact ⟨hintegrity.2, by simpa [pure_eq_ok] using h⟩
    | false => simp [pure_eq_ok] at h
  · simp [pure_eq_ok] at h

/-- CORRECT: what signing makes verifies, and gives the canonical form of the bundle. -/
theorem verify_signOutcomeBundle {bundle : BundleObject} {signer : OutcomeBundleSigner}
    {envelope : SignedOutcomeBundle} (h : signOutcomeBundle rt bundle signer = .ok envelope)
    {verify : String → List UInt8 → List UInt8 → Except String Bool}
    (haccepts : ∀ bytes signature, signer.sign bytes = .ok signature →
      verify signer.keyId bytes signature = .ok true) :
    verifySignedOutcomeBundle rt verify envelope =
      .ok ⟨.valid, "exact_bundle_bytes_authenticated", some bundle.value.canonical⟩ := by
  obtain ⟨payload, signature, hpayload, hsignature, hkey, htext, hdigest, hsigned⟩ :=
    signOutcomeBundle_eq_ok h
  have hbytes : envelope.bytes = payload := by
    rw [SignedOutcomeBundle.bytes, htext, ofBase64url_base64url]
  rw [verifySignedOutcomeBundle, hbytes, hsigned, ofBase64url_base64url, hkey,
    haccepts payload signature hsignature, if_pos ⟨htext.symm, hdigest.symm⟩]
  simp only [ok_bind, if_true]
  rw [readPayload_serialize bundle.value_distinct hpayload]
  rfl

/-- EXACT: a valid envelope carries the bytes of its bundle exactly when the payload is UTF-8. -/
theorem valid_bytes_iff {verify : String → List UInt8 → List UInt8 → Except String Bool}
    {envelope : SignedOutcomeBundle} {reason : String} {bundle : Json}
    (h : verifySignedOutcomeBundle rt verify envelope = .ok ⟨.valid, reason, some bundle⟩) :
    (serializeOutcomeBundle bundle = .ok envelope.bytes ∧
        envelope.payloadDigest = digestBytes rt envelope.bytes) ↔
      ∃ text, utf8 text = envelope.bytes := by
  obtain ⟨hdigest, hread⟩ := verifySignedOutcomeBundle_valid h
  obtain ⟨_, hbundle, hwithin, htext⟩ := readPayload_valid hread
  obtain rfl := Option.some_inj.1 hbundle
  rw [serializeOutcomeBundle_eq_ok, htext, utf8_toText_iff]
  exact ⟨fun h => h.1.2, fun h => ⟨⟨hwithin, h⟩, hdigest.symm⟩⟩

/-- EXACT: what signing makes verifies and gives the bundle; a valid envelope carries the bytes of
    the bundle it gives, under their digest, exactly when its payload is UTF-8, and of such payloads
    one bundle has one. -/
theorem envelope_bytes_iff (rt : BundleRuntime) :
    (∀ (bundle : BundleObject) (signer : OutcomeBundleSigner) (envelope : SignedOutcomeBundle)
      (verify : String → List UInt8 → List UInt8 → Except String Bool),
      signOutcomeBundle rt bundle signer = .ok envelope →
      (∀ bytes signature, signer.sign bytes = .ok signature →
        verify signer.keyId bytes signature = .ok true) →
      verifySignedOutcomeBundle rt verify envelope =
        .ok ⟨.valid, "exact_bundle_bytes_authenticated", some bundle.value.canonical⟩) ∧
    (∀ (envelope : SignedOutcomeBundle)
      (verify : String → List UInt8 → List UInt8 → Except String Bool) (reason : String)
      (bundle : Json),
      verifySignedOutcomeBundle rt verify envelope = .ok ⟨.valid, reason, some bundle⟩ →
      ((serializeOutcomeBundle bundle = .ok envelope.bytes ∧
          envelope.payloadDigest = digestBytes rt envelope.bytes) ↔
        ∃ text, utf8 text = envelope.bytes)) ∧
    ∀ (envelope other : SignedOutcomeBundle)
      (verify : String → List UInt8 → List UInt8 → Except String Bool) (reason : String)
      (bundle : Json),
      verifySignedOutcomeBundle rt verify envelope = .ok ⟨.valid, reason, some bundle⟩ →
      verifySignedOutcomeBundle rt verify other = .ok ⟨.valid, reason, some bundle⟩ →
      (∃ text, utf8 text = envelope.bytes) → (∃ text, utf8 text = other.bytes) →
      envelope.bytes = other.bytes := by
  refine ⟨fun _ _ _ _ h haccepts => verify_signOutcomeBundle h haccepts,
    fun _ _ _ _ h => valid_bytes_iff h, ?_⟩
  intro envelope other verify reason bundle h hother htext hothertext
  have hbytes := ((valid_bytes_iff h).2 htext).1
  rw [((valid_bytes_iff hother).2 hothertext).1] at hbytes
  exact (Except.ok.inj hbytes).symm

/-- A platform whose digest of bytes is the bytes. -/
def exactRuntime : BundleRuntime := ⟨id, compare, inferInstance⟩

/-- A signer that signs everything with one byte. -/
def oneByteSigner : OutcomeBundleSigner := ⟨"k", fun _ => .ok [1]⟩

/-- The envelope of bytes that the signer makes. -/
def oneByteEnvelope (payload : List UInt8) : SignedOutcomeBundle where
  contractVersion := "tasq.signed-outcome-bundle.v1"
  payloadType := "application/vnd.tasq.outcome-bundle.v1+json"
  payload := String.ofList (base64url payload)
  payloadDigest := digestBytes exactRuntime payload
  keyId := "k"
  signature := String.ofList (base64url [1])
  assurance := "signature_authenticates_exact_bundle_bytes_not_real_world_truth"

/-- The verifier of the signer. -/
def oneByteVerify (keyId : String) (_ signature : List UInt8) : Except String Bool :=
  .ok (keyId = "k" ∧ signature = [1])

/-- An envelope that is signed verifies and carries the bytes of its bundle. -/
theorem envelope_bytes_plain :
    Ends (signOutcomeBundle exactRuntime ⟨.obj [("b", .num 1), ("a", .null)], by decide⟩
      oneByteSigner) fun envelope =>
        verifySignedOutcomeBundle exactRuntime oneByteVerify envelope =
          .ok ⟨.valid, "exact_bundle_bytes_authenticated",
            some (.obj [("a", .null), ("b", .num 1)])⟩ ∧
        serializeOutcomeBundle (.obj [("a", .null), ("b", .num 1)]) = .ok envelope.bytes := by
  obtain ⟨envelope, h, htext⟩ : Ends (signOutcomeBundle exactRuntime
      ⟨.obj [("b", .num 1), ("a", .null)], by decide⟩ oneByteSigner) fun envelope =>
        utf8 (toText envelope.bytes) = envelope.bytes := by
    decide +kernel
  have haccepts : ∀ bytes signature, oneByteSigner.sign bytes = .ok signature →
      oneByteVerify oneByteSigner.keyId bytes signature = .ok true := by
    intro bytes signature hsign
    obtain rfl := Except.ok.inj hsign
    rfl
  have hvalid := (envelope_bytes_iff exactRuntime).1 _ _ envelope oneByteVerify h haccepts
  exact ⟨envelope, h, hvalid,
    (((envelope_bytes_iff exactRuntime).2.1 _ _ _ _ hvalid).2 ⟨_, htext⟩).1⟩

/-- A payload with one field, `commitmentId`. -/
def commitmentBytes (commitmentId : List UInt8) : List UInt8 :=
  [0x7B, 0x22, 0x63, 0x6F, 0x6D, 0x6D, 0x69, 0x74, 0x6D, 0x65, 0x6E, 0x74, 0x49, 0x64, 0x22,
    0x3A, 0x22] ++ commitmentId ++ [0x22, 0x7D]

/-- NOT SO: a payload with a byte that no text has verifies, and gives the bundle of the payload
    that has the replacement character in its place. -/
theorem replaced_bytes_accepted :
    Ends (verifySignedOutcomeBundle exactRuntime oneByteVerify
        (oneByteEnvelope (commitmentBytes [0xFF]))) (fun verdict =>
      verdict.outcome = .valid ∧
      verifySignedOutcomeBundle exactRuntime oneByteVerify
        (oneByteEnvelope (commitmentBytes [0xEF, 0xBF, 0xBD])) = .ok verdict ∧
      verdict.bundle.map serializeOutcomeBundle = some (.ok (commitmentBytes [0xEF, 0xBF, 0xBD])) ∧
      (oneByteEnvelope (commitmentBytes [0xFF])).bytes ≠
        (oneByteEnvelope (commitmentBytes [0xEF, 0xBF, 0xBD])).bytes) := by
  decide +kernel

end Tasq.Bundles
