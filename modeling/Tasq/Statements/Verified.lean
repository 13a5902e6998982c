import Mathlib.Tactic
import Tasq.Lib.Answer
import Tasq.Statements.Exact

/-! What a run of verifications gives.

    A statement that is signed for an active credential verifies inside the windows. What verifies
    has the bindings that the host expects and the bytes of the statement, and a host that keeps its
    nonces lets one statement consume each. -/

namespace Tasq.Statements

open Text Outcome Json Bytes Custody Bundles

variable {rt : StatementRuntime} {σ : Type*}

/-! ### What is checked -/

/-- The credential is the one that the bundle names, of the profile, and under a trusted root. -/
def Trusted (rt : StatementRuntime) (input : VerifyInput σ) (b : SignedBundle) (c : Credential) :
    Prop :=
  (b.profileUri = profileUri ∧ b.profileVersion = profileVersion) ∧ IsCredential rt c ∧
    (c.profileUri = b.profileUri ∧ c.profileVersion = b.profileVersion ∧
      c.credentialId = b.keyId) ∧
    ∀ roots ∈ input.acceptedTrustRootDigests, c.trustRootDigest ∈ roots

/-- The statement is for this host, and by the principal of the credential. -/
def Bound (input : VerifyInput σ) (c : Credential) (p : StatementPayload) : Prop :=
  p.workspaceId = input.expectedWorkspaceId ∧ p.audience = input.expectedAudience ∧
    p.issuerPrincipalId = c.principalId ∧ p.credentialId = c.credentialId ∧
    p.workspaceId = c.workspaceId

/-- What an accepted statement has been checked for. -/
structure Checked (rt : StatementRuntime) (input : VerifyInput σ) (a : Accepted) : Prop where
  bundle : parseBundle input.bundle = some a.bundle
  resolved : input.resolveCredential a.bundle.keyId = some a.credential
  trusted : Trusted rt input a.bundle a.credential
  signed : ∃ signature key, cryptographicMaterial rt a.bundle a.credential =
    some (a.payloadBytes, signature, key) ∧
    rt.verifySignature key (preAuthenticationEncoding payloadType a.payloadBytes) signature = true
  read : readStatement rt a.payloadBytes = some a.payload
  bound : Bound input a.credential a.payload
  active : a.credential.status = .active
  inWindows : ∃ acceptedAt, rt.dateParse input.acceptanceTime = some acceptedAt ∧
    InWindows rt acceptedAt a.credential a.payload

/-- EXACT: the checks before the nonce. -/
theorem checkStatement_eq_ok {input : VerifyInput σ} {a : Accepted} :
    checkStatement rt input = .ok a ↔ Checked rt input a := by
  simp only [checkStatement, bind_eq_ok, demand_eq_ok, refuse_eq_ok, pure_eq_ok, Prod.exists,
    Option.filter_eq_some_iff, decide_eq_true_eq, not_or, not_not, not_exists, not_and,
    Bool.not_eq_false]
  constructor
  · rintro ⟨bundle, hbundle, -, ⟨huri, hversion⟩, credential, ⟨hresolved, hcredential⟩, -, hprofile,
      -, hroots, payloadBytes, signature, key, hmaterial, -, hsignature, payload, hread, acceptedAt,
      htime, -, hbound, -, hactive, -, hwindows, rfl⟩
    exact ⟨hbundle, hresolved, ⟨⟨huri, hversion⟩, hcredential, hprofile, hroots⟩,
      ⟨signature, key, hmaterial, hsignature⟩, hread, hbound, hactive,
      ⟨acceptedAt, htime, hwindows⟩⟩
  · rintro ⟨hbundle, hresolved, ⟨⟨huri, hversion⟩, hcredential, hprofile, hroots⟩,
      ⟨signature, key, hmaterial, hsignature⟩, hread, hbound, hactive,
      ⟨acceptedAt, htime, hwindows⟩⟩
    exact ⟨a.bundle, hbundle, (), ⟨huri, hversion⟩, a.credential, ⟨hresolved, hcredential⟩, (),
      hprofile, (), hroots, a.payloadBytes, signature, key, hmaterial, (), hsignature, a.payload,
      hread, acceptedAt, htime, (), hbound, (), hactive, (), hwindows, rfl⟩

/-- An early return is no valid answer. -/
theorem checkStatement_answers (input : VerifyInput σ) :
    Answers (fun answer => answer.outcome ≠ .valid) (checkStatement rt input) fun _ => True := by
  simp only [checkStatement, answers_bind, answers_refuse, answers_demand, answers_pure, result,
    ne_eq, reduceCtorEq, not_false_eq_true, implies_true, and_self]

/-- EXACT: the verifier answers valid for a statement that passes the checks and whose nonce the
    host takes, where it takes nonces at all. -/
theorem verify_valid_iff {input : VerifyInput σ} {s s' : σ} {answer : VerificationResult} :
    verifyPurposeBoundStatement rt input s = (answer, s') ∧ answer.outcome = .valid ↔
      ∃ a, Checked rt input a ∧ answer = a.result rt .valid "valid_at_acceptance" ∧
        input.consumeNonce.elim (s' = s) fun consume =>
          consume s a.payload.nonceUse = (true, s') := by
  have hanswers := @checkStatement_answers rt _ input
  simp only [← checkStatement_eq_ok]
  unfold verifyPurposeBoundStatement
  cases hcheck : checkStatement rt input with
  | error early =>
    rw [hcheck, answers_error] at hanswers
    simp only [Prod.mk.injEq, reduceCtorEq, false_and, exists_false, iff_false, not_and]
    rintro ⟨rfl, -⟩
    exact hanswers
  | ok a =>
    simp only [Except.ok.injEq, exists_eq_left']
    cases input.consumeNonce with
    | none =>
      simp only [Prod.mk.injEq, Option.elim_none]
      constructor
      · rintro ⟨⟨rfl, rfl⟩, -⟩
        exact ⟨rfl, rfl⟩
      · rintro ⟨rfl, rfl⟩
        exact ⟨⟨rfl, rfl⟩, rfl⟩
    | some consume =>
      rcases hconsumed : consume s a.payload.nonceUse with ⟨fresh, s₁⟩
      cases fresh with
      | true =>
        simp only [Prod.mk.injEq, Option.elim_some, hconsumed, if_true, true_and]
        constructor
        · rintro ⟨⟨rfl, rfl⟩, -⟩
          exact ⟨rfl, rfl⟩
        · rintro ⟨rfl, rfl⟩
          exact ⟨⟨rfl, rfl⟩, rfl⟩
      | false =>
        simp only [Prod.mk.injEq, Option.elim_some, hconsumed, Bool.false_eq_true, if_false,
          false_and, and_false, iff_false]
        rintro ⟨⟨rfl, -⟩, hvalid⟩
        cases hvalid

theorem verify_valid {input : VerifyInput σ} {s : σ}
    (h : (verifyPurposeBoundStatement rt input s).1.outcome = .valid) :
    ∃ a, Checked rt input a ∧
      (verifyPurposeBoundStatement rt input s).1 = a.result rt .valid "valid_at_acceptance" ∧
      input.consumeNonce.elim ((verifyPurposeBoundStatement rt input s).2 = s) fun consume =>
        consume s a.payload.nonceUse = (true, (verifyPurposeBoundStatement rt input s).2) :=
  verify_valid_iff.1 ⟨rfl, h⟩

/-! ### Exact bytes -/

/-- EXACT: the bytes of a statement that is read are the canonical ones, unless they start with a
    byte order mark. -/
theorem readStatement_bytes {bytes : List UInt8} {p : StatementPayload}
    (h : readStatement rt bytes = some p) (hmark : ¬ byteOrderMark <+: bytes) :
    ∃ text, canonicalizeEffectJson p.json = .ok text ∧ utf8 text = bytes := by
  simp only [readStatement, Option.bind_eq_bind, Option.bind_eq_some_iff, Option.guard_eq_some',
    decodeText, if_neg hmark] at h
  obtain ⟨text, htext, value, -, p', -, -, hcanonical, hp⟩ := h
  obtain rfl := Option.some_inj.1 hp
  exact ⟨text, hcanonical, strictText?_eq_some.1 htext⟩

/-- NOT SO: a byte order mark before the bytes of a statement is not noticed. -/
theorem readStatement_byteOrderMark {bytes : List UInt8} (h : ¬ byteOrderMark <+: bytes) :
    readStatement rt (byteOrderMark ++ bytes) = readStatement rt bytes := by
  have hdecode : decodeText (byteOrderMark ++ bytes) = decodeText bytes := by
    rw [decodeText, decodeText, if_pos (List.prefix_append _ _), if_neg h]
    rfl
  rw [readStatement, readStatement, hdecode]

/-! ### Signing, then verifying -/

theorem decodeBase64url_base64url {bytes : List UInt8}
    (h : matchesBase64url (String.ofList (base64url bytes)) = true) :
    decodeBase64url (String.ofList (base64url bytes)) = some bytes := by
  unfold decodeBase64url
  simp only [String.toList_ofList, ofBase64url_base64url, h, and_self, if_true]

/-- CORRECT: a bundle without supporting proofs is read back. -/
theorem readBundle_json {b : SignedBundle} (h : b.supportingProofs = []) :
    readBundle b.json = some b := by
  obtain ⟨payload, uri, version, keyId, value, proofs⟩ := b
  simp only at h
  subst h
  have hversion : positive? (SignedBundle.signatureJson ⟨payload, uri, version, keyId, value, []⟩)
      "profileVersion" = some version := positive?_of rfl
  unfold readBundle
  simp only [Option.bind_eq_bind]
  rw [show property (SignedBundle.json ⟨payload, uri, version, keyId, value, []⟩) "signature" =
    some (SignedBundle.signatureJson ⟨payload, uri, version, keyId, value, []⟩) from rfl]
  simp only [Option.bind_some, hversion]
  rfl

theorem readPayload_metadata {v : Json} {p : StatementPayload} (h : readPayload v = some p) :
    record? v "metadata" = some p.metadata := by
  unfold readPayload at h
  -- Two guards and fourteen fields stand before the metadata.
  iterate 16 obtain ⟨_, -, h⟩ := Option.bind_eq_some_iff.1 h
  obtain ⟨metadata, hmetadata, hp⟩ := Option.bind_eq_some_iff.1 h
  obtain rfl := Option.some_inj.1 hp
  exact hmetadata

/-- The metadata of a statement that is read has no key twice. -/
theorem parsePayload_distinct {v : Json} {p : StatementPayload} (hv : v.distinct = true)
    (h : parsePayload rt v = some p) : (Json.obj p.metadata).distinct = true := by
  rw [parsePayload, Option.filter_eq_some_iff] at h
  have hmetadata := readPayload_metadata h.1
  unfold record? at hmetadata
  split at hmetadata
  · rename_i fields hfields
    rw [← Option.some_inj.1 hmetadata]
    have hdistinct := property_distinct hv hfields
    rw [distinct, Bool.and_eq_true, decide_eq_true_eq, distinctFields_eq] at hdistinct ⊢
    refine ⟨hdistinct.1.sublist (List.filter_sublist.map _), ?_⟩
    rw [List.all_eq_true] at hdistinct ⊢
    exact fun f hf => hdistinct.2 f (List.mem_of_mem_filter hf)
  · cases hmetadata

/-- What signing has checked, and the bundle that it makes. -/
theorem signPurposeBoundStatement_eq_ok {input : Json} {signer : Signer} {bundle : SignedBundle}
    (h : signPurposeBoundStatement rt input signer = .ok bundle) :
    ∃ p text signature, parsePayload rt input = some p ∧ p.credentialId = signer.credentialId ∧
      canonicalizeEffectJson p.json = .ok text ∧
      signer.signStatement p.purpose.uri (utf8 text)
        (preAuthenticationEncoding payloadType (utf8 text)) = .ok signature ∧
      signature.length = 64 ∧ bundle = signedBundle signer.credentialId (utf8 text) signature ∧
      IsBundle bundle := by
  simp only [signPurposeBoundStatement, bind_eq_ok, demand_eq_ok, refuse_eq_ok, pure_eq_ok,
    not_not] at h
  obtain ⟨p, hp, -, hcredential, -, -, text, htext, signature, hsignature, -, hlength, -, hbundle,
    rfl⟩ := h
  exact ⟨p, text, signature, hp, hcredential, htext, hsignature, hlength, rfl, hbundle⟩

/-- An active credential for what the signer signs of the statement. -/
structure ActiveCredential (rt : StatementRuntime) (signer : Signer) (p : StatementPayload)
    (c : Credential) : Prop where
  admitted : IsCredential rt c
  profile : c.profileUri = profileUri ∧ c.profileVersion = 1
  credentialId : p.credentialId = c.credentialId
  principalId : p.issuerPrincipalId = c.principalId
  workspaceId : p.workspaceId = c.workspaceId
  active : c.status = .active
  key : ∃ key, publicKey rt c = some key ∧ ∀ uri bytes message signature,
    signer.signStatement uri bytes message = .ok signature →
      rt.verifySignature key message signature = true

/-- A verification of a bundle where it was meant to be used, at a time in the windows. -/
structure Expected (rt : StatementRuntime) (input : VerifyInput σ) (s : σ) (bundle : SignedBundle)
    (p : StatementPayload) (c : Credential) : Prop where
  bundle : input.bundle = bundle.json
  workspaceId : p.workspaceId = input.expectedWorkspaceId
  audience : p.audience = input.expectedAudience
  resolved : input.resolveCredential c.credentialId = some c
  root : ∀ roots ∈ input.acceptedTrustRootDigests, c.trustRootDigest ∈ roots
  inWindows : ∃ acceptedAt, rt.dateParse input.acceptanceTime = some acceptedAt ∧
    InWindows rt acceptedAt c p
  fresh : ∀ consume ∈ input.consumeNonce, (consume s p.nonceUse).1 = true

/-- CORRECT: a bundle that was signed for an active credential verifies, and gives the statement. -/
theorem verify_signPurposeBoundStatement {v : Json} (hv : v.distinct = true) {signer : Signer}
    {bundle : SignedBundle} (hsign : signPurposeBoundStatement rt v signer = .ok bundle)
    {p : StatementPayload} (hp : parsePayload rt v = some p) {c : Credential}
    (hc : ActiveCredential rt signer p c) {input : VerifyInput σ} {s : σ}
    (hexpected : Expected rt input s bundle p c) :
    (verifyPurposeBoundStatement rt input s).1.outcome = .valid ∧
      (verifyPurposeBoundStatement rt input s).1.payload = some p.canonical := by
  obtain ⟨p', text, signature, hp', hcredential, htext, hsignature, hlength, rfl, hbundle⟩ :=
    signPurposeBoundStatement_eq_ok hsign
  obtain rfl := Option.some_inj.1 (hp.symm.trans hp')
  have hpayload : IsPayload rt p := by
    rw [parsePayload, Option.filter_eq_some_iff, decide_eq_true_eq] at hp
    exact hp.2
  obtain ⟨key, hkey, hverifies⟩ := hc.key
  have hkeyId : signer.credentialId = c.credentialId := hcredential.symm.trans hc.credentialId
  have hmaterial : cryptographicMaterial rt (signedBundle signer.credentialId (utf8 text) signature)
      c = some (utf8 text, signature, key) := by
    unfold cryptographicMaterial
    rw [signedBundle, decodeBase64url_base64url hbundle.1.2.2,
      decodeBase64url_base64url hbundle.2.2.2.1.2.2, hkey]
    simp only [Option.bind_eq_bind, Option.bind_some, hlength]
    rfl
  have hchecked : Checked rt input ⟨signedBundle signer.credentialId (utf8 text) signature, c,
      utf8 text, p.canonical⟩ := by
    refine ⟨?_, ?_, ⟨⟨rfl, rfl⟩, hc.admitted, ⟨hc.profile.1, hc.profile.2, hkeyId.symm⟩,
      hexpected.root⟩, ⟨signature, key, hmaterial, hverifies _ _ _ _ hsignature⟩,
      readStatement_utf8 hpayload (parsePayload_distinct hv hp) htext,
      ⟨hexpected.workspaceId, hexpected.audience, hc.principalId, hc.credentialId,
        hc.workspaceId⟩, hc.active, hexpected.inWindows⟩
    · rw [parseBundle, hexpected.bundle, readBundle_json rfl, Option.filter_some,
        if_pos (decide_eq_true hbundle)]
    · exact hkeyId ▸ hexpected.resolved
  have hvalid : ∃ s', verifyPurposeBoundStatement rt input s =
      (Accepted.result rt ⟨signedBundle signer.credentialId (utf8 text) signature, c, utf8 text,
        p.canonical⟩ .valid "valid_at_acceptance", s') := by
    cases hconsume : input.consumeNonce with
    | none =>
      exact ⟨s, (verify_valid_iff.2 ⟨_, hchecked, rfl, by rw [hconsume]; rfl⟩).1⟩
    | some consume =>
      have hfresh := hexpected.fresh consume hconsume
      refine ⟨(consume s p.nonceUse).2, (verify_valid_iff.2 ⟨_, hchecked, rfl, ?_⟩).1⟩
      rw [hconsume]
      exact Prod.ext hfresh rfl
  obtain ⟨s', hanswer⟩ := hvalid
  rw [hanswer]
  exact ⟨rfl, rfl⟩

/-! ### Nonces over a run -/

/-- The nonce that is used, in its workspace and for its purpose. -/
def NonceUse.key (u : NonceUse) : String × String × String := (u.workspaceId, u.purposeUri, u.nonce)

/-- A host that keeps the statement that consumed each nonce. -/
structure NonceHost (σ : Type*) where
  consume : σ → NonceUse → Bool × σ
  /-- The statement that a nonce was consumed by. -/
  holder : σ → String × String × String → Option String
  holds : ∀ s u, (consume s u).1 = true → holder (consume s u).2 u.key = some u.statementId
  keeps : ∀ s u key id, holder s key = some id → holder (consume s u).2 key = some id

/-- One verification after another. -/
def verifyAll (rt : StatementRuntime) : List (VerifyInput σ) → σ → List VerificationResult × σ
  | [], s => ([], s)
  | input :: inputs, s =>
    let (answer, s') := verifyPurposeBoundStatement rt input s
    let (answers, s'') := verifyAll rt inputs s'
    (answer :: answers, s'')

section

variable (host : NonceHost σ)

/-- STEP: a verification keeps what the host knows of nonces. -/
theorem verify_keeps {input : VerifyInput σ} (hinput : input.consumeNonce = some host.consume)
    {s : σ} {key : String × String × String} {id : String} (h : host.holder s key = some id) :
    host.holder (verifyPurposeBoundStatement rt input s).2 key = some id := by
  unfold verifyPurposeBoundStatement
  cases checkStatement rt input with
  | error early => exact h
  | ok a =>
    simp only [hinput]
    have hkept := host.keeps s a.payload.nonceUse key id h
    split <;> exact hkept

/-- RUN: verifications keep what the host knows of nonces. -/
theorem verifyAll_keeps {inputs : List (VerifyInput σ)}
    (hinputs : ∀ input ∈ inputs, input.consumeNonce = some host.consume) {s : σ}
    {key : String × String × String} {id : String} (h : host.holder s key = some id) :
    host.holder (verifyAll rt inputs s).2 key = some id := by
  induction inputs generalizing s with
  | nil => exact h
  | cons input inputs ih =>
    exact ih (fun i hi => hinputs i (List.mem_cons_of_mem _ hi))
      (verify_keeps host (hinputs _ List.mem_cons_self) h)

/-- STEP: the nonce of a statement that verifies is held by the statement. -/
theorem verify_holds {input : VerifyInput σ} (hinput : input.consumeNonce = some host.consume)
    {s : σ} {p : StatementPayload}
    (hvalid : (verifyPurposeBoundStatement rt input s).1.outcome = .valid)
    (hp : (verifyPurposeBoundStatement rt input s).1.payload = some p) :
    host.holder (verifyPurposeBoundStatement rt input s).2 p.nonceUse.key = some p.statementId := by
  obtain ⟨a, -, hanswer, hconsumed⟩ := verify_valid hvalid
  rw [hanswer] at hp
  obtain rfl := Option.some_inj.1 hp
  rw [hinput, Option.elim_some] at hconsumed
  have hheld := host.holds s a.payload.nonceUse (by rw [hconsumed])
  rw [hconsumed] at hheld
  exact hheld

/-- RUN: the nonce of every statement that verifies is held by the statement. -/
theorem verifyAll_holds {inputs : List (VerifyInput σ)}
    (hinputs : ∀ input ∈ inputs, input.consumeNonce = some host.consume) {s : σ} :
    ∀ answer ∈ (verifyAll rt inputs s).1, answer.outcome = .valid → ∀ p, answer.payload = some p →
      host.holder (verifyAll rt inputs s).2 p.nonceUse.key = some p.statementId := by
  induction inputs generalizing s with
  | nil => exact fun answer h => absurd h List.not_mem_nil
  | cons input inputs ih =>
    have htail : ∀ i ∈ inputs, i.consumeNonce = some host.consume := fun i hi =>
      hinputs i (List.mem_cons_of_mem _ hi)
    intro answer hanswer hvalid p hp
    rcases List.mem_cons.1 hanswer with rfl | hanswer
    · exact verifyAll_keeps host htail (verify_holds host (hinputs _ List.mem_cons_self) hvalid hp)
    · exact ih htail answer hanswer hvalid p hp

end

/-! ### Signed statements -/

/-- CORRECT: the encoding is injective; what is signed for an active credential verifies inside the
    windows; what verifies binds what the host expects at a time in the windows, with the canonical
    bytes of the statement where they do not start with a byte order mark, and with its nonce where
    the host takes nonces, which then no other statement consumes. -/
theorem signed_statements_verify (rt : StatementRuntime) (σ : Type) :
    (∀ type type' payload payload', preAuthenticationEncoding type payload =
      preAuthenticationEncoding type' payload' → type = type' ∧ payload = payload') ∧
    (∀ (v : Json) (signer : Signer) (bundle : SignedBundle) (p : StatementPayload) (c : Credential)
      (input : VerifyInput σ) (s : σ), v.distinct = true →
      signPurposeBoundStatement rt v signer = .ok bundle → parsePayload rt v = some p →
      ActiveCredential rt signer p c → Expected rt input s bundle p c →
      (verifyPurposeBoundStatement rt input s).1.outcome = .valid ∧
        (verifyPurposeBoundStatement rt input s).1.payload = some p.canonical) ∧
    (∀ (input : VerifyInput σ) (s : σ),
      (verifyPurposeBoundStatement rt input s).1.outcome = .valid →
      ∃ a : Accepted, verifyPurposeBoundStatement rt input s =
          (a.result rt .valid "valid_at_acceptance", (verifyPurposeBoundStatement rt input s).2) ∧
        parseBundle input.bundle = some a.bundle ∧
        input.resolveCredential a.bundle.keyId = some a.credential ∧
        a.credential.credentialId = a.bundle.keyId ∧
        decodeBase64url a.bundle.payload = some a.payloadBytes ∧
        (¬ byteOrderMark <+: a.payloadBytes →
          ∃ text, canonicalizeEffectJson a.payload.json = .ok text ∧ utf8 text = a.payloadBytes) ∧
        Bound input a.credential a.payload ∧
        (∃ acceptedAt, rt.dateParse input.acceptanceTime = some acceptedAt ∧
          InWindows rt acceptedAt a.credential a.payload) ∧
        ∀ consume ∈ input.consumeNonce, (consume s a.payload.nonceUse).1 = true) ∧
    ∀ (host : NonceHost σ) (inputs : List (VerifyInput σ)) (s : σ),
      (∀ input ∈ inputs, input.consumeNonce = some host.consume) →
      ∀ answer ∈ (verifyAll rt inputs s).1, ∀ answer' ∈ (verifyAll rt inputs s).1,
        answer.outcome = .valid → answer'.outcome = .valid →
        ∀ p p', answer.payload = some p → answer'.payload = some p' →
          p.nonceUse.key = p'.nonceUse.key → p.statementId = p'.statementId := by
  refine ⟨fun _ _ _ _ h => preAuthenticationEncoding_injective h,
    fun v signer bundle p c input s hv hsign hp hc hexpected =>
      verify_signPurposeBoundStatement hv hsign hp hc hexpected, ?_, ?_⟩
  · intro input s hvalid
    obtain ⟨a, hchecked, hanswer, hconsumed⟩ := verify_valid hvalid
    obtain ⟨signature, key, hmaterial, -⟩ := hchecked.signed
    have hbytes : decodeBase64url a.bundle.payload = some a.payloadBytes := by
      unfold cryptographicMaterial at hmaterial
      obtain ⟨bytes, hdecode, hmaterial⟩ := Option.bind_eq_some_iff.1 hmaterial
      iterate 3 obtain ⟨_, -, hmaterial⟩ := Option.bind_eq_some_iff.1 hmaterial
      rw [hdecode, (Prod.mk.inj (Option.some_inj.1 hmaterial)).1]
    refine ⟨a, Prod.ext hanswer rfl, hchecked.bundle, hchecked.resolved,
      hchecked.trusted.2.2.1.2.2, hbytes, readStatement_bytes hchecked.read, hchecked.bound,
      hchecked.inWindows, ?_⟩
    intro consume hconsume
    rw [Option.mem_def.1 hconsume, Option.elim_some] at hconsumed
    rw [hconsumed]
  · intro host inputs s hinputs answer hanswer answer' hanswer' hvalid hvalid' p p' hp hp' hkey
    have hheld := @verifyAll_holds rt _ host _ hinputs _ answer hanswer hvalid p hp
    rw [hkey, verifyAll_holds host hinputs answer' hanswer' hvalid' p' hp'] at hheld
    exact (Option.some_inj.1 hheld).symm

/-! ### A plain statement -/

theorem digit_plain : ∀ n < 64, isBase64url (digit n) = true ∧ (charUnits (digit n)).length = 1 := by
  decide

theorem isBase64url_base64url {bytes : List UInt8} (hne : bytes ≠ [])
    (h : bytes.length ≤ 12288) : IsBase64url (String.ofList (base64url bytes)) := by
  have hdigits : ∀ c ∈ base64url bytes, isBase64url c = true ∧ (charUnits c).length = 1 := by
    intro c hc
    obtain ⟨n, hn, rfl⟩ := mem_base64url hc
    exact digit_plain n hn
  have hlength : utf16Length (String.ofList (base64url bytes)) = (base64url bytes).length := by
    rw [utf16Length, utf16, String.toList_ofList, List.length_flatMap]
    have hone : (base64url bytes).map (fun c => (charUnits c).length) =
        (base64url bytes).map fun _ => 1 :=
      List.map_congr_left fun c hc => (hdigits c hc).2
    rw [hone]
    simp
  have hpos := List.length_pos_iff.2 (base64url_ne_nil hne)
  have hbound := base64url_length_le bytes
  refine ⟨by omega, by omega, ?_⟩
  rw [matchesBase64url, String.toList_ofList, Bool.and_eq_true, decide_eq_true_eq,
    List.all_eq_true]
  exact ⟨base64url_ne_nil hne, fun c hc => (hdigits c hc).1⟩

theorem utf8_length (text : List Char) : (utf8 text).length = Json.bytes text := by
  rw [utf8, List.length_flatMap, Json.bytes]
  exact congrArg List.sum (List.map_congr_left fun c _ => String.length_utf8EncodeChar c)

/-- The epoch. -/
def epochText : String := "1970-01-01T00:00:00Z"

/-- A platform where every digest is zero, the epoch is the only time and every signature holds. -/
def plainStatementRuntime : StatementRuntime where
  sha256 _ := List.replicate 32 0
  isDateTime text := text = epochText
  dateParse text := if text = epochText then some 0 else none
  isPublicKey _ := true
  verifySignature _ _ _ := true

/-- The text of the digest. -/
def zeroDigest : String := String.ofList ("sha256:".toList ++ List.replicate 64 '0')

/-- A statement with one nonce. -/
def plainStatement (statementId : String) : StatementPayload where
  statementId := statementId
  workspaceId := "w"
  audience := "a:b"
  issuerPrincipalId := "p"
  credentialId := "c"
  purpose := ⟨"u:p", ⟨1, Nat.one_pos⟩⟩
  subject := ⟨"u:s", "s", none, zeroDigest⟩
  actionUri := none
  payloadDigest := none
  expectedRevision := none
  nonce := "n"
  issuedAt := epochText
  notBefore := none
  expiresAt := none
  metadata := []

/-- The key of 32 zeros, as a credential has it. -/
def plainMaterial : Json :=
  .obj [("format", .str "jwk-okp-ed25519"),
    ("x", .str (String.ofList (base64url (List.replicate 32 0))))]

def plainCredential : Credential where
  credentialId := "c"
  workspaceId := "w"
  principalId := "p"
  profileUri := profileUri
  profileVersion := profileVersion
  publicMaterial := some plainMaterial
  publicMaterialDigest := zeroDigest
  trustRootDigest := zeroDigest
  isolationClass := .isolatedProcess
  status := .active
  revision := ⟨1, Nat.one_pos⟩
  validFrom := epochText
  expiresAt := none
  replacesCredentialId := none
  enrollmentMethod := "m"
  enrollmentEvidenceDigest := zeroDigest

/-- A signer of 64 zeros. -/
def plainSigner : Signer := ⟨"c", ["u:p"], fun _ _ _ => .ok (List.replicate 64 0)⟩

/-- The bundle that the signer makes of a statement. -/
def plainBundle (statementId : String) : SignedBundle :=
  signedBundle "c" (utf8 (serialize (plainStatement statementId).json)) (List.replicate 64 0)

/-- A verification of the bundle. -/
def plainVerification (statementId : String) (consumeNonce : Option (ℕ → NonceUse → Bool × ℕ)) :
    VerifyInput ℕ where
  bundle := (plainBundle statementId).json
  expectedWorkspaceId := "w"
  expectedAudience := "a:b"
  acceptanceTime := epochText
  acceptedTrustRootDigests := none
  resolveCredential _ := some plainCredential
  consumeNonce := consumeNonce

theorem plainStatement_isPayload :
    IsPayload plainStatementRuntime (plainStatement "1") ∧
      IsPayload plainStatementRuntime (plainStatement "2") := by
  have hone : IsPayload plainStatementRuntime (plainStatement "1") := by decide +kernel
  exact ⟨hone, by decide +kernel, hone.2⟩

/-- The statements have small texts; they differ in one digit. -/
theorem plainStatement_within : ∀ id ∈ ["1", "2"],
    Within { effectLimits with bytes := 12288 } (plainStatement id).json := by
  have hone : Within { effectLimits with bytes := 12288 } (plainStatement "1").json := by
    decide +kernel
  have hbytes : Json.bytes (serialize (.str "2")) = Json.bytes (serialize (.str "1")) := by
    decide +kernel
  have hdigit : Json.size (.str "2") = Json.size (.str "1") := by
    rw [Json.size, Json.size, hbytes]
    rfl
  have hsize : Json.size (plainStatement "2").json = Json.size (plainStatement "1").json := by
    simp only [StatementPayload.json, size_obj, StatementPayload.entries, plainStatement, present,
      List.filterMap_cons, Option.map_some, Option.map_none, List.filterMap_nil, List.map_cons,
      Prod.map_apply, hdigit]
  intro id hid
  rcases List.mem_cons.1 hid with rfl | hid
  · exact hone
  · obtain rfl := List.mem_singleton.1 hid
    exact (within_of_size hsize).2 hone

theorem plainCredential_key : IsCredential plainStatementRuntime plainCredential ∧
    publicKey plainStatementRuntime plainCredential = some (List.replicate 32 0) := by
  decide +kernel

/-- The plain statements are signed, and verify for a host that has no say or says yes. -/
theorem plainStatement_verifies {id : String} (hid : id ∈ ["1", "2"])
    {consumeNonce : Option (ℕ → NonceUse → Bool × ℕ)} {s : ℕ}
    (hfresh : ∀ consume ∈ consumeNonce, (consume s (plainStatement id).nonceUse).1 = true) :
    (plainStatement id).json.canonical.distinct = true ∧
      signPurposeBoundStatement plainStatementRuntime (plainStatement id).json.canonical
        plainSigner = .ok (plainBundle id) ∧
      parsePayload plainStatementRuntime (plainStatement id).json.canonical =
        some (plainStatement id) ∧
      ActiveCredential plainStatementRuntime plainSigner (plainStatement id) plainCredential ∧
      Expected plainStatementRuntime (plainVerification id consumeNonce) s (plainBundle id)
        (plainStatement id) plainCredential := by
  have hpayload : IsPayload plainStatementRuntime (plainStatement id) := by
    rcases List.mem_cons.1 hid with rfl | hid
    · exact plainStatement_isPayload.1
    · obtain rfl := List.mem_singleton.1 hid
      exact plainStatement_isPayload.2
  have hwithin := plainStatement_within id hid
  have hdistinct : (plainStatement id).json.distinct = true := payload_distinct rfl
  have hparse : parsePayload plainStatementRuntime (plainStatement id).json.canonical =
      some (plainStatement id) := by
    rw [parsePayload, readPayload_json hdistinct fun f hf => absurd hf List.not_mem_nil,
      Option.filter_some, if_pos (decide_eq_true ((isPayload_canonical _).2 hpayload))]
    rfl
  have htext : canonicalizeEffectJson (plainStatement id).json =
      .ok (serialize (plainStatement id).json) :=
    canonicalizeEffectJson_eq_ok.2
      ⟨⟨hwithin.1, hwithin.2.1, hwithin.2.2.1, hwithin.2.2.2.1,
        hwithin.2.2.2.2.trans (by decide)⟩, rfl⟩
  have hbundle : IsBundle (plainBundle id) := by
    have hprofile : IsAbsoluteUri profileUri ∧ IsPortable "c" := by decide +kernel
    refine ⟨isBase64url_base64url ?_ ?_, hprofile.1, hprofile.2,
      isBase64url_base64url (by decide) (by decide), Nat.zero_le _, fun p hp =>
        absurd hp List.not_mem_nil⟩
    · intro hnil
      have hhead := congrArg List.head? hnil
      rw [StatementPayload.json, serialize] at hhead
      cases hhead
    · rw [utf8_length]
      exact hwithin.2.2.2.2
  refine ⟨distinct_canonical hdistinct, ?_, hparse,
    ⟨plainCredential_key.1, ⟨rfl, rfl⟩, rfl, rfl, rfl, rfl, _, plainCredential_key.2,
      fun _ _ _ _ _ => rfl⟩,
    ⟨rfl, rfl, rfl, rfl, fun roots hroots => absurd hroots (Option.not_mem_none roots),
      ⟨0, rfl, ?_⟩, hfresh⟩⟩
  · simp only [signPurposeBoundStatement, bind_eq_ok, demand_eq_ok, refuse_eq_ok, pure_eq_ok,
      not_not]
    exact ⟨plainStatement id, hparse, (), rfl, (), List.mem_singleton_self _, _, htext, _, rfl, (),
      by decide, (), hbundle, rfl⟩
  · simp [InWindows, plainStatementRuntime, plainCredential, plainStatement]

/-- A statement that is signed verifies, and its nonce is consumed. -/
theorem signed_statement_plain :
    (verifyPurposeBoundStatement plainStatementRuntime
      (plainVerification "1" (some fun n _ => (n = 0, n + 1))) 0).1.outcome = .valid := by
  obtain ⟨hdistinct, hsign, hparse, hcredential, hexpected⟩ := @plainStatement_verifies "1"
    (by decide) (some fun n _ => (n = 0, n + 1)) 0 (by
      intro consume hconsume
      obtain rfl := Option.some_inj.1 hconsume
      rfl)
  exact ((signed_statements_verify plainStatementRuntime ℕ).2.1 _ _ _ _ _ _ _ hdistinct hsign
    hparse hcredential hexpected).1

/-- NOT SO: where the host takes no nonces, two statements with one nonce both verify. -/
theorem nonce_not_consumed :
    (plainVerification "1" none).consumeNonce = none ∧
      (plainStatement "1").nonceUse.key = (plainStatement "2").nonceUse.key ∧
      (plainStatement "1").statementId ≠ (plainStatement "2").statementId ∧
      ∀ id ∈ ["1", "2"],
        (verifyPurposeBoundStatement plainStatementRuntime
          (plainVerification id none) 0).1.outcome = .valid ∧
        (verifyPurposeBoundStatement plainStatementRuntime
          (plainVerification id none) 0).1.payload = some (plainStatement id) := by
  refine ⟨rfl, rfl, by decide, fun id hid => ?_⟩
  obtain ⟨hdistinct, hsign, hparse, hcredential, hexpected⟩ := @plainStatement_verifies _ hid
    none 0 fun consume hconsume =>
      absurd hconsume (Option.not_mem_none consume)
  exact verify_signPurposeBoundStatement hdistinct hsign hparse hcredential hexpected

end Tasq.Statements
