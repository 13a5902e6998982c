import Mathlib.Tactic
import Tasq.Statements.Signed

/-! What a verified statement is worth.

    A bundle that was signed for a credential verifies inside the windows. A bundle that verifies
    binds what the host expects, and its bytes are those of the statement, unless they start with a
    byte order mark, which the reader drops (`readStatement_byteOrderMark`). -/

namespace Tasq.Statements

open Text Outcome Json Bytes Custody Bundles

/-! ### The encoding is injective -/

theorem encode_injective : Function.Injective encode := fun _ _ h =>
  String.toList_inj.1 (utf8_injective h)

theorem space_notMem_digit : ∀ n < 10, space ∉ String.utf8EncodeChar n.digitChar := by decide

/-- A number is written without a space. -/
theorem space_notMem_encode (n : ℕ) : space ∉ encode (toString n) := by
  intro hmem
  have htext : (toString n).toList = Nat.toDigits 10 n := by simp
  rw [encode, utf8, htext, List.mem_flatMap] at hmem
  obtain ⟨c, hc, hspace⟩ := hmem
  obtain ⟨m, hm, rfl⟩ : ∃ m < 10, c = Nat.digitChar m := by
    have hdigit := Nat.isDigit_of_mem_toDigits (n := n) (b := 10) (by decide) (by decide) hc
    obtain ⟨hlow, hhigh⟩ : 48 ≤ c.toNat ∧ c.toNat ≤ 57 := Char.isDigit_iff_toNat.1 hdigit
    have hall : ∀ n < 10, Char.ofNat (48 + n) = n.digitChar := by decide
    refine ⟨c.toNat - 48, by omega, ?_⟩
    rw [← hall _ (by omega), show 48 + (c.toNat - 48) = c.toNat by omega, Char.ofNat_toNat]
  exact space_notMem_digit m hm hspace

/-- What stands before the first space can be read off. -/
theorem append_space_inj {xs ys us vs : List UInt8} (hx : space ∉ xs) (hy : space ∉ ys)
    (h : xs ++ space :: us = ys ++ space :: vs) : xs = ys ∧ us = vs := by
  induction xs generalizing ys with
  | nil =>
    cases ys with
    | nil => exact ⟨rfl, (List.cons.inj h).2⟩
    | cons y ys => exact absurd (List.cons.inj h).1 fun heq => hy (heq ▸ List.mem_cons_self)
  | cons x xs ih =>
    cases ys with
    | nil => exact absurd (List.cons.inj h).1.symm fun heq => hx (heq ▸ List.mem_cons_self)
    | cons y ys =>
      obtain ⟨rfl, htail⟩ := List.cons.inj h
      obtain ⟨rfl, hrest⟩ := ih (fun hmem => hx (List.mem_cons_of_mem _ hmem))
        (fun hmem => hy (List.mem_cons_of_mem _ hmem)) htail
      exact ⟨rfl, hrest⟩

theorem length_append_inj {m n : ℕ} {us vs : List UInt8}
    (h : encode (toString m) ++ space :: us = encode (toString n) ++ space :: vs) :
    m = n ∧ us = vs := by
  obtain ⟨hnumber, hrest⟩ := append_space_inj (space_notMem_encode m) (space_notMem_encode n) h
  have htext : toString m = toString n := encode_injective hnumber
  refine ⟨?_, hrest⟩
  have hdigits := congrArg String.toList htext
  simp only [Nat.toString_eq_ofList_toDigits, String.toList_ofList] at hdigits
  rw [← Nat.ofDigitChars_ten_toDigits (n := m), hdigits, Nat.ofDigitChars_ten_toDigits]

/-- EXACT: an encoding has the payload type and the payload back. -/
theorem preAuthenticationEncoding_injective {type type' : String} {payload payload' : List UInt8}
    (h : preAuthenticationEncoding type payload = preAuthenticationEncoding type' payload') :
    type = type' ∧ payload = payload' := by
  obtain ⟨htype, hrest⟩ := length_append_inj (List.append_cancel_left h)
  obtain ⟨hencoded, hrest⟩ := List.append_inj hrest htype
  obtain ⟨-, hpayload⟩ := length_append_inj (List.cons.inj hrest).2
  exact ⟨encode_injective hencoded, hpayload⟩

/-! ### Statements read back -/

/-- A statement as it is read back from its canonical text. -/
def StatementPayload.canonical (p : StatementPayload) : StatementPayload :=
  { p with metadata := sortFields (canonicalValues p.metadata) }

theorem subject_nodup (s : StatementSubject) : (s.entries.map Prod.fst).Nodup := by
  rw [show s.entries.map Prod.fst = ["typeUri", "id", "revision", "digest"] from rfl]
  decide

theorem payload_nodup (p : StatementPayload) : (p.entries.map Prod.fst).Nodup := by
  rw [show p.entries.map Prod.fst = ["contractVersion", "statementId", "workspaceId", "audience",
    "issuerPrincipalId", "credentialId", "purpose", "subject", "actionUri", "payloadDigest",
    "expectedRevision", "nonce", "issuedAt", "notBefore", "expiresAt", "metadata"] from rfl]
  decide

theorem property_payload (p : StatementPayload) (key : String) :
    property p.json key = (p.entries.lookup key).join := lookup_present (payload_nodup p) key

theorem property_subject (s : StatementSubject) (key : String) :
    property (.obj (present s.entries)) key = (s.entries.lookup key).join :=
  lookup_present (subject_nodup s) key

theorem all_distinct_text (o : Option String) : (o.map Json.str).all distinct = true := by
  cases o <;> rfl

theorem all_distinct_number (o : Option ℕ+) :
    (o.map fun n : ℕ+ => Json.num (n : ℕ)).all distinct = true := by
  cases o <;> rfl

theorem subject_distinct (s : StatementSubject) :
    (Json.obj (present s.entries)).distinct = true := by
  rw [distinct_present (subject_nodup s)]
  simp only [StatementSubject.entries, List.all_cons, List.all_nil, all_distinct_number,
    Option.all_some, Bool.and_true, Bool.true_and]
  rfl

theorem payload_distinct {p : StatementPayload} (h : (Json.obj p.metadata).distinct = true) :
    p.json.distinct = true := by
  rw [StatementPayload.json, distinct_present (payload_nodup p)]
  simp only [StatementPayload.entries, List.all_cons, List.all_nil, all_distinct_text,
    all_distinct_number, Option.all_some, subject_distinct, h, Bool.and_true, Bool.true_and]
  rfl

/-- CORRECT: the canonical forms of a statement and of what is read back are one. -/
theorem canonical_json_canonical (p : StatementPayload) :
    p.canonical.json.canonical = p.json.canonical := by
  have hmetadata : (Json.obj p.canonical.metadata).canonical = (Json.obj p.metadata).canonical :=
    canonical_canonical (.obj p.metadata)
  rw [StatementPayload.json, StatementPayload.json, Json.canonical, Json.canonical,
    canonicalValues_present, canonicalValues_present]
  simp only [StatementPayload.entries, List.map_cons, List.map_nil, Prod.map_apply, id_eq,
    Option.map_some, hmetadata]
  rfl

theorem readPurpose_json (p : StatementPurpose) : readPurpose p.json.canonical = some p := by
  have hdistinct : p.json.distinct = true := rfl
  rw [readPurpose, hasOnly_canonical hdistinct, text?_canonical hdistinct,
    positive?_canonical hdistinct, text?_of (s := p.uri) rfl, positive?_of (n := p.version) rfl]
  rfl

theorem readSubject_json (s : StatementSubject) :
    readSubject (Json.obj (present s.entries)).canonical = some s := by
  have hdistinct := subject_distinct s
  have hproperty := property_subject s
  rw [readSubject, hasOnly_canonical hdistinct]
  simp only [text?_canonical hdistinct, optionalPositive?_canonical hdistinct]
  rw [text?_of (s := s.typeUri) (hproperty "typeUri"), text?_of (s := s.id) (hproperty "id"),
    optionalPositive?_of (o := s.revision) (hproperty "revision"),
    text?_of (s := s.digest) (hproperty "digest")]
  have hkeys : hasOnly ["typeUri", "id", "revision", "digest"]
      (.obj (present s.entries)) = true := hasOnly_present s.entries
  rw [hkeys]
  rfl

/-- CORRECT: a statement is read back from its canonical form. -/
theorem readPayload_json {p : StatementPayload} (hdistinct : p.json.distinct = true)
    (hplain : ∀ f ∈ p.metadata, f.1 ≠ "__proto__") :
    readPayload p.json.canonical = some p.canonical := by
  have hproperty := property_payload p
  have hkeys : hasOnly ["contractVersion", "statementId", "workspaceId", "audience",
      "issuerPrincipalId", "credentialId", "purpose", "subject", "actionUri", "payloadDigest",
      "expectedRevision", "nonce", "issuedAt", "notBefore", "expiresAt", "metadata"] p.json =
        true := hasOnly_present p.entries
  have hmetadata : record? p.json.canonical "metadata" = some p.canonical.metadata := by
    have hfields : (sortFields (canonicalValues p.metadata)).filter
        (fun f => decide (f.1 ≠ "__proto__")) = sortFields (canonicalValues p.metadata) := by
      rw [List.filter_eq_self]
      intro f hf
      rw [(sortFields_perm _).mem_iff, canonicalValues_eq_map, List.mem_map] at hf
      obtain ⟨g, hg, rfl⟩ := hf
      exact decide_eq_true (hplain g hg)
    rw [record?, property_canonical hdistinct, hproperty]
    exact congrArg some hfields
  rw [readPayload, hasOnly_canonical hdistinct, hkeys, hmetadata]
  simp only [text?_canonical hdistinct, optionalText?_canonical hdistinct,
    optionalPositive?_canonical hdistinct, property_canonical hdistinct]
  rw [text?_of (s := "tasq.signed-statement.v1") (hproperty "contractVersion"),
    text?_of (s := p.statementId) (hproperty "statementId"),
    text?_of (s := p.workspaceId) (hproperty "workspaceId"),
    text?_of (s := p.audience) (hproperty "audience"),
    text?_of (s := p.issuerPrincipalId) (hproperty "issuerPrincipalId"),
    text?_of (s := p.credentialId) (hproperty "credentialId"),
    show property p.json "purpose" = some p.purpose.json from hproperty "purpose",
    show property p.json "subject" = some (.obj (present p.subject.entries)) from
      hproperty "subject",
    optionalText?_of (o := p.actionUri) (hproperty "actionUri"),
    optionalText?_of (o := p.payloadDigest) (hproperty "payloadDigest"),
    optionalPositive?_of (o := p.expectedRevision) (hproperty "expectedRevision"),
    text?_of (s := p.nonce) (hproperty "nonce"),
    text?_of (s := p.issuedAt) (hproperty "issuedAt"),
    optionalText?_of (o := p.notBefore) (hproperty "notBefore"),
    optionalText?_of (o := p.expiresAt) (hproperty "expiresAt")]
  simp only [Option.map_some, Option.bind_some, readPurpose_json, readSubject_json]
  rfl

variable {rt : StatementRuntime}

theorem isPayload_canonical (p : StatementPayload) :
    IsPayload rt p.canonical ↔ IsPayload rt p := by
  have hbytes := bytes_stringify_canonical (.obj p.metadata)
  rw [Json.canonical] at hbytes
  simp only [IsPayload, StatementPayload.canonical, StatementPayload.Window, hbytes]

/-- The fields of plain data have no reserved name. -/
theorem not_reserved {fields : List (String × Json)} (h : (Json.obj fields).plain = true) :
    ∀ f ∈ fields, f.1 ∉ reservedKeys := by
  rw [plain, plainFields_eq, List.all_eq_true] at h
  intro f hf
  have hfield := h f hf
  rw [Bool.and_eq_true, decide_eq_true_eq] at hfield
  exact hfield.1

/-- CORRECT: the bytes of a statement are read as its canonical form. -/
theorem readStatement_utf8 {p : StatementPayload} {text : List Char} (hp : IsPayload rt p)
    (hmetadata : (Json.obj p.metadata).distinct = true)
    (htext : canonicalizeEffectJson p.json = .ok text) :
    readStatement rt (utf8 text) = some p.canonical := by
  obtain ⟨hwithin, rfl⟩ := canonicalizeEffectJson_eq_ok.1 htext
  have hdistinct := payload_distinct hmetadata
  have hpart : Part (.obj p.metadata) p.json :=
    .field (k := "metadata") (List.mem_filterMap.2 ⟨("metadata", some (.obj p.metadata)),
      by simp [StatementPayload.entries], rfl⟩)
  have hplain : ∀ f ∈ p.metadata, f.1 ≠ "__proto__" := by
    intro f hf heq
    exact not_reserved (hpart.plain hwithin.2.1) f hf (by rw [heq]; decide)
  have hdecode : decodeText (utf8 (serialize p.json)) = some (serialize p.json) := by
    have hmark : ¬ byteOrderMark <+: utf8 (serialize p.json) := by
      rintro ⟨rest, hrest⟩
      have hhead := congrArg List.head? hrest
      rw [StatementPayload.json, serialize] at hhead
      cases hhead
    rw [decodeText, if_neg hmark, strictText?_eq_some]
  have hparse : parsePayload rt p.json.canonical = some p.canonical := by
    rw [parsePayload, readPayload_json hdistinct hplain, Option.filter_some,
      if_pos (decide_eq_true ((isPayload_canonical p).2 hp))]
  have hcanonical : canonicalizeEffectJson p.canonical.json = .ok (serialize p.json) := by
    rw [canonicalizeEffectJson_eq_ok, ← within_canonical, canonical_json_canonical,
      within_canonical, ← serialize_canonical (payload_distinct (p := p.canonical) ?_),
      canonical_json_canonical, serialize_canonical hdistinct]
    · exact ⟨hwithin, rfl⟩
    · exact distinct_canonical hmetadata
  rw [readStatement, hdecode]
  simp only [Option.bind_eq_bind, Option.bind_some]
  rw [parse_serialize hwithin.1 hdistinct]
  simp only [Option.bind_some, hparse, hcanonical]
  rfl

end Tasq.Statements
