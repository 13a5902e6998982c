import Mathlib.Tactic
import Tasq.Custody.Schema
import Tasq.Lib.Bytes
import Tasq.Lib.Shape
import Tasq.Lib.Stringify

/-! Target references: one value that names an external target, and the bindings derived from it.

    The external reference is read off the target; every other binding goes through a digest of the
    canonical text. Each of them has the target back. -/

namespace Tasq.Targets

open Text Json Bytes Authority Custody

/-! ### The schema -/

/-- `TargetRefV1` -/
structure TargetReference where
  nameSpace : String
  resourceType : String
  identifier : TargetIdentifier
  version : Option String
  digest : Option String
  deriving DecidableEq, Repr

/-- The platform: the URL parser and SHA-256. -/
structure TargetRuntime where
  /-- `new URL(value)`, when it does not throw. -/
  url : String → Option CustodyUrl
  sha256 : List UInt8 → List UInt8

variable (rt : TargetRuntime)

/-- `CanonicalNamespace` -/
def IsNamespace (value : String) : Prop :=
  IsId 2000 value ∧ ∃ u ∈ rt.url value, u.href = value ∧ u.username = "" ∧ u.password = "" ∧
    u.search = "" ∧ u.hash = ""

instance (value : String) : Decidable (IsNamespace rt value) := by
  unfold IsNamespace; infer_instance

/-- `Sha256Digest` -/
def IsDigest (s : String) : Prop :=
  "sha256:".toList <+: s.toList ∧ matchesHex64 (String.ofList (s.toList.drop 7)) = true

instance (s : String) : Decidable (IsDigest s) := by unfold IsDigest; infer_instance

/-- What `TargetRefV1` says of a target. -/
def IsTargetReference (t : TargetReference) : Prop :=
  IsNamespace rt t.nameSpace ∧ matchesResourceType t.resourceType = true ∧
    IsTargetIdentifier t.identifier ∧ (∀ version ∈ t.version, IsId 500 version) ∧
    ∀ digest ∈ t.digest, IsDigest digest

instance (t : TargetReference) : Decidable (IsTargetReference rt t) := by
  unfold IsTargetReference; infer_instance

/-- `z.string().nullable().default(null)` under a key. -/
def nullableText? (v : Json) (key : String) : Option (Option String) :=
  match property v key with
  | some (.str s) => some (some s)
  | some .null => some none
  | none => some none
  | some _ => none

/-- The shape of `TargetIdentifierV1`. -/
def readIdentifier (value : Json) : Option TargetIdentifier := do
  guard (hasOnly ["form", "value"] value)
  let text ← text? value "value"
  match text? value "form" with
  | some "plain" => some (.plain text)
  | some "workspace_hmac_sha256" => some (.workspaceHmacSha256 text)
  | _ => none

/-- The shape of `TargetRefV1`. -/
def readTarget (input : Json) : Option TargetReference := do
  guard (hasOnly
    ["contractVersion", "namespace", "resourceType", "identifier", "version", "digest"] input)
  guard (text? input "contractVersion" = some "tasq.target-ref.v1")
  let nameSpace ← text? input "namespace"
  let resourceType ← text? input "resourceType"
  let identifier ← (property input "identifier").bind readIdentifier
  let version ← nullableText? input "version"
  let digest ← nullableText? input "digest"
  return ⟨nameSpace, resourceType, identifier, version, digest⟩

/-- A target that the schema admits. -/
abbrev ValidTarget := {t : TargetReference // IsTargetReference rt t}

/-- `TargetRefV1.parse(input)`, when it does not throw. -/
def parseTarget (input : Json) : Option (ValidTarget rt) :=
  match readTarget input with
  | some t => if h : IsTargetReference rt t then some ⟨t, h⟩ else none
  | none => none

/-! ### The bindings -/

/-- The text of the form of an identifier. -/
def identifierForm : TargetIdentifier → String
  | .plain _ => "plain"
  | .workspaceHmacSha256 _ => "workspace_hmac_sha256"

/-- `identifier.value` -/
def identifierValue : TargetIdentifier → String
  | .plain value => value
  | .workspaceHmacSha256 value => value

/-- What `canonicalTarget` writes. -/
def TargetReference.json (t : TargetReference) : Json :=
  .obj [("contractVersion", .str "tasq.target-ref.v1"), ("namespace", .str t.nameSpace),
    ("resourceType", .str t.resourceType),
    ("identifier", .obj [("form", .str (identifierForm t.identifier)),
      ("value", .str (identifierValue t.identifier))]),
    ("version", optionalText t.version), ("digest", optionalText t.digest)]

/-- `canonicalTarget` -/
def canonicalTarget (t : TargetReference) : List Char := stringify t.json

/-- `externalIdentifier` -/
def externalIdentifier : TargetIdentifier → List Char
  | .plain value => value.toList
  | .workspaceHmacSha256 value => "workspace-hmac-sha256:".toList ++ value.toList

inductive TargetSpecificity where
  | moving | versioned | contentAddressed
  deriving DecidableEq, Repr

/-- `externalRefIdentity` -/
structure ExternalRefIdentity where
  system : String
  resourceType : String
  externalId : List Char
  version : Option String
  digest : Option String
  targetIdentifierForm : String
  targetDigest : List Char
  deriving DecidableEq

/-- `signedStatementSubject` -/
structure StatementSubject where
  typeUri : String
  id : List Char
  digest : List Char
  deriving DecidableEq

/-- `PreparedTargetRefV1` -/
structure PreparedTarget where
  target : ValidTarget rt
  canonicalTarget : List Char
  targetDigest : List Char
  opaqueKey : List Char
  specificity : TargetSpecificity
  externalRefIdentity : ExternalRefIdentity
  /-- The id of the authority resource, whose kind is `resource`. -/
  authorityResource : List Char
  resourceKey : List Char
  observationSubjectRef : List Char
  signedStatementSubject : StatementSubject

/-- The bytes that the digest of a target is taken of. -/
def targetBytes (t : TargetReference) : List UInt8 :=
  utf8 ("tasq.target-ref-digest.v1".toList ++ Char.ofNat 0 :: canonicalTarget t)

/-- The digest of a target. -/
def targetHash (t : TargetReference) : List UInt8 := rt.sha256 (targetBytes t)

/-- `targetDigest` -/
def targetDigest (t : TargetReference) : List Char := "sha256:".toList ++ Bytes.hex (targetHash rt t)

/-- `opaqueKey` -/
def opaqueKey (t : TargetReference) : List Char := "tqt1_".toList ++ base64url (targetHash rt t)

/-- `specificity` -/
def specificity (t : TargetReference) : TargetSpecificity :=
  if t.digest.isSome then .contentAddressed else if t.version.isSome then .versioned else .moving

/-- The value that is prepared from a target. -/
def prepared (t : ValidTarget rt) : PreparedTarget rt where
  target := t
  canonicalTarget := canonicalTarget t.1
  targetDigest := targetDigest rt t.1
  opaqueKey := opaqueKey rt t.1
  specificity := specificity t.1
  externalRefIdentity := ⟨t.1.nameSpace, t.1.resourceType, externalIdentifier t.1.identifier,
    t.1.version, t.1.digest, identifierForm t.1.identifier, targetDigest rt t.1⟩
  authorityResource := opaqueKey rt t.1
  resourceKey := opaqueKey rt t.1
  observationSubjectRef := "urn:tasq:target-ref:".toList ++ Bytes.hex (targetHash rt t.1)
  signedStatementSubject :=
    ⟨"https://tasq.run/contracts/target-reference/v1", opaqueKey rt t.1, targetDigest rt t.1⟩

/-- `prepareTargetRefV1` -/
def prepareTargetRefV1 (input : Json) : Option (PreparedTarget rt) :=
  (parseTarget rt input).map (prepared rt)

/-! ### Canonical texts -/

theorem optionalText_injective : Function.Injective optionalText := by
  intro a b h
  cases a <;> cases b <;> simp_all [optionalText]

theorem identifier_eq_of {i j : TargetIdentifier} (hform : identifierForm i = identifierForm j)
    (hvalue : identifierValue i = identifierValue j) : i = j := by
  cases i <;> cases j <;> simp_all [identifierForm, identifierValue]

theorem json_injective : Function.Injective TargetReference.json := by
  rintro ⟨ns, type, identifier, version, digest⟩ ⟨ns', type', identifier', version', digest'⟩ h
  simp only [TargetReference.json, Json.obj.injEq, List.cons.injEq, Prod.mk.injEq, Json.str.injEq,
    true_and, and_true] at h
  obtain ⟨rfl, rfl, ⟨hform, hvalue⟩, hversion, hdigest⟩ := h
  obtain rfl := identifier_eq_of hform hvalue
  obtain rfl := optionalText_injective hversion
  obtain rfl := optionalText_injective hdigest
  rfl

theorem json_safe (t : TargetReference) : t.json.safe = true := by
  have hoptional : ∀ o : Option String, (optionalText o).safe = true := fun o => by
    cases o <;> rfl
  simp [TargetReference.json, Json.safe, safeValues, hoptional]

theorem json_own (t : TargetReference) : Own t.json := by
  have hoptional : ∀ o : Option String, Own (optionalText o) := fun o => by
    cases o <;> trivial
  have hidentifier : Own (.obj [("form", .str (identifierForm t.identifier)),
      ("value", .str (identifierValue t.identifier))]) :=
    ⟨mayPrecede_of_names ["form", "value"] rfl (by decide +kernel) (by decide), trivial, trivial,
      trivial⟩
  exact ⟨mayPrecede_of_names ["contractVersion", "namespace", "resourceType", "identifier",
    "version", "digest"] rfl (by decide +kernel) (by decide), trivial, trivial, trivial,
    hidentifier, hoptional _, hoptional _, trivial⟩

/-- EXACT: two targets have one canonical form exactly when they are equal. -/
theorem canonicalTarget_iff {t u : TargetReference} :
    canonicalTarget t = canonicalTarget u ↔ t = u := by
  rw [canonicalTarget, canonicalTarget,
    stringify_eq_iff (json_safe t) (json_own t) (json_safe u) (json_own u)]
  exact json_injective.eq_iff

theorem targetBytes_injective : Function.Injective targetBytes := by
  intro t u h
  have htext := utf8_injective h
  rw [List.append_cancel_left_eq, List.cons.injEq] at htext
  exact canonicalTarget_iff.1 htext.2

/-! ### Bindings -/

/-- The identity that an external reference carries. -/
def ExternalRefIdentity.identity (r : ExternalRefIdentity) :
    String × String × List Char × Option String × Option String :=
  (r.system, r.resourceType, r.externalId, r.version, r.digest)

/-- A plain identifier is no keyed one: it does not start with the prefix. -/
theorem externalIdentifier_ne {value hash : String} (h : IsTargetIdentifier (.plain value)) :
    externalIdentifier (.plain value) ≠ externalIdentifier (.workspaceHmacSha256 hash) := by
  intro heq
  exact h.2 ⟨hash.toList, heq.symm⟩

/-- EXACT: the flattened identifiers of admitted targets are equal exactly when the identifiers
    are. -/
theorem externalIdentifier_iff {i j : TargetIdentifier} (hi : IsTargetIdentifier i)
    (hj : IsTargetIdentifier j) : externalIdentifier i = externalIdentifier j ↔ i = j := by
  constructor
  · intro h
    cases i with
    | plain value =>
      cases j with
      | plain value' => exact congrArg _ (String.toList_inj.1 h)
      | workspaceHmacSha256 hash => exact absurd h (externalIdentifier_ne hi)
    | workspaceHmacSha256 hash =>
      cases j with
      | plain value => exact absurd h.symm (externalIdentifier_ne hj)
      | workspaceHmacSha256 hash' =>
        have hvalue : hash.toList = hash'.toList := List.append_cancel_left h
        rw [String.toList_inj.1 hvalue]
  · exact congrArg _

variable {rt}

theorem prepareTargetRefV1_eq_some {input : Json} {p : PreparedTarget rt}
    (h : prepareTargetRefV1 rt input = some p) : p = prepared rt p.target := by
  obtain ⟨t, -, rfl⟩ := Option.map_eq_some_iff.1 h
  rfl

/-- EXACT: the identity of the external reference has the target back. -/
theorem identity_iff {t u : ValidTarget rt} :
    (prepared rt t).externalRefIdentity.identity = (prepared rt u).externalRefIdentity.identity ↔
      t = u := by
  obtain ⟨⟨ns, type, identifier, version, digest⟩, ht⟩ := t
  obtain ⟨⟨ns', type', identifier', version', digest'⟩, hu⟩ := u
  simp only [prepared, ExternalRefIdentity.identity, Prod.mk.injEq,
    externalIdentifier_iff ht.2.2.1 hu.2.2.1, Subtype.mk.injEq, TargetReference.mk.injEq]

/-- The hash does not collide on two targets. -/
def CollisionFree (t u : TargetReference) : Prop :=
  rt.sha256 (targetBytes t) = rt.sha256 (targetBytes u) → targetBytes t = targetBytes u

theorem targetHash_iff {t u : ValidTarget rt} (h : @CollisionFree rt t.1 u.1) :
    targetHash rt t.1 = targetHash rt u.1 ↔ t = u := by
  constructor
  · exact fun heq => Subtype.ext (targetBytes_injective (h heq))
  · rintro rfl
    rfl

theorem opaqueKey_iff {t u : ValidTarget rt} (h : @CollisionFree rt t.1 u.1) :
    opaqueKey rt t.1 = opaqueKey rt u.1 ↔ t = u := by
  unfold opaqueKey
  exact (List.append_right_inj _).trans (base64url_injective.eq_iff.trans (targetHash_iff h))

theorem targetDigest_iff {t u : ValidTarget rt} (h : @CollisionFree rt t.1 u.1) :
    targetDigest rt t.1 = targetDigest rt u.1 ↔ t = u := by
  unfold targetDigest
  exact (List.append_right_inj _).trans (hex_injective.eq_iff.trans (targetHash_iff h))

/-- EXACT: the canonical form and every binding that carries identity are equal for two inputs
    exactly when the targets are, and so never for a plain and a keyed identifier. -/
theorem bindings_identify_targets (rt : TargetRuntime) (i j : Json) (p q : PreparedTarget rt)
    (hp : prepareTargetRefV1 rt i = some p) (hq : prepareTargetRefV1 rt j = some q) :
    (p.canonicalTarget = q.canonicalTarget ↔ p.target = q.target) ∧
    (p.externalRefIdentity.identity = q.externalRefIdentity.identity ↔ p.target = q.target) ∧
    (@CollisionFree rt p.target.1 q.target.1 →
      (p.opaqueKey = q.opaqueKey ↔ p.target = q.target) ∧
      (p.authorityResource = q.authorityResource ↔ p.target = q.target) ∧
      (p.resourceKey = q.resourceKey ↔ p.target = q.target) ∧
      (p.observationSubjectRef = q.observationSubjectRef ↔ p.target = q.target) ∧
      (p.signedStatementSubject = q.signedStatementSubject ↔ p.target = q.target)) ∧
    ∀ value hash, p.target.1.identifier = .plain value →
      q.target.1.identifier = .workspaceHmacSha256 hash →
      p.externalRefIdentity.externalId ≠ q.externalRefIdentity.externalId ∧
      (@CollisionFree rt p.target.1 q.target.1 →
        p.opaqueKey ≠ q.opaqueKey ∧ p.authorityResource ≠ q.authorityResource ∧
        p.resourceKey ≠ q.resourceKey ∧ p.observationSubjectRef ≠ q.observationSubjectRef ∧
        p.signedStatementSubject ≠ q.signedStatementSubject) := by
  rw [prepareTargetRefV1_eq_some hp, prepareTargetRefV1_eq_some hq]
  generalize p.target = t
  generalize q.target = u
  have hkeys (h : @CollisionFree rt t.1 u.1) :
      ((prepared rt t).observationSubjectRef = (prepared rt u).observationSubjectRef ↔ t = u) ∧
      ((prepared rt t).signedStatementSubject = (prepared rt u).signedStatementSubject ↔
        t = u) := by
    refine ⟨?_, ?_⟩
    · exact (List.append_right_inj _).trans (hex_injective.eq_iff.trans (targetHash_iff h))
    · simp only [prepared, StatementSubject.mk.injEq, true_and, opaqueKey_iff h,
        targetDigest_iff h, and_self]
  refine ⟨?_, identity_iff, fun h => ⟨opaqueKey_iff h, opaqueKey_iff h, opaqueKey_iff h, hkeys h⟩,
    ?_⟩
  · exact canonicalTarget_iff.trans Subtype.ext_iff.symm
  · intro value hash hplain hkeyed
    simp only [prepared] at hplain hkeyed ⊢
    have hne : t ≠ u := by
      rintro rfl
      rw [hplain] at hkeyed
      cases hkeyed
    refine ⟨?_, fun h => ?_⟩
    · rw [hplain, hkeyed]
      exact externalIdentifier_ne (hplain ▸ t.2.2.2.1)
    · rw [Ne, opaqueKey_iff h]
      exact ⟨hne, hne, hne, fun heq => hne ((hkeys h).1.1 heq),
        fun heq => hne ((hkeys h).2.1 heq)⟩

/-- A URL parser that reads `urn:x`, and a digest that is the bytes. -/
def urnRuntime : TargetRuntime where
  url value := if value = "urn:x" then some ⟨value, "", "", "", ""⟩ else none
  sha256 := id

/-- A target with an identifier, as a caller writes it. -/
def urnTarget (form value : String) : Json :=
  .obj [("contractVersion", .str "tasq.target-ref.v1"), ("namespace", .str "urn:x"),
    ("resourceType", .str "r"), ("identifier", .obj [("form", .str form), ("value", .str value)])]

/-- 64 times the digit `a`. -/
def hashOfAs : String := String.ofList (List.replicate 64 'a')

theorem prepareTargetRefV1_urn {form value : String} {identifier : TargetIdentifier}
    (hread : readTarget (urnTarget form value) = some ⟨"urn:x", "r", identifier, none, none⟩)
    (h : IsTargetReference urnRuntime ⟨"urn:x", "r", identifier, none, none⟩) :
    prepareTargetRefV1 urnRuntime (urnTarget form value) = some (prepared urnRuntime ⟨_, h⟩) := by
  rw [prepareTargetRefV1, parseTarget, hread]
  simp only [dif_pos h, Option.map_some]

/-- A plain identifier and a keyed one have different keys. -/
theorem bindings_identify_urn :
    ∃ p q, prepareTargetRefV1 urnRuntime (urnTarget "plain" "a") = some p ∧
      prepareTargetRefV1 urnRuntime (urnTarget "workspace_hmac_sha256" hashOfAs) = some q ∧
      (p.canonicalTarget = q.canonicalTarget ↔ p.target = q.target) ∧
      p.externalRefIdentity.externalId ≠ q.externalRefIdentity.externalId ∧
      p.opaqueKey ≠ q.opaqueKey := by
  have hplain : IsTargetReference urnRuntime ⟨"urn:x", "r", .plain "a", none, none⟩ := by
    decide +kernel
  have hkeyed : IsTargetReference urnRuntime
      ⟨"urn:x", "r", .workspaceHmacSha256 hashOfAs, none, none⟩ := by
    decide +kernel
  have hp := @prepareTargetRefV1_urn "plain" "a" _ rfl hplain
  have hq := @prepareTargetRefV1_urn "workspace_hmac_sha256" hashOfAs _ rfl hkeyed
  have h := bindings_identify_targets urnRuntime _ _ _ _ hp hq
  have hne := h.2.2.2 "a" hashOfAs rfl rfl
  exact ⟨_, _, hp, hq, h.1, hne.1, (hne.2 fun heq => heq).1⟩

end Tasq.Targets
