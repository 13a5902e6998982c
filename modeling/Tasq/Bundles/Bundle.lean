import Mathlib.Tactic
import Tasq.Bundles.Store
import Tasq.Custody.Schema
import Tasq.Lib.Bytes
import Tasq.Lib.Outcome
import Tasq.Lib.Shape
import Tasq.Lib.Size
import Tasq.Lib.Sorted

/-! Outcome bundles: the exact records of a commitment at one time, what is disclosed beside them,
    and the check whether the ledger still has the records. -/

namespace Tasq.Bundles

open Text Outcome Json Bytes Sorted Custody

/-! ### Digests -/

/-- The platform: SHA-256 and the comparison of a locale. -/
structure BundleRuntime where
  sha256 : List UInt8 → List UInt8
  /-- `a.localeCompare(b)` -/
  localeCompare : String → String → Ordering
  /-- The comparison of a locale is consistent, as sorting requires. -/
  localeOrder : Std.TransCmp localeCompare

variable (rt : BundleRuntime)

/-- `digestBytes` -/
def digestBytes (bytes : List UInt8) : String :=
  String.ofList ("sha256:".toList ++ Bytes.hex (rt.sha256 bytes))

/-- `canonicalizeEffectJson`, with one error for all its refusals. -/
def canonicalizeEffectJson (value : Json) : Except String (List Char) :=
  if Within effectLimits value then .ok (serialize value)
  else .error "Effect canonicalization refuses the value"

/-- The bytes that the digest of a text in a domain is taken of. -/
def domainBytes (domain : String) (text : List Char) : List UInt8 :=
  utf8 (domain.toList ++ Char.ofNat 0 :: text)

/-- `digestValue` -/
def digestValue (domain : String) (value : Json) : Except String String := do
  let text ← canonicalizeEffectJson value
  return digestBytes rt (domainBytes domain text)

/-! ### Records -/

/-- `OutcomeRecordReference` -/
structure RecordReference where
  recordType : RecordType
  id : String
  revision : Option ℚ
  digest : String
  body : Json

/-- `asRecord` -/
def asRecord (recordType : RecordType) (value : Json) : Except String RecordReference :=
  match property value "id" with
  | some (.str id) => do
    refuse (id = "") (recordType.text ++ " record requires id")
    let digest ← digestValue rt ("tasq.outcome-record." ++ recordType.text ++ ".v1") value
    let revision := match property value "revision" with
      | some (.num q) => some q
      | _ => none
    return ⟨recordType, id, revision, digest, value⟩
  | _ => .error (recordType.text ++ " record requires id")

/-- The tables in the order of the groups, after the commitment and the agreement. -/
def groupTables : List RecordTable :=
  [.assignment, .attempt, .artifact, .evidence, .resolutionContract, .evidenceTrust,
    .completionProposal, .completionChallenge, .validationDecision, .completionRecord, .effect,
    .effectApproval, .effectReceipt]

/-- `agreementRecord` -/
def agreementValue (agreement : String × Json) : Json :=
  .obj [("id", .str agreement.1), ("view", agreement.2)]

/-- The groups of an inspection and an agreement, one after the other. -/
def groups (snapshot : Inspection) (agreement : Option (String × Json)) :
    List (RecordType × Json) :=
  (.table .commitment, RecordTable.commitment.value snapshot.commitment) ::
    (agreement.toList.map fun a => (RecordType.agreement, agreementValue a)) ++
    groupTables.flatMap fun t => (snapshot.rows t).map fun row => (.table t, t.value row)

/-- `a.recordType.localeCompare(b.recordType) || a.id.localeCompare(b.id)` -/
def compareRecords : RecordReference → RecordReference → Ordering :=
  compareLex (byField rt.localeCompare fun r => r.recordType.text)
    (byField rt.localeCompare RecordReference.id)

/-- `exactRecords` -/
def exactRecords (snapshot : Inspection) (agreement : Option (String × Json)) :
    Except String (List RecordReference) := do
  let records ← (groups snapshot agreement).mapM fun value => asRecord rt value.1 value.2
  return sortBy (compareRecords rt) records

/-! ### Bundles -/

/-- `ExternalEvidenceCategory` -/
inductive EvidenceCategory where
  | authority | custody | rawBytes
  deriving DecidableEq, Repr

/-- The text of a category. -/
def EvidenceCategory.text : EvidenceCategory → String
  | authority => "authority"
  | custody => "custody"
  | rawBytes => "raw_bytes"

/-- `OutcomeExternalReference` -/
structure ExternalReference where
  category : EvidenceCategory
  uri : String
  digest : String
  version : Option String
  deriving DecidableEq, Repr

/-- `OutcomeOmission`, of an external category or of the agreement. -/
structure OutcomeOmission where
  category : Option EvidenceCategory
  reasonCode : String
  explanation : String
  deriving DecidableEq, Repr

/-- The text of the category of an omission. -/
def OutcomeOmission.categoryText (o : OutcomeOmission) : String :=
  (o.category.map EvidenceCategory.text).getD "agreement"

def ExternalReference.json (r : ExternalReference) : Json :=
  .obj [("category", .str r.category.text), ("uri", .str r.uri), ("digest", .str r.digest),
    ("version", optionalText r.version)]

def OutcomeOmission.json (o : OutcomeOmission) : Json :=
  .obj [("category", .str o.categoryText), ("reasonCode", .str o.reasonCode),
    ("explanation", .str o.explanation)]

def RecordReference.json (r : RecordReference) : Json :=
  .obj [("recordType", .str r.recordType.text), ("id", .str r.id),
    ("revision", (r.revision.map Json.num).getD .null), ("digest", .str r.digest),
    ("body", r.body)]

/-- `OutcomeBundleV1` without its digest. -/
structure BundleContent where
  workspaceId : String
  commitmentId : String
  generatedAt : ℕ
  records : List RecordReference
  externalReferences : List ExternalReference
  omissions : List OutcomeOmission

/-- The fields of a bundle that its digest is taken of. -/
def BundleContent.fields (c : BundleContent) : List (String × Json) :=
  [("contractVersion", .str "tasq.outcome-bundle.v1"), ("workspaceId", .str c.workspaceId),
    ("commitmentId", .str c.commitmentId), ("generatedAt", .num c.generatedAt),
    ("records", .arr (c.records.map RecordReference.json)),
    ("externalReferences", .arr (c.externalReferences.map ExternalReference.json)),
    ("omissions", .arr (c.omissions.map OutcomeOmission.json))]

/-- `OutcomeBundleV1` -/
structure OutcomeBundle extends BundleContent where
  bundleDigest : String

/-- `digestValue("tasq.outcome-bundle.v1", withoutDigest)` -/
def contentDigest (c : BundleContent) : Except String String :=
  digestValue rt "tasq.outcome-bundle.v1" (.obj c.fields)

/-- `/^sha256:[0-9a-f]{64}$/` -/
def isSha256Digest (s : String) : Bool :=
  "sha256:".toList.isPrefixOf s.toList && matchesHex64 (String.ofList (s.toList.drop 7))

/-- `validateDisclosures` -/
def validateDisclosures (references : List ExternalReference) (omissions : List OutcomeOmission) :
    Except String Unit := do
  [EvidenceCategory.authority, .custody, .rawBytes].forM fun category =>
    refuse (¬ (references.any (·.category = category) ∨ omissions.any (·.category = some category)))
      ("outcome bundle must disclose " ++ category.text ++ " reference or omission")
  references.forM fun reference =>
    refuse (¬ isSha256Digest reference.digest)
      ("external " ++ reference.category.text ++ " digest must be lowercase sha256")

/-- The input of `buildOutcomeBundle`. -/
structure BundleInput where
  workspaceId : String
  commitmentId : String
  generatedAt : ℕ
  externalReferences : List ExternalReference
  omissions : List OutcomeOmission

/-- `metadata.agreementOfferId`, when it is a text and not empty. -/
def agreementOfferId (commitment : LedgerRow) : Option String :=
  match property (RecordTable.commitment.value commitment) "metadata" with
  | some metadata =>
    match property metadata "agreementOfferId" with
    | some (.str id) => if id = "" then none else some id
    | _ => none
  | none => none

/-- The agreement that the commitment was compiled from, as the ledger shows it. -/
def readAgreement (l : OutcomeLedger) (commitment : LedgerRow) (workspaceId : String) (now : ℕ) :
    Except String (Option (String × Json)) :=
  match agreementOfferId commitment with
  | some id => l.getAgreementView id workspaceId now
  | none => .ok none

/-- The omissions, with one for the agreement where there is none. -/
def discloseAgreement (offerId : Option String) (agreement : Option (String × Json))
    (omissions : List OutcomeOmission) : List OutcomeOmission :=
  if agreement.isNone ∧ ¬ omissions.any (·.category = none) then
    omissions ++ [⟨none, if offerId.isSome then "agreement_missing" else "not_agreement_compiled",
      "No exact agreement view was available for this commitment."⟩]
  else omissions

/-- `a.category.localeCompare(b.category) || a.uri.localeCompare(b.uri)` -/
def compareReferences : ExternalReference → ExternalReference → Ordering :=
  compareLex (byField rt.localeCompare fun r => r.category.text)
    (byField rt.localeCompare ExternalReference.uri)

/-- `a.category.localeCompare(b.category) || a.reasonCode.localeCompare(b.reasonCode)` -/
def compareOmissions : OutcomeOmission → OutcomeOmission → Ordering :=
  compareLex (byField rt.localeCompare OutcomeOmission.categoryText)
    (byField rt.localeCompare OutcomeOmission.reasonCode)

/-- `buildOutcomeBundle` -/
def buildOutcomeBundle (l : OutcomeLedger) (input : BundleInput) : Except String OutcomeBundle := do
  refuse (¬ input.generatedAt ≤ maxSafeInteger) "generatedAt must be non-negative unix-ms"
  let snapshot ← inspectCommitment l input.commitmentId input.workspaceId
  let snapshot ← demand snapshot ("Commitment not found: " ++ input.commitmentId)
  let agreement ← readAgreement l snapshot.commitment input.workspaceId input.generatedAt
  let omissions := sortBy (compareOmissions rt)
    (discloseAgreement (agreementOfferId snapshot.commitment) agreement input.omissions)
  let references := sortBy (compareReferences rt) input.externalReferences
  validateDisclosures references omissions
  let records ← exactRecords rt snapshot agreement
  let content : BundleContent := ⟨input.workspaceId, input.commitmentId, input.generatedAt, records,
    references, omissions⟩
  let digest ← contentDigest rt content
  return ⟨content, digest⟩

/-! ### Freshness -/

inductive FreshnessOutcome where
  | current | stale | missing | invalid
  deriving DecidableEq, Repr

/-- A record whose digest has changed. -/
structure StaleRecord where
  recordType : RecordType
  id : String
  expectedDigest : String
  currentDigest : String
  deriving DecidableEq, Repr

/-- `OutcomeBundleFreshness` -/
structure Freshness where
  outcome : FreshnessOutcome
  invalidBundleDigest : Bool
  stale : List StaleRecord
  missing : List (RecordType × String)
  deriving DecidableEq, Repr

/-- The key of a record in the map of the current ones. -/
def RecordReference.key (r : RecordReference) : List Char :=
  r.recordType.text.toList ++ ':' :: r.id.toList

/-- `current.get(key)`, where the last record with a key stands. -/
def currentRecord (current : List RecordReference) (key : List Char) : Option RecordReference :=
  current.reverse.find? fun r => r.key = key

/-- The records of a bundle that are not among the current ones. -/
def missingRecords (records current : List RecordReference) : List (RecordType × String) :=
  records.filterMap fun record =>
    match currentRecord current record.key with
    | none => some (record.recordType, record.id)
    | some _ => none

/-- The records of a bundle that are among the current ones with another digest. -/
def staleRecords (records current : List RecordReference) : List StaleRecord :=
  records.filterMap fun record =>
    match currentRecord current record.key with
    | none => none
    | some found =>
      if found.digest ≠ record.digest then
        some ⟨record.recordType, record.id, record.digest, found.digest⟩
      else none

/-- The answer for what is missing and what is stale. -/
def freshness (missing : List (RecordType × String)) (stale : List StaleRecord) : Freshness :=
  ⟨if missing ≠ [] then .missing else if stale ≠ [] then .stale else .current, false, stale,
    missing⟩

/-- The agreement that the bundle has a record of, as the ledger shows it now. -/
def bundleAgreement (l : OutcomeLedger) (bundle : OutcomeBundle) :
    Except String (Option (String × Json)) :=
  match bundle.records.find? fun r => r.recordType = .agreement with
  | some record => l.getAgreementView record.id bundle.workspaceId bundle.generatedAt
  | none => .ok none

/-- `verifyOutcomeBundleFreshness`, from the digest on. -/
def verifyRecords (l : OutcomeLedger) (bundle : OutcomeBundle) : Except String Freshness := do
  let snapshot ← inspectCommitment l bundle.commitmentId bundle.workspaceId
  match snapshot with
  | none => return ⟨.missing, false, [], bundle.records.map fun r => (r.recordType, r.id)⟩
  | some snapshot =>
    let agreement ← bundleAgreement l bundle
    let current ← exactRecords rt snapshot agreement
    return freshness (missingRecords bundle.records current) (staleRecords bundle.records current)

/-- `verifyOutcomeBundleFreshness` -/
def verifyOutcomeBundleFreshness (l : OutcomeLedger) (bundle : OutcomeBundle) :
    Except String Freshness := do
  let digest ← contentDigest rt bundle.toBundleContent
  if digest = bundle.bundleDigest then verifyRecords rt l bundle
  else return ⟨.invalid, true, [], []⟩

end Tasq.Bundles
