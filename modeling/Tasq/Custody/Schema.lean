import Mathlib.Data.List.Sort
import Mathlib.Tactic
import Tasq.Authority.Schema
import Tasq.Lib.Canonical
import Tasq.Lib.Serialize

/-! The records of custody: targets, states of custody, handoffs and incidents, and the portable
    document that carries those of a workspace.

    Contract version literals are left out of the records; the canonical text has them, and the two
    omissions that every portable document names. -/

namespace Tasq.Custody

open Text Outcome Authority

/-! ### Bounds -/

/-- `z.string().min(1).max(limit)` -/
def IsText (limit : ℕ) (s : String) : Prop := 1 ≤ utf16Length s ∧ utf16Length s ≤ limit

instance (limit : ℕ) (s : String) : Decidable (IsText limit s) := by unfold IsText; infer_instance

/-- `Id` -/
abbrev IsCustodyId (s : String) : Prop := IsText 500 s

/-- The letters `a` to `z`. -/
def isLowercase (c : Char) : Bool := c.toNat ∈ List.range' 0x61 26

/-- The digits `0` to `9`. -/
def isDigit (c : Char) : Bool := c.toNat ∈ List.range' 0x30 10

/-- `/^[a-z][a-z0-9._-]{0,119}$/` -/
def matchesResourceType (s : String) : Bool :=
  match s.toList with
  | [] => false
  | c :: cs => isLowercase c && cs.length ≤ 119 &&
      cs.all fun c => isLowercase c || isDigit c || c ∈ ['.', '_', '-']

/-- `/^[0-9a-f]{64}$/` -/
def matchesHex64 (s : String) : Bool :=
  s.toList.length = 64 && s.toList.all fun c => isDigit c || c.toNat ∈ List.range' 0x61 6

/-! ### Targets -/

/-- `TargetIdentifierV1` -/
inductive TargetIdentifier where
  | plain (value : String)
  | workspaceHmacSha256 (value : String)
  deriving DecidableEq, Repr

/-- `TargetRefV1` -/
structure TargetRef where
  nameSpace : String
  resourceType : String
  identifier : TargetIdentifier
  version : Option String
  digest : Option Digest
  deriving DecidableEq

/-- `TargetIdentifierV1` admits the identifier. -/
def IsTargetIdentifier : TargetIdentifier → Prop
  | .plain value => IsId 1000 value ∧ ¬ "workspace-hmac-sha256:".toList <+: value.toList
  | .workspaceHmacSha256 value => matchesHex64 value = true

instance (identifier : TargetIdentifier) : Decidable (IsTargetIdentifier identifier) := by
  cases identifier <;> unfold IsTargetIdentifier <;> infer_instance

/-- `CustodyTargetV1` -/
structure CustodyTarget where
  workspaceId : String
  targetDigest : Digest
  target : TargetRef
  createdAt : ℕ
  deriving DecidableEq

/-! ### States, handoffs, incidents -/

/-- `CustodyStateV1` -/
structure CustodyState where
  id : String
  workspaceId : String
  targetDigest : Digest
  custodianPrincipalId : String
  predecessorStateId : Option String
  acceptedHandoffId : Option String
  condition : Metadata
  conditionDigest : Digest
  evidenceRefs : List String
  effectiveAt : ℕ
  recordedAt : ℕ
  deriving DecidableEq

/-- `CustodyStateV1` admits the state. -/
def IsCustodyState (s : CustodyState) : Prop :=
  IsCustodyId s.id ∧ IsCustodyId s.workspaceId ∧ IsCustodyId s.custodianPrincipalId ∧
    (∀ id ∈ s.predecessorStateId, IsCustodyId id) ∧ (∀ id ∈ s.acceptedHandoffId, IsCustodyId id) ∧
    (∀ ref ∈ s.evidenceRefs, IsCustodyId ref) ∧ 1 ≤ s.evidenceRefs.length ∧
    s.evidenceRefs.length ≤ 100

instance (s : CustodyState) : Decidable (IsCustodyState s) := by
  unfold IsCustodyState; infer_instance

structure AcceptanceEvidence where
  requirement : String
  evidenceRef : String
  deriving DecidableEq, Repr

inductive HandoffStatus where
  | offered | accepted | refused
  deriving DecidableEq, Repr

/-- The text of a status. -/
def HandoffStatus.text : HandoffStatus → String
  | offered => "offered"
  | accepted => "accepted"
  | refused => "refused"

/-- `CustodyHandoffV1` -/
structure CustodyHandoff where
  id : String
  workspaceId : String
  targetDigest : Digest
  sourceStateId : String
  fromPrincipalId : String
  toPrincipalId : String
  status : HandoffStatus
  condition : Metadata
  conditionDigest : Digest
  evidenceRequirements : List String
  acceptanceEvidence : List AcceptanceEvidence
  offeredAt : ℕ
  expiresAt : ℕ
  decidedAt : Option ℕ
  refusalReason : Option String
  revision : ℕ
  deriving DecidableEq

/-- `CustodyHandoffV1` admits the handoff. -/
def IsCustodyHandoff (h : CustodyHandoff) : Prop :=
  IsCustodyId h.id ∧ IsCustodyId h.workspaceId ∧ IsCustodyId h.sourceStateId ∧
    IsCustodyId h.fromPrincipalId ∧ IsCustodyId h.toPrincipalId ∧
    (∀ requirement ∈ h.evidenceRequirements, IsText 500 requirement) ∧
    h.evidenceRequirements.length ≤ 100 ∧
    (∀ e ∈ h.acceptanceEvidence, IsText 500 e.requirement ∧ IsCustodyId e.evidenceRef) ∧
    h.acceptanceEvidence.length ≤ 100 ∧ (∀ reason ∈ h.refusalReason, IsText 2000 reason) ∧
    1 ≤ h.revision

instance (h : CustodyHandoff) : Decidable (IsCustodyHandoff h) := by
  unfold IsCustodyHandoff; infer_instance

/-- What the status of a handoff says about the rest of it. -/
def CustodyHandoff.Lifecycle (h : CustodyHandoff) : Prop :=
  match h.status with
  | .offered => h.decidedAt = none ∧ h.refusalReason = none ∧ h.acceptanceEvidence = [] ∧
      h.revision = 1
  | .accepted => h.decidedAt ≠ none ∧ h.refusalReason = none ∧ h.acceptanceEvidence ≠ [] ∧
      h.revision = 2
  | .refused => h.decidedAt ≠ none ∧ h.refusalReason ≠ none ∧ h.acceptanceEvidence = [] ∧
      h.revision = 2

instance (h : CustodyHandoff) : Decidable h.Lifecycle := by
  unfold CustodyHandoff.Lifecycle
  split <;> infer_instance

/-- The requirements that the evidence of an acceptance answers. -/
def CustodyHandoff.supplied (h : CustodyHandoff) : List String :=
  h.acceptanceEvidence.map AcceptanceEvidence.requirement

/-- The evidence answers exactly what is required. -/
def Covers (requirements supplied : List String) : Prop :=
  requirements.dedup.length = supplied.dedup.length ∧ ∀ r ∈ requirements, r ∈ supplied

instance (requirements supplied : List String) : Decidable (Covers requirements supplied) := by
  unfold Covers; infer_instance

/-- `CustodyIncidentV1` -/
structure CustodyIncident where
  id : String
  workspaceId : String
  targetDigest : Digest
  stateId : String
  reporterPrincipalId : String
  kindUri : String
  summary : String
  evidenceRefs : List String
  occurredAt : ℕ
  recordedAt : ℕ
  deriving DecidableEq

/-! ### The portable document -/

/-- `CustodyPortableV1`, without its digest. -/
structure PortableContent where
  workspaceId : String
  exportedAt : ℕ
  targets : List CustodyTarget
  states : List CustodyState
  handoffs : List CustodyHandoff
  incidents : List CustodyIncident
  deriving DecidableEq

/-- `CustodyPortableV1` -/
structure CustodyPortable extends PortableContent where
  exportDigest : Digest
  deriving DecidableEq

/-- A state as it is read back from canonical text. -/
def CustodyState.canonical (s : CustodyState) : CustodyState :=
  { s with condition := CanonicalJson.canonical s.condition }

/-- A handoff as it is read back from canonical text. -/
def CustodyHandoff.canonical (h : CustodyHandoff) : CustodyHandoff :=
  { h with condition := CanonicalJson.canonical h.condition }

/-- A document as it is read back from canonical text. -/
def PortableContent.canonical (c : PortableContent) : PortableContent :=
  { c with
    states := c.states.map CustodyState.canonical
    handoffs := c.handoffs.map CustodyHandoff.canonical }

/-! ### What is digested -/

/-- What the digest of an idempotent request is taken of. -/
inductive CustodyRequest where
  | establish (target : TargetRef) (custodianPrincipalId : String) (condition : Metadata)
      (evidenceRefs : List String) (effectiveAt : ℕ)
  | offer (targetDigest : Digest) (sourceStateId toPrincipalId : String) (condition : Metadata)
      (evidenceRequirements : List String) (expiresAt : ℕ)
  | accept (handoffId : String) (expectedRevision : ℕ) (conditionDigest : Digest)
      (acceptanceEvidence : List AcceptanceEvidence) (effectiveAt : ℕ)
  | refuse (handoffId : String) (expectedRevision : ℕ) (reason : String)
  | incident (targetDigest : Digest) (stateId kindUri summary : String)
      (evidenceRefs : List String) (occurredAt : ℕ)
  deriving DecidableEq

/-- The payload of an event. -/
inductive CustodyPayload where
  | established (custodianPrincipalId : String) (conditionDigest : Digest)
      (evidenceRefs : List String)
  | offered (sourceStateId fromPrincipalId toPrincipalId : String) (conditionDigest : Digest)
  | accepted (handoffId predecessorStateId custodianPrincipalId : String)
      (conditionDigest : Digest) (acceptanceEvidence : List AcceptanceEvidence)
  | refused (reason : String)
  | reported (stateId kindUri : String) (evidenceRefs : List String)
  deriving DecidableEq

/-- A value that `canonicalizeEffectJson` is asked to write. -/
inductive CustodyDocument where
  | target (t : TargetRef)
  | condition (c : Metadata)
  | refs (values : List String)
  | evidence (values : List AcceptanceEvidence)
  | request (r : CustodyRequest)
  | payload (p : CustodyPayload)
  | portable (c : PortableContent)
  deriving DecidableEq

/-! ### Canonical text -/

/-- A text or nothing. -/
def optionalText (s : Option String) : Json := (s.map Json.str).getD .null

/-- A list of texts. -/
def texts (values : List String) : Json := .arr (values.map Json.str)

/-- `EFFECT_REQUEST_MAX_NODES`, `EFFECT_REQUEST_MAX_DEPTH`, `EFFECT_REQUEST_MAX_CANONICAL_BYTES` -/
def effectLimits : Json.Limits where
  nodes := 10000
  depth := 32
  bytes := 65536

section

variable (hex : Digest → String)

def TargetIdentifier.json : TargetIdentifier → Json
  | .plain value => .obj [("form", .str "plain"), ("value", .str value)]
  | .workspaceHmacSha256 value =>
    .obj [("form", .str "workspace_hmac_sha256"), ("value", .str value)]

def TargetRef.json (t : TargetRef) : Json :=
  .obj [("contractVersion", .str "tasq.target-ref.v1"), ("namespace", .str t.nameSpace),
    ("resourceType", .str t.resourceType), ("identifier", t.identifier.json),
    ("version", optionalText t.version), ("digest", optionalText (t.digest.map hex))]

def CustodyTarget.json (t : CustodyTarget) : Json :=
  .obj [("contractVersion", .str "tasq.experimental-custody.v1"),
    ("workspaceId", .str t.workspaceId), ("targetDigest", .str (hex t.targetDigest)),
    ("target", t.target.json hex), ("createdAt", .num t.createdAt)]

def CustodyState.json (s : CustodyState) : Json :=
  .obj [("contractVersion", .str "tasq.experimental-custody.v1"), ("id", .str s.id),
    ("workspaceId", .str s.workspaceId), ("targetDigest", .str (hex s.targetDigest)),
    ("custodianPrincipalId", .str s.custodianPrincipalId),
    ("predecessorStateId", optionalText s.predecessorStateId),
    ("acceptedHandoffId", optionalText s.acceptedHandoffId),
    ("condition", .obj s.condition.fields), ("conditionDigest", .str (hex s.conditionDigest)),
    ("evidenceRefs", texts s.evidenceRefs), ("effectiveAt", .num s.effectiveAt),
    ("recordedAt", .num s.recordedAt)]

def AcceptanceEvidence.json (e : AcceptanceEvidence) : Json :=
  .obj [("requirement", .str e.requirement), ("evidenceRef", .str e.evidenceRef)]

def CustodyHandoff.json (h : CustodyHandoff) : Json :=
  .obj [("contractVersion", .str "tasq.experimental-custody.v1"), ("id", .str h.id),
    ("workspaceId", .str h.workspaceId), ("targetDigest", .str (hex h.targetDigest)),
    ("sourceStateId", .str h.sourceStateId), ("fromPrincipalId", .str h.fromPrincipalId),
    ("toPrincipalId", .str h.toPrincipalId), ("status", .str h.status.text),
    ("condition", .obj h.condition.fields), ("conditionDigest", .str (hex h.conditionDigest)),
    ("evidenceRequirements", texts h.evidenceRequirements),
    ("acceptanceEvidence", .arr (h.acceptanceEvidence.map AcceptanceEvidence.json)),
    ("offeredAt", .num h.offeredAt), ("expiresAt", .num h.expiresAt),
    ("decidedAt", (h.decidedAt.map fun n => Json.num n).getD .null),
    ("refusalReason", optionalText h.refusalReason), ("revision", .num h.revision)]

def CustodyIncident.json (i : CustodyIncident) : Json :=
  .obj [("contractVersion", .str "tasq.experimental-custody.v1"), ("id", .str i.id),
    ("workspaceId", .str i.workspaceId), ("targetDigest", .str (hex i.targetDigest)),
    ("stateId", .str i.stateId), ("reporterPrincipalId", .str i.reporterPrincipalId),
    ("kindUri", .str i.kindUri), ("summary", .str i.summary),
    ("evidenceRefs", texts i.evidenceRefs), ("occurredAt", .num i.occurredAt),
    ("recordedAt", .num i.recordedAt)]

def PortableContent.fields (c : PortableContent) : List (String × Json) :=
  [("contractVersion", .str "tasq.experimental-custody-portable.v1"),
    ("workspaceId", .str c.workspaceId), ("exportedAt", .num c.exportedAt),
    ("targets", .arr (c.targets.map (CustodyTarget.json hex))),
    ("states", .arr (c.states.map (CustodyState.json hex))),
    ("handoffs", .arr (c.handoffs.map (CustodyHandoff.json hex))),
    ("incidents", .arr (c.incidents.map (CustodyIncident.json hex))),
    ("omissions", texts ["idempotency", "operational_events"])]

def PortableContent.json (c : PortableContent) : Json := .obj (c.fields hex)

end

/-! ### The platform -/

/-- What a URL parser answers. -/
structure CustodyUrl where
  href : String
  username : String
  password : String
  search : String
  hash : String
  deriving DecidableEq, Repr

/-- The platform under the custody store. -/
structure CustodyRuntime where
  /-- `new URL(value)`, when it does not throw. -/
  url : String → Option CustodyUrl
  /-- The request stays within the limits of `canonicalizeEffectJson`. -/
  admitsRequest : CustodyRequest → Bool
  /-- The payload stays within the limits of `canonicalizeEffectJson`. -/
  admitsPayload : CustodyPayload → Bool
  /-- `custodyDigest`, in the domain of the value. -/
  digest : CustodyDocument → Digest
  /-- The digest that `prepareTargetRefV1` derives. -/
  targetDigest : TargetRef → Digest
  /-- The text of a digest. -/
  hex : Digest → String
  /-- `a.localeCompare(b)` -/
  localeCompare : String → String → Ordering

/-- `canonicalizeEffectJson` does not refuse the value. -/
def CustodyRuntime.admits (rt : CustodyRuntime) : CustodyDocument → Bool
  | .target t => Json.Within effectLimits (t.json rt.hex)
  | .condition c => Json.Within effectLimits (.obj c.fields)
  | .refs values => Json.Within effectLimits (texts values)
  | .evidence values => Json.Within effectLimits (.arr (values.map AcceptanceEvidence.json))
  | .request r => rt.admitsRequest r
  | .payload p => rt.admitsPayload p
  | .portable c => Json.Within effectLimits (c.json rt.hex)

section

variable {rt : CustodyRuntime} {c : PortableContent}

/-- What stands in a record of a document is within the limits that the document is within. -/
theorem within_record (hc : rt.admits (.portable c) = true) {key : String} {records : List Json}
    (hkey : (key, .arr records) ∈ c.fields rt.hex) {fields : List (String × Json)}
    (hrecord : .obj fields ∈ records) {field : String} {v : Json} (hfield : (field, v) ∈ fields) :
    Json.Within effectLimits v := by
  have hwhole : Json.Within effectLimits (c.json rt.hex) := by
    simpa [CustodyRuntime.admits] using hc
  have htable := (Json.Part.field hkey).within hwhole
  exact (Json.Part.field hfield).within ((Json.Part.item hrecord).within htable)

theorem admits_target (hc : rt.admits (.portable c) = true) {t : CustodyTarget}
    (ht : t ∈ c.targets) : rt.admits (.target t.target) = true := by
  have hkey : ("targets", .arr (c.targets.map (CustodyTarget.json rt.hex))) ∈ c.fields rt.hex := by
    simp [PortableContent.fields]
  have hfield := within_record hc hkey (List.mem_map_of_mem ht)
    (show ("target", t.target.json rt.hex) ∈ _ by simp)
  simpa [CustodyRuntime.admits] using hfield

theorem admits_state (hc : rt.admits (.portable c) = true) {st : CustodyState}
    (hst : st ∈ c.states) :
    rt.admits (.condition st.condition) = true ∧ rt.admits (.refs st.evidenceRefs) = true := by
  have hkey : ("states", .arr (c.states.map (CustodyState.json rt.hex))) ∈ c.fields rt.hex := by
    simp [PortableContent.fields]
  have hcondition := within_record hc hkey (List.mem_map_of_mem hst)
    (show ("condition", .obj st.condition.fields) ∈ _ by simp)
  have hrefs := within_record hc hkey (List.mem_map_of_mem hst)
    (show ("evidenceRefs", texts st.evidenceRefs) ∈ _ by simp)
  exact ⟨by simpa [CustodyRuntime.admits] using hcondition,
    by simpa [CustodyRuntime.admits] using hrefs⟩

theorem admits_handoff (hc : rt.admits (.portable c) = true) {h : CustodyHandoff}
    (hh : h ∈ c.handoffs) :
    rt.admits (.condition h.condition) = true ∧ rt.admits (.refs h.evidenceRequirements) = true ∧
      rt.admits (.evidence h.acceptanceEvidence) = true := by
  have hkey : ("handoffs", .arr (c.handoffs.map (CustodyHandoff.json rt.hex))) ∈
      c.fields rt.hex := by
    simp [PortableContent.fields]
  have hcondition := within_record hc hkey (List.mem_map_of_mem hh)
    (show ("condition", .obj h.condition.fields) ∈ _ by simp)
  have hrefs := within_record hc hkey (List.mem_map_of_mem hh)
    (show ("evidenceRequirements", texts h.evidenceRequirements) ∈ _ by simp)
  have hevidence := within_record hc hkey (List.mem_map_of_mem hh)
    (show ("acceptanceEvidence",
      .arr (h.acceptanceEvidence.map AcceptanceEvidence.json)) ∈ _ by simp)
  exact ⟨by simpa [CustodyRuntime.admits] using hcondition,
    by simpa [CustodyRuntime.admits] using hrefs, by simpa [CustodyRuntime.admits] using hevidence⟩

theorem admits_incident (hc : rt.admits (.portable c) = true) {i : CustodyIncident}
    (hi : i ∈ c.incidents) : rt.admits (.refs i.evidenceRefs) = true := by
  have hkey : ("incidents", .arr (c.incidents.map (CustodyIncident.json rt.hex))) ∈
      c.fields rt.hex := by
    simp [PortableContent.fields]
  have hrefs := within_record hc hkey (List.mem_map_of_mem hi)
    (show ("evidenceRefs", texts i.evidenceRefs) ∈ _ by simp)
  simpa [CustodyRuntime.admits] using hrefs

end

namespace CustodyRuntime

variable (rt : CustodyRuntime)

/-- `CanonicalNamespace` -/
def IsNamespace (value : String) : Prop :=
  IsId 2000 value ∧ ∃ u ∈ rt.url value, u.href = value ∧ u.username = "" ∧ u.password = "" ∧
    u.search = "" ∧ u.hash = ""

instance (value : String) : Decidable (rt.IsNamespace value) := by
  unfold IsNamespace; infer_instance

/-- `TargetRefV1` admits the target. -/
def IsTargetRef (t : TargetRef) : Prop :=
  rt.IsNamespace t.nameSpace ∧ matchesResourceType t.resourceType = true ∧
    IsTargetIdentifier t.identifier ∧ ∀ version ∈ t.version, IsId 500 version

instance (t : TargetRef) : Decidable (rt.IsTargetRef t) := by unfold IsTargetRef; infer_instance

/-- `CustodyTargetV1` admits the target. -/
def IsCustodyTarget (t : CustodyTarget) : Prop :=
  IsCustodyId t.workspaceId ∧ rt.IsTargetRef t.target

instance (t : CustodyTarget) : Decidable (rt.IsCustodyTarget t) := by
  unfold IsCustodyTarget; infer_instance

/-- `CustodyIncidentV1` admits the incident. -/
def IsCustodyIncident (i : CustodyIncident) : Prop :=
  IsCustodyId i.id ∧ IsCustodyId i.workspaceId ∧ IsCustodyId i.stateId ∧
    IsCustodyId i.reporterPrincipalId ∧ (rt.url i.kindUri).isSome ∧ utf16Length i.kindUri ≤ 2000 ∧
    IsText 2000 i.summary ∧ (∀ ref ∈ i.evidenceRefs, IsCustodyId ref) ∧ i.evidenceRefs.length ≤ 100

instance (i : CustodyIncident) : Decidable (rt.IsCustodyIncident i) := by
  unfold IsCustodyIncident; infer_instance

/-- `canonicalizeEffectJson`, where only its refusal matters. -/
def assertCanonical (d : CustodyDocument) : Call Unit :=
  refuse (rt.admits d = false) (.error "Effect request exceeds its canonical limits")

/-- `custodyDigest` -/
def custodyDigest (d : CustodyDocument) : Call Digest := do
  rt.assertCanonical d
  pure (rt.digest d)

@[simp] theorem assertCanonical_eq_ok (d : CustodyDocument) (u : Unit) :
    rt.assertCanonical d = .ok u ↔ rt.admits d = true := by
  simp [assertCanonical]

@[simp] theorem custodyDigest_eq_ok (d : CustodyDocument) (e : Digest) :
    rt.custodyDigest d = .ok e ↔ rt.admits d = true ∧ rt.digest d = e := by
  simp [custodyDigest, map_eq_ok]

/-- `prepareTargetRefV1`, of which custody uses the digest. -/
def prepareTargetRefV1 (t : TargetRef) : Call Digest := do
  refuse (¬ rt.IsTargetRef t) (.invalid "TargetRefV1")
  pure (rt.targetDigest t)

@[simp] theorem prepareTargetRefV1_eq_ok (t : TargetRef) (d : Digest) :
    rt.prepareTargetRefV1 t = .ok d ↔ rt.IsTargetRef t ∧ rt.targetDigest t = d := by
  simp [prepareTargetRefV1, map_eq_ok]

end CustodyRuntime

end Tasq.Custody
