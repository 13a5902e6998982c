import Mathlib.Tactic
import Tasq.EffectLedger.Request
import Tasq.Statements.Schema
import Tasq.Targets.Reference

/-! The request of an effect as JSON, its normal form, and the row that a proposal writes.

    A request is checked before and after the schema reads it; its secret bindings are put in the
    order of their names; the digest is taken of the canonical text in its domain.

        input ──limits──▶ schema ──▶ sorted bindings ──limits──▶ text ──▶ digest, dispatch key -/

namespace Tasq.Requests

open Text Outcome Json Custody Targets

/-! ### The schema -/

/-- The platform: the URL parser and SHA-256, as the code encodes its digests. -/
structure RequestRuntime where
  /-- `new URL(value)` has the protocol `https:` and a host. -/
  isHttps : String → Bool
  /-- SHA-256 of the UTF-8 bytes in hexadecimal digits. -/
  sha256Hex : List Char → {s : String // matchesHex64 s = true}
  /-- SHA-256 of the UTF-8 bytes in base64url. -/
  sha256Base64url : List Char →
    {s : String // s.toList.length = 43 ∧ s.toList.all Statements.isBase64url = true}

/-- `boundedScalarString(min, max)` -/
def IsScalar (min max : ℕ) (s : String) : Prop := min ≤ utf16Length s ∧ utf16Length s ≤ max

instance (min max : ℕ) (s : String) : Decidable (IsScalar min max s) := by
  unfold IsScalar; infer_instance

/-- `/^[a-z][a-z0-9._-]{0,127}$/` -/
def matchesBindingName (s : String) : Bool :=
  match s.toList with
  | [] => false
  | c :: cs => isLowercase c && cs.length ≤ 127 &&
      cs.all fun c => isLowercase c || Custody.isDigit c || c ∈ ['.', '_', '-']

/-- `EffectSecretBinding` -/
structure SecretBinding where
  name : String
  ref : String
  version : String
  contentDigest : Option String
  deriving DecidableEq, Repr

/-- `EffectConnectorBinding` -/
structure ConnectorBinding where
  operationUri : String
  operationVersion : ℕ+
  contractDigest : String
  instanceRef : String
  bindingDigest : String
  deriving DecidableEq, Repr

/-- `EffectRequestEnvelope` -/
structure Envelope where
  workspaceId : String
  effectTypeUri : String
  effectSchemaVersion : ℕ+
  connector : ConnectorBinding
  parameters : List (String × Json)
  secretBindings : List SecretBinding
  deriving DecidableEq

/-- The entries of a secret binding. -/
def SecretBinding.entries (b : SecretBinding) : List (String × Option Json) :=
  [("name", some (.str b.name)), ("ref", some (.str b.ref)), ("version", some (.str b.version)),
    ("contentDigest", b.contentDigest.map .str)]

/-- A secret binding as a value. -/
def SecretBinding.json (b : SecretBinding) : Json := .obj (present b.entries)

/-- A connector binding as a value. -/
def ConnectorBinding.json (c : ConnectorBinding) : Json :=
  .obj [("operationUri", .str c.operationUri), ("operationVersion", .num (c.operationVersion : ℕ)),
    ("contractDigest", .str c.contractDigest), ("instanceRef", .str c.instanceRef),
    ("bindingDigest", .str c.bindingDigest)]

/-- A request as a value, in the order of the schema. -/
def Envelope.json (e : Envelope) : Json :=
  .obj [("protocol", .str "tasq.effect-request.v1"),
    ("canonicalization", .str "tasq.jcs-safe-integer.v1"), ("digestAlgorithm", .str "sha-256"),
    ("workspaceId", .str e.workspaceId), ("effectTypeUri", .str e.effectTypeUri),
    ("effectSchemaVersion", .num (e.effectSchemaVersion : ℕ)), ("connector", e.connector.json),
    ("parameters", .obj e.parameters),
    ("secretBindings", .arr (e.secretBindings.map SecretBinding.json))]

/-- The shape of `EffectSecretBinding`. -/
def readBinding (v : Json) : Option SecretBinding := do
  guard (hasOnly ["name", "ref", "version", "contentDigest"] v)
  let name ← text? v "name"
  let ref ← text? v "ref"
  let version ← text? v "version"
  let contentDigest ← optionalText? v "contentDigest"
  return ⟨name, ref, version, contentDigest⟩

/-- The shape of `EffectConnectorBinding`. -/
def readConnector (v : Json) : Option ConnectorBinding := do
  guard (hasOnly ["operationUri", "operationVersion", "contractDigest", "instanceRef",
    "bindingDigest"] v)
  let operationUri ← text? v "operationUri"
  let operationVersion ← positive? v "operationVersion"
  let contractDigest ← text? v "contractDigest"
  let instanceRef ← text? v "instanceRef"
  let bindingDigest ← text? v "bindingDigest"
  return ⟨operationUri, operationVersion, contractDigest, instanceRef, bindingDigest⟩

/-- The shape of `secretBindings`. -/
def readBindings (v : Json) : Option (List SecretBinding) :=
  match v with
  | .arr items => items.mapM readBinding
  | _ => none

/-- The shape of `EffectRequestEnvelope`. -/
def readEnvelope (v : Json) : Option Envelope := do
  guard (hasOnly ["protocol", "canonicalization", "digestAlgorithm", "workspaceId",
    "effectTypeUri", "effectSchemaVersion", "connector", "parameters", "secretBindings"] v)
  guard (text? v "protocol" = some "tasq.effect-request.v1")
  guard (text? v "canonicalization" = some "tasq.jcs-safe-integer.v1")
  guard (text? v "digestAlgorithm" = some "sha-256")
  let workspaceId ← text? v "workspaceId"
  let effectTypeUri ← text? v "effectTypeUri"
  let effectSchemaVersion ← positive? v "effectSchemaVersion"
  let connector ← (property v "connector").bind readConnector
  let parameters ← record? v "parameters"
  let secretBindings ← (property v "secretBindings").bind readBindings
  return ⟨workspaceId, effectTypeUri, effectSchemaVersion, connector, parameters, secretBindings⟩

variable (rt : RequestRuntime)

/-- What `EffectSecretBinding` says of a binding. -/
def IsBinding (b : SecretBinding) : Prop :=
  matchesBindingName b.name = true ∧ IsScalar 1 512 b.ref ∧ IsScalar 1 256 b.version ∧
    ∀ digest ∈ b.contentDigest, IsDigest digest

instance (b : SecretBinding) : Decidable (IsBinding b) := by unfold IsBinding; infer_instance

/-- What `EffectRequestEnvelope` says of a request. -/
def IsEnvelope (e : Envelope) : Prop :=
  IsScalar 1 256 e.workspaceId ∧ rt.isHttps e.effectTypeUri = true ∧
    rt.isHttps e.connector.operationUri = true ∧ IsDigest e.connector.contractDigest ∧
    IsScalar 1 512 e.connector.instanceRef ∧ IsDigest e.connector.bindingDigest ∧
    e.secretBindings.length ≤ 256 ∧ ∀ b ∈ e.secretBindings, IsBinding b

instance (e : Envelope) : Decidable (IsEnvelope rt e) := by unfold IsEnvelope; infer_instance

/-- `EffectRequestEnvelope.parse(input)` -/
def parseEnvelope (input : Json) : Option Envelope :=
  (readEnvelope input).filter fun e => IsEnvelope rt e

/-! ### The normal form -/

/-- `EFFECT_REQUEST_DIGEST_DOMAIN` -/
def digestDomain : List Char := "tasq.effect-request-digest.v1".toList ++ [Char.ofNat 0]

/-- `EFFECT_DISPATCH_KEY_DOMAIN` -/
def dispatchDomain : List Char := "tasq.effect-dispatch.v1".toList ++ [Char.ofNat 0]

/-- `PreparedEffectRequest` -/
structure PreparedRequest where
  request : Envelope
  canonicalRequest : List Char
  requestDigest : String

/-- What the digest of a request is taken of. -/
def PreparedRequest.preimage (p : PreparedRequest) : List Char := digestDomain ++ p.canonicalRequest

/-- The bindings in the order of their names. -/
def sortBindings (bindings : List SecretBinding) : List SecretBinding :=
  bindings.insertionSort fun left right => utf16 left.name ≤ utf16 right.name

/-- The first name that stands twice in a row. -/
def duplicateName : List SecretBinding → Option String
  | a :: b :: rest => if a.name = b.name then some b.name else duplicateName (b :: rest)
  | _ => none

/-- `prepareEffectRequest` -/
def prepareEffectRequest (input : Json) : Call PreparedRequest := do
  refuse (¬ Within effectLimits input) (.error "Effect canonicalization rejects the request")
  let parsed ← demand (parseEnvelope rt input) (.invalid "EffectRequestEnvelope")
  let request := { parsed with secretBindings := sortBindings parsed.secretBindings }
  refuse (duplicateName request.secretBindings).isSome
    (.error ("Duplicate effect secret binding: " ++
      (duplicateName request.secretBindings).getD ""))
  refuse (¬ Within effectLimits request.json)
    (.error "Effect canonicalization rejects the request")
  let canonicalRequest := serialize request.json
  pure ⟨request, canonicalRequest, "sha256:" ++ (rt.sha256Hex (digestDomain ++ canonicalRequest)).1⟩

/-- The characters of a UUID of version 7, place by place. -/
def uuidV7Pattern : List (Char → Bool) :=
  let hex : Char → Bool := fun c => Custody.isDigit c || c.toNat ∈ List.range' 0x61 6 ||
    c.toNat ∈ List.range' 0x41 6
  let dash : Char → Bool := fun c => c = '-'
  List.replicate 8 hex ++ [dash] ++ List.replicate 4 hex ++ [dash, fun c => c = '7'] ++
    List.replicate 3 hex ++ [dash, fun c => c ∈ ['8', '9', 'a', 'b', 'A', 'B']] ++
    List.replicate 3 hex ++ [dash] ++ List.replicate 12 hex

/-- `UuidV7` -/
def IsUuidV7 (s : String) : Prop :=
  s.toList.length = 36 ∧ (uuidV7Pattern.zipWith (fun p c => p c) s.toList).all id = true

instance (s : String) : Decidable (IsUuidV7 s) := by unfold IsUuidV7; infer_instance

/-- `deriveEffectDispatchKey` -/
def deriveEffectDispatchKey (effectId : String) (prepared : PreparedRequest) : Call String := do
  refuse (¬ IsUuidV7 effectId) (.invalid "UuidV7")
  refuse (¬ IsDigest prepared.requestDigest) (.invalid "Sha256Digest")
  pure ("tqfx1_" ++ (rt.sha256Base64url (dispatchDomain ++ prepared.request.workspaceId.toList ++
    Char.ofNat 0 :: (effectId.toList ++ Char.ofNat 0 :: prepared.requestDigest.toList))).1)

/-! ### Rows of effects -/

/-- The columns that a status requires or excludes. -/
inductive EffectColumn where
  | authorizedByApprovalId | authorizedAt | claimId | fence | executionStartedAt
  | outcomeReceiptId | indeterminateAt | resolvedAt | cancelledAt | cancelReason
  deriving DecidableEq, Repr

/-- A row of `effect`. -/
structure EffectRow where
  id : String
  tenantId : String
  taskId : String
  attemptId : Option String
  canonicalRequest : List Char
  requestDigest : String
  dispatchIdempotencyKey : String
  status : EffectStatus
  authorizedByApprovalId : Option String
  outcomeReceiptId : Option String
  claimId : Option String
  fence : Option ℕ
  supersedesEffectId : Option String
  compensationOfEffectId : Option String
  createdByPrincipalId : String
  revision : ℕ
  authorizedAt : Option ℕ
  executionStartedAt : Option ℕ
  indeterminateAt : Option ℕ
  resolvedAt : Option ℕ
  cancelledAt : Option ℕ
  cancelReason : Option String
  createdAt : ℕ
  updatedAt : ℕ

namespace EffectRow

variable (r : EffectRow)

/-- `present(field)` -/
def present : EffectColumn → Bool
  | .authorizedByApprovalId => r.authorizedByApprovalId.isSome
  | .authorizedAt => r.authorizedAt.isSome
  | .claimId => r.claimId.isSome
  | .fence => r.fence.isSome
  | .executionStartedAt => r.executionStartedAt.isSome
  | .outcomeReceiptId => r.outcomeReceiptId.isSome
  | .indeterminateAt => r.indeterminateAt.isSome
  | .resolvedAt => r.resolvedAt.isSome
  | .cancelledAt => r.cancelledAt.isSome
  | .cancelReason => r.cancelReason.isSome

/-- `authorityFields` -/
def authorityColumns : List EffectColumn := [.authorizedByApprovalId, .authorizedAt]

/-- `executionFields` -/
def executionColumns : List EffectColumn := [.claimId, .fence, .executionStartedAt]

/-- `cancellationFields` -/
def cancellationColumns : List EffectColumn := [.cancelledAt, .cancelReason]

/-- The columns that a status requires. -/
def required : EffectStatus → List EffectColumn
  | .proposed => []
  | .authorized => authorityColumns
  | .executing => authorityColumns ++ executionColumns
  | .indeterminate => authorityColumns ++ executionColumns ++ [.outcomeReceiptId, .indeterminateAt]
  | .committed => authorityColumns ++ executionColumns ++ [.outcomeReceiptId, .resolvedAt]
  | .failed => authorityColumns ++ executionColumns ++ [.outcomeReceiptId, .resolvedAt]
  | .cancelled => cancellationColumns

/-- The columns that a status excludes. -/
def excluded : EffectStatus → List EffectColumn
  | .proposed => authorityColumns ++ executionColumns ++
      [.outcomeReceiptId, .indeterminateAt, .resolvedAt] ++ cancellationColumns
  | .authorized => executionColumns ++ [.outcomeReceiptId, .indeterminateAt, .resolvedAt] ++
      cancellationColumns
  | .executing => [.outcomeReceiptId, .indeterminateAt, .resolvedAt] ++ cancellationColumns
  | .indeterminate => [.resolvedAt] ++ cancellationColumns
  | .committed => cancellationColumns
  | .failed => cancellationColumns
  | .cancelled => authorityColumns ++ executionColumns ++
      [.outcomeReceiptId, .indeterminateAt, .resolvedAt]

/-- The order of times that the schema requires. -/
def Timed : Prop :=
  r.createdAt ≤ r.updatedAt ∧ (∀ t ∈ r.authorizedAt, r.createdAt ≤ t) ∧
    (∀ t ∈ r.executionStartedAt, ∃ a ∈ r.authorizedAt, a ≤ t) ∧
    (∀ t ∈ r.indeterminateAt, ∃ x ∈ r.executionStartedAt, x ≤ t) ∧
    (∀ t ∈ r.resolvedAt, ∃ x ∈ r.executionStartedAt, x ≤ t) ∧
    ∀ t ∈ r.cancelledAt, r.createdAt ≤ t

/-- What `Effect` says of a row, its request apart. -/
def IsEffect : Prop :=
  IsUuidV7 r.id ∧ IsScalar 1 256 r.tenantId ∧ IsUuidV7 r.taskId ∧ (∀ id ∈ r.attemptId, IsUuidV7 id) ∧
    r.canonicalRequest ≠ [] ∧ IsDigest r.requestDigest ∧
    ("tqfx1_".toList <+: r.dispatchIdempotencyKey.toList ∧
      (r.dispatchIdempotencyKey.toList.drop 6).length = 43 ∧
      (r.dispatchIdempotencyKey.toList.drop 6).all Statements.isBase64url = true) ∧
    (∀ id ∈ r.authorizedByApprovalId, IsUuidV7 id) ∧ (∀ id ∈ r.outcomeReceiptId, IsUuidV7 id) ∧
    (∀ id ∈ r.claimId, IsUuidV7 id) ∧ (∀ n ∈ r.fence, 0 < n) ∧
    (∀ id ∈ r.supersedesEffectId, IsUuidV7 id) ∧ (∀ id ∈ r.compensationOfEffectId, IsUuidV7 id) ∧
    r.createdByPrincipalId ≠ "" ∧ 0 < r.revision ∧ (∀ reason ∈ r.cancelReason, reason ≠ "") ∧
    r.Timed ∧ (∀ c ∈ required r.status, r.present c = true) ∧
    (∀ c ∈ excluded r.status, r.present c = false) ∧
    (r.status = .cancelled → ∃ reason ∈ r.cancelReason, ¬ Blank reason)

instance : Decidable r.Timed := by unfold Timed; infer_instance

instance : Decidable r.IsEffect := by unfold IsEffect; infer_instance

end EffectRow

/-- `parseEffect`: the row with its request. -/
def parseEffect (row : EffectRow) : Call (EffectRow × Envelope) := do
  let request ← demand (parse row.canonicalRequest)
    (.error ("Effect " ++ row.id ++ " contains invalid canonical request JSON"))
  let prepared ← prepareEffectRequest rt request
  refuse (prepared.canonicalRequest ≠ row.canonicalRequest ∨
      prepared.requestDigest ≠ row.requestDigest)
    (.error ("Effect " ++ row.id ++ " request integrity mismatch"))
  let key ← deriveEffectDispatchKey rt row.id prepared
  refuse (key ≠ row.dispatchIdempotencyKey)
    (.error ("Effect " ++ row.id ++ " dispatch identity mismatch"))
  refuse (¬ row.IsEffect) (.invalid "Effect")
  pure (row, prepared.request)

/-- `EffectProposal` -/
structure Proposal where
  id : Option String
  tenantId : String
  taskId : String
  attemptId : Option String
  request : Envelope
  supersedesEffectId : Option String
  compensationOfEffectId : Option String

/-- `z.string().default(value)` under a key. -/
def defaultText? (v : Json) (key value : String) : Option String :=
  match property v key with
  | some (.str s) => some s
  | none => some value
  | some _ => none

/-- The shape of `EffectProposal`. -/
def readProposal (v : Json) : Option Proposal := do
  guard (hasOnly ["id", "tenantId", "taskId", "attemptId", "request", "supersedesEffectId",
    "compensationOfEffectId"] v)
  let id ← optionalText? v "id"
  let tenantId ← defaultText? v "tenantId" "gwendall"
  let taskId ← text? v "taskId"
  let attemptId ← nullableText? v "attemptId"
  let request ← (property v "request").bind (parseEnvelope rt)
  let supersedesEffectId ← nullableText? v "supersedesEffectId"
  let compensationOfEffectId ← nullableText? v "compensationOfEffectId"
  return ⟨id, tenantId, taskId, attemptId, request, supersedesEffectId, compensationOfEffectId⟩

/-- What `EffectProposal` says of a proposal. -/
def IsProposal (p : Proposal) : Prop :=
  (∀ id ∈ p.id, IsUuidV7 id) ∧ IsScalar 1 256 p.tenantId ∧ IsUuidV7 p.taskId ∧
    (∀ id ∈ p.attemptId, IsUuidV7 id) ∧ (∀ id ∈ p.supersedesEffectId, IsUuidV7 id) ∧
    (∀ id ∈ p.compensationOfEffectId, IsUuidV7 id) ∧
    (p.supersedesEffectId = none ∨ p.compensationOfEffectId = none)

instance (p : Proposal) : Decidable (IsProposal p) := by unfold IsProposal; infer_instance

/-- The row of a new effect. -/
def proposedRow (parsed : Proposal) (prepared : PreparedRequest) (id key principalId : String)
    (now : ℕ) : EffectRow where
  id := id
  tenantId := parsed.tenantId
  taskId := parsed.taskId
  attemptId := parsed.attemptId
  canonicalRequest := prepared.canonicalRequest
  requestDigest := prepared.requestDigest
  dispatchIdempotencyKey := key
  status := .proposed
  authorizedByApprovalId := none
  outcomeReceiptId := none
  claimId := none
  fence := none
  supersedesEffectId := parsed.supersedesEffectId
  compensationOfEffectId := parsed.compensationOfEffectId
  createdByPrincipalId := principalId
  revision := 1
  authorizedAt := none
  executionStartedAt := none
  indeterminateAt := none
  resolvedAt := none
  cancelledAt := none
  cancelReason := none
  createdAt := now
  updatedAt := now

/-- `proposeEffect`: the row that it inserts where it inserts one. The checks on other rows, which
    only refuse, are left to the ledger. -/
def proposeEffect (input : Json) (freshId : {id : String // IsUuidV7 id})
    (principalId : {id : String // id ≠ ""}) (now : ℕ) : Call EffectRow := do
  refuse (¬ Within effectLimits input) (.error "Effect canonicalization rejects the proposal")
  let parsed ← demand ((readProposal rt input).filter fun p => IsProposal p)
    (.invalid "EffectProposal")
  refuse (parsed.request.workspaceId ≠ parsed.tenantId)
    (.error "Effect request workspaceId must match tenantId")
  let prepared ← prepareEffectRequest rt parsed.request.json
  let id := parsed.id.getD freshId
  let key ← deriveEffectDispatchKey rt id prepared
  pure (proposedRow parsed prepared id key principalId now)

end Tasq.Requests
