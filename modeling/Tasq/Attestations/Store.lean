import Mathlib.Tactic
import Tasq.Authority.Schema
import Tasq.Idempotency
import Tasq.Lib.Answer
import Tasq.Lib.Rows
import Tasq.Lib.Run

/-! The attestation ledger: attestations with their successors, revocations by the issuer, what is
    current at a time, and which requirements a subject meets at it.

    The ledger has the rows of every workspace. Rows of spaces and principals come from elsewhere;
    only their ids matter here. An idempotent call of these services is remembered under a digest
    of this version always. -/

namespace Tasq.Attestations

open Text Outcome Rows Authority

/-! ### Documents -/

/-- `AttestationSubjectV1` -/
structure Subject where
  typeUri : String
  id : String
  digest : Option Digest
  deriving DecidableEq

/-- `AttestationPurposeV1` -/
structure Purpose where
  uri : String
  version : ℕ
  deriving DecidableEq

/-- `AttestationScopeEntryV1` -/
structure ScopeEntry where
  typeUri : String
  value : String
  digest : Option Digest
  deriving DecidableEq

/-- `AttestationClaimV1` -/
structure Claim where
  typeUri : String
  version : ℕ
  value : Json
  deriving DecidableEq

/-- `AttestationEvidenceRefV1` -/
structure EvidenceRef where
  typeUri : String
  digest : Digest
  uri : Option String
  deriving DecidableEq

/-- `AttestationV1` without its digest. -/
structure AttestationBody where
  id : String
  workspaceId : String
  issuerPrincipalId : String
  subject : Subject
  purpose : Purpose
  scope : List ScopeEntry
  claim : Claim
  claimDigest : Digest
  evidence : List EvidenceRef
  notBefore : ℕ
  expiresAt : Option ℕ
  supersedesAttestationId : Option String
  issuedAt : ℕ
  metadata : Metadata
  deriving DecidableEq

/-- `AttestationV1` -/
structure Attestation extends AttestationBody where
  attestationDigest : Digest
  deriving DecidableEq

/-- `AttestationIssueInputV1` -/
structure IssueInput where
  id : Option String
  subject : Subject
  purpose : Purpose
  scope : List ScopeEntry
  claim : Claim
  evidence : List EvidenceRef
  notBefore : Option ℕ
  expiresAt : Option ℕ
  supersedesAttestationId : Option String
  metadata : Metadata
  deriving DecidableEq

/-- The input of `revokeAttestation`. -/
structure RevokeInput where
  reasonCode : String
  explanation : Option String
  effectiveAt : Option ℕ
  metadata : Metadata
  deriving DecidableEq

/-- `AttestationRevocationV1` without its digest. -/
structure RevocationBody where
  id : String
  workspaceId : String
  attestationId : String
  revokerPrincipalId : String
  reasonCode : String
  explanation : Option String
  effectiveAt : ℕ
  recordedAt : ℕ
  metadata : Metadata
  deriving DecidableEq

/-- `AttestationRevocationV1` -/
structure Revocation extends RevocationBody where
  revocationDigest : Digest
  deriving DecidableEq

/-- `AttestationRequirementV1` -/
structure Requirement where
  purpose : Purpose
  claimTypeUri : String
  claimVersion : ℕ
  acceptedIssuerPrincipalIds : List String
  requiredScope : List ScopeEntry
  claimDigest : Option Digest
  deriving DecidableEq

/-- `AttestationEligibilityDecisionV1`, without the fixed assurance. -/
structure EligibilityDecision where
  workspaceId : String
  subject : Subject
  authorityTime : ℕ
  eligible : Bool
  basisAttestationIds : List String
  unsatisfiedRequirementIndexes : List ℕ
  deriving DecidableEq

/-- `ServiceContext`, with the reading of its clock. -/
structure ServiceContext where
  tenantId : Option String
  actor : String
  principalId : Option String
  idempotencyKey : Option String
  now : ℕ
  deriving DecidableEq

/-- `LEGACY_DEFAULT_WORKSPACE_ID` -/
def legacyDefaultWorkspaceId : String := "gwendall"

/-! ### The platform -/

/-- What the digests of the ledger are taken of. -/
inductive AttestationDocument where
  | attestation (body : AttestationBody)
  | claim (value : Claim)
  | revocation (body : RevocationBody)
  | issue (issuerPrincipalId : String) (input : IssueInput)
  | revoke (attestationId revokerPrincipalId : String) (input : RevokeInput)
  deriving DecidableEq

/-- The platform under the ledger. -/
structure AttestationRuntime where
  digest : AttestationDocument → Digest
  /-- `z.string().url()` admits the text. -/
  url : String → Bool
  /-- `JSON.stringify(a).localeCompare(JSON.stringify(b))` -/
  compareEntries : ScopeEntry → ScopeEntry → Ordering

variable (rt : AttestationRuntime)

/-! ### What the schemas admit -/

/-- `Portable` -/
def IsPortable (s : String) : Prop := IsId 2000 s

instance (s : String) : Decidable (IsPortable s) := by unfold IsPortable; infer_instance

/-- `AbsoluteUri` -/
def AttestationRuntime.IsUri (s : String) : Prop := rt.url s = true ∧ utf16Length s ≤ 2000

instance (s : String) : Decidable (rt.IsUri s) := by
  unfold AttestationRuntime.IsUri; infer_instance

/-- `AttestationSubjectV1` admits the subject. -/
def AttestationRuntime.IsSubject (v : Subject) : Prop := rt.IsUri v.typeUri ∧ IsPortable v.id

instance (v : Subject) : Decidable (rt.IsSubject v) := by
  unfold AttestationRuntime.IsSubject; infer_instance

/-- `AttestationPurposeV1` admits the purpose. -/
def AttestationRuntime.IsPurpose (v : Purpose) : Prop := rt.IsUri v.uri ∧ 0 < v.version

instance (v : Purpose) : Decidable (rt.IsPurpose v) := by
  unfold AttestationRuntime.IsPurpose; infer_instance

/-- `z.array(AttestationScopeEntryV1).max(64)` admits the scope. -/
def AttestationRuntime.IsScope (v : List ScopeEntry) : Prop :=
  v.length ≤ 64 ∧ ∀ e ∈ v, rt.IsUri e.typeUri ∧ IsPortable e.value

instance (v : List ScopeEntry) : Decidable (rt.IsScope v) := by
  unfold AttestationRuntime.IsScope; infer_instance

/-- `z.array(AttestationEvidenceRefV1).max(64)` admits the references. -/
def AttestationRuntime.IsEvidence (v : List EvidenceRef) : Prop :=
  v.length ≤ 64 ∧ ∀ e ∈ v, rt.IsUri e.typeUri ∧ ∀ uri ∈ e.uri, rt.IsUri uri

instance (v : List EvidenceRef) : Decidable (rt.IsEvidence v) := by
  unfold AttestationRuntime.IsEvidence; infer_instance

/-- `AttestationClaimV1` admits the claim. -/
def AttestationRuntime.IsClaim (v : Claim) : Prop := rt.IsUri v.typeUri ∧ 0 < v.version

instance (v : Claim) : Decidable (rt.IsClaim v) := by
  unfold AttestationRuntime.IsClaim; infer_instance

/-- `z.number().int().positive().nullable()` -/
def IsExpiry (n : Option ℕ) : Prop := ∀ e ∈ n, 0 < e

instance (n : Option ℕ) : Decidable (IsExpiry n) := by unfold IsExpiry; infer_instance

/-- `canonicalScope` -/
def canonicalScope (entries : List ScopeEntry) : Call (List ScopeEntry) := do
  let sorted := entries.mergeSort fun a b => rt.compareEntries a b ≠ .gt
  refuse (¬ sorted.Nodup) (.error "attestation scope contains duplicates")
  pure sorted

/-- `AttestationIssueInputV1.parse` -/
def parseIssueInput (input : IssueInput) : Call Unit :=
  refuse (¬ ((∀ id ∈ input.id, IsPortable id) ∧ rt.IsSubject input.subject ∧
      rt.IsPurpose input.purpose ∧ rt.IsScope input.scope ∧ rt.IsClaim input.claim ∧
      rt.IsEvidence input.evidence ∧ IsExpiry input.expiresAt ∧
      ∀ id ∈ input.supersedesAttestationId, IsPortable id))
    (.invalid "AttestationIssueInputV1")

/-- `AttestationV1.parse` -/
def parseAttestation (a : Attestation) : Call Unit := do
  refuse (¬ (IsPortable a.id ∧ IsPortable a.workspaceId ∧ IsPortable a.issuerPrincipalId ∧
      rt.IsSubject a.subject ∧ rt.IsPurpose a.purpose ∧ rt.IsScope a.scope ∧ rt.IsClaim a.claim ∧
      rt.IsEvidence a.evidence ∧ IsExpiry a.expiresAt ∧
      ∀ id ∈ a.supersedesAttestationId, IsPortable id))
    (.invalid "AttestationV1")
  refuse (∃ e ∈ a.expiresAt, e ≤ a.notBefore) (.invalid "expiresAt")
  let ordered ← canonicalScope rt a.scope
  refuse (ordered ≠ a.scope) (.invalid "scope")

/-- `AttestationRevocationV1.parse` -/
def parseRevocation (r : Revocation) : Call Unit := do
  refuse (¬ (IsPortable r.id ∧ IsPortable r.workspaceId ∧ IsPortable r.attestationId ∧
      IsPortable r.revokerPrincipalId ∧ 1 ≤ utf16Length r.reasonCode ∧
      utf16Length r.reasonCode ≤ 120 ∧ ∀ t ∈ r.explanation, utf16Length t ≤ 4000))
    (.invalid "AttestationRevocationV1")
  refuse (r.recordedAt < r.effectiveAt) (.invalid "effectiveAt")

/-- `AttestationRequirementV1.parse` -/
def parseRequirement (r : Requirement) : Call Unit :=
  refuse (¬ (rt.IsPurpose r.purpose ∧ rt.IsUri r.claimTypeUri ∧ 0 < r.claimVersion ∧
      1 ≤ r.acceptedIssuerPrincipalIds.length ∧ r.acceptedIssuerPrincipalIds.length ≤ 64 ∧
      (∀ id ∈ r.acceptedIssuerPrincipalIds, IsPortable id) ∧ rt.IsScope r.requiredScope))
    (.invalid "AttestationRequirementV1")

/-! ### The store -/

/-- The operations that have a retry identity, in a workspace. -/
inductive AttestationOperation where
  | issue (workspaceId : String)
  | revoke (workspaceId : String)
  deriving DecidableEq

instance : ToString AttestationOperation where
  toString
    | .issue _ => "attestation.issue"
    | .revoke _ => "attestation.revoke"

/-- A row of `idempotency_key`. -/
structure Remembered where
  identity : Retry.Identity AttestationOperation
  resultId : String

/-- The rows of every workspace. -/
structure AttestationStore where
  /-- Ids of `coordination_space`. -/
  spaces : List String
  /-- Ids of `principal`. -/
  principals : List String
  attestations : List Attestation
  revocations : List Revocation
  retries : List Remembered

/-- The tables of a new database. -/
def AttestationStore.empty : AttestationStore := ⟨[], [], [], [], []⟩

/-- The row of an identity. -/
def remembered (rows : List Remembered) (p : Retry.Identity AttestationOperation) :
    Option Remembered :=
  rows.find? fun r => r.identity.callerScope = p.callerScope ∧ r.identity.operation = p.operation ∧
    r.identity.key = p.key

/-- The expired row of the identity is removed. -/
def forgetExpired (rows : List Remembered) (p : Retry.Identity AttestationOperation) :
    List Remembered :=
  rows.filter fun r => ¬ (r.identity.callerScope = p.callerScope ∧
    r.identity.operation = p.operation ∧ r.identity.key = p.key ∧
    ∃ t ∈ r.identity.expiresAt, t ≤ p.createdAt)

/-- `findIdempotencyResult`: the rows that stay, with the result of the earlier call. -/
def findResult (rows : List Remembered) (prepared : Option (Retry.Identity AttestationOperation)) :
    Call (List Remembered × Option String) :=
  match prepared with
  | none => pure (rows, none)
  | some p => do
    let rows := forgetExpired rows p
    let found := remembered rows p
    refuse (∃ r ∈ found, r.identity.requestDigest ≠ p.requestDigest)
      (.error s!"Idempotency identity already used with a different request: {p.text}")
    pure (rows, found.map Remembered.resultId)

/-- `saveIdempotencyResult` -/
def saveResult (rows : List Remembered) (prepared : Option (Retry.Identity AttestationOperation))
    (resultId : String) : Call (List Remembered) :=
  match prepared with
  | none => pure rows
  | some p => do
    bounded resultId "idempotency resultId" 2000
    refuse (remembered rows p).isSome (.constraint "UNIQUE idempotency_key")
    pure (rows ++ [⟨p, resultId⟩])

/-- `requireAuthenticatedPrincipal` -/
def requireAuthenticatedPrincipal (ctx : ServiceContext) : Call String := do
  let principalId ← demand ctx.principalId (.error "authenticated principalId is required")
  refuse (Blank principalId) (.error "authenticated principalId is required")
  pure principalId

/-- `serviceNow` -/
def serviceNow (ctx : ServiceContext) : Call ℕ := do
  refuse (Json.maxSafeInteger < ctx.now)
    (.error "Clock must be a non-negative unix-ms integer")
  pure ctx.now

namespace AttestationStore

variable (s : AttestationStore)

/-- `getAttestation` -/
def getAttestation (id workspaceId : String) : Option Attestation :=
  s.attestations.find? fun a => a.workspaceId = workspaceId ∧ a.id = id

/-- An insertion into `attestation`. Its JSON columns are canonical texts. -/
def insertAttestation (a : Attestation) : Call AttestationStore := do
  refuse (a.workspaceId ∉ s.spaces) (.constraint "FOREIGN KEY attestation.tenant_id")
  refuse (a.issuerPrincipalId ∉ s.principals)
    (.constraint "FOREIGN KEY attestation.issuer_principal_id")
  refuse (∃ id ∈ a.supersedesAttestationId, ∀ b ∈ s.attestations, b.id ≠ id)
    (.constraint "FOREIGN KEY attestation.supersedes_attestation_id")
  let rows ← insertRow s.attestations
    (fun b => b.id = a.id ∨
      (b.workspaceId = a.workspaceId ∧ (b.attestationDigest = a.attestationDigest ∨
        (a.supersedesAttestationId.isSome ∧
          b.supersedesAttestationId = a.supersedesAttestationId))))
    { a with
      claim := { a.claim with value := a.claim.value.canonical }
      metadata := canonical a.metadata }
    (.constraint "UNIQUE attestation")
  pure { s with attestations := rows }

/-- An insertion into `attestation_revocation`. -/
def insertRevocation (r : Revocation) : Call AttestationStore := do
  refuse (r.workspaceId ∉ s.spaces) (.constraint "FOREIGN KEY attestation_revocation.tenant_id")
  refuse (r.revokerPrincipalId ∉ s.principals)
    (.constraint "FOREIGN KEY attestation_revocation.revoker_principal_id")
  refuse (∀ b ∈ s.attestations, b.id ≠ r.attestationId)
    (.constraint "FOREIGN KEY attestation_revocation.attestation_id")
  let rows ← insertRow s.revocations
    (fun b => b.id = r.id ∨ (b.workspaceId = r.workspaceId ∧ b.attestationId = r.attestationId))
    { r with metadata := canonical r.metadata } (.constraint "UNIQUE attestation_revocation")
  pure { s with revocations := rows }

/-- What a successor must have in common with the attestation that it supersedes. -/
def requireSuccession (workspaceId issuerPrincipalId : String) (input : IssueInput)
    (scope : List ScopeEntry) (notBefore : ℕ) : Call Unit :=
  match input.supersedesAttestationId with
  | none => pure ()
  | some id => do
    let predecessor ← demand (s.getAttestation id workspaceId)
      (.error "superseded attestation not found in workspace")
    refuse (predecessor.issuerPrincipalId ≠ issuerPrincipalId ∨
        predecessor.subject ≠ input.subject ∨ predecessor.purpose ≠ input.purpose ∨
        predecessor.scope ≠ scope)
      (.error "supersession must preserve issuer, subject, purpose, and scope")
    refuse (notBefore < predecessor.notBefore)
      (.error "successor cannot become valid before predecessor")

/-- `issueAttestation`. `freshId` is the `uuidv7` that is taken when the input names no id. -/
def issueAttestation (freshId : String) (input : IssueInput) (ctx : ServiceContext) :
    Call (AttestationStore × Attestation) := do
  parseIssueInput rt input
  let workspaceId := ctx.tenantId.getD legacyDefaultWorkspaceId
  let issuerPrincipalId ← requireAuthenticatedPrincipal ctx
  let now ← serviceNow ctx
  let notBefore := input.notBefore.getD now
  let scope ← canonicalScope rt input.scope
  let id := input.id.getD freshId
  let retry ← Retry.prepareIdempotency workspaceId ctx.actor ctx.principalId ctx.idempotencyKey
    (AttestationOperation.issue workspaceId) (rt.digest (.issue issuerPrincipalId input)) none now
  let (retries, prior) ← findResult s.retries retry
  let s := { s with retries := retries }
  match prior with
  | some resultId => do
    let replay ← demand (s.getAttestation resultId workspaceId)
      (.error s!"idempotency record points at missing attestation {resultId}")
    pure (s, replay)
  | none => do
    s.requireSuccession workspaceId issuerPrincipalId input scope notBefore
    let body : AttestationBody :=
      { id, workspaceId, issuerPrincipalId, subject := input.subject, purpose := input.purpose,
        scope, claim := input.claim, claimDigest := rt.digest (.claim input.claim),
        evidence := input.evidence, notBefore, expiresAt := input.expiresAt,
        supersedesAttestationId := input.supersedesAttestationId, issuedAt := now,
        metadata := input.metadata }
    let result : Attestation :=
      { body with attestationDigest := rt.digest (.attestation body) }
    parseAttestation rt result
    let s ← s.insertAttestation result
    let retries ← saveResult s.retries retry result.id
    pure ({ s with retries := retries }, result)

/-- `revokeAttestation`. `freshId` is the `uuidv7` of the revocation. -/
def revokeAttestation (freshId attestationId : String) (input : RevokeInput)
    (ctx : ServiceContext) : Call (AttestationStore × Revocation) := do
  let workspaceId := ctx.tenantId.getD legacyDefaultWorkspaceId
  let revokerPrincipalId ← requireAuthenticatedPrincipal ctx
  let now ← serviceNow ctx
  let retry ← Retry.prepareIdempotency workspaceId ctx.actor ctx.principalId ctx.idempotencyKey
    (AttestationOperation.revoke workspaceId)
    (rt.digest (.revoke attestationId revokerPrincipalId input)) none now
  let (retries, prior) ← findResult s.retries retry
  let s := { s with retries := retries }
  match prior with
  | some resultId => do
    let replay ← demand
      (s.revocations.find? fun r => r.workspaceId = workspaceId ∧ r.id = resultId)
      (.error s!"idempotency record points at missing attestation revocation {resultId}")
    pure (s, replay)
  | none => do
    let target ← demand (s.getAttestation attestationId workspaceId)
      (.error "attestation not found in workspace")
    refuse (target.issuerPrincipalId ≠ revokerPrincipalId)
      (.error "only the authenticated attestation issuer may revoke it")
    let body : RevocationBody :=
      { id := freshId, workspaceId, attestationId, revokerPrincipalId,
        reasonCode := input.reasonCode, explanation := input.explanation,
        effectiveAt := input.effectiveAt.getD now, recordedAt := now, metadata := input.metadata }
    let result : Revocation :=
      { body with revocationDigest := rt.digest (.revocation body) }
    parseRevocation result
    let s ← s.insertRevocation result
    let retries ← saveResult s.retries retry result.id
    pure ({ s with retries := retries }, result)

/-! ### Reading -/

/-- The attestation has no expiry, or one after `at`. -/
def unexpired (at' : ℕ) (a : Attestation) : Bool := a.expiresAt.all fun e => at' < e

/-- ORDER BY not_before, id -/
def earlier (a b : Attestation) : Bool :=
  a.notBefore < b.notBefore || (a.notBefore = b.notBefore && a.id ≤ b.id)

/-- The candidates of `listCurrentAttestations`: attestations of the subject whose window is open
    at the time. -/
def candidates (workspaceId : String) (subject : Subject) (at' : ℕ) (purpose : Option Purpose) :
    List Attestation :=
  (((s.attestations.filter fun a => a.workspaceId = workspaceId ∧
      a.subject.typeUri = subject.typeUri ∧ a.subject.id = subject.id ∧ a.notBefore ≤ at' ∧
      ∀ p ∈ purpose, a.purpose = p).mergeSort earlier).filter
    fun a => a.subject.digest = subject.digest).filter (unexpired at')

/-- `listCurrentAttestations` -/
def listCurrentAttestations (workspaceId : String) (subject : Subject) (at' : ℕ)
    (purpose : Option Purpose) : Call (List Attestation) := do
  refuse (¬ rt.IsSubject subject) (.invalid "AttestationSubjectV1")
  refuse (Json.maxSafeInteger < at')
    (.error "authority time must be a non-negative unix-ms integer")
  let candidates := s.candidates workspaceId subject at' purpose
  let superseded := candidates.filterMap fun b =>
    b.supersedesAttestationId.filter fun id => id ∈ candidates.map fun a => a.id
  let revoked := (s.revocations.filter fun r =>
    r.workspaceId = workspaceId ∧ r.effectiveAt ≤ at').map fun r => r.attestationId
  pure (candidates.filter fun a => a.id ∉ superseded ∧ a.id ∉ revoked)

/-- The attestation meets the requirement. -/
def meets (requirement : Requirement) (a : Attestation) : Bool :=
  a.issuerPrincipalId ∈ requirement.acceptedIssuerPrincipalIds ∧
    a.claim.typeUri = requirement.claimTypeUri ∧ a.claim.version = requirement.claimVersion ∧
    (∀ d ∈ requirement.claimDigest, a.claimDigest = d) ∧
    ∀ e ∈ requirement.requiredScope, e ∈ a.scope

/-- One requirement of an eligibility: what it adds to the basis and to the unsatisfied ones. -/
def examineRequirement (workspaceId : String) (subject : Subject) (at' : ℕ)
    (found : List String × List ℕ) (entry : Requirement × ℕ) : Call (List String × List ℕ) := do
  let current ← s.listCurrentAttestations rt workspaceId subject at' (some entry.1.purpose)
  match current.find? (meets entry.1) with
  | some a => pure (if a.id ∈ found.1 then found.1 else found.1 ++ [a.id], found.2)
  | none => pure (found.1, found.2 ++ [entry.2])

/-- `evaluateAttestationEligibility` -/
def evaluateAttestationEligibility (workspaceId : String) (subject : Subject)
    (requirements : List Requirement) (at' : ℕ) : Call EligibilityDecision := do
  refuse (¬ rt.IsSubject subject) (.invalid "AttestationSubjectV1")
  requirements.forM (parseRequirement rt)
  let (basis, unsatisfied) ← requirements.zipIdx.foldlM
    (s.examineRequirement rt workspaceId subject at') ([], [])
  refuse (¬ IsPortable workspaceId) (.invalid "AttestationEligibilityDecisionV1")
  pure
    { workspaceId, subject, authorityTime := at'
      eligible := unsatisfied.isEmpty
      basisAttestationIds := basis.mergeSort fun a b => utf16 a ≤ utf16 b
      unsatisfiedRequirementIndexes := unsatisfied }

end AttestationStore

/-! ### Runs -/

/-- What happens to the ledger. -/
inductive AttestationAction where
  /-- Another service adds a space or a principal. -/
  | space (id : String)
  | principal (id : String)
  | issue (freshId : String) (input : IssueInput) (ctx : ServiceContext)
  | revoke (freshId attestationId : String) (input : RevokeInput) (ctx : ServiceContext)

/-- The ledger after an action. A refused call changes nothing. -/
def AttestationStore.step (s : AttestationStore) : AttestationAction → AttestationStore
  | .space id => { s with spaces := s.spaces ++ [id] }
  | .principal id => { s with principals := s.principals ++ [id] }
  | .issue freshId input ctx => ((s.issueAttestation rt freshId input ctx).map Prod.fst).toOption.getD s
  | .revoke freshId attestationId input ctx =>
    ((s.revokeAttestation rt freshId attestationId input ctx).map Prod.fst).toOption.getD s

end Tasq.Attestations
