import Mathlib.Tactic
import Tasq.Schema.Replication

/-! The effect contract: the request of an effect, the effect with its lifecycle fields, the
    decisions about it, the permit for its dispatch and the reports that resolve it.

    What a schema checks on one value alone, the value carries; what it checks on a stored row is a
    predicate (`Refined`). A text that the schemas bound is a plain string, a stored document is
    the value read back from its canonical text, and the id of a row is its key. -/

namespace Tasq

open Text

/-- `EffectJsonObject` -/
abbrev EffectJsonObject := Metadata

/-- `EffectSecretBinding` -/
structure EffectSecretBinding where
  name : String
  ref : String
  version : String
  contentDigest : Option Digest
  deriving DecidableEq

/-- `EffectConnectorBinding` -/
structure EffectConnectorBinding where
  operationUri : String
  operationVersion : ℕ+
  contractDigest : Digest
  instanceRef : String
  bindingDigest : Digest
  deriving DecidableEq

/-- `EffectRequestEnvelope` -/
structure EffectRequestEnvelope where
  workspaceId : String
  effectTypeUri : String
  effectSchemaVersion : ℕ+
  connector : EffectConnectorBinding
  parameters : EffectJsonObject
  secretBindings : List EffectSecretBinding
  deriving DecidableEq

instance canonicalJsonEffectRequest : CanonicalJson EffectRequestEnvelope where
  canonical r := { r with parameters := canonical r.parameters }
  safe r := safe r.parameters && safe r.effectSchemaVersion && safe r.connector.operationVersion
  canonical_canonical r := by simp
  safe_canonical r := by simp

/-! ### Effects -/

inductive EffectStatus where
  | proposed | authorized | executing | committed | failed | indeterminate | cancelled
  deriving DecidableEq, Repr

/-- The status as errors name it. -/
def EffectStatus.text : EffectStatus → String
  | .proposed => "proposed"
  | .authorized => "authorized"
  | .executing => "executing"
  | .committed => "committed"
  | .failed => "failed"
  | .indeterminate => "indeterminate"
  | .cancelled => "cancelled"

/-- `Effect`, a row of `effect` with its request read. -/
structure Effect where
  taskId : UuidV7
  attemptId : Option UuidV7
  request : EffectRequestEnvelope
  requestDigest : Digest
  dispatchIdempotencyKey : String
  status : EffectStatus
  authorizedByApprovalId : Option UuidV7
  outcomeReceiptId : Option UuidV7
  claimId : Option UuidV7
  fence : Option ℕ
  supersedesEffectId : Option UuidV7
  compensationOfEffectId : Option UuidV7
  createdByPrincipalId : String
  revision : ℕ
  authorizedAt : Option UnixMs
  executionStartedAt : Option UnixMs
  indeterminateAt : Option UnixMs
  resolvedAt : Option UnixMs
  cancelledAt : Option UnixMs
  cancelReason : Option String
  createdAt : UnixMs
  updatedAt : UnixMs
  deriving DecidableEq

namespace Effect

variable (e : Effect)

/-- `authorityFields`, all present or all absent. -/
def Authority (present : Bool) : Prop :=
  e.authorizedByApprovalId.isSome = present ∧ e.authorizedAt.isSome = present

/-- `executionFields`, all present or all absent. -/
def Execution (present : Bool) : Prop :=
  e.claimId.isSome = present ∧ e.fence.isSome = present ∧ e.executionStartedAt.isSome = present

/-- `cancellationFields`, all present or all absent. -/
def Cancellation (present : Bool) : Prop :=
  e.cancelledAt.isSome = present ∧ e.cancelReason.isSome = present

/-- What the schema requires present and absent in each status. -/
def Shaped : Prop :=
  match e.status with
  | .proposed => e.Authority false ∧ e.Execution false ∧ e.outcomeReceiptId = none ∧
      e.indeterminateAt = none ∧ e.resolvedAt = none ∧ e.Cancellation false
  | .authorized => e.Authority true ∧ e.Execution false ∧ e.outcomeReceiptId = none ∧
      e.indeterminateAt = none ∧ e.resolvedAt = none ∧ e.Cancellation false
  | .executing => e.Authority true ∧ e.Execution true ∧ e.outcomeReceiptId = none ∧
      e.indeterminateAt = none ∧ e.resolvedAt = none ∧ e.Cancellation false
  | .indeterminate => e.Authority true ∧ e.Execution true ∧ e.outcomeReceiptId.isSome ∧
      e.indeterminateAt.isSome ∧ e.resolvedAt = none ∧ e.Cancellation false
  | .committed => e.Authority true ∧ e.Execution true ∧ e.outcomeReceiptId.isSome ∧
      e.resolvedAt.isSome ∧ e.Cancellation false
  | .failed => e.Authority true ∧ e.Execution true ∧ e.outcomeReceiptId.isSome ∧
      e.resolvedAt.isSome ∧ e.Cancellation false
  | .cancelled => e.Authority false ∧ e.Execution false ∧ e.outcomeReceiptId = none ∧
      e.indeterminateAt = none ∧ e.resolvedAt = none ∧ e.Cancellation true ∧
      ∃ reason ∈ e.cancelReason, ¬ Blank reason

/-- The order of times that the schema requires. -/
@[mk_iff] structure Timed : Prop where
  updated : e.createdAt ≤ e.updatedAt
  authorized : ∀ t ∈ e.authorizedAt, e.createdAt ≤ t
  started : ∀ t ∈ e.executionStartedAt, ∃ a ∈ e.authorizedAt, a ≤ t
  uncertain : ∀ t ∈ e.indeterminateAt, ∃ x ∈ e.executionStartedAt, x ≤ t
  resolved : ∀ t ∈ e.resolvedAt, ∃ x ∈ e.executionStartedAt, x ≤ t
  cancelled : ∀ t ∈ e.cancelledAt, e.createdAt ≤ t

/-- `superRefine` of `Effect`, with the positive numbers of the schema. -/
@[mk_iff] structure Refined : Prop where
  timed : e.Timed
  shaped : e.Shaped
  fence_pos : ∀ n ∈ e.fence, 0 < n
  revision_pos : 0 < e.revision

instance decidableAuthority (present : Bool) :
    Decidable (e.Authority present) := by unfold Authority; infer_instance

instance decidableExecution (present : Bool) :
    Decidable (e.Execution present) := by unfold Execution; infer_instance

instance decidableCancellation (present : Bool) :
    Decidable (e.Cancellation present) := by
  unfold Cancellation; infer_instance

instance decidableShaped : Decidable e.Shaped := by
  unfold Shaped
  cases e.status <;> infer_instance

instance decidableTimed : Decidable e.Timed := decidable_of_iff' _ e.timed_iff

instance decidableRefined : Decidable e.Refined := decidable_of_iff' _ e.refined_iff

end Effect

/-- `EffectProposal` -/
structure EffectProposal where
  id : Option UuidV7
  taskId : UuidV7
  attemptId : Option UuidV7
  request : EffectRequestEnvelope
  supersedesEffectId : Option UuidV7
  compensationOfEffectId : Option UuidV7
  one_reference : supersedesEffectId = none ∨ compensationOfEffectId = none

/-! ### Decisions -/

inductive ApprovalDecision where
  | approved | denied | revoked
  deriving DecidableEq, Repr

inductive ApprovalVerificationLevel where
  | selfAsserted | authenticatedContext | cryptographic
  deriving DecidableEq, Repr

/-- `EffectApproval`, a row of `effect_approval` with its documents read. -/
structure EffectApproval where
  effectId : UuidV7
  requestDigest : Digest
  approverPrincipalId : String
  decision : ApprovalDecision
  scope : EffectJsonObject
  limits : EffectJsonObject
  validFrom : Option UnixMs
  expiresAt : Option UnixMs
  verificationLevel : ApprovalVerificationLevel
  verificationMethod : String
  verification : EffectJsonObject
  supersedesApprovalId : Option UuidV7
  decidedAt : UnixMs
  deriving DecidableEq

/-- `superRefine` of `EffectApproval`. -/
@[mk_iff] structure EffectApproval.Refined (a : EffectApproval) : Prop where
  revocation : a.decision = .revoked → a.supersedesApprovalId.isSome
  expires : ∀ t ∈ a.expiresAt, a.decidedAt < t
  window : ∀ t ∈ a.expiresAt, ∀ v ∈ a.validFrom, v < t

instance effectApprovalRefined (a : EffectApproval) : Decidable a.Refined :=
  decidable_of_iff' _ a.refined_iff

/-- The approval is in force at `now`. -/
def EffectApproval.ValidAt (a : EffectApproval) (now : UnixMs) : Prop :=
  (∀ v ∈ a.validFrom, v ≤ now) ∧ ∀ t ∈ a.expiresAt, now < t

instance effectApprovalValidAt (a : EffectApproval) (now : UnixMs) :
    Decidable (a.ValidAt now) := by
  unfold EffectApproval.ValidAt; infer_instance

/-- `EffectApprovalDecision` -/
structure EffectApprovalDecision where
  id : Option UuidV7
  effectId : UuidV7
  decision : ApprovalDecision
  scope : EffectJsonObject
  limits : EffectJsonObject
  validFrom : Option UnixMs
  expiresAt : Option UnixMs
  supersedesApprovalId : Option UuidV7
  revocation : decision = .revoked → supersedesApprovalId.isSome
  window : ∀ t ∈ expiresAt, ∀ v ∈ validFrom, v < t
  deriving DecidableEq

/-! ### Permits -/

/-- The approval that a permit carries. -/
structure PermitApproval where
  id : UuidV7
  requestDigest : Digest
  approverPrincipalId : String
  scope : EffectJsonObject
  limits : EffectJsonObject
  validFrom : Option UnixMs
  expiresAt : Option UnixMs
  verificationLevel : ApprovalVerificationLevel
  verificationMethod : String
  verification : EffectJsonObject
  decidedAt : UnixMs
  deriving DecidableEq

/-- The claim that a permit carries. -/
structure PermitClaim where
  id : UuidV7
  fence : ℕ
  principalId : String
  expiresAt : UnixMs
  deriving DecidableEq

/-- `EffectDispatchPermitPayload` -/
structure EffectDispatchPermitPayload where
  issuedAt : UnixMs
  workspaceId : String
  effectId : UuidV7
  effectRevision : ℕ
  taskId : UuidV7
  attemptId : UuidV7
  request : EffectRequestEnvelope
  canonicalRequest : EffectRequestEnvelope
  requestDigest : Digest
  dispatchIdempotencyKey : String
  approval : PermitApproval
  claim : PermitClaim
  executionStartedAt : UnixMs
  deriving DecidableEq

/-- `superRefine` of `EffectDispatchPermitPayload`. -/
@[mk_iff] structure EffectDispatchPermitPayload.Refined (p : EffectDispatchPermitPayload) : Prop where
  workspace : p.workspaceId = p.request.workspaceId
  digest : p.approval.requestDigest = p.requestDigest
  started : p.executionStartedAt = p.issuedAt
  claim_live : p.issuedAt < p.claim.expiresAt
  approval_valid : (∀ v ∈ p.approval.validFrom, v ≤ p.issuedAt) ∧
    ∀ t ∈ p.approval.expiresAt, p.issuedAt < t

instance effectDispatchPermitPayloadRefined (p : EffectDispatchPermitPayload) :
    Decidable p.Refined :=
  decidable_of_iff' _ p.refined_iff

/-- `EffectDispatchPermit` -/
structure EffectDispatchPermit where
  payload : EffectDispatchPermitPayload
  algorithm : String
  keyId : String
  signature : String
  deriving DecidableEq

/-! ### Receipts -/

inductive EffectReceiptOutcome where
  | committed | failed | indeterminate
  deriving DecidableEq, Repr

/-- The status that an outcome resolves an effect to. -/
def EffectReceiptOutcome.status : EffectReceiptOutcome → EffectStatus
  | .committed => .committed
  | .failed => .failed
  | .indeterminate => .indeterminate

inductive EffectReceiptCoverage where
  | providerAccount | providerOperation | requestIdentity | outcome
  deriving DecidableEq, Repr

/-- `EFFECT_RECEIPT_COVERAGE` -/
def effectReceiptCoverage : List EffectReceiptCoverage :=
  [.providerAccount, .providerOperation, .requestIdentity, .outcome]

/-- `EffectReceiptReport` -/
structure EffectReceiptReport where
  workspaceId : String
  effectId : UuidV7
  requestDigest : Digest
  dispatchIdempotencyKey : String
  approvalId : UuidV7
  claimId : UuidV7
  fence : ℕ
  connectorInstanceRef : String
  connectorBindingDigest : Digest
  externalReceiptId : String
  providerOperationId : Option String
  outcome : EffectReceiptOutcome
  occurredAt : UnixMs
  rawRef : String
  rawDigest : Digest
  payload : EffectJsonObject
  resolvesReceiptId : Option UuidV7
  operation_known : outcome = .indeterminate ↔ providerOperationId = none
  resolves : outcome = .indeterminate → resolvesReceiptId = none
  deriving DecidableEq

/-- `EffectReceipt`, a row of `effect_receipt` with its documents read. -/
structure EffectReceipt where
  effectId : UuidV7
  taskId : UuidV7
  attemptId : UuidV7
  approvalId : UuidV7
  evidenceId : UuidV7
  report : EffectReceiptReport
  receiptDigest : Digest
  verificationLevel : ApprovalVerificationLevel
  verificationMethod : String
  coverage : List EffectReceiptCoverage
  verification : EffectJsonObject
  recordedByPrincipalId : String
  recordedAt : UnixMs
  deriving DecidableEq

/-- The outcome of the receipt is final. -/
def EffectReceipt.Terminal (r : EffectReceipt) : Prop := r.report.outcome ≠ .indeterminate

instance effectReceiptTerminal (r : EffectReceipt) : Decidable r.Terminal := inferInstanceAs (Decidable (¬ _))

/-- `superRefine` of `EffectReceipt`. -/
@[mk_iff] structure EffectReceipt.Refined (r : EffectReceipt) (workspaceId : String) : Prop where
  workspace : workspaceId = r.report.workspaceId
  effect : r.effectId = r.report.effectId
  approval : r.approvalId = r.report.approvalId
  coverage_nodup : r.coverage.Nodup
  strong : r.Terminal → r.verificationLevel ≠ .selfAsserted ∧ effectReceiptCoverage ⊆ r.coverage

instance effectReceiptRefined (r : EffectReceipt) (workspaceId : String) :
    Decidable (r.Refined workspaceId) :=
  decidable_of_iff' _ (r.refined_iff workspaceId)

end Tasq
