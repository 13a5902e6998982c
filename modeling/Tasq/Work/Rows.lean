import Mathlib.Tactic
import Tasq.EffectLedger.Store
import Tasq.Tasks
import Tasq.Waiting.Evaluator

/-! The rows that execution, waiting, premises, assumptions and completion keep about the tasks of
    a workspace.

    The id of a row is its key. The type and the evaluator of a wait condition follow from its kind,
    and its kind from its parameters. -/

namespace Tasq

open Text

/-- `STATUS_TRANSITIONS` -/
def TaskStatus.next : TaskStatus → List TaskStatus
  | .open => [.inProgress, .blocked, .done, .cancelled]
  | .inProgress => [.open, .blocked, .done, .cancelled]
  | .blocked => [.open, .inProgress, .done, .cancelled]
  | .done => [.inProgress, .open]
  | .cancelled => [.open]

/-- The task is deleted or terminal. -/
def Task.Closed (row : Task) : Prop := row.deletedAt ≠ none ∨ Ledger.Terminal row.status

instance decidableTaskClosed (row : Task) : Decidable row.Closed := by
  unfold Task.Closed; infer_instance

/-! ### Execution -/

/-- A row of `task_attempt` with all its columns. -/
structure AttemptRow extends BoundAttempt where
  actor : String
  revision : ℕ
  runtime : String
  externalId : Option String
  contextId : Option String
  statusMessage : Option String
  endedAt : Option UnixMs
  metadata : Metadata
  createdAt : UnixMs
  updatedAt : UnixMs
  deriving DecidableEq

/-- The attempt is running or waits for input. -/
def AttemptStatus.Active (status : AttemptStatus) : Prop :=
  status = .running ∨ status = .inputRequired

instance decidableAttemptActive (status : AttemptStatus) : Decidable status.Active := by
  unfold AttemptStatus.Active; infer_instance

/-- A row of `task_evidence`. -/
structure EvidenceRow where
  taskId : UuidV7
  attemptId : Option UuidV7
  supersedesEvidenceId : Option UuidV7
  actor : String
  principalId : Option String
  kind : String
  summary : Option String
  uri : Option String
  digest : Option String
  source : Option String
  observedAt : UnixMs
  metadata : Metadata
  createdAt : UnixMs
  deriving DecidableEq

/-! ### Waiting -/

/-- `WaitCreateTaskFallbackSpec`: a missing scope field is `none`, a null one is `some none`. -/
structure WaitFallbackSpec where
  title : Title
  nextAction : String
  priority : Option Priority
  scheduledAt : Option UnixMs
  dueAt : Option UnixMs
  projectId : Option (Option UuidV7)
  goalId : Option (Option UuidV7)
  areaId : Option (Option UuidV7)
  parentTaskId : Option (Option UuidV7)
  metadata : Metadata
  deriving DecidableEq

/-- `fallbackKind`, with the column that each kind has. -/
inductive WaitFallback where
  | none
  | createTask (spec : WaitFallbackSpec)
  | activateTask (targetTaskId : UuidV7)
  deriving DecidableEq

/-- A row of `wait_condition` with all its columns. -/
structure WaitRow extends WaitCondition where
  schemaVersion : ℕ
  parameters : WaitParameters
  notBefore : UnixMs
  deadlineAt : Option UnixMs
  fallback : WaitFallback
  fallbackResultTaskId : Option UuidV7
  supersedesConditionId : Option UuidV7
  satisfiedByObservationId : Option UuidV7
  satisfiedAt : Option UnixMs
  expiredAt : Option UnixMs
  cancelledAt : Option UnixMs
  cancelReason : Option String
  updatedAt : UnixMs
  deriving DecidableEq

/-! ### Premises -/

/-- `TaskPremise` -/
structure TaskPremise where
  taskId : UuidV7
  taskRevision : ℕ
  observationId : UuidV7
  observationDigest : Digest
  proposition : String
  eligibleValidatorPrincipalIds : List String
  adjudicatorPrincipalIds : List String
  allowSelfValidation : Bool
  createdByPrincipalId : String
  createdAt : UnixMs
  deriving DecidableEq

inductive PremiseVerdict where
  | uphold | refute
  deriving DecidableEq, Repr

inductive PremiseOutcome where
  | accepted | rejected | challenged | indeterminate
  deriving DecidableEq, Repr

/-- `TaskPremiseProposal` -/
structure TaskPremiseProposal where
  taskId : UuidV7
  premiseId : UuidV7
  verdict : PremiseVerdict
  evidenceIds : List UuidV7
  rationale : String
  proposedByPrincipalId : String
  proposedAt : UnixMs
  deriving DecidableEq

/-- `TaskPremiseChallenge` -/
structure TaskPremiseChallenge where
  taskId : UuidV7
  premiseId : UuidV7
  proposalId : UuidV7
  counterEvidenceIds : List UuidV7
  rationale : String
  challengedByPrincipalId : String
  challengedAt : UnixMs
  deriving DecidableEq

/-- `TaskPremiseDecision` -/
structure TaskPremiseDecision where
  taskId : UuidV7
  premiseId : UuidV7
  proposalId : UuidV7
  outcome : PremiseOutcome
  challengeIds : List UuidV7
  evidenceIds : List UuidV7
  rationale : String
  decidedByPrincipalId : String
  decidedAt : UnixMs
  deriving DecidableEq

/-- `TaskPremiseInvalidation` -/
structure TaskPremiseInvalidation where
  taskId : UuidV7
  premiseId : UuidV7
  proposalId : UuidV7
  decisionId : UuidV7
  invalidatedByPrincipalId : String
  invalidatedAt : UnixMs
  reason : String
  deriving DecidableEq

/-- The typed metadata of an external reference of the premise system, by resource type. -/
inductive PremiseValue where
  | premise (value : TaskPremise)
  | proposal (value : TaskPremiseProposal)
  | challenge (value : TaskPremiseChallenge)
  | decision (value : TaskPremiseDecision)
  | invalidation (value : TaskPremiseInvalidation)
  deriving DecidableEq

/-- A row of `external_ref` of the premise system. -/
structure PremiseRef where
  recordId : UuidV7
  value : PremiseValue
  createdByPrincipalId : String
  createdAt : UnixMs
  deriving DecidableEq

/-! ### Assumptions -/

inductive AssumptionStatus where
  | standing | withdrawn
  deriving DecidableEq, Repr

/-- A row of `assumption`. -/
structure Assumption where
  text : String
  normalizedText : String
  status : AssumptionStatus
  statedByPrincipalId : String
  statedAt : UnixMs
  withdrawnByPrincipalId : Option String
  withdrawnAt : Option UnixMs
  withdrawalReason : Option String
  withdrawalEvidenceIds : List UuidV7
  deriving DecidableEq

inductive AssumptionLinkStatus where
  | active | unlinked
  deriving DecidableEq, Repr

/-- A row of `assumption_link`. -/
structure AssumptionLink where
  assumptionId : UuidV7
  taskId : UuidV7
  status : AssumptionLinkStatus
  linkedByPrincipalId : String
  linkedAt : UnixMs
  unlinkedByPrincipalId : Option String
  unlinkedAt : Option UnixMs
  unlinkReason : Option String
  deriving DecidableEq

/-! ### Completion -/

inductive EvidenceAuthenticityClass where
  | unverified | authenticatedPrincipal | authenticatedSource | providerVerified
  deriving DecidableEq, Repr

/-- `AUTHENTICITY_RANK` -/
def EvidenceAuthenticityClass.rank : EvidenceAuthenticityClass → ℕ
  | .unverified => 0
  | .authenticatedPrincipal => 1
  | .authenticatedSource => 2
  | .providerVerified => 3

inductive ResolutionPolicyKind where
  | deterministic | attestation | optimistic | adjudicated
  deriving DecidableEq, Repr

/-- The policy kind as errors name it. -/
def ResolutionPolicyKind.text : ResolutionPolicyKind → String
  | .deterministic => "deterministic"
  | .attestation => "attestation"
  | .optimistic => "optimistic"
  | .adjudicated => "adjudicated"

/-- `ResolutionCriterion` -/
structure ResolutionCriterion where
  id : String
  statement : String
  minimumEvidenceCount : ℕ+
  acceptedEvidenceKinds : List String
  acceptedSources : List String
  minimumAuthenticity : EvidenceAuthenticityClass
  maxAgeMs : Option ℕ
  minimumRetentionMs : ℕ
  evaluatorInput : Metadata
  deriving DecidableEq

/-- What a resolution contract freezes of the policy: the fields that its creator gives. -/
structure ResolutionTerms where
  taskId : UuidV7
  criteria : List ResolutionCriterion
  policyKind : ResolutionPolicyKind
  policyUri : String
  policyVersion : ℕ+
  implementationDigest : Digest
  notBefore : Option UnixMs
  challengeWindowMs : ℕ
  allowSelfValidation : Bool
  eligibleValidatorPrincipalIds : List String
  adjudicatorPrincipalIds : List String
  metadata : Metadata
  deriving DecidableEq

/-- `ResolutionContract` -/
structure ResolutionContract extends ResolutionTerms where
  taskRevision : ℕ
  successCriteriaSnapshot : String
  criteriaDigest : Digest
  contractDigest : Digest
  createdByPrincipalId : String
  createdAt : UnixMs
  deriving DecidableEq

inductive EvidenceTrustAction where
  | attest | revoke
  deriving DecidableEq, Repr

/-- `EvidenceTrustRecord` -/
structure EvidenceTrustRecord where
  taskId : UuidV7
  evidenceId : UuidV7
  action : EvidenceTrustAction
  authenticity : EvidenceAuthenticityClass
  authorityUri : String
  authorityVersion : ℕ+
  authorityDigest : Digest
  supersedesTrustRecordId : Option UuidV7
  reason : String
  verifiedAt : UnixMs
  validUntil : Option UnixMs
  retentionUntil : Option UnixMs
  recordedByPrincipalId : String
  createdAt : UnixMs
  deriving DecidableEq

/-- `CompletionCriterionEvidence` -/
structure CompletionCriterionEvidence where
  criterionId : String
  evidenceIds : List UuidV7
  deriving DecidableEq

/-- `CompletionProposal` -/
structure CompletionProposal where
  taskId : UuidV7
  resolutionContractId : UuidV7
  contractDigest : Digest
  proposerPrincipalId : String
  criterionEvidence : List CompletionCriterionEvidence
  summary : Option String
  proposalDigest : Digest
  proposedAt : UnixMs
  deriving DecidableEq

/-- `CompletionChallenge` -/
structure CompletionChallenge where
  taskId : UuidV7
  proposalId : UuidV7
  challengerPrincipalId : String
  reasonCode : String
  explanation : String
  counterEvidenceIds : List UuidV7
  challengedAt : UnixMs
  deriving DecidableEq

inductive ValidationOutcome where
  | accepted | rejected | tooEarly | indeterminate | challenged
  deriving DecidableEq, Repr

/-- `ValidationDecision` -/
structure ValidationDecision where
  taskId : UuidV7
  resolutionContractId : UuidV7
  proposalId : UuidV7
  outcome : ValidationOutcome
  policyUri : String
  policyVersion : ℕ+
  implementationDigest : Digest
  policyInputDigest : Digest
  evidenceIds : List UuidV7
  trustRecordIds : List UuidV7
  supersedesDecisionId : Option UuidV7
  decidedByPrincipalId : String
  reasonCode : String
  explanation : String
  decidedAt : UnixMs
  deriving DecidableEq

/-- A row of `completion_record`. -/
structure CompletionRecord where
  taskId : UuidV7
  resultingRevision : ℕ
  completionPolicyUri : String
  completionPolicyVersion : ℕ+
  policyInputDigest : Digest
  evidenceIds : List UuidV7
  resolutionContractId : Option UuidV7
  validationDecisionId : Option UuidV7
  decidedByPrincipalId : String
  decidedAt : UnixMs
  deriving DecidableEq

end Tasq
