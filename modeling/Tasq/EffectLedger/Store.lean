import Mathlib.Tactic
import Tasq.Idempotency
import Tasq.Ledger
import Tasq.Schema.Effects

/-! The tables of the effect ledger in one workspace, with the rows of the work ledger that it
    reads. `insertEffect`, `updateEffect`, `insertApproval` and `insertReceipt` carry the
    constraints and triggers of the database.

    The columns of `effect` that repeat a field of the request are read from the request. -/

namespace Tasq

open Text Outcome

/-- A row of `task_claim` with the columns of its lease. -/
structure LeasedClaim extends TaskClaim where
  actor : String
  principalId : Option String
  revision : ℕ
  fence : ℕ
  heartbeatAt : UnixMs
  expiresAt : UnixMs
  releaseReason : Option String
  metadata : Metadata
  updatedAt : UnixMs
  deriving DecidableEq

/-- The claim is live at `now`. -/
def LeasedClaim.LiveAt (c : LeasedClaim) (now : UnixMs) : Prop :=
  c.releasedAt = none ∧ now < c.expiresAt

instance leasedClaimLiveAt (c : LeasedClaim) (now : UnixMs) : Decidable (c.LiveAt now) := by
  unfold LeasedClaim.LiveAt; infer_instance

/-- A row of `task_attempt` with the columns that bind it to a claim. -/
structure BoundAttempt extends TaskAttempt where
  claimId : Option UuidV7
  principalId : Option String
  deriving DecidableEq

/-- The metadata of the evidence that a receipt leaves. -/
structure ReceiptMetadata where
  effectId : UuidV7
  approvalId : UuidV7
  receiptId : UuidV7
  receiptDigest : Digest
  outcome : EffectReceiptOutcome
  deriving DecidableEq

/-- A row of `task_evidence`, as a receipt binds it. -/
structure TaskEvidence where
  taskId : UuidV7
  attemptId : Option UuidV7
  actor : String
  principalId : Option String
  kind : String
  summary : Option String
  uri : Option String
  digest : Option Digest
  source : Option String
  observedAt : UnixMs
  metadata : Option ReceiptMetadata
  createdAt : UnixMs
  deriving DecidableEq

/-- The rows of the workspace that other services write. -/
structure Coordination where
  tasks : Table UuidV7 Task
  claims : Table UuidV7 LeasedClaim
  attempts : Table UuidV7 BoundAttempt
  evidence : Table UuidV7 TaskEvidence
  principals : List Principal
  /-- The effect types of `extension_type`, with their schema versions. -/
  effectTypes : List (String × ℕ+)

inductive IdempotentOperation where
  | effectPropose | effectApprovalRecord | effectAuthorize | effectExecutionBegin | effectCancel
  | claimAcquire | claimRelease
  deriving DecidableEq, Repr

/-- A row of `idempotency_key`. It is durable when it has no expiry. -/
structure IdempotencyRecord where
  callerScope : CallerScope
  operation : IdempotentOperation
  key : String
  /-- The digest is of the version before scoped keys. -/
  legacyDigest : Bool
  requestDigest : Digest
  resultId : UuidV7
  resultRevision : Option ℕ
  expiresAt : Option UnixMs
  deriving DecidableEq

/-- The ids that rows of the other workspaces have. -/
structure OtherIds where
  effects : List UuidV7
  approvals : List UuidV7
  receipts : List UuidV7
  evidence : List UuidV7
  claims : List UuidV7

/-- The rows of one workspace. -/
structure EffectStore extends Coordination where
  workspaceId : String
  effects : Table UuidV7 Effect
  approvals : Table UuidV7 EffectApproval
  receipts : Table UuidV7 EffectReceipt
  retries : List IdempotencyRecord
  others : OtherIds

/-! ### Constraints on one row -/

/-- The lifecycle graph of `effect_revision_and_identity_guard`. -/
def EffectStatus.next : EffectStatus → List EffectStatus
  | .proposed => [.authorized, .cancelled]
  | .authorized => [.proposed, .executing, .cancelled]
  | .executing => [.committed, .failed, .indeterminate]
  | .indeterminate => [.committed, .failed]
  | .committed => []
  | .failed => []
  | .cancelled => []

namespace Effect

/-- The constraint on the columns that each status has. -/
def StatusChecked (e : Effect) : Prop :=
  match e.status with
  | .proposed => e.authorizedByApprovalId = none ∧ e.authorizedAt = none ∧ e.claimId = none ∧
      e.executionStartedAt = none ∧ e.indeterminateAt = none ∧ e.resolvedAt = none ∧
      e.Cancellation false
  | .authorized => e.authorizedByApprovalId.isSome ∧ e.authorizedAt.isSome ∧ e.claimId = none ∧
      e.executionStartedAt = none ∧ e.indeterminateAt = none ∧ e.resolvedAt = none ∧
      e.Cancellation false
  | .executing => e.authorizedByApprovalId.isSome ∧ e.authorizedAt.isSome ∧ e.claimId.isSome ∧
      e.executionStartedAt.isSome ∧ e.indeterminateAt = none ∧ e.resolvedAt = none ∧
      e.Cancellation false
  | .indeterminate => e.authorizedByApprovalId.isSome ∧ e.authorizedAt.isSome ∧ e.claimId.isSome ∧
      e.executionStartedAt.isSome ∧ e.indeterminateAt.isSome ∧ e.resolvedAt = none ∧
      e.Cancellation false
  | .committed => e.authorizedByApprovalId.isSome ∧ e.authorizedAt.isSome ∧ e.claimId.isSome ∧
      e.executionStartedAt.isSome ∧ e.resolvedAt.isSome ∧ e.Cancellation false
  | .failed => e.authorizedByApprovalId.isSome ∧ e.authorizedAt.isSome ∧ e.claimId.isSome ∧
      e.executionStartedAt.isSome ∧ e.resolvedAt.isSome ∧ e.Cancellation false
  | .cancelled => e.authorizedByApprovalId = none ∧ e.authorizedAt = none ∧ e.claimId = none ∧
      e.executionStartedAt = none ∧ e.indeterminateAt = none ∧ e.resolvedAt = none ∧
      e.cancelledAt.isSome ∧ ∃ reason ∈ e.cancelReason, sqlTrim reason ≠ ""

instance decidableStatusChecked (e : Effect) : Decidable e.StatusChecked := by
  unfold StatusChecked
  rcases e.status with _ | _ <;> infer_instance

/-- The `CHECK` constraints of `effect`. A comparison with a null admits the row. -/
@[mk_iff] structure Checked (id : UuidV7) (e : Effect) : Prop where
  claim_fence : (e.claimId = none ∧ e.fence = none) ∨ e.claimId.isSome ∧ ∃ n ∈ e.fence, 0 < n
  not_self : e.supersedesEffectId ≠ some id ∧ e.compensationOfEffectId ≠ some id
  one_reference : e.supersedesEffectId = none ∨ e.compensationOfEffectId = none
  updated : e.createdAt ≤ e.updatedAt
  authorized : ∀ t ∈ e.authorizedAt, e.createdAt ≤ t
  started : ∀ t ∈ e.executionStartedAt, ∀ a ∈ e.authorizedAt, a ≤ t
  uncertain : ∀ t ∈ e.indeterminateAt, ∀ x ∈ e.executionStartedAt, x ≤ t
  resolved : ∀ t ∈ e.resolvedAt, ∀ x ∈ e.executionStartedAt, x ≤ t
  cancelled : ∀ t ∈ e.cancelledAt, e.createdAt ≤ t
  revision_pos : 0 < e.revision
  status : e.StatusChecked

instance decidableChecked (id : UuidV7) (e : Effect) : Decidable (e.Checked id) :=
  decidable_of_iff' _ (e.checked_iff id)

/-- The columns that no update may change. -/
def SameIdentity (old new : Effect) : Prop :=
  new.taskId = old.taskId ∧ new.attemptId = old.attemptId ∧ new.request = old.request ∧
    new.requestDigest = old.requestDigest ∧
    new.dispatchIdempotencyKey = old.dispatchIdempotencyKey ∧
    new.supersedesEffectId = old.supersedesEffectId ∧
    new.compensationOfEffectId = old.compensationOfEffectId ∧
    new.createdByPrincipalId = old.createdByPrincipalId ∧ new.createdAt = old.createdAt

instance decidableSameIdentity (old new : Effect) : Decidable (SameIdentity old new) := by
  unfold SameIdentity; infer_instance

end Effect

namespace EffectStore

variable (s : EffectStore)

/-- The work ledger, as attribution reads it. -/
def ledger : Ledger where
  workspaceId := s.workspaceId
  tasks := s.tasks
  claims := s.claims.map fun _ c => c.toTaskClaim
  attempts := s.attempts.map fun _ a => a.toTaskAttempt
  waits := ∅
  principals := s.principals
  references := []
  otherTaskIds := []

/-- Some row of the workspace has the principal. -/
def HasPrincipal (id : String) : Prop := ∃ p ∈ s.principals, p.id = id

/-- Some enabled row of the workspace has the principal. -/
def HasEnabledPrincipal (id : String) : Prop := ∃ p ∈ s.principals, p.id = id ∧ p.enabled = true

instance decidableHasPrincipal (id : String) : Decidable (s.HasPrincipal id) := by
  unfold HasPrincipal; infer_instance

instance decidableHasEnabledPrincipal (id : String) : Decidable (s.HasEnabledPrincipal id) := by
  unfold HasEnabledPrincipal; infer_instance

/-! ### `effect` -/

/-- `INSERT INTO effect` -/
def insertEffect (id : UuidV7) (e : Effect) : Call EffectStore := do
  refuse (e.status ≠ .proposed ∨ e.revision ≠ 1)
    (.constraint "new effects must start proposed at revision one")
  refuse (¬ ∃ t ∈ s.tasks[e.taskId]?, t.deletedAt = none)
    (.constraint "effect task workspace mismatch")
  refuse (∃ a ∈ e.attemptId, ¬ ∃ row ∈ s.attempts[a]?, row.taskId = e.taskId)
    (.constraint "effect attempt ownership mismatch")
  refuse (¬ s.HasPrincipal e.createdByPrincipalId)
    (.constraint "effect principal workspace mismatch")
  refuse (∃ p ∈ e.supersedesEffectId, ¬ ∃ row ∈ s.effects[p]?,
      row.taskId = e.taskId ∧ row.status = .cancelled)
    (.constraint "effect supersession workspace mismatch")
  refuse (∃ p ∈ e.compensationOfEffectId, ¬ ∃ row ∈ s.effects[p]?, row.status = .committed)
    (.constraint "effect compensation workspace mismatch")
  refuse (e.outcomeReceiptId.isSome) (.constraint "new effects cannot have outcome receipts")
  refuse (¬ e.Checked id) (.constraint "CHECK effect")
  refuse (id ∈ s.effects ∨ id ∈ s.others.effects) (.constraint "UNIQUE effect.id")
  refuse (Table.has s.effects fun _ row => row.dispatchIdempotencyKey = e.dispatchIdempotencyKey)
    (.constraint "UNIQUE effect.dispatch_idempotency_key")
  refuse (e.supersedesEffectId.isSome ∧
      Table.has s.effects fun _ row => row.supersedesEffectId = e.supersedesEffectId)
    (.constraint "UNIQUE effect.supersedes_effect_id")
  pure { s with effects := s.effects.insert id e }

/-- No decision supersedes the approval. -/
def Unsuperseded (id : UuidV7) : Prop :=
  Table.has s.approvals (fun _ child => child.supersedesApprovalId = some id) = false

instance decidableUnsuperseded (id : UuidV7) : Decidable (s.Unsuperseded id) := by
  unfold Unsuperseded; infer_instance

/-- The exact current approval that entering an authority-bearing state requires. -/
def HasAuthority (id : UuidV7) (e : Effect) (time : Option UnixMs) : Prop :=
  ∃ approvalId ∈ e.authorizedByApprovalId, ∃ a ∈ s.approvals[approvalId]?,
    a.effectId = id ∧ a.requestDigest = e.requestDigest ∧ a.decision = .approved ∧
      (∀ v ∈ a.validFrom, ∃ t ∈ time, v ≤ t) ∧ (∀ x ∈ a.expiresAt, ∃ t ∈ time, t < x) ∧
      s.Unsuperseded approvalId

/-- The live claim that entering `executing` requires. -/
def HasLiveClaim (e : Effect) : Prop :=
  ∃ claimId ∈ e.claimId, ∃ c ∈ s.claims[claimId]?, c.taskId = e.taskId ∧ e.fence = some c.fence ∧
    c.releasedAt = none ∧ ∃ t ∈ e.executionStartedAt, t < c.expiresAt

/-- The running attempt, bound to the claim, that entering `executing` requires. -/
def HasRunningAttempt (e : Effect) : Prop :=
  ∃ attemptId ∈ e.attemptId, ∃ a ∈ s.attempts[attemptId]?, a.taskId = e.taskId ∧
    a.status = .running ∧ e.claimId.isSome ∧ a.claimId = e.claimId ∧ a.principalId.isSome ∧
    ∃ claimId ∈ e.claimId, ∃ c ∈ s.claims[claimId]?, c.taskId = e.taskId ∧
      c.principalId = a.principalId ∧ e.fence = some c.fence ∧ c.releasedAt = none ∧
      ∃ t ∈ e.executionStartedAt, t < c.expiresAt

/-- The exact receipt that an outcome requires. -/
def HasOutcomeReceipt (id : UuidV7) (old new : Effect) : Prop :=
  ∃ receiptId ∈ new.outcomeReceiptId, ∃ r ∈ s.receipts[receiptId]?, r.effectId = id ∧
    r.taskId = new.taskId ∧ new.attemptId = some r.attemptId ∧
    new.authorizedByApprovalId = some r.approvalId ∧ r.report.outcome.status = new.status ∧
    ((old.status = .executing ∧ r.report.resolvesReceiptId = none) ∨
      (old.status = .indeterminate ∧ r.report.resolvesReceiptId.isSome ∧
        r.report.resolvesReceiptId = old.outcomeReceiptId))

instance decidableHasAuthority (id : UuidV7) (e : Effect) (time : Option UnixMs) :
    Decidable (s.HasAuthority id e time) := by unfold HasAuthority; infer_instance

instance decidableHasLiveClaim (e : Effect) : Decidable (s.HasLiveClaim e) := by
  unfold HasLiveClaim; infer_instance

instance decidableHasRunningAttempt (e : Effect) : Decidable (s.HasRunningAttempt e) := by
  unfold HasRunningAttempt; infer_instance

instance decidableHasOutcomeReceipt (id : UuidV7) (old new : Effect) :
    Decidable (s.HasOutcomeReceipt id old new) := by unfold HasOutcomeReceipt; infer_instance

/-- `UPDATE effect` on one row: the triggers and the constraints. -/
def updateEffect (id : UuidV7) (old new : Effect) : Call EffectStore := do
  refuse (new.revision ≠ old.revision + 1)
    (.constraint "effect revision must increment by one")
  refuse (¬ Effect.SameIdentity old new)
    (.constraint "effect identity and request are immutable")
  refuse (new.status ∉ old.status.next) (.constraint "invalid effect state transition")
  refuse (new.status = .authorized ∧ ¬ s.HasAuthority id new new.authorizedAt)
    (.constraint "effect authorization requires a current valid exact approval")
  refuse (new.status = .executing ∧ ¬ s.HasAuthority id new new.executionStartedAt)
    (.constraint "effect execution requires a current valid exact approval")
  refuse (new.status = .executing ∧ ¬ s.HasLiveClaim new)
    (.constraint "effect execution requires the current live claim fence")
  refuse (new.status = .executing ∧ ¬ ∃ t ∈ s.tasks[new.taskId]?,
      t.deletedAt = none ∧ t.status ≠ .done ∧ t.status ≠ .cancelled)
    (.constraint "effect execution requires a live nonterminal commitment")
  refuse (new.status = .executing ∧ ¬ s.HasRunningAttempt new)
    (.constraint "effect execution requires a running attempt bound to its claim")
  refuse (new.status ∈ [.proposed, .authorized, .executing, .cancelled] ∧
      new.outcomeReceiptId.isSome)
    (.constraint "non-outcome effect state cannot reference a receipt")
  refuse (new.status ∈ [.indeterminate, .committed, .failed] ∧ ¬ s.HasOutcomeReceipt id old new)
    (.constraint "effect outcome requires its exact receipt")
  refuse (¬ new.Checked id) (.constraint "CHECK effect")
  pure { s with effects := s.effects.insert id new }

/-- `UPDATE effect SET ..., revision = revision + 1 WHERE id = ? AND revision = ?` -/
def setEffect (id : UuidV7) (expectedRevision : ℕ) (f : Effect → Effect) :
    Call (EffectStore × Effect) := do
  let old ← demand (s.effects[id]?.filter (·.revision = expectedRevision))
    (.error s!"Stale effect revision: expected {expectedRevision}")
  let new := { f old with revision := old.revision + 1 }
  let s ← s.updateEffect id old new
  pure (s, new)

/-! ### `effect_approval`, `task_evidence`, `effect_receipt` -/

/-- `INSERT INTO effect_approval` -/
def insertApproval (id : UuidV7) (a : EffectApproval) : Call EffectStore := do
  refuse (¬ ∃ e ∈ s.effects[a.effectId]?, e.requestDigest = a.requestDigest)
    (.constraint "approval effect workspace or digest mismatch")
  refuse (¬ s.HasEnabledPrincipal a.approverPrincipalId)
    (.constraint "approval principal workspace mismatch")
  refuse (¬ ∃ e ∈ s.effects[a.effectId]?, e.createdAt ≤ a.decidedAt)
    (.constraint "approval decision predates effect")
  refuse (∃ p ∈ a.supersedesApprovalId, ¬ ∃ prior ∈ s.approvals[p]?, prior.effectId = a.effectId ∧
      prior.requestDigest = a.requestDigest ∧ prior.decidedAt ≤ a.decidedAt ∧ s.Unsuperseded p)
    (.constraint "approval supersession mismatch")
  refuse (a.decision = .revoked ∧
      ¬ ∃ p ∈ a.supersedesApprovalId, ∃ prior ∈ s.approvals[p]?, prior.decision = .approved)
    (.constraint "revocation must supersede an approval")
  refuse (¬ a.Refined) (.constraint "CHECK effect_approval")
  refuse (sqlTrim a.verificationMethod = "") (.constraint "CHECK verification_method")
  refuse (id ∈ s.approvals ∨ id ∈ s.others.approvals) (.constraint "UNIQUE effect_approval.id")
  refuse (a.supersedesApprovalId = none ∧ Table.has s.approvals fun _ row =>
      row.effectId = a.effectId && row.supersedesApprovalId.isNone)
    (.constraint "UNIQUE effect_approval root")
  refuse (a.supersedesApprovalId.isSome ∧
      Table.has s.approvals fun _ row => row.supersedesApprovalId = a.supersedesApprovalId)
    (.constraint "UNIQUE effect_approval.supersedes_approval_id")
  pure { s with approvals := s.approvals.insert id a }

/-- `INSERT INTO task_evidence` -/
def insertEvidence (id : UuidV7) (ev : TaskEvidence) : Call EffectStore := do
  refuse (∃ p ∈ ev.principalId, ¬ s.HasPrincipal p)
    (.constraint "evidence principal workspace mismatch")
  refuse (id ∈ s.evidence ∨ id ∈ s.others.evidence) (.constraint "UNIQUE task_evidence.id")
  pure { s with evidence := s.evidence.insert id ev }

/-- The effect that a receipt is bound to. -/
def BindsEffect (r : EffectReceipt) (e : Effect) : Prop :=
  e.taskId = r.taskId ∧ e.attemptId = some r.attemptId ∧
    e.authorizedByApprovalId = some r.approvalId ∧
    (e.status = .executing ∨ e.status = .indeterminate) ∧
    e.requestDigest = r.report.requestDigest ∧
    e.dispatchIdempotencyKey = r.report.dispatchIdempotencyKey ∧
    e.claimId = some r.report.claimId ∧ e.fence = some r.report.fence ∧
    e.request.connector.instanceRef = r.report.connectorInstanceRef ∧
    e.request.connector.bindingDigest = r.report.connectorBindingDigest

/-- The evidence that a receipt is bound to. -/
def BindsEvidence (id : UuidV7) (r : EffectReceipt) (ev : TaskEvidence) : Prop :=
  ev.taskId = r.taskId ∧ ev.attemptId = some r.attemptId ∧ ev.kind = "effect_receipt" ∧
    ev.uri = some r.report.rawRef ∧ ev.digest = some r.report.rawDigest ∧
    ev.source = some r.report.connectorInstanceRef ∧ ev.observedAt = r.report.occurredAt ∧
    ev.metadata = some ⟨r.effectId, r.approvalId, id, r.receiptDigest, r.report.outcome⟩

/-- What the outcome of a receipt may follow. -/
def ResolutionAllowed (r : EffectReceipt) : Prop :=
  match r.report.resolvesReceiptId with
  | none => ∃ e ∈ s.effects[r.effectId]?, e.status = .executing
  | some priorId => r.Terminal → ∃ e ∈ s.effects[r.effectId]?, ∃ prior ∈ s.receipts[priorId]?,
      e.status = .indeterminate ∧ e.outcomeReceiptId = some priorId ∧
        prior.effectId = r.effectId ∧ prior.report.outcome = .indeterminate

instance decidableBindsEffect (r : EffectReceipt) (e : Effect) : Decidable (BindsEffect r e) := by
  unfold BindsEffect; infer_instance

instance decidableBindsEvidence (id : UuidV7) (r : EffectReceipt) (ev : TaskEvidence) :
    Decidable (BindsEvidence id r ev) := by unfold BindsEvidence; infer_instance

instance decidableResolutionAllowed (r : EffectReceipt) : Decidable (s.ResolutionAllowed r) := by
  unfold ResolutionAllowed
  cases r.report.resolvesReceiptId <;> infer_instance

/-- The receipts of one delivery. -/
def deliveries (connectorInstanceRef externalReceiptId : String) : List (UuidV7 × EffectReceipt) :=
  Table.rows s.receipts fun _ row => row.report.connectorInstanceRef = connectorInstanceRef &&
    row.report.externalReceiptId = externalReceiptId

/-- `INSERT INTO effect_receipt` -/
def insertReceipt (id : UuidV7) (r : EffectReceipt) : Call EffectStore := do
  refuse (¬ s.HasEnabledPrincipal r.recordedByPrincipalId)
    (.constraint "receipt principal workspace mismatch")
  refuse (¬ ∃ e ∈ s.effects[r.effectId]?, BindsEffect r e)
    (.constraint "receipt effect binding mismatch")
  refuse (s.workspaceId ≠ r.report.workspaceId ∨ r.effectId ≠ r.report.effectId ∨
      r.approvalId ≠ r.report.approvalId)
    (.constraint "receipt report identity mismatch")
  refuse (¬ ∃ ev ∈ s.evidence[r.evidenceId]?, BindsEvidence id r ev)
    (.constraint "receipt evidence binding mismatch")
  refuse (r.Terminal ∧ (r.verificationLevel = .selfAsserted ∨ r.coverage.length ≠ 4 ∨
      ¬ effectReceiptCoverage ⊆ r.coverage))
    (.constraint "terminal receipt requires strong exact coverage")
  refuse (¬ s.ResolutionAllowed r) (.constraint "receipt resolution mismatch")
  refuse (sqlTrim r.verificationMethod = "") (.constraint "CHECK verification_method")
  refuse (id ∈ s.receipts ∨ id ∈ s.others.receipts) (.constraint "UNIQUE effect_receipt.id")
  refuse (s.deliveries r.report.connectorInstanceRef r.report.externalReceiptId ≠ [])
    (.constraint "UNIQUE effect_receipt delivery")
  refuse (Table.has s.receipts fun _ row => row.evidenceId = r.evidenceId)
    (.constraint "UNIQUE effect_receipt.evidence_id")
  pure { s with receipts := s.receipts.insert id r }

end EffectStore

end Tasq
