import Mathlib.Tactic
import Tasq.EffectLedger.Claims
import Tasq.Tasks
import Tasq.Work.Rows

/-! The work of one workspace: the tasks with what is open on them, and the records of evidence,
    premises, assumptions and completion. The inserts and updates carry the constraints and
    triggers of the database.

    `ledger` and `view` are the same rows as the task verbs and the claim verbs read them; `absorb`
    and `adopt` take what those verbs leave. Claims, attempts and waits are never deleted. -/

namespace Tasq

open Text Outcome

/-- The rows of the tasks and of what is open on them. -/
structure WorkRows where
  tasks : Table UuidV7 Task
  claims : Table UuidV7 LeasedClaim
  attempts : Table UuidV7 AttemptRow
  waits : Table UuidV7 WaitRow

/-- The append-only records of completion. -/
structure ResolutionRows where
  contracts : Table UuidV7 ResolutionContract
  trust : Table UuidV7 EvidenceTrustRecord
  proposals : Table UuidV7 CompletionProposal
  challenges : Table UuidV7 CompletionChallenge
  decisions : Table UuidV7 ValidationDecision
  completions : Table UuidV7 CompletionRecord

/-- A row of `external_ref` that keeps a cost observation. -/
structure CostReceipt where
  attemptId : UuidV7
  meterUri : String
  observationId : String
  digest : Digest
  createdByPrincipalId : String
  createdAt : UnixMs
  deriving DecidableEq

/-- The tables whose rows have ids of their own. -/
inductive WorkTable where
  | task | claim | attempt | wait | evidence | externalRef | assumption | assumptionLink
  | contract | trust | proposal | challenge | decision | completion
  deriving DecidableEq, Repr

/-- The operations that have a retry identity, besides those on claims. -/
inductive WorkOperation where
  | taskCreate | taskUpdate | taskTransition (status : TaskStatus)
  | attemptStart | attemptTransition (status : AttemptStatus) | evidenceAdd | attemptCostRecord
  | waitCreate | waitFallback
  | premiseCreate | premisePropose | premiseChallenge | premiseDecide
  | contractCreate | trustAttest | trustRevoke | proposalCreate | challengeCreate
  | decisionEvaluate | decisionAttest | decisionSettle | decisionAdjudicate
  deriving DecidableEq, Repr

/-- The text of a status. -/
def TaskStatus.text : TaskStatus → String
  | .open => "open"
  | .inProgress => "in_progress"
  | .blocked => "blocked"
  | .done => "done"
  | .cancelled => "cancelled"

/-- The text of a status. -/
def AttemptStatus.text : AttemptStatus → String
  | .running => "running"
  | .inputRequired => "input_required"
  | .succeeded => "succeeded"
  | .failed => "failed"
  | .cancelled => "cancelled"

instance : ToString WorkOperation where
  toString
    | .taskCreate => "task.create"
    | .taskUpdate => "task.update"
    | .taskTransition status => "task.transition." ++ status.text
    | .attemptStart => "attempt.start"
    | .attemptTransition status => "attempt.transition." ++ status.text
    | .evidenceAdd => "evidence.add"
    | .attemptCostRecord => "attempt-cost.record"
    | .waitCreate => "wait.create"
    | .waitFallback => "wait.deadline-fallback"
    | .premiseCreate => "premise.task.create"
    | .premisePropose => "premise.propose"
    | .premiseChallenge => "premise.challenge"
    | .premiseDecide => "premise.decide"
    | .contractCreate => "resolution.contract.create"
    | .trustAttest => "resolution.evidence-trust.attest"
    | .trustRevoke => "resolution.evidence-trust.revoke"
    | .proposalCreate => "resolution.proposal.create"
    | .challengeCreate => "resolution.challenge.create"
    | .decisionEvaluate => "resolution.decision.evaluate"
    | .decisionAttest => "resolution.decision.attest"
    | .decisionSettle => "resolution.decision.settle-optimistic"
    | .decisionAdjudicate => "resolution.decision.adjudicate"

/-- The rows of one workspace. -/
structure WorkStore extends WorkRows, ResolutionRows where
  workspaceId : String
  evidence : Table UuidV7 EvidenceRow
  premises : Table UuidV7 PremiseRef
  costs : Table UuidV7 CostReceipt
  assumptions : Table UuidV7 Assumption
  links : Table UuidV7 AssumptionLink
  principals : List Principal
  claimRetries : List IdempotencyRecord
  retries : List (Retry.IdempotencyRecord WorkOperation String)
  /-- Task ids that rows of other tables name under a foreign key. -/
  otherReferences : List UuidV7
  /-- The ids that rows of the other workspaces have. -/
  others : WorkTable → List UuidV7

namespace WorkStore

variable (s : WorkStore)

/-! ### The rows as the other services read them -/

/-- The task ids that a table names. -/
def named {ρ : Type} (t : Table UuidV7 ρ) (taskIds : ρ → List UuidV7) : List UuidV7 :=
  (Table.rows t fun _ _ => true).flatMap fun row => taskIds row.2

/-- The task that a fallback activates. -/
def fallbackTarget : WaitFallback → List UuidV7
  | .activateTask targetTaskId => [targetTaskId]
  | _ => []

/-- Task ids that rows other than tasks, claims, attempts and waits name under a foreign key. -/
def references : List UuidV7 :=
  named s.waits (fun w => fallbackTarget w.fallback ++ w.fallbackResultTaskId.toList) ++
    named s.evidence (fun e => [e.taskId]) ++ named s.links (fun l => [l.taskId]) ++
    named s.contracts (fun c => [c.taskId]) ++ named s.trust (fun t => [t.taskId]) ++
    named s.proposals (fun p => [p.taskId]) ++ named s.challenges (fun c => [c.taskId]) ++
    named s.decisions (fun d => [d.taskId]) ++ named s.completions (fun c => [c.taskId]) ++
    s.otherReferences

/-- The work ledger, as the task verbs read it. -/
def ledger : Ledger where
  workspaceId := s.workspaceId
  tasks := s.tasks
  claims := s.claims.map fun _ c => c.toTaskClaim
  attempts := s.attempts.map fun _ a => a.toTaskAttempt
  waits := s.waits.map fun _ w => w.toWaitCondition
  principals := s.principals
  references := s.references
  otherTaskIds := s.others .task

/-- The coordination rows, as the claim verbs read them. -/
def view : EffectStore where
  tasks := s.tasks
  claims := s.claims
  attempts := s.attempts.map fun _ a => a.toBoundAttempt
  evidence := ∅
  principals := s.principals
  effectTypes := []
  workspaceId := s.workspaceId
  effects := ∅
  approvals := ∅
  receipts := ∅
  retries := s.claimRetries
  others := ⟨[], [], [], [], s.others .claim⟩

/-! ### Updates of many rows -/

end WorkStore

/-- The claim as a release leaves it. -/
def LeasedClaim.releasedAs (reason : String) (now : UnixMs) (c : LeasedClaim) : LeasedClaim :=
  { c with
    releasedAt := some now
    releaseReason := some reason
    updatedAt := now
    revision := c.revision + 1 }

/-- The attempt as a cancellation leaves it. -/
def AttemptRow.cancelledAs (message : String) (now : UnixMs) (a : AttemptRow) : AttemptRow :=
  { a with
    status := .cancelled
    statusMessage := some message
    endedAt := some now
    updatedAt := now
    revision := a.revision + 1 }

/-- The wait condition as a cancellation leaves it. -/
def WaitRow.cancelledAs (reason : String) (now : UnixMs) (w : WaitRow) : WaitRow :=
  { w with
    status := .cancelled
    cancelledAt := some now
    cancelReason := some reason
    updatedAt := now }

/-- What the insert and update triggers of `task_attempt` both check. -/
def AttemptRow.Lifecycle (a : AttemptRow) : Prop :=
  (a.status.Active ↔ a.endedAt = none) ∧ ∀ t ∈ a.endedAt, a.startedAt ≤ t

instance decidableAttemptLifecycle (a : AttemptRow) : Decidable a.Lifecycle := by
  unfold AttemptRow.Lifecycle; infer_instance

namespace WorkStore

variable (s : WorkStore)

/-- `UPDATE task_claim SET released_at = ... WHERE released_at IS NULL AND ...` -/
def releaseClaims (which : UuidV7 → LeasedClaim → Bool) (reason : String) (now : UnixMs) :
    Call WorkStore := do
  refuse (Table.has s.claims (fun id c => which id c && c.releasedAt.isNone &&
      ¬ (c.releasedAs reason now).Valid) = true)
    (.constraint "invalid task claim invariant")
  pure { s with
    claims := s.claims.map fun id c =>
      if which id c && c.releasedAt.isNone then c.releasedAs reason now else c }

/-- `UPDATE task_attempt SET status = 'cancelled', ... WHERE task_id = ? AND status IN (...)` -/
def cancelAttempts (taskId : UuidV7) (message : String) (now : UnixMs) : Call WorkStore := do
  refuse (Table.has s.attempts (fun _ a => a.taskId = taskId && a.status.Active &&
      ¬ (a.cancelledAs message now).Lifecycle) = true)
    (.constraint "invalid task attempt lifecycle")
  pure { s with
    attempts := s.attempts.map fun _ a =>
      if a.taskId = taskId ∧ a.status.Active then a.cancelledAs message now else a }

/-- The rows as the task verbs leave them. Only a deletion or a terminal transition closes claims,
    attempts and waits there. -/
def absorb (l : Ledger) (now : UnixMs) : WorkStore :=
  { s with
    tasks := l.tasks
    claims := s.claims.map fun id c =>
      match c.releasedAt, l.claims[id]?.bind (·.releasedAt) with
      | none, some t => c.releasedAs "task_deleted" t
      | _, _ => c
    attempts := s.attempts.map fun id a =>
      if a.status.Active ∧ l.attempts[id]?.map (·.status) = some .cancelled then
        a.cancelledAs "task deleted" now
      else a
    waits := s.waits.map fun id w =>
      if w.status = .waiting ∧ l.waits[id]?.map (·.status) = some .cancelled then
        w.cancelledAs "task_terminal" now
      else w
    principals := l.principals }

/-- The rows as the claim verbs leave them. -/
def adopt (e : EffectStore) : WorkStore :=
  { s with claims := e.claims, principals := e.principals, claimRetries := e.retries }

/-! ### `task_attempt` -/

/-- `INSERT INTO task_attempt` -/
def insertAttempt (id : UuidV7) (a : AttemptRow) : Call WorkStore := do
  refuse (sqlTrim a.actor = "" ∨ sqlTrim a.runtime = "" ∨ ¬ a.Lifecycle ∨ a.taskId ∉ s.tasks ∨
      (∃ c ∈ a.claimId, ¬ ∃ row ∈ s.claims[c]?, row.taskId = a.taskId ∧ row.actor = a.actor) ∨
      a.status.Active ∧ ∃ row ∈ s.tasks[a.taskId]?, row.Closed)
    (.constraint "invalid task attempt invariant")
  refuse (∃ p ∈ a.principalId, ¬ s.view.HasPrincipal p)
    (.constraint "attempt principal workspace mismatch")
  refuse (id ∈ s.attempts ∨ id ∈ s.others .attempt) (.constraint "UNIQUE task_attempt.id")
  pure { s with attempts := s.attempts.insert id a }

/-- `UPDATE task_attempt SET ..., revision = revision + 1`, where the revision is the expected one.
    The service has checked that the row is not terminal. -/
def updateAttempt (id : UuidV7) (old : AttemptRow) (f : AttemptRow → AttemptRow)
    (expectedRevision : Option ℕ) : Call (WorkStore × AttemptRow) := do
  refuse (∃ n ∈ expectedRevision, old.revision ≠ n)
    (.error s!"Stale attempt revision: expected {expectedRevision.getD 0}")
  let new := { f old with revision := old.revision + 1 }
  refuse (¬ new.Lifecycle ∨ new.status.Active ∧ ∃ row ∈ s.tasks[new.taskId]?, row.Closed)
    (.constraint "invalid task attempt lifecycle")
  pure ({ s with attempts := s.attempts.insert id new }, new)

/-! ### `wait_condition` -/

end WorkStore

/-- The `CHECK` constraints of `wait_condition`. -/
def WaitRow.Checked (w : WaitRow) : Prop :=
  (∀ d ∈ w.deadlineAt, w.notBefore < d) ∧ w.createdAt ≤ w.updatedAt ∧
    (w.satisfiedAt.isSome ↔ w.status = .satisfied) ∧
    (w.satisfiedByObservationId.isSome ↔ w.status = .satisfied) ∧
    (w.expiredAt.isSome ↔ w.status = .expired) ∧ (w.cancelledAt.isSome ↔ w.status = .cancelled) ∧
    (w.cancelReason.isSome ↔ w.status = .cancelled) ∧
    (w.fallbackResultTaskId.isSome ↔ w.status = .expired ∧ w.fallback ≠ .none) ∧
    (∀ t ∈ w.expiredAt, ∃ d ∈ w.deadlineAt, d ≤ t) ∧ (∀ t ∈ w.satisfiedAt, w.createdAt ≤ t) ∧
    (∀ t ∈ w.expiredAt, w.createdAt ≤ t) ∧ (∀ t ∈ w.cancelledAt, w.createdAt ≤ t) ∧
    ∀ r ∈ w.cancelReason, sqlTrim r ≠ ""

instance decidableWaitChecked (w : WaitRow) : Decidable w.Checked := by
  unfold WaitRow.Checked; infer_instance

namespace WorkStore

variable (s : WorkStore)

/-- A task that is neither deleted nor terminal. -/
def HasOpenTask (taskId : UuidV7) : Prop := ∃ row ∈ s.tasks[taskId]?, ¬ row.Closed

instance decidableHasOpenTask (taskId : UuidV7) : Decidable (s.HasOpenTask taskId) := by
  unfold HasOpenTask; infer_instance

/-- `INSERT INTO wait_condition` -/
def insertWait (id : UuidV7) (w : WaitRow) : Call WorkStore := do
  refuse (¬ s.HasOpenTask w.taskId ∨ (∃ t ∈ fallbackTarget w.fallback, ¬ s.HasOpenTask t) ∨
      ∃ p ∈ w.supersedesConditionId, ¬ ∃ prior ∈ s.waits[p]?,
        prior.taskId = w.taskId ∧ prior.status = .waiting)
    (.constraint "invalid wait condition relationship")
  refuse (¬ w.Checked ∨ w.supersedesConditionId = some id) (.constraint "CHECK wait_condition")
  refuse (id ∈ s.waits ∨ id ∈ s.others .wait) (.constraint "UNIQUE wait_condition.id")
  refuse (w.supersedesConditionId.isSome ∧
      Table.has s.waits (fun _ row => row.supersedesConditionId = w.supersedesConditionId) = true)
    (.constraint "uniq_wait_condition_supersedes")
  pure { s with waits := s.waits.insert id w }

/-- `UPDATE wait_condition` of a waiting row to a status that is not waiting. -/
def updateWait (id : UuidV7) (old : WaitRow) (f : WaitRow → WaitRow) :
    Call (WorkStore × WaitRow) := do
  refuse (old.status ≠ .waiting ∨ (f old).status = .waiting)
    (.constraint "wait condition may transition from waiting exactly once")
  refuse (¬ (f old).Checked) (.constraint "CHECK wait_condition")
  pure ({ s with waits := s.waits.insert id (f old) }, f old)

/-! ### Append-only records -/

/-- `INSERT INTO task_evidence` -/
def insertEvidence (id : UuidV7) (e : EvidenceRow) : Call WorkStore := do
  refuse (sqlTrim e.actor = "" ∨ sqlTrim e.kind = "" ∨
      ((∀ t ∈ e.summary, sqlTrim t = "") ∧ ∀ t ∈ e.uri, sqlTrim t = "") ∨ e.taskId ∉ s.tasks ∨
      (∃ a ∈ e.attemptId, ¬ ∃ row ∈ s.attempts[a]?, row.taskId = e.taskId) ∨
      ∃ p ∈ e.supersedesEvidenceId, p = id ∨ ¬ ∃ prior ∈ s.evidence[p]?, prior.taskId = e.taskId)
    (.constraint "invalid task evidence invariant")
  refuse (∃ p ∈ e.principalId, ¬ s.view.HasPrincipal p)
    (.constraint "evidence principal workspace mismatch")
  refuse (id ∈ s.evidence ∨ id ∈ s.others .evidence) (.constraint "UNIQUE task_evidence.id")
  pure { s with evidence := s.evidence.insert id e }

/-- `insertTypedRef` -/
def insertTypedRef (id : UuidV7) (ref : PremiseRef) : Call WorkStore := do
  refuse (id ∈ s.premises ∨ id ∈ s.costs ∨ id ∈ s.others .externalRef)
    (.constraint "UNIQUE external_ref.id")
  pure { s with premises := s.premises.insert id ref }

/-- No decision supersedes the decision. -/
def LeafDecision (id : UuidV7) : Prop :=
  Table.has s.decisions (fun _ child => child.supersedesDecisionId = some id) = false

instance decidableLeafDecision (id : UuidV7) : Decidable (s.LeafDecision id) := by
  unfold LeafDecision; infer_instance

/-- The accepted decision that the record of a validated completion requires. -/
def BindsDecision (c : CompletionRecord) : Prop :=
  ∃ id ∈ c.validationDecisionId, ∃ d ∈ s.decisions[id]?, d.taskId = c.taskId ∧
    c.resolutionContractId = some d.resolutionContractId ∧ d.outcome = .accepted ∧
    s.LeafDecision id

instance decidableBindsDecision (c : CompletionRecord) : Decidable (s.BindsDecision c) := by
  unfold BindsDecision; infer_instance

/-- `INSERT INTO completion_record` -/
def insertCompletion (id : UuidV7) (c : CompletionRecord) : Call WorkStore := do
  refuse (¬ ∃ t ∈ s.tasks[c.taskId]?, t.revision = c.resultingRevision ∧ t.status = .done)
    (.constraint "completion record must bind the current done revision")
  refuse (¬ s.view.HasPrincipal c.decidedByPrincipalId)
    (.constraint "completion principal workspace mismatch")
  refuse (∃ e ∈ c.evidenceIds, ¬ ∃ row ∈ s.evidence[e]?, row.taskId = c.taskId)
    (.constraint "completion evidence ownership mismatch")
  refuse ((∃ t ∈ s.tasks[c.taskId]?, t.validationRequired = true) ∧ ¬ s.BindsDecision c)
    (.constraint "validated completion requires accepted decision")
  refuse ((∃ t ∈ s.tasks[c.taskId]?, t.validationRequired = false) ∧
      (c.resolutionContractId.isSome ∨ c.validationDecisionId.isSome))
    (.constraint "ordinary completion cannot claim validated resolution")
  refuse (id ∈ s.completions ∨ id ∈ s.others .completion) (.constraint "UNIQUE completion_record.id")
  refuse (Table.has s.completions (fun _ row =>
      row.taskId = c.taskId && row.resultingRevision = c.resultingRevision) = true)
    (.constraint "UNIQUE completion_record revision")
  pure { s with completions := s.completions.insert id c }

end WorkStore

end Tasq
