import Mathlib.Tactic
import Tasq.EffectLedger.Dispatch

/-! Receipts: `recordEffectReceipt` keeps one immutable connector report with the evidence it
    leaves, and resolves the effect by its outcome. -/

namespace Tasq

open Text Outcome

/-- `VerifiedEffectReceipt` -/
structure VerifiedEffectReceipt where
  level : ApprovalVerificationLevel
  method : String
  coverage : List EffectReceiptCoverage
  details : EffectJsonObject

/-- `EffectReceiptVerifier` -/
structure EffectReceiptVerifier where
  verify : EffectReceiptReport → UnixMs → Call VerifiedEffectReceipt

/-- `EffectReceiptInput` -/
structure EffectReceiptInput where
  id : Option UuidV7
  evidenceId : Option UuidV7
  report : EffectReceiptReport

/-- The outcome as texts name it. -/
def EffectReceiptOutcome.text (o : EffectReceiptOutcome) : String := o.status.text

/-- The place of a coverage in the order of its texts. -/
def EffectReceiptCoverage.rank : EffectReceiptCoverage → ℕ
  | .outcome => 0
  | .providerAccount => 1
  | .providerOperation => 2
  | .requestIdentity => 3

/-- `[...new Set(coverage)].sort()` of a coverage without duplicates. -/
def sortCoverage (coverage : List EffectReceiptCoverage) : List EffectReceiptCoverage :=
  coverage.insertionSort fun a b => a.rank ≤ b.rank

/-- The part of the execution binding that a report must repeat. -/
def ExactReport (report : EffectReceiptReport) (target : Effect) : Prop :=
  report.requestDigest = target.requestDigest ∧
    report.dispatchIdempotencyKey = target.dispatchIdempotencyKey ∧
    some report.approvalId = target.authorizedByApprovalId ∧
    some report.claimId = target.claimId ∧ some report.fence = target.fence ∧
    report.connectorInstanceRef = target.request.connector.instanceRef ∧
    report.connectorBindingDigest = target.request.connector.bindingDigest

instance decidableExactReport (report : EffectReceiptReport) (target : Effect) :
    Decidable (ExactReport report target) := by unfold ExactReport; infer_instance

/-- What an outcome may follow: uncertainty only execution, a resolution its open uncertainty. -/
def assertOutcomeAllowed (report : EffectReceiptReport) (target : Effect) : Call Unit :=
  if report.outcome = .indeterminate then
    refuse (target.status ≠ .executing ∨ report.resolvesReceiptId.isSome)
      (.error "Only an executing effect can become indeterminate")
  else if target.status = .indeterminate then
    refuse (report.resolvesReceiptId ≠ target.outcomeReceiptId)
      (.error "Terminal recovery must resolve the current indeterminate receipt")
  else
    refuse report.resolvesReceiptId.isSome
      (.error "A direct terminal receipt cannot resolve another receipt")

namespace EffectStore

variable (s : EffectStore) (rt : EffectRuntime)

/-- The evidence that a receipt leaves. -/
def receiptEvidence (target : Effect) (attemptId approvalId receiptId : UuidV7)
    (prepared : EffectRuntime.PreparedEffectReceiptReport) (actor : String) (caller : Principal)
    (now : UnixMs) : TaskEvidence where
  taskId := target.taskId
  attemptId := some attemptId
  actor := actor
  principalId := some caller.id
  kind := "effect_receipt"
  summary := some (s!"Effect {prepared.report.outcome.text}: " ++
    s!"receipt {prepared.report.externalReceiptId}")
  uri := some prepared.report.rawRef
  digest := some prepared.report.rawDigest
  source := some prepared.report.connectorInstanceRef
  observedAt := prepared.report.occurredAt
  metadata := some ⟨prepared.report.effectId, approvalId, receiptId, prepared.receiptDigest,
    prepared.report.outcome⟩
  createdAt := now

/-- The row of a new receipt. -/
def receiptRow (target : Effect) (attemptId approvalId evidenceId : UuidV7)
    (prepared : EffectRuntime.PreparedEffectReceiptReport) (verified : VerifiedEffectReceipt)
    (caller : Principal) (now : UnixMs) : EffectReceipt where
  effectId := prepared.report.effectId
  taskId := target.taskId
  attemptId := attemptId
  approvalId := approvalId
  evidenceId := evidenceId
  report := prepared.canonicalReport
  receiptDigest := prepared.receiptDigest
  verificationLevel := verified.level
  verificationMethod := verified.method
  coverage := sortCoverage verified.coverage
  verification := canonical verified.details
  recordedByPrincipalId := caller.id
  recordedAt := now

/-- `recordEffectReceipt` -/
def recordEffectReceipt (input : EffectReceiptInput) (expectedRevision : ℕ)
    (verifier : EffectReceiptVerifier) (ctx : PrincipalContext)
    (freshReceiptId freshEvidenceId : UuidV7) : Call (EffectStore × EffectReceipt) := do
  let prepared ← rt.prepareEffectReceiptReport input.report
  refuse (prepared.report.workspaceId ≠ s.workspaceId)
    (.error "Receipt workspace does not match context")
  let report := prepared.report
  match (s.deliveries report.connectorInstanceRef report.externalReceiptId).head? with
  | some prior => do
    refuse (prior.2.receiptDigest ≠ prepared.receiptDigest)
      (.error "Effect receipt delivery identity was reused with different content")
    let r ← rt.parseReceipt s.workspaceId prior.1 prior.2
    pure (s, r)
  | none => do
    let found ← s.getEffect rt report.effectId
    let target ← demand found (.error s!"Effect not found: {report.effectId}")
    refuse (target.revision ≠ expectedRevision)
      (.error s!"Stale effect revision: expected {expectedRevision}")
    refuse (target.status ≠ .executing ∧ target.status ≠ .indeterminate)
      (.error s!"Effect cannot accept a receipt from status {target.status.text}")
    let incomplete : Failure := .error "Effect receipt requires a complete execution binding"
    let attemptId ← demand target.attemptId incomplete
    let approvalId ← demand target.authorizedByApprovalId incomplete
    refuse (target.claimId = none ∨ target.fence.getD 0 = 0) incomplete
    refuse (¬ ExactReport report target)
      (.error "Receipt does not match the exact effect execution binding")
    assertOutcomeAllowed report target
    let (s, caller) ← s.contextPrincipal rt ctx
    let verified ← verifier.verify report ctx.now
    refuse (Blank verified.method) (.error "Receipt verification method must not be empty")
    refuse (¬ verified.coverage.Nodup)
      (.error "Receipt verification coverage contains duplicates")
    refuse (report.outcome ≠ .indeterminate ∧ (verified.level = .selfAsserted ∨
        ¬ effectReceiptCoverage ⊆ verified.coverage))
      (.error "Terminal receipt requires strong verification with complete coverage")
    rt.assertCanonical (.object verified.details)
    let receiptId := input.id.getD freshReceiptId
    let evidenceId := input.evidenceId.getD freshEvidenceId
    let actor := ctx.actorLabel caller
    let s ← s.insertEvidence evidenceId
      (receiptEvidence target attemptId approvalId receiptId prepared actor caller ctx.now)
    let s ← s.insertReceipt receiptId
      (receiptRow target attemptId approvalId evidenceId prepared verified caller ctx.now)
    let terminal := report.outcome ≠ .indeterminate
    let (s, _) ← s.setEffect report.effectId expectedRevision fun e =>
      { e with
        status := report.outcome.status
        outcomeReceiptId := some receiptId
        indeterminateAt := if terminal then target.indeterminateAt else some ctx.now
        resolvedAt := if terminal then some ctx.now else none
        updatedAt := ctx.now }
    let s ← s.recordEvent rt actor caller
    let s ← s.recordEvent rt actor caller
    let written ← s.getEffectReceipt rt receiptId
    let result ← demand written (.error s!"Failed to read back effect receipt {receiptId}")
    pure (s, result)

end EffectStore

end Tasq
