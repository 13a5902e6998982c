import Mathlib.Tactic
import Tasq.EffectLedger.Request

/-! The services before dispatch: proposing an effect, recording a decision about it, authorizing
    it by the current decision, and cancelling it.

    Ids that the services generate (`uuidv7(now)`) are inputs. A call that finds the record of an
    earlier one with the same identity answers from the rows and writes none. -/

namespace Tasq

open Text Outcome

namespace EffectStore

variable (s : EffectStore) (rt : EffectRuntime)

/-- The effect that an idempotency record points at. -/
def priorEffect (record : IdempotencyRecord) : Call Effect := do
  let prior ← s.getEffect rt record.resultId
  demand prior (.error s!"Idempotency record points at missing effect {record.resultId}")

/-! ### `proposeEffect` -/

/-- `requireTaskAndAttempt` -/
def requireTaskAndAttempt (taskId : UuidV7) (attemptId : Option UuidV7) : Call Unit := do
  refuse (¬ ∃ t ∈ s.tasks[taskId]?, t.deletedAt = none) (.error s!"Commitment not found: {taskId}")
  refuse (∃ id ∈ attemptId, ¬ ∃ a ∈ s.attempts[id]?, a.taskId = taskId)
    (.error s!"Attempt does not belong to commitment: {attemptId.getD 0}")

/-- `requireRegisteredEffectType` -/
def requireRegisteredEffectType (typeUri : String) (schemaVersion : ℕ+) : Call Unit :=
  refuse ((typeUri, schemaVersion) ∉ s.effectTypes)
    (.error s!"Unsupported effect type: {typeUri}@{(schemaVersion : ℕ)}")

/-- The effect that a correction supersedes, or a compensation refers to. -/
def requireReference (reference : Option UuidV7) (fits : Effect → Prop) [DecidablePred fits]
    (message : String) : Call Unit :=
  match reference with
  | none => pure ()
  | some id => do
    let prior ← s.getEffect rt id
    refuse (¬ ∃ p ∈ prior, fits p) (.error message)

/-- The row of a new effect. -/
def proposedEffect (input : EffectProposal) (prepared : EffectRuntime.PreparedEffectRequest)
    (dispatchIdempotencyKey callerId : String) (now : UnixMs) : Effect where
  taskId := input.taskId
  attemptId := input.attemptId
  request := prepared.canonicalRequest
  requestDigest := prepared.requestDigest
  dispatchIdempotencyKey := dispatchIdempotencyKey
  status := .proposed
  authorizedByApprovalId := none
  outcomeReceiptId := none
  claimId := none
  fence := none
  supersedesEffectId := input.supersedesEffectId
  compensationOfEffectId := input.compensationOfEffectId
  createdByPrincipalId := callerId
  revision := 1
  authorizedAt := none
  executionStartedAt := none
  indeterminateAt := none
  resolvedAt := none
  cancelledAt := none
  cancelReason := none
  createdAt := now
  updatedAt := now

/-- `proposeEffect` -/
def proposeEffect (input : EffectProposal) (ctx : PrincipalContext) (freshId : UuidV7) :
    Call (EffectStore × Effect) := do
  rt.assertCanonical (.proposal input)
  refuse (input.request.workspaceId ≠ s.workspaceId)
    (.error "Effect request workspaceId must match tenantId")
  let prepared ← rt.prepareEffectRequest input.request
  let (s, prior, identity) ← s.retryResult rt ctx .effectPropose
    (.propose input.taskId input.attemptId prepared.requestDigest input.supersedesEffectId
      input.compensationOfEffectId) none
  match prior with
  | some record => do
    let e ← s.priorEffect rt record
    pure (s, e)
  | none => do
    s.requireTaskAndAttempt input.taskId input.attemptId
    s.requireRegisteredEffectType prepared.request.effectTypeUri
      prepared.request.effectSchemaVersion
    let (s, caller) ← s.contextPrincipal rt ctx
    s.requireReference rt input.supersedesEffectId
      (fun p => p.taskId = input.taskId ∧ p.status = .cancelled)
      "A correction must supersede a cancelled effect on the same commitment"
    s.requireReference rt input.compensationOfEffectId (fun p => p.status = .committed)
      "A compensation must reference a committed effect"
    let id := input.id.getD freshId
    let s ← s.insertEffect id (proposedEffect input prepared
      (rt.deriveEffectDispatchKey id prepared) caller.id ctx.now)
    let written ← s.getEffect rt id
    let result ← demand written (.error s!"Failed to read back effect {id}")
    let s ← s.recordEvent rt (ctx.actorLabel caller) caller
    let s ← s.saveIdempotencyResult identity id (some result.revision)
    pure (s, result)

/-! ### `recordEffectApproval` -/

/-- `listEffectApprovals` of one effect. -/
def listEffectApprovals (effectId : UuidV7) : Call (List (UuidV7 × EffectApproval)) :=
  (Table.rows s.approvals fun _ a => a.effectId = effectId).mapM fun row =>
    Prod.mk row.1 <$> parseApproval row.1 row.2

/-- The decisions of a history that no decision of it supersedes. -/
def leaves (approvals : List (UuidV7 × EffectApproval)) : List (UuidV7 × EffectApproval) :=
  approvals.filter fun a => ¬ ∃ child ∈ approvals, child.2.supersedesApprovalId = some a.1

/-- `getEffectiveEffectApproval` -/
def getEffectiveEffectApproval (effectId : UuidV7) : Call (Option (UuidV7 × EffectApproval)) := do
  let approvals ← s.listEffectApprovals effectId
  if approvals = [] then pure none
  else do
    refuse ((leaves approvals).length ≠ 1)
      (.error s!"Effect {effectId} has a branched approval history")
    pure (leaves approvals).head?

/-- `verificationFromContext` -/
def verificationFromContext (supplied : Option AuthorityVerification) :
    Call AuthorityVerification :=
  match supplied with
  | none => pure ⟨.selfAsserted, "local-actor-alias", ⟨[]⟩⟩
  | some v => do
    refuse (Blank v.method) (.error "authority verification method must not be empty")
    rt.assertCanonical (.object v.details)
    pure v

/-- An effect whose authorizing decision is superseded is proposed again. -/
def withdrawAuthority (ctx : PrincipalContext) (caller : Principal) (effectId : UuidV7)
    (target : Effect) (current : Option (UuidV7 × EffectApproval)) : Call EffectStore :=
  if target.status = .authorized ∧ ∃ c ∈ current, target.authorizedByApprovalId = some c.1 then do
    let (s, _) ← s.setEffect effectId target.revision fun e =>
      { e with
        status := .proposed
        authorizedByApprovalId := none
        authorizedAt := none
        updatedAt := ctx.now }
    s.recordEvent rt (ctx.actorLabel caller) caller
  else pure s

/-- The row of a new decision. -/
def decidedApproval (input : EffectApprovalDecision) (requestDigest : Digest) (callerId : String)
    (verification : AuthorityVerification) (now : UnixMs) : EffectApproval where
  effectId := input.effectId
  requestDigest := requestDigest
  approverPrincipalId := callerId
  decision := input.decision
  scope := canonical input.scope
  limits := canonical input.limits
  validFrom := input.validFrom
  expiresAt := input.expiresAt
  verificationLevel := verification.level
  verificationMethod := verification.method
  verification := canonical verification.details
  supersedesApprovalId := input.supersedesApprovalId
  decidedAt := now

/-- `recordEffectApproval` -/
def recordEffectApproval (input : EffectApprovalDecision) (ctx : PrincipalContext)
    (supplied : Option AuthorityVerification) (freshId : UuidV7) :
    Call (EffectStore × EffectApproval) := do
  rt.assertCanonical (.decision input)
  refuse (∃ t ∈ input.expiresAt, t ≤ ctx.now)
    (.error "Approval expiry must be in the future at decision time")
  let verification ← verificationFromContext rt supplied
  rt.assertCanonical (.object input.scope)
  rt.assertCanonical (.object input.limits)
  rt.assertCanonical (.object verification.details)
  let found ← s.getEffect rt input.effectId
  let target ← demand found (.error s!"Effect not found: {input.effectId}")
  let (s, caller) ← s.contextPrincipal rt ctx
  let (s, prior, identity) ← s.retryResult rt ctx .effectApprovalRecord
    (.approve input target.requestDigest caller.id verification) none
  match prior with
  | some record => do
    let decided ← s.getEffectApproval record.resultId
    let a ← demand decided
      (.error s!"Idempotency record points at missing approval {record.resultId}")
    pure (s, a)
  | none => do
    let current ← s.getEffectiveEffectApproval input.effectId
    refuse (current = none ∧ input.supersedesApprovalId.isSome)
      (.error "The first approval decision cannot supersede another record")
    refuse (∃ c ∈ current, input.supersedesApprovalId ≠ some c.1)
      (.error s!"Approval decision must supersede current leaf {(current.map Prod.fst).getD 0}")
    refuse (input.decision = .revoked ∧ ¬ ∃ c ∈ current, c.2.decision = .approved)
      (.error "Revocation must supersede an approved decision")
    let id := input.id.getD freshId
    let s ← s.insertApproval id
      (decidedApproval input target.requestDigest caller.id verification ctx.now)
    let s ← s.recordEvent rt (ctx.actorLabel caller) caller
    let s ← s.withdrawAuthority rt ctx caller input.effectId target current
    let s ← s.saveIdempotencyResult identity id none
    let written ← s.getEffectApproval id
    let result ← demand written (.error s!"Failed to read back effect approval {id}")
    pure (s, result)

/-! ### `authorizeEffect`, `cancelEffect` -/

/-- `authorizeEffect` -/
def authorizeEffect (effectId approvalId : UuidV7) (expectedRevision : ℕ)
    (ctx : PrincipalContext) : Call (EffectStore × Effect) := do
  let (s, prior, identity) ← s.retryResult rt ctx .effectAuthorize
    (.authorize effectId approvalId expectedRevision) none
  match prior with
  | some record => do
    let e ← s.priorEffect rt record
    pure (s, e)
  | none => do
    let found ← s.getEffect rt effectId
    let before ← demand found (.error s!"Effect not found: {effectId}")
    refuse (before.status ≠ .proposed)
      (.error s!"Effect must be proposed before authorization: {before.status.text}")
    let current ← s.getEffectiveEffectApproval effectId
    let approval ← demand
      (current.filter fun c => c.1 = approvalId ∧ c.2.decision = .approved)
      (.error "Effect authorization requires the current approved decision")
    refuse (approval.2.requestDigest ≠ before.requestDigest)
      (.error "Approval request digest does not match the effect")
    refuse (∃ v ∈ approval.2.validFrom, ctx.now < v) (.error "Approval is not valid yet")
    refuse (∃ t ∈ approval.2.expiresAt, t ≤ ctx.now) (.error "Approval has expired")
    let (s, caller) ← s.contextPrincipal rt ctx
    let (s, row) ← s.setEffect effectId expectedRevision fun e =>
      { e with
        status := .authorized
        authorizedByApprovalId := some approval.1
        authorizedAt := some ctx.now
        updatedAt := ctx.now }
    let result ← rt.parseEffect effectId row
    let s ← s.recordEvent rt (ctx.actorLabel caller) caller
    let s ← s.saveIdempotencyResult identity effectId (some result.revision)
    pure (s, result)

/-- `cancelEffect` -/
def cancelEffect (effectId : UuidV7) (reason : String) (expectedRevision : ℕ)
    (ctx : PrincipalContext) : Call (EffectStore × Effect) := do
  refuse (Blank reason) (.error "Effect cancellation requires a reason")
  let (s, prior, identity) ← s.retryResult rt ctx .effectCancel
    (.cancel effectId expectedRevision (jsTrim reason)) none
  match prior with
  | some record => do
    let e ← s.priorEffect rt record
    pure (s, e)
  | none => do
    let found ← s.getEffect rt effectId
    let before ← demand found (.error s!"Effect not found: {effectId}")
    refuse (before.status ≠ .proposed ∧ before.status ≠ .authorized)
      (.error s!"Effect cannot be cancelled after dispatch: {before.status.text}")
    let (s, caller) ← s.contextPrincipal rt ctx
    let (s, row) ← s.setEffect effectId expectedRevision fun e =>
      { e with
        status := .cancelled
        authorizedByApprovalId := none
        authorizedAt := none
        cancelledAt := some ctx.now
        cancelReason := some (jsTrim reason)
        updatedAt := ctx.now }
    let result ← rt.parseEffect effectId row
    let s ← s.recordEvent rt (ctx.actorLabel caller) caller
    let s ← s.saveIdempotencyResult identity effectId (some result.revision)
    pure (s, result)

end EffectStore

end Tasq
