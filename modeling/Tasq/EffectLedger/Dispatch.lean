import Mathlib.Tactic
import Tasq.EffectLedger.Authority

/-! Dispatch: the authority check that the ledger and the connector share, the permit, entering
    `executing` with its replay, and the check at the connector before any input or output.

    The connector policy and the permit issuer are supplied by the caller; their functions may
    throw. -/

namespace Tasq

open Text Outcome

/-- What `evaluateAuthority` is asked. -/
structure AuthorityQuery where
  parameters : EffectJsonObject
  secretBindings : List EffectSecretBinding
  scope : EffectJsonObject
  limits : EffectJsonObject
  approverPrincipalId : String
  verificationLevel : ApprovalVerificationLevel
  verification : EffectJsonObject
  now : UnixMs

/-- `EffectAuthorityDecision` -/
structure EffectAuthorityDecision where
  allowed : Bool
  reasonCode : String
  explanation : String

/-- `EffectConnectorPolicy` -/
structure EffectConnectorPolicy where
  effectTypeUri : String
  effectSchemaVersion : ℕ+
  connector : EffectConnectorBinding
  parseParameters : EffectJsonObject → Call EffectJsonObject
  evaluateAuthority : AuthorityQuery → Call EffectAuthorityDecision

/-- `EffectPermitIssuer`: it signs canonical payloads. -/
structure EffectPermitIssuer where
  algorithm : String
  keyId : String
  sign : EffectDispatchPermitPayload → Call String

/-- `EffectPermitVerifier`: it is shown the canonical payload. -/
structure EffectPermitVerifier where
  verify : EffectDispatchPermit → Bool

/-- The part of an approval that a permit carries. -/
def EffectApproval.granted (id : UuidV7) (a : EffectApproval) : PermitApproval where
  id := id
  requestDigest := a.requestDigest
  approverPrincipalId := a.approverPrincipalId
  scope := a.scope
  limits := a.limits
  validFrom := a.validFrom
  expiresAt := a.expiresAt
  verificationLevel := a.verificationLevel
  verificationMethod := a.verificationMethod
  verification := a.verification
  decidedAt := a.decidedAt

/-- The approval in the permit is in force at `now`. -/
def PermitApproval.ValidAt (a : PermitApproval) (now : UnixMs) : Prop :=
  (∀ v ∈ a.validFrom, v ≤ now) ∧ ∀ t ∈ a.expiresAt, now < t

/-- `assertPolicyBinding` -/
def assertPolicyBinding (request : EffectRequestEnvelope) (policy : EffectConnectorPolicy) :
    Call Unit :=
  refuse (request.effectTypeUri ≠ policy.effectTypeUri ∨
      request.effectSchemaVersion ≠ policy.effectSchemaVersion ∨
      request.connector ≠ policy.connector)
    (.error "Effect request does not match the loaded connector policy binding")

/-- `assertEffectAuthority` -/
def assertEffectAuthority (rt : EffectRuntime) (request : EffectRequestEnvelope)
    (requestDigest : Digest) (decision : ApprovalDecision) (approval : PermitApproval)
    (now : UnixMs) (policy : EffectConnectorPolicy) : Call EffectJsonObject := do
  refuse (decision ≠ .approved ∨ approval.requestDigest ≠ requestDigest)
    (.error "Effect authority is not an exact approved request")
  refuse (∃ v ∈ approval.validFrom, now < v) (.error "Effect authority is not valid yet")
  refuse (∃ t ∈ approval.expiresAt, t ≤ now) (.error "Effect authority has expired")
  assertPolicyBinding request policy
  let parsed ← policy.parseParameters request.parameters
  rt.assertCanonical (.object request.parameters)
  rt.assertCanonical (.object parsed)
  refuse (canonical parsed ≠ canonical request.parameters)
    (.error "Connector parser changed the approved parameters")
  let verdict ← policy.evaluateAuthority ⟨parsed, request.secretBindings, approval.scope,
    approval.limits, approval.approverPrincipalId, approval.verificationLevel,
    approval.verification, now⟩
  refuse (Blank verdict.reasonCode ∨ Blank verdict.explanation)
    (.error "Connector authority decision requires a reason code and explanation")
  refuse (verdict.allowed = false)
    (.error s!"Connector authority denied ({verdict.reasonCode}): {verdict.explanation}")
  pure parsed

/-! ### Permits -/

/-- `/^[a-z][a-z0-9._-]{0,63}$/` -/
def admitsAlgorithm (text : String) : Bool :=
  match text.toList with
  | [] => false
  | c :: cs => c.isLower && cs.length ≤ 63 &&
      cs.all fun d => d.isLower || d.isDigit || d ∈ ['.', '_', '-']

/-- `/^[A-Za-z0-9_-]{32,1024}$/` -/
def admitsSignature (text : String) : Bool :=
  32 ≤ text.toList.length && text.toList.length ≤ 1024 &&
    text.toList.all fun d => d.isAlphanum || d ∈ ['_', '-']

/-- `EffectDispatchPermit.parse` -/
def parsePermit (permit : EffectDispatchPermit) : Call EffectDispatchPermit := do
  refuse (¬ permit.payload.Refined) (.invalid "EffectDispatchPermit")
  refuse (admitsAlgorithm permit.algorithm = false ∨ permit.keyId = "" ∨
      256 < utf16Length permit.keyId ∨ admitsSignature permit.signature = false)
    (.invalid "EffectDispatchPermit")
  pure permit

namespace EffectStore

variable (s : EffectStore) (rt : EffectRuntime)

/-- The payload of the permit for one dispatch. -/
def permitPayload (effectId : UuidV7) (e : Effect) (approvalId : UuidV7) (approval : EffectApproval)
    (attemptId : UuidV7) (claim : PermitClaim) (effectRevision : ℕ) (issuedAt : UnixMs) :
    EffectDispatchPermitPayload where
  issuedAt := issuedAt
  workspaceId := s.workspaceId
  effectId := effectId
  effectRevision := effectRevision
  taskId := e.taskId
  attemptId := attemptId
  request := e.request
  canonicalRequest := e.request
  requestDigest := e.requestDigest
  dispatchIdempotencyKey := e.dispatchIdempotencyKey
  approval := approval.granted approvalId
  claim := claim
  executionStartedAt := issuedAt

/-- `issueEffectDispatchPermit` -/
def issueEffectDispatchPermit (effectId : UuidV7) (e : Effect) (approvalId : UuidV7)
    (approval : EffectApproval) (attemptId : UuidV7) (claim : PermitClaim) (effectRevision : ℕ)
    (issuedAt : UnixMs) (issuer : EffectPermitIssuer) : Call EffectDispatchPermit := do
  refuse (approval.decision ≠ .approved)
    (.error "An effect dispatch permit requires an approved decision")
  let payload := s.permitPayload effectId e approvalId approval attemptId claim effectRevision
    issuedAt
  rt.assertCanonical (.permit payload)
  let signature ← issuer.sign (canonical payload)
  parsePermit ⟨payload, issuer.algorithm, issuer.keyId, signature⟩

/-- `BeginEffectExecutionOptions` -/
structure BeginOptions where
  expectedRevision : ℕ
  claimId : UuidV7
  fence : ℕ
  policy : EffectConnectorPolicy
  permitIssuer : EffectPermitIssuer

/-- The claim that a permit names: its row, attributed to a principal. -/
def permitClaim (claimId : UuidV7) (claim : LeasedClaim) (principalId : String) : PermitClaim where
  id := claimId
  fence := claim.fence
  principalId := principalId
  expiresAt := claim.expiresAt

/-- The permit that a repeated call answers: rebuilt from the rows as they are now. -/
def replayDispatch (record : IdempotencyRecord) (issuer : EffectPermitIssuer) :
    Call (Effect × EffectDispatchPermit) := do
  let prior ← s.priorEffect rt record
  refuse (prior.status ≠ .executing ∧ prior.status ≠ .indeterminate)
    (.error (s!"Effect dispatch {record.resultId} is already resolved ({prior.status.text}); " ++
      "inspect its receipt instead of redispatching"))
  let incomplete : Failure :=
    .error s!"Idempotent execution result {record.resultId} has an incomplete dispatch binding"
  let startedAt ← demand prior.executionStartedAt incomplete
  let attemptId ← demand prior.attemptId incomplete
  let approvalId ← demand prior.authorizedByApprovalId incomplete
  let claimId ← demand prior.claimId incomplete
  let fence ← demand prior.fence incomplete
  let revision ← demand record.resultRevision incomplete
  let decided ← s.getEffectApproval approvalId
  let approval ← demand (decided.filter (·.decision = .approved))
    (.error s!"Effect dispatch approval is missing: {approvalId}")
  let claim ← demand (s.claims[claimId]?.filter (·.fence = fence))
    (.error s!"Effect dispatch claim is missing: {claimId}")
  let holder ← demand (claim.principalId.filter (· ≠ ""))
    (.error s!"Effect dispatch claim is missing: {claimId}")
  let permit ← s.issueEffectDispatchPermit rt record.resultId prior approvalId approval attemptId
    (permitClaim claimId claim holder) revision startedAt issuer
  pure (prior, permit)

/-- `beginEffectExecution` -/
def beginEffectExecution (effectId : UuidV7) (options : BeginOptions) (ctx : PrincipalContext) :
    Call (EffectStore × Effect × EffectDispatchPermit) := do
  let (s, replayed, identity) ← s.retryResult rt ctx .effectExecutionBegin
    (.begin effectId options.expectedRevision options.claimId options.fence
      options.policy.effectTypeUri options.policy.effectSchemaVersion options.policy.connector
      options.permitIssuer.algorithm options.permitIssuer.keyId) none
  match replayed with
  | some record => do
    let answer ← s.replayDispatch rt record options.permitIssuer
    pure (s, answer)
  | none => do
    let found ← s.getEffect rt effectId
    let before ← demand found (.error s!"Effect not found: {effectId}")
    refuse (before.status ≠ .authorized)
      (.error s!"Effect must be authorized before execution: {before.status.text}")
    let attemptId ← demand before.attemptId (.error "Effect execution requires an attached attempt")
    let current ← s.getEffectiveEffectApproval effectId
    let approval ← demand (current.filter fun c =>
        some c.1 = before.authorizedByApprovalId ∧ c.2.decision = .approved)
      (.error "Effect execution requires its current exact approved decision")
    let attempt ← demand (s.attempts[attemptId]?.filter fun a =>
        a.taskId = before.taskId ∧ a.status = .running ∧ a.claimId = some options.claimId)
      (.error "Effect execution requires a running attempt bound to the supplied claim")
    let claim ← demand (s.claims[options.claimId]?.filter fun c =>
        c.taskId = before.taskId ∧ c.LiveAt ctx.now ∧ c.fence = options.fence)
      (.error "Effect execution requires the current live claim fence")
    let holder ← demand (claim.principalId.filter (· ≠ ""))
      (.error "Effect attempt and claim principal attribution do not match")
    refuse (attempt.principalId ≠ some holder)
      (.error "Effect attempt and claim principal attribution do not match")
    let (s, caller) ← s.contextPrincipal rt ctx
    refuse (caller.id ≠ holder)
      (.error "Only the principal holding the live claim may begin effect execution")
    let _ ← assertEffectAuthority rt before.request before.requestDigest approval.2.decision
      (approval.2.granted approval.1) ctx.now options.policy
    let (s, row) ← s.setEffect effectId options.expectedRevision fun e =>
      { e with
        status := .executing
        claimId := some options.claimId
        fence := some claim.fence
        executionStartedAt := some ctx.now
        updatedAt := ctx.now }
    let after ← rt.parseEffect effectId row
    let permit ← s.issueEffectDispatchPermit rt effectId after approval.1 approval.2 attemptId
      (permitClaim options.claimId claim holder) after.revision ctx.now options.permitIssuer
    let s ← s.recordEvent rt (ctx.actorLabel caller) caller
    let s ← s.saveIdempotencyResult identity effectId (some after.revision)
    pure (s, after, permit)

end EffectStore

/-! ### At the connector -/

/-- `enforceEffectDispatch` -/
def enforceEffectDispatch (rt : EffectRuntime) (input : EffectDispatchPermit)
    (policy : EffectConnectorPolicy) (verifier : EffectPermitVerifier) (now : UnixMs) :
    Call (EffectDispatchPermit × EffectJsonObject) := do
  let permit ← parsePermit input
  let payload := permit.payload
  rt.assertCanonical (.permit payload)
  refuse (verifier.verify { permit with payload := canonical payload } = false)
    (.error "Effect dispatch permit authentication failed")
  refuse (now < payload.issuedAt) (.error "Connector clock precedes dispatch authorization")
  refuse (payload.claim.expiresAt ≤ now) (.error "Effect claim fence expired before dispatch")
  let prepared ← rt.prepareEffectRequest payload.request
  refuse (prepared.canonicalRequest ≠ payload.canonicalRequest ∨
      prepared.requestDigest ≠ payload.requestDigest)
    (.error "Effect dispatch permit request identity mismatch")
  refuse (rt.deriveEffectDispatchKey payload.effectId prepared ≠ payload.dispatchIdempotencyKey)
    (.error "Effect dispatch permit idempotency identity mismatch")
  let parameters ← assertEffectAuthority rt payload.request payload.requestDigest .approved
    payload.approval now policy
  pure (permit, parameters)

end Tasq
