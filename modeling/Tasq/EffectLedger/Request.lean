import Mathlib.Tactic
import Tasq.EffectLedger.Store

/-! Identity of requests, reports and calls: canonical requests with their digests, what a reader
    of a stored row accepts, attribution of a call, and the replay of an idempotent one.

    `canonicalizeEffectJson` is canonical form behind limits on numbers, keys, depth, nodes and
    bytes; the limits are a parameter of the platform (`admits`). -/

namespace Tasq

open Text Outcome

instance canonicalJsonEffectReceiptReport : CanonicalJson EffectReceiptReport where
  canonical r := { r with payload := canonical r.payload }
  safe r := safe r.payload
  canonical_canonical r := by simp
  safe_canonical r := by simp

/-- The canonical text of the request is a text, and stays as it is. -/
instance canonicalJsonPermitPayload : CanonicalJson EffectDispatchPermitPayload where
  canonical p :=
    { p with
      request := canonical p.request
      approval :=
        { p.approval with
          scope := canonical p.approval.scope
          limits := canonical p.approval.limits
          verification := canonical p.approval.verification } }
  safe p := safe p.request && safe p.approval.scope && safe p.approval.limits &&
    safe p.approval.verification
  canonical_canonical p := by simp
  safe_canonical p := by simp

/-- `authorityVerification`, as a decision records it. -/
structure AuthorityVerification where
  level : ApprovalVerificationLevel
  method : String
  details : EffectJsonObject
  deriving DecidableEq

/-- What the digest of an idempotent request is taken of. -/
inductive RetryRequest where
  | propose (taskId : UuidV7) (attemptId : Option UuidV7) (requestDigest : Digest)
      (supersedesEffectId compensationOfEffectId : Option UuidV7)
  | approve (input : EffectApprovalDecision) (requestDigest : Digest) (approver : String)
      (verification : AuthorityVerification)
  | authorize (effectId approvalId : UuidV7) (expectedRevision : ℕ)
  | begin (effectId : UuidV7) (expectedRevision : ℕ) (claimId : UuidV7) (fence : ℕ)
      (effectTypeUri : String) (effectSchemaVersion : ℕ+) (connector : EffectConnectorBinding)
      (algorithm keyId : String)
  | cancel (effectId : UuidV7) (expectedRevision : ℕ) (reason : String)
  | acquire (taskId : UuidV7) (actor : String) (principalId : Option String) (leaseMs : ℕ)
      (metadata : Metadata)
  | release (taskId : UuidV7) (actor : String) (principalId : Option String)
      (expectedRevision : Option ℕ) (reason : Option String) (force : Bool)
  deriving DecidableEq

/-- A document that `canonicalizeEffectJson` is asked to write. -/
inductive EffectDocument where
  | proposal (p : EffectProposal)
  | decision (d : EffectApprovalDecision)
  | request (r : EffectRequestEnvelope)
  | report (r : EffectReceiptReport)
  | permit (p : EffectDispatchPermitPayload)
  | object (o : EffectJsonObject)

/-- The platform under the effect ledger. -/
structure EffectRuntime extends Runtime where
  /-- The document stays within the limits of `canonicalizeEffectJson`. -/
  admits : EffectDocument → Bool
  /-- The digest of a canonical request in its domain. -/
  effectRequestDigest : EffectRequestEnvelope → Digest
  /-- The dispatch key of a workspace, an effect and a request digest. -/
  effectDispatchKey : String → UuidV7 → Digest → String
  /-- The digest of a canonical report in its domain. -/
  effectReceiptDigest : EffectReceiptReport → Digest
  /-- The digest of an idempotent request. -/
  retryDigest : RetryRequest → Digest
  /-- The digest of an idempotent request before scoped keys. -/
  legacyRetryDigest : RetryRequest → Digest

/-- `PrincipalContext`, at the time of the call. -/
structure PrincipalContext where
  actor : Option String
  principalId : Option String
  idempotencyKey : Option String
  now : UnixMs
  deriving DecidableEq

namespace EffectRuntime

variable (rt : EffectRuntime)

/-- The refusal of `canonicalizeEffectJson`. -/
def assertCanonical (d : EffectDocument) : Call Unit :=
  refuse (rt.admits d = false) (.error "Effect canonicalization rejects the document")

/-- `PreparedEffectRequest` -/
structure PreparedEffectRequest where
  request : EffectRequestEnvelope
  canonicalRequest : EffectRequestEnvelope
  requestDigest : Digest

/-- The secret bindings in the order of their names. -/
def sortBindings (bindings : List EffectSecretBinding) : List EffectSecretBinding :=
  bindings.insertionSort fun left right => utf16 left.name ≤ utf16 right.name

/-- A name that comes twice in a row. -/
def repeatedName : List EffectSecretBinding → Option String
  | a :: b :: rest => if a.name = b.name then some b.name else repeatedName (b :: rest)
  | _ => none

/-- `prepareEffectRequest` -/
def prepareEffectRequest (input : EffectRequestEnvelope) : Call PreparedEffectRequest := do
  rt.assertCanonical (.request input)
  let parsed := { input with secretBindings := sortBindings input.secretBindings }
  refuse (repeatedName parsed.secretBindings).isSome
    (.error ("Duplicate effect secret binding: "
      ++ (repeatedName parsed.secretBindings).getD ""))
  rt.assertCanonical (.request parsed)
  pure ⟨parsed, canonical parsed, rt.effectRequestDigest (canonical parsed)⟩

/-- `deriveEffectDispatchKey` -/
def deriveEffectDispatchKey (effectId : UuidV7) (prepared : PreparedEffectRequest) : String :=
  rt.effectDispatchKey prepared.request.workspaceId effectId prepared.requestDigest

/-- `PreparedEffectReceiptReport` -/
structure PreparedEffectReceiptReport where
  report : EffectReceiptReport
  canonicalReport : EffectReceiptReport
  receiptDigest : Digest

/-- `prepareEffectReceiptReport` -/
def prepareEffectReceiptReport (input : EffectReceiptReport) :
    Call PreparedEffectReceiptReport := do
  rt.assertCanonical (.report input)
  pure ⟨input, canonical input, rt.effectReceiptDigest (canonical input)⟩

/-! ### Reading stored rows -/

/-- `parseEffect` -/
def parseEffect (id : UuidV7) (row : Effect) : Call Effect := do
  let prepared ← rt.prepareEffectRequest row.request
  refuse (prepared.canonicalRequest ≠ row.request ∨ prepared.requestDigest ≠ row.requestDigest)
    (.error s!"Effect {id} request integrity mismatch")
  refuse (rt.deriveEffectDispatchKey id prepared ≠ row.dispatchIdempotencyKey)
    (.error s!"Effect {id} dispatch identity mismatch")
  refuse (¬ row.Refined) (.invalid "Effect")
  pure { row with request := prepared.request }

/-- `parseReceipt` -/
def parseReceipt (workspaceId : String) (id : UuidV7) (row : EffectReceipt) :
    Call EffectReceipt := do
  let prepared ← rt.prepareEffectReceiptReport row.report
  refuse (prepared.canonicalReport ≠ row.report ∨ prepared.receiptDigest ≠ row.receiptDigest)
    (.error s!"Effect receipt {id} integrity mismatch")
  refuse (canonical row.verification ≠ row.verification)
    (.error s!"Effect receipt {id} verification metadata is not canonical")
  refuse (¬ row.Refined workspaceId) (.invalid "EffectReceipt")
  pure { row with report := prepared.report }

end EffectRuntime

/-- `parseApproval` -/
def parseApproval (id : UuidV7) (row : EffectApproval) : Call EffectApproval := do
  refuse (canonical row.scope ≠ row.scope)
    (.error s!"Effect approval {id} contains non-canonical scope")
  refuse (canonical row.limits ≠ row.limits)
    (.error s!"Effect approval {id} contains non-canonical limits")
  refuse (canonical row.verification ≠ row.verification)
    (.error s!"Effect approval {id} contains non-canonical verification")
  refuse (¬ row.Refined) (.invalid "EffectApproval")
  pure row

namespace PrincipalContext

variable (ctx : PrincipalContext)

/-- `actorLabel` -/
def actorLabel (caller : Principal) : String :=
  (ctx.actor <|> caller.localAlias).getD caller.id

end PrincipalContext

/-! ### Idempotency -/

/-- `PreparedIdempotency` -/
structure PreparedIdempotency where
  callerScope : CallerScope
  operation : IdempotentOperation
  key : String
  requestDigest : Digest
  legacyRequestDigest : Digest
  expiresAt : Option UnixMs
  createdAt : UnixMs

/-- The text of an operation. -/
def IdempotentOperation.text : IdempotentOperation → String
  | .effectPropose => "effect.propose"
  | .effectApprovalRecord => "effect.approval.record"
  | .effectAuthorize => "effect.authorize"
  | .effectExecutionBegin => "effect.execution.begin"
  | .effectCancel => "effect.cancel"
  | .claimAcquire => "claim.acquire"
  | .claimRelease => "claim.release"

/-- The identity, as errors name it. -/
def PreparedIdempotency.text (p : PreparedIdempotency) : String :=
  s!"{p.callerScope.text}/{p.operation.text}/{p.key}"

/-- `idempotencyCallerScope` -/
def idempotencyCallerScope (ctx : PrincipalContext) : Call CallerScope :=
  match ctx.principalId with
  | some id => do
    bounded id "principalId" 980
    pure (.principal id)
  | none => do
    bounded (ctx.actor.getD "system") "actor" 500
    pure (.actor (ctx.actor.getD "system"))

/-- `prepareIdempotency`: a durable identity when no retention is given. -/
def prepareIdempotency (rt : EffectRuntime) (workspaceId : String) (ctx : PrincipalContext)
    (operation : IdempotentOperation) (request : RetryRequest) (retentionMs : Option ℕ) :
    Call (Option PreparedIdempotency) :=
  match ctx.idempotencyKey with
  | none => pure none
  | some key => do
    bounded key "idempotencyKey" 500
    bounded workspaceId "idempotency workspace" 500
    let expiresAt := retentionMs.map (ctx.now + ·)
    refuse (∃ t ∈ expiresAt, Json.maxSafeInteger < t)
      (.error "idempotency expiry exceeds unix-ms range")
    let callerScope ← idempotencyCallerScope ctx
    pure (some ⟨callerScope, operation, key, rt.retryDigest request, rt.legacyRetryDigest request,
      expiresAt, ctx.now⟩)

namespace EffectStore

variable (s : EffectStore)

/-- The row under an exact identity. -/
def retryRow (callerScope : CallerScope) (operation : IdempotentOperation) (key : String) :
    Option IdempotencyRecord :=
  s.retries.find? fun r => r.callerScope = callerScope ∧ r.operation = operation ∧ r.key = key

/-- The expired row of the exact identity is removed. -/
def dropExpired (p : PreparedIdempotency) : EffectStore :=
  { s with
    retries := s.retries.filter fun r => ¬ (r.callerScope = p.callerScope ∧
      r.operation = p.operation ∧ r.key = p.key ∧ ∃ t ∈ r.expiresAt, t ≤ p.createdAt) }

/-- `findIdempotencyResult` -/
def findIdempotencyResult (prepared : Option PreparedIdempotency) :
    Call (EffectStore × Option IdempotencyRecord) :=
  match prepared with
  | none => pure (s, none)
  | some p => do
    let s := s.dropExpired p
    let row := s.retryRow p.callerScope p.operation p.key <|> s.retryRow .legacy p.operation p.key
    refuse (∃ r ∈ row, r.requestDigest ≠
        if r.legacyDigest then p.legacyRequestDigest else p.requestDigest)
      (.error s!"Idempotency identity already used with a different request: {p.text}")
    pure (s, row)

/-- `saveIdempotencyResult` -/
def saveIdempotencyResult (prepared : Option PreparedIdempotency) (resultId : UuidV7)
    (resultRevision : Option ℕ) : Call EffectStore :=
  match prepared with
  | none => pure s
  | some p => do
    refuse (∃ n ∈ resultRevision, ¬ (0 < n ∧ n ≤ Json.maxSafeInteger))
      (.error "idempotency resultRevision must be a positive integer")
    refuse (s.retryRow p.callerScope p.operation p.key).isSome
      (.constraint "UNIQUE idempotency_key")
    pure { s with
      retries := s.retries ++ [⟨p.callerScope, p.operation, p.key, false, p.requestDigest,
        resultId, resultRevision, p.expiresAt⟩] }

/-! ### Attribution -/

variable (rt : EffectRuntime)

/-- `contextPrincipal` -/
def contextPrincipal (ctx : PrincipalContext) : Call (EffectStore × Principal) :=
  match ctx.principalId.filter (· ≠ "") with
  | some id => do
    let p ← demand (s.principals.find? (·.id = id))
      (.error s!"Principal not found in workspace: {id}")
    refuse (p.enabled = false) (.error s!"Principal is disabled: {p.id}")
    pure (s, p)
  | none => do
    let actor := ctx.actor.getD "system"
    let l ← s.ledger.ensureLocalPrincipal rt.toRuntime actor
    let p ← demand (l.principals.find? (·.localAlias = some actor))
      (.error s!"Failed to resolve local principal for {actor}")
    pure ({ s with principals := l.principals }, p)

/-- `recordEvent`, attributed to the caller under a label. -/
def recordEvent (label : String) (caller : Principal) : Call EffectStore := do
  let l ← s.ledger.recordEvent rt.toRuntime label (some caller.id)
  pure { s with principals := l.principals }

/-- `retryResult`: the store with the prior result and the identity to save. -/
def retryResult (ctx : PrincipalContext) (operation : IdempotentOperation)
    (request : RetryRequest) (retentionMs : Option ℕ) :
    Call (EffectStore × Option IdempotencyRecord × Option PreparedIdempotency) := do
  let identity ← prepareIdempotency rt s.workspaceId ctx operation request retentionMs
  let (s, prior) ← s.findIdempotencyResult identity
  pure (s, prior, identity)

/-- `getEffect` -/
def getEffect (id : UuidV7) : Call (Option Effect) :=
  match s.effects[id]? with
  | none => pure none
  | some row => some <$> rt.parseEffect id row

/-- `getEffectApproval` -/
def getEffectApproval (id : UuidV7) : Call (Option EffectApproval) :=
  match s.approvals[id]? with
  | none => pure none
  | some row => some <$> parseApproval id row

/-- `getEffectReceipt` -/
def getEffectReceipt (id : UuidV7) : Call (Option EffectReceipt) :=
  match s.receipts[id]? with
  | none => pure none
  | some row => some <$> rt.parseReceipt s.workspaceId id row

end EffectStore

end Tasq
