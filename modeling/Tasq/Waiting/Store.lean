import Mathlib.Tactic
import Tasq.Lib.Stable
import Tasq.Waiting.Evaluator
import Tasq.Work.TaskCalls
import Tasq.Work.Transition

/-! Typed waits: normalized observations, the reconciliation of a condition with a fact, and the
    deadline with its fallback.

    The observation kind of a row follows from its payload. Reading a row back parses what was
    written and is left out. -/

namespace Tasq

open Text Outcome

inductive VerificationLevel where
  | unverified | authenticatedSource | providerVerified
  deriving DecidableEq, Repr

/-- The text of a level. -/
def VerificationLevel.text : VerificationLevel → String
  | .unverified => "unverified"
  | .authenticatedSource => "authenticated_source"
  | .providerVerified => "provider_verified"

/-- The text of a status. -/
def WaitConditionStatus.text : WaitConditionStatus → String
  | .waiting => "waiting"
  | .satisfied => "satisfied"
  | .expired => "expired"
  | .cancelled => "cancelled"

/-- `CanonicalObservationContent`, apart from what the workspace and the payload fix. -/
structure ObservationContent where
  source : String
  externalEventId : String
  schemaVersion : ℕ
  payload : ObservationPayload
  occurredAt : UnixMs
  verificationLevel : VerificationLevel
  verificationMethod : Option String
  rawRef : Option String
  digest : Option String
  metadata : Metadata
  deriving DecidableEq

/-- `ObservationInsert` -/
structure ObservationInsert extends ObservationContent where
  id : Option UuidV7
  deriving DecidableEq

/-- A row of `observation`. -/
structure ObservationRow extends ObservationContent where
  recordedAt : UnixMs
  recordedBy : String
  deriving DecidableEq

/-- A row of `observation_route`. -/
structure ObservationRoute where
  observationId : UuidV7
  kind : String
  routeKey : Json
  deriving DecidableEq

inductive ReconciliationEffect where
  | satisfied | noChange | conditionTerminal
  deriving DecidableEq, Repr

/-- A row of `reconciliation`. -/
structure ReconciliationRow where
  conditionId : UuidV7
  observationId : UuidV7
  matcherKind : String
  matcherVersion : ℕ
  decision : ReconciliationDecision
  effect : ReconciliationEffect
  reasonCode : String
  explanation : String
  evidenceId : Option UuidV7
  reconciledAt : UnixMs
  reconciledBy : String
  deriving DecidableEq

/-- The work of one workspace, with the facts that its conditions wait for. -/
structure WaitStore where
  work : WorkStore
  observations : Table UuidV7 ObservationRow
  routes : List ObservationRoute
  reconciliations : Table UuidV7 ReconciliationRow
  /-- The ids that observations and reconciliations of the other workspaces have. -/
  otherIds : List UuidV7

/-- The ids that one evaluation of a condition would generate. -/
structure FreshIds where
  reconciliation : UuidV7 → UuidV7
  evidence : UuidV7 → UuidV7
  task : UuidV7

/-- `canonicalContent`: what the text that `stableSerialize` writes keeps. The keys of the other
    objects in it are fixed. -/
def ObservationContent.canonicalContent (rt : WorkRuntime) (c : ObservationContent) :
    ObservationContent :=
  { c with
    metadata :=
      ⟨(Json.stableValues rt.localeCompare c.metadata.fields).insertionSort
        (Json.KeyLE rt.localeCompare)⟩ }

/-- `observationRouteKeys` -/
def observationRouteKeys (id : UuidV7) (payload : ObservationPayload) : List ObservationRoute :=
  payload.routeKeys.dedup.map fun key => ⟨id, payload.kind, key⟩

/-- `evaluateWaitObservation` -/
def evaluateWaitObservation (condition : WaitRow) (observation : ObservationRow)
    (matcherVersion : ℕ) : Call MatchDecision := do
  let kind := condition.parameters.kind
  refuse (matcherVersion ≠ 1) (.error s!"Unsupported matcher version: {kind}@{matcherVersion}")
  refuse (condition.schemaVersion ≠ 1 ∨ observation.schemaVersion ≠ 1)
    (.error (s!"Matcher {kind}@{matcherVersion} does not support condition/observation schema " ++
      s!"versions {condition.schemaVersion}/{observation.schemaVersion}"))
  if observation.payload.kind = condition.parameters.observationKind ∧
      observation.occurredAt < condition.notBefore then
    pure ⟨.rejected, "occurred_before_not_before",
      "Observation occurred before the wait condition became eligible."⟩
  else pure (condition.parameters.evaluate observation.payload)

/-! ### Conditions -/

/-- The row of a new condition. -/
def WaitConditionInsert.row (parsed : WaitConditionInsert) (now : UnixMs) : WaitRow where
  taskId := parsed.taskId
  status := .waiting
  createdAt := now
  schemaVersion := parsed.schemaVersion
  parameters := parsed.parameters
  notBefore := parsed.notBefore.getD now
  deadlineAt := parsed.deadlineAt
  fallback := parsed.fallback
  fallbackResultTaskId := none
  supersedesConditionId := parsed.supersedesConditionId
  satisfiedByObservationId := none
  satisfiedAt := none
  expiredAt := none
  cancelledAt := none
  cancelReason := none
  updatedAt := now

/-! ### What a fallback creates -/

/-- The metadata with one field set: in place where it was there, else at the end. -/
def Metadata.setField (m : Metadata) (key : String) (value : Json) : Metadata :=
  if m.fields.any (·.1 = key) then
    ⟨m.fields.map fun field => if field.1 = key then (key, value) else field⟩
  else ⟨m.fields ++ [(key, value)]⟩

/-- `metadata.waitFallback` of a task that a fallback creates. -/
def fallbackMark (conditionId taskId : UuidV7) (deadlineAt : Option UnixMs) : Json :=
  .obj [("conditionId", .str s!"{conditionId}"), ("sourceTaskId", .str s!"{taskId}"),
    ("deadlineAt", (deadlineAt.map fun t => Json.num t).getD .null)]

/-- The task that a fallback creates. A scope that the fallback leaves open is that of the source
    task. -/
def fallbackTask (id conditionId : UuidV7) (condition : WaitRow) (spec : WaitFallbackSpec)
    (sourceTask : Task) : TaskInsert where
  id := id
  title := spec.title
  description := none
  nextAction := some spec.nextAction
  successCriteria := none
  completionMode := .assertion
  priority := spec.priority
  estimatedMinutes := none
  scheduledAt := spec.scheduledAt
  dueAt := spec.dueAt
  recurrence := none
  recurrenceInterval := ⟨1, Nat.one_pos⟩
  recurrenceAnchor := .due
  metadata := spec.metadata.setField "waitFallback"
    (fallbackMark conditionId condition.taskId condition.deadlineAt)
  projectId := spec.projectId.getD sourceTask.projectId
  goalId := spec.goalId.getD sourceTask.goalId
  areaId := spec.areaId.getD sourceTask.areaId
  parentTaskId := spec.parentTaskId.getD sourceTask.parentTaskId

namespace WorkStore

variable (s : WorkStore) (rt : WorkRuntime)

/-- `requireLiveNonterminalTask` -/
def requireLiveNonterminalTask (taskId : UuidV7) (label : String) : Call Task := do
  let found ← s.getTask taskId
  let linkedTask ← demand found (.error s!"{label} not found: {taskId}")
  refuse (linkedTask.deletedAt ≠ none) (.error s!"{label} is deleted: {taskId}")
  refuse (Ledger.Terminal linkedTask.status)
    (.error s!"{label} is terminal: {taskId} ({linkedTask.status.text})")
  pure linkedTask

/-- The checks on the condition that a new one supersedes. -/
def requireSuperseded (taskId : UuidV7) (supersedesConditionId : Option UuidV7) :
    Call (Option (UuidV7 × WaitRow)) :=
  match supersedesConditionId with
  | none => pure none
  | some id => do
    let superseded ← demand s.waits[id]? (.error s!"Superseded wait condition not found: {id}")
    refuse (superseded.taskId ≠ taskId)
      (.error "A wait condition may only supersede a condition on the same task")
    refuse (superseded.status ≠ .waiting)
      (.error s!"Wait condition {id} is already terminal ({superseded.status.text})")
    pure (some (id, superseded))

/-- The superseded condition is cancelled. -/
def cancelSuperseded (superseded : Option (UuidV7 × WaitRow)) (actor : String) (now : UnixMs) :
    Call WorkStore :=
  match superseded with
  | none => pure s
  | some (id, row) => do
    let (s, _) ← s.updateWait id row (·.cancelledAs "superseded" now)
    s.recordEvent rt actor none

/-- The transaction of `createWaitCondition`. -/
def performCreateWait (parsed : WaitConditionInsert) (actor : String) (now : UnixMs)
    (freshId : UuidV7) :
    Call (WorkStore × (UuidV7 × WaitRow) × Option (Retry.IdempotencyOutcome String)) := do
  let _ ← s.requireLiveNonterminalTask parsed.taskId "Task"
  let _ ← (fallbackTarget parsed.fallback).mapM
    (s.requireLiveNonterminalTask · "Fallback task")
  let superseded ← s.requireSuperseded parsed.taskId parsed.supersedesConditionId
  let id := parsed.id.getD freshId
  let row := parsed.row now
  let s ← s.insertWait id row
  let s ← s.cancelSuperseded rt superseded actor now
  let s ← s.recordEvent rt actor none
  pure (s, (id, row), some ⟨id, some "waiting", none, none⟩)

/-- The condition that a record of a call points at. -/
def priorWait (id : UuidV7) : Call (UuidV7 × WaitRow) := do
  let row ← demand s.waits[id]?
    (.error s!"Idempotency record points at missing wait condition {id}")
  pure (id, row)

/-- `createWaitCondition`, where `extension` refuses when the bundled extension is not there. -/
def createWaitCondition (parsed : WaitConditionInsert) (extension : Option String)
    (ctx : PrincipalContext) (freshId : UuidV7) : Call (WorkStore × UuidV7 × WaitRow) := do
  refuse (∃ n ∈ parsed.notBefore, ∃ d ∈ parsed.deadlineAt, d ≤ n) (.invalid "WaitConditionInsert")
  refuse (Json.maxSafeInteger < ctx.now) (.error "now must be a non-negative unix-ms integer")
  refuse (∃ d ∈ parsed.deadlineAt, d ≤ parsed.notBefore.getD ctx.now)
    (.error "deadlineAt must be strictly after notBefore")
  refuse (parsed.schemaVersion ≠ 1)
    (.error s!"Unsupported wait condition schema: {parsed.parameters.kind}@{parsed.schemaVersion}")
  passGate extension
  let identity ← s.prepareIdempotency rt ctx .waitCreate (.createWait parsed)
    (some (.createWait parsed))
  s.idempotent identity priorWait fun s =>
    s.performCreateWait rt parsed (ctx.actor.getD "system") ctx.now freshId

/-- `cancelWaitCondition` -/
def cancelWaitCondition (id : UuidV7) (reason : String) (ctx : PrincipalContext) :
    Call (WorkStore × WaitRow) := do
  refuse (Json.maxSafeInteger < ctx.now) (.error "now must be a non-negative unix-ms integer")
  let reason := jsTrim reason
  refuse (reason = "") (.error "Cancellation reason must not be empty")
  let before ← demand s.waits[id]? (.error s!"Wait condition not found: {id}")
  let recorded := before.cancelReason.getD "null"
  if before.status = .cancelled then do
    refuse (before.cancelReason ≠ some reason)
      (.error s!"Wait condition {id} is already cancelled with reason: {recorded}")
    pure (s, before)
  else do
    refuse (before.status ≠ .waiting)
      (.error s!"Wait condition {id} is terminal ({before.status.text}) and immutable")
    refuse (ctx.now < before.createdAt)
      (.error s!"Cancellation time {ctx.now} precedes condition creation {before.createdAt}")
    let (s, after) ← s.updateWait id before (·.cancelledAs reason ctx.now)
    let s ← s.recordEvent rt (ctx.actor.getD "system") none
    pure (s, after)

/-! ### Fallbacks -/

/-- The row that an activation leaves. -/
def activated (before : Task) (now : UnixMs) : Task :=
  { before with
    status := if before.status = .blocked then .open else before.status
    scheduledAt := none
    updatedAt := now
    revision := before.revision + 1 }

/-- `activateTaskInTransaction`: a blocked or scheduled task is written, the others stay. -/
def activateTaskInTransaction (id : UuidV7) (actor : String) (now : UnixMs) : Call WorkStore := do
  let found ← s.getTask id
  let before ← demand found (.error s!"Fallback task not found: {id}")
  refuse (before.deletedAt ≠ none) (.error s!"Fallback task is deleted: {id}")
  refuse (Ledger.Terminal before.status)
    (.error s!"Fallback task is terminal: {id} ({before.status.text})")
  Ledger.assertLiveAncestors before
  let s := { s with
    tasks :=
      if before.status = TaskStatus.blocked ∨ before.scheduledAt ≠ none then
        s.tasks.insert id (activated before now)
      else s.tasks }
  s.recordEvent rt actor none

/-- The idempotency key of the fallback of a condition. -/
def fallbackKey (conditionId : UuidV7) : String := s!"wait:{conditionId}:deadline-fallback:v1"

/-- The fallback of a condition that has expired, for the first time. -/
def performFallback (conditionId : UuidV7) (condition : WaitRow) (actor : String) (now : UnixMs)
    (freshId : UuidV7) :
    Call (WorkStore × UuidV7 × Option (Retry.IdempotencyOutcome String)) :=
  match condition.fallback with
  | .none => .error (.error "create_task fallback has no spec")
  | .activateTask targetTaskId => do
    let s ← s.activateTaskInTransaction rt targetTaskId actor now
    pure (s, targetTaskId, some ⟨targetTaskId, some "active", none, none⟩)
  | .createTask spec => do
    let found ← s.getTask condition.taskId
    let sourceTask ← demand (found.filter fun t => t.deletedAt = none)
      (.error s!"Wait source task is missing or deleted: {condition.taskId}")
    let (l, _) ← s.ledger.createTaskInTransaction rt.toRuntime
      (fallbackTask freshId conditionId condition spec sourceTask) ⟨actor, none, now⟩
    pure (s.absorb l now, freshId, some ⟨freshId, some "active", none, none⟩)

/-- The task that the record of a fallback points at. -/
def priorFallback (id : UuidV7) : Call UuidV7 := do
  let found ← s.getTask id
  refuse (found = none) (.error s!"Deadline fallback points at missing task {id}")
  pure id

/-- `materializeFallback` -/
def materializeFallback (conditionId : UuidV7) (condition : WaitRow) (actor : String)
    (now : UnixMs) (freshId : UuidV7) : Call (WorkStore × Option UuidV7) :=
  if condition.fallback = .none then pure (s, none)
  else do
    let request := WorkRequest.fallback conditionId condition.fallback
    let identity ← s.prepareDurable rt
      { actor := some actor, principalId := none, idempotencyKey := some (fallbackKey conditionId),
        now := now }
      .waitFallback request (some request)
    let (s, id) ← s.idempotent identity priorFallback fun s =>
      s.performFallback rt conditionId condition actor now freshId
    pure (s, some id)

/-- The trigger on an expiry: the result of the fallback is the one that the condition asks for. -/
def FallbackResult (conditionId : UuidV7) (condition : WaitRow) (resultId : Option UuidV7) : Prop :=
  match condition.fallback with
  | .none => True
  | .activateTask targetTaskId => resultId = some targetTaskId ∧ s.HasOpenTask targetTaskId
  | .createTask _ => ∃ id ∈ resultId, ∃ row ∈ s.tasks[id]?, row.deletedAt = none ∧
      ("waitFallback", fallbackMark conditionId condition.taskId condition.deadlineAt) ∈
        row.metadata.fields

instance decidableFallbackResult (conditionId : UuidV7) (condition : WaitRow)
    (resultId : Option UuidV7) : Decidable (s.FallbackResult conditionId condition resultId) := by
  unfold FallbackResult
  cases condition.fallback <;> infer_instance

/-- The update that lets a waiting condition expire. -/
def expireWait (id : UuidV7) (resultId : Option UuidV7) (now : UnixMs) : Call WorkStore :=
  match s.waits[id]?.filter (·.status = .waiting) with
  | none => pure s
  | some w => do
    refuse (¬ s.FallbackResult id w resultId) (.constraint "invalid wait deadline fallback result")
    let (s, _) ← s.updateWait id w fun w =>
      { w with
        status := .expired
        expiredAt := some now
        fallbackResultTaskId := resultId
        updatedAt := now }
    pure s

end WorkStore

namespace WaitStore

variable (s : WaitStore) (rt : WorkRuntime)

/-! ### Observations -/

/-- `getObservationByDelivery` -/
def getObservationByDelivery (source externalEventId : String) : Option (UuidV7 × ObservationRow) :=
  (Table.rows s.observations fun _ o =>
    o.source = source && o.externalEventId = externalEventId).head?

/-- A text that is there is not blank. -/
def Stated (text : Option String) : Prop := ∀ t ∈ text, sqlTrim t ≠ ""

instance decidableStated (text : Option String) : Decidable (Stated text) := by
  unfold Stated; infer_instance

/-- `INSERT INTO observation`, with its routes. -/
def insertObservation (id : UuidV7) (o : ObservationRow) : Call WaitStore := do
  refuse (sqlTrim o.source = "" ∨ sqlTrim o.externalEventId = "" ∨ sqlTrim o.recordedBy = "" ∨
      ¬ Stated o.verificationMethod ∨ ¬ Stated o.rawRef ∨ ¬ Stated o.digest)
    (.constraint "invalid observation invariant")
  refuse (id ∈ s.observations ∨ id ∈ s.otherIds) (.constraint "UNIQUE observation.id")
  pure { s with
    observations := s.observations.insert id o
    routes := s.routes ++ observationRouteKeys id o.payload }

/-- `ingestObservation`: a delivery that came before is answered with its row. -/
def ingestObservation (parsed : ObservationInsert) (extension : Option String)
    (actor : Option String) (now : UnixMs) (freshId : UuidV7) :
    Call (WaitStore × UuidV7 × ObservationRow) := do
  refuse ((parsed.verificationLevel ≠ .unverified ∧ parsed.verificationMethod = none) ∨
      parsed.rawRef.isSome ∧ parsed.digest = none)
    (.invalid "ObservationInsert")
  refuse (Blank parsed.source) (.error "Observation source must not be blank")
  refuse (Blank parsed.externalEventId) (.error "Observation externalEventId must not be blank")
  let recordedBy := actor.getD "system"
  refuse (Blank recordedBy) (.error "Observation actor must not be blank")
  refuse (Json.maxSafeInteger < now) (.error "now must be a non-negative unix-ms integer")
  refuse (parsed.schemaVersion ≠ 1)
    (.error s!"Unsupported observation schema: {parsed.payload.kind}@{parsed.schemaVersion}")
  passGate extension
  match s.getObservationByDelivery parsed.source parsed.externalEventId with
  | some prior => do
    refuse (prior.2.canonicalContent rt ≠ parsed.canonicalContent rt)
      (.error ("Observation delivery identity reused with different content: " ++
        s!"{parsed.source}/{parsed.externalEventId}"))
    pure (s, prior)
  | none => do
    let id := parsed.id.getD freshId
    let row : ObservationRow := ⟨parsed.toObservationContent, now, recordedBy⟩
    let s ← s.insertObservation id row
    pure (s, id, row)

/-! ### Reconciliation -/

/-- `getReconciliationByEvaluation` -/
def getReconciliationByEvaluation (conditionId observationId : UuidV7) (matcherVersion : ℕ) :
    Option (UuidV7 × ReconciliationRow) :=
  (Table.rows s.reconciliations fun _ r => r.conditionId = conditionId &&
    r.observationId = observationId && r.matcherVersion = matcherVersion).head?

/-- `INSERT INTO reconciliation` -/
def insertReconciliation (id : UuidV7) (r : ReconciliationRow) : Call WaitStore := do
  refuse (sqlTrim r.reconciledBy = "" ∨
      (¬ ∃ w ∈ s.work.waits[r.conditionId]?, w.createdAt ≤ r.reconciledAt) ∨
      (¬ ∃ o ∈ s.observations[r.observationId]?, o.recordedAt ≤ r.reconciledAt) ∨
      (∃ e ∈ r.evidenceId, ¬ ∃ row ∈ s.work.evidence[e]?,
        ∃ w ∈ s.work.waits[r.conditionId]?, row.taskId = w.taskId) ∨
      (r.effect = .satisfied ∧ ¬ ∃ w ∈ s.work.waits[r.conditionId]?, w.status = .satisfied ∧
        w.satisfiedByObservationId = some r.observationId) ∨
      (r.effect = .conditionTerminal ∧ ∃ w ∈ s.work.waits[r.conditionId]?, w.status = .waiting))
    (.constraint "invalid reconciliation invariant")
  refuse (id ∈ s.reconciliations ∨ id ∈ s.otherIds) (.constraint "UNIQUE reconciliation.id")
  pure { s with reconciliations := s.reconciliations.insert id r }

/-- What a decision does to the condition, with its reason. -/
def effectOf (condition : WaitRow) (observed : ObservationRow) (found : MatchDecision) :
    ReconciliationEffect × String × String :=
  if found.decision ≠ .matched then (.noChange, found.reasonCode, found.explanation)
  else if condition.status ≠ .waiting then
    (.conditionTerminal, s!"condition_already_{condition.status.text}",
      s!"The typed fact matched, but the condition was already {condition.status.text}.")
  else if ∃ d ∈ condition.deadlineAt, d ≤ observed.occurredAt ∨ d ≤ observed.recordedAt then
    (.noChange, "observation_not_before_deadline",
      "The typed fact matched, but it was not both occurred and recorded strictly before the deadline.")
  else (.satisfied, found.reasonCode, found.explanation)

/-- The evidence that a satisfied condition leaves. -/
def matchEvidence (reconciliationId conditionId observationId : UuidV7) (condition : WaitRow)
    (observed : ObservationRow) (matcherVersion : ℕ) (actor : String) (attribution : Principal)
    (now : UnixMs) : EvidenceRow where
  taskId := condition.taskId
  attemptId := none
  supersedesEvidenceId := none
  actor := actor
  principalId := some attribution.id
  kind := "wait_match"
  summary := some s!"Typed {condition.parameters.kind} condition matched observation {observationId}"
  uri := observed.rawRef
  digest := observed.digest
  source := some observed.source
  observedAt := observed.occurredAt
  metadata := ⟨[("waitConditionId", .str s!"{conditionId}"),
    ("observationId", .str s!"{observationId}"),
    ("reconciliationId", .str s!"{reconciliationId}"),
    ("matcherVersion", .num matcherVersion),
    ("verificationLevel", .str observed.verificationLevel.text)]⟩
  createdAt := now

/-- A satisfied condition is written, and the evidence of it is stored. -/
def applyEffect (effect : ReconciliationEffect)
    (reconciliationId evidenceId conditionId observationId : UuidV7) (condition : WaitRow)
    (observed : ObservationRow) (matcherVersion : ℕ) (ctx : PrincipalContext) : Call WaitStore :=
  if effect = .satisfied then do
    let actor := ctx.actor.getD "system"
    let (work, attribution) ← s.work.resolveCallerPrincipal rt ctx
    let (work, _) ← work.updateWait conditionId condition fun w =>
      { w with
        status := .satisfied
        satisfiedAt := some ctx.now
        satisfiedByObservationId := some observationId
        updatedAt := ctx.now }
    let work ← work.insertEvidence evidenceId (matchEvidence reconciliationId conditionId
      observationId condition observed matcherVersion actor attribution ctx.now)
    pure { s with work := work }
  else pure s

/-- The events of a reconciliation. -/
def recordReconciled (effect : ReconciliationEffect) (ctx : PrincipalContext) : Call WaitStore := do
  let actor := ctx.actor.getD "system"
  let work ← s.work.recordEvent rt actor ctx.principalId
  if effect = .satisfied then do
    let work ← work.recordEvent rt actor ctx.principalId
    let work ← work.recordEvent rt actor ctx.principalId
    pure { s with work := work }
  else pure { s with work := work }

/-- `reconcileWaitObservationInTransaction` -/
def reconcileInTransaction (conditionId observationId : UuidV7) (matcherVersion : ℕ)
    (ctx : PrincipalContext) (fresh : FreshIds) : Call (WaitStore × UuidV7 × ReconciliationRow) :=
  match s.getReconciliationByEvaluation conditionId observationId matcherVersion with
  | some prior => pure (s, prior)
  | none => do
    let condition ← demand s.work.waits[conditionId]?
      (.error s!"Wait condition not found: {conditionId}")
    let observed ← demand s.observations[observationId]?
      (.error s!"Observation not found: {observationId}")
    refuse (ctx.now < condition.createdAt ∨ ctx.now < observed.recordedAt)
      (.error "reconciledAt cannot precede condition creation or observation ingestion")
    let found ← evaluateWaitObservation condition observed matcherVersion
    let decided := effectOf condition observed found
    let id := fresh.reconciliation observationId
    let evidenceId := fresh.evidence observationId
    let s ← s.applyEffect rt decided.1 id evidenceId conditionId observationId condition observed
      matcherVersion ctx
    let row : ReconciliationRow :=
      { conditionId := conditionId
        observationId := observationId
        matcherKind := condition.parameters.kind
        matcherVersion := matcherVersion
        decision := found.decision
        effect := decided.1
        reasonCode := decided.2.1
        explanation := decided.2.2
        evidenceId := if decided.1 = .satisfied then some evidenceId else none
        reconciledAt := ctx.now
        reconciledBy := ctx.actor.getD "system" }
    let s ← s.insertReconciliation id row
    let s ← s.recordReconciled rt decided.1 ctx
    pure (s, id, row)

/-- `reconcileWaitObservation` -/
def reconcileWaitObservation (conditionId observationId : UuidV7) (matcherVersion : Option ℕ)
    (ctx : PrincipalContext) (fresh : FreshIds) :
    Call (WaitStore × UuidV7 × ReconciliationRow) := do
  refuse (Blank (ctx.actor.getD "system")) (.error "Reconciliation actor must not be blank")
  refuse (matcherVersion = some 0) (.error "matcherVersion must be a positive integer")
  refuse (Json.maxSafeInteger < ctx.now) (.error "now must be a non-negative unix-ms integer")
  s.reconcileInTransaction rt conditionId observationId (matcherVersion.getD 1) ctx fresh

/-! ### Deadlines -/

/-- `listCandidateObservations`, of facts that occurred and were recorded before an instant. The
    limit of the sweep, the largest 32-bit integer, stands for none. -/
def listCandidateObservations (condition : WaitRow) (before : UnixMs) : List UuidV7 :=
  let kind := condition.parameters.observationKind
  let routeKey := condition.parameters.routeKey
  let candidates := Table.rows s.observations fun id o =>
    s.routes.contains ⟨id, kind, routeKey⟩ && decide (condition.notBefore ≤ o.occurredAt) &&
      decide (o.occurredAt < before) && decide (o.recordedAt < before)
  (candidates.insertionSort fun a b => a.2.recordedAt < b.2.recordedAt ∨
    a.2.recordedAt = b.2.recordedAt ∧ a.1 ≤ b.1).map Prod.fst

/-- The loop over the candidates: it ends when one of them satisfies the condition. -/
def reconcileCandidates (conditionId : UuidV7) (matcherVersion : ℕ) (ctx : PrincipalContext)
    (fresh : FreshIds) : List UuidV7 → WaitStore → Call (WaitStore × Bool)
  | [], s => pure (s, false)
  | observationId :: rest, s => do
    let (s, reconciliation) ←
      s.reconcileInTransaction rt conditionId observationId matcherVersion ctx fresh
    if reconciliation.2.effect = .satisfied then pure (s, true)
    else reconcileCandidates conditionId matcherVersion ctx fresh rest s

inductive DeadlineEvaluationOutcome where
  | satisfied | expired | alreadyTerminal | notDue
  deriving DecidableEq, Repr

/-- `EvaluateDeadlineOptions` -/
structure EvaluateDeadlineOptions where
  actor : Option String
  matcherVersion : Option ℕ
  sweepNow : UnixMs
  deriving DecidableEq

/-- `evaluateWaitConditionDeadline` -/
def evaluateWaitConditionDeadline (conditionId : UuidV7) (options : EvaluateDeadlineOptions)
    (fresh : FreshIds) : Call (WaitStore × DeadlineEvaluationOutcome) := do
  let actor := options.actor.getD "deadline-sweeper"
  refuse (Blank actor) (.error "Deadline actor must not be blank")
  refuse (options.matcherVersion = some 0) (.error "matcherVersion must be a positive integer")
  let matcherVersion := options.matcherVersion.getD 1
  let sweepNow := options.sweepNow
  refuse (Json.maxSafeInteger < sweepNow) (.error "sweepNow must be a non-negative unix-ms integer")
  let initial ← demand s.work.waits[conditionId]?
    (.error s!"Wait condition not found: {conditionId}")
  match initial.status, initial.deadlineAt.filter (· ≤ sweepNow) with
  | .waiting, some deadlineAt => do
    refuse (matcherVersion ≠ 1)
      (.error s!"Unsupported matcher version: {initial.parameters.kind}@{matcherVersion}")
    let ctx : PrincipalContext :=
      { actor := some actor, principalId := none, idempotencyKey := none, now := sweepNow }
    let (s, satisfied) ← reconcileCandidates rt conditionId matcherVersion ctx fresh
      (s.listCandidateObservations initial deadlineAt) s
    if satisfied then pure (s, .satisfied)
    else do
      let (work, resultId) ←
        s.work.materializeFallback rt conditionId initial actor sweepNow fresh.task
      let work ← work.expireWait conditionId resultId sweepNow
      let work ← work.recordEvent rt actor none
      pure ({ s with work := work }, .expired)
  | .waiting, none => pure (s, .notDue)
  | _, _ => pure (s, .alreadyTerminal)

/-- The conditions that a sweep evaluates. -/
def dueConditions (sweepNow : UnixMs) (limit : ℕ) : List UuidV7 :=
  let due := Table.rows s.work.waits fun _ w => decide (w.status = .waiting) &&
    w.deadlineAt.any (· ≤ sweepNow)
  ((due.insertionSort fun a b => a.2.deadlineAt.getD 0 < b.2.deadlineAt.getD 0 ∨
    a.2.deadlineAt = b.2.deadlineAt ∧ a.1 ≤ b.1).map Prod.fst).take limit

/-- One evaluation of a sweep, in a transaction of its own. -/
def sweepOne (options : EvaluateDeadlineOptions) (fresh : UuidV7 → FreshIds) (s : WaitStore)
    (conditionId : UuidV7) : WaitStore :=
  settle s (Prod.fst <$> s.evaluateWaitConditionDeadline rt conditionId options (fresh conditionId))

/-- `sweepWaitConditionDeadlines` -/
def sweepWaitConditionDeadlines (limit : Option ℕ) (options : EvaluateDeadlineOptions)
    (fresh : UuidV7 → FreshIds) : Call WaitStore := do
  refuse (Json.maxSafeInteger < options.sweepNow)
    (.error "sweepNow must be a non-negative unix-ms integer")
  refuse (∃ n ∈ limit, n = 0 ∨ 10000 < n) (.error "limit must be an integer between 1 and 10000")
  pure ((s.dueConditions options.sweepNow (limit.getD 100)).foldl (sweepOne rt options fresh) s)

end WaitStore

end Tasq
