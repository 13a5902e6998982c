import Mathlib.Tactic
import Tasq.EffectLedger.Run
import Tasq.Work.Store
import Tasq.Work.TaskMoves

/-! Calls on the work of a workspace: what they ask, who makes them, and the replay of an idempotent
    one. `Works` says what a call does to the tasks and to what is open on them. -/

namespace Tasq

open Text Outcome OpenRows

/-! ### What is asked -/

/-- `StatusChangeOptions`, with the id that the record of a completion would get and that of the
    next instance of a recurring task, where the host materializes one. -/
structure StatusChangeOptions where
  expectedRevision : Option ℕ
  reason : Option String
  note : Option String
  source : Option String
  occurredAt : Option UnixMs
  evidenceIds : List UuidV7
  validationDecisionId : Option UuidV7
  force : Bool
  completionRecordId : UuidV7
  nextInstanceId : Option UuidV7
  deriving DecidableEq

/-- `StartAttemptOptions` -/
structure StartAttemptOptions where
  claimId : Option UuidV7
  runtime : Option String
  externalId : Option String
  contextId : Option String
  metadata : Metadata
  occurredAt : Option UnixMs
  deriving DecidableEq

/-- `TransitionAttemptOptions` -/
structure TransitionAttemptOptions where
  expectedRevision : Option ℕ
  message : Option String
  occurredAt : Option UnixMs
  deriving DecidableEq

/-- `WaitConditionInsert` -/
structure WaitConditionInsert where
  id : Option UuidV7
  taskId : UuidV7
  schemaVersion : ℕ
  parameters : WaitParameters
  notBefore : Option UnixMs
  deadlineAt : Option UnixMs
  fallback : WaitFallback
  supersedesConditionId : Option UuidV7
  deriving DecidableEq

/-- The premise that `createTaskWithPremise` is asked for. -/
structure PremiseInput where
  observationId : UuidV7
  proposition : String
  eligibleValidatorPrincipalIds : List String
  adjudicatorPrincipalIds : List String
  allowSelfValidation : Bool
  deriving DecidableEq

/-- What a premise mutation asks. -/
inductive PremiseMutation where
  | propose (verdict : PremiseVerdict) (evidenceIds : List UuidV7) (rationale : String)
  | challenge (proposalId : UuidV7) (counterEvidenceIds : List UuidV7) (rationale : String)
  | decide (proposalId : UuidV7) (outcome : PremiseOutcome) (rationale : String)
  deriving DecidableEq

/-- The observation of what an attempt has cost. -/
structure CostObservation where
  meterUri : String
  observationId : String
  currency : String
  grossMicros : String
  observedAt : UnixMs
  basis : String
  deriving DecidableEq

/-- What the digest of an idempotent request is taken of. -/
inductive WorkRequest where
  | createTask (input : TaskInsert) (actor : String) (principalId : Option String)
  | updateTask (taskId : UuidV7) (patch : TaskUpdate) (expectedRevision : Option ℕ)
  | transition (taskId : UuidV7) (status : TaskStatus) (expectedRevision : Option ℕ)
      (reason note source : Option String) (occurredAt : Option UnixMs) (evidenceIds : List UuidV7)
      (validationDecisionId : Option UuidV7)
  | startAttempt (taskId : UuidV7) (actor : String) (principalId : Option String)
      (claimId : Option UuidV7) (runtime : String) (externalId contextId : Option String)
      (metadata : Metadata)
  | transitionAttempt (attemptId : UuidV7) (status : AttemptStatus) (actor : String)
      (principalId : Option String) (expectedRevision : Option ℕ) (message : Option String)
      (occurredAt : Option UnixMs)
  | recordCost (attemptId taskId : UuidV7) (observation : CostObservation)
  | createWait (input : WaitConditionInsert)
  | fallback (conditionId : UuidV7) (fallback : WaitFallback)
  | createWithPremise (task : TaskInsert) (premise : PremiseInput)
  | premise (taskId : UuidV7) (mutation : PremiseMutation)

/-- The platform under the work of a workspace. -/
structure WorkRuntime extends EffectRuntime where
  /-- The digest of an idempotent request. -/
  requestDigest : WorkRequest → Digest
  /-- The digest of an idempotent request before scoped keys. -/
  legacyDigest : WorkRequest → Digest
  /-- The digest of what a completion without decision rests on: task, resulting revision, policy
      and evidence. -/
  completionDigest : UuidV7 → ℕ → String → List UuidV7 → Digest
  /-- The digest of a cost observation. -/
  costDigest : UuidV7 → UuidV7 → CostObservation → Digest
  /-- `String.prototype.normalize("NFC")` -/
  nfc : String → String
  /-- `String.prototype.toLowerCase` -/
  toLowerCase : String → String
  /-- `String.prototype.localeCompare` -/
  localeCompare : String → String → Ordering
  /-- The comparison is a consistent one, as its documentation says. -/
  localeOrder : Std.TransCmp localeCompare

/-- `[...new Set(ids)].sort()` -/
def sortedIds (ids : List UuidV7) : List UuidV7 := ids.dedup.insertionSort (· ≤ ·)

namespace WorkStore

variable (s : WorkStore) (rt : WorkRuntime)

/-! ### Attribution -/

/-- `resolveCallerPrincipal` -/
def resolveCallerPrincipal (ctx : PrincipalContext) : Call (WorkStore × Principal) := do
  let (e, caller) ← s.view.contextPrincipal rt.toEffectRuntime ctx
  pure ({ s with principals := e.principals }, caller)

/-- `recordEvent`, attributed to a named principal or to the local actor. -/
def recordEvent (actor : String) (principalId : Option String) : Call WorkStore := do
  let l ← s.ledger.recordEvent rt.toRuntime actor principalId
  pure { s with principals := l.principals }

/-- `getTask` -/
def getTask (id : UuidV7) : Call (Option Task) := s.ledger.getTask id

/-! ### Idempotency -/

/-- `prepareIdempotency`, of a caller in a context. -/
def prepareIdempotency (ctx : PrincipalContext) (operation : WorkOperation)
    (request : WorkRequest) (legacyRequest : Option WorkRequest) :
    Call (Option (Retry.Identity WorkOperation)) :=
  Retry.prepareIdempotency s.workspaceId (ctx.actor.getD "system") ctx.principalId
    ctx.idempotencyKey operation (rt.requestDigest request) (legacyRequest.map rt.legacyDigest)
    ctx.now

/-- `prepareIdempotency`, with durable retention. -/
def prepareDurable (ctx : PrincipalContext) (operation : WorkOperation) (request : WorkRequest)
    (legacyRequest : Option WorkRequest) : Call (Option (Retry.Identity WorkOperation)) :=
  match ctx.idempotencyKey with
  | none => pure none
  | some key => do
    bounded key "idempotencyKey" 500
    bounded s.workspaceId "idempotency workspace" 500
    let callerScope ← Retry.idempotencyCallerScope (ctx.actor.getD "system") ctx.principalId
    pure (some ⟨callerScope, operation, key, rt.requestDigest request,
      legacyRequest.map rt.legacyDigest, none, ctx.now⟩)

/-- One idempotent transaction: it replays the earlier result, or performs the call and keeps its
    result. -/
def idempotent {β : Type} (identity : Option (Retry.Identity WorkOperation))
    (replay : WorkStore → UuidV7 → Call β)
    (perform : WorkStore → Call (WorkStore × β × Option (Retry.IdempotencyOutcome String))) :
    Call (WorkStore × β) := do
  let (retries, prior) ← Retry.findIdempotencyResult s.retries identity
  let s := { s with retries := retries }
  match prior with
  | some record => do
    let result ← replay s record.resultId
    pure (s, result)
  | none => do
    let (s, result, outcome) ← perform s
    match outcome with
    | none => pure (s, result)
    | some outcome => do
      let retries ← Retry.saveIdempotencyResult s.retries identity outcome
      pure ({ s with retries := retries }, result)

/-- The task that a record of a call points at. -/
def priorTask (id : UuidV7) : Call Task := do
  let found ← s.getTask id
  demand found (.error s!"Idempotency record points at missing task {id}")

/-! ### What a call does to the rows -/

/-- The tasks, with what is open on them. -/
def rows : OpenRows := s.ledger.rows

end WorkStore

/-- The claim stays as it is, or is released. -/
def LeasedClaim.Fades (c c' : LeasedClaim) : Prop :=
  c' = c ∨ c.releasedAt = none ∧ ∃ t reason updatedAt revision, c' =
    { c with
      releasedAt := some t
      releaseReason := reason
      updatedAt := updatedAt
      revision := revision }

theorem LeasedClaim.Fades.trans (a b c : LeasedClaim) (h : a.Fades b) (h' : b.Fades c) :
    a.Fades c := by
  rcases h with rfl | ⟨hopen, t, reason, updatedAt, revision, rfl⟩
  · exact h'
  · rcases h' with rfl | ⟨hopen', -⟩
    · exact .inr ⟨hopen, t, reason, updatedAt, revision, rfl⟩
    · simp at hopen'

/-- The claim as the moves see it fades too. -/
theorem LeasedClaim.Fades.toTaskClaim (c c' : LeasedClaim) (h : c.Fades c') :
    c.toTaskClaim.Fades c'.toTaskClaim := by
  rcases h with rfl | ⟨hopen, t, reason, updatedAt, revision, rfl⟩
  · exact .inl rfl
  · exact .inr ⟨hopen, t, rfl⟩

theorem LeasedClaim.Fades.released (c : LeasedClaim) (reason : String) (now : UnixMs)
    (h : c.releasedAt = none) : c.Fades (c.releasedAs reason now) :=
  .inr ⟨h, now, some reason, now, c.revision + 1, rfl⟩

namespace WorkStore

variable {s s' s₁ s₂ : WorkStore} {rt : WorkRuntime} {P Q : Move → Prop}

@[simp] theorem rows_tasks : s.rows.tasks = s.tasks := rfl

/-- The verb takes admitted moves, and no claim but a released one changes. -/
structure Works (P : Move → Prop) (s s' : WorkStore) : Prop where
  path : OpenRows.Path P s.rows s'.rows
  claims : Table.Revised LeasedClaim.Fades s.claims s'.claims

theorem Works.of_rows (h : s'.toWorkRows = s.toWorkRows) : Works P s s' := by
  have hrows : s'.rows = s.rows := by
    have htasks : s'.tasks = s.tasks := congrArg WorkRows.tasks h
    have hclaims : s'.claims = s.claims := congrArg WorkRows.claims h
    have hattempts : s'.attempts = s.attempts := congrArg WorkRows.attempts h
    have hwaits : s'.waits = s.waits := congrArg WorkRows.waits h
    simp [rows, ledger, Ledger.rows, htasks, hclaims, hattempts, hwaits]
  refine ⟨.of_eq hrows, ?_⟩
  rw [congrArg WorkRows.claims h]
  exact .refl (fun _ => .inl rfl) _

theorem Works.refl (s : WorkStore) : Works P s s := .of_rows rfl

theorem Works.trans (h : Works P s s₁) (h' : Works P s₁ s₂) : Works P s s₂ :=
  ⟨h.path.append h'.path, h.claims.trans LeasedClaim.Fades.trans h'.claims⟩

theorem Works.mono (hPQ : ∀ m, P m → Q m) (h : Works P s s') : Works Q s s' :=
  ⟨h.path.mono hPQ, h.claims⟩

/-- What comes before and after touches other tables only. -/
theorem Works.between (h : Works P s₁ s₂) (hbefore : s₁.toWorkRows = s.toWorkRows)
    (hafter : s'.toWorkRows = s₂.toWorkRows) : Works P s s' :=
  (Works.of_rows hbefore).trans (h.trans (.of_rows hafter))

/-- A move that leaves the claims alone. -/
theorem Works.move {m : Move} (hm : P m) (hclaims : s'.claims = s.claims)
    (htakes : s.rows.Takes s'.rows m) : Works P s s' := by
  refine ⟨.one hm htakes, ?_⟩
  rw [hclaims]
  exact .refl (fun _ => .inl rfl) _

/-! ### Bookkeeping -/

theorem resolveCallerPrincipal_eq {ctx : PrincipalContext} {caller : Principal}
    (h : s.resolveCallerPrincipal rt ctx = .ok (s', caller)) :
    s' = { s with principals := s'.principals } := by
  simp only [resolveCallerPrincipal, bind_eq_ok, Prod.exists, pure_eq_ok, Prod.mk.injEq] at h
  obtain ⟨e, _, -, rfl, -⟩ := h
  rfl

theorem recordEvent_eq {actor : String} {principalId : Option String}
    (h : s.recordEvent rt actor principalId = .ok s') :
    s' = { s with principals := s'.principals } := by
  simp only [recordEvent, bind_eq_ok, pure_eq_ok] at h
  obtain ⟨l, -, rfl⟩ := h
  rfl

theorem resolveCallerPrincipal_rows {ctx : PrincipalContext} {caller : Principal}
    (h : s.resolveCallerPrincipal rt ctx = .ok (s', caller)) : s'.toWorkRows = s.toWorkRows := by
  rw [resolveCallerPrincipal_eq h]

theorem recordEvent_rows {actor : String} {principalId : Option String}
    (h : s.recordEvent rt actor principalId = .ok s') : s'.toWorkRows = s.toWorkRows := by
  rw [recordEvent_eq h]

/-- IDEMPOTENT: an idempotent call replays, or performs. Both times only records of calls change
    around it. -/
theorem idempotent_eq_ok {β : Type} {identity : Option (Retry.Identity WorkOperation)}
    {replay : WorkStore → UuidV7 → Call β}
    {perform : WorkStore → Call (WorkStore × β × Option (Retry.IdempotencyOutcome String))}
    {result : β} (h : s.idempotent identity replay perform = .ok (s', result)) :
    (∃ retries, s' = { s with retries := retries }) ∨
      ∃ retries s₁ outcome retries',
        perform { s with retries := retries } = .ok (s₁, result, outcome) ∧
          s' = { s₁ with retries := retries' } := by
  simp only [idempotent, bind_eq_ok, Prod.exists] at h
  obtain ⟨retries, prior, -, h⟩ := h
  cases prior with
  | some record =>
    simp only [bind_eq_ok, pure_eq_ok, Prod.mk.injEq] at h
    obtain ⟨_, -, rfl, -⟩ := h
    exact .inl ⟨retries, rfl⟩
  | none =>
    simp only [bind_eq_ok, Prod.exists] at h
    obtain ⟨s₁, _, outcome, hperform, h⟩ := h
    cases outcome with
    | none =>
      simp only [pure_eq_ok, Prod.mk.injEq] at h
      obtain ⟨rfl, rfl⟩ := h
      exact .inr ⟨retries, s₁, none, s₁.retries, hperform, rfl⟩
    | some outcome =>
      simp only [bind_eq_ok, pure_eq_ok, Prod.mk.injEq] at h
      obtain ⟨retries', -, rfl, rfl⟩ := h
      exact .inr ⟨retries, s₁, some outcome, retries', hperform, rfl⟩

/-- IDEMPOTENT: what every performance does to the rows, the idempotent call does at most. -/
theorem idempotent_works {β : Type} {identity : Option (Retry.Identity WorkOperation)}
    {replay : WorkStore → UuidV7 → Call β}
    {perform : WorkStore → Call (WorkStore × β × Option (Retry.IdempotencyOutcome String))}
    {result : β} (h : s.idempotent identity replay perform = .ok (s', result))
    (hperform : ∀ retries s₁ outcome,
      perform { s with retries := retries } = .ok (s₁, result, outcome) →
        Works P { s with retries := retries } s₁) : Works P s s' := by
  obtain ⟨retries, rfl⟩ | ⟨retries, s₁, outcome, retries', hrun, rfl⟩ := idempotent_eq_ok h
  · exact .of_rows rfl
  · exact (hperform retries s₁ outcome hrun).between rfl rfl

end WorkStore

/-! ### A workspace before its first task -/

/-- A workspace that has its principals and nothing else. -/
def WorkStore.opening (workspaceId : String) (principals : List Principal) : WorkStore where
  tasks := ∅
  claims := ∅
  attempts := ∅
  waits := ∅
  contracts := ∅
  trust := ∅
  proposals := ∅
  challenges := ∅
  decisions := ∅
  completions := ∅
  workspaceId := workspaceId
  evidence := ∅
  premises := ∅
  costs := ∅
  assumptions := ∅
  links := ∅
  principals := principals
  claimRetries := []
  retries := []
  otherReferences := []
  others _ := []

/-- An ideal platform, for calls without keys. -/
def plainWorkRuntime : WorkRuntime where
  toEffectRuntime := plainEffectRuntime
  requestDigest _ := ⟨.null⟩
  legacyDigest _ := ⟨.null⟩
  completionDigest _ _ _ _ := ⟨.null⟩
  costDigest _ _ observation := ⟨.str observation.observationId⟩
  nfc := id
  toLowerCase := id
  localeCompare := compareOn Text.utf16
  localeOrder := inferInstance

end Tasq
