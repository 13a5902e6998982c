import Mathlib.Tactic
import Tasq.Work.Transition

/-! Attempts: starting one, moving it between its statuses, and recording what it has cost.

    A start and a transition read one instant, the caller's `occurredAt` or else the clock, for the
    liveness of claims and for the times they write. -/

namespace Tasq

open Text Outcome OpenRows

/-- `TaskAttempt.parse` -/
def parseAttempt (a : AttemptRow) : Call AttemptRow := do
  refuse (a.actor = "" ∨ a.principalId = some "" ∨ a.revision = 0 ∨ utf16Length a.runtime = 0 ∨
      80 < utf16Length a.runtime)
    (.invalid "TaskAttempt")
  pure a

/-- The row of a new attempt. -/
def startedAttempt (taskId : UuidV7) (options : StartAttemptOptions) (runtime actor : String)
    (caller : Principal) (claimId : Option UuidV7) (now : UnixMs) : AttemptRow where
  taskId := taskId
  status := .running
  startedAt := now
  claimId := claimId
  principalId := some caller.id
  actor := actor
  revision := 1
  runtime := runtime
  externalId := options.externalId
  contextId := options.contextId
  statusMessage := none
  endedAt := none
  metadata := options.metadata
  createdAt := now
  updatedAt := now

/-- What the cost policy says of an observation: a message refuses it, and a claim may be renewed
    or not once it is recorded. -/
structure CostVerdict where
  refusal : Option String
  renewalAllowed : Bool

namespace WorkStore

variable (s : WorkStore) (rt : WorkRuntime)

/-- `getTaskAttempt`, of an attempt that has to be there. -/
def requireAttempt (id : UuidV7) (message : String) : Call AttemptRow := do
  let row ← demand s.attempts[id]? (.error message)
  parseAttempt row

/-- The attempt that a record of a call points at. -/
def priorAttempt (id : UuidV7) : Call AttemptRow :=
  s.requireAttempt id s!"Idempotency record points at missing attempt {id}"

/-! ### Start -/

/-- The live claim of the task at the instant of the call is the caller's, or there is none. -/
def assertUnclaimed (taskId : UuidV7) (now : UnixMs) (caller : Principal) (actor : String) :
    Call Unit :=
  refuse (∃ c ∈ s.activeClaim taskId now, EffectStore.HeldByAnother c.2 caller actor)
    (.error s!"Task {taskId} is claimed")

/-- The checks on the claim that an attempt names. -/
def assertClaimUsable (taskId : UuidV7) (now : UnixMs) (caller : Principal) (actor : String)
    (claimId : Option UuidV7) : Call Unit :=
  match claimId with
  | none => pure ()
  | some claimId => do
    let claim ← demand (s.claims[claimId]?.filter (·.taskId = taskId))
      (.error s!"Claim does not belong to task {taskId}")
    let claim ← parseClaim claim
    refuse (EffectStore.HeldByAnother claim caller actor)
      (.error s!"Claim {claimId} belongs to another principal")
    refuse (¬ claim.LiveAt now) (.error s!"Claim {claimId} is not active")

/-- The transaction of `startTaskAttempt`. -/
def performStart (taskId : UuidV7) (options : StartAttemptOptions) (runtime : String)
    (ctx : PrincipalContext) (freshId : UuidV7) :
    Call (WorkStore × AttemptRow × Option (Retry.IdempotencyOutcome String)) := do
  let actor := ctx.actor.getD "system"
  let linkedTask ← s.view.requireLiveTask taskId
  let (s, caller) ← s.resolveCallerPrincipal rt ctx
  refuse (Ledger.Terminal linkedTask.status)
    (.error s!"Cannot start an attempt for terminal task {taskId}")
  s.assertUnclaimed taskId ctx.now caller actor
  let claimId := options.claimId <|> (s.activeClaim taskId ctx.now).map Prod.fst
  s.assertClaimUsable taskId ctx.now caller actor claimId
  let a := startedAttempt taskId options runtime actor caller claimId ctx.now
  let s ← s.insertAttempt freshId a
  let inserted ← parseAttempt a
  let s ← s.recordEvent rt actor (some caller.id)
  pure (s, inserted, some ⟨freshId, some inserted.status.text, some inserted.revision, none⟩)

/-- `startTaskAttempt`: the instant of the call is the one that the caller names, or the clock. -/
def startTaskAttempt (taskId : UuidV7) (options : StartAttemptOptions) (ctx : PrincipalContext)
    (freshId : UuidV7) : Call (WorkStore × AttemptRow) := do
  let ctx := { ctx with now := options.occurredAt.getD ctx.now }
  refuse (Json.maxSafeInteger < ctx.now) (.error "occurredAt must be a non-negative unix-ms integer")
  let runtime := options.runtime.getD "local"
  refuse (utf16Length runtime = 0 ∨ 80 < utf16Length runtime) (.invalid "TaskAttemptInsert")
  let request := WorkRequest.startAttempt taskId (ctx.actor.getD "system") ctx.principalId
    options.claimId runtime options.externalId options.contextId options.metadata
  let identity ← s.prepareIdempotency rt ctx .attemptStart request (some request)
  s.idempotent identity priorAttempt fun s => s.performStart rt taskId options runtime ctx freshId

/-! ### Transition -/

/-- The transaction of `transitionTaskAttempt`. -/
def performAttemptTransition (id : UuidV7) (status : AttemptStatus)
    (options : TransitionAttemptOptions) (ctx : PrincipalContext) :
    Call (WorkStore × AttemptRow × Option (Retry.IdempotencyOutcome String)) := do
  let outcome (a : AttemptRow) : Option (Retry.IdempotencyOutcome String) :=
    some ⟨id, some a.status.text, some a.revision, none⟩
  let before ← s.requireAttempt id s!"Attempt not found: {id}"
  if before.status = status ∧ ¬ status.Active then pure (s, before, outcome before)
  else do
    refuse (¬ before.status.Active)
      (.error s!"Attempt {id} is terminal ({before.status.text}) and immutable")
    refuse (ctx.now < before.startedAt)
      (.error s!"Attempt end time {ctx.now} precedes start {before.startedAt}")
    refuse (ctx.now < before.updatedAt)
      (.error s!"Attempt update time {ctx.now} precedes revision time {before.updatedAt}")
    let message := options.message <|> before.statusMessage
    if before.status = status ∧ ctx.now = before.updatedAt ∧ message = before.statusMessage then
      pure (s, before, outcome before)
    else do
      -- Every status may follow an active one.
      let (s, caller) ← s.resolveCallerPrincipal rt ctx
      let (s, after) ← s.updateAttempt id before
        (fun a => { a with
          status := status
          statusMessage := message
          endedAt := if status.Active then none else some ctx.now
          updatedAt := ctx.now })
        options.expectedRevision
      let after ← parseAttempt after
      let s ← s.recordEvent rt (ctx.actor.getD "system") (some caller.id)
      pure (s, after, outcome after)

/-- `transitionTaskAttempt` -/
def transitionTaskAttempt (id : UuidV7) (status : AttemptStatus)
    (options : TransitionAttemptOptions) (ctx : PrincipalContext) :
    Call (WorkStore × AttemptRow) := do
  let ctx := { ctx with now := options.occurredAt.getD ctx.now }
  refuse (Json.maxSafeInteger < ctx.now) (.error "occurredAt must be a non-negative unix-ms integer")
  let request := WorkRequest.transitionAttempt id status (ctx.actor.getD "system") ctx.principalId
    options.expectedRevision options.message options.occurredAt
  let identity ← s.prepareIdempotency rt ctx (.attemptTransition status) request (some request)
  s.idempotent identity priorAttempt fun s => s.performAttemptTransition rt id status options ctx

/-! ### Cost -/

/-- The row of a cost observation that an earlier call has left. -/
def costReceipt (observation : CostObservation) : Option (UuidV7 × CostReceipt) :=
  (Table.rows s.costs fun _ r => r.meterUri = observation.meterUri &&
    r.observationId = observation.observationId).head?

/-- The transaction of `recordAttemptCost`. It releases a live claim that the observed cost lets no
    one renew. -/
def performRecordCost (attemptId taskId : UuidV7) (observation : CostObservation) (digest : Digest)
    (verdict : CostVerdict) (ctx : PrincipalContext) (freshId : UuidV7) :
    Call (WorkStore × UuidV7 × Option (Retry.IdempotencyOutcome String)) :=
  match s.costReceipt observation with
  | some (id, r) => do
    refuse (r.digest ≠ digest ∨ r.attemptId ≠ attemptId)
      (.error s!"Cost observation identity already exists with different bytes: {observation.observationId}")
    pure (s, id, none)
  | none => do
    let actor := ctx.actor.getD "system"
    let found ← s.getTask taskId
    refuse (¬ ∃ row ∈ found, row.deletedAt = none) (.error s!"Task not found: {taskId}")
    passGate verdict.refusal
    let (s, caller) ← s.resolveCallerPrincipal rt ctx
    refuse (freshId ∈ s.premises ∨ freshId ∈ s.costs ∨ freshId ∈ s.others .externalRef)
      (.constraint "UNIQUE external_ref.id")
    let s := { s with
      costs := s.costs.insert freshId ⟨attemptId, observation.meterUri, observation.observationId,
        digest, caller.id, ctx.now⟩ }
    let s ← s.recordEvent rt actor (some caller.id)
    let active : Option UuidV7 := (s.activeClaim taskId ctx.now).map Prod.fst
    let outcome : Option (Retry.IdempotencyOutcome String) :=
      some ⟨freshId, some "recorded", none, none⟩
    if active.isSome ∧ verdict.renewalAllowed = false then do
      let s ← s.releaseClaims (fun k _ => some k = active) "cost_bound_reached" ctx.now
      let s ← s.recordEvent rt actor (some caller.id)
      pure (s, freshId, outcome)
    else pure (s, freshId, outcome)

/-- `recordAttemptCost` -/
def recordAttemptCost (attemptId : UuidV7) (observation : CostObservation) (verdict : CostVerdict)
    (ctx : PrincipalContext) (freshId : UuidV7) : Call (WorkStore × UuidV7) := do
  let attempt ← demand s.attempts[attemptId]? (.error s!"Attempt not found: {attemptId}")
  let digest := rt.costDigest attemptId attempt.taskId observation
  let retry ← s.prepareDurable rt ctx .attemptCostRecord
    (.recordCost attemptId attempt.taskId observation) none
  let replay (s : WorkStore) (id : UuidV7) : Call UuidV7 := do
    refuse (id ∉ s.costs) (.error s!"Idempotency record points at missing cost receipt {id}")
    pure id
  s.idempotent retry replay fun s =>
    s.performRecordCost rt attemptId attempt.taskId observation digest verdict ctx freshId

/-! ### What they do -/

variable {s s' : WorkStore} {rt : WorkRuntime} {id taskId : UuidV7} {ctx : PrincipalContext}

theorem insertAttempt_eq_ok {a : AttemptRow} (h : s.insertAttempt id a = .ok s') :
    id ∉ s.attempts ∧ (∃ row, s.tasks[a.taskId]? = some row ∧ (a.status.Active → ¬ row.Closed)) ∧
      s' = { s with attempts := s.attempts.insert id a } := by
  simp only [insertAttempt, bind_eq_ok, refuse_eq_ok, not_or, not_not, not_and, not_exists,
    pure_eq_ok] at h
  obtain ⟨-, ⟨-, -, -, htask, -, hopen⟩, -, -, -, ⟨hfresh, -⟩, rfl⟩ := h
  refine ⟨hfresh, ?_, rfl⟩
  have hrow : s.tasks[a.taskId]? = some s.tasks[a.taskId] :=
    Std.ExtTreeMap.getElem?_eq_some_getElem htask
  exact ⟨_, hrow, fun hactive => hopen hactive _ hrow⟩

theorem updateAttempt_eq_ok {old new : AttemptRow} {f : AttemptRow → AttemptRow}
    {expectedRevision : Option ℕ} (h : s.updateAttempt id old f expectedRevision = .ok (s', new)) :
    new = { f old with revision := old.revision + 1 } ∧
      s' = { s with attempts := s.attempts.insert id new } := by
  simp only [updateAttempt, bind_eq_ok, refuse_eq_ok, pure_eq_ok, Prod.mk.injEq] at h
  obtain ⟨-, -, -, -, rfl, rfl⟩ := h
  exact ⟨rfl, rfl⟩

theorem requireAttempt_eq_ok {message : String} {a : AttemptRow}
    (h : s.requireAttempt id message = .ok a) : s.attempts[id]? = some a := by
  simp only [requireAttempt, parseAttempt, bind_eq_ok, demand_eq_ok, refuse_eq_ok, pure_eq_ok] at h
  obtain ⟨_, hrow, -, -, rfl⟩ := h
  exact hrow

/-- INSERT: a new attempt on a task that is open. -/
theorem insertAttempt_works {a : AttemptRow} (h : s.insertAttempt id a = .ok s')
    (hactive : a.status.Active) : Works (· = .started a.taskId) s s' := by
  obtain ⟨hfresh, ⟨row, hrow, hopen⟩, rfl⟩ := insertAttempt_eq_ok h
  refine Works.move (m := .started a.taskId) rfl rfl
    ⟨id, a.toTaskAttempt, row, ?_, rfl, hrow, hopen hactive, ?_⟩
  · simpa [rows, ledger, Ledger.rows] using hfresh
  · simp [rows, ledger, Ledger.rows, Table.map_insert]

/-- START: nothing, or one new attempt on a task that is open. -/
theorem startTaskAttempt_works {options : StartAttemptOptions} {freshId : UuidV7} {a : AttemptRow}
    (h : s.startTaskAttempt rt taskId options ctx freshId = .ok (s', a)) :
    Works (· = .started taskId) s s' := by
  simp only [startTaskAttempt, bind_eq_ok] at h
  obtain ⟨-, -, -, -, _, -, h⟩ := h
  refine idempotent_works h fun retries s₁ outcome hrun => ?_
  simp only [performStart, bind_eq_ok, Prod.exists, pure_eq_ok, Prod.mk.injEq] at hrun
  obtain ⟨_, -, s₂, caller, hcaller, -, -, -, -, -, -, s₃, hinsert, _, -, s₄, hevent, rfl, -⟩ := hrun
  exact (insertAttempt_works hinsert (.inl rfl)).between (resolveCallerPrincipal_rows hcaller)
    (recordEvent_rows hevent)

/-- TRANSITION: nothing, or an active attempt goes on or ends. -/
theorem transitionTaskAttempt_works {status : AttemptStatus} {options : TransitionAttemptOptions}
    {a : AttemptRow} (h : s.transitionTaskAttempt rt id status options ctx = .ok (s', a)) :
    Works (· = .closed) s s' := by
  simp only [transitionTaskAttempt, bind_eq_ok] at h
  obtain ⟨-, -, _, -, h⟩ := h
  refine idempotent_works h fun retries s₁ outcome hrun => ?_
  simp only [performAttemptTransition, bind_eq_ok] at hrun
  obtain ⟨before, hbefore, hrun⟩ := hrun
  split at hrun
  · simp only [pure_eq_ok, Prod.mk.injEq] at hrun
    exact hrun.1 ▸ .refl _
  · simp only [bind_eq_ok, refuse_eq_ok, not_not] at hrun
    obtain ⟨-, hactive, -, -, -, -, hrun⟩ := hrun
    split at hrun
    · simp only [pure_eq_ok, Prod.mk.injEq] at hrun
      exact hrun.1 ▸ .refl _
    · simp only [bind_eq_ok, Prod.exists, pure_eq_ok, Prod.mk.injEq] at hrun
      obtain ⟨s₂, caller, hcaller, s₃, after, hupdate, _, -, s₄, hevent, rfl, -⟩ := hrun
      obtain ⟨hafter, rfl⟩ := updateAttempt_eq_ok hupdate
      have hrow : s₂.attempts[id]? = some before := by
        rw [resolveCallerPrincipal_eq hcaller]
        exact requireAttempt_eq_ok hbefore
      have hfades : before.toTaskAttempt.Fades (fun _ => True) after.toTaskAttempt := by
        rw [hafter]
        exact .inr ⟨hactive, status, trivial, rfl⟩
      have hmoved : Works (· = .closed) s₂ { s₂ with attempts := s₂.attempts.insert id after } := by
        refine Works.move (m := .closed) rfl rfl ⟨rfl, .refl (fun _ => .inl rfl) _, ?_,
          .refl (fun _ => .inl rfl) _⟩
        exact (Table.Revised.insert (fun _ => .inl rfl) hrow hfades).image
          (R := fun a a' : AttemptRow => a.toTaskAttempt.Fades (fun _ => True) a'.toTaskAttempt)
          fun _ _ h => h
      exact hmoved.between (resolveCallerPrincipal_rows hcaller) (recordEvent_rows hevent)

theorem releaseClaims_works {which : UuidV7 → LeasedClaim → Bool} {reason : String} {now : UnixMs}
    (h : s.releaseClaims which reason now = .ok s') : Works (· = .closed) s s' := by
  simp only [releaseClaims, bind_eq_ok, pure_eq_ok] at h
  obtain ⟨-, -, rfl⟩ := h
  have hfades : Table.Revised LeasedClaim.Fades s.claims (s.claims.map fun id c =>
      if (which id c && c.releasedAt.isNone) = true then c.releasedAs reason now else c) := by
    refine .map _ fun k c _ => ?_
    split
    · rename_i hwhich
      simp only [Bool.and_eq_true, Option.isNone_iff_eq_none] at hwhich
      exact .released c _ _ hwhich.2
    · exact .inl rfl
  refine ⟨.one (m := .closed) rfl ⟨rfl, ?_⟩, hfades⟩
  exact ⟨hfades.image LeasedClaim.Fades.toTaskClaim, .refl (fun _ => .inl rfl) _,
    .refl (fun _ => .inl rfl) _⟩

/-- COST: nothing, or a live claim is released. -/
theorem recordAttemptCost_works {observation : CostObservation} {verdict : CostVerdict}
    {attemptId freshId receiptId : UuidV7}
    (h : s.recordAttemptCost rt attemptId observation verdict ctx freshId = .ok (s', receiptId)) :
    Works (· = .closed) s s' := by
  simp only [recordAttemptCost, bind_eq_ok] at h
  obtain ⟨attempt, -, _, -, h⟩ := h
  refine idempotent_works h fun retries s₁ outcome hrun => ?_
  unfold performRecordCost at hrun
  split at hrun
  · simp only [bind_eq_ok, pure_eq_ok, Prod.mk.injEq] at hrun
    obtain ⟨-, -, rfl, -⟩ := hrun
    exact .refl _
  · simp only [bind_eq_ok, Prod.exists] at hrun
    obtain ⟨_, -, -, -, -, -, s₂, caller, hcaller, -, -, s₃, hevent, hrun⟩ := hrun
    have hrows₂ := resolveCallerPrincipal_rows hcaller
    have hrows₃ : s₃.toWorkRows = s.toWorkRows := (recordEvent_rows hevent).trans hrows₂
    split at hrun
    · simp only [bind_eq_ok, pure_eq_ok, Prod.mk.injEq] at hrun
      obtain ⟨s₄, hrelease, s₅, hevent', rfl, -⟩ := hrun
      exact (releaseClaims_works hrelease).between hrows₃ (recordEvent_rows hevent')
    · simp only [pure_eq_ok, Prod.mk.injEq] at hrun
      exact hrun.1 ▸ .of_rows hrows₃

end WorkStore

end Tasq
