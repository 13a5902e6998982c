import Mathlib.Tactic
import Tasq.Work.Calls
import Tasq.Work.Recurrence

/-! Status transitions of a task: who may make one, what justifies a completion, and what a terminal
    transition closes. -/

namespace Tasq

open Text Outcome OpenRows

/-- `assertTransition` -/
def assertTransition (before status : TaskStatus) : Call Unit :=
  refuse (before ≠ status ∧ status ∉ before.next)
    (.error s!"Invalid task status transition: {before.text} → {status.text}")

/-- What an accepted decision gives the record of a completion. -/
structure ValidatedBasis where
  resolutionContractId : UuidV7
  validationDecisionId : UuidV7
  policyUri : String
  policyVersion : ℕ+
  policyInputDigest : Digest
  decidedByPrincipalId : String

/-- The row that a transition leaves. -/
def transitioned (before : Task) (status : TaskStatus) (occurredAt now : UnixMs) : Task :=
  { before with
    status := status
    startedAt :=
      if status = .inProgress ∧ before.startedAt = none then some occurredAt else before.startedAt
    completedAt :=
      if status = .done then some occurredAt
      else if status = .open ∧ before.status = .done then none
      else before.completedAt
    lastDoneAt := if status = .done then some occurredAt else before.lastDoneAt
    updatedAt := now
    revision := before.revision + 1 }

namespace WorkStore

variable (s : WorkStore) (rt : WorkRuntime)

/-! ### What a transition asks -/

/-- The unreleased claim of the task that has not lapsed at `now`. -/
def activeClaim (taskId : UuidV7) (now : UnixMs) : Option (UuidV7 × LeasedClaim) :=
  (Table.rows s.claims fun _ c => c.taskId = taskId && decide (c.LiveAt now)).head?

/-- A terminal transition is for the holder of the live claim, unless it is forced. -/
def assertHolder (id : UuidV7) (status : TaskStatus) (now : UnixMs) (caller : Principal)
    (actor : String) (force : Bool) : Call Unit :=
  refuse (Ledger.Terminal status ∧ force = false ∧
      ∃ c ∈ s.activeClaim id now, EffectStore.HeldByAnother c.2 caller actor)
    (.error (s!"Task {id} is claimed; complete or cancel it as its holder, wait for the claim to " ++
      "expire, or force the transition to take over deliberately."))

/-- The decision that a completion rests on when its task requires validation, and the evidence of
    that decision. -/
def validatedBasis (id : UuidV7) (before : Task) (validationDecisionId : Option UuidV7)
    (requestedEvidenceIds : List UuidV7) : Call (List UuidV7 × Option ValidatedBasis) := do
  let decisionId ← demand validationDecisionId
    (.error s!"Task {id} requires an accepted validation decision")
  let decision ← demand
    (s.decisions[decisionId]?.filter fun d => d.taskId = id ∧ d.outcome = .accepted)
    (.error "Validated completion requires an accepted decision for this task")
  refuse (¬ s.LeafDecision decisionId) (.error "Validation decision has been superseded")
  refuse (¬ ∃ c ∈ s.contracts[decision.resolutionContractId]?,
      c.taskId = id ∧ some c.successCriteriaSnapshot = before.successCriteria)
    (.error "Validation decision uses stale success criteria")
  refuse (¬ ∃ p ∈ s.proposals[decision.proposalId]?,
      p.taskId = id ∧ p.resolutionContractId = decision.resolutionContractId)
    (.error "Validation decision proposal basis is missing")
  refuse (requestedEvidenceIds ≠ [] ∧ requestedEvidenceIds ≠ decision.evidenceIds)
    (.error "Explicit completion evidence differs from the accepted validation decision")
  pure (decision.evidenceIds, some
    { resolutionContractId := decision.resolutionContractId
      validationDecisionId := decisionId
      policyUri := decision.policyUri
      policyVersion := decision.policyVersion
      policyInputDigest := decision.policyInputDigest
      decidedByPrincipalId := decision.decidedByPrincipalId })

/-- The evidence of a completion, with the decision under it. -/
def completionBasis (id : UuidV7) (before : Task) (validationDecisionId : Option UuidV7)
    (requestedEvidenceIds : List UuidV7) : Call (List UuidV7 × Option ValidatedBasis) :=
  if before.validationRequired then
    s.validatedBasis id before validationDecisionId requestedEvidenceIds
  else do
    refuse validationDecisionId.isSome
      (.error "Task does not require an independent validation decision")
    pure (requestedEvidenceIds, none)

/-- The checks on the evidence of a completion. -/
def assertCompletionEvidence (id : UuidV7) (mode : CompletionMode) (evidenceIds : List UuidV7) :
    Call Unit := do
  refuse (mode = .evidence ∧ evidenceIds = [])
    (.error s!"Task {id} requires explicit evidence; add evidence and pass its id when completing")
  let missing := evidenceIds.filter fun e => ¬ ∃ row ∈ s.evidence[e]?, row.taskId = id
  refuse (missing ≠ []) (.error s!"Evidence does not belong to task {id}: {missing}")
  refuse (Table.has s.evidence (fun _ row => row.supersedesEvidenceId.any (· ∈ evidenceIds)) = true)
    (.error "Completion evidence has been superseded")

/-- What a transition into done rests on; the others rest on nothing. -/
def transitionBasis (id : UuidV7) (before : Task) (status : TaskStatus)
    (options : StatusChangeOptions) : Call (List UuidV7 × Option ValidatedBasis) :=
  if status = .done then do
    let basis ← s.completionBasis id before options.validationDecisionId
      (sortedIds options.evidenceIds)
    s.assertCompletionEvidence id before.completionMode basis.1
    pure basis
  else pure ([], none)

/-- An active attempt keeps a task from becoming terminal. -/
def assertNoActiveAttempt (id : UuidV7) (status : TaskStatus) : Call Unit := do
  let activeAttempts := Table.rows s.attempts fun _ a => a.taskId = id && a.status.Active
  refuse (Ledger.Terminal status ∧ activeAttempts ≠ [])
    (.error (s!"Task {id} has {activeAttempts.length} active attempt(s); finish or cancel them " ++
      "before making the commitment terminal"))

/-! ### What a transition writes -/

/-- Cancel one waiting condition of a task that becomes terminal. -/
def cancelWaiting (actor : String) (now : UnixMs) (s : WorkStore) (waitId : UuidV7) :
    Call WorkStore :=
  match s.waits[waitId]? with
  | none => pure s
  | some w => do
    let (s, _) ← s.updateWait waitId w (·.cancelledAs "task_terminal" now)
    s.recordEvent rt actor none

/-- `cancelWaitingConditionsForTaskTx`, for a terminal status. -/
def cancelWaitingConditions (id : UuidV7) (status : TaskStatus) (actor : String) (now : UnixMs) :
    Call WorkStore :=
  if Ledger.Terminal status then
    (Table.keysWhere s.waits fun _ w => w.taskId = id && w.status = .waiting).foldlM
      (cancelWaiting rt actor now) s
  else pure s

/-- The record of a completion. -/
def completionRecord (id : UuidV7) (before : Task) (evidenceIds : List UuidV7)
    (basis : Option ValidatedBasis) (caller : Principal) (occurredAt : UnixMs) :
    CompletionRecord :=
  let resultingRevision := before.revision + 1
  let policyUri := (basis.map (·.policyUri)).getD
    (if before.completionMode = .evidence then "urn:tasq:completion-policy:evidence-required"
     else "urn:tasq:completion-policy:assertion")
  { taskId := id
    resultingRevision := resultingRevision
    completionPolicyUri := policyUri
    completionPolicyVersion := (basis.map (·.policyVersion)).getD ⟨1, Nat.one_pos⟩
    policyInputDigest := (basis.map (·.policyInputDigest)).getD
      (rt.completionDigest id resultingRevision policyUri evidenceIds)
    evidenceIds := evidenceIds
    resolutionContractId := basis.map (·.resolutionContractId)
    validationDecisionId := basis.map (·.validationDecisionId)
    decidedByPrincipalId := (basis.map (·.decidedByPrincipalId)).getD caller.id
    decidedAt := occurredAt }

/-- The record that a transition into done leaves. -/
def recordCompletion (id : UuidV7) (before : Task) (status : TaskStatus)
    (options : StatusChangeOptions) (basis : List UuidV7 × Option ValidatedBasis)
    (caller : Principal) (occurredAt : UnixMs) : Call WorkStore :=
  if status = .done then
    s.insertCompletion options.completionRecordId
      (completionRecord rt id before basis.1 basis.2 caller occurredAt)
  else pure s

/-- The claims that a terminal transition releases. -/
def releaseForTransition (id : UuidV7) (status : TaskStatus) (now : UnixMs) : Call WorkStore :=
  if Ledger.Terminal status then
    s.releaseClaims (fun _ c => c.taskId = id)
      (if status = .done then "task_done" else "task_cancelled") now
  else pure s

/-- `materializeNextInstance`, where the transition completes a recurring task and the host has
    given an id for the next instance. -/
def materialize (id : UuidV7) (completed : Task) (status : TaskStatus)
    (nextInstanceId : Option UuidV7) (actor : String) (occurredAt : UnixMs) : Call WorkStore :=
  match (if status = .done then completed.recurrence else none), nextInstanceId with
  | some unit, some nextId => do
    let l ← s.ledger.insertTask nextId (nextInstance id completed unit occurredAt)
    recordEvent { s with tasks := l.tasks } rt actor none
  | _, _ => pure s

/-- The transaction of `transitionTaskStatus`. -/
def performTransition (id : UuidV7) (status : TaskStatus) (options : StatusChangeOptions)
    (ctx : PrincipalContext) :
    Call (WorkStore × Task × Option (Retry.IdempotencyOutcome String)) := do
  let actor := ctx.actor.getD "system"
  let occurredAt := options.occurredAt.getD ctx.now
  let found ← s.getTask id
  let before ← demand found (.error s!"Task not found: {id}")
  refuse (truthy before.deletedAt = true) (.error s!"Task is deleted: {id}")
  if before.status = status then
    pure (s, before, some ⟨id, some before.status.text, some before.revision, none⟩)
  else do
    assertTransition before.status status
    Ledger.assertLiveAncestors before
    let (s, caller) ← s.resolveCallerPrincipal rt ctx
    s.assertHolder id status ctx.now caller actor options.force
    let basis ← s.transitionBasis id before status options
    s.assertNoActiveAttempt id status
    let s ← s.cancelWaitingConditions rt id status actor ctx.now
    refuse (∃ r ∈ options.expectedRevision, before.revision ≠ r)
      (.error s!"Stale task revision: expected {options.expectedRevision.getD 0}")
    let after := transitioned before status occurredAt ctx.now
    let s := { s with tasks := s.tasks.insert id after }
    let s ← s.recordCompletion rt id before status options basis caller occurredAt
    let s ← s.releaseForTransition id status ctx.now
    let s ← s.recordEvent rt actor (some caller.id)
    let s ← s.materialize rt id after status options.nextInstanceId actor occurredAt
    pure (s, after, some ⟨id, some after.status.text, some after.revision, none⟩)

/-- `transitionTaskStatus` -/
def transitionTaskStatus (id : UuidV7) (status : TaskStatus) (options : StatusChangeOptions)
    (ctx : PrincipalContext) : Call (WorkStore × Task) := do
  refuse (Json.maxSafeInteger < options.occurredAt.getD ctx.now)
    (.error "occurredAt must be a non-negative unix-ms integer")
  let identity ← s.prepareIdempotency rt ctx (.taskTransition status)
    (.transition id status options.expectedRevision options.reason options.note options.source
      options.occurredAt (sortedIds options.evidenceIds) options.validationDecisionId) none
  s.idempotent identity priorTask fun s => s.performTransition rt id status options ctx

/-! ### What it does -/

variable {s s' : WorkStore} {rt : WorkRuntime} {id : UuidV7} {status : TaskStatus} {now : UnixMs}

theorem updateWait_eq_ok {w new : WaitRow} {f : WaitRow → WaitRow}
    (h : s.updateWait id w f = .ok (s', new)) :
    w.status = .waiting ∧ (f w).status ≠ .waiting ∧ new = f w ∧
      s' = { s with waits := s.waits.insert id (f w) } := by
  simp only [updateWait, bind_eq_ok, refuse_eq_ok, not_or, not_not, pure_eq_ok,
    Prod.mk.injEq] at h
  obtain ⟨-, ⟨hwaiting, hended⟩, -, -, rfl, rfl⟩ := h
  exact ⟨hwaiting, hended, rfl, rfl⟩

theorem cancelWaiting_rows {actor : String} (h : cancelWaiting rt actor now s id = .ok s') :
    s'.toWorkRows = { s.toWorkRows with
      waits := s.waits.modify id (·.cancelledAs "task_terminal" now) } := by
  unfold cancelWaiting at h
  split at h
  · rename_i hnone
    obtain rfl : s = s' := by simpa using h
    rw [Table.modify_of_none hnone]
  · rename_i w hw
    simp only [bind_eq_ok, Prod.exists] at h
    obtain ⟨s₁, _, hupdate, hevent⟩ := h
    obtain ⟨-, -, -, rfl⟩ := updateWait_eq_ok hupdate
    rw [recordEvent_rows hevent, Table.modify_of_some hw]

theorem foldl_waitRows (r : WorkRows) (ks : List UuidV7) (g : WaitRow → WaitRow) :
    ks.foldl (fun r k => { r with waits := r.waits.modify k g }) r =
      { r with waits := ks.foldl (fun t k => t.modify k g) r.waits } := by
  induction ks generalizing r with
  | nil => rfl
  | cons k ks ih => rw [List.foldl_cons, ih, List.foldl_cons]

/-- The waits of a task that becomes terminal. -/
def closedWaits (s : WorkStore) (id : UuidV7) (status : TaskStatus) (now : UnixMs) :
    Table UuidV7 WaitRow :=
  if Ledger.Terminal status then
    s.waits.map fun _ w => if (w.taskId = id && w.status = .waiting) = true then
      w.cancelledAs "task_terminal" now else w
  else s.waits

theorem cancelWaitingConditions_rows {actor : String}
    (h : s.cancelWaitingConditions rt id status actor now = .ok s') :
    s'.toWorkRows = { s.toWorkRows with waits := s.closedWaits id status now } := by
  unfold cancelWaitingConditions at h
  unfold closedWaits
  split at h
  · rename_i hterminal
    rw [if_pos hterminal, foldlM_project (cancelWaiting rt actor now) WorkStore.toWorkRows
        (fun r k => { r with waits := r.waits.modify k (·.cancelledAs "task_terminal" now) })
        (fun _ _ _ => cancelWaiting_rows) h, foldl_waitRows,
      Table.foldl_modify_keysWhere (g := WaitRow.cancelledAs "task_terminal" now) fun _ => rfl]
  · rename_i hopen
    obtain rfl : s = s' := by simpa using h
    rw [if_neg hopen]

/-- The claims of a task that becomes terminal. -/
def closedClaims (s : WorkStore) (id : UuidV7) (status : TaskStatus) (now : UnixMs) :
    Table UuidV7 LeasedClaim :=
  if Ledger.Terminal status then
    s.claims.map fun _ c => if (decide (c.taskId = id) && c.releasedAt.isNone) = true then
      c.releasedAs (if status = .done then "task_done" else "task_cancelled") now else c
  else s.claims

theorem releaseForTransition_eq (h : s.releaseForTransition id status now = .ok s') :
    s' = { s with claims := s.closedClaims id status now } := by
  unfold releaseForTransition at h
  unfold closedClaims
  split at h
  · rename_i hterminal
    simp only [releaseClaims, bind_eq_ok, pure_eq_ok] at h
    obtain ⟨-, -, rfl⟩ := h
    rw [if_pos hterminal]
  · rename_i hopen
    obtain rfl : s = s' := by simpa using h
    rw [if_neg hopen]

theorem insertCompletion_eq {c : CompletionRecord} (h : s.insertCompletion id c = .ok s') :
    s' = { s with completions := s.completions.insert id c } := by
  simp only [insertCompletion, bind_eq_ok, refuse_eq_ok, pure_eq_ok] at h
  obtain ⟨-, -, -, -, -, -, -, -, -, -, -, -, -, -, rfl⟩ := h
  rfl

theorem recordCompletion_rows {before : Task} {options : StatusChangeOptions}
    {basis : List UuidV7 × Option ValidatedBasis} {caller : Principal} {occurredAt : UnixMs}
    (h : s.recordCompletion rt id before status options basis caller occurredAt = .ok s') :
    s'.toWorkRows = s.toWorkRows := by
  unfold recordCompletion at h
  split at h
  · rw [insertCompletion_eq h]
  · obtain rfl : s = s' := by simpa using h
    rfl

/-- What a completed transition found, and what it left before a next instance came. -/
structure Passes (s : WorkStore) (id : UuidV7) (status : TaskStatus)
    (options : StatusChangeOptions) (ctx : PrincipalContext) (before : Task) (caller : Principal)
    (basis : List UuidV7 × Option ValidatedBasis) (left : WorkStore) : Prop where
  found : s.tasks[id]? = some before
  alive : truthy before.deletedAt = false
  edge : status ∈ before.status.next
  holder : Ledger.Terminal status → options.force = false → ∀ c ∈ s.activeClaim id ctx.now,
    ¬ EffectStore.HeldByAnother c.2 caller (ctx.actor.getD "system")
  basis : s.transitionBasis id before status options = .ok basis
  idle : Ledger.Terminal status → ∀ (k : UuidV7) a, s.attempts[k]? = some a → a.taskId = id →
    ¬ a.status.Active
  revision : ∀ r ∈ options.expectedRevision, before.revision = r
  left : left.toWorkRows =
    { tasks := s.tasks.insert id
        (transitioned before status (options.occurredAt.getD ctx.now) ctx.now)
      claims := s.closedClaims id status ctx.now
      attempts := s.attempts
      waits := s.closedWaits id status ctx.now }

/-- TRANSITION: it finds the task in the status already, or passes every check. -/
theorem performTransition_cases {options : StatusChangeOptions} {ctx : PrincipalContext}
    {row : Task} {outcome : Option (Retry.IdempotencyOutcome String)}
    (h : s.performTransition rt id status options ctx = .ok (s', row, outcome)) :
    (s' = s ∧ s.tasks[id]? = some row ∧ row.status = status) ∨
      ∃ before caller basis left, s.Passes id status options ctx before caller basis left ∧
        row = transitioned before status (options.occurredAt.getD ctx.now) ctx.now ∧
        left.materialize rt id row status options.nextInstanceId (ctx.actor.getD "system")
          (options.occurredAt.getD ctx.now) = .ok s' := by
  simp only [performTransition, bind_eq_ok, getTask, Ledger.getTask_eq_ok, demand_eq_ok,
    refuse_eq_ok, Bool.not_eq_true] at h
  obtain ⟨_, ⟨hrow, -⟩, before, rfl, -, halive, h⟩ := h
  split at h
  · rename_i hsame
    simp only [pure_eq_ok, Prod.mk.injEq] at h
    obtain ⟨rfl, rfl, -⟩ := h
    exact .inl ⟨rfl, hrow, hsame⟩
  · rename_i hmoved
    simp only [bind_eq_ok, Prod.exists, pure_eq_ok, Prod.mk.injEq, assertTransition, refuse_eq_ok,
      assertHolder, assertNoActiveAttempt, not_and, not_not, not_exists] at h
    obtain ⟨-, hedge, -, -, s₁, caller, hcaller, -, hholder, evidenceIds, basis, hbasis, -, hidle,
      s₂, hwaits, -, hrevision, s₃, hcompletion, s₄, hrelease, s₅, hevent, s₆, hspawn, rfl, rfl,
      -⟩ := h
    obtain ⟨principals, rfl⟩ : ∃ ps, s₁ = { s with principals := ps } :=
      ⟨_, resolveCallerPrincipal_eq hcaller⟩
    have hs₂ : s₂.toWorkRows = { s.toWorkRows with waits := s.closedWaits id status ctx.now } := by
      rw [cancelWaitingConditions_rows hwaits]
      rfl
    have hs₃ : s₃.toWorkRows = { s₂.toWorkRows with
        tasks := s₂.tasks.insert id
          (transitioned before status (options.occurredAt.getD ctx.now) ctx.now) } :=
      recordCompletion_rows hcompletion
    rw [hs₂] at hs₃
    have hclaims : s₃.claims = s.claims := by rw [hs₃]
    refine .inr ⟨before, caller, (evidenceIds, basis), s₅, ⟨hrow, halive, hedge hmoved,
      fun hterminal hforce c hc => hholder hterminal hforce c.1 c.2 hc, hbasis, ?_, hrevision, ?_⟩,
      rfl, hspawn⟩
    · intro hterminal k a ha htask hactive
      have hnil := Table.rows_eq_nil.1 (hidle hterminal) k a ha
      simp [htask, hactive] at hnil
    · rw [recordEvent_rows hevent, releaseForTransition_eq hrelease]
      simp only [closedClaims, hclaims]
      rw [hs₃]

theorem transitioned_completedAt (before : Task) (status : TaskStatus) (occurredAt now : UnixMs) :
    (transitioned before status occurredAt now).completedAt.isSome ↔
      status = .done ∨ before.completedAt.isSome ∧ ¬ (status = .open ∧ before.status = .done) := by
  unfold transitioned
  by_cases hdone : status = .done
  · simp [hdone]
  · by_cases hreopen : status = .open ∧ before.status = .done
    · simp [hreopen]
    · simp [hdone, hreopen]

theorem closedClaims_fade (s : WorkStore) (id : UuidV7) (status : TaskStatus) (now : UnixMs) :
    Table.Revised LeasedClaim.Fades s.claims (s.closedClaims id status now) := by
  unfold closedClaims
  split
  · refine .map _ fun k c _ => ?_
    split
    · rename_i h
      simp only [Bool.and_eq_true, Option.isNone_iff_eq_none] at h
      exact .released c _ _ h.2
    · exact .inl rfl
  · exact .refl (fun _ => .inl rfl) _

theorem closedWaits_fade (s : WorkStore) (id : UuidV7) (status : TaskStatus) (now : UnixMs) :
    Table.Revised (fun w w' : WaitRow => w.toWaitCondition.Fades (· ≠ .waiting) w'.toWaitCondition)
      s.waits (s.closedWaits id status now) := by
  unfold closedWaits
  split
  · refine .map _ fun k w _ => ?_
    split
    · rename_i h
      simp only [Bool.and_eq_true, decide_eq_true_eq] at h
      exact .inr ⟨h.2, .cancelled, by simp, rfl⟩
    · exact .inl rfl
  · exact .refl (fun _ => .inl rfl) _

theorem Passes.takes {options : StatusChangeOptions} {ctx : PrincipalContext} {before : Task}
    {caller : Principal} {basis : List UuidV7 × Option ValidatedBasis} {left : WorkStore}
    (h : s.Passes id status options ctx before caller basis left) :
    s.rows.Takes left.rows (.transitioned before.status status) := by
  refine ⟨id, before, transitioned before status (options.occurredAt.getD ctx.now) ctx.now,
    h.found, rfl, rfl, ⟨rfl, rfl, h.edge, transitioned_completedAt _ _ _ _⟩, ?_, ?_, ?_⟩
  · change left.tasks = _
    rw [h.left]
    rfl
  · constructor
    · change Table.Revised _ _ (left.claims.map fun _ c => c.toTaskClaim)
      rw [h.left]
      exact (closedClaims_fade s id status ctx.now).image LeasedClaim.Fades.toTaskClaim
    · change Table.Revised _ _ (left.attempts.map fun _ a => a.toTaskAttempt)
      rw [h.left]
      exact .refl (fun _ => .inl rfl) _
    · change Table.Revised _ _ (left.waits.map fun _ w => w.toWaitCondition)
      rw [h.left]
      exact (closedWaits_fade s id status ctx.now).image fun _ _ hw => hw
  · intro hterminal
    constructor
    · change ∀ (k : UuidV7) c, (left.claims.map fun _ c => c.toTaskClaim)[k]? = some c → _
      rw [h.left]
      intro k c hc htask
      simp only [closedClaims, if_pos hterminal, Std.ExtTreeMap.getElem?_map,
        Option.map_eq_some_iff] at hc
      obtain ⟨_, ⟨c₀, -, rfl⟩, rfl⟩ := hc
      split at htask <;> rename_i hopen
      · simp [hopen, LeasedClaim.releasedAs]
      · rw [if_neg hopen]
        simpa [htask] using hopen
    · change ∀ (k : UuidV7) a, (left.attempts.map fun _ a => a.toTaskAttempt)[k]? = some a → _
      rw [h.left]
      intro k a ha htask
      simp only [Std.ExtTreeMap.getElem?_map, Option.map_eq_some_iff] at ha
      obtain ⟨a₀, ha₀, rfl⟩ := ha
      exact h.idle hterminal k a₀ ha₀ htask
    · change ∀ (k : UuidV7) w, (left.waits.map fun _ w => w.toWaitCondition)[k]? = some w → _
      rw [h.left]
      intro k w hw htask
      simp only [closedWaits, if_pos hterminal, Std.ExtTreeMap.getElem?_map,
        Option.map_eq_some_iff] at hw
      obtain ⟨_, ⟨w₀, -, rfl⟩, rfl⟩ := hw
      split at htask <;> rename_i hopen
      · simp [hopen, WaitRow.cancelledAs]
      · rw [if_neg hopen]
        simpa [htask] using hopen

theorem Passes.claims {options : StatusChangeOptions} {ctx : PrincipalContext} {before : Task}
    {caller : Principal} {basis : List UuidV7 × Option ValidatedBasis} {left : WorkStore}
    (h : s.Passes id status options ctx before caller basis left) :
    Table.Revised LeasedClaim.Fades s.claims left.claims := by
  have hclaims : left.claims = s.closedClaims id status ctx.now := by rw [h.left]
  rw [hclaims]
  exact closedClaims_fade s id status ctx.now

/-- MATERIALIZE: nothing, or the next instance of the completed task. -/
theorem materialize_works {completed : Task} {nextInstanceId : Option UuidV7} {actor : String}
    {occurredAt : UnixMs} (hrow : s.tasks[id]? = some completed)
    (h : s.materialize rt id completed status nextInstanceId actor occurredAt = .ok s') :
    Works (fun m => status = .done ∧ completed.recurrence.isSome ∧ nextInstanceId.isSome ∧
      m = .spawned completed.deletedAt) s s' := by
  unfold materialize at h
  split at h
  · rename_i unit nextId hunit
    simp only [bind_eq_ok] at h
    obtain ⟨l, hinsert, hevent⟩ := h
    obtain ⟨-, hfresh, -, -, rfl⟩ := Ledger.insertTask_eq_ok.1 hinsert
    have hunit : status = .done ∧ completed.recurrence = some unit := by
      split at hunit
      · rename_i hdone
        exact ⟨hdone, hunit⟩
      · cases hunit
    have hspawned : Works (· = .spawned completed.deletedAt) s { s with
        tasks := s.tasks.insert nextId (nextInstance id completed unit occurredAt) } := by
      refine Works.move (m := .spawned completed.deletedAt) rfl rfl
        ⟨id, nextId, completed, nextInstance id completed unit occurredAt, hrow, rfl,
          ⟨?_, rfl, rfl, rfl⟩, rfl, rfl⟩
      exact fun hmem => hfresh (.inl hmem)
    refine (hspawned.mono ?_).trans (.of_rows (recordEvent_rows hevent))
    rintro m rfl
    exact ⟨hunit.1, by simp [hunit.2], rfl, rfl⟩
  · obtain rfl : s = s' := by simpa using h
    exact .refl s

/-- What a transition of the task is made of. -/
def Transitioning (s : WorkStore) (id : UuidV7) (status : TaskStatus)
    (nextInstanceId : Option UuidV7) (m : Move) : Prop :=
  ∃ before, s.tasks[id]? = some before ∧ truthy before.deletedAt = false ∧
    (m = .transitioned before.status status ∨
      status = .done ∧ before.recurrence.isSome ∧ nextInstanceId.isSome ∧
        m = .spawned before.deletedAt)

/-- TRANSITION: nothing, or the transition and the next instance of a recurring task. -/
theorem transitionTaskStatus_works {options : StatusChangeOptions} {ctx : PrincipalContext}
    {row : Task} (h : s.transitionTaskStatus rt id status options ctx = .ok (s', row)) :
    Works (s.Transitioning id status options.nextInstanceId) s s' := by
  simp only [transitionTaskStatus, bind_eq_ok] at h
  obtain ⟨-, -, _, -, h⟩ := h
  refine idempotent_works h fun retries s₁ outcome hrun => ?_
  obtain ⟨rfl, -, -⟩ | ⟨before, caller, basis, left, hpasses, rfl, hspawn⟩ :=
    performTransition_cases hrun
  · exact .refl _
  · have hfound : s.tasks[id]? = some before := hpasses.found
    have hmoved : Works (s.Transitioning id status options.nextInstanceId)
        { s with retries := retries } left :=
      ⟨.one ⟨before, hfound, hpasses.alive, .inl rfl⟩ hpasses.takes, hpasses.claims⟩
    have hleft : left.tasks[id]? =
        some (transitioned before status (options.occurredAt.getD ctx.now) ctx.now) := by
      rw [hpasses.left]
      simp
    refine hmoved.trans ((materialize_works hleft hspawn).mono ?_)
    rintro m ⟨hdone, hrecurrence, hnext, rfl⟩
    exact ⟨before, hfound, hpasses.alive, .inr ⟨hdone, hrecurrence, hnext, rfl⟩⟩

end WorkStore

end Tasq
