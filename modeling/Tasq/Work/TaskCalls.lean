import Mathlib.Tactic
import Tasq.Work.Calls

/-! The calls of the task service that run on the work ledger: create, update, delete and restore.

    The rows of claims, attempts and waits have more columns here than the ledger shows; `absorb`
    writes what a deletion leaves in them, and agrees with the ledger on the rest. -/

namespace Tasq

open Text Outcome OpenRows

/-- What a replicated or a service call is made of, besides transitions and installations. -/
abbrev Goes := Ledger.Goes

namespace WorkStore

variable {s s' : WorkStore} {rt : WorkRuntime} {P : Move → Prop} {l : Ledger} {now : UnixMs}

/-! ### Taking over what the ledger left -/

theorem absorb_claims (h : Cancels s.ledger.rows l.rows) :
    (s.absorb l now).claims.map (fun _ c => c.toTaskClaim) = l.claims := by
  refine Table.ext_rows fun k => ?_
  cases hk : s.claims[k]? with
  | none =>
    have hnone : l.claims[k]? = none := by
      rw [← Option.not_isSome_iff_eq_none, Option.isSome_iff_exists]
      rintro ⟨c, hc⟩
      obtain ⟨c₀, hc₀, -⟩ := h.claims.before hc
      simp [ledger, hk] at hc₀
    simp [absorb, hk, hnone]
  | some c =>
    obtain ⟨c', hc', hfades⟩ := h.claims.after (k := k) (a := c.toTaskClaim) (by simp [ledger, hk])
    have hl : l.claims[k]? = some c' := hc'
    rcases hfades with rfl | ⟨hopen, t, rfl⟩
    · cases hreleased : c.releasedAt <;> simp [absorb, hk, hl, hreleased]
    · have hreleased : c.releasedAt = none := hopen
      simp [absorb, hk, hl, hreleased, LeasedClaim.releasedAs]

theorem absorb_attempts (h : Cancels s.ledger.rows l.rows) :
    (s.absorb l now).attempts.map (fun _ a => a.toTaskAttempt) = l.attempts := by
  refine Table.ext_rows fun k => ?_
  cases hk : s.attempts[k]? with
  | none =>
    have hnone : l.attempts[k]? = none := by
      rw [← Option.not_isSome_iff_eq_none, Option.isSome_iff_exists]
      rintro ⟨a, ha⟩
      obtain ⟨a₀, ha₀, -⟩ := h.attempts.before ha
      simp [ledger, hk] at ha₀
    simp [absorb, hk, hnone]
  | some a =>
    obtain ⟨a', ha', hfades⟩ :=
      h.attempts.after (k := k) (a := a.toTaskAttempt) (by simp [ledger, hk])
    have hl : l.attempts[k]? = some a' := ha'
    rcases hfades with rfl | ⟨hactive, _, rfl, rfl⟩
    · by_cases hcancel : a.status.Active ∧ a.status = .cancelled
      · simp [hcancel.2, AttemptStatus.Active] at hcancel
      · simp [absorb, hk, hl, hcancel]
    · have hactive : a.status.Active := hactive
      simp [absorb, hk, hl, hactive, AttemptRow.cancelledAs]

theorem absorb_waits (h : Cancels s.ledger.rows l.rows) :
    (s.absorb l now).waits.map (fun _ w => w.toWaitCondition) = l.waits := by
  refine Table.ext_rows fun k => ?_
  cases hk : s.waits[k]? with
  | none =>
    have hnone : l.waits[k]? = none := by
      rw [← Option.not_isSome_iff_eq_none, Option.isSome_iff_exists]
      rintro ⟨w, hw⟩
      obtain ⟨w₀, hw₀, -⟩ := h.waits.before hw
      simp [ledger, hk] at hw₀
    simp [absorb, hk, hnone]
  | some w =>
    obtain ⟨w', hw', hfades⟩ :=
      h.waits.after (k := k) (a := w.toWaitCondition) (by simp [ledger, hk])
    have hl : l.waits[k]? = some w' := hw'
    rcases hfades with rfl | ⟨hwaiting, _, rfl, rfl⟩
    · by_cases hcancel : w.status = .waiting ∧ w.status = .cancelled
      · simp [hcancel.2] at hcancel
      · simp [absorb, hk, hl, hcancel]
    · have hwaiting : w.status = .waiting := hwaiting
      simp [absorb, hk, hl, hwaiting, WaitRow.cancelledAs]

/-- The store shows the rows that the ledger left. -/
theorem absorb_rows (h : Cancels s.ledger.rows l.rows) : (s.absorb l now).rows = l.rows := by
  simp only [rows, ledger, Ledger.rows, absorb_claims h, absorb_attempts h, absorb_waits h]
  rfl

/-- LEDGER: what a call does to the ledger, it does to the store. -/
theorem absorb_works (h : Goes P s.ledger l) : Works P s (s.absorb l now) := by
  refine ⟨absorb_rows h.cancels ▸ h.path, .map _ fun k c _ => ?_⟩
  split
  · rename_i hopen _
    exact .released c _ _ hopen
  · exact .inl rfl

/-! ### The calls -/

variable (s : WorkStore) (rt : WorkRuntime)

/-- `createTask` -/
def createTask (parsed : TaskInsert) (ctx : PrincipalContext) : Call (WorkStore × Task) := do
  refuse (parsed.status ≠ .open) (.error "Tasks must be created open; use a status transition to preserve engine timestamps and audit semantics")
  refuse (parsed.completionMode = .evidence ∧ Unstated parsed.successCriteria)
    (.error "Evidence-backed tasks require explicit successCriteria")
  refuse (parsed.validationRequired = true ∧ parsed.completionMode ≠ .evidence)
    (.error "Independently validated tasks must use evidence completion mode")
  let actor := ctx.actor.getD "system"
  let request := WorkRequest.createTask parsed actor ctx.principalId
  let retry ← s.prepareIdempotency rt ctx .taskCreate request (some request)
  s.idempotent retry priorTask fun s => do
    let (l, created) ← s.ledger.createTaskInTransaction rt.toRuntime parsed
      ⟨actor, ctx.principalId, ctx.now⟩
    pure (s.absorb l ctx.now, created,
      some ⟨parsed.id, some created.status.text, some created.revision, none⟩)

/-- `updateTask` -/
def updateTask (id : UuidV7) (parsed : TaskUpdate) (expectedRevision : Option ℕ)
    (ctx : PrincipalContext) : Call (WorkStore × Task) := do
  let identity ← s.prepareIdempotency rt ctx .taskUpdate
    (.updateTask id parsed expectedRevision) none
  s.idempotent identity priorTask fun s => do
    let (l, updated) ← s.ledger.updateTaskInTransaction rt.toRuntime id parsed
      ⟨ctx.actor.getD "system", ctx.principalId, ctx.now⟩ expectedRevision
    pure (s.absorb l ctx.now, updated,
      some ⟨id, some updated.status.text, some updated.revision, none⟩)

/-- `softDeleteTask`: a task deleted at time zero is deleted again. -/
def softDeleteTask (id : UuidV7) (cascade : Bool) (ctx : PrincipalContext) : Call WorkStore := do
  let actor := ctx.actor.getD "system"
  let found ← s.getTask id
  let existing ← demand found (.error s!"Task not found: {id}")
  if truthy existing.deletedAt then pure s
  else do
    let l := s.ledger
    let childIds := l.liveSubtaskIds id
    refuse (childIds ≠ [] ∧ cascade = false)
      (.error s!"Cannot delete task {id}: {childIds.length} live subtask(s) still reference it. Pass cascade to tombstone them too.")
    let l ← childIds.foldlM
      (Ledger.softDeleteFrom rt.toRuntime actor ctx.now (l.tasks.size + 1)) l
    let l ← l.closeAgentExecutionForDeletion rt.toRuntime id actor ctx.now
    let l := { l with tasks := l.tasks.modify id (Ledger.tombstone ctx.now) }
    let l ← l.recordEvent rt.toRuntime actor none
    pure (s.absorb l ctx.now)

/-- `restoreTask` -/
def restoreTask (id : UuidV7) (ctx : PrincipalContext) : Call (WorkStore × Task) := do
  let (l, restored) ← s.ledger.restoreTaskInTransaction rt.toRuntime id
    ⟨ctx.actor.getD "system", ctx.principalId, ctx.now⟩
  pure (s.absorb l ctx.now, restored)

/-! ### What they do -/

variable {s rt} {id : UuidV7} {ctx : PrincipalContext} {row : Task}

/-- CREATE: one new open task, at the root or where there is room. -/
theorem createTask_works {parsed : TaskInsert} (h : s.createTask rt parsed ctx = .ok (s', row)) :
    Works (· = .created) s s' := by
  simp only [createTask, bind_eq_ok] at h
  obtain ⟨-, -, -, -, -, -, _, -, h⟩ := h
  refine idempotent_works h fun retries s₁ outcome hrun => ?_
  simp only [bind_eq_ok, Prod.exists, pure_eq_ok, Prod.mk.injEq] at hrun
  obtain ⟨l, created, hcreate, rfl, -⟩ := hrun
  exact absorb_works (Ledger.createTaskInTransaction_goes hcreate)

/-- UPDATE: nothing, or one revised task. -/
theorem updateTask_works {parsed : TaskUpdate} {expectedRevision : Option ℕ}
    (h : s.updateTask rt id parsed expectedRevision ctx = .ok (s', row)) :
    Works (· = .revised) s s' := by
  simp only [updateTask, bind_eq_ok] at h
  obtain ⟨_, -, h⟩ := h
  refine idempotent_works h fun retries s₁ outcome hrun => ?_
  simp only [bind_eq_ok, Prod.exists, pure_eq_ok, Prod.mk.injEq] at hrun
  obtain ⟨l, updated, hupdate, rfl, -⟩ := hrun
  exact absorb_works (Ledger.updateTaskInTransaction_goes hupdate)

/-- DELETE: nothing, or the live subtree goes from the leaves up. -/
theorem softDeleteTask_works {cascade : Bool}
    (h : s.softDeleteTask rt id cascade ctx = .ok s') : Works Ledger.Deleting s s' := by
  simp only [softDeleteTask, bind_eq_ok, getTask, Ledger.getTask_eq_ok, demand_eq_ok] at h
  obtain ⟨_, ⟨hrow, -⟩, existing, rfl, h⟩ := h
  split at h
  · simp only [pure_eq_ok] at h
    exact h ▸ .refl s
  · simp only [bind_eq_ok, pure_eq_ok] at h
    obtain ⟨-, -, l₁, hchildren, l₂, hclose, l₃, hevent, rfl⟩ := h
    have hgoes : Goes Ledger.Deleting s.ledger l₁ :=
      foldlM_invariant _ (Goes Ledger.Deleting s.ledger) _
        (fun _ _ _ _ hm hstep => hm.trans (Ledger.softDeleteFrom_goes _ hstep)) (.refl _) hchildren
    have hkept : ∃ row₁, l₁.tasks[id]? = some row₁ := by
      obtain hsame | ⟨_, _, -, -, -, hbury⟩ := (Ledger.children_deletes
        (fun h => Ledger.softDeleteFrom_deletes _ h) hchildren).1.rows id
      · exact ⟨existing, hsame.trans hrow⟩
      · exact ⟨_, hbury⟩
    obtain ⟨row₁, hrow₁⟩ := hkept
    exact absorb_works
      (hgoes.trans (Ledger.bury_goes hrow₁ (Ledger.children_gone hchildren) hclose hevent))

/-- RESTORE: nothing, or a tombstone comes back. -/
theorem restoreTask_works (h : s.restoreTask rt id ctx = .ok (s', row)) :
    Works (· = .restored id) s s' := by
  simp only [restoreTask, bind_eq_ok, Prod.exists, pure_eq_ok, Prod.mk.injEq] at h
  obtain ⟨l, restored, hrestore, rfl, -⟩ := h
  exact absorb_works (Ledger.restoreTaskInTransaction_goes hrestore)

end WorkStore

end Tasq
