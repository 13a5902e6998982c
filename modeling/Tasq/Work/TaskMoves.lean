import Mathlib.Tactic
import Tasq.TaskDeletion
import Tasq.TaskEffects
import Tasq.Work.Moves

/-! The task verbs as paths of moves: what creating, updating, deleting and restoring tasks does to
    the rows of a workspace.

    A deletion goes from the leaves up. It closes what is open on a task before the row becomes a
    tombstone, and leaves no live child under a tombstone. -/

namespace Tasq

open Outcome OpenRows

namespace Ledger

variable {rt : Runtime} {l l' l₁ l₂ : Ledger} {id : UuidV7} {row : Task} {ctx : TaskContext}
  {P Q : Move → Prop}

/-- Admitted moves lead from `l` to `l'`, and nothing opens. -/
structure Goes (P : Move → Prop) (l l' : Ledger) : Prop where
  path : OpenRows.Path P l.rows l'.rows
  cancels : Cancels l.rows l'.rows

theorem Goes.refl (l : Ledger) : Goes P l l := ⟨.refl _, .refl _⟩

theorem Goes.trans (h : Goes P l l₁) (h' : Goes P l₁ l₂) : Goes P l l₂ :=
  ⟨h.path.append h'.path, h.cancels.trans h'.cancels⟩

theorem Goes.of_rows (h : l'.rows = l.rows) : Goes P l l' := by
  refine ⟨.of_eq h, ?_⟩
  rw [h]
  exact .refl _

/-- A move that leaves claims, attempts and waits alone. -/
theorem Goes.task {m : Move} (hm : P m) (hrows : l'.rows = l.rows.WithTask id row)
    (htakes : l.rows.Takes (l.rows.WithTask id row) m) : Goes P l l' := by
  refine ⟨.one hm (hrows ▸ htakes), ?_⟩
  rw [hrows]
  exact .of_eq rfl rfl rfl

theorem SameWork.rows (h : SameWork l l') : l'.rows = l.rows := by
  rw [h]
  rfl

theorem recordEvent_goes {actor : String} {principalId : Option String}
    (h : l.recordEvent rt actor principalId = .ok l') : Goes P l l' :=
  .of_rows (recordEvent_sameWork h).rows

/-! ### Create -/

/-- The parent that a scope keeps is live. -/
theorem resolveScope_parent {input : TaskScopeInput} {scope : CanonicalTaskScope}
    (h : l.resolveScope input = .ok scope) :
    scope.parentTaskId = input.parentTaskId ∧ ∀ p ∈ scope.parentTaskId, LiveIn l.tasks p := by
  simp only [resolveScope, bind_eq_ok, refuse_eq_ok] at h
  obtain ⟨-, -, h⟩ := h
  split at h
  · rename_i hnone
    simp only [pure_eq_ok] at h
    subst h
    exact ⟨hnone.symm, by simp⟩
  · rename_i p hp
    simp only [bind_eq_ok, refuse_eq_ok, not_not, pure_eq_ok, getTask_eq_ok] at h
    obtain ⟨parent, ⟨hrow, -⟩, -, ⟨prow, hprow, hlive⟩, rfl⟩ := h
    refine ⟨hp.symm, ?_⟩
    rintro _ ⟨⟩
    exact ⟨prow, hrow.trans hprow, hlive⟩

/-- Inserting an open task where there is room. -/
theorem insertTask_goes (h : l.insertTask id row = .ok l₁) (hstatus : row.status = .open)
    (hcompleted : row.completedAt = none) (hdeleted : row.deletedAt = none)
    (hroom : l.rows.Room row.parentTaskId) : Goes (· = .created) l l₁ := by
  obtain ⟨-, hfresh, -, -, rfl⟩ := insertTask_eq_ok.1 h
  refine Goes.task (m := .created) rfl rfl ⟨id, row, ⟨?_, hstatus, hcompleted, hdeleted⟩, hroom, rfl⟩
  exact fun hmem => hfresh (.inl hmem)

/-- CREATE: one new open task, at the root or where there is room. -/
theorem createTaskInTransaction_goes {parsed : TaskInsert}
    (h : l.createTaskInTransaction rt parsed ctx = .ok (l', row)) : Goes (· = .created) l l' := by
  simp only [createTaskInTransaction, bind_eq_ok, refuse_eq_ok, not_not] at h
  obtain ⟨-, hstatus, -, -, -, -, scope, hscope, h⟩ := h
  obtain ⟨-, hlive⟩ := resolveScope_parent hscope
  split at h
  · rename_i hparent
    simp only [bind_eq_ok, pure_eq_ok, Prod.mk.injEq] at h
    obtain ⟨l₁, hinsert, l₂, hevent, -, -, -, -, rfl, -⟩ := h
    refine (insertTask_goes hinsert hstatus rfl rfl ?_).trans (recordEvent_goes hevent)
    simp [Room, hparent]
  · rename_i p hparent
    simp only [bind_eq_ok, refuse_eq_ok, not_lt, pure_eq_ok, Prod.mk.injEq] at h
    obtain ⟨d, hd, -, hroom, l₁, hinsert, l₂, hevent, -, -, -, -, rfl, -⟩ := h
    refine (insertTask_goes hinsert hstatus rfl rfl ?_).trans (recordEvent_goes hevent)
    intro q hq
    obtain rfl : p = q := Option.some.inj (hparent.symm.trans hq)
    exact ⟨hlive p hq, d, getTaskDepth_depth hd (by omega), hroom⟩

/-! ### Update -/

/-- The checks of a move under another parent. -/
theorem assertReparent_rehangs {before desired : Option UuidV7} {u : Unit}
    (h : l.assertReparent id before desired = .ok u)
    (hlive : ∀ p ∈ desired, LiveIn l.tasks p) : desired = before ∨ l.rows.Rehangs id desired := by
  unfold assertReparent at h
  split at h
  · rename_i hsame
    exact .inl hsame
  · split at h
    · exact .inr (by simp [Rehangs])
    · rename_i p hne
      simp only [bind_eq_ok, refuse_eq_ok, not_lt] at h
      obtain ⟨-, -, _, hcycle, d, hd, hle⟩ := h
      refine .inr ?_
      rintro _ ⟨⟩
      refine ⟨hlive p rfl, assertNoReparentCycle_below hcycle, d, getTaskDepth_depth hd (by omega),
        fun k j hj => ?_⟩
      have : j ≤ l.subtreeHeight id := subtreeHeight_below hj (by omega)
      omega

/-- UPDATE: nothing, or a change that keeps status and life, under a parent where it fits. -/
theorem updateTaskInTransaction_goes {parsed : TaskUpdate} {expectedRevision : Option ℕ}
    (h : l.updateTaskInTransaction rt id parsed ctx expectedRevision = .ok (l', row)) :
    Goes (· = .revised) l l' := by
  simp only [updateTaskInTransaction, bind_eq_ok, refuse_eq_ok, getTask_eq_ok, demand_eq_ok] at h
  obtain ⟨_, ⟨hrow, -⟩, before, rfl, -, -, -, -, -, -, -, -, h⟩ := h
  split at h
  · simp only [pure_eq_ok, Prod.mk.injEq] at h
    obtain ⟨rfl, -⟩ := h
    exact .refl l
  · simp only [bind_eq_ok, refuse_eq_ok, pure_eq_ok, Prod.mk.injEq] at h
    obtain ⟨_, hparent, scope, hscope, -, -, -, -, -, -, l₁, hevent, rfl, -⟩ := h
    obtain ⟨hsame, hlive⟩ := resolveScope_parent hscope
    refine Goes.trans ?_ (recordEvent_goes hevent)
    refine Goes.task (m := .revised) rfl rfl ⟨id, before, _, hrow, ?_, ?_, .inl ?_, ?_, rfl⟩
    · rfl
    · rfl
    · rfl
    exact hsame ▸ assertReparent_rehangs hparent (hsame ▸ hlive)

/-! ### Closing what is open on a deleted task -/

/-- The claim is released when it is one of the task. -/
def releaseOf (taskId : UuidV7) (now : UnixMs) (c : TaskClaim) : TaskClaim :=
  if (c.taskId = taskId && c.releasedAt.isNone) = true then { c with releasedAt := some now } else c

/-- The attempt is cancelled when it is an active one of the task. -/
def cancelOf (taskId : UuidV7) (a : TaskAttempt) : TaskAttempt :=
  if (a.taskId = taskId && (a.status = .running || a.status = .inputRequired)) = true then
    { a with status := .cancelled }
  else a

/-- The wait is cancelled when it is a waiting one of the task. -/
def cancelWaitOf (taskId : UuidV7) (w : WaitCondition) : WaitCondition :=
  if (w.taskId = taskId && w.status = .waiting) = true then { w with status := .cancelled } else w

/-- The rows with nothing open on the task. -/
def closedRows (taskId : UuidV7) (now : UnixMs) (r : OpenRows) : OpenRows where
  tasks := r.tasks
  claims := r.claims.map fun _ => releaseOf taskId now
  attempts := r.attempts.map fun _ => cancelOf taskId
  waits := r.waits.map fun _ => cancelWaitOf taskId

variable {actor : String} {now : UnixMs} {taskId : UuidV7}

theorem releaseClaim_rows {k : UuidV7} (h : releaseClaim rt actor now l k = .ok l') :
    l'.rows = { l.rows with
      claims := l.claims.modify k fun c => { c with releasedAt := some now } } := by
  unfold releaseClaim at h
  split at h
  · rename_i hnone
    obtain rfl : l = l' := by simpa using h
    rw [Table.modify_of_none hnone]
    rfl
  · rename_i c hc
    simp only [bind_eq_ok, refuse_eq_ok] at h
    obtain ⟨-, -, h⟩ := h
    rw [(recordEvent_sameWork h).rows, Table.modify_of_some hc]
    rfl

theorem cancelAttempt_rows {k : UuidV7} (h : cancelAttempt rt actor now l k = .ok l') :
    l'.rows = { l.rows with
      attempts := l.attempts.modify k fun a => { a with status := .cancelled } } := by
  unfold cancelAttempt at h
  split at h
  · rename_i hnone
    obtain rfl : l = l' := by simpa using h
    rw [Table.modify_of_none hnone]
    rfl
  · rename_i a ha
    simp only [bind_eq_ok, refuse_eq_ok] at h
    obtain ⟨-, -, h⟩ := h
    rw [(recordEvent_sameWork h).rows, Table.modify_of_some ha]
    rfl

theorem cancelWait_rows {k : UuidV7} (h : cancelWait rt actor now l k = .ok l') :
    l'.rows = { l.rows with
      waits := l.waits.modify k fun w => { w with status := .cancelled } } := by
  unfold cancelWait at h
  split at h
  · rename_i hnone
    obtain rfl : l = l' := by simpa using h
    rw [Table.modify_of_none hnone]
    rfl
  · rename_i w hw
    simp only [bind_eq_ok, refuse_eq_ok] at h
    obtain ⟨-, -, h⟩ := h
    rw [(recordEvent_sameWork h).rows, Table.modify_of_some hw]
    rfl

theorem foldl_claims (r : OpenRows) (ks : List UuidV7) (g : TaskClaim → TaskClaim) :
    ks.foldl (fun r k => { r with claims := r.claims.modify k g }) r =
      { r with claims := ks.foldl (fun t k => t.modify k g) r.claims } := by
  induction ks generalizing r with
  | nil => rfl
  | cons k ks ih => rw [List.foldl_cons, ih, List.foldl_cons]

theorem foldl_attempts (r : OpenRows) (ks : List UuidV7) (g : TaskAttempt → TaskAttempt) :
    ks.foldl (fun r k => { r with attempts := r.attempts.modify k g }) r =
      { r with attempts := ks.foldl (fun t k => t.modify k g) r.attempts } := by
  induction ks generalizing r with
  | nil => rfl
  | cons k ks ih => rw [List.foldl_cons, ih, List.foldl_cons]

theorem foldl_waits (r : OpenRows) (ks : List UuidV7) (g : WaitCondition → WaitCondition) :
    ks.foldl (fun r k => { r with waits := r.waits.modify k g }) r =
      { r with waits := ks.foldl (fun t k => t.modify k g) r.waits } := by
  induction ks generalizing r with
  | nil => rfl
  | cons k ks ih => rw [List.foldl_cons, ih, List.foldl_cons]

/-- A loop of cancelled waits over the waiting ones of a task. -/
theorem cancelWaits_rows (h : (Table.keysWhere l.waits fun _ w =>
      w.taskId = taskId && w.status = .waiting).foldlM (cancelWait rt actor now) l = .ok l') :
    l'.rows = { l.rows with waits := l.waits.map fun _ => cancelWaitOf taskId } := by
  rw [foldlM_project (cancelWait rt actor now) rows
      (fun r k => { r with waits := r.waits.modify k fun w => { w with status := .cancelled } })
      (fun _ _ _ => cancelWait_rows) h, foldl_waits]
  simp only [rows]
  rw [Table.foldl_modify_keysWhere (g := fun w : WaitCondition => { w with status := .cancelled })
    fun _ => rfl]
  rfl

/-- CLOSE: nothing stays open on the task, and nothing else changes. -/
theorem closeAgentExecution_rows
    (h : l.closeAgentExecutionForDeletion rt taskId actor now = .ok l') :
    l'.rows = closedRows taskId now l.rows := by
  simp only [closeAgentExecutionForDeletion, bind_eq_ok] at h
  obtain ⟨l₁, h₁, l₂, h₂, h₃⟩ := h
  have hclaims : l₁.rows = { l.rows with claims := l.claims.map fun _ => releaseOf taskId now } := by
    rw [foldlM_project (releaseClaim rt actor now) rows
        (fun r k => { r with claims := r.claims.modify k fun c => { c with releasedAt := some now } })
        (fun _ _ _ => releaseClaim_rows) h₁, foldl_claims]
    simp only [rows]
    rw [Table.foldl_modify_keysWhere (g := fun c : TaskClaim => { c with releasedAt := some now })
      fun _ => rfl]
    rfl
  have hattempts : l₂.rows = { l₁.rows with attempts := l₁.attempts.map fun _ => cancelOf taskId } := by
    rw [foldlM_project (cancelAttempt rt actor now) rows
        (fun r k => { r with
          attempts := r.attempts.modify k fun a => { a with status := .cancelled } })
        (fun _ _ _ => cancelAttempt_rows) h₂, foldl_attempts]
    simp only [rows]
    rw [Table.foldl_modify_keysWhere (g := fun a : TaskAttempt => { a with status := .cancelled })
      fun _ => rfl]
    rfl
  have h₁a : l₁.attempts = l.attempts := congrArg OpenRows.attempts hclaims
  have h₂w : l₂.waits = l.waits :=
    (congrArg OpenRows.waits hattempts).trans (congrArg OpenRows.waits hclaims)
  rw [cancelWaits_rows h₃, hattempts, hclaims, h₁a, h₂w]
  rfl

theorem closedRows_cancels (r : OpenRows) : Cancels r (closedRows taskId now r) where
  claims := .map _ fun _ c _ => by
    unfold releaseOf
    split
    · rename_i h
      simp only [Bool.and_eq_true, Option.isNone_iff_eq_none] at h
      exact .inr ⟨h.2, now, rfl⟩
    · exact .inl rfl
  attempts := .map _ fun _ a _ => by
    unfold cancelOf
    split
    · rename_i h
      simp only [Bool.and_eq_true, Bool.or_eq_true, decide_eq_true_eq] at h
      exact .inr ⟨h.2, _, rfl, rfl⟩
    · exact .inl rfl
  waits := .map _ fun _ w _ => by
    unfold cancelWaitOf
    split
    · rename_i h
      simp only [Bool.and_eq_true, decide_eq_true_eq] at h
      exact .inr ⟨h.2, _, rfl, rfl⟩
    · exact .inl rfl

theorem closedRows_idle (r : OpenRows) : (closedRows taskId now r).Idle taskId where
  claims k c hc htask := by
    simp only [closedRows, Std.ExtTreeMap.getElem?_map, Option.map_eq_some_iff] at hc
    obtain ⟨c₀, -, rfl⟩ := hc
    unfold releaseOf at htask ⊢
    split at htask <;> rename_i h <;> simp_all
  attempts k a ha htask := by
    simp only [closedRows, Std.ExtTreeMap.getElem?_map, Option.map_eq_some_iff] at ha
    obtain ⟨a₀, -, rfl⟩ := ha
    unfold cancelOf at htask ⊢
    split at htask <;> rename_i h <;> simp_all [AttemptStatus.Active]
  waits k w hw htask := by
    simp only [closedRows, Std.ExtTreeMap.getElem?_map, Option.map_eq_some_iff] at hw
    obtain ⟨w₀, -, rfl⟩ := hw
    unfold cancelWaitOf at htask ⊢
    split at htask <;> rename_i h <;> simp_all

/-! ### Soft delete -/

/-- What a deletion is made of. -/
def Deleting (m : Move) : Prop := m = .closed ∨ m = .deleted

theorem closeAgentExecution_goes
    (h : l.closeAgentExecutionForDeletion rt taskId actor now = .ok l') : Goes Deleting l l' := by
  have hcancels : Cancels l.rows l'.rows := by
    rw [closeAgentExecution_rows h]
    exact closedRows_cancels _
  refine ⟨.one (.inl rfl) ⟨?_, hcancels.lapses⟩, hcancels⟩
  rw [closeAgentExecution_rows h]
  rfl

/-- The last steps of a deletion: close what is open, then leave a tombstone. -/
theorem bury_goes (hrow : l.tasks[id]? = some row) (hchildless : l.liveSubtaskIds id = [])
    (hclose : l.closeAgentExecutionForDeletion rt id actor now = .ok l₁)
    (hevent : Ledger.recordEvent rt { l₁ with tasks := l₁.tasks.modify id (tombstone now) } actor none =
      .ok l') : Goes Deleting l l' := by
  refine ((closeAgentExecution_goes hclose).trans ?_).trans (recordEvent_goes hevent)
  have htasks : l₁.tasks = l.tasks := congrArg OpenRows.tasks (closeAgentExecution_rows hclose)
  have hrow₁ : l₁.tasks[id]? = some row := htasks ▸ hrow
  rw [Table.modify_of_some hrow₁]
  refine Goes.task (m := .deleted) (.inr rfl) rfl
    ⟨id, row, tombstone now row, hrow₁, by simp [tombstone], rfl, rfl, rfl, ?_, ?_, rfl⟩
  · rw [closeAgentExecution_rows hclose]
    exact closedRows_idle _
  · intro k child hchild hparent hlive
    have hmem : k ∈ l.liveSubtaskIds id :=
      mem_liveSubtaskIds.2 ⟨child, htasks ▸ hchild, hparent, hlive⟩
    simp [hchildless] at hmem

/-- After the deletion of its live children, a task has none. -/
theorem children_gone {depth : ℕ}
    (h : (l.liveSubtaskIds id).foldlM (softDeleteFrom rt actor now depth) l = .ok l') :
    l'.liveSubtaskIds id = [] := by
  rw [List.eq_nil_iff_forall_not_mem]
  intro k hk
  obtain ⟨child, hchild, hparent, hlive⟩ := mem_liveSubtaskIds.1 hk
  have hdeletes : Deletes now (Below id) l l' :=
    (children_deletes (fun h => softDeleteFrom_deletes depth h) h).1
  obtain ⟨before, hbefore, hsame⟩ := hdeletes.parent hchild
  by_cases hlive₀ : before.deletedAt = none
  · have hgone : NotLive k l' :=
      foldlM_establishes _ (NotLive k)
        (mem_liveSubtaskIds.2 ⟨before, hbefore, hsame.trans hparent, hlive₀⟩)
        (fun _ _ => softDelete_notLive)
        (fun _ _ _ hm hstep => (softDeleteFrom_deletes depth hstep).notLive hm) h
    exact hgone child hchild hlive
  · have hkept := hdeletes.tombstoned hbefore hlive₀
    rw [hchild, Option.some.injEq] at hkept
    exact hlive₀ (hkept ▸ hlive)

/-- DELETE: the subtree goes from the leaves up. -/
theorem softDeleteFrom_goes (depth : ℕ) {l l' : Ledger} {id : UuidV7}
    (h : softDeleteFrom rt actor now depth l id = .ok l') : Goes Deleting l l' := by
  induction depth generalizing l l' id with
  | zero => cases h
  | succ depth ih =>
    by_cases hdead : NotLive id l
    · rw [softDelete_skip hdead, Except.ok.injEq] at h
      exact h ▸ .refl l
    · simp only [NotLive, not_forall, not_not] at hdead
      obtain ⟨row, hrow, hlive⟩ := hdead
      obtain ⟨l₁, l₂, hchildren, hclose, hevent⟩ := (softDeleteFrom_succ hrow hlive).1 h
      have hgoes : Goes Deleting l l₁ :=
        foldlM_invariant _ (Goes Deleting l) _ (fun _ _ _ _ hm hstep => hm.trans (ih hstep))
          (.refl l) hchildren
      have hkept : ∃ row₁, l₁.tasks[id]? = some row₁ := by
        obtain hsame | ⟨_, _, -, -, -, hbury⟩ :=
          (children_deletes (fun h => softDeleteFrom_deletes depth h) hchildren).1.rows id
        · exact ⟨row, hsame.trans hrow⟩
        · exact ⟨_, hbury⟩
      obtain ⟨row₁, hrow₁⟩ := hkept
      exact hgoes.trans (bury_goes hrow₁ (children_gone hchildren) hclose hevent)

/-! ### Restore -/

/-- A completed restore wrote the restored row, or left the rows alone. -/
theorem restore_cases (h : l.restoreTaskInTransaction rt id ctx = .ok (l', row)) :
    l' = l ∨ ∃ before, l.tasks[id]? = some before ∧ before.deletedAt ≠ none ∧
      row.parentTaskId = before.parentTaskId ∧
      Ledger.recordEvent rt { l with tasks := l.tasks.insert id (restoredRow before ctx.now) }
        ctx.actor ctx.principalId = .ok l' := by
  simp only [restoreTaskInTransaction, bind_eq_ok, getTask_eq_ok, demand_eq_ok] at h
  obtain ⟨_, ⟨hrow, -⟩, before, rfl, h⟩ := h
  split at h
  · simp only [pure_eq_ok, Prod.mk.injEq] at h
    exact .inl h.1.symm
  · rename_i hdead
    have hread : ∀ {l₁ : Ledger}, Ledger.recordEvent rt
        { l with tasks := l.tasks.insert id (restoredRow before ctx.now) }
        ctx.actor ctx.principalId = .ok l₁ → l₁.tasks[id]? = some row →
        row.parentTaskId = before.parentTaskId := by
      intro l₁ hevent hget
      rw [(recordEvent_sameWork hevent).tasks] at hget
      simp only [Std.ExtTreeMap.getElem?_insert_self, Option.some.injEq] at hget
      rw [← hget]
      rfl
    refine .inr ⟨before, hrow, fun hnone => hdead (by simp [hnone, truthy]), ?_⟩
    split at h
    · simp only [bind_eq_ok, pure_eq_ok, getTask_eq_ok, demand_eq_ok, Prod.mk.injEq] at h
      obtain ⟨-, -, l₂, hevent, _, ⟨hget, -⟩, _, rfl, rfl, rfl⟩ := h
      exact ⟨hread hevent hget, hevent⟩
    · simp only [bind_eq_ok, pure_eq_ok, getTask_eq_ok, demand_eq_ok, Prod.mk.injEq] at h
      obtain ⟨-, -, -, -, -, -, -, -, l₂, hevent, _, ⟨hget, -⟩, _, rfl, rfl, rfl⟩ := h
      exact ⟨hread hevent hget, hevent⟩

/-- RESTORE: nothing, or a tombstone comes back. -/
theorem restoreTaskInTransaction_goes (h : l.restoreTaskInTransaction rt id ctx = .ok (l', row)) :
    Goes (· = .restored id) l l' := by
  obtain rfl | ⟨before, hrow, hdead, -, hevent⟩ := restore_cases h
  · exact .refl _
  · refine Goes.trans ?_ (recordEvent_goes hevent)
    exact Goes.task (m := .restored id) rfl rfl ⟨before, _, hrow, hdead, rfl, rfl⟩

end Ledger

end Tasq
