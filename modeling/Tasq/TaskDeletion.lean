import Mathlib.Tactic
import Tasq.TaskEffects

/-! What a soft delete does to the rows: it turns live rows into tombstones and nothing else, on
    the deleted task and on rows below it.

    `Deletes` is what one deletion may change; it composes, so the recursion over the subtree keeps
    it (`softDeleteFrom_deletes`). From it follow the row of the task itself, the rows that stay,
    and the tombstones of its live children. -/

namespace Tasq

open Outcome

namespace Ledger

variable {rt : Runtime} {l l' : Ledger} {actor : String} {now : UnixMs}

/-- The same tasks and the same foreign keys; claims, attempts, waits and principals may differ. -/
structure SameTasks (l l' : Ledger) : Prop where
  tasks : l'.tasks = l.tasks
  workspaceId : l'.workspaceId = l.workspaceId
  references : l'.references = l.references
  otherTaskIds : l'.otherTaskIds = l.otherTaskIds

theorem SameTasks.refl (l : Ledger) : SameTasks l l := ⟨rfl, rfl, rfl, rfl⟩

theorem SameTasks.trans {a b c : Ledger} (h : SameTasks a b) (h' : SameTasks b c) :
    SameTasks a c :=
  ⟨h'.tasks.trans h.tasks, h'.workspaceId.trans h.workspaceId, h'.references.trans h.references,
    h'.otherTaskIds.trans h.otherTaskIds⟩

theorem SameWork.sameTasks (h : SameWork l l') : SameTasks l l' := by
  rw [h]
  exact ⟨rfl, rfl, rfl, rfl⟩

/-! ### Closing claims, attempts and waits -/

theorem releaseClaim_sameTasks {id : UuidV7} (h : releaseClaim rt actor now l id = .ok l') :
    SameTasks l l' := by
  unfold releaseClaim at h
  split at h
  · obtain rfl : l = l' := by simpa using h
    exact .refl l
  · simp only [bind_eq_ok, refuse_eq_ok] at h
    obtain ⟨-, -, h⟩ := h
    have hsame := (recordEvent_sameWork h).sameTasks
    exact ⟨hsame.tasks, hsame.workspaceId, hsame.references, hsame.otherTaskIds⟩

theorem cancelAttempt_sameTasks {id : UuidV7} (h : cancelAttempt rt actor now l id = .ok l') :
    SameTasks l l' := by
  unfold cancelAttempt at h
  split at h
  · obtain rfl : l = l' := by simpa using h
    exact .refl l
  · simp only [bind_eq_ok, refuse_eq_ok] at h
    obtain ⟨-, -, h⟩ := h
    have hsame := (recordEvent_sameWork h).sameTasks
    exact ⟨hsame.tasks, hsame.workspaceId, hsame.references, hsame.otherTaskIds⟩

theorem cancelWait_sameTasks {id : UuidV7} (h : cancelWait rt actor now l id = .ok l') :
    SameTasks l l' := by
  unfold cancelWait at h
  split at h
  · obtain rfl : l = l' := by simpa using h
    exact .refl l
  · simp only [bind_eq_ok, refuse_eq_ok] at h
    obtain ⟨-, -, h⟩ := h
    have hsame := (recordEvent_sameWork h).sameTasks
    exact ⟨hsame.tasks, hsame.workspaceId, hsame.references, hsame.otherTaskIds⟩

/-- A loop of steps that keep the tasks keeps the tasks. -/
theorem foldlM_sameTasks {f : Ledger → UuidV7 → Call Ledger}
    (step : ∀ {l l' : Ledger} {id : UuidV7}, f l id = .ok l' → SameTasks l l') (ids : List UuidV7)
    (h : ids.foldlM f l = .ok l') : SameTasks l l' :=
  foldlM_invariant f (SameTasks l) ids (fun _ _ _ _ hs hf => hs.trans (step hf)) (.refl l) h

theorem closeAgentExecution_sameTasks {id : UuidV7}
    (h : l.closeAgentExecutionForDeletion rt id actor now = .ok l') : SameTasks l l' := by
  simp only [closeAgentExecutionForDeletion, bind_eq_ok] at h
  obtain ⟨l₁, h₁, l₂, h₂, h₃⟩ := h
  exact ((foldlM_sameTasks releaseClaim_sameTasks _ h₁).trans
    (foldlM_sameTasks cancelAttempt_sameTasks _ h₂)).trans
    (foldlM_sameTasks cancelWait_sameTasks _ h₃)

/-! ### What a deletion may change -/

/-- `l'` is `l` with some live rows of `S` turned into tombstones. -/
structure Deletes (now : UnixMs) (S : UuidV7 → Task → Prop) (l l' : Ledger) : Prop where
  rows : ∀ k : UuidV7, l'.tasks[k]? = l.tasks[k]? ∨ ∃ row revision, S k row ∧
    l.tasks[k]? = some row ∧ row.deletedAt = none ∧
    l'.tasks[k]? = some { tombstone now row with revision := revision }
  workspaceId : l'.workspaceId = l.workspaceId
  references : l'.references = l.references
  otherTaskIds : l'.otherTaskIds = l.otherTaskIds

variable {S : UuidV7 → Task → Prop}

theorem SameTasks.deletes (h : SameTasks l l') : Deletes now S l l' :=
  ⟨fun k => .inl (by rw [h.tasks]), h.workspaceId, h.references, h.otherTaskIds⟩

/-- Deletions compose: a tombstone is not deleted again. -/
theorem Deletes.trans {a b c : Ledger} (h : Deletes now S a b) (h' : Deletes now S b c) :
    Deletes now S a c where
  rows k := by
    obtain hb | ⟨row, r, hS, ha, hlive, hb⟩ := h.rows k
    · obtain hc | ⟨row, r, hS, hb', hlive, hc⟩ := h'.rows k
      · exact .inl (hc.trans hb)
      · exact .inr ⟨row, r, hS, hb ▸ hb', hlive, hc⟩
    · obtain hc | ⟨row', _, -, hb', hlive', -⟩ := h'.rows k
      · exact .inr ⟨row, r, hS, ha, hlive, hc.trans hb⟩
      · rw [hb, Option.some.injEq] at hb'
        exact absurd hlive' (by simp [← hb', tombstone])
  workspaceId := h'.workspaceId.trans h.workspaceId
  references := h'.references.trans h.references
  otherTaskIds := h'.otherTaskIds.trans h.otherTaskIds

theorem Deletes.mono {S' : UuidV7 → Task → Prop} (h : Deletes now S l l')
    (hS : ∀ k row, l.tasks[k]? = some row → S k row → S' k row) : Deletes now S' l l' where
  rows k := (h.rows k).imp_right fun ⟨row, r, hrow, hl, hrest⟩ => ⟨row, r, hS k row hl hrow, hl, hrest⟩
  workspaceId := h.workspaceId
  references := h.references
  otherTaskIds := h.otherTaskIds

/-- A deletion leaves the parent of every row as it was. -/
theorem Deletes.parent (h : Deletes now S l l') {k : UuidV7} {row' : Task}
    (hrow' : l'.tasks[k]? = some row') :
    ∃ row, l.tasks[k]? = some row ∧ row.parentTaskId = row'.parentTaskId := by
  obtain hk | ⟨row, _, -, hk, -, hk'⟩ := h.rows k
  · exact ⟨row', hk ▸ hrow', rfl⟩
  · rw [hk', Option.some.injEq] at hrow'
    exact ⟨row, hk, hrow' ▸ rfl⟩

/-- A tombstone stays as it is. -/
theorem Deletes.tombstoned (h : Deletes now S l l') {k : UuidV7} {row : Task}
    (hrow : l.tasks[k]? = some row) (hdead : row.deletedAt ≠ none) : l'.tasks[k]? = some row := by
  obtain hk | ⟨row', _, -, hk, hlive, -⟩ := h.rows k
  · rw [hk, hrow]
  · rw [hrow, Option.some.injEq] at hk
    exact absurd (hk ▸ hlive) hdead

/-- A row outside `S` stays as it is. -/
theorem Deletes.kept (h : Deletes now S l l') {k : UuidV7}
    (hS : ∀ row, l.tasks[k]? = some row → ¬ S k row) : l'.tasks[k]? = l.tasks[k]? := by
  obtain hk | ⟨row, _, hrow, hk, -, -⟩ := h.rows k
  · exact hk
  · exact absurd hrow (hS row hk)

/-- Turning one more row into a tombstone. -/
theorem Deletes.modify {id : UuidV7} {row : Task} (h : Deletes now S l l')
    (hrow : l.tasks[id]? = some row) (hlive : row.deletedAt = none) (hS : S id row) :
    Deletes now S l { l' with tasks := l'.tasks.modify id (tombstone now) } where
  rows k := by
    rw [Std.ExtTreeMap.getElem?_modify]
    split
    · rename_i hk
      obtain rfl := Std.LawfulEqOrd.eq_of_compare hk
      obtain hid | ⟨row', r, -, hid, -, hid'⟩ := h.rows id
      · exact .inr ⟨row, row.revision + 1, hS, hrow, hlive, by rw [hid, hrow]; rfl⟩
      · obtain rfl : row = row' := by simpa [hrow] using hid
        exact .inr ⟨row, r + 1, hS, hrow, hlive, by rw [hid']; rfl⟩
    · exact h.rows k
  workspaceId := h.workspaceId
  references := h.references
  otherTaskIds := h.otherTaskIds

/-! ### The recursion over the subtree -/

theorem mem_liveSubtaskIds {id k : UuidV7} :
    k ∈ l.liveSubtaskIds id ↔
      ∃ row, l.tasks[k]? = some row ∧ row.parentTaskId = some id ∧ row.deletedAt = none := by
  simp [liveSubtaskIds, Table.mem_keysWhere]

/-- The task itself or a task that has a parent. -/
def Below (id k : UuidV7) (row : Task) : Prop := k = id ∨ row.parentTaskId ≠ none

/-- One level of a deletion: the children, then claims, attempts and waits, then the row. -/
theorem softDeleteFrom_succ {depth : ℕ} {id : UuidV7} {row : Task}
    (hrow : l.tasks[id]? = some row) (hlive : row.deletedAt = none) :
    softDeleteFrom rt actor now (depth + 1) l id = .ok l' ↔
      ∃ l₁ l₂, (l.liveSubtaskIds id).foldlM (softDeleteFrom rt actor now depth) l = .ok l₁ ∧
        l₁.closeAgentExecutionForDeletion rt id actor now = .ok l₂ ∧
        Ledger.recordEvent rt { l₂ with tasks := l₂.tasks.modify id (tombstone now) } actor none =
          .ok l' := by
  rw [softDeleteFrom]
  simp only [hrow, hlive, Option.isSome_none, Bool.false_eq_true, if_false, bind_eq_ok]
  tauto

/-- The children of a deletion stay within the subtree. -/
theorem children_deletes {depth : ℕ} {id : UuidV7}
    (ih : ∀ {l l' : Ledger} {id : UuidV7}, softDeleteFrom rt actor now depth l id = .ok l' →
      Deletes now (Below id) l l')
    (h : (l.liveSubtaskIds id).foldlM (softDeleteFrom rt actor now depth) l = .ok l') :
    Deletes now (Below id) l l' ∧ Deletes now (fun _ row => row.parentTaskId ≠ none) l l' := by
  suffices h' : Deletes now (fun _ row => row.parentTaskId ≠ none) l l' from
    ⟨h'.mono fun _ _ _ => .inr, h'⟩
  refine foldlM_invariant _ (Deletes now (fun _ row => row.parentTaskId ≠ none) l) _ ?_
    (SameTasks.refl l).deletes h
  intro m child m' hchild hm hstep
  obtain ⟨row, hrow, hparent, -⟩ := mem_liveSubtaskIds.1 hchild
  refine hm.trans ((ih hstep).mono ?_)
  rintro k row' hrow' (rfl | hk)
  · obtain ⟨row₀, hrow₀, hp⟩ := hm.parent hrow'
    rw [hrow, Option.some.injEq] at hrow₀
    rw [← hp, ← hrow₀, hparent]
    simp
  · exact hk

/-- INVARIANT: a deletion changes the task and tasks that have a parent, and only to tombstones. -/
theorem softDeleteFrom_deletes (depth : ℕ) {l l' : Ledger} {id : UuidV7}
    (h : softDeleteFrom rt actor now depth l id = .ok l') : Deletes now (Below id) l l' := by
  induction depth generalizing l l' id with
  | zero => cases h
  | succ depth ih =>
    obtain hnone | ⟨row, hrow⟩ := Option.eq_none_or_eq_some l.tasks[id]?
    · simp only [softDeleteFrom, hnone, pure_eq_ok] at h
      exact h ▸ (SameTasks.refl l).deletes
    by_cases hlive : row.deletedAt = none
    · obtain ⟨l₁, l₂, hchildren, hclose, hevent⟩ := (softDeleteFrom_succ hrow hlive).1 h
      have h₂ := (children_deletes ih hchildren).1.trans (closeAgentExecution_sameTasks hclose).deletes
      exact (h₂.modify hrow hlive (.inl rfl)).trans (recordEvent_sameWork hevent).sameTasks.deletes
    · have hdead : row.deletedAt.isSome = true := by simpa [Option.isSome_iff_ne_none] using hlive
      simp only [softDeleteFrom, hrow, hdead, if_true, pure_eq_ok] at h
      exact h ▸ (SameTasks.refl l).deletes

/-- DELETE: a live root becomes its tombstone. -/
theorem softDelete_row {depth : ℕ} {id : UuidV7} {row : Task} (hrow : l.tasks[id]? = some row)
    (hlive : row.deletedAt = none) (hroot : row.parentTaskId = none)
    (h : softDeleteFrom rt actor now (depth + 1) l id = .ok l') :
    l'.tasks[id]? = some (tombstone now row) := by
  obtain ⟨l₁, l₂, hchildren, hclose, hevent⟩ := (softDeleteFrom_succ hrow hlive).1 h
  have h₁ := (children_deletes (softDeleteFrom_deletes depth) hchildren).2
  have hid : l₂.tasks[id]? = some row := by
    rw [(closeAgentExecution_sameTasks hclose).tasks, h₁.kept, hrow]
    intro row' hrow' hne
    rw [hrow, Option.some.injEq] at hrow'
    exact hne (hrow' ▸ hroot)
  rw [(recordEvent_sameWork hevent).tasks]
  simp [hid]

/-- DELETE: a missing row or a tombstone is left alone. -/
theorem softDelete_skip {depth : ℕ} {id : UuidV7}
    (hdead : ∀ row, l.tasks[id]? = some row → row.deletedAt ≠ none) :
    softDeleteFrom rt actor now (depth + 1) l id = .ok l := by
  rw [softDeleteFrom]
  obtain hnone | ⟨row, hrow⟩ := Option.eq_none_or_eq_some l.tasks[id]?
  · simp [hnone]
  · have := hdead row hrow
    simp [hrow, Option.isSome_iff_ne_none, this]

/-- No live row is under `k`. -/
def NotLive (k : UuidV7) (l : Ledger) : Prop := ∀ row, l.tasks[k]? = some row → row.deletedAt ≠ none

/-- A deletion brings no row back to life. -/
theorem Deletes.notLive {k : UuidV7} (h : Deletes now S l l') (hk : NotLive k l) : NotLive k l' := by
  intro row' hrow'
  obtain hsame | ⟨row, _, -, -, -, hdead⟩ := h.rows k
  · exact hk row' (hsame ▸ hrow')
  · rw [hdead, Option.some.injEq] at hrow'
    simp [← hrow', tombstone]

/-- DELETE: afterwards the task is not live. -/
theorem softDelete_notLive {depth : ℕ} {id : UuidV7}
    (h : softDeleteFrom rt actor now depth l id = .ok l') : NotLive id l' := by
  cases depth with
  | zero => cases h
  | succ depth =>
    by_cases hdead : NotLive id l
    · rw [softDelete_skip hdead, Except.ok.injEq] at h
      exact h ▸ hdead
    · simp only [NotLive, not_forall, not_not] at hdead
      obtain ⟨row, hrow, hlive⟩ := hdead
      obtain ⟨l₁, l₂, -, -, hevent⟩ := (softDeleteFrom_succ hrow hlive).1 h
      intro row' hrow'
      rw [(recordEvent_sameWork hevent).tasks] at hrow'
      simp only [Std.ExtTreeMap.getElem?_modify_self, Option.map_eq_some_iff] at hrow'
      obtain ⟨row₂, -, rfl⟩ := hrow'
      simp [tombstone]

/-- DELETE: every live child of a live task ends as a tombstone. -/
theorem softDelete_child {depth : ℕ} {id child : UuidV7} {row crow : Task}
    (hrow : l.tasks[id]? = some row) (hlive : row.deletedAt = none)
    (hcrow : l.tasks[child]? = some crow) (hparent : crow.parentTaskId = some id)
    (hclive : crow.deletedAt = none)
    (h : softDeleteFrom rt actor now (depth + 1) l id = .ok l') :
    ∃ revision, l'.tasks[child]? = some { tombstone now crow with revision := revision } := by
  have hall := softDeleteFrom_deletes (depth + 1) h
  obtain ⟨l₁, l₂, hchildren, hclose, hevent⟩ := (softDeleteFrom_succ hrow hlive).1 h
  have h₁ : NotLive child l₁ :=
    foldlM_establishes _ (NotLive child) (mem_liveSubtaskIds.2 ⟨crow, hcrow, hparent, hclive⟩)
      (fun _ _ => softDelete_notLive)
      (fun _ _ _ hm hstep => (softDeleteFrom_deletes depth hstep).notLive hm) hchildren
  have hclosed : Deletes now (Below id) l₁ l₂ := (closeAgentExecution_sameTasks hclose).deletes
  have h₂ : NotLive child l₂ := hclosed.notLive h₁
  have h' : NotLive child l' := by
    intro crow' hcrow'
    rw [(recordEvent_sameWork hevent).tasks, Std.ExtTreeMap.getElem?_modify] at hcrow'
    split at hcrow'
    · obtain ⟨crow₂, -, rfl⟩ := Option.map_eq_some_iff.1 hcrow'
      simp [tombstone]
    · exact h₂ crow' hcrow'
  obtain hsame | ⟨crow', r, -, hcrow', -, hdead⟩ := hall.rows child
  · exact absurd hclive (h' crow (hsame.trans hcrow))
  · obtain rfl : crow = crow' := by simpa [hcrow] using hcrow'
    exact ⟨r, hdead⟩

/-- DELETE: without a live child, only the task itself changes. -/
theorem softDelete_childless {depth : ℕ} {id k : UuidV7} (hk : k ≠ id)
    (hchildless : l.liveSubtaskIds id = [])
    (h : softDeleteFrom rt actor now (depth + 1) l id = .ok l') : l'.tasks[k]? = l.tasks[k]? := by
  by_cases hdead : NotLive id l
  · rw [softDelete_skip hdead, Except.ok.injEq] at h
    rw [h]
  · simp only [NotLive, not_forall, not_not] at hdead
    obtain ⟨row, hrow, hlive⟩ := hdead
    obtain ⟨l₁, l₂, hchildren, hclose, hevent⟩ := (softDeleteFrom_succ hrow hlive).1 h
    simp only [hchildless, List.foldlM_nil, pure_eq_ok] at hchildren
    rw [(recordEvent_sameWork hevent).tasks, Std.ExtTreeMap.getElem?_modify,
      if_neg (fun heq => hk (Std.LawfulEqOrd.eq_of_compare heq).symm),
      (closeAgentExecution_sameTasks hclose).tasks, ← hchildren]

end Ledger

end Tasq
