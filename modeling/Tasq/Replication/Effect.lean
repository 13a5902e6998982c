import Mathlib.Tactic
import Tasq.Replication.Command
import Tasq.TaskDeletion

/-! What a replicated command makes of a commitment, and when the task service admits it.

    `serviceOutcome` is the effect as a function of the projection before it. The four lemmas
    `apply_create`, `apply_update`, `apply_delete` and `apply_restore` say exactly when a command
    completes on a ledger and what it leaves; nothing after this module opens the task service. -/

namespace Tasq

open Outcome Ledger

/-! ### Projections -/

/-- The projection of a row. -/
def projectionOf (id : UuidV7) (row : Task) : ReplicatedCommitmentSnapshot := { row with id := id }

/-- The row has a projection. -/
structure Task.Projectable (row : Task) : Prop where
  flat : row.Flat
  assertion : row.validationRequired = false

theorem taskToProjection_eq_ok {id : UuidV7} {row : Task} {s : ReplicatedCommitmentSnapshot} :
    taskToProjection id row = .ok s ↔ row.Projectable ∧ s = projectionOf id row := by
  simp only [taskToProjection, bind_eq_ok, refuse_eq_ok, pure_eq_ok, exists_const, not_or,
    Bool.not_eq_true, Option.isSome_eq_false_iff, Option.isNone_iff_eq_none]
  constructor
  · rintro ⟨⟨hp, hg, ha, ht⟩, hv, rfl⟩
    exact ⟨⟨⟨hp, hg, ha, ht⟩, hv⟩, rfl⟩
  · rintro ⟨⟨⟨hp, hg, ha, ht⟩, hv⟩, rfl⟩
    exact ⟨⟨hp, hg, ha, ht⟩, hv, rfl⟩

/-- The row as the projection finds it. -/
structure Projects (l : Ledger) (id : UuidV7) (row : Task) : Prop where
  found : l.tasks[id]? = some row
  bounded : CriteriaBounded row.successCriteria
  projectable : row.Projectable

theorem Projects.getTask {l : Ledger} {id : UuidV7} {row : Task} (h : Projects l id row) :
    l.getTask id = .ok (some row) := by
  rw [getTask_eq_ok]
  exact ⟨h.found, by simpa using h.bounded⟩

theorem projects_iff {l : Ledger} {id : UuidV7} {row : Task} :
    Projects l id row ↔ l.getTask id = .ok (some row) ∧ row.Projectable := by
  refine ⟨fun h => ⟨h.getTask, h.projectable⟩, fun ⟨h, hp⟩ => ?_⟩
  rw [getTask_eq_ok] at h
  exact ⟨h.1, h.2 row rfl, hp⟩

theorem getProjection_eq_none {l : Ledger} {id : UuidV7} :
    getProjection l id = .ok none ↔ l.tasks[id]? = none := by
  simp only [getProjection, bind_eq_ok, getTask_eq_ok]
  constructor
  · rintro ⟨o, ⟨ho, -⟩, h⟩
    cases o with
    | none => exact ho
    | some row => simp [map_eq_ok] at h
  · exact fun h => ⟨none, ⟨h, by simp⟩, rfl⟩

theorem getProjection_eq_some {l : Ledger} {id : UuidV7} {s : ReplicatedCommitmentSnapshot} :
    getProjection l id = .ok (some s) ↔ ∃ row, Projects l id row ∧ s = projectionOf id row := by
  simp only [getProjection, bind_eq_ok, projects_iff]
  constructor
  · rintro ⟨o, ho, h⟩
    cases o with
    | none => simp at h
    | some row =>
      simp only [bind_eq_ok, taskToProjection_eq_ok, pure_eq_ok, Option.some.injEq] at h
      obtain ⟨-, ⟨hp, rfl⟩, rfl⟩ := h
      exact ⟨row, ⟨ho, hp⟩, rfl⟩
  · rintro ⟨row, ⟨ho, hp⟩, rfl⟩
    refine ⟨some row, ho, ?_⟩
    simp only [bind_eq_ok, taskToProjection_eq_ok, pure_eq_ok]
    exact ⟨_, ⟨hp, rfl⟩, rfl⟩

/-! ### The effect of a command -/

/-- What the task service makes of a commitment: its projection after the command, if the command
    applies to the projection before. -/
def serviceOutcome (command : ReplicationCommand) (now : UnixMs)
    (before : Option ReplicatedCommitmentSnapshot) : Option ReplicatedCommitmentSnapshot :=
  match command, before with
  | .createCommitment input, none => some (projectionOf input.id (createdRow input now))
  | .createCommitment _, some _ => none
  | .updateCommitment _ patch, some s =>
    some (if patch.1.apply s.toCommitmentFields = s.toCommitmentFields then s
      else { s with toCommitmentFields := patch.1.apply s.toCommitmentFields, updatedAt := now })
  | .deleteCommitment _, some s =>
    some (if s.deletedAt = none then { s with deletedAt := some now, updatedAt := now } else s)
  | .restoreCommitment _, some s =>
    some (if truthy s.deletedAt = true then { s with deletedAt := none, updatedAt := now } else s)
  | _, none => none

section

variable {rt : Runtime} {l l' : Ledger} {ctx : TaskContext} {s : ReplicatedCommitmentSnapshot}

theorem createdRow_projectable (input : ReplicatedCommitmentCreate) (now : UnixMs) :
    (createdRow input now).Projectable :=
  ⟨⟨rfl, rfl, rfl, rfl⟩, rfl⟩

/-- CREATE: exactly when it completes, and what it leaves. -/
theorem apply_create (input : ReplicatedCommitmentCreate) :
    applyCommandInTransaction rt l (.createCommitment input) ctx = .ok (l', s) ↔
      (CreateAdmitted input ∧ ¬ l.HasTask input.id) ∧
        s = projectionOf input.id (createdRow input ctx.now) ∧
        Ledger.recordEvent rt
          { l with tasks := l.tasks.insert input.id (createdRow input ctx.now) }
          ctx.actor ctx.principalId = .ok l' := by
  simp only [applyCommandInTransaction, bind_eq_ok, Prod.exists, create_eq_ok,
    taskToProjection_eq_ok, pure_eq_ok, Prod.mk.injEq]
  constructor
  · rintro ⟨l₁, row, ⟨hadm, hfresh, rfl, hrec⟩, s', ⟨-, rfl⟩, rfl, rfl⟩
    exact ⟨⟨hadm, hfresh⟩, rfl, hrec⟩
  · rintro ⟨⟨hadm, hfresh⟩, rfl, hrec⟩
    exact ⟨l', _, ⟨hadm, hfresh, rfl, hrec⟩, _, ⟨createdRow_projectable input ctx.now, rfl⟩, rfl, rfl⟩

theorem patchedRow_projectable {patch : ReplicatedCommitmentPatch} {before : Task} {now : UnixMs}
    (h : before.Projectable) : (patchedRow patch before now).Projectable :=
  ⟨⟨h.flat.project, h.flat.goal, h.flat.area, h.flat.parent⟩, h.assertion⟩

/-- UPDATE: exactly when it completes, and what it leaves. -/
theorem apply_update (id : UuidV7) (patch : { p : ReplicatedCommitmentPatch // p.Nonempty }) :
    applyCommandInTransaction rt l (.updateCommitment id patch) ctx = .ok (l', s) ↔
      ∃ before, Projects l id before ∧
        UpdateAdmitted patch.1 before.toCommitmentFields before.status before.deletedAt ∧
        (patch.1.apply before.toCommitmentFields = before.toCommitmentFields ∧ l' = l ∧
            s = projectionOf id before ∨
          patch.1.apply before.toCommitmentFields ≠ before.toCommitmentFields ∧
            s = projectionOf id (patchedRow patch.1 before ctx.now) ∧
            Ledger.recordEvent rt
              { l with tasks := l.tasks.insert id (patchedRow patch.1 before ctx.now) }
              ctx.actor ctx.principalId = .ok l') := by
  simp only [applyCommandInTransaction, bind_eq_ok, Prod.exists, demand_eq_ok,
    taskToProjection_eq_ok, pure_eq_ok, Prod.mk.injEq, projects_iff]
  constructor
  · rintro ⟨_, hget, before, rfl, _, ⟨hp, -⟩, l₁, row, hupdate, s', ⟨-, rfl⟩, rfl, rfl⟩
    rw [update_eq_ok patch.1 ctx row hget hp.flat hp.assertion] at hupdate
    obtain ⟨hadm, ⟨hsame, rfl, rfl⟩ | ⟨hne, rfl, hrec⟩⟩ := hupdate
    · exact ⟨_, ⟨hget, hp⟩, hadm, .inl ⟨hsame, rfl, rfl⟩⟩
    · exact ⟨before, ⟨hget, hp⟩, hadm, .inr ⟨hne, rfl, hrec⟩⟩
  · rintro ⟨before, ⟨hget, hp⟩, hadm, hwrite⟩
    refine ⟨_, hget, before, rfl, _, ⟨hp, rfl⟩, ?_⟩
    obtain ⟨hsame, rfl, rfl⟩ | ⟨hne, rfl, hrec⟩ := hwrite
    · exact ⟨l', before, (update_eq_ok patch.1 ctx _ hget hp.flat hp.assertion).2
        ⟨hadm, .inl ⟨hsame, rfl, rfl⟩⟩, _, ⟨hp, rfl⟩, rfl, rfl⟩
    · exact ⟨l', _, (update_eq_ok patch.1 ctx _ hget hp.flat hp.assertion).2
        ⟨hadm, .inr ⟨hne, rfl, hrec⟩⟩, _, ⟨patchedRow_projectable hp, rfl⟩, rfl, rfl⟩

/-- The row of a deleted task: its tombstone, or the tombstone that it was. -/
def deletedRow (before : Task) (now : UnixMs) : Task :=
  if before.deletedAt = none then tombstone now before else before

theorem deletedRow_projectable {before : Task} {now : UnixMs} (h : before.Projectable) :
    (deletedRow before now).Projectable := by
  unfold deletedRow
  split
  · exact ⟨⟨h.flat.project, h.flat.goal, h.flat.area, h.flat.parent⟩, h.assertion⟩
  · exact h

/-- A completed deletion leaves the deleted row. -/
theorem softDelete_projects {id : UuidV7} {before : Task} {actor : String} {now : UnixMs}
    (hb : Projects l id before) (h : l.softDeleteTaskTx rt id actor now = .ok l') :
    Projects l' id (deletedRow before now) where
  found := by
    unfold deletedRow
    split
    · rename_i hlive
      exact softDelete_row hb.found hlive hb.projectable.flat.parent h
    · rename_i hdead
      exact (softDeleteFrom_deletes _ h).tombstoned hb.found hdead
  bounded := by
    unfold deletedRow
    split <;> exact hb.bounded
  projectable := deletedRow_projectable hb.projectable

/-- DELETE: exactly when it completes, and what it leaves. -/
theorem apply_delete (id : UuidV7) :
    applyCommandInTransaction rt l (.deleteCommitment id) ctx = .ok (l', s) ↔
      ∃ before, Projects l id before ∧ l.softDeleteTaskTx rt id ctx.actor ctx.now = .ok l' ∧
        s = projectionOf id (deletedRow before ctx.now) := by
  simp only [applyCommandInTransaction, bind_eq_ok, demand_eq_ok, taskToProjection_eq_ok,
    pure_eq_ok, Prod.mk.injEq]
  constructor
  · rintro ⟨_, hget, before, rfl, _, ⟨hp, -⟩, l₁, hdelete, _, hafter, after, rfl, s', ⟨-, rfl⟩, rfl,
      rfl⟩
    have hb := projects_iff.2 ⟨hget, hp⟩
    obtain rfl : deletedRow before ctx.now = after := by
      simpa [(softDelete_projects hb hdelete).getTask] using hafter
    exact ⟨before, hb, hdelete, rfl⟩
  · rintro ⟨before, hb, hdelete, rfl⟩
    have ha := softDelete_projects hb hdelete
    exact ⟨_, hb.getTask, before, rfl, _, ⟨hb.projectable, rfl⟩, l', hdelete, _, ha.getTask, _, rfl,
      _, ⟨ha.projectable, rfl⟩, rfl, rfl⟩

/-- A restore keeps the scope of the row. -/
theorem restore_scope {id : UuidV7} {row : Task}
    (h : l.restoreTaskInTransaction rt id ctx = .ok (l', row)) :
    ∃ before, l.getTask id = .ok (some before) ∧ (row.Projectable → before.Projectable) := by
  simp only [restoreTaskInTransaction, bind_eq_ok, demand_eq_ok] at h
  obtain ⟨_, hget, before, rfl, h⟩ := h
  refine ⟨before, hget, ?_⟩
  split at h
  · simp only [pure_eq_ok, Prod.mk.injEq] at h
    obtain ⟨-, rfl⟩ := h
    exact fun hp => hp
  · have hback {l₁ : Ledger} {r : Task}
        (hrec : Ledger.recordEvent rt { l with tasks := l.tasks.insert id (restoredRow before ctx.now) }
          ctx.actor ctx.principalId = .ok l₁) (hr : l₁.getTask id = .ok (some r)) :
        r.Projectable → before.Projectable := by
      rw [getTask_eq_ok, (recordEvent_sameWork hrec).tasks, Std.ExtTreeMap.getElem?_insert_self,
        Option.some.injEq] at hr
      rintro ⟨⟨hproject, hgoal, harea, hparent⟩, hvalid⟩
      rw [← hr.1] at hproject hgoal harea hparent hvalid
      exact ⟨⟨hproject, hgoal, harea, hparent⟩, hvalid⟩
    split at h
    · simp only [bind_eq_ok, demand_eq_ok, pure_eq_ok, Prod.mk.injEq] at h
      obtain ⟨-, -, l₁, hrec, _, hr, _, rfl, -, rfl⟩ := h
      exact hback hrec hr
    · simp only [bind_eq_ok, demand_eq_ok, pure_eq_ok, Prod.mk.injEq] at h
      obtain ⟨-, -, -, -, -, -, -, -, l₁, hrec, _, hr, _, rfl, -, rfl⟩ := h
      exact hback hrec hr

theorem restoredRow_projectable {before : Task} {now : UnixMs} (h : before.Projectable) :
    (restoredRow before now).Projectable :=
  ⟨⟨h.flat.project, h.flat.goal, h.flat.area, h.flat.parent⟩, h.assertion⟩

/-- RESTORE: exactly when it completes, and what it leaves. -/
theorem apply_restore (id : UuidV7) :
    applyCommandInTransaction rt l (.restoreCommitment id) ctx = .ok (l', s) ↔
      ∃ before, Projects l id before ∧
        (truthy before.deletedAt = false ∧ l' = l ∧ s = projectionOf id before ∨
          truthy before.deletedAt = true ∧ s = projectionOf id (restoredRow before ctx.now) ∧
            Ledger.recordEvent rt { l with tasks := l.tasks.insert id (restoredRow before ctx.now) }
              ctx.actor ctx.principalId = .ok l') := by
  simp only [applyCommandInTransaction, bind_eq_ok, Prod.exists, taskToProjection_eq_ok,
    pure_eq_ok, Prod.mk.injEq, projects_iff]
  constructor
  · rintro ⟨l₁, row, hrestore, s', ⟨hp, rfl⟩, rfl, rfl⟩
    obtain ⟨before, hget, hpb⟩ := restore_scope hrestore
    rw [restore_eq_ok ctx row hget (hpb hp).flat] at hrestore
    refine ⟨before, ⟨hget, hpb hp⟩, ?_⟩
    obtain ⟨hlive, rfl, rfl⟩ | ⟨hdead, rfl, hrec⟩ := hrestore
    · exact .inl ⟨hlive, rfl, rfl⟩
    · exact .inr ⟨hdead, rfl, hrec⟩
  · rintro ⟨before, ⟨hget, hp⟩, ⟨hlive, rfl, rfl⟩ | ⟨hdead, rfl, hrec⟩⟩
    · exact ⟨l', before, (restore_eq_ok ctx _ hget hp.flat).2 (.inl ⟨hlive, rfl, rfl⟩), _, ⟨hp, rfl⟩,
        rfl, rfl⟩
    · exact ⟨l', _, (restore_eq_ok ctx _ hget hp.flat).2 (.inr ⟨hdead, rfl, hrec⟩), _,
        ⟨restoredRow_projectable hp, rfl⟩, rfl, rfl⟩

/-! ### One statement for the four commands -/

/-- A command that completes had a projection to start from, and answers with its outcome. -/
theorem apply_outcome {command : ReplicationCommand}
    (h : applyCommandInTransaction rt l command ctx = .ok (l', s)) :
    ∃ before, getProjection l (operationRecordId command) = .ok before ∧
      serviceOutcome command ctx.now before = some s := by
  cases command with
  | createCommitment input =>
    obtain ⟨⟨-, hfresh⟩, rfl, -⟩ := (apply_create input).1 h
    refine ⟨none, getProjection_eq_none.2 ?_, rfl⟩
    simp only [HasTask, not_or] at hfresh
    simpa [operationRecordId] using hfresh.1
  | updateCommitment id patch =>
    obtain ⟨before, hb, -, ⟨hsame, rfl, rfl⟩ | ⟨hne, rfl, -⟩⟩ := (apply_update id patch).1 h
    · refine ⟨projectionOf id before, getProjection_eq_some.2 ⟨before, hb, rfl⟩, ?_⟩
      simp [serviceOutcome, projectionOf, hsame]
    · refine ⟨projectionOf id before, getProjection_eq_some.2 ⟨before, hb, rfl⟩, ?_⟩
      simp [serviceOutcome, projectionOf, hne, patchedRow]
  | deleteCommitment id =>
    obtain ⟨before, hb, -, rfl⟩ := (apply_delete id).1 h
    refine ⟨projectionOf id before, getProjection_eq_some.2 ⟨before, hb, rfl⟩, ?_⟩
    by_cases hlive : before.deletedAt = none <;>
      simp [serviceOutcome, projectionOf, deletedRow, hlive, tombstone]
  | restoreCommitment id =>
    obtain ⟨before, hb, ⟨hlive, rfl, rfl⟩ | ⟨hdead, rfl, -⟩⟩ := (apply_restore id).1 h
    · refine ⟨projectionOf id before, getProjection_eq_some.2 ⟨before, hb, rfl⟩, ?_⟩
      simp [serviceOutcome, projectionOf, hlive]
    · refine ⟨projectionOf id before, getProjection_eq_some.2 ⟨before, hb, rfl⟩, ?_⟩
      simp [serviceOutcome, projectionOf, hdead, restoredRow]

/-- The projection after a command is its answer. -/
theorem apply_after {command : ReplicationCommand}
    (h : applyCommandInTransaction rt l command ctx = .ok (l', s)) :
    ∃ row, Projects l' (operationRecordId command) row ∧
      s = projectionOf (operationRecordId command) row := by
  have hwritten {id : UuidV7} {row : Task}
      (hrec : Ledger.recordEvent rt { l with tasks := l.tasks.insert id row } ctx.actor
        ctx.principalId = .ok l') (hc : CriteriaBounded row.successCriteria)
      (hp : row.Projectable) : Projects l' id row :=
    ⟨by rw [(recordEvent_sameWork hrec).tasks]; simp, hc, hp⟩
  cases command with
  | createCommitment input =>
    obtain ⟨-, rfl, hrec⟩ := (apply_create input).1 h
    exact ⟨_, hwritten hrec input.criteria_bounded (createdRow_projectable input ctx.now), rfl⟩
  | updateCommitment id patch =>
    obtain ⟨before, hb, -, ⟨-, rfl, rfl⟩ | ⟨-, rfl, hrec⟩⟩ := (apply_update id patch).1 h
    · exact ⟨before, hb, rfl⟩
    · exact ⟨_, hwritten hrec (criteriaBounded_apply patch.1 hb.bounded)
        (patchedRow_projectable hb.projectable), rfl⟩
  | deleteCommitment id =>
    obtain ⟨before, hb, hdelete, rfl⟩ := (apply_delete id).1 h
    exact ⟨_, softDelete_projects hb hdelete, rfl⟩
  | restoreCommitment id =>
    obtain ⟨before, hb, ⟨-, rfl, rfl⟩ | ⟨-, rfl, hrec⟩⟩ := (apply_restore id).1 h
    · exact ⟨before, hb, rfl⟩
    · exact ⟨_, hwritten hrec hb.bounded (restoredRow_projectable hb.projectable), rfl⟩

/-- FRAME: a command other than a deletion writes its record alone. -/
theorem apply_frame {command : ReplicationCommand} {k : UuidV7}
    (h : applyCommandInTransaction rt l command ctx = .ok (l', s))
    (hcommand : command.isDelete = false)
    (hk : k ≠ operationRecordId command) : l'.tasks[k]? = l.tasks[k]? := by
  have hwritten {id : UuidV7} {row : Task}
      (hrec : Ledger.recordEvent rt { l with tasks := l.tasks.insert id row } ctx.actor
        ctx.principalId = .ok l') (hk : k ≠ id) : l'.tasks[k]? = l.tasks[k]? := by
    rw [(recordEvent_sameWork hrec).tasks, Table.getElem?_insert', if_neg hk.symm]
  cases command with
  | createCommitment input => exact hwritten ((apply_create input).1 h).2.2 hk
  | updateCommitment id patch =>
    obtain ⟨before, -, -, ⟨-, rfl, -⟩ | ⟨-, -, hrec⟩⟩ := (apply_update id patch).1 h
    · rfl
    · exact hwritten hrec hk
  | deleteCommitment id => cases hcommand
  | restoreCommitment id =>
    obtain ⟨before, -, ⟨-, rfl, -⟩ | ⟨-, -, hrec⟩⟩ := (apply_restore id).1 h
    · rfl
    · exact hwritten hrec hk

/-- FRAME: a command leaves the surroundings of the tasks alone, and brings no other record into
    being. -/
theorem apply_surroundings {command : ReplicationCommand}
    (h : applyCommandInTransaction rt l command ctx = .ok (l', s)) :
    l'.workspaceId = l.workspaceId ∧ l'.references = l.references ∧
      l'.otherTaskIds = l.otherTaskIds ∧
      ∀ k, k ≠ operationRecordId command → l.tasks[k]? = none → l'.tasks[k]? = none := by
  have hwritten {id : UuidV7} {row : Task}
      (hrec : Ledger.recordEvent rt { l with tasks := l.tasks.insert id row } ctx.actor
        ctx.principalId = .ok l') : l'.workspaceId = l.workspaceId ∧ l'.references = l.references ∧
      l'.otherTaskIds = l.otherTaskIds ∧ ∀ k, k ≠ id → l.tasks[k]? = none → l'.tasks[k]? = none := by
    have hsame : l' = _ := recordEvent_sameWork hrec
    rw [hsame]
    refine ⟨rfl, rfl, rfl, fun k hk hnone => ?_⟩
    rw [Table.getElem?_insert', if_neg hk.symm, hnone]
  have hleft : l.workspaceId = l.workspaceId ∧ l.references = l.references ∧
      l.otherTaskIds = l.otherTaskIds ∧ ∀ k, k ≠ operationRecordId command →
        l.tasks[k]? = none → l.tasks[k]? = none := ⟨rfl, rfl, rfl, fun _ _ hnone => hnone⟩
  cases command with
  | createCommitment input => exact hwritten ((apply_create input).1 h).2.2
  | updateCommitment id patch =>
    obtain ⟨before, -, -, ⟨-, rfl, -⟩ | ⟨-, -, hrec⟩⟩ := (apply_update id patch).1 h
    · exact hleft
    · exact hwritten hrec
  | deleteCommitment id =>
    obtain ⟨before, -, hdelete, -⟩ := (apply_delete id).1 h
    have hdeletes := softDeleteFrom_deletes _ hdelete
    refine ⟨hdeletes.workspaceId, hdeletes.references, hdeletes.otherTaskIds, fun k _ hnone => ?_⟩
    obtain hsame | ⟨row, _, -, hrow, -⟩ := hdeletes.rows k
    · exact hsame.trans hnone
    · rw [hnone] at hrow
      cases hrow
  | restoreCommitment id =>
    obtain ⟨before, -, ⟨-, rfl, -⟩ | ⟨-, -, hrec⟩⟩ := (apply_restore id).1 h
    · exact hleft
    · exact hwritten hrec

/-- FRAME: a command takes no record away. -/
theorem apply_present {command : ReplicationCommand} {k : UuidV7}
    (h : applyCommandInTransaction rt l command ctx = .ok (l', s)) (hk : k ∈ l.tasks) :
    k ∈ l'.tasks := by
  by_cases hrecord : k = operationRecordId command
  · obtain ⟨row, hrow, -⟩ := apply_after h
    exact Table.mem_of_getElem? (hrecord ▸ hrow.found)
  obtain ⟨row, hrow⟩ : ∃ row, l.tasks[k]? = some row :=
    ⟨_, Std.ExtTreeMap.getElem?_eq_some_getElem hk⟩
  by_cases hdelete : command.isDelete = true
  · cases command <;> try cases hdelete
    obtain ⟨-, -, hdeleted, -⟩ := (apply_delete _).1 h
    obtain hsame | ⟨_, _, -, -, -, hdead⟩ := (softDeleteFrom_deletes _ hdeleted).rows k
    · exact Table.mem_of_getElem? (hsame.trans hrow)
    · exact Table.mem_of_getElem? hdead
  · exact Table.mem_of_getElem? ((apply_frame h (by simpa using hdelete) hrecord).trans hrow)

end

end Tasq
