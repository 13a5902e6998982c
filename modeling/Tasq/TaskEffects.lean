import Mathlib.Tactic
import Tasq.Tasks

/-! What the task verbs do to the rows, for the inputs that replication gives them: tasks without
    parent and planning scope. One lemma states when each verb completes and the one row it writes;
    callers use the lemma and never open the verb. -/

namespace Tasq

open Text Outcome

/-- The row is in no hierarchy. -/
structure Task.Flat (row : Task) : Prop where
  project : row.projectId = none
  goal : row.goalId = none
  area : row.areaId = none
  parent : row.parentTaskId = none

/-- The insert that a replicated create makes. -/
def TaskInsert.ofCreate (input : ReplicatedCommitmentCreate) : TaskInsert :=
  { toCommitmentFields := input.toCommitmentFields, id := input.id }

/-- The update that a replicated patch makes. -/
def TaskUpdate.ofPatch (patch : ReplicatedCommitmentPatch) : TaskUpdate :=
  { toReplicatedCommitmentPatch := patch }

namespace Ledger

variable {rt : Runtime} {l l' : Ledger}

/-! ### Create -/

/-- The row that a replicated create writes. -/
def createdRow (input : ReplicatedCommitmentCreate) (now : UnixMs) : Task :=
  { input with
    projectId := none, goalId := none, areaId := none, parentTaskId := none
    validationRequired := false, status := .open, startedAt := none, completedAt := none
    lastDoneAt := none, streak := 0, recurrenceParentId := none
    revision := 1, createdAt := now, updatedAt := now, deletedAt := none }

/-- The create states criteria when it is in evidence mode. -/
def CreateAdmitted (input : ReplicatedCommitmentCreate) : Prop :=
  ¬ (input.completionMode = .evidence ∧ Unstated input.successCriteria)

instance (input : ReplicatedCommitmentCreate) : Decidable (CreateAdmitted input) := by
  unfold CreateAdmitted; infer_instance

/-- The service's check on criteria is as strong as the evidence trigger of the database. -/
theorem evidenceStated_of_stated {mode : CompletionMode} {criteria : Option String}
    (h : ¬ (mode = .evidence ∧ Unstated criteria)) : EvidenceStated mode criteria := by
  intro hmode
  simp only [hmode, Unstated, true_and] at h
  push Not at h
  obtain ⟨s, hs, hblank⟩ := h
  exact ⟨s, hs, sqlTrim_ne_empty hblank⟩

/-- Without planning scope and parent, the flat policy has nothing to check. -/
@[simp] theorem resolveScope_flat (inherited : Bool) :
    l.resolveScope ⟨none, none, none, none, inherited⟩ = .ok ⟨none, none, none, none⟩ := by
  simp [resolveScope, refuse_of_not]

/-- CREATE: completes on a fresh id, with stated criteria and an actor that can be named, and
    writes the one row. -/
theorem create_eq_ok (input : ReplicatedCommitmentCreate) (ctx : TaskContext) (row : Task) :
    l.createTaskInTransaction rt (.ofCreate input) ctx = .ok (l', row) ↔
      CreateAdmitted input ∧ ¬ l.HasTask input.id ∧ row = createdRow input ctx.now ∧
        Ledger.recordEvent rt
          { l with tasks := l.tasks.insert input.id (createdRow input ctx.now) }
          ctx.actor ctx.principalId = .ok l' := by
  simp only [createTaskInTransaction, bind_eq_ok, refuse_eq_ok]
  simp only [TaskInsert.ofCreate, resolveScope_flat, Except.ok.injEq, exists_eq_left', exists_const,
    bind_eq_ok, insertTask_eq_ok, demand_eq_ok]
  have hread : ∀ {l₁ : Ledger}, Ledger.recordEvent rt
      { l with tasks := l.tasks.insert input.id (createdRow input ctx.now) }
      ctx.actor ctx.principalId = .ok l₁ →
      l₁.getTask input.id = .ok (some (createdRow input ctx.now)) :=
    fun h => recordEvent_readBack (by simp) input.criteria_bounded h
  constructor
  · rintro ⟨-, hadm, -, _, ⟨-, hfresh, -, -, rfl⟩, l₁, hrec, row', hget, row'', rfl, hpair⟩
    change Ledger.recordEvent rt { l with tasks := l.tasks.insert input.id (createdRow input ctx.now) }
      ctx.actor ctx.principalId = .ok l₁ at hrec
    rw [hread hrec] at hget
    simp only [Except.ok.injEq, Option.some.injEq, pure_eq_ok, Prod.mk.injEq] at hget hpair
    obtain ⟨rfl, rfl⟩ := hpair
    exact ⟨hadm, hfresh, hget.symm, hrec⟩
  · rintro ⟨hadm, hfresh, rfl, hrec⟩
    exact ⟨by simp, hadm, by simp, _,
      ⟨evidenceStated_of_stated hadm, hfresh, by simp, by simp, rfl⟩, l', hrec, _, hread hrec, _,
      rfl, rfl⟩

/-! ### Update -/

/-- What the service asks of a commitment before it patches it. -/
structure UpdateAdmitted (patch : ReplicatedCommitmentPatch) (fields : CommitmentFields)
    (status : TaskStatus) (deletedAt : Option UnixMs) : Prop where
  live : truthy deletedAt = false
  stated : ¬ ((patch.apply fields).completionMode = .evidence ∧
    Unstated (patch.apply fields).successCriteria)
  reopened : ¬ (Terminal status ∧ (patch.completionMode.isSome ∨ patch.successCriteria.isSome))

instance (patch : ReplicatedCommitmentPatch) (fields : CommitmentFields) (status : TaskStatus)
    (deletedAt : Option UnixMs) : Decidable (UpdateAdmitted patch fields status deletedAt) :=
  decidable_of_iff (_ ∧ _ ∧ _) ⟨fun h => ⟨h.1, h.2.1, h.2.2⟩, fun h => ⟨h.1, h.2, h.3⟩⟩

/-- The row after a patch that changes it. -/
def patchedRow (patch : ReplicatedCommitmentPatch) (before : Task) (now : UnixMs) : Task :=
  { before with
    toCommitmentFields := patch.apply before.toCommitmentFields
    revision := before.revision + 1
    updatedAt := now }

/-- A patch keeps the criteria within their bounds. -/
theorem criteriaBounded_apply (patch : ReplicatedCommitmentPatch) {f : CommitmentFields}
    (h : CriteriaBounded f.successCriteria) : CriteriaBounded (patch.apply f).successCriteria := by
  obtain hp | ⟨c, hp⟩ := Option.eq_none_or_eq_some patch.successCriteria
  · simpa [ReplicatedCommitmentPatch.apply, hp] using h
  · intro s hs
    simp only [ReplicatedCommitmentPatch.apply, hp, Option.map_some, Option.getD_some,
      Option.mem_def, Option.map_eq_some_iff] at hs
    obtain ⟨t, -, rfl⟩ := hs
    exact t.2

/-- A replicated patch has text for the editable fields alone. -/
theorem updateChanges_ofPatch (patch : ReplicatedCommitmentPatch) (before : Task) :
    updateChanges (.ofPatch patch) before = false ↔
      patch.apply before.toCommitmentFields = before.toCommitmentFields := by
  rw [← not_iff_not, Bool.not_eq_false]
  simp [updateChanges, TaskUpdate.ofPatch, ← patch.differs_stringify]

/-- UPDATE: completes on an admitted row, and writes the patched row unless the patch changes
    nothing. -/
theorem update_eq_ok {id : UuidV7} {before : Task} (patch : ReplicatedCommitmentPatch)
    (ctx : TaskContext) (row : Task) (hrow : l.getTask id = .ok (some before))
    (hflat : before.Flat) (hvalid : before.validationRequired = false) :
    l.updateTaskInTransaction rt id (.ofPatch patch) ctx (some before.revision) = .ok (l', row) ↔
      UpdateAdmitted patch before.toCommitmentFields before.status before.deletedAt ∧
        (patch.apply before.toCommitmentFields = before.toCommitmentFields ∧ l' = l ∧ row = before ∨
          patch.apply before.toCommitmentFields ≠ before.toCommitmentFields ∧
            row = patchedRow patch before ctx.now ∧
            Ledger.recordEvent rt
              { l with tasks := l.tasks.insert id (patchedRow patch before ctx.now) }
              ctx.actor ctx.principalId = .ok l') := by
  have hread : Ledger.getTask { l with tasks := l.tasks.insert id (patchedRow patch before ctx.now) }
      id = .ok (some (patchedRow patch before ctx.now)) := by
    rw [getTask_eq_ok] at hrow ⊢
    exact ⟨by simp, by simpa [patchedRow] using criteriaBounded_apply patch (by simpa using hrow.2)⟩
  obtain ⟨fields, engine, _, _, _, _, _, revision, createdAt, updatedAt, deletedAt⟩ := before
  obtain ⟨rfl, rfl, rfl, rfl⟩ := hflat
  obtain rfl : _ = false := hvalid
  simp only [updateTaskInTransaction, hrow, ok_bind, bind_eq_ok, refuse_eq_ok, demand_eq_ok,
    Option.some.injEq, exists_eq_left', exists_const]
  by_cases hsame : patch.apply fields = fields
  · rw [if_pos ((updateChanges_ofPatch patch _).2 hsame)]
    simp only [pure_eq_ok, Prod.mk.injEq]
    constructor
    · rintro ⟨hlive, hstated, -, hopen, rfl, rfl⟩
      exact ⟨⟨by simpa using hlive, hstated, by simpa [TaskUpdate.ofPatch] using hopen⟩,
        .inl ⟨hsame, rfl, rfl⟩⟩
    · rintro ⟨⟨hlive, hstated, hopen⟩, ⟨-, rfl, rfl⟩ | ⟨hne, -⟩⟩
      · exact ⟨by simp [hlive], hstated, by simp [TaskUpdate.ofPatch],
          by simpa [TaskUpdate.ofPatch] using hopen, rfl, rfl⟩
      · exact absurd hsame hne
  · rw [if_neg (mt (updateChanges_ofPatch patch _).1 hsame)]
    simp only [assertReparent, TaskUpdate.ofPatch, Option.getD_none, if_true, Option.isSome_none,
      Bool.false_eq_true, Option.join_none, Option.mem_def, reduceCtorEq, false_and, exists_false,
      or_self, if_false, resolveScope_flat, Option.some.injEq, exists_eq_left', ne_eq,
      not_true_eq_false, pure_bind, ok_bind, refuse_of_not _ not_false]
    simp only [patchedRow] at hread ⊢
    simp only [hread, demand, ok_bind, bind_eq_ok, pure_eq_ok, Prod.mk.injEq, not_false_eq_true,
      true_and, or_false]
    constructor
    · rintro ⟨hlive, hstated, hopen, l₁, hrec, rfl, rfl⟩
      exact ⟨⟨by simpa using hlive, hstated, hopen⟩, .inr ⟨hsame, rfl, hrec⟩⟩
    · rintro ⟨⟨hlive, hstated, hopen⟩, ⟨heq, -⟩ | ⟨-, rfl, hrec⟩⟩
      · exact absurd heq hsame
      · exact ⟨by simp [hlive], hstated, hopen, l', hrec, rfl, rfl⟩

/-! ### Restore -/

/-- The row after a restore. -/
def restoredRow (before : Task) (now : UnixMs) : Task :=
  { before with deletedAt := none, updatedAt := now, revision := before.revision + 1 }

/-- RESTORE: leaves a row that is not a (truthy) tombstone, and writes the restored row otherwise. -/
theorem restore_eq_ok {id : UuidV7} {before : Task} (ctx : TaskContext) (row : Task)
    (hrow : l.getTask id = .ok (some before)) (hflat : before.Flat) :
    l.restoreTaskInTransaction rt id ctx = .ok (l', row) ↔
      truthy before.deletedAt = false ∧ l' = l ∧ row = before ∨
        truthy before.deletedAt = true ∧ row = restoredRow before ctx.now ∧
          Ledger.recordEvent rt { l with tasks := l.tasks.insert id (restoredRow before ctx.now) }
            ctx.actor ctx.principalId = .ok l' := by
  have hread : ∀ {l₁ : Ledger}, Ledger.recordEvent rt
      { l with tasks := l.tasks.insert id (restoredRow before ctx.now) }
      ctx.actor ctx.principalId = .ok l₁ →
      l₁.getTask id = .ok (some (restoredRow before ctx.now)) := by
    intro l₁ h
    rw [getTask_eq_ok] at hrow
    exact recordEvent_readBack (by simp) (by simpa [restoredRow] using hrow.2) h
  obtain ⟨fields, engine, _, _, _, _, validationRequired, revision, createdAt, updatedAt,
    deletedAt⟩ := before
  obtain ⟨rfl, rfl, rfl, rfl⟩ := hflat
  simp only [restoreTaskInTransaction, hrow, ok_bind, demand]
  by_cases hlive : truthy deletedAt = false
  · simp only [hlive, if_true, pure_eq_ok, Prod.mk.injEq, true_and, Bool.false_eq_true, false_and,
      or_false]
    constructor <;> (rintro ⟨rfl, rfl⟩; exact ⟨rfl, rfl⟩)
  · have hdead : truthy deletedAt = true := by simpa using hlive
    simp only [hdead, Bool.true_eq_false, if_false, assertLiveAncestors, Option.isSome_none,
      Bool.false_eq_true, or_self, refuse_of_not _ not_false, ok_bind, bind_eq_ok, false_and,
      true_and, false_or]
    constructor
    · rintro ⟨l₁, hrec, row', hget, hout⟩
      rw [hread hrec] at hget
      obtain rfl := Except.ok.inj hget
      simp only [pure_eq_ok, Prod.mk.injEq, exists_eq_left', Except.ok.injEq] at hout
      obtain ⟨rfl, rfl⟩ := hout
      exact ⟨rfl, hrec⟩
    · rintro ⟨rfl, hrec⟩
      exact ⟨l', hrec, _, hread hrec, by simp⟩

end Ledger

end Tasq
