import Mathlib.Tactic
import Tasq.Lib.Lineage
import Tasq.Lib.Run
import Tasq.Work.Transition

/-! The series of a recurring task over whole runs of status transitions.

    Every entry into done generates at most one successor. A reopened instance that is completed
    again is a new completion, and generates again; as long as that does not happen, the instances
    are one chain. -/

namespace Tasq

open Text Outcome OpenRows Run

/-- The work of a workspace, with the pairs of source and instance that the `instance_generated`
    events name. -/
structure SeriesStore extends WorkStore where
  generated : List (UuidV7 × UuidV7)
  /-- Those whose source had been completed before. -/
  repeated : List (UuidV7 × UuidV7)

/-- Status transitions; other calls leave tasks and records of completions alone. -/
inductive SeriesAction where
  | transition (id : UuidV7) (status : TaskStatus) (options : StatusChangeOptions)
      (ctx : PrincipalContext)
  | elsewhere (left : WorkStore)

namespace WorkStore

variable (s s' : WorkStore) (rt : WorkRuntime)

/-- The task has been completed. -/
def Completed (id : UuidV7) : Prop :=
  Table.has s.completions (fun _ c => c.taskId = id) = true

instance decidableCompleted (id : UuidV7) : Decidable (s.Completed id) := by
  unfold Completed; infer_instance

/-- The instance that a transition of the task from `s` to `s'` generated. -/
def generates (id : UuidV7) (options : StatusChangeOptions) : List (UuidV7 × UuidV7) :=
  (options.nextInstanceId.toList.filter fun next => next ∉ s.tasks ∧ next ∈ s'.tasks).map (id, ·)

end WorkStore

namespace SeriesStore

/-- One call. A refused transition changes nothing. -/
def step (rt : WorkRuntime) (s : SeriesStore) : SeriesAction → SeriesStore
  | .transition id status options ctx =>
    let s' := settle s.toWorkStore
      (Prod.fst <$> s.toWorkStore.transitionTaskStatus rt id status options ctx)
    let generated := s.toWorkStore.generates s' id options
    { toWorkStore := s'
      generated := s.generated ++ generated
      repeated := s.repeated ++ if s.Completed id then generated else [] }
  | .elsewhere left =>
    { s with toWorkStore := { left with tasks := s.tasks, completions := s.completions } }

/-- The instances of the series that begins with a task. -/
def instances (s : SeriesStore) (root : UuidV7) : List UuidV7 := Lineage.line root s.generated

end SeriesStore

/-! ### One transition -/

/-- No status leads to itself. -/
theorem TaskStatus.notMem_next (status : TaskStatus) : status ∉ status.next := by
  cases status <;> decide

namespace WorkStore

variable {s s' : WorkStore} {rt : WorkRuntime} {id : UuidV7} {status : TaskStatus} {now : UnixMs}

/-- Nothing is generated without a new task. -/
theorem generates_eq_nil {options : StatusChangeOptions}
    (htasks : ∀ k, k ∈ s'.tasks ↔ k ∈ s.tasks) : s.generates s' id options = [] := by
  simp only [generates, List.map_eq_nil_iff, List.filter_eq_nil_iff, decide_eq_true_eq]
  exact fun next _ h => h.1 ((htasks next).1 h.2)

theorem generates_eq_one {options : StatusChangeOptions} {n : UuidV7}
    (hnext : options.nextInstanceId = some n) (hfresh : n ∉ s.tasks) (hmem : n ∈ s'.tasks) :
    s.generates s' id options = [(id, n)] := by
  simp [generates, hnext, hfresh, hmem]

theorem cancelWaitingConditions_completions {actor : String}
    (h : s.cancelWaitingConditions rt id status actor now = .ok s') :
    s'.completions = s.completions := by
  unfold cancelWaitingConditions at h
  split at h
  · refine foldlM_invariant _ (fun t => t.completions = s.completions) _ ?_ rfl h
    intro t k t' _ ht hstep
    unfold cancelWaiting at hstep
    split at hstep
    · obtain rfl := (pure_eq_ok _ _).1 hstep
      exact ht
    · simp only [bind_eq_ok, Prod.exists] at hstep
      obtain ⟨t₁, _, hupdate, hevent⟩ := hstep
      obtain ⟨-, -, -, rfl⟩ := updateWait_eq_ok hupdate
      rw [recordEvent_eq hevent]
      exact ht
  · obtain rfl := (pure_eq_ok _ _).1 h
    rfl

/-- The completion is on record, beside those that were. -/
def Records (s s' : WorkStore) (id : UuidV7) : Prop := ∀ x, s'.Completed x ↔ s.Completed x ∨ x = id

theorem insertCompletion_records {c : CompletionRecord} {k : UuidV7}
    (h : s.insertCompletion k c = .ok s') : Records s s' c.taskId := by
  have hk : k ∉ s.completions := by
    simp only [insertCompletion, bind_eq_ok, refuse_eq_ok, not_or, pure_eq_ok] at h
    obtain ⟨-, -, -, -, -, -, -, -, -, -, -, ⟨hk, -⟩, -⟩ := h
    exact hk
  intro x
  rw [insertCompletion_eq h]
  simp only [Completed, Table.has_eq_true, decide_eq_true_eq, Table.getElem?_insert']
  constructor
  · rintro ⟨k', c', hc', rfl⟩
    split at hc'
    · obtain rfl := Option.some.inj hc'
      exact .inr rfl
    · exact .inl ⟨k', c', hc', rfl⟩
  · rintro (⟨k', c', hc', rfl⟩ | rfl)
    · refine ⟨k', c', ?_, rfl⟩
      rw [if_neg, hc']
      rintro rfl
      exact hk (Table.mem_of_getElem? hc')
    · exact ⟨k, c, by rw [if_pos rfl], rfl⟩

/-- What a transition does to a series. A transition that is no entry into done generates nothing
    and completes nothing; an entry into done is recorded, and generates at most one successor, of
    the same recurrence root. -/
inductive Spawns (s s' : WorkStore) (id : UuidV7) (status : TaskStatus)
    (next : Option UuidV7) : Prop
  | none (htasks : ∀ k, k ∈ s'.tasks ↔ k ∈ s.tasks)
      (hroot : ∀ (k : UuidV7) row, s.tasks[k]? = some row → ∃ row', s'.tasks[k]? = some row' ∧
        row'.recurrenceParentId = row.recurrenceParentId)
      (hcompleted : (∀ x, s'.Completed x ↔ s.Completed x) ∨ status = .done ∧ Records s s' id)
  | one (n : UuidV7) (before row : Task) (hdone : status = .done) (hnext : next = some n)
      (hbefore : s.tasks[id]? = some before) (hentry : before.status ≠ .done)
      (hfresh : n ∉ s.tasks) (htasks : ∀ k, k ∈ s'.tasks ↔ k ∈ s.tasks ∨ k = n)
      (hroot : ∀ (k : UuidV7) row, s.tasks[k]? = some row → ∃ row', s'.tasks[k]? = some row' ∧
        row'.recurrenceParentId = row.recurrenceParentId)
      (hrow : s'.tasks[n]? = some row)
      (hparent : row.recurrenceParentId = some (before.recurrenceParentId.getD id))
      (hcompleted : Records s s' id)

theorem completed_congr (h : s'.completions = s.completions) (x : UuidV7) :
    s'.Completed x ↔ s.Completed x := by
  rw [Completed, h, Completed]

theorem materialize_completions {completed : Task} {next : Option UuidV7} {actor : String}
    {occurredAt : UnixMs}
    (h : s.materialize rt id completed status next actor occurredAt = .ok s') :
    s'.completions = s.completions := by
  unfold materialize at h
  split at h
  · simp only [bind_eq_ok] at h
    obtain ⟨l, -, hevent⟩ := h
    rw [recordEvent_eq hevent]
  · obtain rfl := (pure_eq_ok _ _).1 h
    rfl

/-- RECORD: an entry into done is recorded, and nothing else is. -/
theorem performTransition_records {options : StatusChangeOptions} {ctx : PrincipalContext}
    {row before : Task} {outcome : Option (Retry.IdempotencyOutcome String)}
    (hbefore : s.tasks[id]? = some before) (hmoved : before.status ≠ status)
    (h : s.performTransition rt id status options ctx = .ok (s', row, outcome)) :
    (status = .done ∧ Records s s' id) ∨ status ≠ .done ∧ ∀ x, s'.Completed x ↔ s.Completed x := by
  simp only [performTransition, bind_eq_ok, getTask, Ledger.getTask_eq_ok, demand_eq_ok,
    refuse_eq_ok] at h
  obtain ⟨_, ⟨hrow, -⟩, before', rfl, -, -, h⟩ := h
  obtain rfl := Option.some.inj (hbefore.symm.trans hrow)
  rw [if_neg hmoved] at h
  simp only [bind_eq_ok, Prod.exists, pure_eq_ok, Prod.mk.injEq] at h
  obtain ⟨-, -, -, -, s₁, caller, hcaller, -, -, evidenceIds, basis, -, -, -, s₂, hwaits, -, -, s₃,
    hcompletion, s₄, hrelease, s₅, hevent, s₆, hspawn, rfl, -⟩ := h
  have hafter : s₆.completions = s₃.completions := by
    rw [materialize_completions hspawn, recordEvent_eq hevent, releaseForTransition_eq hrelease]
  have hbefore : s₂.completions = s.completions := by
    rw [cancelWaitingConditions_completions hwaits, resolveCallerPrincipal_eq hcaller]
  unfold recordCompletion at hcompletion
  split at hcompletion
  · rename_i hdone
    refine .inl ⟨hdone, fun x => ?_⟩
    rw [completed_congr hafter]
    refine (insertCompletion_records hcompletion x).trans (or_congr_left ?_)
    exact completed_congr hbefore x
  · rename_i hopen
    obtain rfl := (pure_eq_ok _ _).1 hcompletion
    exact .inr ⟨hopen, completed_congr (hafter.trans hbefore)⟩

/-- Writing a row with the root that it had. -/
theorem root_insert {before : Task} (after : Task) (hbefore : s.tasks[id]? = some before)
    (hsame : after.recurrenceParentId = before.recurrenceParentId) :
    (∀ k, k ∈ s.tasks.insert id after ↔ k ∈ s.tasks) ∧
      ∀ (k : UuidV7) row, s.tasks[k]? = some row →
        ∃ row', (s.tasks.insert id after)[k]? = some row' ∧ row'.recurrenceParentId = row.recurrenceParentId := by
  constructor
  · intro k
    rw [Std.ExtTreeMap.mem_insert, compare_eq_iff_eq]
    exact or_iff_right_of_imp fun h => h ▸ Table.mem_of_getElem? hbefore
  · intro k row hrow
    rw [Table.getElem?_insert']
    split
    · rename_i hk
      obtain rfl := Option.some.inj (hbefore.symm.trans (hk ▸ hrow))
      exact ⟨after, rfl, hsame⟩
    · exact ⟨row, hrow, rfl⟩

/-- TRANSITION: what it does to a series. -/
theorem performTransition_spawns {options : StatusChangeOptions} {ctx : PrincipalContext}
    {row : Task} {outcome : Option (Retry.IdempotencyOutcome String)}
    (h : s.performTransition rt id status options ctx = .ok (s', row, outcome)) :
    Spawns s s' id status options.nextInstanceId := by
  obtain ⟨rfl, -, -⟩ | ⟨before, caller, basis, left, hpasses, rfl, hspawn⟩ :=
    performTransition_cases h
  · exact .none (fun k => .rfl) (fun k row hrow => ⟨row, hrow, rfl⟩) (.inl fun x => .rfl)
  · have hmoved : before.status ≠ status := by
      intro hsame
      exact status.notMem_next (hsame ▸ hpasses.edge)
    have hrecords := performTransition_records hpasses.found hmoved h
    have hleft : left.tasks = s.tasks.insert id
        (transitioned before status (options.occurredAt.getD ctx.now) ctx.now) := by
      rw [hpasses.left]
    obtain ⟨hkeys, hroots⟩ := root_insert (transitioned before status
      (options.occurredAt.getD ctx.now) ctx.now) hpasses.found rfl
    unfold materialize at hspawn
    split at hspawn
    · rename_i unit n hunit hnext
      simp only [bind_eq_ok] at hspawn
      obtain ⟨l, hinsert, hevent⟩ := hspawn
      obtain ⟨-, hfresh, -, -, rfl⟩ := Ledger.insertTask_eq_ok.1 hinsert
      have hdone : status = .done := by
        split at hunit
        · assumption
        · cases hunit
      have hn : n ∉ s.tasks := fun hmem => hfresh (.inl (by
        change n ∈ left.tasks
        rw [hleft, hkeys]
        exact hmem))
      have htasks : s'.tasks = (s.tasks.insert id (transitioned before status
          (options.occurredAt.getD ctx.now) ctx.now)).insert n
            (nextInstance id (transitioned before status (options.occurredAt.getD ctx.now) ctx.now)
              unit (options.occurredAt.getD ctx.now)) := by
        rw [recordEvent_eq hevent, ← hleft]
        rfl
      refine .one n before _ hdone hnext hpasses.found (hdone ▸ hmoved) hn (fun k => ?_)
        (fun k row hrow => ?_) (by rw [htasks]; exact Std.ExtTreeMap.getElem?_insert_self) rfl
        (hrecords.resolve_right fun hopen => hopen.1 hdone).2
      · rw [htasks, Std.ExtTreeMap.mem_insert, hkeys, compare_eq_iff_eq, or_comm, eq_comm]
      · obtain ⟨row', hrow', hsame⟩ := hroots k row hrow
        refine ⟨row', ?_, hsame⟩
        rw [htasks, Table.getElem?_insert', if_neg, hrow']
        rintro rfl
        exact hn (Table.mem_of_getElem? hrow)
    · obtain rfl := (pure_eq_ok _ _).1 hspawn
      refine .none (fun k => by rw [hleft, hkeys]) (fun k row hrow => hleft ▸ hroots k row hrow) ?_
      exact hrecords.symm.imp_left (·.2)

end WorkStore

namespace SeriesStore

variable {s s' : SeriesStore} {rt : WorkRuntime} {root chain id : UuidV7}

/-! ### Series -/

/-- INVARIANT: the series of `root`, whose instances carry the recurrence root `chain`. -/
structure Series (s : SeriesStore) (root chain : UuidV7) : Prop where
  known : ∀ x ∈ s.instances root, x ∈ s.tasks
  born : ∀ b ∈ s.generated, b.1 ∈ s.tasks ∧ b.2 ∈ s.tasks
  nodup : (s.instances root).Nodup
  start : ∃ row, s.tasks[root]? = some row ∧ row.recurrenceParentId.getD root = chain
  rooted : ∀ x ∈ s.instances root, x ≠ root →
    ∃ row, s.tasks[x]? = some row ∧ row.recurrenceParentId = some chain
  completed : ∀ x, 0 < Lineage.births s.generated x → s.Completed x
  sources : ∀ x, Lineage.births s.generated x ≤ 1 + Lineage.births s.repeated x
  unfinished : (Lineage.fresh s.Completed (s.instances root)).length ≤
    1 + (s.repeated.filter (·.1 ∈ s.instances root)).length
  chained : (∀ x ∈ s.instances root, Lineage.births s.repeated x = 0) →
    (s.instances root).IsChain fun x y => (x, y) ∈ s.generated

/-- What a step of a transition does to the store, as `Spawns` sees it. -/
theorem transition_spawns (s : SeriesStore) (rt : WorkRuntime) (id : UuidV7)
    (status : TaskStatus) (options : StatusChangeOptions) (ctx : PrincipalContext) :
    WorkStore.Spawns s.toWorkStore (s.step rt (.transition id status options ctx)).toWorkStore id
      status options.nextInstanceId := by
  refine settle_fst_rule (I := fun t => WorkStore.Spawns s.toWorkStore t id status
    options.nextInstanceId) ?_ fun t row h => ?_
  · exact .none (fun k => .rfl) (fun k row hrow => ⟨row, hrow, rfl⟩) (.inl fun x => .rfl)
  · simp only [WorkStore.transitionTaskStatus, bind_eq_ok] at h
    obtain ⟨-, -, _, -, h⟩ := h
    obtain ⟨retries, rfl⟩ | ⟨retries, s₁, outcome, retries', hrun, rfl⟩ :=
      WorkStore.idempotent_eq_ok h
    · exact .none (fun k => .rfl) (fun k row hrow => ⟨row, hrow, rfl⟩) (.inl fun x => .rfl)
    · cases WorkStore.performTransition_spawns hrun with
      | none htasks hroot hcompleted => exact .none htasks hroot hcompleted
      | one n before row hdone hnext hbefore hentry hfresh htasks hroot hrow hparent hcompleted =>
        exact .one n before row hdone hnext hbefore hentry hfresh htasks hroot hrow hparent
          hcompleted

/-- STEP: only an entry into done generates, and only one successor. -/
theorem step_generated (a : SeriesAction) :
    (s.step rt a).generated = s.generated ∨
      ∃ id options ctx n before, a = .transition id .done options ctx ∧
        s.tasks[id]? = some before ∧ before.status ≠ .done ∧
          (s.step rt a).generated = s.generated ++ [(id, n)] := by
  cases a with
  | elsewhere left => exact .inl rfl
  | transition id status options ctx =>
    have hgenerated : (s.step rt (.transition id status options ctx)).generated =
        s.generated ++ s.toWorkStore.generates
          (s.step rt (.transition id status options ctx)).toWorkStore id options := rfl
    cases transition_spawns s rt id status options ctx with
    | none htasks hroot hcompleted =>
      rw [WorkStore.generates_eq_nil htasks, List.append_nil] at hgenerated
      exact .inl hgenerated
    | one n before row hdone hnext hbefore hentry hfresh htasks hroot hrow hparent hcompleted =>
      rw [WorkStore.generates_eq_one hnext hfresh ((htasks n).2 (.inr rfl))] at hgenerated
      subst hdone
      exact .inr ⟨id, options, ctx, n, before, rfl, hbefore, hentry, hgenerated⟩

theorem Series.quiet (h : s.Series root chain) (hgenerated : s'.generated = s.generated)
    (hrepeated : s'.repeated = s.repeated) (htasks : ∀ k, k ∈ s'.tasks ↔ k ∈ s.tasks)
    (hroot : ∀ (k : UuidV7) row, s.tasks[k]? = some row → ∃ row', s'.tasks[k]? = some row' ∧
      row'.recurrenceParentId = row.recurrenceParentId)
    (hcompleted : ∀ x, s.Completed x → s'.Completed x) : s'.Series root chain := by
  have hinstances : s'.instances root = s.instances root := by
    rw [instances, hgenerated, instances]
  refine ⟨fun x hx => ?_, fun b hb => ?_, hinstances ▸ h.nodup, ?_, fun x hx hne => ?_,
    fun x hx => ?_, fun x => ?_, ?_, fun hnone => ?_⟩
  · exact (htasks x).2 (h.known x (hinstances ▸ hx))
  · obtain ⟨h₁, h₂⟩ := h.born b (hgenerated ▸ hb)
    exact ⟨(htasks _).2 h₁, (htasks _).2 h₂⟩
  · obtain ⟨row, hrow, hchain⟩ := h.start
    obtain ⟨row', hrow', hsame⟩ := hroot root row hrow
    exact ⟨row', hrow', hsame ▸ hchain⟩
  · obtain ⟨row, hrow, hchain⟩ := h.rooted x (hinstances ▸ hx) hne
    obtain ⟨row', hrow', hsame⟩ := hroot x row hrow
    exact ⟨row', hrow', hsame ▸ hchain⟩
  · exact hcompleted x (h.completed x (hgenerated ▸ hx))
  · rw [hgenerated, hrepeated]
    exact h.sources x
  · rw [hinstances, hrepeated]
    exact (Lineage.length_fresh_mono _ hcompleted).trans h.unfinished
  · rw [hinstances, hrepeated] at hnone
    rw [hinstances, hgenerated]
    exact h.chained hnone

/-- The unfinished instances after one more completion, when its source may have been completed
    before. -/
theorem Series.unfinished_grows (h : s.Series root chain) {n : UuidV7}
    (hgenerated : s'.generated = s.generated ++ [(id, n)])
    (hrepeated : s'.repeated = s.repeated ++ if s.Completed id then [(id, n)] else [])
    (hcompleted : WorkStore.Records s.toWorkStore s'.toWorkStore id) :
    (Lineage.fresh s'.Completed (s'.instances root)).length ≤
      1 + (s'.repeated.filter (·.1 ∈ s'.instances root)).length := by
  have hmono : ∀ x, s.Completed x → s'.Completed x := fun x hx => (hcompleted x).2 (.inl hx)
  have hunfinished := h.unfinished
  have hline : s'.instances root =
      if id ∈ s.instances root then s.instances root ++ [n] else s.instances root := by
    rw [instances, hgenerated, Lineage.line_concat, instances]
  by_cases hid : id ∈ s.instances root
  · rw [if_pos hid] at hline
    have hwider : (s.repeated.filter (·.1 ∈ s.instances root)).length ≤
        (s.repeated.filter (·.1 ∈ s.instances root ++ [n])).length := by
      refine (List.monotone_filter_right _ fun b hb => ?_).length_le
      simp only [decide_eq_true_eq] at hb ⊢
      exact List.mem_append_left _ hb
    have hnew : (Lineage.fresh s'.Completed [n]).length ≤ 1 := List.length_filter_le _ _
    rw [hline, hrepeated, Lineage.fresh_append, List.length_append, List.filter_append,
      List.length_append]
    by_cases hbefore : s.Completed id
    · have hkept := Lineage.length_fresh_mono (s.instances root) hmono
      have hone : (([(id, n)] : List (UuidV7 × UuidV7)).filter
          (·.1 ∈ s.instances root ++ [n])).length = 1 := by simp [hid]
      rw [if_pos hbefore, hone]
      omega
    · have hspent := Lineage.length_fresh_spend hmono hid hbefore ((hcompleted id).2 (.inr rfl))
      omega
  · rw [if_neg hid] at hline
    have hkept := Lineage.length_fresh_mono (s.instances root) hmono
    have hother : (s'.repeated.filter (·.1 ∈ s.instances root)) =
        s.repeated.filter (·.1 ∈ s.instances root) := by
      rw [hrepeated, List.filter_append]
      split <;> simp [hid]
    rw [hline, hother]
    exact hkept.trans hunfinished

theorem Series.grows (h : s.Series root chain) {n : UuidV7} {before row : Task}
    (hgenerated : s'.generated = s.generated ++ [(id, n)])
    (hrepeated : s'.repeated = s.repeated ++ if s.Completed id then [(id, n)] else [])
    (hbefore : s.tasks[id]? = some before) (hfresh : n ∉ s.tasks)
    (htasks : ∀ k, k ∈ s'.tasks ↔ k ∈ s.tasks ∨ k = n)
    (hroot : ∀ (k : UuidV7) row, s.tasks[k]? = some row → ∃ row', s'.tasks[k]? = some row' ∧
      row'.recurrenceParentId = row.recurrenceParentId)
    (hrow : s'.tasks[n]? = some row)
    (hparent : row.recurrenceParentId = some (before.recurrenceParentId.getD id))
    (hcompleted : WorkStore.Records s.toWorkStore s'.toWorkStore id) : s'.Series root chain := by
  have hline : s'.instances root =
      if id ∈ s.instances root then s.instances root ++ [n] else s.instances root := by
    rw [instances, hgenerated, Lineage.line_concat, instances]
  have hmem : ∀ x ∈ s'.instances root,
      x ∈ s.instances root ∨ x = n ∧ id ∈ s.instances root := by
    intro x hx
    rw [hline] at hx
    split at hx
    · rename_i hid
      exact (List.mem_append.1 hx).imp_right fun hx => ⟨List.mem_singleton.1 hx, hid⟩
    · exact .inl hx
  have hkept : ∀ x ∈ s.instances root, x ∈ s'.instances root := by
    intro x hx
    rw [hline]
    split
    · exact List.mem_append_left _ hx
    · exact hx
  have hnotMem : n ∉ s.instances root := fun hn => hfresh (h.known n hn)
  -- a first completion is of a source that had generated nothing
  have hfirst : ¬ s.Completed id → Lineage.births s.generated id = 0 := fun hnot =>
    Nat.eq_zero_of_not_pos (mt (h.completed id) hnot)
  refine ⟨fun x hx => ?_, fun b hb => ?_, ?_, ?_, fun x hx hne => ?_, fun x hx => ?_, fun x => ?_,
    h.unfinished_grows hgenerated hrepeated hcompleted, fun hnone => ?_⟩
  · rcases hmem x hx with hx | ⟨rfl, -⟩
    · exact (htasks x).2 (.inl (h.known x hx))
    · exact (htasks x).2 (.inr rfl)
  · rw [hgenerated] at hb
    rcases List.mem_append.1 hb with hb | hb
    · obtain ⟨h₁, h₂⟩ := h.born b hb
      exact ⟨(htasks _).2 (.inl h₁), (htasks _).2 (.inl h₂)⟩
    · obtain rfl := List.mem_singleton.1 hb
      exact ⟨(htasks _).2 (.inl (Table.mem_of_getElem? hbefore)), (htasks _).2 (.inr rfl)⟩
  · rw [instances, hgenerated]
    exact Lineage.nodup_concat h.nodup hnotMem
  · obtain ⟨row, hrow, hchain⟩ := h.start
    obtain ⟨row', hrow', hsame⟩ := hroot root row hrow
    exact ⟨row', hrow', hsame ▸ hchain⟩
  · rcases hmem x hx with hx | ⟨rfl, hid⟩
    · obtain ⟨row, hrow, hchain⟩ := h.rooted x hx hne
      obtain ⟨row', hrow', hsame⟩ := hroot x row hrow
      exact ⟨row', hrow', hsame ▸ hchain⟩
    · refine ⟨row, hrow, hparent.trans (congrArg some ?_)⟩
      rcases eq_or_ne id root with rfl | hne
      · obtain ⟨row₀, hrow₀, hchain⟩ := h.start
        obtain rfl := Option.some.inj (hbefore.symm.trans hrow₀)
        exact hchain
      · obtain ⟨row₀, hrow₀, hchain⟩ := h.rooted id hid hne
        obtain rfl := Option.some.inj (hbefore.symm.trans hrow₀)
        rw [hchain]
        rfl
  · rw [hgenerated, Lineage.births_concat] at hx
    by_cases hx' : id = x
    · exact (hcompleted x).2 (.inr hx'.symm)
    · exact (hcompleted x).2 (.inl (h.completed x (by simpa [hx'] using hx)))
  · have hsources := h.sources x
    rw [hgenerated, hrepeated, Lineage.births_concat]
    by_cases hagain : s.Completed id
    · rw [if_pos hagain, Lineage.births_concat]
      omega
    · rw [if_neg hagain, List.append_nil]
      split
      · rename_i hx
        obtain rfl : id = x := hx
        rw [hfirst hagain]
        omega
      · exact hsources
  · have hnot : id ∈ s.instances root → ¬ s.Completed id := by
      intro hid hagain
      have hzero := hnone id (hkept id hid)
      rw [hrepeated, if_pos hagain, Lineage.births_concat] at hzero
      simp at hzero
    have hbefore : ∀ x ∈ s.instances root, Lineage.births s.repeated x = 0 := by
      intro x hx
      have hzero := hnone x (hkept x hx)
      rw [hrepeated] at hzero
      split at hzero
      · rw [Lineage.births_concat] at hzero
        omega
      · rwa [List.append_nil] at hzero
    rw [instances, hgenerated]
    exact Lineage.isChain_concat (h.chained hbefore) fun hid => hfirst (hnot hid)

/-- STEP: every call keeps the series in order. -/
theorem Series.step (h : s.Series root chain) (a : SeriesAction) :
    (s.step rt a).Series root chain := by
  cases a with
  | elsewhere left =>
    exact h.quiet rfl rfl (fun k => .rfl) (fun k row hrow => ⟨row, hrow, rfl⟩) fun x hx => hx
  | transition id status options ctx =>
    have hgenerated : (s.step rt (.transition id status options ctx)).generated =
        s.generated ++ s.toWorkStore.generates
          (s.step rt (.transition id status options ctx)).toWorkStore id options := rfl
    have hrepeated : (s.step rt (.transition id status options ctx)).repeated =
        s.repeated ++ if s.Completed id then s.toWorkStore.generates
          (s.step rt (.transition id status options ctx)).toWorkStore id options else [] := rfl
    cases transition_spawns s rt id status options ctx with
    | none htasks hroot hcompleted =>
      rw [WorkStore.generates_eq_nil htasks] at hgenerated hrepeated
      refine h.quiet (hgenerated.trans (List.append_nil _))
        (hrepeated.trans (by simp)) htasks hroot fun x hx => ?_
      rcases hcompleted with hsame | ⟨-, hrecords⟩
      · exact (hsame x).2 hx
      · exact (hrecords x).2 (.inl hx)
    | one n before row hdone hnext hbefore hentry hfresh htasks hroot hrow hparent hcompleted =>
      rw [WorkStore.generates_eq_one hnext hfresh ((htasks n).2 (.inr rfl))] at hgenerated hrepeated
      exact h.grows hgenerated hrepeated hbefore hfresh htasks hroot hrow hparent hcompleted

/-! ### Runs -/

/-- The work of a workspace before the transitions. -/
def start (work : WorkStore) : SeriesStore := ⟨work, [], []⟩

theorem series_start {work : WorkStore} {row : Task} (hrow : work.tasks[root]? = some row) :
    (start work).Series root (row.recurrenceParentId.getD root) where
  known x hx := by
    obtain rfl : x = root := by simpa [instances, start] using hx
    exact Table.mem_of_getElem? hrow
  born b hb := by simp [start] at hb
  nodup := by simp [instances, start]
  start := ⟨row, hrow, rfl⟩
  rooted x hx hne := absurd (by simpa [instances, start] using hx) hne
  completed x hx := by simp [start, Lineage.births] at hx
  sources x := by simp [start, Lineage.births]
  unfinished := by
    have hle : (Lineage.fresh (start work).Completed [root]).length ≤ 1 := List.length_filter_le _ _
    simpa [instances, start] using hle
  chained _ := by simp [instances, start]

/-- RUN: the series stays in order. -/
theorem series_run (rt : WorkRuntime) {work : WorkStore} {row : Task}
    (hrow : work.tasks[root]? = some row) (actions : List SeriesAction) :
    (run (step rt) (start work) actions).Series root (row.recurrenceParentId.getD root) :=
  run_invariant' (I := fun s : SeriesStore => s.Series root (row.recurrenceParentId.getD root))
    (fun _ a hs => hs.step a) actions (series_start hrow)

/-- CORRECT: whatever transitions come in whatever order, only an entry into done generates a
    successor, and only one. An instance is the source of at most one successor, and of one more
    for each time that it is completed again. All instances carry one recurrence root, and those
    that have never been completed are at most one, and one more for each successor that a repeated
    completion generated. Without any, the instances are one chain. -/
theorem series_of_completions (rt : WorkRuntime) (work : WorkStore) (root : UuidV7) (row : Task)
    (hrow : work.tasks[root]? = some row) (actions : List SeriesAction) :
    let s := run (step rt) (start work) actions
    (∀ a, (s.step rt a).generated = s.generated ∨
      ∃ id options ctx n before, a = .transition id .done options ctx ∧
        s.tasks[id]? = some before ∧ before.status ≠ .done ∧
          (s.step rt a).generated = s.generated ++ [(id, n)]) ∧
    (∀ x, Lineage.births s.generated x ≤ 1 + Lineage.births s.repeated x) ∧
    (∀ x ∈ s.instances root, x ≠ root → ∃ instanceRow, s.tasks[x]? = some instanceRow ∧
      instanceRow.recurrenceParentId = some (row.recurrenceParentId.getD root)) ∧
    (Lineage.fresh s.Completed (s.instances root)).length ≤
      1 + (s.repeated.filter (·.1 ∈ s.instances root)).length ∧
    ((∀ x ∈ s.instances root, Lineage.births s.repeated x = 0) →
      (s.instances root).Nodup ∧ (s.instances root).IsChain fun x y => (x, y) ∈ s.generated) := by
  intro s
  have hs := series_run rt hrow actions
  exact ⟨step_generated, hs.sources, hs.rooted, hs.unfinished, fun h => ⟨hs.nodup, hs.chained h⟩⟩

/-! ### A task that recurs daily -/

/-- Task 1, which recurs daily, before its first completion. -/
def plainRecurring : WorkStore :=
  { WorkStore.opening "w" [] with
    tasks := Std.ExtTreeMap.ofList [(1, { plainTask with recurrence := some .daily })] }

/-- A transition of a task, with the id that its next instance and the record of its completion
    get. -/
def plainTransition (id : UuidV7) (status : TaskStatus) (next now : ℕ) : SeriesAction :=
  .transition id status
    { expectedRevision := none
      reason := none
      note := none
      source := none
      occurredAt := none
      evidenceIds := []
      validationDecisionId := none
      force := false
      completionRecordId := next
      nextInstanceId := some next }
    ⟨none, none, none, now⟩

/-- A reopened task that is completed again generates again: two successors of one source, and two
    instances that were never completed. -/
theorem reopened_generates_again :
    let s := run (step plainWorkRuntime) (start plainRecurring)
      [plainTransition 1 .done 2 10, plainTransition 1 .open 0 11, plainTransition 1 .done 3 12]
    ¬ (∀ x, Lineage.births s.generated x ≤ 1) ∧
      ¬ (Lineage.fresh s.Completed (s.instances 1)).length ≤ 1 := by
  refine ⟨fun h => absurd (h 1) ?_, ?_⟩ <;> decide +kernel

theorem series_of_completions_plain :
    let s := run (step plainWorkRuntime) (start plainRecurring)
      [plainTransition 1 .done 2 10, plainTransition 2 .done 3 11]
    s.instances 1 = [1, 2, 3] ∧ (s.instances 1).IsChain fun x y => (x, y) ∈ s.generated := by
  intro s
  have hrun := series_of_completions plainWorkRuntime plainRecurring 1
    { plainTask with recurrence := some .daily } (by decide +kernel)
    [plainTransition 1 .done 2 10, plainTransition 2 .done 3 11]
  exact ⟨by decide +kernel, (hrun.2.2.2.2 (by decide +kernel)).2⟩

end SeriesStore

end Tasq
