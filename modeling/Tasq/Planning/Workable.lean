import Mathlib.Tactic
import Tasq.Planning.Store

/-! Whether the next work is workable. `pickNext` looks for blockers among the rows of its own
    query, and for open subtasks among what its filters have left of them. So a blocker outside the
    area, goal, project or priority that was asked for does not count, nor does a subtask that is
    blocked, deferred, paused or invalidated itself (`pickNext_workable_iff`). -/

namespace Tasq

open Text Outcome

namespace PlanningStore

variable {s : PlanningStore} {options : PickNextOptions} {now : UnixMs} {id : UuidV7} {t : Task}
  {round : ℚ → ℚ}

/-! ### What the queue promises -/

/-- `blocker` is a live, unresolved blocker of the task. -/
def BlockedBy (s : PlanningStore) (id blocker : UuidV7) (row : Task) : Prop :=
  s.work.tasks[blocker]? = some row ∧ row.Unfinished ∧
    ∃ (edge : UuidV7) (d : TaskDependency), s.dependencies[edge]? = some d ∧ d.fromTaskId = id ∧
      d.toTaskId = blocker ∧ d.type = .blocks ∧ d.deletedAt = none

/-- `child` is a live subtask of the task that is open, in progress or blocked. -/
def OpenSubtask (s : PlanningStore) (id child : UuidV7) (row : Task) : Prop :=
  s.work.tasks[child]? = some row ∧ row.Unfinished ∧ row.parentTaskId = some id

/-- Nothing stands in the way of the task. -/
structure Workable (s : PlanningStore) (options : PickNextOptions) (now : UnixMs) (id : UuidV7)
    (t : Task) : Prop where
  blockers : ∀ blocker row, ¬ s.BlockedBy id blocker row
  premise : ¬ s.Invalidated id
  assumption : ¬ s.Paused id
  claim : options.includeClaimed = false → ∀ (k : UuidV7) (c : LeasedClaim),
    s.work.claims[k]? = some c → c.taskId = id → c.LiveAt now → options.actor = some c.actor
  ancestors : s.AncestorsActive t
  subtasks : options.includeParentsWithOpenSubtasks = false → ∀ child row,
    ¬ s.OpenSubtask id child row

/-- Whatever limit is asked for, only workable tasks are answered; and a filter only leaves tasks
    out that do not match it. -/
structure NextWorkable (round : ℚ → ℚ) (s : PlanningStore) (options : PickNextOptions)
    (now : UnixMs) : Prop where
  answered : ∀ limit results, s.pickNext round { options with limit } now = .ok results →
    ∀ r ∈ results, s.Workable options now r.id r.task
  filtered : now ≤ Json.maxSafeInteger → ∀ id t, (id, t) ∈ s.eligible options now ↔
    (id, t) ∈ s.eligible options.unfiltered now ∧ options.Matches t

/-- The task matches the filter and passes every check that looks at it alone. -/
structure Stands (s : PlanningStore) (options : PickNextOptions) (now : UnixMs) (id : UuidV7)
    (t : Task) : Prop where
  row : s.work.tasks[id]? = some t
  unfinished : t.Unfinished
  inFilter : options.Matches t
  offered : s.Offered options now id t
  ancestors : s.AncestorsActive t
  claim : s.ClaimPasses options now id

/-- At a time that the clock may read, what holds a task back is in view: a task that stands, with an
    unresolved blocker or, unless parents were asked for, with an open subtask, has such a blocker
    that matches the filter, or such a subtask that matches the filter and would be offered
    itself. -/
def HeldInView (s : PlanningStore) (options : PickNextOptions) (now : UnixMs) : Prop :=
  now ≤ Json.maxSafeInteger → ∀ id t, s.Stands options now id t →
    (∃ blocker row, s.BlockedBy id blocker row) ∨
      (options.includeParentsWithOpenSubtasks = false ∧ ∃ child row, s.OpenSubtask id child row) →
    (∃ blocker row, s.BlockedBy id blocker row ∧ options.Matches row) ∨
      (options.includeParentsWithOpenSubtasks = false ∧ ∃ child row, s.OpenSubtask id child row ∧
        options.Matches row ∧ s.Offered options now child row)

/-! ### What the filters leave -/

theorem mem_taskRows {e : UuidV7 × Task} : e ∈ s.taskRows options ↔
    s.work.tasks[e.1]? = some e.2 ∧ e.2.Unfinished ∧ options.Matches e.2 := by
  rw [taskRows, Table.mem_rows, decide_eq_true_eq]

theorem mem_offered {e : UuidV7 × Task} : e ∈ s.offered options now ↔
    (s.work.tasks[e.1]? = some e.2 ∧ e.2.Unfinished ∧ options.Matches e.2) ∧
      s.Offered options now e.1 e.2 := by
  rw [offered, List.mem_filter, mem_taskRows, decide_eq_true_eq]

theorem mem_withoutParents {tasks : List (UuidV7 × Task)} {e : UuidV7 × Task} :
    e ∈ withoutParents options tasks ↔ e ∈ tasks ∧
      (options.includeParentsWithOpenSubtasks = false →
        ∀ child ∈ tasks, child.2.parentTaskId ≠ some e.1) := by
  unfold withoutParents
  split
  · rename_i hinclude
    simp [hinclude]
  · rename_i hexclude
    simp only [List.mem_filter, decide_eq_true_eq, List.mem_filterMap, not_exists, not_and,
      Bool.not_eq_true] at hexclude ⊢
    simp [hexclude]

/-- The status of a row of the query, and of no other task. -/
theorem statusById_taskRows {status : TaskStatus} :
    statusById (s.taskRows options) id = some status ↔
      ∃ row, (id, row) ∈ s.taskRows options ∧ row.status = status := by
  have hnodup : ((s.taskRows options).map Prod.fst).Nodup :=
    Table.keysWhere_nodup _ _
  simp only [statusById, Option.map_eq_some_iff]
  constructor
  · rintro ⟨e, hfind, rfl⟩
    have hid : e.1 = id := by simpa using List.find?_some hfind
    exact ⟨e.2, hid ▸ List.mem_of_find?_eq_some hfind, rfl⟩
  · rintro ⟨row, hrow, rfl⟩
    obtain ⟨e, hfind⟩ : ∃ e, (s.taskRows options).find? (fun e => e.1 = id) = some e := by
      rw [← Option.isSome_iff_exists, List.find?_isSome]
      exact ⟨_, hrow, by simp⟩
    refine ⟨e, hfind, ?_⟩
    have hid : e.1 = id := by simpa using List.find?_some hfind
    have hsame : e = (id, row) :=
      List.inj_on_of_nodup_map hnodup (List.mem_of_find?_eq_some hfind) hrow hid
    rw [hsame]

/-- A task has no unresolved blocker among the rows of the query. -/
theorem unresolvedBlockerMap_eq_zero :
    s.unresolvedBlockerMap (statusById (s.taskRows options)) id = 0 ↔
      ¬ ∃ blocker row, s.BlockedBy id blocker row ∧ options.Matches row := by
  rw [RelationStore.unresolvedBlockerMap, List.length_eq_zero_iff, Table.rows_eq_nil]
  simp only [decide_eq_false_iff_not]
  constructor
  · rintro h ⟨blocker, row, ⟨hrow, hunfinished, edge, d, hd, hfrom, rfl, htype, hlive⟩, hmatches⟩
    refine h edge d hd ⟨hfrom, htype, hlive, row.status, ?_, ?_⟩
    · exact statusById_taskRows.2 ⟨row, mem_taskRows.2 ⟨hrow, hunfinished, hmatches⟩, rfl⟩
    · have hstatus := hunfinished.2
      constructor <;> rintro heq <;> simp [heq, candidateStatuses] at hstatus
  · rintro h edge d hd ⟨hfrom, htype, hlive, status, hstatus, -⟩
    obtain ⟨row, hrow, -⟩ := statusById_taskRows.1 hstatus
    obtain ⟨hget, hunfinished, hmatches⟩ := mem_taskRows.1 hrow
    exact h ⟨d.toTaskId, row, ⟨hget, hunfinished, edge, d, hd, hfrom, rfl, htype, hlive⟩, hmatches⟩

/-- The one live claim of a task. -/
theorem activeTaskClaimMap_eq_some {c : LeasedClaim} : s.activeTaskClaimMap now id = some c ↔
    ∃ k : UuidV7, s.work.claims[k]? = some c ∧ c.taskId = id ∧ c.LiveAt now := by
  rw [activeTaskClaimMap, Option.map_eq_some_iff]
  constructor
  · rintro ⟨e, hlast, rfl⟩
    obtain ⟨hget, hlive⟩ := Table.mem_rows.1 (List.mem_of_getLast? hlast)
    obtain ⟨hlive, htask⟩ := of_decide_eq_true hlive
    exact ⟨e.1, hget, htask, hlive⟩
  · rintro ⟨k, hget, htask, hlive⟩
    have hrows : (s.work.claims.rows fun _ c => c.LiveAt now ∧ c.taskId = id) = [(k, c)] := by
      refine Table.rows_eq_singleton hget (decide_eq_true ⟨hlive, htask⟩) ?_
      intro k' c' hget' hlive'
      obtain ⟨hlive', htask'⟩ := of_decide_eq_true hlive'
      exact s.oneClaim k' k c' c hget' hget hlive'.1 hlive.1 (htask'.trans htask.symm)
    exact ⟨(k, c), by rw [hrows]; rfl, rfl⟩

/-- ELIGIBLE: the tasks that stand, with no blocker among the rows of the query and no offered
    subtask among them. -/
theorem mem_eligible : (id, t) ∈ s.eligible options now ↔ s.Stands options now id t ∧
    (¬ ∃ blocker row, s.BlockedBy id blocker row ∧ options.Matches row) ∧
      (options.includeParentsWithOpenSubtasks = false → ¬ ∃ child row, s.OpenSubtask id child row ∧
        options.Matches row ∧ s.Offered options now child row) := by
  simp only [eligible, List.mem_filter, mem_withoutParents, mem_offered, decide_eq_true_eq,
    unresolvedBlockerMap_eq_zero]
  constructor
  · rintro ⟨⟨⟨⟨⟨⟨hrow, hunfinished, hmatches⟩, hoffered⟩, hchildren⟩, hancestors⟩, hblockers⟩,
      hclaim⟩
    refine ⟨⟨hrow, hunfinished, hmatches, hoffered, hancestors, hclaim⟩, hblockers, ?_⟩
    rintro hexclude ⟨child, row, ⟨hget, hopen, hparent⟩, hin, hoff⟩
    exact hchildren hexclude (child, row) ⟨⟨hget, hopen, hin⟩, hoff⟩ hparent
  · rintro ⟨h, hblockers, hchildren⟩
    refine ⟨⟨⟨⟨⟨⟨h.row, h.unfinished, h.inFilter⟩, h.offered⟩, ?_⟩, h.ancestors⟩, hblockers⟩,
      h.claim⟩
    intro hexclude child hchild hparent
    exact hchildren hexclude ⟨child.1, child.2, ⟨hchild.1.1, hchild.1.2.1, hparent⟩, hchild.1.2.2,
      hchild.2⟩

theorem mem_of_mem_sliceTo {α : Type} {limit : ℤ} {xs : List α} {x : α} (h : x ∈ sliceTo limit xs) :
    x ∈ xs := by
  unfold sliceTo at h
  split at h
  · exact List.mem_of_mem_take h
  · exact List.mem_of_mem_take h

/-- Every task that is answered is eligible, under any limit. -/
theorem eligible_of_answered {limit : Option ℤ} {results : List NextResult} {r : NextResult}
    (h : s.pickNext round { options with limit } now = .ok results) (hr : r ∈ results) :
    (r.id, r.task) ∈ s.eligible options now := by
  simp only [pickNext, bind_eq_ok, refuse_eq_ok, pure_eq_ok] at h
  obtain ⟨-, -, rfl⟩ := h
  obtain ⟨e, he, rfl⟩ := List.mem_map.1 (List.mem_mergeSort.1 (mem_of_mem_sliceTo hr))
  exact he

/-- Every eligible task is answered, under a limit that is large enough. -/
theorem answered_of_eligible (round : ℚ → ℚ) (hnow : now ≤ Json.maxSafeInteger)
    (h : (id, t) ∈ s.eligible options now) : ∃ limit results,
      s.pickNext round { options with limit } now = .ok results ∧
        ∃ r ∈ results, r.id = id ∧ r.task = t := by
  let sorted := ((s.eligible options now).map
    (s.result round { options with limit := some (s.eligible options now).length } now)).mergeSort
      NextResult.before
  refine ⟨some (s.eligible options now).length, sorted, ?_, ?_⟩
  · simp only [pickNext, bind_eq_ok, refuse_eq_ok, pure_eq_ok]
    refine ⟨(), not_lt.2 hnow, ?_⟩
    have hlength : sorted.length = (s.eligible options now).length := by
      simp [sorted, List.length_mergeSort]
    rw [Option.getD_some, sliceTo, if_pos (Int.natCast_nonneg _), Int.toNat_natCast, ← hlength]
    exact List.take_length
  · exact ⟨_, List.mem_mergeSort.2 (List.mem_map_of_mem h), rfl, rfl⟩

/-! ### When the next work is workable -/

theorem matches_unfiltered : options.unfiltered.Matches t := by
  simp [PickNextOptions.unfiltered, PickNextOptions.Matches]

/-- What stands in a filter is what stands without it and matches. -/
theorem stands_iff : s.Stands options now id t ↔
    s.Stands options.unfiltered now id t ∧ options.Matches t := by
  constructor
  · intro h
    exact ⟨⟨h.row, h.unfinished, matches_unfiltered, h.offered, h.ancestors, h.claim⟩, h.inFilter⟩
  · rintro ⟨h, hmatches⟩
    exact ⟨h.row, h.unfinished, hmatches, h.offered, h.ancestors, h.claim⟩

/-- A task that stands is workable exactly when nothing else holds it back. -/
theorem Stands.workable_iff (h : s.Stands options now id t) : s.Workable options now id t ↔
    ¬ ((∃ blocker row, s.BlockedBy id blocker row) ∨
      (options.includeParentsWithOpenSubtasks = false ∧
        ∃ child row, s.OpenSubtask id child row)) := by
  constructor
  · rintro hworkable (⟨blocker, row, hblocked⟩ | ⟨hexclude, child, row, hchild⟩)
    · exact hworkable.blockers blocker row hblocked
    · exact hworkable.subtasks hexclude child row hchild
  · intro hfree
    obtain ⟨hblockers, hsubtasks⟩ := not_or.1 hfree
    constructor
    · exact fun blocker row hblocked => hblockers ⟨blocker, row, hblocked⟩
    · exact h.offered.1
    · exact h.offered.2.1
    · intro hclaimed k c hget htask hlive
      rcases h.claim with hinclude | hown
      · simp [hclaimed] at hinclude
      · exact hown c (activeTaskClaimMap_eq_some.2 ⟨k, hget, htask, hlive⟩)
    · exact h.ancestors
    · exact fun hexclude child row hchild => hsubtasks ⟨hexclude, child, row, hchild⟩

/-- A filter lets a task through that is not eligible without it only when what holds the task back
    is out of view. -/
theorem HeldInView.filtered (h : s.HeldInView options now) (hnow : now ≤ Json.maxSafeInteger) :
    (id, t) ∈ s.eligible options now ↔
      (id, t) ∈ s.eligible options.unfiltered now ∧ options.Matches t := by
  rw [mem_eligible, mem_eligible, stands_iff]
  constructor
  · rintro ⟨⟨hstands, hmatches⟩, hblockers, hchildren⟩
    have hfree := fun hheld =>
      h hnow id t (stands_iff.2 ⟨hstands, hmatches⟩) hheld
    refine ⟨⟨hstands, ?_, ?_⟩, hmatches⟩
    · rintro ⟨blocker, row, hblocked, -⟩
      rcases hfree (.inl ⟨blocker, row, hblocked⟩) with hin | ⟨hexclude, hin⟩
      · exact hblockers hin
      · exact hchildren hexclude hin
    · rintro hexclude ⟨child, row, hchild, -, -⟩
      rcases hfree (.inr ⟨hexclude, child, row, hchild⟩) with hin | ⟨-, hin⟩
      · exact hblockers hin
      · exact hchildren hexclude hin
  · rintro ⟨⟨hstands, hblockers, hchildren⟩, hmatches⟩
    refine ⟨⟨hstands, hmatches⟩, ?_, ?_⟩
    · rintro ⟨blocker, row, hblocked, -⟩
      exact hblockers ⟨blocker, row, hblocked, matches_unfiltered⟩
    · rintro hexclude ⟨child, row, hchild, -, hoffered⟩
      exact hchildren hexclude ⟨child, row, hchild, matches_unfiltered, hoffered⟩

/-- EXACT: for every store, all options and every reading of the clock, the next work is workable
    and filters only leave out what does not match, exactly when whatever holds a task back is in
    view of the query. -/
theorem pickNext_workable_iff (round : ℚ → ℚ) (s : PlanningStore) (options : PickNextOptions)
    (now : UnixMs) : NextWorkable round s options now ↔ s.HeldInView options now := by
  constructor
  · intro h hnow id t hstands hheld
    by_contra hout
    obtain ⟨hblockers, hchildren⟩ := not_or.1 hout
    have heligible : (id, t) ∈ s.eligible options now :=
      mem_eligible.2 ⟨hstands, hblockers, fun hexclude hin => hchildren ⟨hexclude, hin⟩⟩
    obtain ⟨limit, results, hresults, r, hr, rfl, rfl⟩ := answered_of_eligible round hnow heligible
    exact hstands.workable_iff.1 (h.answered limit results hresults r hr) hheld
  · intro h
    constructor
    · intro limit results hresults r hr
      have hnow : now ≤ Json.maxSafeInteger := by
        simp only [pickNext, bind_eq_ok, refuse_eq_ok, not_lt] at hresults
        exact hresults.choose_spec.1
      obtain ⟨hstands, hblockers, hchildren⟩ := mem_eligible.1 (eligible_of_answered hresults hr)
      refine hstands.workable_iff.2 fun hheld => ?_
      rcases h hnow _ _ hstands hheld with hin | ⟨hexclude, hin⟩
      · exact hblockers hin
      · exact hchildren hexclude hin
    · intro hnow id t
      exact h.filtered hnow

/-- A commitment in area 7, blocked by one in area 8. -/
def acrossAreas : PlanningStore where
  work := { WorkStore.opening "w" [] with
    tasks := Std.ExtTreeMap.ofList
      [(1, { plainTask with areaId := some 7 }), (2, { plainTask with areaId := some 8 })] }
  relations := ∅
  dependencies := Std.ExtTreeMap.ofList [((9 : UuidV7), (⟨1, 2, .blocks, 1, 1, none⟩ : TaskDependency))]
  retries := []
  otherRelationIds := []
  otherDependencyIds := []
  goals := ∅
  areas := ∅
  projects := ∅
  oneClaim := by simp [WorkStore.opening]

/-- The work of area 7. -/
def areaSeven : PickNextOptions :=
  { limit := none, areaId := some 7, goalId := none, projectId := none, priority := none,
    includeParentsWithOpenSubtasks := false, includeScheduled := false, includeClaimed := false,
    actor := none }

/-- NOT SO: the blocker is in another area, so the next work of area 7 is a blocked task. -/
theorem blocked_across_areas : ¬ NextWorkable (fun q => q) acrossAreas areaSeven 5 := by
  intro h
  have heligible : (1, { plainTask with areaId := some 7 }) ∈ acrossAreas.eligible areaSeven 5 := by
    decide +kernel
  obtain ⟨limit, results, hresults, r, hr, hid, -⟩ :=
    answered_of_eligible (fun q => q) (by decide) heligible
  refine (h.answered limit results hresults r hr).blockers 2 { plainTask with areaId := some 8 } ?_
  rw [hid]
  exact ⟨by decide +kernel, by decide, 9, ⟨1, 2, .blocks, 1, 1, none⟩, by decide +kernel, rfl, rfl,
    rfl, rfl⟩

end PlanningStore

end Tasq
