import Mathlib.Tactic
import Tasq.Lib.Pages
import Tasq.Work.Commitments

/-! `listTasks`, and the pages that its cursors lead through.

    A page is cut after the filters, in the order `updatedAt DESC, id DESC`, and the next one starts
    strictly after its last row. -/

namespace Tasq

open Text Outcome Limit

/-- `ListTasksOptions`, at the time of the listing. A status that is missing and an empty list of
    them do not filter, and no more does an id that is missing or empty. -/
structure ListTasksOptions where
  status : List TaskStatus := []
  areaId : Option Uuid := none
  goalId : Option Uuid := none
  projectId : Option Uuid := none
  /-- Missing, or null for the rows without a parent. -/
  parentTaskId : Option (Option Uuid) := none
  orphanOnly : Bool := false
  priority : Option ℤ := none
  includeDeleted : Bool := false
  includeScheduled : Bool := false
  now : UnixMs
  limit : Option ℤ := none
  beforeUpdatedAt : Option ℤ := none
  beforeId : Option UuidV7 := none

/-- The column is the id that an option names, where it names one. -/
def NamedBy (option : Option Uuid) (column : Option UuidV7) : Prop :=
  ∀ id ∈ option, id ≠ .other "" → column.map Uuid.v7 = some id

instance decidableNamedBy (option : Option Uuid) (column : Option UuidV7) :
    Decidable (NamedBy option column) := by
  unfold NamedBy; infer_instance

namespace ListTasksOptions

variable (options : ListTasksOptions)

/-- The filters, all but that of the cursor. -/
def Selects (row : Task) : Prop :=
  (options.includeDeleted = false → row.deletedAt = none) ∧
    NamedBy options.areaId row.areaId ∧ NamedBy options.goalId row.goalId ∧
    NamedBy options.projectId row.projectId ∧
    (options.orphanOnly = true → row.projectId = none) ∧
    (∀ priority ∈ options.priority, row.priority.map (fun p => (p.val : ℤ)) = some priority) ∧
    (∀ parent ∈ options.parentTaskId, row.parentTaskId.map Uuid.v7 = parent) ∧
    (options.status ≠ [] → row.status ∈ options.status) ∧
    (options.includeScheduled = false → ∀ t ∈ row.scheduledAt, t ≤ options.now)

instance decidableSelects (row : Task) : Decidable (options.Selects row) := by
  unfold Selects; infer_instance

/-- The cursor, which is complete and within the safe integers. -/
def cursor : Call (Option (ℤ × UuidV7)) := do
  refuse (options.beforeUpdatedAt.isNone ≠ options.beforeId.isNone)
    (.error "beforeUpdatedAt and beforeId must be provided together")
  match options.beforeUpdatedAt, options.beforeId with
  | some updatedAt, some id => do
    refuse (updatedAt < 0 ∨ Json.maxSafeInteger < updatedAt.toNat)
      (.error "invalid task list cursor")
    pure (some (updatedAt, id))
  | _, _ => pure none

/-- The row is past the cursor. -/
def Past (cursor : Option (ℤ × UuidV7)) (e : UuidV7 × Task) : Prop :=
  ∀ c ∈ cursor, (e.2.updatedAt : ℤ) < c.1 ∨ (e.2.updatedAt : ℤ) = c.1 ∧ e.1 < c.2

instance decidablePast (cursor : Option (ℤ × UuidV7)) (e : UuidV7 × Task) :
    Decidable (Past cursor e) := by
  unfold Past; infer_instance

/-- The options for the rows after a row. -/
def after (last : UuidV7 × Task) : ListTasksOptions :=
  { options with beforeUpdatedAt := some last.2.updatedAt, beforeId := some last.1 }

/-- The options of the first page, or of the one after a row. -/
def startingAt : Option (UuidV7 × Task) → ListTasksOptions
  | none => options
  | some last => options.after last

end ListTasksOptions

namespace WorkStore

variable (s : WorkStore)

/-- `parseTask`, of the row of an id. -/
def parseTask (e : UuidV7 × Task) : Call (UuidV7 × Task) := do
  refuse (¬ CriteriaBounded e.2.successCriteria) (.invalid "Task")
  pure e

/-- `listTasks` -/
def listTasks (options : ListTasksOptions) : Call (List (UuidV7 × Task)) := do
  let cursor ← options.cursor
  let found := Table.rows s.tasks fun id row =>
    options.Selects row && ListTasksOptions.Past cursor (id, row)
  (limited (options.limit.getD 100) (found.insertionSort Newer)).mapM parseTask

/-- The page passes for the last: it is empty or, for a caller who stops at short pages, has fewer
    rows than the limit. -/
def lastPage (short : Bool) (limit : ℤ) (page : List (UuidV7 × Task)) : Bool :=
  page.isEmpty || short && decide (0 ≤ limit ∧ (page.length : ℤ) < limit)

/-- The pages from the first on, put together. -/
def followListing (options : ListTasksOptions) (short : Bool) (fuel : ℕ) :
    Call (List (UuidV7 × Task)) :=
  Keyset.walk (fun cursor => s.listTasks (options.startingAt cursor))
    (lastPage short (options.limit.getD 100)) .unbounded fuel none

/-- All the rows that the filters select, in the order of the listing. -/
def matching (options : ListTasksOptions) : List (UuidV7 × Task) :=
  (Table.rows s.tasks fun _ row => options.Selects row).insertionSort Newer

/-- `updatedAt DESC, id DESC`, strictly. -/
def Precedes (a b : UuidV7 × Task) : Prop :=
  b.2.updatedAt < a.2.updatedAt ∨ b.2.updatedAt = a.2.updatedAt ∧ b.1 < a.1

instance decidablePrecedes (a b : UuidV7 × Task) : Decidable (Precedes a b) := by
  unfold Precedes; infer_instance

theorem precedes_asymm (a b : UuidV7 × Task) (h : Precedes a b) : ¬ Precedes b a := by
  rintro (hlt | ⟨heq, hid⟩)
  · rcases h with h | ⟨h, -⟩
    · exact lt_asymm h hlt
    · exact hlt.ne' h
  · rcases h with h | ⟨-, h⟩
    · exact h.ne' heq
    · exact lt_asymm h hid

/-! ### The order -/

/-- The rows of a query come in the strict order. -/
theorem sorted_precedes (p : UuidV7 → Task → Bool) :
    ((Table.rows s.tasks p).insertionSort Newer).Pairwise Precedes := by
  have hsorted := List.pairwise_insertionSort Newer (Table.rows s.tasks p)
  have hkeys : (((Table.rows s.tasks p).insertionSort Newer).map Prod.fst).Nodup :=
    (((List.perm_insertionSort Newer _).map Prod.fst).nodup_iff).2 (Table.keysWhere_nodup s.tasks p)
  rw [List.Nodup, List.pairwise_map] at hkeys
  refine (hsorted.and hkeys).imp ?_
  rintro a b ⟨hlt | ⟨heq, hid⟩, hne⟩
  · exact .inl hlt
  · exact .inr ⟨heq, lt_of_le_of_ne hid (Ne.symm hne)⟩

/-- A query with one filter more gives the rows that the filter keeps, in the same order. -/
theorem sorted_filter (p : UuidV7 → Task → Bool) (q : UuidV7 × Task → Bool) :
    (Table.rows s.tasks fun id row => p id row && q (id, row)).insertionSort Newer =
      ((Table.rows s.tasks p).insertionSort Newer).filter q := by
  have hrows : Table.rows s.tasks (fun id row => p id row && q (id, row)) =
      (Table.rows s.tasks p).filter q := by
    simp only [Table.rows, List.filter_filter]
    congr 1
    funext e
    rw [Bool.and_comm]
  refine List.Perm.eq_of_pairwise ?_ (s.sorted_precedes _)
    ((s.sorted_precedes p).filter q) ?_
  · intro a b _ _ hab hba
    exact absurd hba (precedes_asymm a b hab)
  · rw [hrows]
    exact (List.perm_insertionSort Newer _).trans ((List.perm_insertionSort Newer _).symm.filter q)

/-! ### Pages -/

variable {s} {options : ListTasksOptions}

/-- The cursor after a stored row is one that the listing takes. -/
theorem cursor_after (options : ListTasksOptions) {last : UuidV7 × Task}
    (hsafe : last.2.updatedAt ≤ Json.maxSafeInteger) :
    (options.after last).cursor = .ok (some (last.2.updatedAt, last.1)) := by
  have hlow : ¬ (last.2.updatedAt : ℤ) < 0 := by simp
  have hhigh : ¬ Json.maxSafeInteger < last.2.updatedAt := not_lt.2 hsafe
  simp [ListTasksOptions.cursor, ListTasksOptions.after, refuse, hlow, hhigh]

theorem past_iff (last e : UuidV7 × Task) :
    ListTasksOptions.Past (some ((last.2.updatedAt : ℤ), last.1)) e ↔ Precedes last e := by
  simp [ListTasksOptions.Past, Precedes]

/-- PAGE: what a page shows is cut from the matching rows after its cursor. -/
theorem listTasks_from (hfirst : options.beforeUpdatedAt = none ∧ options.beforeId = none)
    {cursor : Option (UuidV7 × Task)}
    (hsafe : ∀ c ∈ cursor, c.2.updatedAt ≤ Json.maxSafeInteger) :
    s.listTasks (options.startingAt cursor) =
      (limited (options.limit.getD 100)
        ((s.matching options).filter fun e => Keyset.After Precedes cursor e)).mapM parseTask := by
  cases cursor with
  | none =>
    have hcursor : options.cursor = .ok none := by
      simp [ListTasksOptions.cursor, hfirst, refuse]
    rw [matching, ← sorted_filter, listTasks, ListTasksOptions.startingAt, hcursor]
    simp [ListTasksOptions.Past, Keyset.After, bind, Except.bind]
  | some last =>
    rw [matching, ← sorted_filter, listTasks, ListTasksOptions.startingAt,
      cursor_after options (hsafe last rfl)]
    simp only [bind, Except.bind, past_iff, Keyset.After, Option.mem_some_iff, forall_eq']
    rfl

theorem mem_matching {e : UuidV7 × Task} :
    e ∈ s.matching options ↔ s.tasks[e.1]? = some e.2 ∧ options.Selects e.2 := by
  rw [matching, List.mem_insertionSort, Table.mem_rows, decide_eq_true_eq]

theorem parseTask_eq (a b : UuidV7 × Task) (h : parseTask a = .ok b) : b = a := by
  simp only [parseTask, bind_eq_ok, refuse_eq_ok, pure_eq_ok] at h
  obtain ⟨-, -, rfl⟩ := h
  rfl

theorem limited_isPrefix (limit : ℤ) (rows : List (UuidV7 × Task)) : limited limit rows <+: rows := by
  unfold limited
  split
  · exact List.prefix_refl _
  · exact List.take_prefix _ _

/-- Where a page passes for the last, nothing was cut from it. -/
theorem lastPage_limited {limit : ℤ} (hlimit : limit ≠ 0) (short : Bool)
    (rows : List (UuidV7 × Task)) (h : lastPage short limit (limited limit rows) = true) :
    limited limit rows = rows := by
  unfold limited at h ⊢
  split
  · rfl
  · rename_i hlow
    rw [if_neg hlow] at h
    have hshort : (rows.take limit.toNat).length < limit.toNat := by
      simp only [lastPage, Bool.or_eq_true, List.isEmpty_iff, Bool.and_eq_true,
        decide_eq_true_eq] at h
      rcases h with hnil | ⟨-, -, hlength⟩
      · rw [hnil, List.length_nil]
        omega
      · omega
    rw [List.length_take] at hshort
    exact List.take_of_length_le (by omega)

/-- CORRECT: the pages of a listing, followed by their cursors until one is empty or until one is
    short, are together all the rows that the filters select, each once, newest first and by
    descending id where the times are equal. -/
theorem listing_follows (s : WorkStore) (options : ListTasksOptions)
    (hfirst : options.beforeUpdatedAt = none ∧ options.beforeId = none)
    (hlimit : options.limit ≠ some 0)
    (hsafe : ∀ (id : UuidV7) row, s.tasks[id]? = some row → row.updatedAt ≤ Json.maxSafeInteger)
    (short : Bool) (fuel : ℕ) (hfuel : (s.matching options).length < fuel) :
    s.followListing options short fuel = (s.matching options).mapM parseTask ∧
      (∀ found, s.followListing options short fuel = .ok found → found = s.matching options) ∧
      (s.matching options).Pairwise Precedes ∧
      ∀ e, e ∈ s.matching options ↔ s.tasks[e.1]? = some e.2 ∧ options.Selects e.2 := by
  have hnonzero : options.limit.getD 100 ≠ 0 := by
    cases hl : options.limit with
    | none => simp
    | some limit =>
      rintro rfl
      exact hlimit hl
  have hwalk : s.followListing options short fuel = (s.matching options).mapM parseTask := by
    refine Keyset.walk_eq precedes_asymm (s.sorted_precedes _) parseTask_eq
      (limited_isPrefix (options.limit.getD 100)) (by simp [lastPage])
      (lastPage_limited hnonzero short) ?_ hfuel
    intro cursor hcursor
    exact listTasks_from hfirst fun c hc => hsafe c.1 c.2 (mem_matching.1 (hcursor c hc)).1
  refine ⟨hwalk, ?_, s.sorted_precedes _, fun e => mem_matching⟩
  intro found hfound
  rw [hwalk] at hfound
  exact Keyset.mapM_check parseTask_eq hfound

/-- Three rows with one update time, in pages of one. -/
theorem listing_follows_ties :
    let options : ListTasksOptions := { now := 1, limit := some 1 }
    (plainFamily.followListing options true 4 = (plainFamily.matching options).mapM parseTask ∧
      (∀ found, plainFamily.followListing options true 4 = .ok found →
        found = plainFamily.matching options) ∧
      (plainFamily.matching options).Pairwise Precedes ∧
      ∀ e, e ∈ plainFamily.matching options ↔
        plainFamily.tasks[e.1]? = some e.2 ∧ options.Selects e.2) ∧
      (plainFamily.matching options).map Prod.fst = [3, 2, 1] :=
  ⟨listing_follows plainFamily { now := 1, limit := some 1 } ⟨rfl, rfl⟩ (by decide)
    (fun id row h => by
      have hall : plainFamily.tasks.toList.all (fun e => e.2.updatedAt ≤ Json.maxSafeInteger) :=
        by decide +kernel
      exact of_decide_eq_true (List.all_eq_true.1 hall (id, row) (Table.mem_toList.2 h)))
    true 4 (by decide +kernel), by decide +kernel⟩

end WorkStore

end Tasq
