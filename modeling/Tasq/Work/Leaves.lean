import Mathlib.Tactic
import Tasq.Work.Progress

/-! What progress counts, and what its percentage says.

    The leaves of a project and of a task are described by the parent edges between live tasks; the
    walk by levels finds exactly the tasks below its root. The share is rounded twice to a double
    and then to an integer, so it is 100 from 199 leaves of 200 on. -/

namespace Tasq

open Outcome Relation

/-! ### The share -/

section Share

/-- The quotient of what is done, from 199/200 on and before. -/
theorem share_bounds {d n : ℕ} (hn : 0 < n) (hle : d ≤ n) (hbound : n < 2 ^ 32) :
    (199 * n ≤ 200 * d → (199 / 200 : ℚ) ≤ d / n) ∧
      (200 * d < 199 * n → (d : ℚ) / n ≤ 199 / 200 - 1 / 2 ^ 40) ∧ (d : ℚ) / n ≤ 1 := by
  have hpos : (0 : ℚ) < n := by exact_mod_cast hn
  refine ⟨?_, ?_, ?_⟩
  · intro h
    have hq : (199 : ℚ) * n ≤ 200 * d := by exact_mod_cast h
    rw [le_div_iff₀ hpos]
    linarith
  · intro h
    have hq : (200 : ℚ) * d + 1 ≤ 199 * n := by exact_mod_cast h
    have hb : (n : ℚ) < 2 ^ 32 := by exact_mod_cast hbound
    rw [div_le_iff₀ hpos]
    nlinarith
  · rw [div_le_one hpos]
    exact_mod_cast hle

/-- 199/200 is rounded down, and what its hundredfold loses is rounded up again. -/
theorem round_high : Double.round (Double.round (199 / 200) * 100) = 199 / 2 := by
  have hquotient : Double.round (199 / 200) = (8962163258467287 : ℤ) * 2 ^ ((-1 : ℤ) - 52) :=
    Double.round_eq (by norm_num) (by norm_num) (by norm_num) (by norm_num) (by norm_num)
  have hproduct : Double.round ((8962163258467287 : ℤ) * 2 ^ ((-1 : ℤ) - 52) * 100) =
      (7001690045677568 : ℤ) * 2 ^ ((6 : ℤ) - 52) :=
    Double.round_eq (by norm_num) (by norm_num) (by norm_num) (by norm_num) (by norm_num)
  rw [hquotient, hproduct]
  norm_num

/-- A little below 199/200, nothing is rounded up to a half. -/
theorem round_low : Double.round (Double.round (199 / 200 - 1 / 2 ^ 40) * 100) < 199 / 2 := by
  have hquotient : Double.round (199 / 200 - 1 / 2 ^ 40) =
      (8962163258459095 : ℤ) * 2 ^ ((-1 : ℤ) - 52) :=
    Double.round_eq (by norm_num) (by norm_num) (by norm_num) (by norm_num) (by norm_num)
  have hproduct : Double.round ((8962163258459095 : ℤ) * 2 ^ ((-1 : ℤ) - 52) * 100) =
      (7001690045671168 : ℤ) * 2 ^ ((6 : ℤ) - 52) :=
    Double.round_eq (by norm_num) (by norm_num) (by norm_num) (by norm_num) (by norm_num)
  rw [hquotient, hproduct]
  norm_num

theorem round_whole : Double.round (Double.round 1 * 100) = 100 := by
  have hquotient : Double.round 1 = (4503599627370496 : ℤ) * 2 ^ ((0 : ℤ) - 52) :=
    Double.round_eq (by norm_num) (by norm_num) (by norm_num) (by norm_num) (by norm_num)
  have hproduct : Double.round ((4503599627370496 : ℤ) * 2 ^ ((0 : ℤ) - 52) * 100) =
      (7036874417766400 : ℤ) * 2 ^ ((6 : ℤ) - 52) :=
    Double.round_eq (by norm_num) (by norm_num) (by norm_num) (by norm_num) (by norm_num)
  rw [hquotient, hproduct]
  norm_num

/-- The two roundings of a share, together. -/
theorem round_share_mono {x y : ℚ} (hx : 0 ≤ x) (h : x ≤ y) :
    Double.round (Double.round x * 100) ≤ Double.round (Double.round y * 100) := by
  have hround := Double.round_mono hx h
  have hnonneg := Double.round_nonneg hx
  exact Double.round_mono (by linarith) (by linarith)

/-- SHARE: of fewer than `2 ^ 32` leaves, the percentage is 100 from 199 of 200 on. -/
theorem percentOf_eq_hundred {d n : ℕ} (hle : d ≤ n) (hbound : n < 2 ^ 32) :
    percentOf d n = 100 ↔ 0 < n ∧ 199 * n ≤ 200 * d := by
  rcases Nat.eq_zero_or_pos n with rfl | hn
  · simp [percentOf]
  · obtain ⟨hhigh, hlow, hone⟩ := share_bounds hn hle hbound
    have hnonneg : (0 : ℚ) ≤ d / n := by positivity
    rw [percentOf, if_neg hn.ne']
    constructor
    · intro h
      refine ⟨hn, ?_⟩
      by_contra hnot
      have hround := (round_share_mono hnonneg (hlow (not_le.1 hnot))).trans_lt round_low
      have hfloor := (Int.floor_eq_iff.1 h).1
      push_cast at hfloor
      linarith
    · rintro ⟨-, h⟩
      have hleft := round_share_mono (by norm_num) (hhigh h)
      have hright := round_share_mono hnonneg hone
      rw [round_high] at hleft
      rw [round_whole] at hright
      refine Int.floor_eq_iff.2 ⟨?_, ?_⟩
      · push_cast
        linarith
      · push_cast
        linarith

/-- MONOTONE: a share that does not fall gives a percentage that does not fall. -/
theorem percentOf_mono {d n d' n' : ℕ} (hempty : n' = 0 → n = 0) (h : d * n' ≤ d' * n) :
    percentOf d n ≤ percentOf d' n' := by
  rcases Nat.eq_zero_or_pos n with rfl | hn
  · rw [percentOf, if_pos rfl, percentOf]
    split
    · rfl
    · have hnonneg : (0 : ℚ) ≤ d' / n' := by positivity
      have hround := Double.round_nonneg (x := Double.round (d' / n') * 100)
        (mul_nonneg (Double.round_nonneg hnonneg) (by norm_num))
      exact Int.floor_nonneg.2 (by linarith)
  · have hn' : 0 < n' := Nat.pos_of_ne_zero fun hzero => hn.ne' (hempty hzero)
    rw [percentOf, if_neg hn.ne', percentOf, if_neg hn'.ne']
    refine Double.mathRound_mono (round_share_mono (by positivity) ?_)
    rw [div_le_div_iff₀ (by exact_mod_cast hn) (by exact_mod_cast hn')]
    exact_mod_cast h

end Share

namespace WorkStore

variable (s : WorkStore)

/-! ### What is counted -/

/-- The task is live, and names the parent. -/
def ChildOf (p c : UuidV7) : Prop :=
  ∃ row, s.tasks[c]? = some row ∧ row.deletedAt = none ∧ row.parentTaskId = some p

/-- The task is live, and of the project. -/
def InProject (projectId k : UuidV7) : Prop :=
  ∃ row, s.tasks[k]? = some row ∧ row.deletedAt = none ∧ row.projectId = some projectId

/-- The task is another one than the root, and below it over live tasks. -/
def BelowTask (root k : UuidV7) : Prop := k ≠ root ∧ TransGen s.ChildOf root k

/-- The task is in the scope, and none of its live children is. -/
def LeafOf (scope : UuidV7 → Prop) (k : UuidV7) : Prop := scope k ∧ ∀ c, scope c → ¬ s.ChildOf k c

/-- The leaves of a project. -/
def CountedInProject (projectId : UuidV7) : UuidV7 → Prop := s.LeafOf (s.InProject projectId)

/-- The leaves below a task, or the task where nothing is below it. -/
def CountedUnder (root k : UuidV7) : Prop :=
  s.LeafOf (s.BelowTask root) k ∨ k = root ∧ ∀ c, ¬ s.BelowTask root c

/-- The list has the row of every counted task, once. -/
structure Lists (counted : UuidV7 → Prop) (tasks : List (UuidV7 × Task)) : Prop where
  keys : (tasks.map Prod.fst).Nodup
  mem : ∀ e, e ∈ tasks ↔ s.tasks[e.1]? = some e.2 ∧ counted e.1

variable {s} {scope counted : UuidV7 → Prop} {tasks : List (UuidV7 × Task)} {k root : UuidV7}

theorem childOf_row {p c : UuidV7} {row : Task} (hrow : s.tasks[c]? = some row) :
    s.ChildOf p c ↔ row.deletedAt = none ∧ row.parentTaskId = some p := by
  constructor
  · rintro ⟨row', hrow', h⟩
    rw [hrow, Option.some.injEq] at hrow'
    exact hrow' ▸ h
  · exact fun h => ⟨row, hrow, h⟩

theorem mem_progressLeaves {e : UuidV7 × Task} :
    e ∈ progressLeaves tasks ↔ e ∈ tasks ∧ ∀ x ∈ tasks, x.2.parentTaskId ≠ some e.1 := by
  simp [progressLeaves]

/-- LEAVES: of the rows of a scope of live tasks, those that no other names as its parent are the
    leaves of the scope. -/
theorem lists_progressLeaves (hlive : ∀ k, scope k → LiveIn s.tasks k) (h : s.Lists scope tasks) :
    s.Lists (s.LeafOf scope) (progressLeaves tasks) := by
  refine ⟨h.keys.sublist (List.filter_sublist.map _), ?_⟩
  intro e
  rw [mem_progressLeaves, h.mem, LeafOf, and_assoc]
  refine and_congr_right fun _ => and_congr_right fun _ => ?_
  constructor
  · intro hnone c hc hchild
    obtain ⟨row, hrow, -, hparent⟩ := hchild
    exact hnone (c, row) ((h.mem _).2 ⟨hrow, hc⟩) hparent
  · intro hnone x hx hparent
    obtain ⟨hrow, hx⟩ := (h.mem x).1 hx
    obtain ⟨row, hrow', hdeleted⟩ := hlive x.1 hx
    rw [hrow, Option.some.injEq] at hrow'
    exact hnone x.1 hx ⟨x.2, hrow, hrow' ▸ hdeleted, hparent⟩

/-! ### The tree -/

theorem mem_children {frontier : List UuidV7} {e : UuidV7 × Task} :
    e ∈ s.children false frontier ↔
      s.tasks[e.1]? = some e.2 ∧ ∃ p ∈ frontier, s.ChildOf p e.1 := by
  rw [children, List.mem_insertionSort, Table.mem_rows]
  refine and_congr_right fun hrow => ?_
  simp only [childOf_row hrow, Bool.and_eq_true, Option.any_eq_true, decide_eq_true_eq,
    Bool.false_or, Option.isNone_iff_eq_none]
  constructor
  · rintro ⟨⟨p, hparent, hp⟩, hdeleted⟩
    exact ⟨p, hp, hdeleted, hparent⟩
  · rintro ⟨p, hp, hdeleted, hparent⟩
    exact ⟨⟨p, hparent, hp⟩, hdeleted⟩

theorem children_keys (includeDeleted : Bool) (frontier : List UuidV7) :
    ((s.children includeDeleted frontier).map Prod.fst).Nodup :=
  (((List.perm_insertionSort _ _).map Prod.fst).nodup_iff).2 (Table.keysWhere_nodup s.tasks _)

/-- A way that leaves a set does so in one step. -/
theorem exists_exit {r : UuidV7 → UuidV7 → Prop} {S : UuidV7 → Prop} {a : UuidV7}
    (h : ReflTransGen r a k) (ha : S a) (hk : ¬ S k) :
    ∃ b c, S b ∧ ¬ S c ∧ r b c ∧ ReflTransGen r c k := by
  induction h using ReflTransGen.head_induction_on with
  | refl => exact absurd ha hk
  | @head a b hedge hway ih =>
    by_cases hb : S b
    · exact ih hb
    · exact ⟨a, b, ha, hb, hedge, hway⟩

/-- RUN: the rounds give what can be reached from the frontier and was not seen, once each, when
    every child of what was seen before the frontier was seen. -/
theorem treeFrom_spec {rounds : ℕ} {seen frontier : List UuidV7} {below : List (UuidV7 × Task)}
    (hsub : ∀ f ∈ frontier, f ∈ seen)
    (hclosed : ∀ a b, a ∈ seen → a ∉ frontier → s.ChildOf a b → b ∈ seen)
    (h : s.treeFrom false rounds seen frontier = .ok below) :
    s.Lists (fun k => k ∉ seen ∧ ∃ f ∈ frontier, TransGen s.ChildOf f k) below := by
  induction rounds generalizing seen frontier below with
  | zero => cases h
  | succ rounds ih =>
    simp only [treeFrom, bind_eq_ok] at h
    obtain ⟨rows, hrows, h⟩ := h
    obtain rfl := Keyset.mapM_check parseTask_eq hrows
    set parsed := (s.children false frontier).filter fun e => e.1 ∉ seen with hparsed
    have hmem : ∀ e, e ∈ parsed ↔ s.tasks[e.1]? = some e.2 ∧ e.1 ∉ seen ∧
        ∃ f ∈ frontier, s.ChildOf f e.1 := by
      intro e
      rw [hparsed, List.mem_filter, mem_children, decide_eq_true_eq, and_assoc,
        and_comm (b := _ ∉ _)]
    -- the first step out of what was seen leads from the frontier to a fresh row
    have hexit : ∀ k f, k ∉ seen → f ∈ frontier → TransGen s.ChildOf f k →
        ∃ c row, (c, row) ∈ parsed ∧ ReflTransGen s.ChildOf c k := by
      intro k f hk hf hway
      obtain ⟨b, c, hb, hc, ⟨row, hrow, hchild⟩, hway⟩ :=
        exists_exit (S := (· ∈ seen)) hway.to_reflTransGen (hsub f hf) hk
      have hbf : b ∈ frontier := by
        by_contra hnot
        exact hc (hclosed b c hb hnot ⟨row, hrow, hchild⟩)
      exact ⟨c, row, (hmem (c, row)).2 ⟨hrow, hc, b, hbf, row, hrow, hchild⟩, hway⟩
    split at h
    · rename_i hnil
      obtain rfl := (pure_eq_ok _ _).1 h
      refine ⟨List.nodup_nil, fun e => ⟨fun he => absurd he List.not_mem_nil, ?_⟩⟩
      rintro ⟨-, hk, f, hf, hway⟩
      obtain ⟨c, row, hc, -⟩ := hexit e.1 f hk hf hway
      rw [hnil] at hc
      exact absurd hc List.not_mem_nil
    · simp only [bind_eq_ok, pure_eq_ok] at h
      obtain ⟨rest, hrest, rfl⟩ := h
      have hkeys : ∀ k, k ∈ parsed.map Prod.fst ↔ ∃ row, (k, row) ∈ parsed := by simp
      have hrest := ih (fun f hf => List.mem_append_right _ hf) ?_ hrest
      · refine ⟨?_, ?_⟩
        · rw [List.map_append, List.nodup_append]
          refine ⟨(children_keys false frontier).sublist (List.filter_sublist.map _),
            hrest.keys, ?_⟩
          rintro a ha b hb rfl
          obtain ⟨e, he, rfl⟩ := List.mem_map.1 hb
          exact ((hrest.mem e).1 he).2.1 (List.mem_append_right _ ha)
        · intro e
          rw [List.mem_append, hmem, hrest.mem]
          constructor
          · rintro (⟨hrow, hk, f, hf, hchild⟩ | ⟨hrow, hk, f, hf, hway⟩)
            · exact ⟨hrow, hk, f, hf, .single hchild⟩
            · obtain ⟨row, hfresh⟩ := (hkeys f).1 hf
              obtain ⟨-, -, f', hf', hchild⟩ := (hmem _).1 hfresh
              exact ⟨hrow, fun hseen => hk (List.mem_append_left _ hseen), f', hf',
                .head hchild hway⟩
          · rintro ⟨hrow, hk, f, hf, hway⟩
            obtain ⟨c, row, hc, hway⟩ := hexit e.1 f hk hf hway
            by_cases hfresh : e.1 ∈ parsed.map Prod.fst
            · obtain ⟨row', hrow'⟩ := (hkeys _).1 hfresh
              obtain ⟨hstored, hrest'⟩ := (hmem _).1 hrow'
              exact .inl ⟨hrow, hrest'⟩
            · refine .inr ⟨hrow, fun hin => ?_, c, (hkeys c).2 ⟨row, hc⟩, ?_⟩
              · rcases List.mem_append.1 hin with hin | hin
                · exact hk hin
                · exact hfresh hin
              · rcases ReflTransGen.cases_head hway with heq | ⟨d, hedge, hway⟩
                · exact absurd ((hkeys _).2 ⟨row, heq ▸ hc⟩) hfresh
                · exact TransGen.head' hedge hway
      · intro a b ha hnot hchild
        rcases List.mem_append.1 ha with ha | ha
        · by_cases hf : a ∈ frontier
          · by_cases hb : b ∈ seen
            · exact List.mem_append_left _ hb
            · obtain ⟨row, hrow, hlive⟩ := hchild
              exact List.mem_append_right _ ((hkeys b).2
                ⟨row, (hmem _).2 ⟨hrow, hb, a, hf, row, hrow, hlive⟩⟩)
          · exact List.mem_append_left _ (hclosed a b ha hf hchild)
        · exact absurd ha hnot

/-- The failures that come of too few rounds. -/
def Unbounded (e : Failure) : Prop := e = .unbounded

theorem mapM_parseTask_avoids (rows : List (UuidV7 × Task)) :
    Avoids Unbounded (rows.mapM parseTask) := by
  induction rows with
  | nil => simp [List.mapM_nil, pure, Except.pure]
  | cons a rows ih =>
    rw [List.mapM_cons]
    refine Avoids.bind ?_ fun _ _ => Avoids.bind ih fun _ _ => by simp [pure, Except.pure]
    exact Avoids.bind (by simp [Unbounded]) fun _ _ => by simp [pure, Except.pure]

/-- A narrower condition that fails of one more element holds of fewer. -/
theorem countP_lt {α : Type} {p q : α → Bool} (hpq : ∀ x, p x = true → q x = true) {e : α}
    (hp : p e = false) (hq : q e = true) : ∀ {l : List α}, e ∈ l → l.countP p < l.countP q
  | a :: l, he => by
    have hle : l.countP p ≤ l.countP q := List.countP_mono_left fun x _ => hpq x
    rw [List.countP_cons, List.countP_cons]
    rcases List.mem_cons.1 he with rfl | he
    · simp only [hp, hq, Bool.false_eq_true, if_false, if_true]
      omega
    · have hlt := countP_lt hpq hp hq he
      by_cases hpa : p a = true
      · simp only [hpa, hpq a hpa, if_true]
        omega
      · rw [if_neg hpa]
        omega

/-- ENDS: with more rounds than rows that were not seen, the walk comes to its end. -/
theorem treeFrom_avoids (includeDeleted : Bool) {rounds : ℕ} {seen frontier : List UuidV7}
    (h : s.tasks.toList.countP (fun e => e.1 ∉ seen) < rounds) :
    Avoids Unbounded (s.treeFrom includeDeleted rounds seen frontier) := by
  induction rounds generalizing seen frontier with
  | zero => omega
  | succ rounds ih =>
    refine Avoids.bind (mapM_parseTask_avoids _) fun rows hrows => ?_
    obtain rfl := Keyset.mapM_check parseTask_eq hrows
    dsimp only
    split
    · simp [pure, Except.pure]
    · rename_i hsome
      have hfewer : s.tasks.toList.countP (fun e => e.1 ∉ seen ++
          ((s.children includeDeleted frontier).filter fun e => e.1 ∉ seen).map Prod.fst) <
          s.tasks.toList.countP (fun e => e.1 ∉ seen) := by
        -- a fresh row is seen from now on
        obtain ⟨e, he⟩ := List.exists_mem_of_ne_nil _ hsome
        obtain ⟨hchild, hfresh⟩ := List.mem_filter.1 he
        rw [children, List.mem_insertionSort, Table.mem_rows] at hchild
        refine countP_lt ?_ (e := e) ?_ hfresh (Table.mem_toList.2 hchild.1)
        · intro x hx
          rw [decide_eq_true_eq, List.mem_append, not_or] at hx
          exact decide_eq_true hx.1
        · exact decide_eq_false (not_not.2 (List.mem_append_right _ (List.mem_map_of_mem he)))
      exact Avoids.bind (ih (hfewer.trans_le (Nat.lt_succ_iff.1 h))) fun _ _ => by
        simp [pure, Except.pure]

theorem toArray_eq_ok {α : Type} {rows found : List α} :
    toArray rows = .ok found ↔ rows.length < 2 ^ 32 ∧ rows = found := by
  simp only [toArray, bind_eq_ok, refuse_eq_ok, pure_eq_ok, exists_const, not_le]

/-- TREE: the root first, and then all that is below it. -/
theorem getTaskTree_eq_ok {tree : List (UuidV7 × Task)}
    (h : s.getTaskTree root false = .ok (some tree)) :
    ∃ row below, tree = (root, row) :: below ∧ s.tasks[root]? = some row ∧ tree.length < 2 ^ 32 ∧
      s.Lists (s.BelowTask root) below := by
  simp only [getTaskTree, bind_eq_ok] at h
  obtain ⟨found, hfound, h⟩ := h
  cases found with
  | none => cases h
  | some row =>
    simp only [bind_eq_ok, pure_eq_ok, toArray_eq_ok, Option.some.injEq] at h
    obtain ⟨below, hbelow, _, ⟨hlength, rfl⟩, rfl⟩ := h
    refine ⟨row, below, rfl, (Ledger.getTask_eq_ok.1 hfound).1, hlength, ?_⟩
    have hlists := treeFrom_spec (by simp) (fun a b ha hnot => absurd ha hnot) hbelow
    refine ⟨hlists.keys, fun e => ?_⟩
    rw [hlists.mem]
    simp [BelowTask]

theorem getTaskTree_avoids (id : UuidV7) (includeDeleted : Bool) :
    Avoids Unbounded (s.getTaskTree id includeDeleted) := by
  refine Avoids.bind ?_ fun found _ => ?_
  · unfold getTask Ledger.getTask
    split
    · simp [pure, Except.pure]
    · exact Avoids.bind (by simp [Unbounded]) fun _ _ => by simp [pure, Except.pure]
  · cases found with
    | none => simp [pure, Except.pure]
    | some row =>
      refine Avoids.bind (treeFrom_avoids includeDeleted ?_) fun below _ =>
        Avoids.bind ?_ fun _ _ => by simp [pure, Except.pure]
      · exact Nat.lt_succ_of_le List.countP_le_length
      · exact Avoids.bind (by simp [Unbounded]) fun _ _ => by simp [pure, Except.pure]

/-! ### The counts -/

/-- The counted tasks that are done. -/
def doneAmong (s : WorkStore) (counted : UuidV7 → Prop) : Set UuidV7 :=
  {k | counted k ∧ ∃ row, s.tasks[k]? = some row ∧ row.status = .done}

/-- The counted tasks that are not cancelled. -/
def keptAmong (s : WorkStore) (counted : UuidV7 → Prop) : Set UuidV7 :=
  {k | counted k ∧ ∃ row, s.tasks[k]? = some row ∧ row.status ≠ .cancelled}

/-- As many counted rows satisfy a condition as the list has. -/
theorem ncard_eq_countP (h : s.Lists counted tasks) (p : Task → Bool) :
    {k | counted k ∧ ∃ row, s.tasks[k]? = some row ∧ p row = true}.ncard =
      tasks.countP fun e => p e.2 := by
  have hset : {k | counted k ∧ ∃ row, s.tasks[k]? = some row ∧ p row = true} =
      (((tasks.filter fun e => p e.2).map Prod.fst).toFinset : Set UuidV7) := by
    ext k
    simp only [Set.mem_ofPred_eq, List.coe_toFinset, List.mem_map, List.mem_filter, h.mem]
    constructor
    · rintro ⟨hk, row, hrow, hp⟩
      exact ⟨(k, row), ⟨⟨hrow, hk⟩, hp⟩, rfl⟩
    · rintro ⟨e, ⟨⟨hrow, hk⟩, hp⟩, rfl⟩
      exact ⟨hk, e.2, hrow, hp⟩
  rw [hset, Set.ncard_coe_finset, List.toFinset_card_of_nodup
    (h.keys.sublist (List.filter_sublist.map _)), List.length_map, List.countP_eq_length_filter]

/-- COUNTS: what is done, and what is not cancelled. -/
theorem counts_eq_ncard (h : s.Lists counted tasks) :
    (countByStatus tasks).done = (s.doneAmong counted).ncard ∧
      (countByStatus tasks).denominator = (s.keptAmong counted).ncard := by
  have hdone := ncard_eq_countP h fun row => decide (row.status = .done)
  have hkept := ncard_eq_countP h fun row => decide (row.status ≠ .cancelled)
  have htotal := List.length_eq_countP_add_countP
    (fun e : UuidV7 × Task => decide (e.2.status = .cancelled)) (l := tasks)
  have hnot : tasks.countP (fun e => decide (e.2.status ≠ .cancelled)) =
      tasks.countP fun e => decide (¬ decide (e.2.status = .cancelled) = true) := by simp
  simp only [decide_eq_true_eq] at hdone hkept
  rw [doneAmong, keptAmong, hdone, hkept, countByStatus]
  simp only
  rw [hnot]
  exact ⟨trivial, by omega⟩

/-- SHARE: the percentage is that of the counted tasks which are done. -/
theorem computePercentDone_eq (h : s.Lists counted tasks) :
    computePercentDone (countByStatus tasks) =
      percentOf (s.doneAmong counted).ncard (s.keptAmong counted).ncard := by
  obtain ⟨hdone, hkept⟩ := counts_eq_ncard h
  rw [computePercentDone, hdone, hkept]

/-- Done tasks are kept, and both are among the counted ones. -/
theorem done_le_kept (h : s.Lists counted tasks) :
    (s.doneAmong counted).ncard ≤ (s.keptAmong counted).ncard ∧
      (s.keptAmong counted).ncard ≤ tasks.length := by
  have hdone := ncard_eq_countP h fun row => decide (row.status = .done)
  have hkept := ncard_eq_countP h fun row => decide (row.status ≠ .cancelled)
  simp only [decide_eq_true_eq] at hdone hkept
  rw [doneAmong, keptAmong, hdone, hkept]
  refine ⟨List.countP_mono_left fun e _ he => ?_, List.countP_le_length⟩
  rw [decide_eq_true_eq] at he ⊢
  rw [he]
  decide

theorem done_subset_kept : s.doneAmong counted ⊆ s.keptAmong counted := by
  rintro k ⟨hk, row, hrow, hstatus⟩
  exact ⟨hk, row, hrow, by simp [hstatus]⟩

theorem kept_finite (h : s.Lists counted tasks) : (s.keptAmong counted).Finite := by
  refine Set.Finite.subset (tasks.map Prod.fst).toFinset.finite_toSet ?_
  rintro k ⟨hk, row, hrow, -⟩
  rw [List.coe_toFinset]
  exact List.mem_map.2 ⟨(k, row), (h.mem (k, row)).2 ⟨hrow, hk⟩, rfl⟩

/-- Some counted task is not cancelled, and all such tasks are done. -/
def AllDone (s : WorkStore) (counted : UuidV7 → Prop) : Prop :=
  (s.keptAmong counted).Nonempty ∧ ∀ k ∈ s.keptAmong counted, k ∈ s.doneAmong counted

theorem allDone_iff (h : s.Lists counted tasks) :
    s.AllDone counted ↔ 0 < (s.keptAmong counted).ncard ∧
      (s.doneAmong counted).ncard = (s.keptAmong counted).ncard := by
  have hfinite := kept_finite h
  rw [Set.ncard_pos hfinite]
  refine and_congr_right fun _ => ?_
  constructor
  · intro hall
    rw [Set.Subset.antisymm done_subset_kept hall]
  · intro heq k hk
    rw [Set.eq_of_subset_of_ncard_le done_subset_kept heq.ge hfinite]
    exact hk

/-- Not all are done, and 199 of 200 are. -/
def AlmostDone (s : WorkStore) (counted : UuidV7 → Prop) : Prop :=
  (s.doneAmong counted).ncard < (s.keptAmong counted).ncard ∧
    199 * (s.keptAmong counted).ncard ≤ 200 * (s.doneAmong counted).ncard

/-! ### A leaf is done -/

/-- The second store is the first one after the task is done. -/
def Completes (s s' : WorkStore) (k : UuidV7) : Prop :=
  ∃ row row', s.tasks[k]? = some row ∧ s'.tasks = s.tasks.insert k row' ∧ row'.status = .done ∧
    row'.deletedAt = row.deletedAt ∧ row'.parentTaskId = row.parentTaskId ∧
    row'.projectId = row.projectId

section Completed

variable {s' : WorkStore}

/-- What does not look at the status of a row finds the same rows. -/
theorem Completes.rows (h : s.Completes s' k) {p : Task → Prop}
    (hp : ∀ a b : Task, a.deletedAt = b.deletedAt → a.parentTaskId = b.parentTaskId →
      a.projectId = b.projectId → (p a ↔ p b)) (c : UuidV7) :
    (∃ row, s'.tasks[c]? = some row ∧ p row) ↔ ∃ row, s.tasks[c]? = some row ∧ p row := by
  obtain ⟨row, row', hrow, htasks, -, hdeleted, hparent, hproject⟩ := h
  rw [htasks, Table.getElem?_insert']
  by_cases hc : c = k
  · subst hc
    simp only [if_true, hrow, Option.some.injEq, exists_eq_left']
    exact hp _ _ hdeleted hparent hproject
  · rw [if_neg (Ne.symm hc)]

theorem Completes.childOf (h : s.Completes s' k) : s'.ChildOf = s.ChildOf := by
  funext p c
  exact propext (h.rows (fun a b hdeleted hparent _ => by rw [hdeleted, hparent]) c)

theorem Completes.countedInProject (h : s.Completes s' k) (projectId : UuidV7) :
    s'.CountedInProject projectId = s.CountedInProject projectId := by
  have hproject : s'.InProject projectId = s.InProject projectId := by
    funext c
    exact propext (h.rows (fun a b hdeleted _ hproject => by rw [hdeleted, hproject]) c)
  unfold CountedInProject LeafOf
  rw [hproject, h.childOf]

theorem Completes.countedUnder (h : s.Completes s' k) (root : UuidV7) :
    s'.CountedUnder root = s.CountedUnder root := by
  unfold CountedUnder LeafOf BelowTask
  rw [h.childOf]

theorem Completes.doneAmong (h : s.Completes s' k) (hk : counted k) :
    s'.doneAmong counted = insert k (s.doneAmong counted) := by
  obtain ⟨row, row', hrow, htasks, hstatus, -⟩ := h
  ext c
  simp only [WorkStore.doneAmong, Set.mem_ofPred_eq, Set.mem_insert_iff, htasks,
    Table.getElem?_insert']
  by_cases hc : c = k
  · subst hc
    simp [hk, hstatus]
  · simp [hc, Ne.symm hc]

theorem Completes.keptAmong (h : s.Completes s' k) (hk : counted k) :
    s'.keptAmong counted = insert k (s.keptAmong counted) := by
  obtain ⟨row, row', hrow, htasks, hstatus, -⟩ := h
  ext c
  simp only [WorkStore.keptAmong, Set.mem_ofPred_eq, Set.mem_insert_iff, htasks,
    Table.getElem?_insert']
  by_cases hc : c = k
  · subst hc
    simp [hk, hstatus]
  · simp [hc, Ne.symm hc]

/-- STEP: the percentage does not fall when a counted task is done. -/
theorem Completes.percentOf_le (h : s.Completes s' k) (hk : counted k)
    (hlists : s.Lists counted tasks) :
    percentOf (s.doneAmong counted).ncard (s.keptAmong counted).ncard ≤
      percentOf (s'.doneAmong counted).ncard (s'.keptAmong counted).ncard := by
  have hkept := kept_finite hlists
  have hdone : (s.doneAmong counted).Finite := hkept.subset done_subset_kept
  have hle : (s.doneAmong counted).ncard ≤ (s.keptAmong counted).ncard :=
    Set.ncard_le_ncard done_subset_kept hkept
  rw [h.doneAmong hk, h.keptAmong hk]
  by_cases hkd : k ∈ s.doneAmong counted
  · rw [Set.insert_eq_of_mem hkd, Set.insert_eq_of_mem (done_subset_kept hkd)]
  · rw [Set.ncard_insert_of_notMem hkd hdone]
    by_cases hkk : k ∈ s.keptAmong counted
    · rw [Set.insert_eq_of_mem hkk]
      exact percentOf_mono id (Nat.mul_le_mul_right _ (Nat.le_succ _))
    · rw [Set.ncard_insert_of_notMem hkk hkept]
      refine percentOf_mono (fun hzero => absurd hzero (Nat.succ_ne_zero _)) ?_
      rw [Nat.mul_succ, Nat.succ_mul]
      exact Nat.add_le_add_left hle _

end Completed

/-! ### Both kinds of progress -/

theorem progressOf_eq_ok {leaves : List (UuidV7 × Task)} {areaId : Option UuidV7} {now : UnixMs}
    {p : Progress} (h : s.progressOf leaves areaId now = .ok p) :
    p.counts = countByStatus leaves ∧
      p.percentDone = computePercentDone (countByStatus leaves) := by
  simp only [progressOf, bind_eq_ok, pure_eq_ok] at h
  obtain ⟨eta, -, rfl⟩ := h
  exact ⟨rfl, rfl⟩

/-- What was counted: the rows of an array, each once. -/
def Counts (s : WorkStore) (counted : UuidV7 → Prop) (p : Progress) : Prop :=
  ∃ leaves, s.Lists counted leaves ∧ leaves.length < 2 ^ 32 ∧ p.counts = countByStatus leaves ∧
    p.percentDone = computePercentDone (countByStatus leaves)

/-- PROJECT: the leaves of the project are counted. -/
theorem getProjectProgress_counts {projectId : UuidV7} {now : UnixMs} {p : Progress}
    (h : s.getProjectProgress projectId now = .ok p) :
    s.Counts (s.CountedInProject projectId) p := by
  simp only [getProjectProgress, bind_eq_ok, toArray_eq_ok] at h
  obtain ⟨-, -, rows, ⟨hlength, hrows⟩, tasks, htasks, h⟩ := h
  obtain rfl := Keyset.mapM_check parseTask_eq htasks
  obtain ⟨hcounts, hpercent⟩ := progressOf_eq_ok h
  have hlists : s.Lists (s.InProject projectId) tasks := by
    rw [← hrows]
    refine ⟨Table.keysWhere_nodup s.tasks _, fun e => ?_⟩
    rw [Table.mem_rows, decide_eq_true_eq]
    refine and_congr_right fun hrow => ?_
    constructor
    · rintro ⟨hproject, hdeleted⟩
      exact ⟨e.2, hrow, hdeleted, hproject⟩
    · rintro ⟨row, hrow', hdeleted, hproject⟩
      rw [hrow, Option.some.injEq] at hrow'
      exact hrow' ▸ ⟨hproject, hdeleted⟩
  refine ⟨progressLeaves tasks, lists_progressLeaves ?_ hlists, ?_, hcounts, hpercent⟩
  · rintro k ⟨row, hrow, hdeleted, -⟩
    exact ⟨row, hrow, hdeleted⟩
  · rw [hrows] at hlength
    exact (List.length_filter_le _ _).trans_lt hlength

theorem liveIn_of_below (h : s.BelowTask root k) : LiveIn s.tasks k := by
  obtain ⟨-, hway⟩ := h
  obtain ⟨c, -, row, hrow, hdeleted, -⟩ := TransGen.tail'_iff.1 hway
  exact ⟨row, hrow, hdeleted⟩

/-- TASK: the leaves below the task are counted, or the task where nothing is below it. -/
theorem getTaskProgress_counts {taskId : UuidV7} {now : UnixMs} {p : Progress}
    (h : s.getTaskProgress taskId now = .ok (some p)) : s.Counts (s.CountedUnder taskId) p := by
  simp only [getTaskProgress, bind_eq_ok] at h
  obtain ⟨-, -, tree, htree, h⟩ := h
  cases tree with
  | none => cases h
  | some tree =>
    simp only [bind_eq_ok, pure_eq_ok, Option.some.injEq] at h
    obtain ⟨_, h, rfl⟩ := h
    obtain ⟨hcounts, hpercent⟩ := progressOf_eq_ok h
    obtain ⟨row, below, rfl, hrow, hlength, hbelow⟩ := getTaskTree_eq_ok htree
    refine ⟨_, ?_, ?_, hcounts, hpercent⟩
    · split
      · rename_i hmore
        -- something is below the task, so that it is not counted itself
        obtain ⟨e, he⟩ := List.exists_mem_of_length_pos (l := below) (by simpa using hmore)
        have hsome : s.BelowTask taskId e.1 := ((hbelow.mem e).1 he).2
        have hleaves := lists_progressLeaves (fun k => liveIn_of_below) hbelow
        refine ⟨hleaves.keys, fun e' => ?_⟩
        rw [List.tail_cons, hleaves.mem, CountedUnder]
        refine and_congr_right fun _ => ⟨.inl, fun h => h.resolve_right ?_⟩
        exact fun hroot => hroot.2 e.1 hsome
      · rename_i hnone
        obtain rfl : below = [] := by
          cases below with
          | nil => rfl
          | cons e rest => simp at hnone
        have hempty : ∀ c, ¬ s.BelowTask taskId c := by
          intro c hc
          obtain ⟨crow, hcrow, -⟩ := liveIn_of_below hc
          exact absurd ((hbelow.mem (c, crow)).2 ⟨hcrow, hc⟩) List.not_mem_nil
        refine ⟨by simp, fun e => ?_⟩
        rw [List.mem_singleton, CountedUnder]
        constructor
        · rintro rfl
          exact ⟨hrow, .inr ⟨rfl, hempty⟩⟩
        · rintro ⟨hstored, hleaf | ⟨hroot, -⟩⟩
          · exact absurd hleaf.1 (hempty e.1)
          · rw [hroot, hrow, Option.some.injEq] at hstored
            exact Prod.ext hroot hstored.symm
    · split
      · exact ((List.length_filter_le _ _).trans (by simp)).trans_lt hlength
      · exact hlength

/-- What a report promises of the tasks that it counts. -/
structure Honest (s : WorkStore) (counted : UuidV7 → Prop) (p : Progress) : Prop where
  counts : ∃ leaves, s.Lists counted leaves ∧ p.counts = countByStatus leaves
  hundred : p.percentDone = 100 ↔ s.AllDone counted

/-- The report is honest, unless the leaves are almost done. -/
theorem Counts.honest_iff {p : Progress} (h : s.Counts counted p) :
    s.Honest counted p ↔ ¬ s.AlmostDone counted := by
  obtain ⟨leaves, hlists, hlength, hcounts, hpercent⟩ := h
  obtain ⟨hle, hkept⟩ := done_le_kept hlists
  have hhundred := percentOf_eq_hundred hle (hkept.trans_lt hlength)
  rw [computePercentDone_eq hlists] at hpercent
  rw [← hpercent] at hhundred
  have hiff : (p.percentDone = 100 ↔ s.AllDone counted) ↔ ¬ s.AlmostDone counted := by
    rw [hhundred, allDone_iff hlists, AlmostDone]
    omega
  exact ⟨fun h => hiff.1 h.hundred, fun h => ⟨⟨leaves, hlists, hcounts⟩, hiff.2 h⟩⟩

/-- The percentage does not fall when a counted task is done. -/
theorem Counts.rises {s' : WorkStore} {p p' : Progress} (h : s.Counts counted p)
    (h' : s'.Counts counted p') (hcompletes : s.Completes s' k) (hk : counted k) :
    p.percentDone ≤ p'.percentDone := by
  obtain ⟨leaves, hlists, -, -, hpercent⟩ := h
  obtain ⟨leaves', hlists', -, -, hpercent'⟩ := h'
  rw [hpercent, hpercent', computePercentDone_eq hlists, computePercentDone_eq hlists']
  exact hcompletes.percentOf_le hk hlists

/-- EXACT: the counts always range over the leaves, each once, and the percentage never falls when a
    counted leaf is done. It is 100 exactly when all are done, unless they are almost done; and the
    walk below a task always ends. -/
theorem progress_honest_iff (s : WorkStore) (now : UnixMs) :
    (∀ projectId p, s.getProjectProgress projectId now = .ok p →
      ((s.Honest (s.CountedInProject projectId) p ∧
          ∀ s' k now' p', s.CountedInProject projectId k → s.Completes s' k →
            s'.getProjectProgress projectId now' = .ok p' → p.percentDone ≤ p'.percentDone) ↔
        ¬ s.AlmostDone (s.CountedInProject projectId))) ∧
    (∀ taskId p, s.getTaskProgress taskId now = .ok (some p) →
      ((s.Honest (s.CountedUnder taskId) p ∧
          ∀ s' k now' p', s.CountedUnder taskId k → s.Completes s' k →
            s'.getTaskProgress taskId now' = .ok (some p') → p.percentDone ≤ p'.percentDone) ↔
        ¬ s.AlmostDone (s.CountedUnder taskId))) ∧
    ∀ taskId, Avoids Unbounded (s.getTaskTree taskId false) := by
  refine ⟨fun projectId p h => ?_, fun taskId p h => ?_, fun taskId => getTaskTree_avoids taskId _⟩
  · have hcounts := getProjectProgress_counts h
    rw [hcounts.honest_iff, and_iff_left_iff_imp]
    intro _ s' k now' p' hk hcompletes h'
    have hcounts' := getProjectProgress_counts h'
    rw [hcompletes.countedInProject] at hcounts'
    exact hcounts.rises hcounts' hcompletes hk
  · have hcounts := getTaskProgress_counts h
    rw [hcounts.honest_iff, and_iff_left_iff_imp]
    intro _ s' k now' p' hk hcompletes h'
    have hcounts' := getTaskProgress_counts h'
    rw [hcompletes.countedUnder] at hcounts'
    exact hcounts.rises hcounts' hcompletes hk

/-! ### A project with one open task -/

/-- Task 0 of project 9 is open, and as many others as are asked for are done. -/
def plainBacklog (others : ℕ) : WorkStore :=
  { WorkStore.opening "w" [] with
    tasks := Std.ExtTreeMap.ofList ((List.range (others + 1)).map fun k =>
      (k, { plainTask with
        projectId := some 9, status := if k = 0 then TaskStatus.open else .done })) }

/-- One of two tasks is done: the report is honest. -/
theorem progress_honest_half :
    ∃ p, (plainBacklog 1).getProjectProgress 9 1 = .ok p ∧ p.counts.done = 1 ∧
      (plainBacklog 1).Honest ((plainBacklog 1).CountedInProject 9) p := by
  have hends : Ends ((plainBacklog 1).getProjectProgress 9 1) fun p =>
      p.counts.done = 1 ∧ p.counts.denominator = 2 := by
    decide +kernel
  obtain ⟨p, hp, hdone, hkept⟩ := hends
  obtain ⟨leaves, hlists, -, hcounts, -⟩ := getProjectProgress_counts hp
  obtain ⟨hd, hk⟩ := counts_eq_ncard hlists
  have hnot : ¬ (plainBacklog 1).AlmostDone ((plainBacklog 1).CountedInProject 9) := by
    rw [AlmostDone, ← hd, ← hk, ← hcounts, hdone, hkept]
    omega
  exact ⟨p, hp, hdone, (((progress_honest_iff (plainBacklog 1) 1).1 9 p hp).2 hnot).1⟩

/-- NOT SO: of 200 leaves 199 are done and one is open, and the report says 100. -/
theorem open_leaf_rounded_away :
    ∃ p, (plainBacklog 199).getProjectProgress 9 1 = .ok p ∧ p.percentDone = 100 ∧
      p.counts.done = 199 ∧ p.counts.denominator = 200 ∧ p.counts.open = 1 ∧
      ¬ (plainBacklog 199).AllDone ((plainBacklog 199).CountedInProject 9) := by
  have hends : Ends ((plainBacklog 199).getProjectProgress 9 1) fun p =>
      p.counts.done = 199 ∧ p.counts.denominator = 200 ∧ p.counts.open = 1 := by
    decide +kernel
  obtain ⟨p, hp, hdone, hkept, hopen⟩ := hends
  obtain ⟨leaves, hlists, -, hcounts, hpercent⟩ := getProjectProgress_counts hp
  obtain ⟨hd, hk⟩ := counts_eq_ncard hlists
  refine ⟨p, hp, ?_, hdone, hkept, hopen, ?_⟩
  · rw [hpercent, computePercentDone, ← hcounts, hdone, hkept]
    exact (percentOf_eq_hundred (by omega) (by omega)).2 (by omega)
  · rw [allDone_iff hlists, ← hd, ← hk, ← hcounts, hdone, hkept]
    omega

end WorkStore

end Tasq
