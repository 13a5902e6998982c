import Mathlib.Data.List.Sort
import Mathlib.Tactic

/-! Sorting by a comparison that may tie: a stable sort keeps tied elements in the order they had.

    So the sorted list is known from the elements and from the order of those that tie, and from
    nothing else (`sortBy_eq_iff`). -/

namespace Sorted

variable {α : Type*} (cmp : α → α → Ordering)

/-- `values.sort(cmp)` -/
def sortBy (l : List α) : List α := l.insertionSort fun a b => cmp a b ≠ .gt

/-- `cmp(a.field, b.field)` -/
def byField {β : Type*} (field : β → α) (a b : β) : Ordering := cmp (field a) (field b)

instance {β : Type*} [Std.TransCmp cmp] (field : β → α) : Std.TransCmp (byField cmp field) where
  eq_swap := @fun a b => Std.OrientedCmp.eq_swap (a := field a) (b := field b)
  isLE_trans := @fun a b c => Std.TransCmp.isLE_trans (a := field a) (b := field b) (c := field c)

/-- The elements of a list that tie with one. -/
def tiedWith (x : α) (l : List α) : List α := l.filter fun a => cmp x a = .eq

variable {cmp}

theorem sortBy_perm (l : List α) : (sortBy cmp l).Perm l := List.perm_insertionSort _ _

theorem tiedWith_append (x : α) (l m : List α) :
    tiedWith cmp x (l ++ m) = tiedWith cmp x l ++ tiedWith cmp x m :=
  List.filter_append _ _

variable [Std.TransCmp cmp]

/-- STEP: an element goes in front of those it ties with. -/
theorem tiedWith_orderedInsert (x a : α) (l : List α) :
    tiedWith cmp x (l.orderedInsert (fun a b => cmp a b ≠ .gt) a) = tiedWith cmp x (a :: l) := by
  induction l with
  | nil => rfl
  | cons b l ih =>
    rw [List.orderedInsert]
    split
    · rfl
    · rename_i hgt
      have hgt : cmp a b = .gt := by simpa using hgt
      rw [tiedWith, List.filter_cons, ← tiedWith, ih]
      by_cases hb : cmp x b = .eq
      · -- What ties with `b` is not `a`, which stands after `b`.
        have ha : cmp x a ≠ .eq := by
          intro ha
          rw [Std.TransCmp.congr_left (Std.OrientedCmp.eq_symm ha), hb] at hgt
          cases hgt
        simp [tiedWith, ha, hb]
      · simp [tiedWith, List.filter_cons, hb]

/-- CORRECT: sorting keeps the order of tied elements. -/
theorem tiedWith_sortBy (x : α) (l : List α) :
    tiedWith cmp x (sortBy cmp l) = tiedWith cmp x l := by
  induction l with
  | nil => rfl
  | cons a l ih =>
    rw [sortBy, List.insertionSort_cons, tiedWith_orderedInsert, tiedWith, List.filter_cons,
      ← tiedWith, ← sortBy, ih]
    simp [tiedWith, List.filter_cons]

theorem sortBy_pairwise (l : List α) : (sortBy cmp l).Pairwise fun a b => cmp a b ≠ .gt := by
  have : Std.Total fun a b : α => cmp a b ≠ .gt := ⟨fun a b => by
    rcases h : cmp a b with _ | _ | _
    · exact .inl (by simp)
    · exact .inl (by simp)
    · exact .inr (by rw [Std.OrientedCmp.gt_iff_lt.1 h]; simp)⟩
  have : IsTrans α fun a b => cmp a b ≠ .gt := ⟨fun a b c hab hbc =>
    Ordering.isLE_iff_ne_gt.1 (Std.TransCmp.isLE_trans (Ordering.isLE_iff_ne_gt.2 hab)
      (Ordering.isLE_iff_ne_gt.2 hbc))⟩
  exact List.pairwise_insertionSort _ _

theorem mem_tiedWith_self {a : α} {l : List α} : a ∈ tiedWith cmp a l ↔ a ∈ l := by
  simp [tiedWith, Std.ReflCmp.compare_self]

theorem mem_iff_of_tiedWith {l m : List α} (h : ∀ x, tiedWith cmp x l = tiedWith cmp x m) (a : α) :
    a ∈ l ↔ a ∈ m := by
  rw [← @mem_tiedWith_self _ cmp, h, mem_tiedWith_self]

/-- EXACT: a sorted list is known from its tied elements. -/
theorem eq_of_tiedWith {l m : List α} (hl : l.Pairwise fun a b => cmp a b ≠ .gt)
    (hm : m.Pairwise fun a b => cmp a b ≠ .gt) (h : ∀ x, tiedWith cmp x l = tiedWith cmp x m) :
    l = m := by
  have hself : ∀ a : α, cmp a a = .eq := fun a => Std.ReflCmp.compare_self
  have hmem := mem_iff_of_tiedWith h
  induction l generalizing m with
  | nil =>
    cases m with
    | nil => rfl
    | cons b m => exact absurd ((hmem b).2 List.mem_cons_self) List.not_mem_nil
  | cons a l ih =>
    cases m with
    | nil => exact absurd ((hmem a).1 List.mem_cons_self) List.not_mem_nil
    | cons b m =>
      rw [List.pairwise_cons] at hl hm
      -- Each head stands before the other one, so the heads tie.
      have hab : cmp a b ≠ .gt := by
        rcases List.mem_cons.1 ((hmem b).2 List.mem_cons_self) with rfl | hb
        · simp [hself]
        · exact hl.1 b hb
      have hba : cmp b a ≠ .gt := by
        rcases List.mem_cons.1 ((hmem a).1 List.mem_cons_self) with rfl | ha
        · simp [hself]
        · exact hm.1 a ha
      have htie : cmp a b = .eq := by
        rcases hcase : cmp a b with _ | _ | _
        · exact absurd (Std.OrientedCmp.gt_iff_lt.2 hcase) hba
        · rfl
        · exact absurd hcase hab
      have hhead := h a
      simp only [tiedWith, List.filter_cons, hself, htie, decide_true, if_true,
        List.cons.injEq] at hhead
      obtain ⟨rfl, -⟩ := hhead
      have htail : ∀ x, tiedWith cmp x l = tiedWith cmp x m := by
        intro x
        have hx := h x
        simp only [tiedWith, List.filter_cons] at hx ⊢
        split at hx
        · exact (List.cons.inj hx).2
        · exact hx
      rw [ih hl.2 hm.2 htail (mem_iff_of_tiedWith htail)]

/-- EXACT: two lists sort alike exactly when they have the tied elements in the same order. -/
theorem sortBy_eq_iff {l m : List α} :
    sortBy cmp l = sortBy cmp m ↔ ∀ x, tiedWith cmp x l = tiedWith cmp x m := by
  constructor
  · intro h x
    rw [← tiedWith_sortBy, h, tiedWith_sortBy]
  · intro h
    refine eq_of_tiedWith (sortBy_pairwise l) (sortBy_pairwise m) fun x => ?_
    rw [tiedWith_sortBy, tiedWith_sortBy, h]

end Sorted
