import Mathlib.Data.Set.Card
import Mathlib.Tactic

/-! Queues without repetition, and rounds that each try the first few of a queue.

    What fails in a round stays where it is, and nothing joins. `served_iff` says who is served in
    the end: one that never fails is, exactly when fewer than a round tries stand ahead of it and
    fail for good. -/

namespace Queue

variable {ι : Type*}

/-! ### Rounds -/

/-- Rounds that try the first `n`. What leaves was tried, a round that nothing leaves has failed for
    all that it tried, and what has left does not fail any more. -/
structure Rounds (pending : ℕ → List ι) (n : ℕ) (fails : ℕ → ι → Prop) : Prop where
  nodup : (pending 0).Nodup
  shrinks : ∀ k, (pending (k + 1)).Sublist (pending k)
  tried : ∀ k, ∀ x ∈ pending k, x ∉ pending (k + 1) → x ∈ (pending k).take n
  stuck : ∀ k, pending (k + 1) = pending k → ∀ x ∈ (pending k).take n, fails k x
  left : ∀ k, ∀ x ∈ pending 0, x ∉ pending k → ¬ fails k x

namespace Rounds

variable {pending : ℕ → List ι} {n : ℕ} {fails : ℕ → ι → Prop}

theorem sublist (h : Rounds pending n fails) {i j : ℕ} (hij : i ≤ j) :
    (pending j).Sublist (pending i) := by
  induction j, hij using Nat.le_induction with
  | base => exact .refl _
  | succ j _ ih => exact (h.shrinks j).trans ih

/-- After some round the queue stays as it is. -/
theorem settles (h : Rounds pending n fails) : ∃ K, ∀ k ≥ K, pending k = pending K := by
  refine ⟨Function.argmin fun k => (pending k).length, fun k hk => ?_⟩
  exact (h.sublist hk).eq_of_length_le (Function.argmin_le (fun k => (pending k).length) k)

end Rounds

/-! ### Who stands ahead -/

/-- Two elements of a list stand in one order or the other. -/
theorem pair_sublist_or {x y : ι} (hne : x ≠ y) : ∀ {l : List ι}, x ∈ l → y ∈ l →
    [x, y].Sublist l ∨ [y, x].Sublist l
  | z :: l, hx, hy => by
    rcases List.mem_cons.1 hx with rfl | hx'
    · rcases List.mem_cons.1 hy with rfl | hy'
      · exact absurd rfl hne
      · exact .inl ((List.singleton_sublist.2 hy').cons_cons x)
    · rcases List.mem_cons.1 hy with rfl | hy'
      · exact .inr ((List.singleton_sublist.2 hx').cons_cons y)
      · rcases pair_sublist_or hne hx' hy' with h | h
        · exact .inl (h.cons z)
        · exact .inr (h.cons z)

/-- A list without repetition does not have two elements in both orders. -/
theorem not_pair_sublist_both {x y : ι} : ∀ {l : List ι}, l.Nodup →
    [x, y].Sublist l → ¬ [y, x].Sublist l
  | z :: l, hnodup, h, h' => by
    obtain ⟨hz, hl⟩ := List.nodup_cons.1 hnodup
    cases h with
    | cons _ h =>
      cases h' with
      | cons _ h' => exact not_pair_sublist_both hl h h'
      | cons_cons _ h' => exact hz (h.subset (by simp))
    | cons_cons _ h =>
      cases h' with
      | cons _ h' => exact hz (h'.subset (by simp))
      | cons_cons _ h' => exact hz (h.subset (by simp))

variable [DecidableEq ι]

/-- Those that stand ahead of an element. -/
def ahead (q : List ι) (c : ι) : List ι := q.takeWhile (· ≠ c)

theorem mem_ahead {x c : ι} : ∀ {q : List ι}, q.Nodup → c ∈ q →
    (x ∈ ahead q c ↔ [x, c].Sublist q)
  | z :: q, hnodup, hc => by
    obtain ⟨hz, hq⟩ := List.nodup_cons.1 hnodup
    by_cases hzc : z = c
    · subst hzc
      simp only [ahead, ne_eq, decide_not, List.takeWhile_cons, decide_true, Bool.not_true,
        Bool.false_eq_true, if_false, List.not_mem_nil, false_iff]
      intro h
      cases h with
      | cons _ h => exact hz (h.subset (by simp))
      | cons_cons _ h => exact hz (List.singleton_sublist.1 h)
    · have hcq : c ∈ q := (List.mem_cons.1 hc).resolve_left (Ne.symm hzc)
      have hahead : ahead (z :: q) c = z :: ahead q c := by
        simp [ahead, hzc]
      rw [hahead, List.mem_cons, mem_ahead hq hcq]
      constructor
      · rintro (rfl | h)
        · exact (List.singleton_sublist.2 hcq).cons_cons x
        · exact h.cons z
      · intro h
        cases h with
        | cons _ h => exact .inr h
        | cons_cons _ h => exact .inl rfl

/-- Of a part of a queue, those ahead of an element were ahead of it. -/
theorem mem_ahead_of_sublist {q q' : List ι} (hsub : q'.Sublist q) (hnodup : q.Nodup) {x c : ι}
    (hx : x ∈ q') (hc : c ∈ q') : x ∈ ahead q' c ↔ x ∈ ahead q c := by
  rw [mem_ahead (hnodup.sublist hsub) hc, mem_ahead hnodup (hsub.subset hc)]
  refine ⟨fun h => h.trans hsub, fun h => ?_⟩
  have hne : x ≠ c := by
    rintro rfl
    exact not_pair_sublist_both hnodup h h
  refine (pair_sublist_or hne hx hc).resolve_right fun h' => ?_
  exact not_pair_sublist_both hnodup h (h'.trans hsub)

/-- An element is among the first `n` exactly when fewer stand ahead of it. -/
theorem mem_take_iff {n : ℕ} {c : ι} : ∀ {q : List ι}, c ∈ q →
    (c ∈ q.take n ↔ (ahead q c).length < n)
  | z :: q, hc => by
    cases n with
    | zero => simp
    | succ n =>
      by_cases hzc : z = c
      · simp [ahead, hzc]
      · have hcq : c ∈ q := (List.mem_cons.1 hc).resolve_left (Ne.symm hzc)
        have hahead : ahead (z :: q) c = z :: ahead q c := by
          simp [ahead, hzc]
        rw [hahead, List.take_succ_cons, List.mem_cons, List.length_cons, Nat.succ_lt_succ_iff,
          ← mem_take_iff hcq]
        exact or_iff_right (Ne.symm hzc)

/-! ### Who is served -/

namespace Rounds

variable {pending : ℕ → List ι} {n : ℕ} {fails : ℕ → ι → Prop} {c : ι}

/-- Those ahead that fail for good. -/
def blockers (pending : ℕ → List ι) (fails : ℕ → ι → Prop) (c : ι) : Set ι :=
  {x | x ∈ ahead (pending 0) c ∧ ∃ K, ∀ k ≥ K, fails k x}

theorem blockers_finite : (blockers pending fails c).Finite :=
  (List.finite_toSet (ahead (pending 0) c)).subset fun _ hx => hx.1

/-- What fails for good stays. -/
theorem blocker_mem (h : Rounds pending n fails) {x : ι} (hx : x ∈ blockers pending fails c)
    (k : ℕ) : x ∈ pending k := by
  obtain ⟨hahead, K, hfails⟩ := hx
  have hmem : x ∈ pending 0 := List.takeWhile_subset _ hahead
  by_contra hk
  have hlater : x ∉ pending (max K k) := fun hx => hk ((h.sublist (le_max_right K k)).subset hx)
  exact h.left (max K k) x hmem hlater (hfails _ (le_max_left K k))

/-- Enough of them keep an element in the queue. -/
theorem stays (h : Rounds pending n fails) (hc : c ∈ pending 0)
    (hmany : n ≤ (blockers pending fails c).ncard) (k : ℕ) : c ∈ pending k := by
  induction k with
  | zero => exact hc
  | succ k ih =>
    by_contra hleft
    have htried := (mem_take_iff ih).1 (h.tried k c ih hleft)
    have hsub : blockers pending fails c ⊆ ((ahead (pending k) c).toFinset : Set ι) := by
      intro x hx
      refine Finset.mem_coe.2 (List.mem_toFinset.2 ?_)
      exact (mem_ahead_of_sublist (h.sublist (Nat.zero_le k)) h.nodup (h.blocker_mem hx k) ih).2
        hx.1
    have hcard : (blockers pending fails c).ncard ≤ (ahead (pending k) c).length := by
      refine (Set.ncard_le_ncard hsub (Finset.finite_toSet _)).trans ?_
      rw [Set.ncard_coe_finset]
      exact List.toFinset_card_le _
    omega

/-- SERVED: one that never fails leaves the queue exactly when fewer than `n` ahead of it fail for
    good. -/
theorem served_iff (h : Rounds pending n fails) (hc : c ∈ pending 0) (hown : ∀ k, ¬ fails k c) :
    (∃ k, c ∉ pending k) ↔ (blockers pending fails c).ncard < n := by
  constructor
  · rintro ⟨k, hk⟩
    by_contra hmany
    exact hk (h.stays hc (not_lt.1 hmany) k)
  · intro hfew
    by_contra hstays
    push Not at hstays
    obtain ⟨K, hK⟩ := h.settles
    have hnodup : (pending K).Nodup := h.nodup.sublist (h.sublist (Nat.zero_le K))
    -- from then on every round tries the same ones, and all of them fail
    have hfails : ∀ x ∈ (pending K).take n, ∀ k ≥ K, fails k x := by
      intro x hx k hk
      refine h.stuck k ((hK (k + 1) (by omega)).trans (hK k hk).symm) x ?_
      rwa [hK k hk]
    have hnot : c ∉ (pending K).take n := fun hmem => hown K (hfails c hmem K le_rfl)
    have hlength : n ≤ (ahead (pending K) c).length := by
      rwa [mem_take_iff (hstays K), not_lt] at hnot
    have hsub : (((pending K).take n).toFinset : Set ι) ⊆ blockers pending fails c := by
      intro x hx
      have hx : x ∈ (pending K).take n := List.mem_toFinset.1 (Finset.mem_coe.1 hx)
      refine ⟨?_, K, hfails x hx⟩
      refine (mem_ahead_of_sublist (h.sublist (Nat.zero_le K)) h.nodup (List.mem_of_mem_take hx)
        (hstays K)).1 ?_
      have hprefix : (pending K).take n <+: ahead (pending K) c :=
        List.prefix_of_prefix_length_le (List.take_prefix _ _) (List.takeWhile_prefix _)
          ((List.length_take_le _ _).trans hlength)
      exact hprefix.subset hx
    have hcard : ((pending K).take n).toFinset.card = n := by
      rw [List.toFinset_card_of_nodup (hnodup.sublist (List.take_sublist _ _)), List.length_take]
      have := (List.takeWhile_prefix (p := (· ≠ c)) (l := pending K)).length_le
      exact min_eq_left (hlength.trans this)
    have := Set.ncard_le_ncard hsub blockers_finite
    rw [Set.ncard_coe_finset, hcard] at this
    omega

end Rounds

end Queue
