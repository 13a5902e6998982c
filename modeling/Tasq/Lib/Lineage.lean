import Mathlib.Tactic

/-! Lineages: a root and what was born of it, from a list of births in their order.

    A birth names its source and what is born. As long as every birth of the line has a source that
    had none before, the line is one chain; each further birth of a source that was spent adds at
    most one member that is not spent. -/

universe u

namespace Lineage

variable {κ : Type u} [DecidableEq κ]

/-- The root, and what was born of the line. -/
def line (root : κ) (births : List (κ × κ)) : List κ :=
  births.foldl (fun members b => if b.1 ∈ members then members ++ [b.2] else members) [root]

/-- How often an element was a source. -/
def births (list : List (κ × κ)) (a : κ) : ℕ := (list.map Prod.fst).count a

variable {root a b : κ} {list : List (κ × κ)}

@[simp] theorem line_nil (root : κ) : line root [] = [root] := rfl

theorem line_concat (root : κ) (list : List (κ × κ)) (birth : κ × κ) :
    line root (list ++ [birth]) =
      if birth.1 ∈ line root list then line root list ++ [birth.2] else line root list := by
  rw [line, List.foldl_append]
  rfl

theorem births_concat (list : List (κ × κ)) (birth : κ × κ) (a : κ) :
    births (list ++ [birth]) a = births list a + if birth.1 = a then 1 else 0 := by
  rw [births, List.map_append, List.count_append, births]
  by_cases h : birth.1 = a
  · simp [h]
  · simp [h]

/-- No member comes twice, when each birth brings a new one. -/
theorem nodup_concat (h : (line root list).Nodup) (hnew : b ∉ line root list) :
    (line root (list ++ [(a, b)])).Nodup := by
  rw [line_concat]
  split
  · refine List.nodup_append.2 ⟨h, by simp, fun x hx y hy hxy => hnew ?_⟩
    obtain rfl : y = b := List.mem_singleton.1 hy
    exact hxy ▸ hx
  · exact h

/-! ### One chain -/

omit [DecidableEq κ] in
/-- In a chain, only the last element can have nothing after it. -/
theorem getLast?_of_isChain {R : κ → κ → Prop} {l : List κ} (h : l.IsChain R) (ha : a ∈ l)
    (hend : ∀ b, ¬ R a b) : l.getLast? = some a := by
  induction l with
  | nil => cases ha
  | cons x rest ih =>
    cases rest with
    | nil =>
      rw [List.mem_singleton.1 ha]
      rfl
    | cons y rest =>
      obtain ⟨hxy, hrest⟩ := List.isChain_cons_cons.1 h
      rcases List.mem_cons.1 ha with rfl | ha
      · exact absurd hxy (hend y)
      · rw [List.getLast?_cons_cons]
        exact ih hrest ha

/-- CHAIN: a birth of a source that had none extends the chain. -/
theorem isChain_concat (h : (line root list).IsChain fun x y => (x, y) ∈ list)
    (hfirst : a ∈ line root list → births list a = 0) :
    (line root (list ++ [(a, b)])).IsChain fun x y => (x, y) ∈ list ++ [(a, b)] := by
  have hwider := h.imp (S := fun x y => (x, y) ∈ list ++ [(a, b)])
    fun x y hxy => List.mem_append_left _ hxy
  rw [line_concat]
  split
  · rename_i ha
    have hend : ∀ y, (a, y) ∉ list := fun y hy =>
      List.count_eq_zero.1 (hfirst ha) (List.mem_map_of_mem hy)
    have hlast := getLast?_of_isChain h ha hend
    refine hwider.append (List.isChain_singleton b) fun x hx y hy => ?_
    rw [hlast, Option.mem_some_iff] at hx
    rw [List.head?_singleton, Option.mem_some_iff] at hy
    rw [← hx, ← hy]
    exact List.mem_append_right _ (List.mem_singleton.2 rfl)
  · exact hwider

/-! ### Members that are not spent -/

section

variable {spent spent' : κ → Prop} [DecidablePred spent] [DecidablePred spent']

/-- The members that are not spent. -/
def fresh (spent : κ → Prop) [DecidablePred spent] (members : List κ) : List κ :=
  members.filter fun x => ¬ spent x

omit [DecidableEq κ] in
theorem fresh_append (members rest : List κ) :
    fresh spent (members ++ rest) = fresh spent members ++ fresh spent rest := by
  simp [fresh]

omit [DecidableEq κ] in
theorem length_fresh_mono (members : List κ) (h : ∀ x, spent x → spent' x) :
    (fresh spent' members).length ≤ (fresh spent members).length := by
  unfold fresh
  exact (List.monotone_filter_right _ fun x hx => by
    simp only [decide_eq_true_eq] at hx ⊢
    exact fun hs => hx (h x hs)).length_le

omit [DecidableEq κ] in
/-- Spending a member that was not spent. -/
theorem length_fresh_spend {members : List κ} (h : ∀ x, spent x → spent' x) (ha : a ∈ members)
    (hbefore : ¬ spent a) (hafter : spent' a) :
    (fresh spent' members).length + 1 ≤ (fresh spent members).length := by
  induction members with
  | nil => cases ha
  | cons x rest ih =>
    have hcons : ∀ (p : κ → Prop) [DecidablePred p],
        (fresh p (x :: rest)).length = (if p x then 0 else 1) + (fresh p rest).length := by
      intro p _
      unfold fresh
      by_cases hp : p x
      · simp [hp]
      · simp [hp, Nat.add_comm]
    rw [hcons, hcons]
    rcases List.mem_cons.1 ha with rfl | ha
    · have hmono := length_fresh_mono rest h
      rw [if_pos hafter, if_neg hbefore]
      omega
    · have hrest := ih ha
      by_cases hx : spent x
      · rw [if_pos hx, if_pos (h x hx)]
        omega
      · rw [if_neg hx]
        split <;> omega

end

end Lineage
