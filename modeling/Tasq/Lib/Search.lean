import Mathlib.Logic.Relation
import Mathlib.Tactic

/-! Searches of a finite directed graph by frontiers, and graphs without cycles.

    `explore` goes on from a frontier to its successors that were not seen before, until it stops or
    no new node is left. A search that ends without stopping has seen everything that can be
    reached (`unreachable_of_explore`), and with more rounds than edges it does end
    (`explore_isSome`). A new edge closes no cycle when its source cannot be reached from its
    target (`Acyclic.insert`). -/

namespace Search

variable {α : Type*}

/-- `a` has an edge to `b`. -/
def Edge (edges : List (α × α)) (a b : α) : Prop := (a, b) ∈ edges

/-- No way leads from a node back to it. -/
def Acyclic (r : α → α → Prop) : Prop := ∀ a, ¬ Relation.TransGen r a a

variable [DecidableEq α] {edges : List (α × α)} {stop : List α → List α → Bool}
  {fresh : List α → List α → List α} {goal start : α} {seen frontier : List α}

/-- What the nodes of a frontier have edges to. -/
def successors (edges : List (α × α)) (frontier : List α) : List α :=
  (edges.filter fun e => e.1 ∈ frontier).map Prod.snd

/-- Rounds of a search: it stops with `true`, or ends with `false` when the frontier is empty. -/
def explore (edges : List (α × α)) (stop : List α → List α → Bool)
    (fresh : List α → List α → List α) : ℕ → List α → List α → Option Bool
  | 0, _, _ => none
  | rounds + 1, seen, frontier =>
    if frontier = [] then some false
    else if stop frontier (successors edges frontier) then some true
    else
      let next := fresh seen (successors edges frontier)
      explore edges stop fresh rounds (seen ++ next) next

theorem mem_successors {b : α} :
    b ∈ successors edges frontier ↔ ∃ a ∈ frontier, Edge edges a b := by
  simp [successors, Edge, and_comm]

omit [DecidableEq α] in
/-- Nothing outside a closed set can be reached from inside it. -/
theorem unreachable_of_closed {V : α → Prop} (hstart : V start)
    (hclosed : ∀ a b, Edge edges a b → V a → V b) (hgoal : ¬ V goal) :
    ¬ Relation.ReflTransGen (Edge edges) start goal := by
  have hall : ∀ x, Relation.ReflTransGen (Edge edges) start x → V x := by
    intro x hreach
    induction hreach with
    | refl => exact hstart
    | tail _ hedge ih => exact hclosed _ _ hedge ih
  exact fun hreach => hgoal (hall goal hreach)

/-- SEARCH: a search that ends without stopping has no way to its goal. `Clean` is what is known of
    each frontier beforehand. -/
theorem unreachable_of_explore (Clean : List α → Prop)
    (hfresh : ∀ seen rows x, x ∈ fresh seen rows ↔ x ∈ rows ∧ x ∉ seen)
    (hstop : ∀ f, Clean f → stop f (successors edges f) = false → goal ∉ f)
    (hnext : ∀ f next, Clean f → stop f (successors edges f) = false →
      next ⊆ successors edges f → Clean next) {rounds : ℕ} (hclean : Clean frontier)
    (hsub : frontier ⊆ start :: seen)
    (hclosed : ∀ a b, Edge edges a b → a ∈ start :: seen → a ∉ frontier → b ∈ start :: seen)
    (hgoal : goal ∈ start :: seen → goal ∈ frontier)
    (h : explore edges stop fresh rounds seen frontier = some false) :
    ¬ Relation.ReflTransGen (Edge edges) start goal := by
  induction rounds generalizing seen frontier with
  | zero => cases h
  | succ rounds ih =>
    rw [explore] at h
    split at h
    · rename_i hend
      subst hend
      exact unreachable_of_closed (V := (· ∈ start :: seen)) (by simp)
        (fun a b hedge ha => hclosed a b hedge ha (by simp)) fun hmem => by simpa using hgoal hmem
    split at h
    · cases h
    · rename_i hgo
      rw [Bool.not_eq_true] at hgo
      have hmem : ∀ x, x ∈ start :: (seen ++ fresh seen (successors edges frontier)) ↔
          x ∈ start :: seen ∨ x ∈ fresh seen (successors edges frontier) := by
        intro x
        rw [← List.cons_append, List.mem_append]
      refine ih (hnext _ _ hclean hgo fun x hx => ((hfresh _ _ _).1 hx).1)
        (fun x hx => (hmem x).2 (.inr hx)) (fun a b hedge ha hnot => ?_) (fun hg => ?_) h
      · -- an old node has all its successors among the old and the fresh ones
        have hold : a ∈ start :: seen := ((hmem a).1 ha).resolve_right hnot
        rw [hmem]
        by_cases hf : a ∈ frontier
        · by_cases hb : b ∈ seen
          · exact .inl (.tail _ hb)
          · exact .inr ((hfresh _ _ _).2 ⟨mem_successors.2 ⟨a, hf, hedge⟩, hb⟩)
        · exact .inl (hclosed a b hedge hold hf)
      · refine ((hmem goal).1 hg).resolve_left fun hold => ?_
        exact hstop _ hclean hgo (hgoal hold)

/-- The targets of edges that were not seen. -/
def unseen (edges : List (α × α)) (seen : List α) : Finset α :=
  (edges.map Prod.snd).toFinset \ seen.toFinset

/-- SEARCH: more rounds than unseen targets are enough. -/
theorem explore_isSome (hfresh : ∀ seen rows x, x ∈ fresh seen rows ↔ x ∈ rows ∧ x ∉ seen)
    {rounds : ℕ} (hrounds : (unseen edges seen).card + 2 ≤ rounds) :
    (explore edges stop fresh rounds seen frontier).isSome := by
  induction rounds generalizing seen frontier with
  | zero => omega
  | succ rounds ih =>
    rw [explore]
    split
    · rfl
    split
    · rfl
    · rcases hnew : fresh seen (successors edges frontier) with _ | ⟨x, xs⟩
      · obtain ⟨n, rfl⟩ : ∃ n, rounds = n + 1 := ⟨rounds - 1, by omega⟩
        simp [explore]
      · have hx := (hfresh seen (successors edges frontier) x).1 (by simp [hnew])
        obtain ⟨a, -, hedge⟩ := mem_successors.1 hx.1
        have hxmem : x ∈ (edges.map Prod.snd).toFinset :=
          List.mem_toFinset.2 (List.mem_map_of_mem (f := Prod.snd) hedge)
        have hlt : (unseen edges (seen ++ x :: xs)).card < (unseen edges seen).card := by
          refine Finset.card_lt_card ⟨fun y hy => ?_, fun hsub => ?_⟩
          · simp only [unseen, Finset.mem_sdiff, List.mem_toFinset, List.mem_append,
              not_or] at hy ⊢
            exact ⟨hy.1, hy.2.1⟩
          · have hmem := hsub (Finset.mem_sdiff.2 ⟨hxmem, by simpa using hx.2⟩)
            simp [unseen] at hmem
        exact ih (by omega)

theorem card_unseen_le (edges : List (α × α)) (seen : List α) :
    (unseen edges seen).card ≤ edges.length := by
  refine (Finset.card_le_card Finset.sdiff_subset).trans ?_
  simpa using List.toFinset_card_le (edges.map Prod.snd)

/-! ### Cycles -/

omit [DecidableEq α]

theorem Acyclic.mono {r s : α → α → Prop} (h : Acyclic s) (hrs : ∀ a b, r a b → s a b) :
    Acyclic r := fun a hcycle => h a (Relation.TransGen.mono hrs _ _ hcycle)

/-- A way in the graph with one more edge either does without it, or comes to its source and goes
    on from its target. -/
theorem transGen_insert {r : α → α → Prop} {a b x y : α}
    (h : Relation.TransGen (fun c d => r c d ∨ c = a ∧ d = b) x y) :
    Relation.TransGen r x y ∨ Relation.ReflTransGen r x a ∧ Relation.ReflTransGen r b y := by
  induction h with
  | single hedge =>
    rcases hedge with hedge | ⟨rfl, rfl⟩
    · exact .inl (.single hedge)
    · exact .inr ⟨.refl, .refl⟩
  | tail _ hedge ih =>
    rcases hedge with hedge | ⟨rfl, rfl⟩
    · exact ih.imp (·.tail hedge) fun h => ⟨h.1, h.2.tail hedge⟩
    · exact .inr ⟨ih.elim (·.to_reflTransGen) (·.1), .refl⟩

/-- A new edge closes no cycle when its source is out of reach of its target. -/
theorem Acyclic.insert {r : α → α → Prop} {a b : α} (h : Acyclic r)
    (hreach : ¬ Relation.ReflTransGen r b a) :
    Acyclic fun c d => r c d ∨ c = a ∧ d = b := by
  intro x hcycle
  rcases transGen_insert hcycle with hold | ⟨hxa, hbx⟩
  · exact h x hold
  · exact hreach (hbx.trans hxa)

end Search
