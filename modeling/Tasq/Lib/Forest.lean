import Mathlib.Tactic

/-! Forests of parent pointers in which nodes die and come back.

    `up` names the parent of a node, `live` the nodes that are in the forest. A node has a depth when
    every node above it is live and the way up ends; so a forest in which every live node has a depth
    has no cycle and no live node under a missing or dead one. The lemmas say what becomes of the
    depths when a leaf is hung, a childless node is cut, and a node is hung elsewhere with what is
    below it. -/

namespace Forest

variable {κ : Type*}

/-- The node is live at depth `n`, and so is every node above it. -/
inductive Depth (live : κ → Prop) (up : κ → Option κ) : κ → ℕ → Prop
  | root {k : κ} (hlive : live k) (hup : up k = none) : Depth live up k 1
  | child {k p : κ} {n : ℕ} (hlive : live k) (hup : up k = some p) (hp : Depth live up p n) :
      Depth live up k (n + 1)

/-- The node is live `j - 1` steps below `a`, over live nodes. -/
inductive Under (live : κ → Prop) (up : κ → Option κ) (a : κ) : κ → ℕ → Prop
  | here (hlive : live a) : Under live up a a 1
  | step {k p : κ} {j : ℕ} (hlive : live k) (hup : up k = some p) (hp : Under live up a p j) :
      Under live up a k (j + 1)

/-- Every live node has a depth of at most `m`. -/
def Bounded (live : κ → Prop) (up : κ → Option κ) (m : ℕ) : Prop :=
  ∀ k, live k → ∃ n ≤ m, Depth live up k n

variable {live live' : κ → Prop} {up up' : κ → Option κ} {a k p : κ} {m n j : ℕ}

theorem Depth.live_node (h : Depth live up k n) : live k := by
  cases h <;> assumption

theorem Depth.pos (h : Depth live up k n) : 0 < n := by
  cases h <;> omega

/-- A node has one depth. -/
theorem Depth.unique (h : Depth live up k n) (h' : Depth live up k m) : n = m := by
  induction h generalizing m with
  | root _ hup =>
    cases h' with
    | root => rfl
    | child _ hup' => simp [hup] at hup'
  | child _ hup _ ih =>
    cases h' with
    | root _ hup' => simp [hup] at hup'
    | child _ hup' hp' =>
      obtain rfl := Option.some.inj (hup.symm.trans hup')
      rw [ih hp']

/-- The parent of a node with a depth is live. -/
theorem Depth.parent (h : Depth live up k n) (hup : up k = some p) :
    ∃ m, n = m + 1 ∧ Depth live up p m := by
  cases h with
  | root _ hroot => simp [hup] at hroot
  | child _ hup' hp =>
    obtain rfl := Option.some.inj (hup.symm.trans hup')
    exact ⟨_, rfl, hp⟩

/-- A depth stays where live nodes stay and keep their parents. -/
theorem Depth.congr (hsame : ∀ k, live k → live' k ∧ up' k = up k) (h : Depth live up k n) :
    Depth live' up' k n := by
  induction h with
  | root hlive hup => exact .root (hsame _ hlive).1 ((hsame _ hlive).2.trans hup)
  | child hlive hup _ ih => exact .child (hsame _ hlive).1 ((hsame _ hlive).2.trans hup) ih

/-! ### What a bounded forest looks like -/

/-- `b` is the live parent of the live node `a`. -/
def Hangs (live : κ → Prop) (up : κ → Option κ) (a b : κ) : Prop :=
  live a ∧ live b ∧ up a = some b

/-- No live node hangs under a missing or dead one. -/
theorem Bounded.parent_live (h : Bounded live up m) (hlive : live k) (hup : up k = some p) :
    live p := by
  obtain ⟨n, -, hn⟩ := h k hlive
  obtain ⟨_, -, hp⟩ := hn.parent hup
  exact hp.live_node

/-- Going up makes the depth smaller. -/
theorem Bounded.descends (h : Bounded live up m) (hup : Relation.TransGen (Hangs live up) a k)
    (ha : Depth live up a n) (hk : Depth live up k j) : j < n := by
  induction hup generalizing j with
  | single hang =>
    obtain ⟨i, rfl, hi⟩ := ha.parent hang.2.2
    rw [hk.unique hi]
    omega
  | tail _ hang ih =>
    obtain ⟨i, -, hi⟩ := h _ hang.1
    obtain ⟨l, rfl, hl⟩ := hi.parent hang.2.2
    have := ih hi
    rw [hk.unique hl]
    omega

/-- A bounded forest has no cycle. -/
theorem Bounded.acyclic (h : Bounded live up m) (k : κ) :
    ¬ Relation.TransGen (Hangs live up) k k := by
  intro hcycle
  obtain ⟨last, -, hlast⟩ := Relation.TransGen.tail'_iff.1 hcycle
  obtain ⟨n, -, hn⟩ := h k hlast.2.1
  exact absurd (h.descends hcycle hn hn) (lt_irrefl n)

/-! ### Changes of the forest -/

/-- The same live nodes under the same parents. -/
theorem Bounded.congr (h : Bounded live up m) (hlive : ∀ k, live' k ↔ live k)
    (hup : ∀ k, live k → up' k = up k) : Bounded live' up' m := by
  intro k hk
  obtain ⟨n, hn, hdepth⟩ := h k ((hlive k).1 hk)
  exact ⟨n, hn, hdepth.congr fun k hk => ⟨(hlive k).2 hk, hup k hk⟩⟩

/-- Hanging a new node where there is room. -/
theorem Bounded.hang (h : Bounded live up m) (hdead : ¬ live a)
    (hlive : ∀ k, live' k ↔ k = a ∨ live k) (hup : ∀ k, live k → up' k = up k)
    (hplace : (up' a = none ∧ 0 < m) ∨ ∃ p n, up' a = some p ∧ Depth live up p n ∧ n + 1 ≤ m) :
    Bounded live' up' m := by
  have hkeep : ∀ {k n}, Depth live up k n → Depth live' up' k n := fun hk =>
    hk.congr fun k hk => ⟨(hlive k).2 (.inr hk), hup k hk⟩
  have ha : live' a := (hlive a).2 (.inl rfl)
  intro k hk
  rcases (hlive k).1 hk with rfl | hold
  · rcases hplace with ⟨hroot, hm⟩ | ⟨p, n, hp, hdepth, hroom⟩
    · exact ⟨1, hm, .root ha hroot⟩
    · exact ⟨n + 1, hroom, .child ha hp (hkeep hdepth)⟩
  · obtain ⟨n, hn, hdepth⟩ := h k hold
    exact ⟨n, hn, hkeep hdepth⟩

/-- Cutting a node that no live node hangs under. -/
theorem Bounded.cut (h : Bounded live up m) (hleaf : ∀ k, live k → k ≠ a → up k ≠ some a)
    (hlive : ∀ k, live' k ↔ live k ∧ k ≠ a) (hup : ∀ k, live k → k ≠ a → up' k = up k) :
    Bounded live' up' m := by
  have hkeep : ∀ {k n}, Depth live up k n → k ≠ a → Depth live' up' k n := by
    intro k n hdepth hne
    induction hdepth with
    | root hk hroot => exact .root ((hlive _).2 ⟨hk, hne⟩) ((hup _ hk hne).trans hroot)
    | child hk hp _ ih =>
      refine .child ((hlive _).2 ⟨hk, hne⟩) ((hup _ hk hne).trans hp) (ih ?_)
      rintro rfl
      exact hleaf _ hk hne hp
  intro k hk
  obtain ⟨hold, hne⟩ := (hlive k).1 hk
  obtain ⟨n, hn, hdepth⟩ := h k hold
  exact ⟨n, hn, hkeep hdepth hne⟩

/-- A node with a depth is below `a`, or its way up does not meet `a`. -/
theorem Depth.under_or (h : Depth live up k n) (hlive : ∀ k, live' k ↔ live k)
    (hup : ∀ k, k ≠ a → up' k = up k) :
    (∃ j, Under live up a k j) ∨ Depth live' up' k n := by
  induction h with
  | @root k hk hroot =>
    by_cases hne : k = a
    · exact .inl ⟨1, hne ▸ .here (hne ▸ hk)⟩
    · exact .inr (.root ((hlive k).2 hk) ((hup k hne).trans hroot))
  | @child k p n hk hp _ ih =>
    by_cases hne : k = a
    · exact .inl ⟨1, hne ▸ .here (hne ▸ hk)⟩
    · rcases ih with ⟨j, hj⟩ | hp'
      · exact .inl ⟨j + 1, .step hk hp hj⟩
      · exact .inr (.child ((hlive k).2 hk) ((hup k hne).trans hp) hp')

/-- A node below `a` goes where `a` goes. -/
theorem Under.depth (h : Under live up a k j) (hlive : ∀ k, live' k ↔ live k)
    (hup : ∀ k, k ≠ a → up' k = up k) {e : ℕ} (ha : Depth live' up' a (e + 1)) :
    ∃ i ≤ j, 0 < i ∧ Depth live' up' k (e + i) := by
  induction h with
  | here => exact ⟨1, le_rfl, by omega, ha⟩
  | @step k p j hk hp _ ih =>
    by_cases hne : k = a
    · exact ⟨1, by omega, by omega, hne ▸ ha⟩
    · obtain ⟨i, hi, hpos, hdepth⟩ := ih
      exact ⟨i + 1, by omega, by omega, .child ((hlive k).2 hk) ((hup k hne).trans hp) hdepth⟩

/-- Hanging a node elsewhere: at the root, or under a node that is not below it, when what is below
    it fits there. -/
theorem Bounded.move (h : Bounded live up m) (hlive : ∀ k, live' k ↔ live k)
    (hup : ∀ k, k ≠ a → up' k = up k)
    (hplace : live a → up' a = none ∨ up' a = up a ∨ ∃ p n, up' a = some p ∧ Depth live up p n ∧
      (∀ j, ¬ Under live up a p j) ∧ ∀ k j, Under live up a k j → n + j ≤ m) :
    Bounded live' up' m := by
  by_cases ha : live a
  · rcases hplace ha with hroot | hsame | ⟨p, d, hp, hdepth, hother, hroom⟩
    · -- Below a root, depths are at most what they were.
      have ha' : Depth live' up' a (0 + 1) := .root ((hlive a).2 ha) hroot
      have hle : ∀ {k n j}, Depth live up k n → Under live up a k j → j ≤ n := by
        intro k n j hk hj
        induction hj generalizing n with
        | here => exact hk.pos
        | step _ hp _ ih =>
          obtain ⟨i, rfl, hi⟩ := hk.parent hp
          have := ih hi
          omega
      intro k hk
      obtain ⟨n, hn, hdepth⟩ := h k ((hlive k).1 hk)
      rcases hdepth.under_or hlive hup with ⟨j, hj⟩ | hkeep
      · obtain ⟨i, hi, -, hdepth'⟩ := hj.depth hlive hup ha'
        have := hle hdepth hj
        exact ⟨0 + i, by omega, hdepth'⟩
      · exact ⟨n, hn, hkeep⟩
    · refine h.congr hlive fun k _ => ?_
      by_cases hne : k = a
      · rw [hne, hsame]
      · exact hup k hne
    · have hp' : Depth live' up' p d :=
        (hdepth.under_or hlive hup).resolve_left fun ⟨j, hj⟩ => hother j hj
      have ha' : Depth live' up' a (d + 1) := .child ((hlive a).2 ha) hp hp'
      intro k hk
      obtain ⟨n, hn, hdepth'⟩ := h k ((hlive k).1 hk)
      rcases hdepth'.under_or hlive hup with ⟨j, hj⟩ | hkeep
      · obtain ⟨i, hi, -, hnew⟩ := hj.depth hlive hup ha'
        have := hroom k j hj
        exact ⟨d + i, by omega, hnew⟩
      · exact ⟨n, hn, hkeep⟩
  · refine h.congr hlive fun k hk => hup k ?_
    rintro rfl
    exact ha hk

end Forest
