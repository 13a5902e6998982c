import Mathlib.Order.WithBot
import Mathlib.Tactic

/-! Lines: items in an order, handed to workers under leases, none before the items ahead of it.

    A line gives the stage of the item at each position. Four moves change it: items at the front
    are handed to a worker (`Hands`), held items are settled (`Settles`), a held item goes back to
    waiting (`Releases`), and items are added behind all others (`Appends`). `Orderly` is the
    invariant: what is done is a prefix, and nobody but the holder of an item comes to an item ahead
    of it while the lease lasts. -/

namespace Line

/-- Where an item stands: done, held by a worker until the lease expires, or waiting until a time
    (`⊤` when it is set aside). -/
inductive Stage (ω : Type*) where
  | done
  | held (worker : ω) (expiry : ℕ)
  | waiting (release : WithTop ℕ)
  deriving DecidableEq

/-- The time before which the item is handed to nobody. -/
def Stage.until {ω : Type*} : Stage ω → WithTop ℕ
  | .done => ⊤
  | .held _ expiry => expiry
  | .waiting release => release

end Line

/-- The stage of the item at each position. -/
abbrev Line (ι ω : Type*) := ι → Option (Line.Stage ω)

namespace Line

variable {ι ω : Type*} [LinearOrder ι] {l l' : Line ι ω} {clock : ℕ}

/-- INVARIANT: the items that are done are a prefix, and while a lease on an item lasts, an item
    ahead of it is out of the reach of all other workers. -/
structure Orderly (clock : ℕ) (l : Line ι ω) : Prop where
  settled : ∀ i j s, i < j → l j = some .done → l i = some s → s = .done
  behind : ∀ i j s w e, i < j → l j = some (.held w e) → clock < e → l i = some s →
    (e : WithTop ℕ) ≤ s.until ∧ ∀ w' e', s = .held w' e' → w' = w

/-- `worker` gets `items`, which are free, until `expiry`. -/
structure Hands (worker : ω) (now expiry : ℕ) (items : Set ι) (l l' : Line ι ω) : Prop where
  free : ∀ i ∈ items, ∃ s, l i = some s ∧ s.until ≤ (now : WithTop ℕ)
  ahead : ∀ i j s, i < j → j ∈ items → l i = some s → s = .done ∨ i ∈ items
  given : ∀ i ∈ items, l' i = some (.held worker expiry)
  kept : ∀ i, i ∉ items → l' i = l i

/-- The held `items` are done. -/
structure Settles (items : Set ι) (l l' : Line ι ω) : Prop where
  were : ∀ i ∈ items, ∃ w e, l i = some (.held w e)
  done : ∀ i ∈ items, l' i = some .done
  kept : ∀ i, i ∉ items → l' i = l i

/-- The held `items` wait, each until its `release`. -/
structure Releases (items : Set ι) (release : ι → WithTop ℕ) (l l' : Line ι ω) : Prop where
  were : ∀ i ∈ items, ∃ w e, l i = some (.held w e)
  waits : ∀ i ∈ items, l' i = some (.waiting (release i))
  kept : ∀ i, i ∉ items → l' i = l i

/-- Waiting items are added behind all others. -/
def Appends (l l' : Line ι ω) : Prop :=
  ∀ i, l' i = l i ∨ (∃ release, l' i = some (.waiting release)) ∧ ∀ j, i ≤ j → l j = none

theorem Orderly.empty : Orderly clock (fun _ => none : Line ι ω) where
  settled := by simp
  behind := by simp

/-- Later readings of the clock only end leases. -/
theorem Orderly.later (h : Orderly clock l) {clock' : ℕ} (hle : clock ≤ clock') :
    Orderly clock' l where
  settled := h.settled
  behind i j s w e hij hj he := h.behind i j s w e hij hj (hle.trans_lt he)

/-- STEP: handing out the front of the line. -/
theorem Orderly.hands {worker : ω} {now expiry : ℕ} {items : Set ι} (h : Orderly clock l)
    (hands : Hands worker now expiry items l l') (hnow : now ≤ clock) : Orderly clock l' where
  settled i j s hij hj hi := by
    have hj' : j ∉ items := fun hmem => by simp [hands.given j hmem] at hj
    rw [hands.kept j hj'] at hj
    by_cases hmem : i ∈ items
    · obtain ⟨s', hs', hfree⟩ := hands.free i hmem
      obtain rfl := h.settled i j s' hij hj hs'
      simp [Stage.until] at hfree
    · rw [hands.kept i hmem] at hi
      exact h.settled i j s hij hj hi
  behind i j s w e hij hj he hi := by
    by_cases hmem : j ∈ items
    · -- the items handed out now: what is ahead is done or handed out with them
      rw [hands.given j hmem] at hj
      cases hj
      by_cases hmem' : i ∈ items
      · rw [hands.given i hmem'] at hi
        cases hi
        exact ⟨le_rfl, fun w' e' heq => by cases heq; rfl⟩
      · rw [hands.kept i hmem'] at hi
        obtain rfl | hahead := hands.ahead i j s hij hmem hi
        · exact ⟨le_top, by simp⟩
        · exact absurd hahead hmem'
    · rw [hands.kept j hmem] at hj
      by_cases hmem' : i ∈ items
      · -- an item ahead is free, so the lease behind it has expired
        obtain ⟨s', hs', hfree⟩ := hands.free i hmem'
        obtain ⟨hle, -⟩ := h.behind i j s' w e hij hj he hs'
        have hexpired : e ≤ now := by exact_mod_cast hle.trans hfree
        omega
      · rw [hands.kept i hmem'] at hi
        exact h.behind i j s w e hij hj he hi

/-- STEP: settling items whose forerunners are done, or settled with them. -/
theorem Orderly.settles {items : Set ι} (h : Orderly clock l) (settles : Settles items l l')
    (hahead : ∀ i j s, i < j → j ∈ items → l i = some s → s = .done ∨ i ∈ items) :
    Orderly clock l' where
  settled i j s hij hj hi := by
    by_cases hmem' : i ∈ items
    · rw [settles.done i hmem', Option.some.injEq] at hi
      exact hi.symm
    · rw [settles.kept i hmem'] at hi
      by_cases hmem : j ∈ items
      · obtain hdone | hahead := hahead i j s hij hmem hi
        · exact hdone
        · exact absurd hahead hmem'
      · rw [settles.kept j hmem] at hj
        exact h.settled i j s hij hj hi
  behind i j s w e hij hj he hi := by
    have hmem : j ∉ items := fun hmem => by simp [settles.done j hmem] at hj
    rw [settles.kept j hmem] at hj
    by_cases hmem' : i ∈ items
    · rw [settles.done i hmem', Option.some.injEq] at hi
      subst hi
      exact ⟨le_top, by simp⟩
    · rw [settles.kept i hmem'] at hi
      exact h.behind i j s w e hij hj he hi

/-- STEP: giving items back for a time that outlasts the leases behind them. -/
theorem Orderly.releases {items : Set ι} {release : ι → WithTop ℕ} (h : Orderly clock l)
    (releases : Releases items release l l')
    (hbehind : ∀ i j w e, i ∈ items → i < j → l j = some (.held w e) → clock < e →
      (e : WithTop ℕ) ≤ release i) : Orderly clock l' where
  settled i j s hij hj hi := by
    have hmem : j ∉ items := fun hmem => by simp [releases.waits j hmem] at hj
    rw [releases.kept j hmem] at hj
    by_cases hmem' : i ∈ items
    · obtain ⟨w, e, hheld⟩ := releases.were i hmem'
      exact absurd (h.settled i j _ hij hj hheld) (by simp)
    · rw [releases.kept i hmem'] at hi
      exact h.settled i j s hij hj hi
  behind i j s w e hij hj he hi := by
    have hmem : j ∉ items := fun hmem => by simp [releases.waits j hmem] at hj
    rw [releases.kept j hmem] at hj
    by_cases hmem' : i ∈ items
    · rw [releases.waits i hmem', Option.some.injEq] at hi
      subst hi
      exact ⟨hbehind i j w e hmem' hij hj he, by simp⟩
    · rw [releases.kept i hmem'] at hi
      exact h.behind i j s w e hij hj he hi

/-- STEP: adding items at the end. -/
theorem Orderly.appends (h : Orderly clock l) (appends : Appends l l') : Orderly clock l' where
  settled i j s hij hj hi := by
    rcases appends j with hkept | ⟨⟨release, hnew⟩, -⟩
    · rw [hkept] at hj
      rcases appends i with hkept' | ⟨-, hlast⟩
      · rw [hkept'] at hi
        exact h.settled i j s hij hj hi
      · rw [hlast j hij.le] at hj
        cases hj
    · simp [hnew] at hj
  behind i j s w e hij hj he hi := by
    rcases appends j with hkept | ⟨⟨release, hnew⟩, -⟩
    · rw [hkept] at hj
      rcases appends i with hkept' | ⟨-, hlast⟩
      · rw [hkept'] at hi
        exact h.behind i j s w e hij hj he hi
      · rw [hlast j hij.le] at hj
        cases hj
    · simp [hnew] at hj

/-- Of an orderly line at most one worker holds items whose leases last. -/
theorem Orderly.one_worker (h : Orderly clock l) {i j : ι} {w w' : ω} {e e' : ℕ}
    (hi : l i = some (.held w e)) (hj : l j = some (.held w' e')) (he : clock < e)
    (he' : clock < e') : w = w' := by
  rcases lt_trichotomy i j with hij | rfl | hji
  · exact (h.behind i j _ w' e' hij hj he' hi).2 w e rfl
  · rw [hi] at hj
    cases hj
    rfl
  · exact ((h.behind j i _ w e hji hi he hj).2 w' e' rfl).symm

end Line
