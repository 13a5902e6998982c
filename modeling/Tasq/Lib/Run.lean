import Mathlib.Tactic
import Tasq.Lib.Outcome

/-! Runs of a system: one action after another, each a total step from state to state.

    `Along` says that every step of a run meets a condition on the state before it, `run_invariant`
    is the induction over a run under such a condition, and `trace` lists what the steps of a run
    show to an observer. A loop over refusable steps is such a run (`foldlM_eq_ok`). -/

universe u v w

namespace Run

variable {σ : Type u} {α : Type v} {β : Type w} (step : σ → α → σ)

/-- The state after the actions. -/
def run (s : σ) (actions : List α) : σ := actions.foldl step s

/-- Every step meets `P`, a condition on the action and the state before it. -/
def Along (P : σ → α → Prop) : σ → List α → Prop
  | _, [] => True
  | s, a :: actions => P s a ∧ Along P (step s a) actions

/-- What the steps show, in order. -/
def trace (shows : σ → α → List β) : σ → List α → List β
  | _, [] => []
  | s, a :: actions => shows s a ++ trace shows (step s a) actions

variable {step}

@[simp] theorem run_nil (s : σ) : run step s [] = s := rfl

@[simp] theorem run_cons (s : σ) (a : α) (actions : List α) :
    run step s (a :: actions) = run step (step s a) actions := rfl

theorem run_append (s : σ) (actions rest : List α) :
    run step s (actions ++ rest) = run step (run step s actions) rest :=
  List.foldl_append

theorem along_append {P : σ → α → Prop} {s : σ} {actions rest : List α} :
    Along step P s (actions ++ rest) ↔ Along step P s actions ∧ Along step P (run step s actions) rest := by
  induction actions generalizing s with
  | nil => simp [Along]
  | cons a actions ih => simp only [List.cons_append, Along, ih, run_cons, and_assoc]

/-- INVARIANT RULE: what every step under the condition preserves, the run preserves. -/
theorem run_invariant {P : σ → α → Prop} {I : σ → Prop}
    (hstep : ∀ s a, P s a → I s → I (step s a)) {s : σ} {actions : List α}
    (halong : Along step P s actions) (hs : I s) : I (run step s actions) := by
  induction actions generalizing s with
  | nil => exact hs
  | cons a actions ih =>
    obtain ⟨ha, hrest⟩ := halong
    exact ih hrest (hstep s a ha hs)

/-- INVARIANT RULE, without a condition. -/
theorem run_invariant' {I : σ → Prop} (hstep : ∀ s a, I s → I (step s a)) {s : σ}
    (actions : List α) (hs : I s) : I (run step s actions) := by
  induction actions generalizing s with
  | nil => exact hs
  | cons a actions ih => exact ih (hstep s a hs)

/-- TRACE RULE: what a step shows exactly when it brings `Past` about, a run shows at most once, and
    exactly when it brings `Past` about. -/
theorem count_trace_once [DecidableEq β] {P : σ → α → Prop} {I Past : σ → Prop}
    {shows : σ → α → List β} {b : β} (hstep : ∀ s a, P s a → I s → I (step s a))
    (hstay : ∀ s a, P s a → I s → Past s → Past (step s a))
    (honce : ∀ s a, (shows s a).count b ≤ 1)
    (hshows : ∀ s a, b ∈ shows s a ↔ ¬ Past s ∧ Past (step s a)) {s : σ} {actions : List α}
    (halong : Along step P s actions) (hs : I s) :
    (trace step shows s actions).count b ≤ 1 ∧
      (b ∈ trace step shows s actions ↔ ¬ Past s ∧ Past (run step s actions)) := by
  induction actions generalizing s with
  | nil => simp [trace]
  | cons a actions ih =>
    obtain ⟨ha, hrest⟩ := halong
    obtain ⟨hcount, hmem⟩ := ih hrest (hstep s a ha hs)
    rw [trace, List.count_append, List.mem_append, hshows, hmem, run_cons]
    by_cases hpast : Past (step s a)
    · have hend : Past (run step (step s a) actions) := by
        refine (run_invariant (P := P) (I := fun t => I t ∧ Past t)
          (fun t a ha ht => ⟨hstep t a ha ht.1, hstay t a ha ht.1 ht.2⟩) hrest
          ⟨hstep s a ha hs, hpast⟩).2
      have hnone : (trace step shows (step s a) actions).count b = 0 :=
        List.count_eq_zero.2 fun h => (hmem.1 h).1 hpast
      rw [hnone]
      exact ⟨honce s a, by simp [hpast, hend]⟩
    · have hnone : (shows s a).count b = 0 :=
        List.count_eq_zero.2 fun h => hpast ((hshows s a).1 h).2
      rw [hnone, Nat.zero_add]
      refine ⟨hcount, ?_⟩
      have hbefore : ¬ Past s := fun h => hpast (hstay s a ha hs h)
      simp [hpast, hbefore]

/-- LOOP RULE: when a step completes exactly under `P`, a loop of such steps completes exactly
    when `P` holds along the run. -/
theorem foldlM_eq_ok {ε : Type u} {σ α : Type v} {step : σ → α → σ} {f : σ → α → Except ε σ}
    {P : σ → α → Prop} (hf : ∀ s a s', f s a = .ok s' ↔ P s a ∧ step s a = s') {s s' : σ}
    {xs : List α} : xs.foldlM f s = .ok s' ↔ Along step P s xs ∧ run step s xs = s' := by
  induction xs generalizing s with
  | nil => simp [Along]
  | cons x xs ih =>
    rw [List.foldlM_cons, Outcome.bind_eq_ok]
    simp only [hf, ih, Along, run_cons, and_assoc, exists_eq_left', exists_and_left]

end Run
