import Mathlib.Tactic
import Tasq.Lib.Run

/-! Threads over one shared state: any number of them start, and their steps interleave in any
    order.

    An invariant of such a system is a condition on the shared state and one on each thread's own
    state, and a thread must leave the conditions of all the others intact (`holds_run`). -/

universe u v w x

namespace Threads

open Run

/-- The shared state and the state of every thread, in the order in which they started. -/
structure World (σ : Type u) (θ : Type v) where
  shared : σ
  threads : List θ

/-- What happens next: a thread starts, or one of them takes its next step. -/
inductive Action (ρ : Type w) (ι : Type x) where
  | spawn (request : ρ)
  | advance (thread : ℕ) (input : ι)

/-- How a thread starts, and what its next step does. -/
structure Program (σ : Type u) (θ : Type v) (ρ : Type w) (ι : Type x) where
  start : σ → ρ → θ
  move : σ → θ → ι → σ × θ

variable {σ : Type u} {θ : Type v} {ρ : Type w} {ι : Type x}

namespace Program

variable (program : Program σ θ ρ ι)

/-- One action. A thread that never started takes no step. -/
def step (world : World σ θ) : Action ρ ι → World σ θ
  | .spawn request => { world with threads := world.threads ++ [program.start world.shared request] }
  | .advance i input =>
    match world.threads[i]? with
    | none => world
    | some thread =>
      ⟨(program.move world.shared thread input).1,
        world.threads.set i (program.move world.shared thread input).2⟩

end Program

/-- The steps meet `Q`, a condition on the shared state, the thread that moves and its input. -/
def Meets (Q : σ → θ → ι → Prop) (world : World σ θ) : Action ρ ι → Prop
  | .spawn _ => True
  | .advance i input => ∀ thread, world.threads[i]? = some thread → Q world.shared thread input

instance (Q : σ → θ → ι → Prop) [∀ s thread input, Decidable (Q s thread input)]
    (world : World σ θ) : DecidablePred (@Meets _ _ ρ _ Q world)
  | .spawn _ => isTrue trivial
  | .advance i input =>
    match h : world.threads[i]? with
    | none => isTrue fun thread hthread => absurd (h.symm.trans hthread) (by simp)
    | some thread => decidable_of_iff (Q world.shared thread input)
        ⟨fun hQ other hother => Option.some.inj (h.symm.trans hother) ▸ hQ, fun hQ => hQ thread h⟩

/-- Whether the steps of a run meet a condition can be computed where the condition can. -/
instance decidableAlong (step : World σ θ → Action ρ ι → World σ θ) (Q : σ → θ → ι → Prop)
    [∀ s thread input, Decidable (Q s thread input)] :
    ∀ (world : World σ θ) (actions : List (Action ρ ι)),
      Decidable (Along step (Meets Q) world actions)
  | _, [] => isTrue trivial
  | world, action :: actions =>
    have := decidableAlong step Q (step world action) actions
    inferInstanceAs (Decidable (Meets Q world action ∧
      Along step (Meets Q) (step world action) actions))

/-- `I` of the number of threads and the shared state, and `J` of every thread. -/
def Holds (I : ℕ → σ → Prop) (J : σ → ℕ → θ → Prop) (world : World σ θ) : Prop :=
  I world.threads.length world.shared ∧
    ∀ i thread, world.threads[i]? = some thread → J world.shared i thread

variable {program : Program σ θ ρ ι} {I : ℕ → σ → Prop} {J : σ → ℕ → θ → Prop}
  {Q : σ → θ → ι → Prop} {world : World σ θ}

theorem step_advance {i : ℕ} {thread : θ} (input : ι) (h : world.threads[i]? = some thread) :
    program.step world (.advance i input) =
      ⟨(program.move world.shared thread input).1,
        world.threads.set i (program.move world.shared thread input).2⟩ := by
  simp only [Program.step, h]

theorem step_advance_none {i : ℕ} (input : ι) (h : world.threads[i]? = none) :
    program.step world (.advance i input) = world := by
  simp only [Program.step, h]

/-- STEP RULE: the conditions hold after a step when the new thread meets its own, and a moving
    thread keeps its own and every other one's. -/
theorem holds_step
    (hstart : ∀ n s request, I n s → I (n + 1) s ∧ J s n (program.start s request))
    (hmove : ∀ n s i thread input, i < n → I n s → J s i thread → Q s thread input →
      I n (program.move s thread input).1 ∧
        J (program.move s thread input).1 i (program.move s thread input).2 ∧
        ∀ j other, j ≠ i → J s j other → J (program.move s thread input).1 j other)
    {action : Action ρ ι} (hmeets : Meets Q world action) (hworld : Holds I J world) :
    Holds I J (program.step world action) := by
  obtain ⟨hI, hJ⟩ := hworld
  cases action with
  | spawn request =>
    obtain ⟨hnext, hnew⟩ := hstart _ _ request hI
    refine ⟨by simpa [Program.step] using hnext, ?_⟩
    intro j other hother
    rw [Program.step, List.getElem?_append] at hother
    split at hother
    · exact hJ j other hother
    · rename_i hlen
      obtain ⟨hzero, rfl⟩ := List.getElem?_eq_some_iff.1 hother
      have hj : j = world.threads.length := by
        rw [List.length_singleton] at hzero
        omega
      simpa [Program.step, hj] using hnew
  | advance i input =>
    cases hthread : world.threads[i]? with
    | none =>
      rw [step_advance_none input hthread]
      exact ⟨hI, hJ⟩
    | some thread =>
      have hlt := (List.getElem?_eq_some_iff.1 hthread).1
      obtain ⟨hnext, hown, hothers⟩ := hmove _ _ i thread input hlt hI (hJ i thread hthread)
        (hmeets thread hthread)
      rw [step_advance input hthread]
      refine ⟨by simpa using hnext, ?_⟩
      intro j other hother
      by_cases hij : j = i
      · subst hij
        rw [List.getElem?_set_self hlt, Option.some.injEq] at hother
        rw [← hother]
        exact hown
      · rw [List.getElem?_set_ne (Ne.symm hij)] at hother
        exact hothers j other hij (hJ j other hother)

/-- RUN RULE: what every step under the condition keeps, the run keeps. -/
theorem holds_run
    (hstart : ∀ n s request, I n s → I (n + 1) s ∧ J s n (program.start s request))
    (hmove : ∀ n s i thread input, i < n → I n s → J s i thread → Q s thread input →
      I n (program.move s thread input).1 ∧
        J (program.move s thread input).1 i (program.move s thread input).2 ∧
        ∀ j other, j ≠ i → J s j other → J (program.move s thread input).1 j other)
    {actions : List (Action ρ ι)} (halong : Along program.step (Meets Q) world actions)
    (hworld : Holds I J world) : Holds I J (run program.step world actions) :=
  run_invariant (P := Meets Q) (fun _ _ => holds_step hstart hmove) halong hworld

end Threads
