import Mathlib.Tactic
import Tasq.Lib.Run

/-! Loading records one after another: a loop of insertions, each of which a uniqueness constraint
    and the tables around it may refuse. The loop completes exactly when every record fits, none
    clashes with a row that was there, and none with the row of another one. -/

universe u v w

namespace Load

open Run

variable {σ : Type u} {ρ : Type v} {τ : Type w} {step : σ → ρ → σ} {fits : σ → ρ → Prop}
  {s s' : σ} {rs : List ρ} (rows : σ → List τ) (row : ρ → τ) (clash : ρ → τ → Prop)

/-- EXACT: when a loop of insertions goes through. -/
theorem along_insert (hrows : ∀ s r, rows (step s r) = rows s ++ [row r])
    (hfits : ∀ s q r, fits (step s q) r ↔ fits s r) :
    Along step (fun s r => fits s r ∧ ∀ q ∈ rows s, ¬ clash r q) s rs ↔
      (∀ r ∈ rs, fits s r ∧ ∀ q ∈ rows s, ¬ clash r q) ∧
        rs.Pairwise fun q r => ¬ clash r (row q) := by
  induction rs generalizing s with
  | nil => simp [Along]
  | cons r rs ih =>
    rw [Along, ih, List.pairwise_cons, List.forall_mem_cons]
    constructor
    · rintro ⟨hr, hrest, hpairs⟩
      refine ⟨⟨hr, fun q hq => ?_⟩, fun q hq => ?_, hpairs⟩
      · obtain ⟨hq, hclash⟩ := hrest q hq
        refine ⟨(hfits s r q).1 hq, fun other hother => hclash other ?_⟩
        rw [hrows]
        exact List.mem_append_left _ hother
      · refine (hrest q hq).2 (row r) ?_
        rw [hrows]
        exact List.mem_append_right _ (List.mem_singleton_self _)
    · rintro ⟨⟨hr, hrest⟩, hfirst, hpairs⟩
      refine ⟨hr, fun q hq => ⟨(hfits s r q).2 (hrest q hq).1, fun other hother => ?_⟩, hpairs⟩
      rw [hrows] at hother
      rcases List.mem_append.1 hother with hother | hother
      · exact (hrest q hq).2 other hother
      · rw [List.mem_singleton.1 hother]
        exact hfirst q hq

/-- EXACT: the loop itself, over refusable insertions. -/
theorem foldlM_insert {ε : Type u} {σ : Type v} {ρ : Type v} {step : σ → ρ → σ}
    {fits : σ → ρ → Prop} {s s' : σ} {rs : List ρ} {f : σ → ρ → Except ε σ} (rows : σ → List τ)
    (row : ρ → τ) (clash : ρ → τ → Prop)
    (hf : ∀ s r s', f s r = .ok s' ↔
      (fits s r ∧ ∀ q ∈ rows s, ¬ clash r q) ∧ step s r = s')
    (hrows : ∀ s r, rows (step s r) = rows s ++ [row r])
    (hfits : ∀ s q r, fits (step s q) r ↔ fits s r) :
    rs.foldlM f s = .ok s' ↔
      ((∀ r ∈ rs, fits s r ∧ ∀ q ∈ rows s, ¬ clash r q) ∧
        rs.Pairwise fun q r => ¬ clash r (row q)) ∧ run step s rs = s' := by
  rw [foldlM_eq_ok hf, along_insert rows row clash hrows hfits]

end Load
