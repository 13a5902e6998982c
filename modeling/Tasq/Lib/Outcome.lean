import Mathlib.Tactic

/-! Transactions that may be refused, as computations in `Except`.

    A transaction is a `do` block of `Except ε`: a guard refuses with an error and a refused
    transaction changes nothing, because the caller keeps the state it passed in. The lemmas take
    a completed transaction apart into its guards and the values it read, and package the induction
    over a loop (`List.foldlM`) that runs one refusable step for each element. -/

universe u v

namespace Outcome

variable {ε : Type u} {α β σ : Type v}

/-- Refuse with `e` when `c` holds. -/
def refuse (c : Prop) [Decidable c] (e : ε) : Except ε Unit :=
  if c then .error e else .ok ()

/-- The value of `o`, or a refusal with `e`. -/
def demand (o : Option α) (e : ε) : Except ε α :=
  match o with
  | some a => .ok a
  | none => .error e

/-- The transaction completes. -/
def Completes (x : Except ε α) : Prop := ∃ a, x = .ok a

/-- The transaction completes with a value that satisfies `P`. -/
def Ends (x : Except ε α) (P : α → Prop) : Prop := ∃ a, x = .ok a ∧ P a

instance (x : Except ε α) (P : α → Prop) [DecidablePred P] : Decidable (Ends x P) :=
  match x with
  | .ok a => decidable_of_iff (P a) (by simp [Ends])
  | .error _ => isFalse (by simp [Ends])

/-- The state after a transaction: the new one, or the old one when it is refused. -/
def settle (s : σ) (x : Except ε σ) : σ :=
  match x with
  | .ok s' => s'
  | .error _ => s

/-! ### Taking a completed transaction apart -/

@[simp] theorem refuse_eq_ok (c : Prop) [Decidable c] (e : ε) (u : Unit) :
    refuse c e = .ok u ↔ ¬ c := by
  unfold refuse
  split <;> simp_all

@[simp] theorem refuse_eq_error (c : Prop) [Decidable c] (e e' : ε) :
    refuse c e = .error e' ↔ c ∧ e = e' := by
  unfold refuse
  split <;> simp_all

theorem refuse_of_not {c : Prop} [Decidable c] (e : ε) (h : ¬ c) : refuse c e = .ok () := by
  simpa using h

@[simp] theorem demand_eq_ok (o : Option α) (e : ε) (a : α) :
    demand o e = .ok a ↔ o = some a := by
  cases o <;> simp [demand]

@[simp] theorem demand_eq_error (o : Option α) (e e' : ε) :
    demand o e = .error e' ↔ o = none ∧ e = e' := by
  cases o <;> simp [demand]

theorem bind_eq_ok (x : Except ε α) (f : α → Except ε β) (b : β) :
    (x >>= f) = .ok b ↔ ∃ a, x = .ok a ∧ f a = .ok b := by
  cases x <;> simp [bind, Except.bind]

theorem bind_eq_error (x : Except ε α) (f : α → Except ε β) (e : ε) :
    (x >>= f) = .error e ↔ x = .error e ∨ ∃ a, x = .ok a ∧ f a = .error e := by
  cases x <;> simp [bind, Except.bind]

theorem map_eq_ok (f : α → β) (x : Except ε α) (b : β) :
    (f <$> x) = .ok b ↔ ∃ a, x = .ok a ∧ f a = b := by
  cases x <;> simp [Functor.map, Except.map]

@[simp] theorem ok_bind (a : α) (f : α → Except ε β) : ((.ok a : Except ε α) >>= f) = f a := rfl

@[simp] theorem error_bind (e : ε) (f : α → Except ε β) :
    ((.error e : Except ε α) >>= f) = .error e := rfl

@[simp] theorem pure_eq_ok (a b : α) : (pure a : Except ε α) = .ok b ↔ a = b := by
  simp [pure, Except.pure]

@[simp] theorem pure_ne_error (a : α) (e : ε) : (pure a : Except ε α) ≠ .error e := by
  simp [pure, Except.pure]

/-- SETTLE RULE: what holds before and after a completed transaction, holds of the settled state. -/
theorem settle_rule {I : σ → Prop} {s : σ} {x : Except ε σ} (hs : I s)
    (h : ∀ s', x = .ok s' → I s') : I (settle s x) := by
  cases x with
  | error e => exact hs
  | ok s' => exact h s' rfl

/-- SETTLE RULE, for a transaction that also answers. -/
theorem settle_fst_rule {I : σ → Prop} {s : σ} {x : Except ε (σ × β)} (hs : I s)
    (h : ∀ s' b, x = .ok (s', b) → I s') : I (settle s (Prod.fst <$> x)) := by
  cases x with
  | error e => exact hs
  | ok outcome => exact h outcome.1 outcome.2 rfl

/-! ### Loops -/

/-- A loop over checks completes exactly when every check does. -/
theorem forM_eq_ok (f : α → Except ε PUnit) (xs : List α) (u : PUnit) :
    xs.forM f = .ok u ↔ ∀ x ∈ xs, f x = .ok ⟨⟩ := by
  induction xs with
  | nil => simp
  | cons x xs ih =>
    change (f x >>= fun _ => xs.forM f) = .ok u ↔ _
    simp only [bind_eq_ok, List.mem_cons, forall_eq_or_imp, ← ih]
    constructor
    · rintro ⟨_, hx, h⟩
      exact ⟨hx, h⟩
    · rintro ⟨hx, h⟩
      exact ⟨⟨⟩, hx, h⟩

/-- A loop that reads every element completes exactly when each can be read. -/
theorem mapM_eq_ok {f : α → Except ε β} {P : α → Prop} {g : α → β} {xs : List α}
    (hf : ∀ x ∈ xs, ∀ y, f x = .ok y ↔ P x ∧ g x = y) (ys : List β) :
    xs.mapM f = .ok ys ↔ (∀ x ∈ xs, P x) ∧ xs.map g = ys := by
  induction xs generalizing ys with
  | nil => simp
  | cons x xs ih =>
    have ih := ih fun y hy => hf y (.tail _ hy)
    simp only [List.mapM_cons, bind_eq_ok, hf x (.head _), ih, pure_eq_ok, List.mem_cons,
      forall_eq_or_imp, List.map_cons]
    constructor
    · rintro ⟨_, ⟨hx, rfl⟩, _, ⟨hxs, rfl⟩, rfl⟩
      exact ⟨⟨hx, hxs⟩, rfl⟩
    · rintro ⟨⟨hx, hxs⟩, rfl⟩
      exact ⟨_, ⟨hx, rfl⟩, _, ⟨hxs, rfl⟩, rfl⟩

/-- INVARIANT RULE: what every completed step preserves, a completed loop preserves. -/
theorem foldlM_invariant (f : σ → α → Except ε σ) (I : σ → Prop) (xs : List α)
    (step : ∀ s x s', x ∈ xs → I s → f s x = .ok s' → I s') {s s' : σ} (hs : I s)
    (h : xs.foldlM f s = .ok s') : I s' := by
  induction xs generalizing s with
  | nil =>
    obtain rfl : s = s' := by simpa using h
    exact hs
  | cons x xs ih =>
    rw [List.foldlM_cons, bind_eq_ok] at h
    obtain ⟨m, hm, hrest⟩ := h
    exact ih (fun s y s' hy => step s y s' (.tail _ hy)) (step s x m (.head _) hs hm) hrest

/-- What the step of one element establishes and every step keeps, holds after the loop. -/
theorem foldlM_establishes (f : σ → α → Except ε σ) (P : σ → Prop) {x : α} {xs : List α}
    (hmem : x ∈ xs) (here : ∀ s s', f s x = .ok s' → P s')
    (keep : ∀ s y s', P s → f s y = .ok s' → P s') {s s' : σ} (h : xs.foldlM f s = .ok s') :
    P s' := by
  obtain ⟨ys, zs, rfl⟩ := List.append_of_mem hmem
  rw [List.foldlM_append, bind_eq_ok] at h
  obtain ⟨m, -, h⟩ := h
  rw [List.foldlM_cons, bind_eq_ok] at h
  obtain ⟨n, hn, h⟩ := h
  exact foldlM_invariant f P zs (fun s y s' _ => keep s y s') (here m n hn) h

/-- What every step does to a part of the state, the loop does in order. -/
theorem foldlM_project {τ : Type v} (f : σ → α → Except ε σ) (part : σ → τ) (g : τ → α → τ)
    (step : ∀ s x s', f s x = .ok s' → part s' = g (part s) x) {xs : List α} {s s' : σ}
    (h : xs.foldlM f s = .ok s') : part s' = xs.foldl g (part s) := by
  induction xs generalizing s with
  | nil =>
    obtain rfl : s = s' := by simpa using h
    rfl
  | cons x xs ih =>
    rw [List.foldlM_cons, bind_eq_ok] at h
    obtain ⟨m, hm, hrest⟩ := h
    rw [ih hrest, step s x m hm, List.foldl_cons]

/-! ### Errors that do not happen -/

/-- No refusal of the transaction satisfies `p`. -/
def Avoids (p : ε → Prop) (x : Except ε α) : Prop := ∀ e, x = .error e → ¬ p e

section

variable {p : ε → Prop}

@[simp] theorem avoids_ok (a : α) : Avoids p (.ok a : Except ε α) := by
  simp [Avoids]

@[simp] theorem avoids_pure (a : α) : Avoids p (pure a : Except ε α) := avoids_ok a

@[simp] theorem avoids_error (e : ε) : Avoids p (.error e : Except ε α) ↔ ¬ p e := by
  simp [Avoids]

@[simp] theorem avoids_refuse (c : Prop) [Decidable c] (e : ε) :
    Avoids p (refuse c e) ↔ (c → ¬ p e) := by
  simp [Avoids]

@[simp] theorem avoids_demand (o : Option α) (e : ε) :
    Avoids p (demand o e) ↔ (o = none → ¬ p e) := by
  simp [Avoids]

/-- AVOID RULE: a transaction avoids what its parts avoid. -/
theorem Avoids.bind {x : Except ε α} {f : α → Except ε β} (hx : Avoids p x)
    (hf : ∀ a, x = .ok a → Avoids p (f a)) : Avoids p (x >>= f) := by
  intro e he
  rcases (bind_eq_error x f e).1 he with hx' | ⟨a, ha, hf'⟩
  · exact hx e hx'
  · exact hf a ha e hf'

theorem Avoids.map {x : Except ε α} (hx : Avoids p x) (f : α → β) : Avoids p (f <$> x) := by
  cases x with
  | ok a => exact avoids_ok (f a)
  | error e => exact fun e' he => hx e' (by simpa [Functor.map, Except.map] using he)

end

/-! ### Transactions compared -/

/-- Both transactions complete with related values, or both are refused alike. -/
def Alike {γ : Type v} (R : α → γ → Prop) (x : Except ε α) (y : Except ε γ) : Prop :=
  match x, y with
  | .ok a, .ok c => R a c
  | .error e, .error e' => e = e'
  | _, _ => False

section

variable {γ δ : Type v} {R : α → γ → Prop} {S : β → δ → Prop} {x : Except ε α} {y : Except ε γ}

/-- COMPARE RULE: what comes after transactions that are alike is compared on related values. -/
theorem Alike.bind {f : α → Except ε β} {g : γ → Except ε δ} (h : Alike R x y)
    (hfg : ∀ a c, x = .ok a → y = .ok c → R a c → Alike S (f a) (g c)) :
    Alike S (x >>= f) (y >>= g) := by
  cases x <;> cases y <;> simp only [Alike] at h
  · exact h
  · exact hfg _ _ rfl rfl h

theorem alike_self (x : Except ε α) : Alike Eq x x := by
  cases x <;> simp [Alike]

theorem alike_refuse {c d : Prop} [Decidable c] [Decidable d] (e : ε) (h : c ↔ d) :
    Alike Eq (refuse c e) (refuse d e) := by
  unfold refuse
  split <;> split <;> simp_all [Alike]

/-- Two demands are alike when both find a value, or neither. -/
theorem alike_demand {o : Option α} {p : Option γ} (e : ε) (h : o.isSome = p.isSome) :
    Alike (fun _ _ => True) (demand o e) (demand p e) := by
  cases o <;> cases p <;> simp_all [Alike, demand]

end

end Outcome
