import Mathlib.Tactic
import Tasq.Lib.Outcome

/-! What a transaction answers in every case: a value that meets a condition, or an error of an
    allowed kind.

    `Answers` is the weakest condition under which it does, and it is computed from the text of the
    transaction, one guard after another. -/

universe u v

namespace Outcome

variable {ε : Type u} {α β : Type v}

/-- The transaction completes with a value that satisfies `Q`, or is refused with an error that
    satisfies `E`. -/
def Answers (E : ε → Prop) (x : Except ε α) (Q : α → Prop) : Prop :=
  match x with
  | .ok a => Q a
  | .error e => E e

variable {E : ε → Prop} {Q : α → Prop}

@[simp] theorem answers_ok (a : α) : Answers E (.ok a) Q ↔ Q a := Iff.rfl

@[simp] theorem answers_error (e : ε) : Answers E (.error e : Except ε α) Q ↔ E e := Iff.rfl

theorem answers_pure (a : α) : Answers E (pure a) Q ↔ Q a := Iff.rfl

theorem answers_refuse {Q : Unit → Prop} (c : Prop) [Decidable c] (e : ε) :
    Answers E (refuse c e) Q ↔ (c → E e) ∧ (¬ c → Q ()) := by
  unfold refuse
  by_cases hc : c
  · simp [hc]
  · simp [hc]

theorem answers_demand (o : Option α) (e : ε) :
    Answers E (demand o e) Q ↔ (o = none → E e) ∧ ∀ a, o = some a → Q a := by
  cases o with
  | none => simp [demand]
  | some a => simp [demand]

/-- BIND RULE: the rest of a transaction answers for every value that its first part gives. -/
theorem answers_bind {Q : β → Prop} (x : Except ε α) (f : α → Except ε β) :
    Answers E (x >>= f) Q ↔ Answers E x fun a => Answers E (f a) Q := by
  cases x with
  | ok a => rfl
  | error e => rfl

end Outcome
