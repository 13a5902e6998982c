import Mathlib.Data.PNat.Basic
import Mathlib.Tactic
import Tasq.Lib.Json

/-! Documents: typed values that are stored and digested as canonical JSON text.

    `canonical` is what the reader of the canonical text gets back; `safe` is the check that the
    writer makes first (every number is a safe integer). Reading back what was read back changes
    nothing, and the check does not depend on the order of keys. -/

universe u

/-- Documents with a canonical form. -/
class CanonicalJson (α : Type u) where
  /-- What is read back from the canonical text. -/
  canonical : α → α
  /-- Every number in the document is a safe integer. -/
  safe : α → Bool
  canonical_canonical : ∀ a, canonical (canonical a) = canonical a
  safe_canonical : ∀ a, safe (canonical a) = safe a

export CanonicalJson (canonical safe)

namespace CanonicalJson

variable {α : Type u} [CanonicalJson α]

attribute [simp] canonical_canonical safe_canonical

instance : CanonicalJson ℕ where
  canonical n := n
  safe n := n ≤ Json.maxSafeInteger
  canonical_canonical _ := rfl
  safe_canonical _ := rfl

instance : CanonicalJson ℕ+ where
  canonical n := n
  safe n := (n : ℕ) ≤ Json.maxSafeInteger
  canonical_canonical _ := rfl
  safe_canonical _ := rfl

instance : CanonicalJson (Option α) where
  canonical := Option.map canonical
  safe o := o.all safe
  canonical_canonical o := by cases o <;> simp
  safe_canonical o := by cases o <;> simp

instance : CanonicalJson (List α) where
  canonical := List.map canonical
  safe l := l.all safe
  canonical_canonical l := by simp
  safe_canonical l := by simp [Function.comp_def]

theorem safe_nat (n : ℕ) : safe n = true ↔ n ≤ Json.maxSafeInteger := by
  simp [safe]

theorem safe_list (l : List α) : safe l = true ↔ ∀ a ∈ l, safe a = true := by
  simp [safe]

end CanonicalJson
