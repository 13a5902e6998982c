import Mathlib.Data.PNat.Basic
import Mathlib.Tactic
import Tasq.Lib.Json

/-! Injective encodings of values as JSON.

    A digest function that maps a document to such an encoding has no collisions. A record is
    encoded through the tuple of its fields (`through`), so that an instance is the list of the
    fields and a check that they determine the record. -/

universe u v

/-- An injective encoding as JSON. -/
class Encode (α : Type u) where
  encode : α → Json
  encode_injective : Function.Injective encode

export Encode (encode)

namespace Encode

variable {α : Type u} {β : Type v}

@[simp] theorem encode_inj [Encode α] {a b : α} : encode a = encode b ↔ a = b :=
  encode_injective.eq_iff

/-- Encode by way of an injection into an encoded type. -/
@[reducible] def through [Encode β] (f : α → β) (hf : Function.Injective f) : Encode α where
  encode a := encode (f a)
  encode_injective := encode_injective.comp hf

instance : Encode Json := ⟨id, Function.injective_id⟩

instance : Encode ℕ := ⟨fun n => .num n, fun a b h => by simpa using h⟩

instance : Encode String := ⟨.str, fun a b h => by simpa using h⟩

instance : Encode Bool := ⟨.bool, fun a b h => by simpa using h⟩

instance [Encode α] [Encode β] : Encode (α × β) where
  encode p := .arr [encode p.1, encode p.2]
  encode_injective p q h := by simpa [Prod.ext_iff] using h

instance [Encode α] : Encode (List α) where
  encode l := .arr (l.map encode)
  encode_injective l m h := by
    exact encode_injective.list_map (by simpa using h)

instance [Encode α] : Encode (Option α) :=
  through Option.toList fun a b h => by cases a <;> cases b <;> simp_all

instance {p : α → Prop} [Encode α] : Encode { a // p a } :=
  through Subtype.val Subtype.val_injective

instance : Encode ℕ+ := through PNat.val PNat.coe_injective

end Encode
