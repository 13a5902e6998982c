import Mathlib.Data.List.Sort
import Mathlib.Data.Prod.Lex
import Mathlib.Tactic
import Tasq.Lib.Text

/-! JSON values and their canonical form.

    The fields of an object stand in own-property order, so two values are equal exactly when
    `JSON.stringify` writes the same text for them. `canonical` is the value that `JSON.parse`
    reads back from the canonical text: every object has its keys in the one order that depends on
    the keys alone. Two values have the same canonical text exactly when their canonical forms are
    equal. -/

/-- A JSON value. A number is any finite double, as a rational. -/
inductive Json where
  | null
  | bool (b : Bool)
  | num (q : ℚ)
  | str (s : String)
  | arr (items : List Json)
  | obj (fields : List (String × Json))

namespace Json

/-! ### Decidable equality -/

mutual

/-- Equality of values is decidable. -/
def decEq : (a b : Json) → Decidable (a = b)
  | null, null => isTrue rfl
  | bool a, bool b => decidable_of_iff (a = b) (by simp)
  | num a, num b => decidable_of_iff (a = b) (by simp)
  | str a, str b => decidable_of_iff (a = b) (by simp)
  | arr a, arr b => @decidable_of_iff _ (a = b) (by simp) (decEqItems a b)
  | obj a, obj b => @decidable_of_iff _ (a = b) (by simp) (decEqFields a b)
  | null, bool _ => isFalse nofun
  | null, num _ => isFalse nofun
  | null, str _ => isFalse nofun
  | null, arr _ => isFalse nofun
  | null, obj _ => isFalse nofun
  | bool _, null => isFalse nofun
  | bool _, num _ => isFalse nofun
  | bool _, str _ => isFalse nofun
  | bool _, arr _ => isFalse nofun
  | bool _, obj _ => isFalse nofun
  | num _, null => isFalse nofun
  | num _, bool _ => isFalse nofun
  | num _, str _ => isFalse nofun
  | num _, arr _ => isFalse nofun
  | num _, obj _ => isFalse nofun
  | str _, null => isFalse nofun
  | str _, bool _ => isFalse nofun
  | str _, num _ => isFalse nofun
  | str _, arr _ => isFalse nofun
  | str _, obj _ => isFalse nofun
  | arr _, null => isFalse nofun
  | arr _, bool _ => isFalse nofun
  | arr _, num _ => isFalse nofun
  | arr _, str _ => isFalse nofun
  | arr _, obj _ => isFalse nofun
  | obj _, null => isFalse nofun
  | obj _, bool _ => isFalse nofun
  | obj _, num _ => isFalse nofun
  | obj _, str _ => isFalse nofun
  | obj _, arr _ => isFalse nofun

def decEqItems : (a b : List Json) → Decidable (a = b)
  | [], [] => isTrue rfl
  | [], _ :: _ => isFalse nofun
  | _ :: _, [] => isFalse nofun
  | a :: as, b :: bs =>
    @decidable_of_iff _ (a = b ∧ as = bs) (by simp)
      (@instDecidableAnd _ _ (decEq a b) (decEqItems as bs))

def decEqFields : (a b : List (String × Json)) → Decidable (a = b)
  | [], [] => isTrue rfl
  | [], _ :: _ => isFalse nofun
  | _ :: _, [] => isFalse nofun
  | (k, a) :: as, (l, b) :: bs =>
    @decidable_of_iff _ (k = l ∧ a = b ∧ as = bs) (by simp [and_assoc])
      (@instDecidableAnd _ _ inferInstance
        (@instDecidableAnd _ _ (decEq a b) (decEqFields as bs)))

end

instance : DecidableEq Json := decEq

/-! ### The order of keys -/

/-- The array index a key writes ("0", "17", not "017"), if it writes one. -/
def arrayIndex? (key : String) : Option ℕ :=
  match key.toList with
  | ['0'] => some 0
  | c :: cs =>
    if c ≠ '0' ∧ (c :: cs).all Char.isDigit then
      let n := (c :: cs).foldl (fun n d => 10 * n + (d.toNat - '0'.toNat)) 0
      if n < 2 ^ 32 - 1 then some n else none
    else none
  | [] => none

/-- Where a key stands: array indices first, by value; then the others, by UTF-16 code units. -/
def keyRank (key : String) : ℕ ×ₗ ℕ ×ₗ List ℕ :=
  match arrayIndex? key with
  | some n => toLex (0, toLex (n, []))
  | none => toLex (1, toLex (0, Text.utf16 key))

/-- The order of the fields of an object in canonical form. -/
def fieldLE {α : Type*} (a b : String × α) : Prop := keyRank a.1 ≤ keyRank b.1

instance {α : Type*} : DecidableRel (@fieldLE α) := fun _ _ => inferInstanceAs (Decidable (_ ≤ _))

instance {α : Type*} : Std.Total (@fieldLE α) := ⟨fun _ _ => le_total _ _⟩

instance {α : Type*} : IsTrans _ (@fieldLE α) := ⟨fun _ _ _ => le_trans⟩

/-- The fields in canonical order. -/
def sortFields {α : Type*} (fields : List (String × α)) : List (String × α) :=
  fields.insertionSort fieldLE

theorem sortFields_sortFields {α : Type*} (fields : List (String × α)) :
    sortFields (sortFields fields) = sortFields fields :=
  (List.pairwise_insertionSort fieldLE fields).insertionSort_eq

/-- Sorting looks at the keys alone. -/
theorem map_sortFields {α β : Type*} (f : α → β) (fields : List (String × α)) :
    (sortFields fields).map (Prod.map id f) = sortFields (fields.map (Prod.map id f)) :=
  List.map_insertionSort _ _ _ _ fun _ _ _ _ => Iff.rfl

theorem sortFields_perm {α : Type*} (fields : List (String × α)) :
    (sortFields fields).Perm fields :=
  List.perm_insertionSort _ _

/-! ### Canonical form -/

mutual

/-- The value that `JSON.parse` reads from the canonical text of a value. -/
def canonical : Json → Json
  | arr items => arr (canonicalItems items)
  | obj fields => obj (sortFields (canonicalValues fields))
  | null => null
  | bool b => bool b
  | num q => num q
  | str s => str s

def canonicalItems : List Json → List Json
  | [] => []
  | a :: as => canonical a :: canonicalItems as

def canonicalValues : List (String × Json) → List (String × Json)
  | [] => []
  | (k, a) :: as => (k, canonical a) :: canonicalValues as

end

theorem canonicalValues_eq_map (fields : List (String × Json)) :
    canonicalValues fields = fields.map (Prod.map id canonical) := by
  induction fields with
  | nil => rfl
  | cons f fields ih =>
    obtain ⟨k, a⟩ := f
    simp [canonicalValues, ih]

theorem canonicalValues_sortFields (fields : List (String × Json)) :
    canonicalValues (sortFields fields) = sortFields (canonicalValues fields) := by
  rw [canonicalValues_eq_map, canonicalValues_eq_map, map_sortFields]

mutual

/-- CORRECT: a canonical value is its own canonical form. -/
theorem canonical_canonical : ∀ a : Json, canonical (canonical a) = canonical a
  | null => rfl
  | bool _ => rfl
  | num _ => rfl
  | str _ => rfl
  | arr items => by simp only [canonical, canonicalItems_canonicalItems items]
  | obj fields => by
    simp only [canonical, canonicalValues_sortFields, canonicalValues_canonicalValues fields,
      sortFields_sortFields]

theorem canonicalItems_canonicalItems :
    ∀ as : List Json, canonicalItems (canonicalItems as) = canonicalItems as
  | [] => rfl
  | a :: as => by
    simp only [canonicalItems, canonical_canonical a, canonicalItems_canonicalItems as]

theorem canonicalValues_canonicalValues :
    ∀ as : List (String × Json), canonicalValues (canonicalValues as) = canonicalValues as
  | [] => rfl
  | (k, a) :: as => by
    simp only [canonicalValues, canonical_canonical a, canonicalValues_canonicalValues as]

end

/-! ### Numbers that survive canonical text -/

/-- `Number.MAX_SAFE_INTEGER`. -/
def maxSafeInteger : ℕ := 2 ^ 53 - 1

/-- `Number.isSafeInteger`. -/
def isSafeInteger (q : ℚ) : Bool := q.den = 1 && q.num.natAbs ≤ maxSafeInteger

mutual

/-- Every number in the value is a safe integer. -/
def safe : Json → Bool
  | num q => isSafeInteger q
  | arr items => safeItems items
  | obj fields => safeValues fields
  | null => true
  | bool _ => true
  | str _ => true

def safeItems : List Json → Bool
  | [] => true
  | a :: as => safe a && safeItems as

def safeValues : List (String × Json) → Bool
  | [] => true
  | (_, a) :: as => safe a && safeValues as

end

theorem safeValues_eq_all (fields : List (String × Json)) :
    safeValues fields = fields.all fun f => safe f.2 := by
  induction fields with
  | nil => rfl
  | cons f fields ih => simp [safeValues, ih]

theorem safeValues_sortFields (fields : List (String × Json)) :
    safeValues (sortFields fields) = safeValues fields := by
  rw [safeValues_eq_all, safeValues_eq_all, Bool.eq_iff_iff]
  simp only [List.all_eq_true, (sortFields_perm fields).mem_iff]

mutual

/-- The canonical form has the numbers of the value. -/
theorem safe_canonical : ∀ a : Json, safe (canonical a) = safe a
  | null => rfl
  | bool _ => rfl
  | num _ => rfl
  | str _ => rfl
  | arr items => by simp only [canonical, safe, safeItems_canonicalItems items]
  | obj fields => by
    simp only [canonical, safe, safeValues_sortFields, safeValues_canonicalValues fields]

theorem safeItems_canonicalItems : ∀ as : List Json, safeItems (canonicalItems as) = safeItems as
  | [] => rfl
  | a :: as => by
    simp only [canonicalItems, safeItems, safe_canonical a, safeItems_canonicalItems as]

theorem safeValues_canonicalValues :
    ∀ as : List (String × Json), safeValues (canonicalValues as) = safeValues as
  | [] => rfl
  | (k, a) :: as => by
    simp only [canonicalValues, safeValues, safe_canonical a, safeValues_canonicalValues as]

end

end Json
