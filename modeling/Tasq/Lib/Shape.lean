import Mathlib.Tactic
import Tasq.Lib.ReadBack

/-! Reading the properties of JSON values, and the shapes that a schema asks of them.

    A reader depends on the properties alone, so it reads the same from a value and from its
    canonical form. -/

namespace Json

/-! ### Properties -/

/-- `value[key]` -/
def property (value : Json) (key : String) : Option Json :=
  match value with
  | .obj fields => fields.lookup key
  | _ => none

theorem lookup_eq_some {α : Type*} {fields : List (String × α)} (h : (fields.map Prod.fst).Nodup)
    {key : String} {a : α} : fields.lookup key = some a ↔ (key, a) ∈ fields := by
  induction fields with
  | nil => simp
  | cons f fields ih =>
    obtain ⟨k, b⟩ := f
    rw [List.map_cons, List.nodup_cons] at h
    rw [List.lookup_cons, List.mem_cons, Prod.mk.injEq]
    by_cases hk : key = k
    · subst hk
      have hnot : (key, a) ∉ fields := fun hmem => h.1 (List.mem_map.2 ⟨_, hmem, rfl⟩)
      simp [hnot, eq_comm]
    · have hbeq : (key == k) = false := by simpa using hk
      simp only [hbeq, hk, false_and, false_or]
      exact ih h.2

theorem lookup_perm {α : Type*} {fields others : List (String × α)} (h : fields.Perm others)
    (hnodup : (fields.map Prod.fst).Nodup) (key : String) :
    fields.lookup key = others.lookup key := by
  refine Option.ext fun a => ?_
  rw [lookup_eq_some hnodup, lookup_eq_some ((h.map _).nodup_iff.1 hnodup), h.mem_iff]

theorem lookup_canonicalValues (fields : List (String × Json)) (key : String) :
    (canonicalValues fields).lookup key = (fields.lookup key).map Json.canonical := by
  induction fields with
  | nil => rfl
  | cons f fields ih =>
    obtain ⟨k, a⟩ := f
    rw [canonicalValues, List.lookup_cons, List.lookup_cons, ih]
    split <;> rfl

/-- The canonical form has the properties of the value. -/
theorem property_canonical {v : Json} (h : v.distinct = true) (key : String) :
    property v.canonical key = (property v key).map Json.canonical := by
  cases v with
  | obj fields =>
    rw [distinct, Bool.and_eq_true, decide_eq_true_eq] at h
    rw [Json.canonical, property, property, ← lookup_canonicalValues]
    refine lookup_perm (sortFields_perm _) ?_ key
    rw [((sortFields_perm _).map _).nodup_iff, canonicalValues_eq_map, List.map_map]
    exact h.1
  | null => rfl
  | bool b => rfl
  | num q => rfl
  | str s => rfl
  | arr items => rfl

theorem property_text {v w : Json} (hv : v.distinct = true) (hw : w.distinct = true)
    (h : v.canonical = w.canonical) {key s : String} (hs : property v key = some (.str s)) :
    property w key = some (.str s) := by
  have hmap := property_canonical hw key
  rw [← h, property_canonical hv, hs] at hmap
  cases hcase : property w key with
  | none => rw [hcase] at hmap; simp at hmap
  | some a =>
    rw [hcase] at hmap
    cases a with
    | str s => simpa [Json.canonical, eq_comm] using hmap
    | null => simp [Json.canonical] at hmap
    | bool b => simp [Json.canonical] at hmap
    | num q => simp [Json.canonical] at hmap
    | arr items => simp [Json.canonical] at hmap
    | obj fields => simp [Json.canonical] at hmap

theorem distinctItems_eq (items : List Json) : distinctItems items = items.all distinct := by
  induction items with
  | nil => rfl
  | cons a items ih => rw [distinctItems, ih, List.all_cons]

theorem property_distinct {v m : Json} (h : v.distinct = true) {key : String}
    (hm : property v key = some m) : m.distinct = true := by
  cases v with
  | obj fields =>
    rw [distinct, Bool.and_eq_true, decide_eq_true_eq] at h
    have hmem := (lookup_eq_some h.1).1 hm
    have hall := h.2
    clear hm h
    induction fields with
    | nil => cases hmem
    | cons f fields ih =>
      rw [distinctFields, Bool.and_eq_true] at hall
      rcases List.mem_cons.1 hmem with heq | hmem
      · obtain rfl := heq
        exact hall.1
      · exact ih hmem hall.2
  | null => cases hm
  | bool b => cases hm
  | num q => cases hm
  | str s => cases hm
  | arr items => cases hm

theorem distinctFields_eq (fields : List (String × Json)) :
    distinctFields fields = fields.all fun f => distinct f.2 := by
  induction fields with
  | nil => rfl
  | cons f fields ih => rw [distinctFields, ih, List.all_cons]

mutual

theorem distinct_canonical : ∀ {v : Json}, v.distinct = true → v.canonical.distinct = true
  | .null, _ => rfl
  | .bool _, _ => rfl
  | .num _, _ => rfl
  | .str _, _ => rfl
  | .arr _, hd => distinctItems_canonicalItems hd
  | .obj fields, hd => by
    rw [distinct, Bool.and_eq_true, decide_eq_true_eq] at hd
    rw [canonical, distinct, Bool.and_eq_true, decide_eq_true_eq, distinctFields_eq,
      (sortFields_perm _).all_eq, ← distinctFields_eq]
    refine ⟨?_, distinctFields_canonicalValues hd.2⟩
    rw [((sortFields_perm _).map _).nodup_iff, canonicalValues_eq_map, List.map_map]
    exact hd.1

theorem distinctItems_canonicalItems : ∀ {items : List Json}, distinctItems items = true →
    distinctItems (canonicalItems items) = true
  | [], _ => rfl
  | a :: items, hd => by
    rw [distinctItems, Bool.and_eq_true] at hd
    rw [canonicalItems, distinctItems, Bool.and_eq_true]
    exact ⟨distinct_canonical hd.1, distinctItems_canonicalItems hd.2⟩

theorem distinctFields_canonicalValues : ∀ {fields : List (String × Json)},
    distinctFields fields = true → distinctFields (canonicalValues fields) = true
  | [], _ => rfl
  | (k, a) :: fields, hd => by
    rw [distinctFields, Bool.and_eq_true] at hd
    rw [canonicalValues, distinctFields, Bool.and_eq_true]
    exact ⟨distinct_canonical hd.1, distinctFields_canonicalValues hd.2⟩

end

/-! ### Shapes -/

/-- `z.object({..}).strict()`: an object without other keys. -/
def hasOnly (keys : List String) (v : Json) : Bool :=
  match v with
  | .obj fields => fields.all fun f => f.1 ∈ keys
  | _ => false

/-- `z.string()` -/
def text? (v : Json) (key : String) : Option String :=
  match property v key with
  | some (.str s) => some s
  | _ => none

/-- `z.string().optional()` -/
def optionalText? (v : Json) (key : String) : Option (Option String) :=
  match property v key with
  | none => some none
  | some (.str s) => some (some s)
  | some _ => none

/-- A positive integer. -/
def asPositive (v : Json) : Option ℕ+ :=
  match v with
  | .num q => if h : q.den = 1 ∧ 0 < q.num then some ⟨q.num.toNat, by omega⟩ else none
  | _ => none

/-- `z.number().int().positive()` -/
def positive? (v : Json) (key : String) : Option ℕ+ := (property v key).bind asPositive

/-- `z.number().int().positive().optional()` -/
def optionalPositive? (v : Json) (key : String) : Option (Option ℕ+) :=
  match property v key with
  | none => some none
  | some a => (asPositive a).map some

/-- `z.record(z.unknown())`, which leaves out a field with the name of the prototype. -/
def record? (v : Json) (key : String) : Option (List (String × Json)) :=
  match property v key with
  | some (.obj fields) => some (fields.filter fun f => f.1 ≠ "__proto__")
  | _ => none

section

variable {v : Json} (h : v.distinct = true)

include h

theorem hasOnly_canonical (keys : List String) : hasOnly keys v.canonical = hasOnly keys v := by
  cases v with
  | obj fields =>
    have hperm : ((sortFields (canonicalValues fields)).map Prod.fst).Perm
        (fields.map Prod.fst) := by
      refine ((sortFields_perm _).map _).trans ?_
      rw [canonicalValues_eq_map, List.map_map]
      exact List.Perm.refl _
    have hall := hperm.all_eq (f := fun k => decide (k ∈ keys))
    rw [List.all_map, List.all_map] at hall
    exact hall
  | null | bool | num | str | arr => rfl

theorem text?_canonical (key : String) : text? v.canonical key = text? v key := by
  unfold text?
  rw [property_canonical h]
  cases property v key with
  | none => rfl
  | some a => cases a <;> rfl

theorem optionalText?_canonical (key : String) :
    optionalText? v.canonical key = optionalText? v key := by
  unfold optionalText?
  rw [property_canonical h]
  cases property v key with
  | none => rfl
  | some a => cases a <;> rfl

omit h in
theorem asPositive_canonical (a : Json) : asPositive a.canonical = asPositive a := by
  cases a <;> rfl

theorem positive?_canonical (key : String) : positive? v.canonical key = positive? v key := by
  rw [positive?, positive?, property_canonical h, Option.bind_map]
  exact Option.bind_congr fun a _ => asPositive_canonical a

theorem optionalPositive?_canonical (key : String) :
    optionalPositive? v.canonical key = optionalPositive? v key := by
  unfold optionalPositive?
  rw [property_canonical h]
  cases property v key with
  | none => rfl
  | some a => exact congrArg (Option.map some) (asPositive_canonical a)

end

@[simp] theorem asPositive_pnat (n : ℕ+) : asPositive (.num (n : ℕ)) = some n := by
  have hpositive : ((n : ℕ) : ℚ).den = 1 ∧ 0 < ((n : ℕ) : ℚ).num := by
    rw [Rat.den_natCast, Rat.num_natCast]
    exact ⟨rfl, Int.natCast_pos.2 n.pos⟩
  rw [asPositive, dif_pos hpositive]
  rfl

theorem text?_of {v : Json} {key s : String} (h : property v key = some (.str s)) :
    text? v key = some s := by
  rw [text?, h]

theorem optionalText?_of {v : Json} {key : String} {o : Option String}
    (h : property v key = o.map .str) : optionalText? v key = some o := by
  rw [optionalText?, h]
  cases o <;> rfl

theorem positive?_of {v : Json} {key : String} {n : ℕ+}
    (h : property v key = some (.num (n : ℕ))) : positive? v key = some n := by
  rw [positive?, h, Option.bind_some, asPositive_pnat]

theorem optionalPositive?_of {v : Json} {key : String} {o : Option ℕ+}
    (h : property v key = o.map fun n : ℕ+ => .num (n : ℕ)) : optionalPositive? v key = some o := by
  rw [optionalPositive?, h]
  cases o with
  | none => rfl
  | some n => exact congrArg (Option.map some) (asPositive_pnat n)

/-! ### Objects with optional fields -/

/-- The fields that are there. -/
def present (entries : List (String × Option Json)) : List (String × Json) :=
  entries.filterMap fun e => e.2.map fun a => (e.1, a)

theorem present_cons (key : String) (a : Option Json) (entries : List (String × Option Json)) :
    present ((key, a) :: entries) = (a.map (key, ·)).toList ++ present entries := by
  cases a <;> rfl

/-- A field is read from those that are there as from all of them. -/
theorem lookup_present {entries : List (String × Option Json)}
    (h : (entries.map Prod.fst).Nodup) (key : String) :
    (present entries).lookup key = (entries.lookup key).join := by
  induction entries with
  | nil => rfl
  | cons e entries ih =>
    obtain ⟨k, a⟩ := e
    rw [List.map_cons, List.nodup_cons] at h
    have hrest := ih h.2
    cases a with
    | some a =>
      rw [present_cons, Option.map_some, Option.toList_some, List.singleton_append,
        List.lookup_cons, List.lookup_cons, hrest]
      split <;> rfl
    | none =>
      rw [present_cons, Option.map_none, Option.toList_none, List.nil_append, hrest,
        List.lookup_cons]
      split
      · rename_i hkey
        have hnone : entries.lookup key = none := by
          rw [List.lookup_eq_none_iff]
          intro e he
          rw [beq_iff_eq] at hkey
          rw [bne_iff_ne]
          intro heq
          exact h.1 (List.mem_map.2 ⟨e, he, by rw [← heq, hkey]⟩)
        rw [hnone]
        rfl
      · rfl

theorem present_keys_sublist (entries : List (String × Option Json)) :
    ((present entries).map Prod.fst).Sublist (entries.map Prod.fst) := by
  induction entries with
  | nil => exact List.Sublist.refl _
  | cons e entries ih =>
    obtain ⟨k, a⟩ := e
    cases a with
    | some a => exact ih.cons_cons k
    | none => exact ih.cons k

theorem hasOnly_present (entries : List (String × Option Json)) :
    hasOnly (entries.map Prod.fst) (.obj (present entries)) = true := by
  rw [hasOnly, List.all_eq_true]
  intro f hf
  rw [decide_eq_true_eq]
  exact (present_keys_sublist entries).subset (List.mem_map_of_mem hf)

theorem canonicalValues_present (entries : List (String × Option Json)) :
    canonicalValues (present entries) =
      present (entries.map (Prod.map id (Option.map canonical))) := by
  induction entries with
  | nil => rfl
  | cons e entries ih =>
    obtain ⟨k, a⟩ := e
    cases a with
    | some a => exact congrArg ((k, canonical a) :: ·) ih
    | none => exact ih

theorem distinctFields_present (entries : List (String × Option Json)) :
    distinctFields (present entries) = entries.all fun e => e.2.all distinct := by
  induction entries with
  | nil => rfl
  | cons e entries ih =>
    obtain ⟨k, a⟩ := e
    cases a with
    | some a =>
      rw [present_cons, Option.map_some, Option.toList_some, List.singleton_append, distinctFields,
        ih, List.all_cons, Option.all_some]
    | none =>
      rw [present_cons, Option.map_none, Option.toList_none, List.nil_append, ih, List.all_cons,
        Option.all_none, Bool.true_and]

/-- An object with optional fields has no key twice. -/
theorem distinct_present {entries : List (String × Option Json)}
    (h : (entries.map Prod.fst).Nodup) :
    (Json.obj (present entries)).distinct = entries.all fun e => e.2.all distinct := by
  rw [distinct, decide_eq_true (h.sublist (present_keys_sublist entries)), Bool.true_and,
    distinctFields_present]

end Json
