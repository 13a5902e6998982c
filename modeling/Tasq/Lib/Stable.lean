import Mathlib.Tactic
import Tasq.Lib.Json
import Tasq.Lib.Queue

/-! The text of a JSON value whose objects are sorted by a comparison of their keys, such as that of
    a locale. The sort is stable, and the comparison may find two different keys equal; then the
    text depends on the order in which an object has them.

    `Same` is equality of values up to the order of keys, and `Own` says of every object that its
    keys stand in an order that an object can have. `stable_eq_of_same` and `separated_of_stable`
    say when values that are the same have one text: exactly when no comparison ties two keys whose
    order is free. -/

namespace Json

open Queue

variable (cmp : String → String → Ordering)

/-! ### Values up to the order of keys -/

mutual

/-- The values are equal, whatever the order of the keys of objects. -/
def Same : Json → Json → Prop
  | .null, b => b = .null
  | .bool x, b => b = .bool x
  | .num q, b => b = .num q
  | .str s, b => b = .str s
  | .arr items, b => ∃ items', b = .arr items' ∧ SameItems items items'
  | .obj fields, b => ∃ fields', b = .obj fields' ∧ SameFields fields fields'

def SameItems : List Json → List Json → Prop
  | [], bs => bs = []
  | a :: as, bs => ∃ b bs', bs = b :: bs' ∧ Same a b ∧ SameItems as bs'

def SameFields : List (String × Json) → List (String × Json) → Prop
  | [], bs => bs = []
  | (k, a) :: as, bs => ∃ b before after,
      bs = before ++ (k, b) :: after ∧ Same a b ∧ SameFields as (before ++ after)

end

/-- A key may stand before another: array indices come first, by value, and no key comes twice. -/
def MayPrecede (k l : String) : Prop :=
  match arrayIndex? k, arrayIndex? l with
  | some m, some n => m < n
  | some _, none => True
  | none, some _ => False
  | none, none => k ≠ l

mutual

/-- The keys of every object stand in an order that an object can have. -/
def Own : Json → Prop
  | .arr items => OwnItems items
  | .obj fields => (fields.Pairwise fun e e' => MayPrecede e.1 e'.1) ∧ OwnValues fields
  | _ => True

def OwnItems : List Json → Prop
  | [] => True
  | a :: as => Own a ∧ OwnItems as

def OwnValues : List (String × Json) → Prop
  | [] => True
  | (_, a) :: as => Own a ∧ OwnValues as

end

/-! ### The sorted text -/

/-- The order of fields by their keys. -/
def KeyLE (e e' : String × Json) : Prop := cmp e.1 e'.1 ≠ .gt

instance : DecidableRel (KeyLE cmp) := fun _ _ => inferInstanceAs (Decidable (¬ _))

mutual

/-- What the text of a value keeps, when the fields of every object are sorted by `cmp`. -/
def stable : Json → Json
  | .arr items => .arr (stableItems items)
  | .obj fields => .obj ((stableValues fields).insertionSort (KeyLE cmp))
  | .null => .null
  | .bool b => .bool b
  | .num q => .num q
  | .str s => .str s

def stableItems : List Json → List Json
  | [] => []
  | a :: as => stable a :: stableItems as

def stableValues : List (String × Json) → List (String × Json)
  | [] => []
  | (k, a) :: as => (k, stable a) :: stableValues as

end

/-- The comparison ties the keys, and an object may have them in either order. -/
def Tied (k l : String) : Prop :=
  arrayIndex? k = none ∧ arrayIndex? l = none ∧ cmp k l = .eq

mutual

/-- No object has two keys that are tied. -/
def Separated : Json → Prop
  | .arr items => SeparatedItems items
  | .obj fields => (fields.Pairwise fun e e' => ¬ Tied cmp e.1 e'.1) ∧ SeparatedValues fields
  | _ => True

def SeparatedItems : List Json → Prop
  | [] => True
  | a :: as => Separated a ∧ SeparatedItems as

def SeparatedValues : List (String × Json) → Prop
  | [] => True
  | (_, a) :: as => Separated a ∧ SeparatedValues as

end

variable {cmp}

theorem stableValues_append (as bs : List (String × Json)) :
    stableValues cmp (as ++ bs) = stableValues cmp as ++ stableValues cmp bs := by
  induction as with
  | nil => rfl
  | cons e as ih =>
    obtain ⟨k, a⟩ := e
    simp only [List.cons_append, stableValues, ih]

theorem stableValues_eq_map (fields : List (String × Json)) :
    stableValues cmp fields = fields.map (Prod.map id (stable cmp)) := by
  induction fields with
  | nil => rfl
  | cons e fields ih =>
    obtain ⟨k, a⟩ := e
    simp only [stableValues, ih, List.map_cons, Prod.map_apply, id_eq]

/-- Keys stand where they stood. -/
theorem pairwise_stableValues {R : String → String → Prop} {fields : List (String × Json)} :
    ((stableValues cmp fields).Pairwise fun e e' => R e.1 e'.1) ↔
      fields.Pairwise fun e e' => R e.1 e'.1 := by
  rw [stableValues_eq_map, List.pairwise_map]
  rfl

/-! ### One text only for what is the same -/

mutual

/-- CORRECT: values with one text are the same. -/
theorem same_of_stable : ∀ (a b : Json), stable cmp a = stable cmp b → Same a b
  | .null, b, h => by
    cases b <;> simp [stable] at h
    rfl
  | .bool x, b, h => by
    cases b <;> simp [stable] at h
    simp [Same, h]
  | .num q, b, h => by
    cases b <;> simp [stable] at h
    simp [Same, h]
  | .str s, b, h => by
    cases b <;> simp [stable] at h
    simp [Same, h]
  | .arr items, b, h => by
    cases b with
    | arr items' =>
      simp only [stable, arr.injEq] at h
      exact ⟨items', rfl, sameItems_of_stable items items' h⟩
    | null | bool | num | str | obj => simp [stable] at h
  | .obj fields, b, h => by
    cases b with
    | obj fields' =>
      simp only [stable, obj.injEq] at h
      have hperm : (stableValues cmp fields).Perm (stableValues cmp fields') :=
        (List.perm_insertionSort (KeyLE cmp) _).symm.trans
          (h ▸ List.perm_insertionSort (KeyLE cmp) _)
      exact ⟨fields', rfl, sameFields_of_stable fields fields' hperm⟩
    | null | bool | num | str | arr => simp [stable] at h

theorem sameItems_of_stable : ∀ as bs : List Json,
    stableItems cmp as = stableItems cmp bs → SameItems as bs
  | [], bs, h => by
    cases bs with
    | nil => rfl
    | cons b bs => simp [stableItems] at h
  | a :: as, bs, h => by
    cases bs with
    | nil => simp [stableItems] at h
    | cons b bs =>
      simp only [stableItems, List.cons.injEq] at h
      exact ⟨b, bs, rfl, same_of_stable a b h.1, sameItems_of_stable as bs h.2⟩

theorem sameFields_of_stable : ∀ as bs : List (String × Json),
    (stableValues cmp as).Perm (stableValues cmp bs) → SameFields as bs
  | [], bs, h => by
    cases bs with
    | nil => rfl
    | cons e bs => simp [stableValues] at h
  | (k, a) :: as, bs, h => by
    have hmem : (k, stable cmp a) ∈ stableValues cmp bs := h.subset (.head _)
    rw [stableValues_eq_map, List.mem_map] at hmem
    obtain ⟨⟨l, b⟩, hb, heq⟩ := hmem
    obtain ⟨rfl, hvalue⟩ := Prod.mk.inj heq
    obtain ⟨before, after, rfl⟩ := List.append_of_mem hb
    refine ⟨b, before, after, rfl, same_of_stable a b hvalue.symm,
      sameFields_of_stable as (before ++ after) ?_⟩
    rw [stableValues_append, stableValues, stableValues] at h
    rw [stableValues_append]
    rw [hvalue] at h
    exact (List.perm_cons _).1 (h.trans List.perm_middle)

end

/-! ### Orders of keys -/

theorem mayPrecede_ne {k l : String} (h : MayPrecede k l) : k ≠ l := by
  rintro rfl
  unfold MayPrecede at h
  cases hk : arrayIndex? k <;> simp [hk] at h

/-- Keys that may stand in either order are no array indices. -/
theorem mayPrecede_both {k l : String} (h : MayPrecede k l) (h' : MayPrecede l k) :
    arrayIndex? k = none ∧ arrayIndex? l = none := by
  unfold MayPrecede at h h'
  cases hk : arrayIndex? k <;> cases hl : arrayIndex? l <;> simp [hk, hl] at h h'
  · exact ⟨rfl, rfl⟩
  · omega

theorem mayPrecede_iff {k l : String} (hk : arrayIndex? k = none) (hl : arrayIndex? l = none) :
    MayPrecede k l ↔ k ≠ l := by
  simp [MayPrecede, hk, hl]

/-- After a key that is no array index there is none. -/
theorem mayPrecede_none {k l : String} (h : MayPrecede k l) (hk : arrayIndex? k = none) :
    arrayIndex? l = none := by
  unfold MayPrecede at h
  cases hl : arrayIndex? l with
  | none => rfl
  | some n => simp [hk, hl] at h

theorem nodup_of_mayPrecede {fields : List (String × Json)}
    (h : fields.Pairwise fun e e' => MayPrecede e.1 e'.1) : (fields.map Prod.fst).Nodup := by
  rw [List.Nodup, List.pairwise_map]
  exact h.imp mayPrecede_ne

theorem ownValues_iff {fields : List (String × Json)} :
    OwnValues fields ↔ ∀ e ∈ fields, Own e.2 := by
  induction fields with
  | nil => simp [OwnValues]
  | cons e fields ih =>
    obtain ⟨k, a⟩ := e
    simp [OwnValues, ih]

section

variable [Std.TransCmp cmp]

instance : Std.Total (KeyLE cmp) where
  total a b := by
    by_cases h : cmp a.1 b.1 = .gt
    · refine .inr fun h' => ?_
      rw [Std.OrientedCmp.gt_iff_lt] at h h'
      exact absurd h' (Std.OrientedCmp.not_lt_of_lt h)
    · exact .inl h

instance : IsTrans (String × Json) (KeyLE cmp) where
  trans _ _ _ hab hbc :=
    Ordering.isLE_iff_ne_gt.1
      (Std.TransCmp.isLE_trans (Ordering.isLE_iff_ne_gt.2 hab) (Ordering.isLE_iff_ne_gt.2 hbc))

theorem keyLE_both {e e' : String × Json} (h : KeyLE cmp e e') (h' : KeyLE cmp e' e) :
    cmp e.1 e'.1 = .eq := by
  unfold KeyLE at h h'
  rw [ne_eq, Std.OrientedCmp.gt_iff_lt] at h'
  cases hcmp : cmp e.1 e'.1 with
  | lt => exact absurd hcmp h'
  | eq => rfl
  | gt => exact absurd hcmp h

theorem tied_symm {k l : String} (h : Tied cmp k l) : Tied cmp l k :=
  ⟨h.2.1, h.1, Std.OrientedCmp.eq_symm h.2.2⟩

/-- Sorted fields stand in the order of their keys, and those that are tied as they stood. -/
theorem pairwise_sorted {fields : List (String × Json)}
    (h : fields.Pairwise fun e e' => MayPrecede e.1 e'.1) :
    (fields.insertionSort (KeyLE cmp)).Pairwise fun e e' =>
      KeyLE cmp e e' ∧ (cmp e.1 e'.1 = .eq → MayPrecede e.1 e'.1) := by
  have hperm := List.perm_insertionSort (KeyLE cmp) fields
  have hnodup : fields.Nodup := (nodup_of_mayPrecede h).of_map
  have hsorted := List.pairwise_insertionSort (KeyLE cmp) fields
  refine List.pairwise_iff_forall_sublist.2 fun {x y} hxy => ?_
  refine ⟨List.pairwise_iff_forall_sublist.1 hsorted hxy, fun htie => ?_⟩
  have hx : x ∈ fields := hperm.subset (hxy.subset (by simp))
  have hy : y ∈ fields := hperm.subset (hxy.subset (by simp))
  have hsnodup := hperm.nodup_iff.2 hnodup
  have hne : x ≠ y := by
    rintro rfl
    exact not_pair_sublist_both hsnodup hxy hxy
  rcases pair_sublist_or hne hx hy with hord | hord
  · exact List.pairwise_iff_forall_sublist.1 h hord
  · have hle : KeyLE cmp y x := by
      rw [KeyLE, Std.OrientedCmp.eq_symm htie]
      decide
    exact absurd (List.pair_sublist_insertionSort hle hord) (not_pair_sublist_both hsnodup hxy)

/-- Fields with separated keys have one sorted list, whatever the order they stand in. -/
theorem insertionSort_eq {as bs : List (String × Json)} (hperm : as.Perm bs)
    (has : as.Pairwise fun e e' => MayPrecede e.1 e'.1)
    (hbs : bs.Pairwise fun e e' => MayPrecede e.1 e'.1)
    (hsep : as.Pairwise fun e e' => ¬ Tied cmp e.1 e'.1) :
    as.insertionSort (KeyLE cmp) = bs.insertionSort (KeyLE cmp) := by
  have hpa := List.perm_insertionSort (KeyLE cmp) as
  have hpb := List.perm_insertionSort (KeyLE cmp) bs
  refine (hpa.trans (hperm.trans hpb.symm)).eq_of_pairwise ?_ (pairwise_sorted has)
    (pairwise_sorted hbs)
  rintro x y hx hy ⟨hxy, hxy'⟩ ⟨hyx, hyx'⟩
  have htie := keyLE_both hxy hyx
  obtain ⟨hx', hy'⟩ := mayPrecede_both (hxy' htie) (hyx' (Std.OrientedCmp.eq_symm htie))
  have htied : Tied cmp x.1 y.1 := ⟨hx', hy', htie⟩
  by_contra hne
  have hmx : x ∈ as := hpa.subset hx
  have hmy : y ∈ as := hperm.symm.subset (hpb.subset hy)
  rcases pair_sublist_or hne hmx hmy with hord | hord
  · exact List.pairwise_iff_forall_sublist.1 hsep hord htied
  · exact List.pairwise_iff_forall_sublist.1 hsep hord (tied_symm htied)

end

mutual

/-- CORRECT: values that are the same have one text when no keys of the one are tied. -/
theorem stable_eq_of_same [Std.TransCmp cmp] : ∀ a b : Json, Same a b → Own a → Own b →
    Separated cmp a → stable cmp a = stable cmp b
  | .null, _, h, _, _, _ | .bool _, _, h, _, _, _ | .num _, _, h, _, _, _
  | .str _, _, h, _, _, _ => by rw [h]
  | .arr items, _, ⟨items', rfl, h⟩, ha, hb, hsep => by
    rw [stable, stable, stableItems_eq_of_same items items' h ha hb hsep]
  | .obj fields, _, ⟨fields', rfl, h⟩, ha, hb, hsep => by
    have hperm := stableValues_perm_of_same fields fields' h ha.2 hb.2 hsep.2
    rw [stable, stable, insertionSort_eq hperm (pairwise_stableValues.2 ha.1)
      (pairwise_stableValues.2 hb.1)
      (pairwise_stableValues (R := fun k l => ¬ Tied cmp k l) |>.2 hsep.1)]

theorem stableItems_eq_of_same [Std.TransCmp cmp] : ∀ as bs : List Json, SameItems as bs →
    OwnItems as → OwnItems bs → SeparatedItems cmp as → stableItems cmp as = stableItems cmp bs
  | [], _, h, _, _, _ => by rw [h]
  | a :: as, _, ⟨b, bs, rfl, hab, h⟩, ha, hb, hsep => by
    rw [stableItems, stableItems, stable_eq_of_same a b hab ha.1 hb.1 hsep.1,
      stableItems_eq_of_same as bs h ha.2 hb.2 hsep.2]

theorem stableValues_perm_of_same [Std.TransCmp cmp] : ∀ as bs : List (String × Json),
    SameFields as bs → OwnValues as → OwnValues bs → SeparatedValues cmp as →
    (stableValues cmp as).Perm (stableValues cmp bs)
  | [], _, h, _, _, _ => by rw [h]
  | (k, a) :: as, _, ⟨b, before, after, rfl, hab, h⟩, ha, hb, hsep => by
    rw [ownValues_iff] at hb
    have hvalue := stable_eq_of_same a b hab ha.1 (hb (k, b) (by simp)) hsep.1
    have hrest := stableValues_perm_of_same as (before ++ after) h ha.2
      (ownValues_iff.2 fun e he => hb e (by
        simp only [List.mem_append, List.mem_cons] at he ⊢
        tauto)) hsep.2
    rw [stableValues_append] at hrest
    rw [stableValues, stableValues_append, stableValues, hvalue]
    exact (hrest.cons _).trans List.perm_middle.symm

end

/-! ### Tied keys can be told apart by the text -/

mutual

theorem Same.refl : ∀ a : Json, Same a a
  | .null | .bool _ | .num _ | .str _ => rfl
  | .arr items => ⟨items, rfl, SameItems.refl items⟩
  | .obj fields => ⟨fields, rfl, SameFields.refl fields⟩

theorem SameItems.refl : ∀ as : List Json, SameItems as as
  | [] => rfl
  | a :: as => ⟨a, as, rfl, Same.refl a, SameItems.refl as⟩

theorem SameFields.refl : ∀ as : List (String × Json), SameFields as as
  | [] => rfl
  | (_, a) :: as => ⟨a, [], as, rfl, Same.refl a, SameFields.refl as⟩

end

theorem sameFields_of_perm : ∀ {as bs : List (String × Json)}, as.Perm bs → SameFields as bs
  | [], _, h => h.symm.eq_nil
  | (k, a) :: as, bs, h => by
    obtain ⟨before, after, rfl⟩ := List.append_of_mem (h.subset (.head _))
    exact ⟨a, before, after, rfl, Same.refl a,
      sameFields_of_perm ((List.perm_cons _).1 (h.trans List.perm_middle))⟩

theorem sameFields_replace {k : String} {a b : Json} (h : Same a b)
    (post : List (String × Json)) : ∀ pre : List (String × Json),
    SameFields (pre ++ (k, a) :: post) (pre ++ (k, b) :: post)
  | [] => ⟨b, [], post, rfl, h, SameFields.refl post⟩
  | (_, c) :: pre => ⟨c, [], _, rfl, Same.refl c, sameFields_replace h post pre⟩

/-- Keys that are no array indices may be put in any order. -/
theorem mayPrecede_reorder {p r r' : List (String × Json)} (hperm : r.Perm r')
    (hnone : ∀ e ∈ r, arrayIndex? e.1 = none)
    (h : (p ++ r).Pairwise fun e e' => MayPrecede e.1 e'.1) :
    (p ++ r').Pairwise fun e e' => MayPrecede e.1 e'.1 := by
  rw [List.pairwise_append] at h ⊢
  obtain ⟨hp, hr, hpr⟩ := h
  refine ⟨hp, ?_, fun a ha b hb => hpr a ha b (hperm.symm.subset hb)⟩
  have hne : r'.Pairwise fun e e' => e.1 ≠ e'.1 :=
    (hperm.pairwise_iff Ne.symm).1 (hr.imp mayPrecede_ne)
  refine hne.imp_of_mem fun {e e'} he he' hne => ?_
  exact (mayPrecede_iff (hnone e (hperm.symm.subset he)) (hnone e' (hperm.symm.subset he'))).2 hne

theorem stableValues_nodup {fields : List (String × Json)}
    (h : fields.Pairwise fun e e' => MayPrecede e.1 e'.1) :
    ((stableValues cmp fields).map Prod.fst).Nodup :=
  nodup_of_mayPrecede (pairwise_stableValues.2 h)

/-- A value under a key with another text shows in the text of the object. -/
theorem stable_value_eq {k : String} {a b : Json} {pre post : List (String × Json)}
    (hown : (pre ++ (k, a) :: post).Pairwise fun e e' => MayPrecede e.1 e'.1)
    (h : stable cmp (.obj (pre ++ (k, a) :: post)) = stable cmp (.obj (pre ++ (k, b) :: post))) :
    stable cmp a = stable cmp b := by
  simp only [stable, obj.injEq] at h
  have hperm := (List.perm_insertionSort (KeyLE cmp) (stableValues cmp (pre ++ (k, a) :: post)))
  rw [h] at hperm
  have hmem : (k, stable cmp b) ∈ stableValues cmp (pre ++ (k, a) :: post) := by
    refine ((List.perm_insertionSort (KeyLE cmp) _).symm.trans hperm).subset ?_
    simp [stableValues_append, stableValues]
  have hmem' : (k, stable cmp a) ∈ stableValues cmp (pre ++ (k, a) :: post) := by
    simp [stableValues_append, stableValues]
  have heq := List.inj_on_of_nodup_map (stableValues_nodup hown) hmem' hmem rfl
  exact (Prod.mk.inj heq).2

/-- Two tied fields of an object can be swapped, and the text shows it. -/
theorem not_tied_of_stable [Std.TransCmp cmp] {fields : List (String × Json)}
    (hown : Own (.obj fields))
    (h : ∀ b, Own b → Same (.obj fields) b → stable cmp (.obj fields) = stable cmp b)
    {x y : String × Json} (hxy : [x, y].Sublist fields) : ¬ Tied cmp x.1 y.1 := by
  intro htie
  obtain ⟨p, q, rfl, hx, hq⟩ := List.cons_sublist_iff.1 hxy
  obtain ⟨p, q₁, rfl⟩ := List.append_of_mem hx
  obtain ⟨q₂, post, rfl⟩ := List.append_of_mem (List.singleton_sublist.1 hq)
  have hfields : p ++ x :: q₁ ++ (q₂ ++ y :: post) = p ++ (x :: (q₁ ++ q₂ ++ y :: post)) := by
    simp
  rw [hfields] at hown h hxy
  have hperm : (x :: (q₁ ++ q₂ ++ y :: post)).Perm (y :: x :: (q₁ ++ q₂ ++ post)) :=
    (List.perm_middle.cons x).trans (.swap _ _ _)
  have hnone : ∀ e ∈ x :: (q₁ ++ q₂ ++ y :: post), arrayIndex? e.1 = none := by
    intro e he
    rcases List.mem_cons.1 he with rfl | he
    · exact htie.1
    · exact mayPrecede_none
        (List.rel_of_pairwise_cons (List.pairwise_append.1 hown.1).2.1 he) htie.1
  have hreorder := mayPrecede_reorder hperm hnone hown.1
  have hvalues : OwnValues (p ++ (y :: x :: (q₁ ++ q₂ ++ post))) := by
    have hvalues := ownValues_iff.1 hown.2
    exact ownValues_iff.2 fun e he => hvalues e ((hperm.append_left p).symm.subset he)
  have heq := h (.obj _) ⟨hreorder, hvalues⟩
    ⟨_, rfl, sameFields_of_perm (hperm.append_left p)⟩
  simp only [stable, obj.injEq] at heq
  -- both orders of the two fields survive the sort, which keeps ties as they stood
  let x' := Prod.map id (stable cmp) x
  let y' := Prod.map id (stable cmp) y
  have hle : KeyLE cmp x' y' ∧ KeyLE cmp y' x' := by
    constructor
    · rw [KeyLE, show cmp x'.1 y'.1 = .eq from htie.2.2]
      decide
    · rw [KeyLE, show cmp y'.1 x'.1 = .eq from Std.OrientedCmp.eq_symm htie.2.2]
      decide
  have hfst : [x', y'].Sublist (stableValues cmp (p ++ (x :: (q₁ ++ q₂ ++ y :: post)))) := by
    rw [stableValues_eq_map]
    exact hxy.map (Prod.map id (stable cmp))
  have hsnd : [y', x'].Sublist (stableValues cmp (p ++ (y :: x :: (q₁ ++ q₂ ++ post)))) := by
    rw [stableValues_eq_map]
    have hyx : [y, x].Sublist (p ++ (y :: x :: (q₁ ++ q₂ ++ post))) :=
      (((List.nil_sublist _).cons_cons x).cons_cons y).trans (List.sublist_append_right _ _)
    exact hyx.map (Prod.map id (stable cmp))
  have hnodup := (List.perm_insertionSort (KeyLE cmp) _).nodup_iff.2
    (@stableValues_nodup cmp _ hown.1).of_map
  have hswapped := List.pair_sublist_insertionSort hle.2 hsnd
  rw [← heq] at hswapped
  exact not_pair_sublist_both hnodup (List.pair_sublist_insertionSort hle.1 hfst) hswapped

mutual

/-- NOT SO: a value with tied keys has one of the same content with another text. -/
theorem separated_of_stable [Std.TransCmp cmp] : ∀ a : Json, Own a →
    (∀ b, Own b → Same a b → stable cmp a = stable cmp b) → Separated cmp a
  | .null, _, _ | .bool _, _, _ | .num _, _, _ | .str _, _, _ => trivial
  | .arr items, hown, h => by
    refine separatedItems_of_stable items hown fun bs hbs hsame => ?_
    have := h (.arr bs) hbs ⟨bs, rfl, hsame⟩
    simpa [stable] using this
  | .obj fields, hown, h => by
    refine ⟨List.pairwise_iff_forall_sublist.2 fun hxy => not_tied_of_stable hown h hxy, ?_⟩
    refine separatedValues_of_stable fields hown.2 fun pre k a post b heq hb hsame => ?_
    subst heq
    refine stable_value_eq hown.1 (h _ ⟨?_, ?_⟩ ⟨_, rfl, sameFields_replace hsame post pre⟩)
    · have hkeys : (pre ++ (k, a) :: post).map Prod.fst = (pre ++ (k, b) :: post).map Prod.fst := by
        simp
      have := hown.1
      rw [← List.pairwise_map (f := Prod.fst) (R := MayPrecede)] at this ⊢
      rwa [hkeys] at this
    · have hvalues := hown.2
      rw [ownValues_iff] at hvalues ⊢
      simp only [List.mem_append, List.mem_cons] at hvalues ⊢
      rintro e (he | rfl | he)
      · exact hvalues e (.inl he)
      · exact hb
      · exact hvalues e (.inr (.inr he))

theorem separatedItems_of_stable [Std.TransCmp cmp] : ∀ as : List Json, OwnItems as →
    (∀ bs, OwnItems bs → SameItems as bs → stableItems cmp as = stableItems cmp bs) →
    SeparatedItems cmp as
  | [], _, _ => trivial
  | a :: as, hown, h => by
    refine ⟨separated_of_stable a hown.1 fun b hb hsame => ?_,
      separatedItems_of_stable as hown.2 fun bs hbs hsame => ?_⟩
    · have := h (b :: as) ⟨hb, hown.2⟩ ⟨b, as, rfl, hsame, SameItems.refl as⟩
      simp only [stableItems, List.cons.injEq, and_true] at this
      exact this
    · have := h (a :: bs) ⟨hown.1, hbs⟩ ⟨a, bs, rfl, Same.refl a, hsame⟩
      simpa [stableItems] using this

theorem separatedValues_of_stable [Std.TransCmp cmp] : ∀ as : List (String × Json),
    OwnValues as →
    (∀ pre k a post b, as = pre ++ (k, a) :: post → Own b → Same a b →
      stable cmp a = stable cmp b) →
    SeparatedValues cmp as
  | [], _, _ => trivial
  | (k, a) :: as, hown, h => by
    refine ⟨separated_of_stable a hown.1 fun b hb hsame => h [] k a as b rfl hb hsame,
      separatedValues_of_stable as hown.2 fun pre l c post b heq hb hsame => ?_⟩
    exact h ((k, a) :: pre) l c post b (by rw [heq, List.cons_append]) hb hsame

end

/-- EXACT: all values that are the same have one text exactly when no two keys are tied. -/
theorem stable_eq_iff_separated [Std.TransCmp cmp] {a : Json} (ha : Own a) :
    (∀ b, Own b → Same a b → stable cmp a = stable cmp b) ↔ Separated cmp a :=
  ⟨separated_of_stable a ha, fun hsep b hb hsame => stable_eq_of_same a b hsame ha hb hsep⟩

end Json
