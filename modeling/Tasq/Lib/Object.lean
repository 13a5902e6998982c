import Mathlib.Tactic
import Tasq.Lib.Shape
import Tasq.Lib.Size

/-! Objects known by their properties: two objects with the same values under the same keys, up to
    the order of keys, have one canonical form. So a strict shape keeps all of what it reads. -/

namespace Json

/-- Canonical order depends on what the fields are, not on their order. -/
theorem sortFields_eq {α : Type*} {fields others : List (String × α)} (h : fields.Perm others)
    (hnodup : (fields.map Prod.fst).Nodup) : sortFields fields = sortFields others := by
  have hperm : (sortFields fields).Perm (sortFields others) :=
    ((sortFields_perm _).trans h).trans (sortFields_perm _).symm
  refine hperm.eq_of_pairwise ?_ (List.pairwise_insertionSort _ _) (List.pairwise_insertionSort _ _)
  intro a b ha hb hab hba
  have ha : a ∈ fields := (sortFields_perm _).mem_iff.1 ha
  have hb : b ∈ fields := h.mem_iff.2 ((sortFields_perm _).mem_iff.1 hb)
  exact List.inj_on_of_nodup_map hnodup ha hb (keyRank_injective (le_antisymm hab hba))

theorem keys_canonicalValues (fields : List (String × Json)) :
    (canonicalValues fields).map Prod.fst = fields.map Prod.fst := by
  rw [canonicalValues_eq_map, List.map_map]
  rfl

theorem nodup_of_distinct {fields : List (String × Json)} (h : (obj fields).distinct = true) :
    (fields.map Prod.fst).Nodup := by
  rw [distinct, Bool.and_eq_true, decide_eq_true_eq] at h
  exact h.1

/-- EXACT: objects have one canonical form exactly when their properties have. -/
theorem canonical_obj_iff {fields others : List (String × Json)}
    (hf : (obj fields).distinct = true) (hg : (obj others).distinct = true) :
    (obj fields).canonical = (obj others).canonical ↔
      ∀ key, (fields.lookup key).map canonical = (others.lookup key).map canonical := by
  constructor
  · intro h key
    have hproperty := property_canonical hf key
    rw [h, property_canonical hg] at hproperty
    exact hproperty.symm
  · intro h
    have hnodup := nodup_of_distinct hf
    have hnodup' := nodup_of_distinct hg
    rw [← keys_canonicalValues] at hnodup hnodup'
    have hperm : (canonicalValues fields).Perm (canonicalValues others) := by
      refine (List.perm_ext_iff_of_nodup hnodup.of_map hnodup'.of_map).2 fun f => ?_
      rw [← @lookup_eq_some _ _ hnodup f.1 f.2,
        ← @lookup_eq_some _ _ hnodup' f.1 f.2, lookup_canonicalValues,
        lookup_canonicalValues, h]
    rw [canonical, canonical, sortFields_eq hperm hnodup]

/-- CORRECT: a strict shape that reads every property of an object keeps the object. -/
theorem canonical_of_shape {v : Json} {entries : List (String × Option Json)}
    (hv : v.distinct = true) (hentries : (obj (present entries)).distinct = true)
    (hnodup : (entries.map Prod.fst).Nodup) (hkeys : hasOnly (entries.map Prod.fst) v = true)
    (h : ∀ e ∈ entries, (property v e.1).map canonical = e.2.map canonical) :
    v.canonical = (obj (present entries)).canonical := by
  cases v with
  | obj fields =>
    rw [canonical_obj_iff hv hentries]
    intro key
    rw [lookup_present hnodup]
    cases hlookup : entries.lookup key with
    | some a => exact h (key, a) ((lookup_eq_some hnodup).1 hlookup)
    | none =>
      -- A key outside of the shape is no key of the object.
      have hnone : fields.lookup key = none := by
        rw [List.lookup_eq_none_iff]
        intro f hf
        rw [bne_iff_ne]
        rintro rfl
        rw [hasOnly, List.all_eq_true] at hkeys
        obtain ⟨e, he, hkey⟩ := List.mem_map.1 (of_decide_eq_true (hkeys f hf))
        rw [List.lookup_eq_none_iff] at hlookup
        exact bne_iff_ne.1 (hlookup e he) hkey.symm
      rw [hnone]
      rfl
  | null | bool | num | str | arr => cases hkeys

/-! ### A bound of the bytes by lengths -/

mutual

/-- The bytes of the canonical text when every character were escaped. -/
def weight : Json → ℕ
  | null => 4
  | bool _ => 5
  | num q => bytes (serialize (num q))
  | str s => 2 + 6 * s.length
  | arr items => 2 + weightItems items
  | obj fields => 2 + weightFields fields

def weightItems : List Json → ℕ
  | [] => 0
  | a :: items => 1 + weight a + weightItems items

def weightFields : List (String × Json) → ℕ
  | [] => 0
  | (k, a) :: fields => 4 + 6 * k.length + weight a + weightFields fields

end

theorem bytes_escape_le (c : Char) : bytes (escape c) ≤ 6 := by
  have hsmall (n : ℕ) (hn : n < 0x80) : (Char.ofNat n).utf8Size = 1 := by
    revert n
    decide
  unfold escape
  split
  · rename_i letter hlookup
    have hmem : ∀ e ∈ shortEscapes, e.2 < 0x80 := by decide
    obtain ⟨before, after, hsplit, -⟩ := List.lookup_eq_some_iff.1 hlookup
    have hletter := hmem (c.toNat, letter) (hsplit ▸ List.mem_append_right _ List.mem_cons_self)
    simp only [bytes, List.map_cons, List.map_nil, List.sum_cons, List.sum_nil,
      hsmall _ hletter, hsmall 0x5C (by decide)]
    omega
  · split
    · have hdigit (n : ℕ) (hn : n < 16) : (hexDigit n).utf8Size = 1 := by
        revert n
        decide
      have hu : 'u'.utf8Size = 1 := by decide
      have hzero : '0'.utf8Size = 1 := by decide
      rename_i hcontrol
      simp only [bytes, List.map_cons, List.map_nil, List.sum_cons, List.sum_nil, hu, hzero,
        hdigit (c.toNat / 16) (by omega), hdigit (c.toNat % 16) (by omega),
        hsmall 0x5C (by decide)]
      omega
    · have hsize := c.utf8Size_le_four
      simp only [bytes, List.map_cons, List.map_nil, List.sum_cons, List.sum_nil]
      omega

theorem bytes_quote_le (s : String) : bytes (quote s) ≤ 2 + 6 * s.length := by
  have hall (cs : List Char) : bytes (cs.flatMap escape) ≤ 6 * cs.length := by
    induction cs with
    | nil => rfl
    | cons c cs ih =>
      have hc := bytes_escape_le c
      rw [List.flatMap_cons, bytes_append, List.length_cons]
      omega
  have hs := hall s.toList
  have hquotes : (Char.ofNat 0x22).utf8Size = 1 := by decide
  rw [String.length_toList] at hs
  rw [quote, bytes_cons, bytes_append, bytes_cons, bytes_nil, hquotes]
  omega

mutual

/-- The bytes of a text are at most its weight. -/
theorem bytes_le_weight : ∀ v : Json, bytes (serialize v) ≤ weight v
  | .null => by decide
  | .bool true => by decide
  | .bool false => by decide
  | .num _ => le_refl _
  | .str s => bytes_quote_le s
  | .arr items => by
    have hsize := congrArg Size.bytes (size_arr items)
    have hitems := bytes_le_weightItems items
    simp only [size, sizeItems, List.map_map, Function.comp_def, List.length_map] at hsize
    rw [hsize, weight]
    omega
  | .obj fields => by
    have hsize := congrArg Size.bytes (size_obj fields)
    have hfields := bytes_le_weightFields fields
    simp only [size, sizeFields, List.map_map, Function.comp_def, List.length_map, Prod.map_fst,
      Prod.map_snd, id_eq] at hsize
    rw [hsize, weight]
    omega

theorem bytes_le_weightItems : ∀ items : List Json,
    (items.map fun a => bytes (serialize a)).sum + items.length ≤ weightItems items
  | [] => le_refl _
  | a :: items => by
    have ha := bytes_le_weight a
    have hitems := bytes_le_weightItems items
    rw [List.map_cons, List.sum_cons, List.length_cons, weightItems]
    omega

theorem bytes_le_weightFields : ∀ fields : List (String × Json),
    (fields.map fun f => bytes (quote f.1) + 1 + bytes (serialize f.2)).sum + fields.length ≤
      weightFields fields
  | [] => le_refl _
  | (k, a) :: fields => by
    have hk := bytes_quote_le k
    have ha := bytes_le_weight a
    have hfields := bytes_le_weightFields fields
    simp only [List.map_cons, List.sum_cons, List.length_cons, weightFields]
    omega

end

end Json
