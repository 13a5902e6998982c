import Mathlib.Tactic
import Tasq.Lib.Size
import Tasq.Lib.Stable

/-! `JSON.stringify`, which keeps the fields of an object in the order the object has them.

    What it writes of a value with safe numbers reads back as the value, so two values have one text
    exactly when they are equal. -/

namespace Json

mutual

/-- `JSON.stringify(value)`; its numbers are taken to be integers. -/
def stringify : Json → List Char
  | .null => "null".toList
  | .bool b => (if b then "true" else "false").toList
  | .num q => (toString q.num).toList
  | .str s => quote s
  | .arr items => '[' :: (commaJoin (stringifyItems items) ++ [']'])
  | .obj fields =>
    Char.ofNat 0x7B :: (commaJoin ((stringifyFields fields).map fieldText) ++ [Char.ofNat 0x7D])

def stringifyItems : List Json → List (List Char)
  | [] => []
  | a :: as => stringify a :: stringifyItems as

def stringifyFields : List (String × Json) → List (String × List Char)
  | [] => []
  | (k, a) :: as => (k, stringify a) :: stringifyFields as

end

theorem stringifyItems_eq (items : List Json) : stringifyItems items = items.map stringify := by
  induction items with
  | nil => rfl
  | cons a items ih => rw [stringifyItems, ih, List.map_cons]

theorem stringifyFields_eq (fields : List (String × Json)) :
    stringifyFields fields = fields.map (Prod.map id stringify) := by
  induction fields with
  | nil => rfl
  | cons field fields ih => rw [stringifyFields, ih, List.map_cons, Prod.map_apply, id_eq]

/-- No value starts with white space or with a closing bracket. -/
theorem stringify_head (v : Json) :
    ∃ c cs, stringify v = c :: cs ∧ isSpace c = false ∧ c.toNat ≠ 0x5D := by
  cases v with
  | null => exact ⟨'n', _, rfl, by decide, by decide⟩
  | bool b => cases b <;> exact ⟨_, _, rfl, by decide, by decide⟩
  | num q =>
    obtain ⟨c, cs, htext, hspace, hclose, -⟩ := toString_head q.num
    exact ⟨c, cs, htext, hspace, hclose⟩
  | str s => exact ⟨_, _, rfl, by decide, by decide⟩
  | arr items => exact ⟨_, _, rfl, by decide, by decide⟩
  | obj fields => exact ⟨_, _, rfl, by decide, by decide⟩

/-! ### The order of an object -/

/-- Keys that are no array indices may stand in any order. -/
theorem mayPrecede_of_names {fields : List (String × Json)} (keys : List String)
    (hkeys : fields.map Prod.fst = keys) (hnames : ∀ k ∈ keys, arrayIndex? k = none)
    (hnodup : keys.Nodup) : fields.Pairwise fun e e' => MayPrecede e.1 e'.1 := by
  subst hkeys
  rw [List.Nodup, List.pairwise_map] at hnodup
  refine List.Pairwise.imp_of_mem ?_ hnodup
  intro e e' he he' hne
  rw [MayPrecede, hnames _ (List.mem_map_of_mem he), hnames _ (List.mem_map_of_mem he')]
  exact hne

theorem fieldLE_of_mayPrecede {e e' : String × Json} (h : MayPrecede e.1 e'.1)
    (he : (arrayIndex? e.1).isSome) (he' : (arrayIndex? e'.1).isSome) : fieldLE e e' := by
  obtain ⟨m, hm⟩ := Option.isSome_iff_exists.1 he
  obtain ⟨n, hn⟩ := Option.isSome_iff_exists.1 he'
  rw [MayPrecede, hm, hn] at h
  rw [fieldLE, keyRank, keyRank, hm, hn]
  exact Prod.Lex.toLex_le_toLex.2 (.inr ⟨rfl, Prod.Lex.toLex_le_toLex.2 (.inl h)⟩)

theorem sortFields_of_mayPrecede {fields : List (String × Json)}
    (h : fields.Pairwise fun e e' => MayPrecede e.1 e'.1) :
    sortFields (fields.filter fun f => (arrayIndex? f.1).isSome) =
      fields.filter fun f => (arrayIndex? f.1).isSome := by
  refine List.Pairwise.insertionSort_eq (List.Pairwise.imp_of_mem ?_ (h.filter _))
  intro e e' he he' hprecede
  exact fieldLE_of_mayPrecede hprecede (List.mem_filter.1 he).2 (List.mem_filter.1 he').2

/-- Fields in an order that an object can have are kept in it. -/
theorem ownOrder_of_mayPrecede {fields : List (String × Json)}
    (h : fields.Pairwise fun e e' => MayPrecede e.1 e'.1) : ownOrder fields = fields := by
  rw [ownOrder, sortFields_of_mayPrecede h]
  induction fields with
  | nil => rfl
  | cons e fields ih =>
    rw [List.pairwise_cons] at h
    have hrest := ih h.2
    cases hindex : arrayIndex? e.1 with
    | some n =>
      rw [List.filter_cons_of_pos (by simp [hindex]), List.filter_cons_of_neg (by simp [hindex]),
        List.cons_append, hrest]
    | none =>
      -- Behind a key that is no array index there is none.
      have hnone : ∀ e' ∈ fields, (arrayIndex? e'.1).isNone := by
        intro e' he'
        have hprecede := h.1 e' he'
        rw [MayPrecede, hindex] at hprecede
        cases hindex' : arrayIndex? e'.1 with
        | none => rfl
        | some n => exact (by simp [hindex'] at hprecede)
      have hempty : fields.filter (fun f => (arrayIndex? f.1).isSome) = [] := by
        rw [List.filter_eq_nil_iff]
        intro e' he'
        simpa using hnone e' he'
      rw [List.filter_cons_of_neg (by simp [hindex]), List.filter_cons_of_pos (by simp [hindex]),
        hempty, List.nil_append, List.filter_eq_self.2 hnone]

/-! ### Reading back -/

theorem reads_stringify_arr {items : List Json} (h : ∀ a ∈ items, Reads (stringify a) a) :
    Reads (stringify (.arr items)) (.arr items) := by
  have hread := @reads_brackets (items.map fun a => (stringify a, a)) (by simpa using h)
    (by simpa using fun a _ => stringify_head a)
  simp only [List.map_map, Function.comp_def, List.map_id'] at hread
  rw [stringify, stringifyItems_eq]
  exact hread

theorem reads_stringify_obj {fields : List (String × Json)}
    (hown : fields.Pairwise fun e e' => MayPrecede e.1 e'.1)
    (h : ∀ f ∈ fields, Reads (stringify f.2) f.2) :
    Reads (stringify (.obj fields)) (.obj fields) := by
  have hread := @reads_braces (fields.map fun f => (f.1, stringify f.2, f.2)) (by
    intro part hpart
    obtain ⟨f, hf, rfl⟩ := List.mem_map.1 hpart
    exact h f hf)
  have hfields : ofFields fields = .obj fields := by
    rw [ofFields, foldl_assign [] _ (nodup_of_mayPrecede hown), List.nil_append,
      ownOrder_of_mayPrecede hown]
  simp only [List.map_map, Function.comp_def, List.map_id'] at hread
  rw [hfields] at hread
  rw [stringify, stringifyFields_eq, List.map_map]
  exact hread

mutual

theorem reads_stringify : ∀ {v : Json}, v.safe = true → Own v → Reads (stringify v) v
  | .null, _, _ => reads_null
  | .bool b, _, _ => reads_bool b
  | .num _, hs, _ => reads_num hs
  | .str s, _, _ => reads_str s
  | .arr _, hs, ho => reads_stringify_arr (reads_stringifyItems hs ho)
  | .obj _, hs, ho => reads_stringify_obj ho.1 (reads_stringifyFields hs ho.2)

theorem reads_stringifyItems : ∀ {items : List Json}, safeItems items = true → OwnItems items →
    ∀ a ∈ items, Reads (stringify a) a
  | [], _, _, _, h => absurd h List.not_mem_nil
  | b :: items, hs, ho, a, h => by
    rw [safeItems, Bool.and_eq_true] at hs
    rcases List.mem_cons.1 h with heq | h
    · rw [heq]
      exact reads_stringify hs.1 ho.1
    · exact reads_stringifyItems hs.2 ho.2 a h

theorem reads_stringifyFields : ∀ {fields : List (String × Json)}, safeValues fields = true →
    OwnValues fields → ∀ f ∈ fields, Reads (stringify f.2) f.2
  | [], _, _, _, h => absurd h List.not_mem_nil
  | (k, b) :: fields, hs, ho, f, h => by
    rw [safeValues, Bool.and_eq_true] at hs
    rcases List.mem_cons.1 h with heq | h
    · rw [heq]
      exact reads_stringify hs.1 ho.1
    · exact reads_stringifyFields hs.2 ho.2 f h

end

/-- CORRECT: `JSON.parse` reads back what `JSON.stringify` writes. -/
theorem parse_stringify {v : Json} (hs : v.safe = true) (ho : Own v) :
    parse (stringify v) = some v := by
  have hread := reads_stringify hs ho (2 * (stringify v).length + 1) [] (by omega) trivial
  rw [List.append_nil] at hread
  rw [parse, hread]
  rfl

/-- EXACT: two values have one text exactly when they are equal. -/
theorem stringify_eq_iff {v w : Json} (hv : v.safe = true) (hvo : Own v) (hw : w.safe = true)
    (hwo : Own w) : stringify v = stringify w ↔ v = w := by
  constructor
  · intro h
    have hread := parse_stringify hv hvo
    rw [h, parse_stringify hw hwo] at hread
    exact (Option.some_inj.1 hread).symm
  · exact congrArg stringify

/-! ### Lengths -/

theorem bytes_braces {fields others : List (String × List Char)}
    (h : (fields.map (Prod.map id bytes)).Perm (others.map (Prod.map id bytes))) :
    bytes (commaJoin (fields.map fieldText)) = bytes (commaJoin (others.map fieldText)) := by
  have htexts : ((fields.map fieldText).map bytes).Perm ((others.map fieldText).map bytes) := by
    have hmap := h.map fun f => bytes (quote f.1) + 1 + f.2
    simpa only [List.map_map, Function.comp_def, Prod.map_fst, Prod.map_snd, id_eq,
      bytes_fieldText] using hmap
  rw [bytes_commaJoin, bytes_commaJoin, htexts.sum_eq, List.length_map, List.length_map]
  have hlength := h.length_eq
  rw [List.length_map, List.length_map] at hlength
  rw [hlength]

mutual

/-- The text is as long as the canonical one. -/
theorem bytes_stringify : ∀ v : Json, bytes (stringify v) = bytes (serialize v)
  | .null => rfl
  | .bool _ => rfl
  | .num _ => rfl
  | .str _ => rfl
  | .arr items => by
    rw [stringify, serialize, bytes_cons, bytes_cons, bytes_append, bytes_append, bytes_commaJoin,
      bytes_commaJoin, bytes_stringifyItems items, stringifyItems_eq, serializeItems_eq,
      List.length_map, List.length_map]
  | .obj fields => by
    have hperm : ((stringifyFields fields).map (Prod.map id bytes)).Perm
        ((sortKeys (serializeFields fields)).map (Prod.map id bytes)) := by
      rw [bytes_stringifyFields fields]
      exact (List.perm_insertionSort _ _).symm.map _
    rw [stringify, serialize, bytes_cons, bytes_cons, bytes_append, bytes_append,
      bytes_braces hperm]
    rfl

theorem bytes_stringifyItems : ∀ items : List Json,
    (stringifyItems items).map bytes = (serializeItems items).map bytes
  | [] => rfl
  | a :: items => by
    rw [stringifyItems, serializeItems, List.map_cons, List.map_cons, bytes_stringify a,
      bytes_stringifyItems items]

theorem bytes_stringifyFields : ∀ fields : List (String × Json),
    (stringifyFields fields).map (Prod.map id bytes) =
      (serializeFields fields).map (Prod.map id bytes)
  | [] => rfl
  | (k, a) :: fields => by
    rw [stringifyFields, serializeFields, List.map_cons, List.map_cons, Prod.map_apply,
      Prod.map_apply, bytes_stringify a, bytes_stringifyFields fields]

end

/-- The texts of a value and of its canonical form are of one length. -/
theorem bytes_stringify_canonical (v : Json) :
    bytes (stringify (canonical v)) = bytes (stringify v) := by
  rw [bytes_stringify, bytes_stringify]
  exact congrArg Size.bytes (size_canonical v)

end Json
