import Mathlib.Tactic
import Tasq.Lib.ReadBack

/-! What the limits of a canonical text look at. It does not depend on the order of fields, nor on
    that of the items of a list, so a value is within limits exactly when its canonical form is. -/

namespace Json

/-- What limits are set on. -/
structure Size where
  safe : Bool
  plain : Bool
  nodes : ℕ
  depth : ℕ
  bytes : ℕ

/-- The size of a value and of its canonical text. -/
def size (v : Json) : Size := ⟨safe v, plain v, nodes v, depth v, bytes (serialize v)⟩

theorem within_of_size {limits : Limits} {v w : Json} (h : size v = size w) :
    Within limits v ↔ Within limits w := by
  simp only [size, Size.mk.injEq] at h
  obtain ⟨hsafe, hplain, hnodes, hdepth, hbytes⟩ := h
  rw [Within, Within, hsafe, hplain, hnodes, hdepth, hbytes]

/-! ### Lists and objects by the sizes of what stands in them -/

theorem bytes_append (cs ds : List Char) : bytes (cs ++ ds) = bytes cs + bytes ds := by
  simp [bytes]

theorem bytes_cons (c : Char) (cs : List Char) : bytes (c :: cs) = c.utf8Size + bytes cs := by
  simp [bytes]

theorem bytes_nil : bytes [] = 0 := rfl

theorem bytes_fieldText (field : String × List Char) :
    bytes (fieldText field) = bytes (quote field.1) + 1 + bytes field.2 := by
  have hcolon : (':' : Char).utf8Size = 1 := by decide
  rw [fieldText, bytes_append, bytes_cons, hcolon, ← Nat.add_assoc]

theorem bytes_commaJoin (parts : List (List Char)) :
    bytes (commaJoin parts) = (parts.map bytes).sum + (parts.length - 1) := by
  induction parts with
  | nil => rfl
  | cons part parts ih =>
    cases parts with
    | nil => simp [commaJoin]
    | cons next parts =>
      have hcomma : (',' : Char).utf8Size = 1 := by decide
      rw [commaJoin, bytes_append, bytes_cons, ih, hcomma]
      · simp only [List.map_cons, List.sum_cons, List.length_cons]
        omega
      · exact List.cons_ne_nil _ _

theorem safeItems_eq (items : List Json) : safeItems items = items.all safe := by
  induction items with
  | nil => rfl
  | cons a items ih => rw [safeItems, ih, List.all_cons]

theorem plainItems_eq (items : List Json) : plainItems items = items.all plain := by
  induction items with
  | nil => rfl
  | cons a items ih => rw [plainItems, ih, List.all_cons]

theorem plainFields_eq (fields : List (String × Json)) :
    plainFields fields = fields.all fun f => f.1 ∉ reservedKeys && plain f.2 := by
  induction fields with
  | nil => rfl
  | cons f fields ih => rw [plainFields, ih, List.all_cons]

theorem nodesItems_eq (items : List Json) : nodesItems items = (items.map nodes).sum := by
  induction items with
  | nil => rfl
  | cons a items ih => rw [nodesItems, ih, List.map_cons, List.sum_cons]

theorem nodesFields_eq (fields : List (String × Json)) :
    nodesFields fields = (fields.map fun f => nodes f.2).sum := by
  induction fields with
  | nil => rfl
  | cons f fields ih => rw [nodesFields, ih, List.map_cons, List.sum_cons]

theorem depthItems_eq (items : List Json) :
    depthItems items = (items.map fun a => depth a + 1).foldr max 0 := by
  induction items with
  | nil => rfl
  | cons a items ih => rw [depthItems, ih, List.map_cons, List.foldr_cons]

theorem depthFields_eq (fields : List (String × Json)) :
    depthFields fields = (fields.map fun f => depth f.2 + 1).foldr max 0 := by
  induction fields with
  | nil => rfl
  | cons f fields ih => rw [depthFields, ih, List.map_cons, List.foldr_cons]

/-- The size of a list with items of these sizes. -/
def sizeItems (sizes : List Size) : Size where
  safe := sizes.all Size.safe
  plain := sizes.all Size.plain
  nodes := 1 + (sizes.map Size.nodes).sum
  depth := (sizes.map fun s => s.depth + 1).foldr max 0
  bytes := 2 + (sizes.map Size.bytes).sum + (sizes.length - 1)

/-- The size of an object with values of these sizes. -/
def sizeFields (sizes : List (String × Size)) : Size where
  safe := sizes.all fun s => s.2.safe
  plain := sizes.all fun s => s.1 ∉ reservedKeys && s.2.plain
  nodes := 1 + (sizes.map fun s => s.2.nodes).sum
  depth := (sizes.map fun s => s.2.depth + 1).foldr max 0
  bytes := 2 + (sizes.map fun s => bytes (quote s.1) + 1 + s.2.bytes).sum + (sizes.length - 1)

theorem size_arr (items : List Json) : size (.arr items) = sizeItems (items.map size) := by
  have hbytes : bytes (serialize (.arr items)) =
      2 + (items.map fun a => bytes (serialize a)).sum + (items.length - 1) := by
    have hopen : ('[' : Char).utf8Size = 1 := by decide
    have hclose : (']' : Char).utf8Size = 1 := by decide
    rw [serialize, serializeItems_eq, bytes_cons, bytes_append, bytes_commaJoin, bytes_cons, hopen,
      hclose, bytes_nil, List.map_map, List.length_map]
    simp only [Function.comp_def]
    omega
  simp only [size, sizeItems, safe, safeItems_eq, plain, plainItems_eq, nodes, nodesItems_eq, depth,
    depthItems_eq, hbytes, List.map_map, Function.comp_def, List.all_map, List.length_map]

theorem size_obj (fields : List (String × Json)) :
    size (.obj fields) = sizeFields (fields.map (Prod.map id size)) := by
  have hperm := List.perm_insertionSort
    (fun a b : String × List Char => Text.utf16 a.1 ≤ Text.utf16 b.1)
    (fields.map (Prod.map id serialize))
  have hbytes : bytes (serialize (.obj fields)) =
      2 + (fields.map fun f => bytes (quote f.1) + 1 + bytes (serialize f.2)).sum +
        (fields.length - 1) := by
    have hopen : (Char.ofNat 0x7B).utf8Size = 1 := by decide
    have hclose : (Char.ofNat 0x7D).utf8Size = 1 := by decide
    have hserialize : serialize (.obj fields) = Char.ofNat 0x7B ::
        (commaJoin ((sortKeys (fields.map (Prod.map id serialize))).map fieldText) ++
          [Char.ofNat 0x7D]) := by
      rw [serialize, serializeFields_eq]
      rfl
    have hsum := (hperm.map fun f => bytes (fieldText f)).sum_eq
    rw [List.map_map] at hsum
    rw [hserialize, bytes_cons, bytes_append, bytes_commaJoin, bytes_cons, hopen, hclose, bytes_nil,
      List.map_map, List.length_map, sortKeys, hperm.length_eq, List.length_map]
    simp only [Function.comp_def, bytes_fieldText, Prod.map_fst, Prod.map_snd, id_eq] at hsum ⊢
    rw [hsum]
    omega
  simp only [size, sizeFields, safe, safeValues_eq_all, plain, plainFields_eq, nodes,
    nodesFields_eq, depth, depthFields_eq, hbytes, List.map_map, Function.comp_def, List.all_map,
    List.length_map, Prod.map_fst, Prod.map_snd, id_eq]

/-! ### Order does not show in a size -/

theorem foldr_max_perm {ns ms : List ℕ} (h : ns.Perm ms) : ns.foldr max 0 = ms.foldr max 0 :=
  h.foldr_eq 0

theorem all_perm {α : Type*} {l m : List α} (h : l.Perm m) (p : α → Bool) : l.all p = m.all p := by
  rw [Bool.eq_iff_iff]
  simp only [List.all_eq_true, h.mem_iff]

theorem sizeItems_perm {sizes others : List Size} (h : sizes.Perm others) :
    sizeItems sizes = sizeItems others := by
  simp only [sizeItems, all_perm h, (h.map _).sum_eq, foldr_max_perm (h.map _), h.length_eq]

theorem sizeFields_perm {sizes others : List (String × Size)} (h : sizes.Perm others) :
    sizeFields sizes = sizeFields others := by
  simp only [sizeFields, all_perm h, (h.map _).sum_eq, foldr_max_perm (h.map _), h.length_eq]

mutual

/-- CORRECT: a value and its canonical form have one size. -/
theorem size_canonical : ∀ v : Json, size (canonical v) = size v
  | .null => rfl
  | .bool _ => rfl
  | .num _ => rfl
  | .str _ => rfl
  | .arr items => by rw [canonical, size_arr, size_arr, map_size_canonicalItems items]
  | .obj fields => by
    rw [canonical, size_obj, size_obj, ← map_size_canonicalValues fields]
    exact sizeFields_perm ((sortFields_perm _).map _)

theorem map_size_canonicalItems : ∀ items : List Json,
    (canonicalItems items).map size = items.map size
  | [] => rfl
  | a :: items => by
    rw [canonicalItems, List.map_cons, List.map_cons, size_canonical a,
      map_size_canonicalItems items]

theorem map_size_canonicalValues : ∀ fields : List (String × Json),
    (canonicalValues fields).map (Prod.map id size) = fields.map (Prod.map id size)
  | [] => rfl
  | (k, a) :: fields => by
    rw [canonicalValues, List.map_cons, List.map_cons, map_size_canonicalValues fields,
      Prod.map_apply, Prod.map_apply, size_canonical a]

end

/-- EXACT: a value is within limits exactly when its canonical form is. -/
theorem within_canonical (limits : Limits) (v : Json) :
    Within limits (canonical v) ↔ Within limits v :=
  within_of_size (size_canonical v)

end Json
