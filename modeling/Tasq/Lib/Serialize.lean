import Mathlib.Algebra.Order.BigOperators.Group.List
import Mathlib.Tactic
import Tasq.Lib.Json

/-! Canonical JSON text with limits, on its bytes, its nodes and its depth.

    What stays within limits as a whole stays within them in every part: a part has no more nodes,
    is no deeper, and its text stands in the text of the whole. -/

namespace Json

/-! ### Text -/

/-- The characters that `JSON.stringify` escapes by a letter, with the letter. -/
def shortEscapes : List (ℕ × ℕ) :=
  [(0x08, 0x62), (0x09, 0x74), (0x0A, 0x6E), (0x0C, 0x66), (0x0D, 0x72), (0x22, 0x22), (0x5C, 0x5C)]

/-- A hexadecimal digit. -/
def hexDigit (n : ℕ) : Char := Char.ofNat (if n < 10 then 0x30 + n else 0x57 + n)

/-- A character inside quotes. -/
def escape (c : Char) : List Char :=
  match shortEscapes.lookup c.toNat with
  | some letter => [Char.ofNat 0x5C, Char.ofNat letter]
  | none =>
    if c.toNat < 0x20 then
      [Char.ofNat 0x5C, 'u', '0', '0', hexDigit (c.toNat / 16), hexDigit (c.toNat % 16)]
    else [c]

/-- `JSON.stringify` of a text. -/
def quote (s : String) : List Char :=
  Char.ofNat 0x22 :: (s.toList.flatMap escape ++ [Char.ofNat 0x22])

/-- `parts.join(",")` -/
def commaJoin : List (List Char) → List Char
  | [] => []
  | [part] => part
  | part :: parts => part ++ ',' :: commaJoin parts

/-- Fields in the order of the code units of their keys. -/
def sortKeys (fields : List (String × List Char)) : List (String × List Char) :=
  fields.insertionSort fun a b => Text.utf16 a.1 ≤ Text.utf16 b.1

mutual

/-- The canonical text of a value; its numbers are taken to be integers. -/
def serialize : Json → List Char
  | .null => "null".toList
  | .bool b => (if b then "true" else "false").toList
  | .num q => (toString q.num).toList
  | .str s => quote s
  | .arr items => '[' :: (commaJoin (serializeItems items) ++ [']'])
  | .obj fields => Char.ofNat 0x7B ::
      (commaJoin ((sortKeys (serializeFields fields)).map fun f => quote f.1 ++ ':' :: f.2) ++
        [Char.ofNat 0x7D])

def serializeItems : List Json → List (List Char)
  | [] => []
  | a :: as => serialize a :: serializeItems as

def serializeFields : List (String × Json) → List (String × List Char)
  | [] => []
  | (k, a) :: as => (k, serialize a) :: serializeFields as

end

/-- The UTF-8 bytes of a text. -/
def bytes (cs : List Char) : ℕ := (cs.map Char.utf8Size).sum

/-! ### Size -/

/-- Keys that are refused for what they mean to a prototype. -/
def reservedKeys : List String := ["__proto__", "constructor", "prototype"]

mutual

/-- The number of values in a value. -/
def nodes : Json → ℕ
  | .arr items => 1 + nodesItems items
  | .obj fields => 1 + nodesFields fields
  | .null => 1
  | .bool _ => 1
  | .num _ => 1
  | .str _ => 1

def nodesItems : List Json → ℕ
  | [] => 0
  | a :: as => nodes a + nodesItems as

def nodesFields : List (String × Json) → ℕ
  | [] => 0
  | (_, a) :: as => nodes a + nodesFields as

end

mutual

/-- The depth of the deepest value, the value itself at depth zero. -/
def depth : Json → ℕ
  | .arr items => depthItems items
  | .obj fields => depthFields fields
  | .null => 0
  | .bool _ => 0
  | .num _ => 0
  | .str _ => 0

def depthItems : List Json → ℕ
  | [] => 0
  | a :: as => max (depth a + 1) (depthItems as)

def depthFields : List (String × Json) → ℕ
  | [] => 0
  | (_, a) :: as => max (depth a + 1) (depthFields as)

end

mutual

/-- No object has a reserved key. -/
def plain : Json → Bool
  | .arr items => plainItems items
  | .obj fields => plainFields fields
  | .null => true
  | .bool _ => true
  | .num _ => true
  | .str _ => true

def plainItems : List Json → Bool
  | [] => true
  | a :: as => plain a && plainItems as

def plainFields : List (String × Json) → Bool
  | [] => true
  | (k, a) :: as => k ∉ reservedKeys && plain a && plainFields as

end

/-- The bounds of a canonical text. -/
structure Limits where
  nodes : ℕ
  depth : ℕ
  bytes : ℕ

/-- The value has a canonical text within the limits. -/
def Within (limits : Limits) (v : Json) : Prop :=
  safe v = true ∧ plain v = true ∧ nodes v ≤ limits.nodes ∧ depth v ≤ limits.depth ∧
    bytes (serialize v) ≤ limits.bytes

instance (limits : Limits) (v : Json) : Decidable (Within limits v) := by
  unfold Within; infer_instance

/-! ### Parts -/

/-- A value stands directly inside another one. -/
inductive Part : Json → Json → Prop where
  | item {a : Json} {items : List Json} (h : a ∈ items) : Part a (.arr items)
  | field {k : String} {a : Json} {fields : List (String × Json)} (h : (k, a) ∈ fields) :
    Part a (.obj fields)

theorem commaJoin_sublist {part : List Char} {parts : List (List Char)} (h : part ∈ parts) :
    part.Sublist (commaJoin parts) := by
  induction parts with
  | nil => cases h
  | cons p ps ih =>
    rcases List.mem_cons.1 h with rfl | h
    · cases ps with
      | nil => exact List.Sublist.refl _
      | cons q qs => exact List.sublist_append_left _ _
    · cases ps with
      | nil => cases h
      | cons q qs => exact ((ih h).cons _).trans (List.sublist_append_right _ _)

theorem serializeItems_eq (items : List Json) : serializeItems items = items.map serialize := by
  induction items with
  | nil => rfl
  | cons a as ih => rw [serializeItems, ih, List.map_cons]

theorem serializeFields_eq (fields : List (String × Json)) :
    serializeFields fields = fields.map (Prod.map id serialize) := by
  induction fields with
  | nil => rfl
  | cons f fields ih => rw [serializeFields, ih, List.map_cons, Prod.map_apply, id_eq]

/-- The text of a part stands in the text of the whole. -/
theorem Part.serialize_sublist {a b : Json} (h : Part a b) : (serialize a).Sublist (serialize b) := by
  cases h with
  | item h =>
    rw [serialize, serializeItems_eq]
    have hjoin := commaJoin_sublist (List.mem_map_of_mem (f := serialize) h)
    exact (hjoin.trans (List.sublist_append_left _ _)).cons _
  | @field k _ fields h =>
    rw [serialize, serializeFields_eq]
    have hkey : (k, serialize a) ∈ sortKeys (fields.map (Prod.map id serialize)) :=
      (List.perm_insertionSort _ _).mem_iff.2 (List.mem_map_of_mem (f := Prod.map id serialize) h)
    have hjoin := commaJoin_sublist
      (List.mem_map_of_mem (f := fun f => quote f.1 ++ ':' :: f.2) hkey)
    have hpart : (serialize a).Sublist (quote k ++ ':' :: serialize a) :=
      ((List.Sublist.refl _).cons _).trans (List.sublist_append_right _ _)
    exact ((hpart.trans hjoin).trans (List.sublist_append_left _ _)).cons _

theorem bytes_le_of_sublist {cs ds : List Char} (h : cs.Sublist ds) : bytes cs ≤ bytes ds :=
  (h.map Char.utf8Size).sum_le_sum fun _ _ => Nat.zero_le _

theorem Part.safe {a b : Json} (h : Part a b) (hb : b.safe = true) : a.safe = true := by
  cases h with
  | item h =>
    rename_i items
    rw [Json.safe] at hb
    induction items with
    | nil => cases h
    | cons c cs ih =>
      rw [safeItems, Bool.and_eq_true] at hb
      rcases List.mem_cons.1 h with rfl | h
      · exact hb.1
      · exact ih h hb.2
  | field h =>
    rw [Json.safe, safeValues_eq_all, List.all_eq_true] at hb
    exact hb _ h

theorem Part.plain {a b : Json} (h : Part a b) (hb : b.plain = true) : a.plain = true := by
  cases h with
  | item h =>
    rename_i items
    rw [Json.plain] at hb
    induction items with
    | nil => cases h
    | cons c cs ih =>
      rw [plainItems, Bool.and_eq_true] at hb
      rcases List.mem_cons.1 h with rfl | h
      · exact hb.1
      · exact ih h hb.2
  | field h =>
    rename_i fields
    rw [Json.plain] at hb
    induction fields with
    | nil => cases h
    | cons c cs ih =>
      rw [plainFields, Bool.and_eq_true, Bool.and_eq_true] at hb
      rcases List.mem_cons.1 h with rfl | h
      · exact hb.1.2
      · exact ih h hb.2

theorem Part.nodes_le {a b : Json} (h : Part a b) : a.nodes ≤ b.nodes := by
  cases h with
  | item h =>
    rename_i items
    have hitems : a.nodes ≤ nodesItems items := by
      induction items with
      | nil => cases h
      | cons c cs ih =>
        rw [nodesItems]
        rcases List.mem_cons.1 h with rfl | h
        · exact Nat.le_add_right _ _
        · exact (ih h).trans (Nat.le_add_left _ _)
    rw [nodes.eq_def (.arr items)]
    simp only
    omega
  | field h =>
    rename_i fields
    have hfields : a.nodes ≤ nodesFields fields := by
      induction fields with
      | nil => cases h
      | cons c cs ih =>
        rw [nodesFields]
        rcases List.mem_cons.1 h with rfl | h
        · exact Nat.le_add_right _ _
        · exact (ih h).trans (Nat.le_add_left _ _)
    rw [nodes.eq_def (.obj fields)]
    simp only
    omega

theorem Part.depth_le {a b : Json} (h : Part a b) : a.depth ≤ b.depth := by
  cases h with
  | item h =>
    rename_i items
    rw [depth.eq_def (.arr items)]
    simp only
    induction items with
    | nil => cases h
    | cons c cs ih =>
      rw [depthItems]
      rcases List.mem_cons.1 h with rfl | h
      · exact le_max_of_le_left (Nat.le_succ _)
      · exact le_max_of_le_right (ih h)
  | field h =>
    rename_i fields
    rw [depth.eq_def (.obj fields)]
    simp only
    induction fields with
    | nil => cases h
    | cons c cs ih =>
      rw [depthFields]
      rcases List.mem_cons.1 h with rfl | h
      · exact le_max_of_le_left (Nat.le_succ _)
      · exact le_max_of_le_right (ih h)

/-- CORRECT: a part of what is within limits is within them. -/
theorem Part.within {limits : Limits} {a b : Json} (h : Part a b) (hb : Within limits b) :
    Within limits a := by
  obtain ⟨hsafe, hplain, hnodes, hdepth, hbytes⟩ := hb
  exact ⟨h.safe hsafe, h.plain hplain, h.nodes_le.trans hnodes, h.depth_le.trans hdepth,
    (bytes_le_of_sublist h.serialize_sublist).trans hbytes⟩

end Json
