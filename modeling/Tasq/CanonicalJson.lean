import Mathlib.Data.List.Perm.Basic
import Mathlib.Data.List.Sort
import Mathlib.Tactic
import Tasq.Lib.Decimal
import Tasq.Lib.JsText

/-! The canonical JSON that idempotency keys and audit digests rest on.

    A value is any value of the language, so a field may hold `undefined` and a key may be an
    unpaired surrogate. `Shaped` are the values of JSON with absent fields; `Same` is equality up to
    the order of keys and up to absent fields, with numbers compared by `===`.

        text a ++ rest ──▶ kind by its first character ──▶ parts, each told from its rest -/

namespace Tasq

open Json (Magnitude commaJoin magnitudeText)

/-! ### Values -/

/-- A number; the two zeros are two. -/
inductive JsNumber where
  | nan
  | infinite (negative : Bool)
  | finite (negative : Bool) (m : Magnitude)

/-- What JSON has no text for. -/
inductive JsOther where
  | bigint
  | symbol
  | function
  /-- An object with another prototype than a plain one. -/
  | nonPlain
  deriving DecidableEq

/-- A value; the keys of an object stand once each in every object of the language. -/
inductive JsValue where
  | undefined
  | null
  | boolean (b : Bool)
  | number (x : JsNumber)
  | string (s : JsText)
  | array (items : List JsValue)
  | object (fields : List (JsText × JsValue))
  | other (kind : JsOther)

/-- The value of a finite number. -/
def JsNumber.signed (negative : Bool) (m : Magnitude) : ℚ := if negative then -m.value else m.value

/-- `x === y` -/
def JsNumber.Equal : JsNumber → JsNumber → Prop
  | finite a m, finite b n => signed a m = signed b n
  | infinite a, infinite b => a = b
  | _, _ => False

namespace JsValue

/-- `value !== undefined` -/
def isDefined : JsValue → Bool
  | undefined => false
  | _ => true

/-- The fields that have a value. -/
def defined (fields : List (JsText × JsValue)) : List (JsText × JsValue) :=
  fields.filter fun f => f.2.isDefined

/-- The keys that have a value. -/
def keys (fields : List (JsText × JsValue)) : List JsText := (defined fields).map Prod.fst

mutual

/-- A value of JSON, with fields that may be absent. -/
def Shaped : JsValue → Prop
  | null | boolean _ | string _ => True
  | number (.finite _ _) => True
  | number _ => False
  | array items => ShapedItems items
  | object fields => (fields.map Prod.fst).Nodup ∧ ShapedFields fields
  | undefined | other _ => False

def ShapedItems : List JsValue → Prop
  | [] => True
  | a :: items => Shaped a ∧ ShapedItems items

def ShapedFields : List (JsText × JsValue) → Prop
  | [] => True
  | (_, a) :: fields => (a.isDefined = true → Shaped a) ∧ ShapedFields fields

end

mutual

/-- Equality up to the order of keys and up to absent fields. -/
def Same : JsValue → JsValue → Prop
  | undefined, b => b = undefined
  | null, b => b = null
  | boolean x, b => b = boolean x
  | number x, b => ∃ y, b = number y ∧ x.Equal y
  | string s, b => b = string s
  | array items, b => ∃ others, b = array others ∧ SameItems items others
  | object fields, b => ∃ others, b = object others ∧ SameFields fields others ∧
      keys others ⊆ keys fields
  | other k, b => b = other k

def SameItems : List JsValue → List JsValue → Prop
  | [], others => others = []
  | a :: items, others => ∃ b bs, others = b :: bs ∧ Same a b ∧ SameItems items bs

/-- Every field that has a value has the same value in the other object. -/
def SameFields : List (JsText × JsValue) → List (JsText × JsValue) → Prop
  | [], _ => True
  | (k, a) :: fields, others =>
    (a.isDefined = true → ∃ b, (k, b) ∈ defined others ∧ Same a b) ∧ SameFields fields others

end

end JsValue

/-! ### The text -/

/-- `typeof value` -/
def JsOther.typeof : JsOther → String
  | bigint => "bigint"
  | symbol => "symbol"
  | function => "function"
  | nonPlain => "object"

/-- `JSON.stringify` of a number; the zeros have no sign. -/
def numberText (negative : Bool) (m : Magnitude) : List Char :=
  if negative ∧ m.value ≠ 0 then '-' :: magnitudeText m.value else magnitudeText m.value

/-- Entries in the order of the code units of their keys. -/
def sortEntries {α : Type*} (entries : List (JsText × α)) : List (JsText × α) :=
  entries.insertionSort fun a b => a.1 ≤ b.1

/-- An entry, or the error of its child. -/
def entryText (entry : JsText × Except String (List Char)) : Except String (List Char) := do
  let child ← entry.2
  return entry.1.quoted ++ ':' :: child

mutual

/-- `canonicalJson` -/
def canonicalJson : JsValue → Except String (List Char)
  | .array items => do
    let parts ← (canonicalItems items).mapM id
    return '[' :: (commaJoin parts ++ [']'])
  | .undefined => .ok "null".toList
  | .null => .ok "null".toList
  | .number .nan => .error "Canonical JSON does not support non-finite numbers"
  | .number (.infinite _) => .error "Canonical JSON does not support non-finite numbers"
  | .number (.finite negative m) => .ok (numberText negative m)
  | .string s => .ok s.quoted
  | .boolean b => .ok (if b then "true" else "false").toList
  | .other .nonPlain => .error "Canonical JSON requires plain JSON objects"
  | .object fields => do
    let parts ← (sortEntries (canonicalEntries fields)).mapM entryText
    return Char.ofNat 0x7B :: (commaJoin parts ++ [Char.ofNat 0x7D])
  | .other kind => .error ("Canonical JSON does not support " ++ kind.typeof)

def canonicalItems : List JsValue → List (Except String (List Char))
  | [] => []
  | a :: items => canonicalJson a :: canonicalItems items

/-- The entries that have a value. -/
def canonicalEntries : List (JsText × JsValue) → List (JsText × Except String (List Char))
  | [] => []
  | (k, a) :: fields =>
    if a.isDefined then (k, canonicalJson a) :: canonicalEntries fields else canonicalEntries fields

end

namespace JsValue

/-! ### The text of a shaped value -/

/-- The text, for a value that has one. -/
def text (a : JsValue) : List Char := (canonicalJson a).toOption.getD []

theorem shapedItems_iff (items : List JsValue) : ShapedItems items ↔ ∀ a ∈ items, Shaped a := by
  induction items with
  | nil => simp [ShapedItems]
  | cons a items ih => simp [ShapedItems, ih]

theorem shapedFields_iff (fields : List (JsText × JsValue)) :
    ShapedFields fields ↔ ∀ f ∈ defined fields, Shaped f.2 := by
  induction fields with
  | nil => simp [ShapedFields, defined]
  | cons f fields ih =>
    obtain ⟨k, a⟩ := f
    rw [ShapedFields, ih]
    by_cases ha : a.isDefined = true <;> simp [defined, ha]

theorem sameItems_iff (items others : List JsValue) :
    SameItems items others ↔ List.Forall₂ Same items others := by
  induction items generalizing others with
  | nil => simp [SameItems]
  | cons a items ih =>
    simp only [SameItems, ih, List.forall₂_cons_left_iff]
    exact exists_congr fun b => exists_congr fun bs => by tauto

theorem sameFields_iff (fields others : List (JsText × JsValue)) :
    SameFields fields others ↔ ∀ f ∈ defined fields, ∃ b, (f.1, b) ∈ defined others ∧ Same f.2 b := by
  induction fields with
  | nil => simp [SameFields, defined]
  | cons f fields ih =>
    obtain ⟨k, a⟩ := f
    rw [SameFields, ih]
    by_cases ha : a.isDefined = true <;> simp [defined, ha]

theorem canonicalItems_eq (items : List JsValue) :
    canonicalItems items = items.map canonicalJson := by
  induction items with
  | nil => rfl
  | cons a items ih => rw [canonicalItems, ih, List.map_cons]

theorem canonicalEntries_eq (fields : List (JsText × JsValue)) :
    canonicalEntries fields = (defined fields).map (Prod.map id canonicalJson) := by
  induction fields with
  | nil => rfl
  | cons f fields ih =>
    obtain ⟨k, a⟩ := f
    rw [canonicalEntries, ih]
    by_cases ha : a.isDefined = true <;> simp [defined, ha]

theorem sortEntries_perm {α : Type*} (entries : List (JsText × α)) :
    (sortEntries entries).Perm entries :=
  List.perm_insertionSort _ _

/-- Sorting looks at the keys alone. -/
theorem sortEntries_map {α β : Type*} (f : α → β) (entries : List (JsText × α)) :
    sortEntries (entries.map (Prod.map id f)) = (sortEntries entries).map (Prod.map id f) :=
  (List.map_insertionSort _ _ (Prod.map id f) entries fun _ _ _ _ => Iff.rfl).symm

theorem mapM_ok {α β : Type*} {f : α → Except String β} {g : α → β} {l : List α}
    (h : ∀ a ∈ l, f a = .ok (g a)) : l.mapM f = .ok (l.map g) := by
  induction l with
  | nil => rfl
  | cons a l ih =>
    rw [List.mapM_cons, h a (by simp), ih fun b hb => h b (List.mem_cons_of_mem _ hb)]
    rfl

/-- The text of an entry. -/
def entry (f : JsText × JsValue) : List Char := f.1.quoted ++ ':' :: text f.2

theorem text_eq {a : JsValue} {t : List Char} (h : canonicalJson a = .ok t) : text a = t := by
  rw [text, h]
  rfl

theorem canonicalJson_array {items : List JsValue}
    (h : ∀ a ∈ items, canonicalJson a = .ok (text a)) :
    canonicalJson (array items) = .ok ('[' :: (commaJoin (items.map text) ++ [']'])) := by
  have hparts : (items.map canonicalJson).mapM id = .ok (items.map text) := by
    have hmap := mapM_ok (f := id) (g := fun e : Except String (List Char) => e.toOption.getD [])
      (l := items.map canonicalJson) (by
        intro e he
        obtain ⟨a, ha, rfl⟩ := List.mem_map.1 he
        exact h a ha)
    rw [hmap, List.map_map]
    rfl
  rw [canonicalJson, canonicalItems_eq, hparts]
  rfl

theorem canonicalJson_object {fields : List (JsText × JsValue)}
    (h : ∀ f ∈ defined fields, canonicalJson f.2 = .ok (text f.2)) :
    canonicalJson (object fields) = .ok (Char.ofNat 0x7B ::
      (commaJoin ((sortEntries (defined fields)).map entry) ++ [Char.ofNat 0x7D])) := by
  have hparts : ((sortEntries (defined fields)).map (Prod.map id canonicalJson)).mapM entryText =
      .ok ((sortEntries (defined fields)).map entry) := by
    rw [List.mapM_map]
    refine mapM_ok fun f hf => ?_
    have hchild := h f ((sortEntries_perm _).mem_iff.1 hf)
    simp only [Function.comp_apply, entryText, Prod.map_snd, Prod.map_fst, id_eq, hchild]
    rfl
  rw [canonicalJson, canonicalEntries_eq, sortEntries_map, hparts]
  rfl

mutual

/-- Every shaped value has a text. -/
theorem canonicalJson_eq : ∀ {a : JsValue}, Shaped a → canonicalJson a = .ok (text a)
  | .null, _ => rfl
  | .boolean _, _ => rfl
  | .string _, _ => rfl
  | .number (.finite _ _), _ => rfl
  | .number .nan, h => h.elim
  | .number (.infinite _), h => h.elim
  | .undefined, h => h.elim
  | .other _, h => h.elim
  | .array _, h => by
    have harray := canonicalJson_array (canonicalItems_ok h)
    rw [harray, text_eq harray]
  | .object _, h => by
    have hobject := canonicalJson_object (canonicalFields_ok h.2)
    rw [hobject, text_eq hobject]

theorem canonicalItems_ok : ∀ {items : List JsValue}, ShapedItems items →
    ∀ a ∈ items, canonicalJson a = .ok (text a)
  | [], _, _, ha => absurd ha List.not_mem_nil
  | b :: items, h, a, ha => by
    rcases List.mem_cons.1 ha with heq | ha
    · rw [heq]
      exact canonicalJson_eq h.1
    · exact canonicalItems_ok h.2 a ha

theorem canonicalFields_ok : ∀ {fields : List (JsText × JsValue)}, ShapedFields fields →
    ∀ f ∈ defined fields, canonicalJson f.2 = .ok (text f.2)
  | [], _, _, hf => absurd hf List.not_mem_nil
  | (k, b) :: fields, h, f, hf => by
    obtain ⟨hf, hdefined⟩ := List.mem_filter.1 hf
    rcases List.mem_cons.1 hf with heq | hf
    · rw [heq] at hdefined ⊢
      exact canonicalJson_eq (h.1 hdefined)
    · exact canonicalFields_ok h.2 f (List.mem_filter.2 ⟨hf, hdefined⟩)

end

theorem text_array {items : List JsValue} (h : Shaped (array items)) :
    text (array items) = '[' :: (commaJoin (items.map text) ++ [']']) :=
  text_eq (canonicalJson_array (canonicalItems_ok h))

theorem text_object {fields : List (JsText × JsValue)} (h : Shaped (object fields)) :
    text (object fields) = Char.ofNat 0x7B ::
      (commaJoin ((sortEntries (defined fields)).map entry) ++ [Char.ofNat 0x7D]) :=
  text_eq (canonicalJson_object (canonicalFields_ok h.2))

/-! ### Texts told apart -/

/-- The kind of value that a first character stands for. -/
def kind? (c : Char) : Option ℕ :=
  if c = 'n' then some 0
  else if c = 't' ∨ c = 'f' then some 1
  else if c = '-' ∨ c.isDigit then some 2
  else if c = Char.ofNat 0x22 then some 3
  else if c = '[' then some 4
  else if c = Char.ofNat 0x7B then some 5
  else none

/-- The kind of a value of JSON. -/
def kind : JsValue → ℕ
  | null | undefined | other _ => 0
  | boolean _ => 1
  | number _ => 2
  | string _ => 3
  | array _ => 4
  | object _ => 5

theorem kind?_isDigit {c : Char} (h : c.isDigit = true) : kind? c = some 2 := by
  have hnot : c ≠ 'n' ∧ c ≠ 't' ∧ c ≠ 'f' := by
    refine ⟨?_, ?_, ?_⟩ <;> rintro rfl <;> exact absurd h (by decide)
  rw [kind?, if_neg hnot.1, if_neg (by tauto), if_pos (.inr h)]

/-- A text shows the kind of its value in front. -/
theorem text_head {a : JsValue} (h : Shaped a) :
    ∃ c cs, text a = c :: cs ∧ kind? c = some a.kind := by
  cases a with
  | null => exact ⟨_, _, rfl, by decide⟩
  | boolean b => cases b <;> exact ⟨_, _, rfl, by decide⟩
  | string s => exact ⟨_, _, rfl, (by decide : kind? (Char.ofNat 0x22) = some 3)⟩
  | array items => exact ⟨_, _, text_array h, (by decide : kind? '[' = some 4)⟩
  | object fields => exact ⟨_, _, text_object h, (by decide : kind? (Char.ofNat 0x7B) = some 5)⟩
  | undefined => exact h.elim
  | other k => exact h.elim
  | number x =>
    cases x with
    | nan => exact h.elim
    | infinite b => exact h.elim
    | finite negative m =>
      obtain ⟨c, cs, hhead, hdigit⟩ := Json.magnitudeText_head m
      change ∃ c cs, numberText negative m = c :: cs ∧ kind? c = some 2
      unfold numberText
      split
      · exact ⟨_, _, rfl, by decide⟩
      · exact ⟨c, cs, hhead, kind?_isDigit hdigit⟩

/-- What may stand behind a value. -/
def Ends (rest : List Char) : Prop :=
  ∀ c ∈ rest.head?, c = ',' ∨ c = ']' ∨ c = Char.ofNat 0x7D

theorem Ends.stops {rest : List Char} (h : Ends rest) : Json.Stops rest := by
  cases rest with
  | nil => trivial
  | cons c cs =>
    have hstop (c : Char) (hc : c = ',' ∨ c = ']' ∨ c = Char.ofNat 0x7D) :
        c.isDigit = false ∧ c ≠ '.' ∧ c ≠ 'e' ∧ c ≠ 'E' := by
      rcases hc with rfl | rfl | rfl <;> decide
    exact hstop c (h c rfl)

/-- The text of a value can be told from what stands behind it, and shows the value. -/
def Readable (a : JsValue) : Prop :=
  ∀ (b : JsValue) (xs ys : List Char), Shaped a → Shaped b → Ends xs → Ends ys →
    text a ++ xs = text b ++ ys → Same a b ∧ xs = ys

/-- Two numbers with one text are equal. -/
theorem numberText_append {a b : Bool} {m n : Magnitude} {xs ys : List Char} (hxs : Json.Stops xs)
    (hys : Json.Stops ys) (h : numberText a m ++ xs = numberText b n ++ ys) :
    JsNumber.signed a m = JsNumber.signed b n ∧ xs = ys := by
  have hmagnitude (hm : magnitudeText m.value ++ xs = magnitudeText n.value ++ ys) :
      m.value = n.value ∧ xs = ys := by
    obtain ⟨p, hp, hpm⟩ := Json.magnitude?_magnitudeText m hxs
    obtain ⟨q, hq, hqn⟩ := Json.magnitude?_magnitudeText n hys
    rw [hm, hq, Option.some_inj, Prod.mk.injEq] at hp
    obtain ⟨rfl, rfl⟩ := hp
    exact ⟨Option.some_inj.1 (hpm.symm.trans hqn), rfl⟩
  have hminus (m : Magnitude) (xs ys : List Char) : '-' :: xs ≠ magnitudeText m.value ++ ys := by
    obtain ⟨c, cs, hhead, hdigit⟩ := Json.magnitudeText_head m
    rw [hhead, List.cons_append, ne_eq, List.cons.injEq]
    rintro ⟨rfl, -⟩
    exact absurd hdigit (by decide)
  unfold numberText at h
  unfold JsNumber.signed
  split at h
  · rename_i ha
    split at h
    · rename_i hb
      rw [List.cons_append, List.cons_append, List.cons.injEq] at h
      obtain ⟨hvalue, hrest⟩ := hmagnitude h.2
      exact ⟨by rw [if_pos ha.1, if_pos hb.1, hvalue], hrest⟩
    · exact absurd h (hminus _ _ _)
  · rename_i ha
    split at h
    · exact absurd h.symm (hminus _ _ _)
    · rename_i hb
      obtain ⟨hvalue, hrest⟩ := hmagnitude h
      refine ⟨?_, hrest⟩
      rcases eq_or_ne m.value 0 with hzero | hzero
      · rw [← hvalue, hzero, neg_zero, ite_self, ite_self]
      · rw [if_neg fun htrue => ha ⟨htrue, hzero⟩,
          if_neg fun htrue => hb ⟨htrue, hvalue ▸ hzero⟩, hvalue]

/-- RUN: joined parts can be told apart, up to the closing bracket. -/
theorem commaJoin_append {α β : Type*} {f : α → List Char} {g : β → List Char} {R : α → β → Prop}
    {close : Char} (hclose : close = ']' ∨ close = Char.ofNat 0x7D) {as : List α} {bs : List β}
    {xs ys : List Char} (hf : ∀ a ∈ as, (f a).head? ≠ some close ∧ f a ≠ [])
    (hg : ∀ b ∈ bs, (g b).head? ≠ some close ∧ g b ≠ [])
    (h : ∀ a ∈ as, ∀ b ∈ bs, ∀ xs ys, Ends xs → Ends ys → f a ++ xs = g b ++ ys → R a b ∧ xs = ys)
    (heq : commaJoin (as.map f) ++ close :: xs = commaJoin (bs.map g) ++ close :: ys) :
    List.Forall₂ R as bs ∧ xs = ys := by
  have hends (rest : List Char) : Ends (close :: rest) := by
    intro c hc
    obtain rfl := Option.some.inj hc
    exact .inr hclose
  have hcomma (rest : List Char) : Ends (',' :: rest) := by
    intro c hc
    exact .inl (Option.some.inj hc).symm
  have hneq : ',' ≠ close := by rcases hclose with rfl | rfl <;> decide
  -- A part does not start with the closing bracket.
  have hhead (part ps rest : List Char) (hpart : part.head? ≠ some close ∧ part ≠ []) :
      part ++ ps ≠ close :: rest := by
    obtain ⟨c, cs, rfl⟩ := List.exists_cons_of_ne_nil hpart.2
    intro hcons
    exact hpart.1 (congrArg some (List.cons.inj hcons).1)
  induction as generalizing bs with
  | nil =>
    cases bs with
    | nil => exact ⟨.nil, (List.cons.inj heq).2⟩
    | cons b bs =>
      refine absurd heq.symm ?_
      cases bs with
      | nil => exact hhead _ _ _ (hg b (by simp))
      | cons c bs =>
        simp only [List.map_cons, commaJoin, List.append_assoc, List.map_nil, List.nil_append]
        exact hhead _ _ _ (hg b (by simp))
  | cons a as ih =>
    cases bs with
    | nil =>
      refine absurd heq ?_
      cases as with
      | nil => exact hhead _ _ _ (hf a (by simp))
      | cons c as =>
        simp only [List.map_cons, commaJoin, List.append_assoc, List.map_nil, List.nil_append]
        exact hhead _ _ _ (hf a (by simp))
    | cons b bs =>
      have hfirst := h a (by simp) b (by simp)
      cases as with
      | nil =>
        cases bs with
        | nil =>
          obtain ⟨hab, hrest⟩ := hfirst _ _ (hends xs) (hends ys) heq
          exact ⟨.cons hab .nil, (List.cons.inj hrest).2⟩
        | cons c bs =>
          simp only [List.map_cons, commaJoin, List.append_assoc, List.map_nil,
            List.cons_append] at heq
          obtain ⟨-, hrest⟩ := hfirst _ _ (hends xs) (hcomma _) heq
          exact absurd (List.cons.inj hrest).1.symm hneq
      | cons c as =>
        cases bs with
        | nil =>
          simp only [List.map_cons, commaJoin, List.append_assoc, List.map_nil,
            List.cons_append] at heq
          obtain ⟨-, hrest⟩ := hfirst _ _ (hcomma _) (hends ys) heq
          exact absurd (List.cons.inj hrest).1 hneq
        | cons d bs =>
          simp only [List.map_cons, commaJoin, List.append_assoc, List.cons_append] at heq ih
          obtain ⟨hab, hrest⟩ := hfirst _ _ (hcomma _) (hcomma _) heq
          obtain ⟨hall, hends⟩ := ih (fun x hx => hf x (List.mem_cons_of_mem _ hx))
            (fun x hx => hg x (List.mem_cons_of_mem _ hx))
            (fun x hx y hy => h x (List.mem_cons_of_mem _ hx) y (List.mem_cons_of_mem _ hy))
            (List.cons.inj hrest).2
          exact ⟨.cons hab hall, hends⟩

/-- A text does not start with a closing bracket. -/
theorem text_opens {a : JsValue} (h : Shaped a) {close : Char}
    (hclose : close = ']' ∨ close = Char.ofNat 0x7D) :
    (text a).head? ≠ some close ∧ text a ≠ [] := by
  obtain ⟨c, cs, hhead, hkind⟩ := text_head h
  rw [hhead]
  refine ⟨fun hc => ?_, List.cons_ne_nil _ _⟩
  obtain rfl := Option.some.inj hc
  have hnone : kind? c = none := by rcases hclose with rfl | rfl <;> decide
  rw [hnone] at hkind
  cases hkind

theorem forall₂_mem {α β : Type*} {R : α → β → Prop} {as : List α} {bs : List β}
    (h : List.Forall₂ R as bs) {a : α} (ha : a ∈ as) : ∃ b ∈ bs, R a b := by
  induction h with
  | nil => cases ha
  | cons hab _ ih =>
    rcases List.mem_cons.1 ha with rfl | ha
    · exact ⟨_, List.mem_cons_self, hab⟩
    · obtain ⟨b, hb, hr⟩ := ih ha
      exact ⟨b, List.mem_cons_of_mem _ hb, hr⟩

/-- Values with one text are of one kind. -/
theorem kind_eq {a b : JsValue} {xs ys : List Char} (ha : Shaped a) (hb : Shaped b)
    (h : text a ++ xs = text b ++ ys) : a.kind = b.kind := by
  obtain ⟨c, cs, hhead, hkind⟩ := text_head ha
  obtain ⟨d, ds, hhead', hkind'⟩ := text_head hb
  rw [hhead, hhead', List.cons_append, List.cons_append, List.cons.injEq] at h
  rw [h.1, hkind'] at hkind
  exact (Option.some.inj hkind).symm

theorem readable_array {items : List JsValue} (h : ∀ a ∈ items, Readable a) :
    Readable (array items) := by
  intro b xs ys ha hb hxs hys heq
  have hkind := kind_eq ha hb heq
  cases b with
  | array others =>
    have hitems := (shapedItems_iff _).1 ha
    have hothers := (shapedItems_iff _).1 hb
    rw [text_array ha, text_array hb, List.cons_append, List.cons_append, List.append_assoc,
      List.append_assoc, List.cons.injEq] at heq
    obtain ⟨hall, hrest⟩ := commaJoin_append (R := Same) (.inl rfl)
      (fun a ha => text_opens (hitems a ha) (.inl rfl))
      (fun b hb => text_opens (hothers b hb) (.inl rfl))
      (fun a ha b hb xs ys => h a ha b xs ys (hitems a ha) (hothers b hb)) heq.2
    exact ⟨⟨others, rfl, (sameItems_iff _ _).2 hall⟩, hrest⟩
  | number x => cases hkind
  | null | undefined | boolean | string | object | other => cases hkind

theorem readable_object {fields : List (JsText × JsValue)}
    (h : ∀ f ∈ defined fields, Readable f.2) : Readable (object fields) := by
  intro b xs ys ha hb hxs hys heq
  have hkind := kind_eq ha hb heq
  cases b with
  | object others =>
    have hfields := (shapedFields_iff _).1 ha.2
    have hothers := (shapedFields_iff _).1 hb.2
    have hmem (entries : List (JsText × JsValue)) (f : JsText × JsValue) :
        f ∈ sortEntries entries ↔ f ∈ entries := (sortEntries_perm entries).mem_iff
    have hquote (f : JsText × JsValue) :
        (entry f).head? ≠ some (Char.ofNat 0x7D) ∧ entry f ≠ [] :=
      ⟨fun hhead => absurd (Option.some.inj hhead) (by decide), List.cons_ne_nil _ _⟩
    rw [text_object ha, text_object hb, List.cons_append, List.cons_append, List.append_assoc,
      List.append_assoc, List.cons.injEq] at heq
    obtain ⟨hall, hrest⟩ := commaJoin_append (R := fun f g => f.1 = g.1 ∧ Same f.2 g.2) (.inr rfl)
      (fun f _ => hquote f) (fun f _ => hquote f)
      (by
        intro f hf g hg xs ys hxs hys hfg
        rw [hmem] at hf hg
        rw [entry, entry, List.append_assoc, List.append_assoc] at hfg
        obtain ⟨hkey, hfg⟩ := JsText.quoted_append hfg
        obtain ⟨hsame, hrest⟩ := h f hf g.2 xs ys (hfields f hf) (hothers g hg) hxs hys
          (List.cons.inj hfg).2
        exact ⟨⟨hkey, hsame⟩, hrest⟩) heq.2
    refine ⟨⟨others, rfl, (sameFields_iff _ _).2 fun f hf => ?_, fun k hk => ?_⟩, hrest⟩
    · obtain ⟨g, hg, hkey, hsame⟩ := forall₂_mem hall ((hmem _ _).2 hf)
      exact ⟨g.2, hkey ▸ (hmem _ _).1 hg, hsame⟩
    · obtain ⟨g, hg, rfl⟩ := List.mem_map.1 hk
      obtain ⟨f, hf, hkey, -⟩ := forall₂_mem hall.flip ((hmem _ _).2 hg)
      exact List.mem_map.2 ⟨f, (hmem _ _).1 hf, hkey⟩
  | number x => cases hkind
  | null | undefined | boolean | string | array | other => cases hkind

mutual

/-- CORRECT: a text shows its value, and where it ends. -/
theorem readable : ∀ a : JsValue, Readable a
  | .null => by
    intro b xs ys ha hb _ _ h
    have hkind := kind_eq ha hb h
    cases b with
    | null => exact ⟨rfl, List.append_cancel_left h⟩
    | undefined => exact hb.elim
    | other => exact hb.elim
    | number | boolean | string | array | object => cases hkind
  | .boolean x => by
    intro b xs ys ha hb _ _ h
    have hkind := kind_eq ha hb h
    cases b with
    | boolean y =>
      cases x <;> cases y
      · exact ⟨rfl, List.append_cancel_left h⟩
      · exact absurd (List.cons.inj h).1 (by decide)
      · exact absurd (List.cons.inj h).1 (by decide)
      · exact ⟨rfl, List.append_cancel_left h⟩
    | null | undefined | number | string | array | object | other => cases hkind
  | .number x => by
    intro b xs ys ha hb hxs hys h
    have hkind := kind_eq ha hb h
    cases b with
    | number y =>
      cases x with
      | finite p m =>
        cases y with
        | finite q n =>
          obtain ⟨hvalue, hrest⟩ := numberText_append hxs.stops hys.stops h
          exact ⟨⟨_, rfl, hvalue⟩, hrest⟩
        | nan => exact hb.elim
        | infinite => exact hb.elim
      | nan => exact ha.elim
      | infinite => exact ha.elim
    | null | undefined | boolean | string | array | object | other => cases hkind
  | .string s => by
    intro b xs ys ha hb _ _ h
    have hkind := kind_eq ha hb h
    cases b with
    | string t =>
      obtain ⟨rfl, hrest⟩ := JsText.quoted_append h
      exact ⟨rfl, hrest⟩
    | null | undefined | boolean | number | array | object | other => cases hkind
  | .array items => readable_array (readableItems items)
  | .object fields => readable_object (readableFields fields)
  | .undefined => fun _ _ _ ha => ha.elim
  | .other _ => fun _ _ _ ha => ha.elim

theorem readableItems : ∀ items : List JsValue, ∀ a ∈ items, Readable a
  | [], _, ha => absurd ha List.not_mem_nil
  | b :: items, a, ha => by
    rcases List.mem_cons.1 ha with heq | ha
    · rw [heq]
      exact readable b
    · exact readableItems items a ha

theorem readableFields : ∀ fields : List (JsText × JsValue), ∀ f ∈ defined fields, Readable f.2
  | [], _, hf => absurd hf List.not_mem_nil
  | (k, b) :: fields, f, hf => by
    obtain ⟨hf, hdefined⟩ := List.mem_filter.1 hf
    rcases List.mem_cons.1 hf with heq | hf
    · rw [heq]
      exact readable b
    · exact readableFields fields f (List.mem_filter.2 ⟨hf, hdefined⟩)

end

/-! ### Equal values -/

theorem numberText_eq {a b : Bool} {m n : Magnitude}
    (h : JsNumber.signed a m = JsNumber.signed b n) : numberText a m = numberText b n := by
  have hm := m.nonneg
  have hn := n.nonneg
  unfold JsNumber.signed at h
  unfold numberText
  cases a <;> cases b
  · rw [show m.value = n.value by simpa using h]
  · have hzero : m.value = 0 ∧ n.value = 0 := by
      simp only [Bool.false_eq_true, if_false, if_true] at h
      exact ⟨by linarith, by linarith⟩
    simp [hzero.1, hzero.2]
  · have hzero : m.value = 0 ∧ n.value = 0 := by
      simp only [Bool.false_eq_true, if_false, if_true] at h
      exact ⟨by linarith, by linarith⟩
    simp [hzero.1, hzero.2]
  · rw [show m.value = n.value by simpa using h]

/-- In an object, a key with a value has one value. -/
theorem defined_unique {fields : List (JsText × JsValue)} (h : (fields.map Prod.fst).Nodup)
    {k : JsText} {a b : JsValue} (ha : (k, a) ∈ defined fields) (hb : (k, b) ∈ defined fields) :
    a = b := by
  have heq := List.inj_on_of_nodup_map h (List.mem_filter.1 ha).1 (List.mem_filter.1 hb).1 rfl
  exact (Prod.mk.inj heq).2

/-- Sorted entries depend on what the entries are, not on their order. -/
theorem sortEntries_eq {α : Type*} {entries others : List (JsText × α)}
    (h : entries.Perm others) (hnodup : (entries.map Prod.fst).Nodup) :
    sortEntries entries = sortEntries others := by
  have hperm : (sortEntries entries).Perm (sortEntries others) :=
    ((sortEntries_perm _).trans h).trans (sortEntries_perm _).symm
  refine hperm.eq_of_pairwise ?_ (List.pairwise_insertionSort _ _) (List.pairwise_insertionSort _ _)
  intro a b ha hb hab hba
  have ha : a ∈ entries := (sortEntries_perm _).mem_iff.1 ha
  have hb : b ∈ entries := h.mem_iff.2 ((sortEntries_perm _).mem_iff.1 hb)
  exact List.inj_on_of_nodup_map hnodup ha hb (le_antisymm hab hba)

theorem keys_nodup {fields : List (JsText × JsValue)} (h : (fields.map Prod.fst).Nodup) :
    (keys fields).Nodup :=
  (List.filter_sublist.map Prod.fst).nodup h

theorem text_object_eq {fields others : List (JsText × JsValue)} (hf : Shaped (object fields))
    (hg : Shaped (object others)) (hkeys : keys others ⊆ keys fields)
    (h : ∀ f ∈ defined fields, ∃ b, (f.1, b) ∈ defined others ∧ text f.2 = text b) :
    text (object fields) = text (object others) := by
  -- The entries, with the text of every value.
  have hmem (e : JsText × List Char) : e ∈ (defined fields).map (Prod.map id text) ↔
      e ∈ (defined others).map (Prod.map id text) := by
    constructor
    · intro he
      obtain ⟨f, hfmem, rfl⟩ := List.mem_map.1 he
      obtain ⟨b, hb, htext⟩ := h f hfmem
      exact List.mem_map.2 ⟨_, hb, Prod.ext rfl htext.symm⟩
    · intro he
      obtain ⟨⟨k, b⟩, hgmem, rfl⟩ := List.mem_map.1 he
      obtain ⟨⟨l, a⟩, hfmem, hl⟩ := List.mem_map.1 (hkeys (List.mem_map_of_mem hgmem))
      obtain rfl : l = k := hl
      obtain ⟨c, hc, htext⟩ := h _ hfmem
      obtain rfl := defined_unique hg.1 hc hgmem
      exact List.mem_map.2 ⟨_, hfmem, Prod.ext rfl htext⟩
  have hnodup (entries : List (JsText × JsValue)) (hn : (entries.map Prod.fst).Nodup) :
      (((defined entries).map (Prod.map id text)).map Prod.fst).Nodup := by
    rw [List.map_map]
    exact keys_nodup hn
  have hperm := (List.perm_ext_iff_of_nodup (hnodup _ hf.1).of_map (hnodup _ hg.1).of_map).2 hmem
  have hsort := sortEntries_eq hperm (hnodup _ hf.1)
  have hentry (entries : List (JsText × JsValue)) : (sortEntries entries).map entry =
      (sortEntries (entries.map (Prod.map id text))).map fun e => e.1.quoted ++ ':' :: e.2 := by
    rw [sortEntries_map, List.map_map]
    rfl
  rw [text_object hf, text_object hg, hentry, hentry, hsort]

mutual

/-- Equal values have one text. -/
theorem text_eq_of_same : ∀ {a b : JsValue}, Shaped a → Shaped b → Same a b → text a = text b
  | .null, _, _, _, h => by rw [show _ = null from h]
  | .boolean _, _, _, _, h => by rw [show _ = boolean _ from h]
  | .string _, _, _, _, h => by rw [show _ = string _ from h]
  | .undefined, _, ha, _, _ => ha.elim
  | .other _, _, ha, _, _ => ha.elim
  | .number x, _, ha, hb, h => by
    obtain ⟨y, rfl, hequal⟩ := h
    cases x with
    | finite p m =>
      cases y with
      | finite q n => exact numberText_eq hequal
      | nan => exact hb.elim
      | infinite => exact hb.elim
    | nan => exact ha.elim
    | infinite => exact ha.elim
  | .array items, _, ha, hb, h => by
    obtain ⟨others, rfl, hsame⟩ := h
    rw [text_array ha, text_array hb, textItems_eq ha hb hsame]
  | .object fields, _, ha, hb, h => by
    obtain ⟨others, rfl, hsame, hkeys⟩ := h
    exact text_object_eq ha hb hkeys (textFields_eq ha.2 ((shapedFields_iff _).1 hb.2) hsame)

theorem textItems_eq : ∀ {items others : List JsValue}, ShapedItems items → ShapedItems others →
    SameItems items others → items.map text = others.map text
  | [], _, _, _, h => by rw [show _ = [] from h]
  | a :: items, _, ha, hb, h => by
    obtain ⟨b, bs, rfl, hab, hsame⟩ := h
    rw [List.map_cons, List.map_cons, text_eq_of_same ha.1 hb.1 hab,
      textItems_eq ha.2 hb.2 hsame]

theorem textFields_eq : ∀ {fields others : List (JsText × JsValue)}, ShapedFields fields →
    (∀ f ∈ defined others, Shaped f.2) → SameFields fields others →
    ∀ f ∈ defined fields, ∃ b, (f.1, b) ∈ defined others ∧ text f.2 = text b
  | [], _, _, _, _, _, hf => absurd hf List.not_mem_nil
  | (k, a) :: fields, _, ha, hb, h, f, hf => by
    obtain ⟨hmem, hdefined⟩ := List.mem_filter.1 hf
    rcases List.mem_cons.1 hmem with rfl | hmem
    · obtain ⟨b, hkb, hab⟩ := h.1 hdefined
      exact ⟨b, hkb, text_eq_of_same (ha.1 hdefined) (hb _ hkb) hab⟩
    · exact textFields_eq ha.2 hb h.2 f (List.mem_filter.2 ⟨hmem, hdefined⟩)

end

end JsValue

/-- EXACT: two values of JSON have texts, and one text exactly when they are equal up to the order
    of keys and up to absent fields. -/
theorem canonicalJson_eq_iff {a b : JsValue} (ha : a.Shaped) (hb : b.Shaped) :
    ∃ s t, canonicalJson a = .ok s ∧ canonicalJson b = .ok t ∧ (s = t ↔ a.Same b) := by
  refine ⟨_, _, JsValue.canonicalJson_eq ha, JsValue.canonicalJson_eq hb, fun h => ?_,
    JsValue.text_eq_of_same ha hb⟩
  have hends : JsValue.Ends [] := fun c hc => by cases hc
  exact (JsValue.readable a b [] [] ha hb hends hends (by rw [h])).1

/-- An item that is `undefined` has the text of `null`; no value of JSON has such an item. -/
example : canonicalJson (.array [.undefined]) = canonicalJson (.array [.null]) := rfl

/-- The number one. -/
def magnitudeOne : Magnitude :=
  ⟨1, by norm_num, by exact_mod_cast Json.toDouble_intCast (n := 1) (by decide)⟩

theorem canonicalJson_eq_iff_reordered :
    ∃ s t, canonicalJson (.object [([98], .number (.finite false magnitudeOne)), ([0xD800], .undefined),
        ([97], .array [.null, .string [0xD800]])]) = .ok s ∧
      canonicalJson (.object [([97], .array [.null, .string [0xD800]]),
        ([98], .number (.finite false magnitudeOne))]) = .ok t ∧
      (s = t ↔ JsValue.Same
        (.object [([98], .number (.finite false magnitudeOne)), ([0xD800], .undefined),
          ([97], .array [.null, .string [0xD800]])])
        (.object [([97], .array [.null, .string [0xD800]]),
          ([98], .number (.finite false magnitudeOne))])) :=
  canonicalJson_eq_iff
    ⟨by decide, fun _ => trivial, nofun, fun _ => ⟨trivial, trivial, trivial⟩, trivial⟩
    ⟨by decide, fun _ => ⟨trivial, trivial, trivial⟩, fun _ => trivial, trivial⟩

end Tasq
