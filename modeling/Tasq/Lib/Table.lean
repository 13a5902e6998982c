import Mathlib.Data.List.Sort
import Mathlib.Data.Prod.Lex
import Mathlib.Tactic

/-! Tables: rows under a primary key, read in key order.

    A table is an extensional tree map, so two tables are equal exactly when every key has the same
    row in both. The lemmas say what a query over the rows finds (`has`, `rows`), and that the rows
    come in increasing order of their keys. -/

universe u v

instance instLawfulEqOrdLex {α β : Type*} [LinearOrder α] [LinearOrder β] :
    Std.LawfulEqOrd (α ×ₗ β) where
  eq_of_compare := by
    intro a b h
    exact compare_eq_iff_eq.1 h
  compare_self := by
    intro a
    exact compare_eq_iff_eq.2 rfl

/-- Rows of type `ρ` under primary keys of type `κ`. -/
abbrev Table (κ : Type u) (ρ : Type v) [Ord κ] := Std.ExtTreeMap κ ρ

namespace Table

variable {κ : Type u} {ρ : Type v} [Ord κ] [Std.TransOrd κ] [Std.LawfulEqOrd κ]

/-- Some row of the table satisfies `p`. -/
def has (t : Table κ ρ) (p : κ → ρ → Bool) : Bool := t.toList.any fun e => p e.1 e.2

/-- The rows that satisfy `p`, in key order. -/
def rows (t : Table κ ρ) (p : κ → ρ → Bool) : List (κ × ρ) := t.toList.filter fun e => p e.1 e.2

omit [Std.LawfulEqOrd κ] in
theorem mem_of_getElem? {t : Table κ ρ} {k : κ} {r : ρ} (h : t[k]? = some r) : k ∈ t :=
  Std.ExtTreeMap.mem_iff_isSome_getElem?.2 (by simp [h])

theorem mem_toList {t : Table κ ρ} {e : κ × ρ} : e ∈ t.toList ↔ t[e.1]? = some e.2 :=
  Std.ExtTreeMap.mem_toList_iff_getElem?_eq_some

/-- No key comes twice. -/
theorem keys_nodup (t : Table κ ρ) : (t.toList.map Prod.fst).Nodup := by
  rw [List.Nodup, List.pairwise_map]
  refine (Std.ExtTreeMap.distinct_keys_toList (t := t)).imp fun {a b} hdistinct heq => ?_
  exact hdistinct (Std.compare_eq_iff_eq.2 heq)

theorem has_eq_true {t : Table κ ρ} {p : κ → ρ → Bool} :
    has t p = true ↔ ∃ k r, t[k]? = some r ∧ p k r = true := by
  simp only [has, List.any_eq_true, Prod.exists, mem_toList]

theorem has_eq_false {t : Table κ ρ} {p : κ → ρ → Bool} :
    has t p = false ↔ ∀ k r, t[k]? = some r → p k r = false := by
  simp only [has, List.any_eq_false, Prod.forall, mem_toList, Bool.not_eq_true]

theorem mem_rows {t : Table κ ρ} {p : κ → ρ → Bool} {e : κ × ρ} :
    e ∈ rows t p ↔ t[e.1]? = some e.2 ∧ p e.1 e.2 = true := by
  simp only [rows, List.mem_filter, mem_toList]

theorem rows_eq_nil {t : Table κ ρ} {p : κ → ρ → Bool} :
    rows t p = [] ↔ ∀ k r, t[k]? = some r → p k r = false := by
  simp only [rows, List.filter_eq_nil_iff, Prod.forall, mem_toList, Bool.not_eq_true]

/-- The one row that satisfies `p`. -/
theorem rows_eq_singleton {t : Table κ ρ} {p : κ → ρ → Bool} {k : κ} {r : ρ}
    (hk : t[k]? = some r) (hp : p k r = true)
    (honly : ∀ (k' : κ) r', t[k']? = some r' → p k' r' = true → k' = k) : rows t p = [(k, r)] := by
  have hall : ∀ e ∈ rows t p, e = (k, r) := by
    rintro ⟨k', r'⟩ he
    obtain ⟨hk', hp'⟩ := mem_rows.1 he
    obtain rfl := honly k' r' hk' hp'
    rw [hk, Option.some.injEq] at hk'
    rw [hk']
  have hmem : (k, r) ∈ rows t p := mem_rows.2 ⟨hk, hp⟩
  have hnodup : (rows t p).Nodup := (List.Nodup.of_map _ (keys_nodup t)).filter _
  rcases hrows : rows t p with _ | ⟨a, _ | ⟨b, rest⟩⟩
  · simp [hrows] at hmem
  · rw [hall a (by simp [hrows])]
  · rw [hrows, hall a (by simp [hrows]), hall b (by simp [hrows])] at hnodup
    simp at hnodup

/-! ### Keys -/

/-- The keys that satisfy `p`, in order. -/
def keysWhere (t : Table κ ρ) (p : κ → ρ → Bool) : List κ := (rows t p).map Prod.fst

theorem mem_keysWhere {t : Table κ ρ} {p : κ → ρ → Bool} {k : κ} :
    k ∈ keysWhere t p ↔ ∃ r, t[k]? = some r ∧ p k r = true := by
  simp [keysWhere, mem_rows]

/-- No key is listed twice. -/
theorem keysWhere_nodup (t : Table κ ρ) (p : κ → ρ → Bool) : (keysWhere t p).Nodup :=
  (keys_nodup t).sublist (List.filter_sublist.map Prod.fst)

/-- Rows come in increasing order of their keys. -/
theorem rows_pairwise_lt {ρ : Type v} (t : Table ℕ ρ) (p : ℕ → ρ → Bool) :
    (rows t p).Pairwise fun a b => a.1 < b.1 := by
  refine List.Pairwise.filter _ ?_
  exact (Std.ExtTreeMap.ordered_keys_toList (t := t)).imp fun h => Nat.compare_eq_lt.1 h

/-- The last row is the one with the largest key. -/
theorem rows_getLast? {ρ : Type v} {t : Table ℕ ρ} {p : ℕ → ρ → Bool} {k : ℕ} {r : ρ}
    (h : (rows t p).getLast? = some (k, r)) :
    t[k]? = some r ∧ p k r = true ∧ ∀ (k' : ℕ) r', t[k']? = some r' → p k' r' = true → k' ≤ k := by
  obtain ⟨before, hrows⟩ := List.getLast?_eq_some_iff.1 h
  have hmem : (k, r) ∈ rows t p := by simp [hrows]
  obtain ⟨hk, hp⟩ := mem_rows.1 hmem
  refine ⟨hk, hp, fun k' r' hk' hp' => ?_⟩
  have hsorted := rows_pairwise_lt t p
  have hmem' : (k', r') ∈ rows t p := mem_rows.2 ⟨hk', hp'⟩
  rw [hrows] at hsorted hmem'
  obtain hbefore | hlast := List.mem_append.1 hmem'
  · exact ((List.pairwise_append.1 hsorted).2.2 _ hbefore (k, r) (by simp)).le
  · rw [List.mem_singleton, Prod.mk.injEq] at hlast
    exact hlast.1.le

theorem keysWhere_sortedLT {ρ : Type v} (t : Table ℕ ρ) (p : ℕ → ρ → Bool) :
    (keysWhere t p).Pairwise (· < ·) :=
  List.pairwise_map.2 (rows_pairwise_lt t p)

/-- Keys that fill an interval are listed as that interval. -/
theorem keysWhere_eq_range' {ρ : Type v} (t : Table ℕ ρ) (p : ℕ → ρ → Bool) (a n : ℕ)
    (h : ∀ k, (∃ r, t[k]? = some r ∧ p k r = true) ↔ a ≤ k ∧ k < a + n) :
    keysWhere t p = List.range' a n := by
  refine List.Pairwise.eq_of_mem_iff (keysWhere_sortedLT t p) List.pairwise_lt_range' fun k => ?_
  rw [mem_keysWhere, h, List.mem_range'_1]

/-- Two tables with the same row under every key are equal. -/
theorem ext_rows {t u : Table κ ρ} (h : ∀ k : κ, t[k]? = u[k]?) : t = u :=
  Std.ExtTreeMap.ext_getElem? h

theorem getElem?_insert' (t : Table κ ρ) [DecidableEq κ] (k a : κ) (r : ρ) :
    (t.insert k r)[a]? = if k = a then some r else t[a]? := by
  rw [Std.ExtTreeMap.getElem?_insert]
  simp only [Std.compare_eq_iff_eq]

/-! ### Rows replaced one for one -/

/-- The same keys, with rows that `R` relates. -/
def Revised {σ : Type*} (R : ρ → σ → Prop) (t : Table κ ρ) (u : Table κ σ) : Prop :=
  ∀ k : κ, (t[k]? = none ∧ u[k]? = none) ∨ ∃ a b, t[k]? = some a ∧ u[k]? = some b ∧ R a b

section

variable {R S : ρ → ρ → Prop} {t u v : Table κ ρ} {k : κ} {a b : ρ}

omit [Std.LawfulEqOrd κ] in
theorem Revised.refl (hR : ∀ a, R a a) (t : Table κ ρ) : Revised R t t := by
  intro k
  rcases h : t[k]? with _ | a
  · exact .inl ⟨rfl, rfl⟩
  · exact .inr ⟨a, a, rfl, rfl, hR a⟩

omit [Std.LawfulEqOrd κ] in
theorem Revised.trans (hR : ∀ a b c, R a b → R b c → R a c) (h : Revised R t u)
    (h' : Revised R u v) : Revised R t v := by
  intro k
  rcases h k with ⟨ht, hu⟩ | ⟨a, b, ht, hu, hab⟩
  · rcases h' k with ⟨-, hv⟩ | ⟨_, _, hu', -, -⟩
    · exact .inl ⟨ht, hv⟩
    · rw [hu] at hu'
      cases hu'
  · rcases h' k with ⟨hu', -⟩ | ⟨b', c, hu', hv, hbc⟩
    · rw [hu] at hu'
      cases hu'
    · obtain rfl := Option.some.inj (hu.symm.trans hu')
      exact .inr ⟨a, c, ht, hv, hR a b c hab hbc⟩

omit [Std.LawfulEqOrd κ] in
theorem Revised.mono (hRS : ∀ a b, R a b → S a b) (h : Revised R t u) : Revised S t u :=
  fun k => (h k).imp_right fun ⟨a, b, ht, hu, hab⟩ => ⟨a, b, ht, hu, hRS a b hab⟩

omit [Std.LawfulEqOrd κ] in
/-- The row that a row comes from. -/
theorem Revised.before (h : Revised R t u) (hu : u[k]? = some b) :
    ∃ a, t[k]? = some a ∧ R a b := by
  rcases h k with ⟨-, hu'⟩ | ⟨a, b', ht, hu', hab⟩
  · rw [hu] at hu'
    cases hu'
  · obtain rfl := Option.some.inj (hu.symm.trans hu')
    exact ⟨a, ht, hab⟩

omit [Std.LawfulEqOrd κ] in
/-- The row that comes of a row. -/
theorem Revised.after (h : Revised R t u) (ht : t[k]? = some a) :
    ∃ b, u[k]? = some b ∧ R a b := by
  rcases h k with ⟨ht', -⟩ | ⟨a', b, ht', hu, hab⟩
  · rw [ht] at ht'
    cases ht'
  · obtain rfl := Option.some.inj (ht.symm.trans ht')
    exact ⟨b, hu, hab⟩

/-- Replacing one row. -/
theorem Revised.insert [DecidableEq κ] (hR : ∀ a, R a a) (ht : t[k]? = some a) (hab : R a b) :
    Revised R t (t.insert k b) := by
  intro k'
  rw [getElem?_insert']
  split
  · rename_i hk
    exact .inr ⟨a, b, hk ▸ ht, rfl, hab⟩
  · exact Revised.refl hR t k'

end

/-- Replacing every row. -/
theorem Revised.map {σ : Type*} {R : ρ → σ → Prop} {t : Table κ ρ} (f : κ → ρ → σ)
    (h : ∀ k a, t[k]? = some a → R a (f k a)) : Revised R t (t.map f) := by
  intro k
  rw [Std.ExtTreeMap.getElem?_map]
  rcases hk : t[k]? with _ | a
  · exact .inl ⟨rfl, rfl⟩
  · exact .inr ⟨a, f k a, rfl, rfl, h k a hk⟩

/-- Reading revised rows through functions. -/
theorem Revised.image {α β σ : Type*} {R : ρ → σ → Prop} {S : α → β → Prop} {t : Table κ ρ}
    {u : Table κ σ} {f : ρ → α} {g : σ → β} (hRS : ∀ a b, R a b → S (f a) (g b))
    (h : Revised R t u) : Revised S (t.map fun _ => f) (u.map fun _ => g) := by
  intro k
  rw [Std.ExtTreeMap.getElem?_map, Std.ExtTreeMap.getElem?_map]
  rcases h k with ⟨ht, hu⟩ | ⟨a, b, ht, hu, hab⟩
  · exact .inl ⟨by rw [ht]; rfl, by rw [hu]; rfl⟩
  · exact .inr ⟨f a, g b, by rw [ht]; rfl, by rw [hu]; rfl, hRS a b hab⟩

/-- Reading rows through a function commutes with an insertion. -/
theorem map_insert {σ : Type*} [DecidableEq κ] (t : Table κ ρ) (f : κ → ρ → σ) (k : κ) (a : ρ) :
    (t.insert k a).map f = (t.map f).insert k (f k a) := by
  refine ext_rows fun k' => ?_
  simp only [Std.ExtTreeMap.getElem?_map, getElem?_insert']
  split
  · rename_i hk
    rw [Option.map_some, hk]
  · rfl

/-! ### Updating many rows -/

/-- Updating a row that is not there. -/
theorem modify_of_none [DecidableEq κ] {t : Table κ ρ} {k : κ} (h : t[k]? = none) (f : ρ → ρ) :
    t.modify k f = t := by
  refine ext_rows fun k' => ?_
  rw [Std.ExtTreeMap.getElem?_modify]
  split
  · rename_i hk
    obtain rfl := Std.LawfulEqOrd.eq_of_compare hk
    rw [h]
    rfl
  · rfl

/-- Updating a row that is there. -/
theorem modify_of_some [DecidableEq κ] {t : Table κ ρ} {k : κ} {a : ρ} (h : t[k]? = some a)
    (f : ρ → ρ) : t.modify k f = t.insert k (f a) := by
  refine ext_rows fun k' => ?_
  rw [Std.ExtTreeMap.getElem?_modify, getElem?_insert']
  simp only [Std.compare_eq_iff_eq]
  split
  · rw [h]
    rfl
  · rfl

section

variable [DecidableEq κ] {g : ρ → ρ} (hg : ∀ a, g (g a) = g a)
include hg

theorem getElem?_foldl_modify (t : Table κ ρ) (ks : List κ) (k : κ) :
    (ks.foldl (fun u k => u.modify k g) t)[k]? = if k ∈ ks then t[k]?.map g else t[k]? := by
  induction ks generalizing t with
  | nil => simp
  | cons a ks ih =>
    rw [List.foldl_cons, ih, Std.ExtTreeMap.getElem?_modify]
    simp only [Std.compare_eq_iff_eq, List.mem_cons]
    rcases eq_or_ne a k with rfl | hne
    · rcases t[a]? with _ | r <;> simp [hg]
    · simp [hne, Ne.symm hne]

/-- Updating the rows that satisfy `p` one after another. -/
theorem foldl_modify_keysWhere (t : Table κ ρ) (p : κ → ρ → Bool) :
    (keysWhere t p).foldl (fun u k => u.modify k g) t =
      t.map fun k r => if p k r = true then g r else r := by
  refine ext_rows fun k => ?_
  rw [getElem?_foldl_modify hg, Std.ExtTreeMap.getElem?_map]
  rcases hk : t[k]? with _ | r
  · simp
  · by_cases hp : p k r = true
    · rw [if_pos (mem_keysWhere.2 ⟨r, hk, hp⟩)]
      simp [hp]
    · rw [if_neg]
      · simp [hp]
      · rw [mem_keysWhere]
        rintro ⟨r', hr', hp'⟩
        rw [hk, Option.some.injEq] at hr'
        exact hp (hr' ▸ hp')

end

/-! ### Inserting many rows -/

/-- The table with a row for each element. -/
def insertAll {α : Type*} (t : Table κ ρ) (key : α → κ) (row : α → ρ) (xs : List α) : Table κ ρ :=
  xs.foldl (fun t x => t.insert (key x) (row x)) t

section

variable {α : Type*} [DecidableEq κ] (t : Table κ ρ) (key : α → κ) (row : α → ρ)

omit [Std.LawfulEqOrd κ] [DecidableEq κ] in
@[simp] theorem insertAll_nil : insertAll t key row [] = t := rfl

omit [Std.LawfulEqOrd κ] [DecidableEq κ] in
@[simp] theorem insertAll_cons (x : α) (xs : List α) :
    insertAll t key row (x :: xs) = insertAll (t.insert (key x) (row x)) key row xs := rfl

/-- The rows under other keys stay. -/
theorem insertAll_of_notMem {xs : List α} {k : κ} (hk : k ∉ xs.map key) :
    (insertAll t key row xs)[k]? = t[k]? := by
  induction xs generalizing t with
  | nil => rfl
  | cons x xs ih =>
    simp only [List.map_cons, List.mem_cons, not_or] at hk
    rw [insertAll_cons, ih _ hk.2, getElem?_insert', if_neg (Ne.symm hk.1)]

omit [DecidableEq κ] in
/-- A key is in the table when it was there or an element brings it. -/
theorem mem_insertAll {xs : List α} {k : κ} :
    k ∈ insertAll t key row xs ↔ k ∈ t ∨ k ∈ xs.map key := by
  induction xs generalizing t with
  | nil => simp
  | cons x xs ih =>
    rw [insertAll_cons, ih, Std.ExtTreeMap.mem_insert, Std.compare_eq_iff_eq, List.map_cons,
      List.mem_cons]
    tauto

/-- Under distinct keys, every element finds its row. -/
theorem insertAll_of_mem {xs : List α} (hnodup : (xs.map key).Nodup) {x : α} (hx : x ∈ xs) :
    (insertAll t key row xs)[key x]? = some (row x) := by
  induction xs generalizing t with
  | nil => cases hx
  | cons y xs ih =>
    rw [List.map_cons, List.nodup_cons] at hnodup
    obtain rfl | hx := List.mem_cons.1 hx
    · rw [insertAll_cons, insertAll_of_notMem _ _ _ hnodup.1, getElem?_insert', if_pos rfl]
    · exact ih _ hnodup.2 hx

end

end Table
