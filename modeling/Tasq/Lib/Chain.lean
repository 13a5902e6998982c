import Mathlib.Tactic

/-! Chains of records: each record supersedes at most one earlier one.

    A history is a chain when its first record supersedes nothing and every next one supersedes the
    record before it. A chain stays one when a record that supersedes its last one is added; its
    last record is the only one that is not superseded, and no record is superseded twice. -/

universe u v

namespace Chain

variable {κ : Type u} {ρ : Type v}

/-- Each record supersedes the one before it, the first one `prev`. -/
def Linked (supersedes : ρ → Option κ) : Option κ → List (κ × ρ) → Prop
  | _, [] => True
  | prev, x :: xs => supersedes x.2 = prev ∧ Linked supersedes (some x.1) xs

/-- The key of the last record. -/
def lastKey (xs : List (κ × ρ)) : Option κ := xs.getLast?.map Prod.fst

/-- The records, oldest first, are a chain. -/
structure IsChain (supersedes : ρ → Option κ) (xs : List (κ × ρ)) : Prop where
  linked : Linked supersedes none xs
  nodup : (xs.map Prod.fst).Nodup

variable {supersedes : ρ → Option κ} {xs : List (κ × ρ)}

theorem isChain_nil : IsChain supersedes ([] : List (κ × ρ)) := ⟨trivial, List.nodup_nil⟩

/-! ### Adding a record -/

theorem linked_concat {prev : Option κ} {x : κ × ρ} :
    Linked supersedes prev (xs ++ [x]) ↔
      Linked supersedes prev xs ∧ supersedes x.2 = (lastKey xs <|> prev) := by
  induction xs generalizing prev with
  | nil => simp [Linked, lastKey]
  | cons y ys ih =>
    rw [List.cons_append, Linked, ih, Linked, and_assoc]
    have hlast : (lastKey ys <|> some y.1) = (lastKey (y :: ys) <|> prev) := by
      rcases List.eq_nil_or_concat ys with rfl | ⟨zs, z, rfl⟩
      · simp [lastKey]
      · simp [lastKey, List.getLast?_cons]
    rw [hlast]

/-- CORRECT: a record that supersedes the last one extends the chain. -/
theorem IsChain.concat (h : IsChain supersedes xs) {x : κ × ρ} (hnew : x.1 ∉ xs.map Prod.fst)
    (hx : supersedes x.2 = lastKey xs) : IsChain supersedes (xs ++ [x]) := by
  constructor
  · rw [linked_concat]
    refine ⟨h.linked, ?_⟩
    rw [hx]
    cases lastKey xs <;> rfl
  · rw [List.map_append, List.nodup_append]
    refine ⟨h.nodup, by simp, ?_⟩
    intro a ha b hb hab
    obtain rfl : b = x.1 := by simpa using hb
    exact hnew (hab ▸ ha)

/-! ### What supersedes what -/

/-- A record of the tail of a chain supersedes an earlier record, or `prev`. -/
theorem Linked.supersedes_mem {prev : Option κ} (h : Linked supersedes prev xs) {x : κ × ρ}
    (hx : x ∈ xs) : supersedes x.2 = prev ∨ ∃ y ∈ xs, supersedes x.2 = some y.1 := by
  induction xs generalizing prev with
  | nil => cases hx
  | cons y ys ih =>
    obtain ⟨hy, hys⟩ := h
    rcases List.mem_cons.1 hx with rfl | hx
    · exact .inl hy
    · rcases ih hys hx with hprev | ⟨z, hz, hsup⟩
      · exact .inr ⟨y, .head _, hprev⟩
      · exact .inr ⟨z, .tail _ hz, hsup⟩

/-- What a record of a chain supersedes is in the chain. -/
theorem IsChain.supersedes_mem (h : IsChain supersedes xs) {x : κ × ρ} (hx : x ∈ xs) {k : κ}
    (hk : supersedes x.2 = some k) : ∃ y ∈ xs, y.1 = k := by
  rcases h.linked.supersedes_mem hx with hnone | ⟨y, hy, hsup⟩
  · rw [hnone] at hk
    cases hk
  · rw [hk] at hsup
    exact ⟨y, hy, (Option.some.inj hsup).symm⟩

/-- In the tail of a chain nothing supersedes `prev` but the first record. -/
theorem Linked.injOn {prev : Option κ} (h : Linked supersedes prev xs)
    (hnodup : (xs.map Prod.fst).Nodup) (hprev : ∀ y ∈ xs, prev ≠ some y.1) {x y : κ × ρ}
    (hx : x ∈ xs) (hy : y ∈ xs) (hxy : supersedes x.2 = supersedes y.2) : x = y := by
  induction xs generalizing prev with
  | nil => cases hx
  | cons z zs ih =>
    obtain ⟨hz, hzs⟩ := h
    rw [List.map_cons, List.nodup_cons] at hnodup
    have hfresh : ∀ w ∈ zs, some z.1 ≠ some w.1 := by
      intro w hw hzw
      exact hnodup.1 (Option.some.inj hzw ▸ List.mem_map_of_mem hw)
    have hapart : ∀ w ∈ zs, supersedes w.2 ≠ prev := by
      intro w hw hwp
      rcases hzs.supersedes_mem hw with hz' | ⟨v, hv, hsup⟩
      · exact hprev z (.head _) (hwp.symm.trans hz')
      · exact hprev v (.tail _ hv) (hwp.symm.trans hsup)
    rcases List.mem_cons.1 hx with hxz | hxs
    · rcases List.mem_cons.1 hy with hyz | hys
      · rw [hxz, hyz]
      · exact absurd (hxy.symm.trans (hxz ▸ hz)) (hapart y hys)
    · rcases List.mem_cons.1 hy with hyz | hys
      · exact absurd (hxy.trans (hyz ▸ hz)) (hapart x hxs)
      · exact ih hzs hnodup.2 hfresh hxs hys

/-- CORRECT: no record is superseded twice, and only one supersedes nothing. -/
theorem IsChain.injOn (h : IsChain supersedes xs) {x y : κ × ρ} (hx : x ∈ xs) (hy : y ∈ xs)
    (hxy : supersedes x.2 = supersedes y.2) : x = y :=
  h.linked.injOn h.nodup (fun _ _ => (Option.some_ne_none _).symm) hx hy hxy

/-- Every record but the last one is superseded. -/
theorem Linked.superseded {prev : Option κ} (h : Linked supersedes prev xs) {x : κ × ρ}
    (hx : x ∈ xs) : xs.getLast? = some x ∨ ∃ y ∈ xs, supersedes y.2 = some x.1 := by
  induction xs generalizing prev with
  | nil => cases hx
  | cons y ys ih =>
    obtain ⟨-, hys⟩ := h
    rcases List.mem_cons.1 hx with rfl | hx
    · cases ys with
      | nil => exact .inl rfl
      | cons z zs => exact .inr ⟨z, by simp, hys.1⟩
    · rcases ih hys hx with hlast | ⟨z, hz, hsup⟩
      · refine .inl ?_
        rw [List.getLast?_cons, hlast]
        rfl
      · exact .inr ⟨z, .tail _ hz, hsup⟩

/-- A record of the tail of a chain supersedes a record before it. -/
theorem Linked.last_not_superseded {prev : Option κ} (h : Linked supersedes prev xs)
    (hnodup : (xs.map Prod.fst).Nodup) {x y : κ × ρ} (hx : xs.getLast? = some x)
    (hprev : prev ≠ some x.1) (hy : y ∈ xs) : supersedes y.2 ≠ some x.1 := by
  induction xs generalizing prev with
  | nil => cases hy
  | cons z zs ih =>
    obtain ⟨hz, hzs⟩ := h
    rw [List.map_cons, List.nodup_cons] at hnodup
    rcases List.mem_cons.1 hy with rfl | hy
    · rw [hz]
      exact hprev
    · have hlast : zs.getLast? = some x := by
        rcases List.eq_nil_or_concat zs with rfl | ⟨ws, w, rfl⟩
        · cases hy
        · simpa [List.getLast?_cons] using hx
      refine ih hzs hnodup.2 hlast ?_ hy
      intro hzx
      exact hnodup.1 (Option.some.inj hzx ▸ List.mem_map_of_mem (List.mem_of_getLast? hlast))

/-- Of the records with a property, one supersedes none of them: the oldest. -/
theorem Linked.exists_first {prev : Option κ} (h : Linked supersedes prev xs) {P : κ × ρ → Prop}
    (hP : ∃ x ∈ xs, P x) :
    ∃ x ∈ xs, P x ∧ (supersedes x.2 = prev ∨ ∃ y ∈ xs, supersedes x.2 = some y.1 ∧ ¬ P y) := by
  induction xs generalizing prev with
  | nil => simp at hP
  | cons y ys ih =>
    obtain ⟨hy, hys⟩ := h
    by_cases hPy : P y
    · exact ⟨y, .head _, hPy, .inl hy⟩
    · obtain ⟨x, hx, hPx⟩ := hP
      have hrest : x ∈ ys := by
        rcases List.mem_cons.1 hx with rfl | hx
        · exact absurd hPx hPy
        · exact hx
      obtain ⟨z, hz, hPz, hsup | ⟨w, hw, hsup, hPw⟩⟩ := ih hys ⟨x, hrest, hPx⟩
      · exact ⟨z, .tail _ hz, hPz, .inr ⟨y, .head _, hsup, hPy⟩⟩
      · exact ⟨z, .tail _ hz, hPz, .inr ⟨w, .tail _ hw, hsup, hPw⟩⟩

/-- CORRECT: the last record is the one that no record supersedes. -/
theorem IsChain.unsuperseded_iff (h : IsChain supersedes xs) {x : κ × ρ} (hx : x ∈ xs) :
    (∀ y ∈ xs, supersedes y.2 ≠ some x.1) ↔ xs.getLast? = some x := by
  constructor
  · intro hfree
    rcases h.linked.superseded hx with hlast | ⟨y, hy, hsup⟩
    · exact hlast
    · exact absurd hsup (hfree y hy)
  · intro hlast y hy
    exact h.linked.last_not_superseded h.nodup hlast (Option.some_ne_none _).symm hy

end Chain
