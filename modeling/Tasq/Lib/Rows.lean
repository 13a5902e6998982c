import Mathlib.Tactic
import Tasq.Lib.Outcome

/-! Rows of a relation, in the order of their insertion: an insertion that a uniqueness constraint
    may refuse, and an update that must meet exactly one row. -/

namespace Rows

open Outcome

variable {ε ρ κ : Type}

/-- Insert `row`, unless it would stand beside a row that it clashes with. -/
def insertRow (rows : List ρ) (clash : ρ → Prop) [DecidablePred clash] (row : ρ) (e : ε) :
    Except ε (List ρ) := do
  refuse (∃ r ∈ rows, clash r) e
  pure (rows ++ [row])

/-- Update the rows that satisfy `p`, which must be exactly one. -/
def updateRow (rows : List ρ) (p : ρ → Prop) [DecidablePred p] (f : ρ → ρ) (e : ε) :
    Except ε (List ρ) := do
  refuse (rows.countP (fun r => p r) ≠ 1) e
  pure (rows.map fun r => if p r then f r else r)

section

variable {rows rows' : List ρ} {row r : ρ} {e : ε} {clash p : ρ → Prop} [DecidablePred clash]
  [DecidablePred p] {f : ρ → ρ}

theorem insertRow_eq_ok : insertRow rows clash row e = .ok rows' ↔
    (∀ r ∈ rows, ¬ clash r) ∧ rows ++ [row] = rows' := by
  simp only [insertRow, bind_eq_ok, refuse_eq_ok, pure_eq_ok, exists_const, not_exists, not_and]

theorem updateRow_eq_ok : updateRow rows p f e = .ok rows' ↔
    rows.countP (fun r => p r) = 1 ∧ rows.map (fun r => if p r then f r else r) = rows' := by
  simp only [updateRow, bind_eq_ok, refuse_eq_ok, pure_eq_ok, exists_const, ne_eq, not_not]

/-- An insertion keeps keys unique when rows with the key of the new one clash with it. -/
theorem insertRow_nodup {key : ρ → κ} (hrows : (rows.map key).Nodup)
    (hclash : ∀ r, key r = key row → clash r) (h : insertRow rows clash row e = .ok rows') :
    (rows'.map key).Nodup := by
  obtain ⟨hnone, rfl⟩ := insertRow_eq_ok.1 h
  rw [List.map_append, List.nodup_append]
  refine ⟨hrows, by simp, ?_⟩
  intro k hk k' hk' heq
  obtain ⟨r, hr, rfl⟩ := List.mem_map.1 hk
  rw [List.map_singleton, List.mem_singleton] at hk'
  exact hnone r hr (hclash r (heq.trans hk'))

/-- The row that an update meets, and the only one. -/
theorem updateRow_found (h : updateRow rows p f e = .ok rows') : ∃ r ∈ rows, p r := by
  obtain ⟨hcount, -⟩ := updateRow_eq_ok.1 h
  have hpos : 0 < rows.countP fun r => p r := by omega
  obtain ⟨r, hr, hp⟩ := List.countP_pos_iff.1 hpos
  exact ⟨r, hr, by simpa using hp⟩

/-- What an update leaves of a key. -/
theorem updateRow_map {key : ρ → κ} (hkey : ∀ r, key (f r) = key r)
    (h : updateRow rows p f e = .ok rows') : rows'.map key = rows.map key := by
  obtain ⟨-, rfl⟩ := updateRow_eq_ok.1 h
  rw [List.map_map]
  refine List.map_congr_left fun r _ => ?_
  rw [Function.comp_apply]
  split
  · exact hkey r
  · rfl

/-- An update that leaves a key alone keeps it unique. -/
theorem updateRow_nodup {key : ρ → κ} (hrows : (rows.map key).Nodup)
    (h : updateRow rows p f e = .ok rows') (hkey : ∀ r, key (f r) = key r) :
    (rows'.map key).Nodup := by
  rw [updateRow_map hkey h]
  exact hrows

/-- Every row after an update was there before, or comes of the row that was met. -/
theorem mem_updateRow (h : updateRow rows p f e = .ok rows') (hr : r ∈ rows') :
    (r ∈ rows ∧ ¬ p r) ∨ ∃ old ∈ rows, p old ∧ r = f old := by
  obtain ⟨-, rfl⟩ := updateRow_eq_ok.1 h
  obtain ⟨old, hold, rfl⟩ := List.mem_map.1 hr
  split
  · exact .inr ⟨old, hold, ‹_›, rfl⟩
  · exact .inl ⟨hold, ‹_›⟩

/-- A row that an update does not meet stays. -/
theorem mem_updateRow_of_not (h : updateRow rows p f e = .ok rows') (hr : r ∈ rows) (hp : ¬ p r) :
    r ∈ rows' := by
  obtain ⟨-, rfl⟩ := updateRow_eq_ok.1 h
  exact List.mem_map.2 ⟨r, hr, by rw [if_neg hp]⟩

/-- Rows that an update does not meet and does not bring about are selected as before. -/
theorem filter_updateRow {q : ρ → Bool} (hp : ∀ r, p r → q r = false)
    (hf : ∀ r, p r → q (f r) = false) (h : updateRow rows p f e = .ok rows') :
    rows'.filter q = rows.filter q := by
  obtain ⟨-, rfl⟩ := updateRow_eq_ok.1 h
  clear h
  induction rows with
  | nil => rfl
  | cons r rows ih =>
    rw [List.map_cons]
    split
    · rename_i hr
      rw [List.filter_cons_of_neg (by simp [hf r hr]), List.filter_cons_of_neg (by simp [hp r hr]),
        ih]
    · rw [List.filter_cons, List.filter_cons, ih]

/-- An inserted row that is not selected leaves the selection as it was. -/
theorem filter_insertRow {q : ρ → Bool} (hrow : q row = false)
    (h : insertRow rows clash row e = .ok rows') : rows'.filter q = rows.filter q := by
  obtain ⟨-, rfl⟩ := insertRow_eq_ok.1 h
  rw [List.filter_append, List.filter_cons_of_neg (by simp [hrow]), List.filter_nil,
    List.append_nil]

end

/-- Tables that agree on a selection agree on every search within it. -/
theorem find?_of_filter_eq {rows rows' : List ρ} {p q : ρ → Bool}
    (h : rows'.filter q = rows.filter q) (hp : ∀ r, p r → q r) : rows'.find? p = rows.find? p := by
  have hfind : ∀ values : List ρ, (values.filter q).find? p = values.find? p := by
    intro values
    rw [List.find?_filter]
    congr 1
    funext r
    by_cases hr : p r
    · simp [hr, hp r hr]
    · simp [hr]
  rw [← hfind rows', h, hfind rows]

/-- Tables that agree on a selection agree on every selection within it. -/
theorem filter_of_filter_eq {rows rows' : List ρ} {p q : ρ → Bool}
    (h : rows'.filter q = rows.filter q) (hp : ∀ r, p r → q r) :
    rows'.filter p = rows.filter p := by
  have hfilter : ∀ values : List ρ, (values.filter q).filter p = values.filter p := by
    intro values
    rw [List.filter_filter]
    congr 1
    funext r
    by_cases hr : p r
    · simp [hr, hp r hr]
    · simp [hr]
  rw [← hfilter rows', h, hfilter rows]

/-- Tables that agree on a selection have the same rows in it. -/
theorem mem_of_filter_eq {rows rows' : List ρ} {q : ρ → Bool} (h : rows'.filter q = rows.filter q)
    {r : ρ} (hr : q r) : r ∈ rows' ↔ r ∈ rows := by
  have hmem : r ∈ rows'.filter q ↔ r ∈ rows.filter q := by rw [h]
  simpa [hr] using hmem

/-- Under unique keys, a row is the one that its key finds. -/
theorem find?_of_nodup {rows : List ρ} [DecidableEq κ] {key : ρ → κ} (h : (rows.map key).Nodup)
    {r : ρ} (hr : r ∈ rows) : rows.find? (fun s => key s = key r) = some r := by
  obtain ⟨s, hs⟩ : ∃ s, rows.find? (fun s => key s = key r) = some s := by
    rw [← Option.isSome_iff_exists, List.find?_isSome]
    exact ⟨r, hr, by simp⟩
  have hkey : key s = key r := by simpa using List.find?_some hs
  rw [hs, List.inj_on_of_nodup_map h (List.mem_of_find?_eq_some hs) hr hkey]

/-- Among rows with one first part of a key, the second part is unique. -/
theorem nodup_map_filter {κ' : Type} {rows : List ρ} {key : ρ → κ} {key' : ρ → κ'}
    (h : (rows.map fun r => (key r, key' r)).Nodup) {p : ρ → Bool} {k : κ}
    (hp : ∀ r, p r → key r = k) : ((rows.filter p).map key').Nodup := by
  have hfilter : ((rows.filter p).map fun r => (key r, key' r)).Nodup :=
    (List.filter_sublist.map _).nodup h
  have heq : (rows.filter p).map (fun r => (key r, key' r)) =
      ((rows.filter p).map key').map (Prod.mk k) := by
    rw [List.map_map]
    exact List.map_congr_left fun r hr => by rw [Function.comp_apply, hp r (List.mem_filter.1 hr).2]
  rw [heq] at hfilter
  exact hfilter.of_map

end Rows
