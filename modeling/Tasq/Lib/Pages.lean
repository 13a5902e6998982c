import Mathlib.Data.List.Sort
import Mathlib.Tactic
import Tasq.Lib.Outcome

/-! Rows in parts: the first rows of a query, pages that are found by the last row of the page before,
    and lists cut into numbered pages.

    A negative limit is none; what a limit leaves out of ordered rows comes after all that it keeps.
    A page is what a query cuts from the rows after its cursor, and the walk follows the cursors
    until a page passes for the last. The pages of a list hold its elements in order, and numbered
    pages in any order sort back into the one order that their numbers give. -/

universe u

namespace Limit

variable {α : Type u} {limit : ℤ} {rows : List α} {x y : α}

/-- The rows that a limit leaves. -/
def limited (limit : ℤ) (rows : List α) : List α :=
  if limit < 0 then rows else rows.take limit.toNat

theorem mem_limited (h : limit < 0 ∨ rows.length ≤ limit) : x ∈ limited limit rows ↔ x ∈ rows := by
  unfold limited
  split
  · rfl
  · rename_i hlimit
    have hlength : rows.length ≤ limit.toNat := by
      rcases h with h | h <;> omega
    rw [List.take_of_length_le hlength]

theorem limited_sublist (limit : ℤ) (rows : List α) : (limited limit rows).Sublist rows := by
  unfold limited
  split
  · exact .refl rows
  · exact List.take_sublist _ _

/-- What is left out is among the rows after the limit. -/
theorem mem_drop_of_not_limited (hy : y ∈ rows) (hout : y ∉ limited limit rows) :
    0 ≤ limit ∧ y ∈ rows.drop limit.toNat := by
  unfold limited at hout
  split at hout
  · exact absurd hy hout
  · rename_i hlimit
    rw [← List.take_append_drop limit.toNat rows, List.mem_append] at hy
    exact ⟨not_lt.1 hlimit, hy.resolve_left hout⟩

/-- What a limit leaves out comes after all that it keeps. -/
theorem limited_before {r : α → α → Prop} (hrows : rows.Pairwise r) (hx : x ∈ limited limit rows)
    (hy : y ∈ rows) (hout : y ∉ limited limit rows) : r x y := by
  obtain ⟨hlimit, hdrop⟩ := mem_drop_of_not_limited hy hout
  rw [limited, if_neg (not_lt.2 hlimit)] at hx
  rw [← List.take_append_drop limit.toNat rows] at hrows
  exact (List.pairwise_append.1 hrows).2.2 x hx y hdrop

/-- Rows are left out only when there are as many as the limit says. -/
theorem length_limited (hy : y ∈ rows) (hout : y ∉ limited limit rows) :
    ((limited limit rows).length : ℤ) = limit := by
  obtain ⟨hlimit, hdrop⟩ := mem_drop_of_not_limited hy hout
  have hlength := List.length_pos_of_mem hdrop
  rw [limited, if_neg (not_lt.2 hlimit), List.length_take]
  rw [List.length_drop] at hlength
  omega

end Limit

namespace Keyset

open Outcome

variable {ε : Type u} {α : Type u} {r : α → α → Prop}

/-- The row comes after the cursor. -/
def After (r : α → α → Prop) (cursor : Option α) (x : α) : Prop := ∀ c ∈ cursor, r c x

instance decidableAfter (r : α → α → Prop) [DecidableRel r] (cursor : Option α) (x : α) :
    Decidable (After r cursor x) := by
  unfold After; infer_instance

/-- The pages from a cursor on, put together. -/
def walk (fetch : Option α → Except ε (List α)) (isLast : List α → Bool) (spent : ε) :
    ℕ → Option α → Except ε (List α)
  | 0, _ => .error spent
  | fuel + 1, cursor => do
    let page ← fetch cursor
    if isLast page then pure page
    else match page.getLast? with
      | none => pure []
      | some last => do
        let others ← walk fetch isLast spent fuel (some last)
        pure (page ++ others)

/-- After the last row of an initial part come the rows of the other part. -/
theorem filter_after [DecidableRel r] (hasymm : ∀ x y, r x y → ¬ r y x) {before rest : List α}
    (hrows : (before ++ rest).Pairwise r) :
    (before ++ rest).filter (fun x => After r before.getLast? x) = rest := by
  rcases List.eq_nil_or_concat' before with rfl | ⟨init, x, rfl⟩
  · simp [After]
  · obtain ⟨hbefore, -, hacross⟩ := List.pairwise_append.1 hrows
    have hout : (init ++ [x]).filter (fun y => After r (some x) y) = [] := by
      rw [List.filter_eq_nil_iff]
      intro y hy hafter
      have hxy : r x y := by simpa [After] using hafter
      rcases List.mem_append.1 hy with hy | hy
      · exact hasymm _ _ hxy ((List.pairwise_append.1 hbefore).2.2 y hy x (by simp))
      · rw [List.mem_singleton.1 hy] at hxy
        exact hasymm _ _ hxy hxy
    have hin : rest.filter (fun y => After r (some x) y) = rest := by
      rw [List.filter_eq_self]
      intro y hy
      simpa [After] using hacross x (by simp) y hy
    rw [List.getLast?_concat, List.filter_append, hout, hin, List.nil_append]

/-- A check that gives its row back does so for every row of a list. -/
theorem mapM_check {check : α → Except ε α} (hcheck : ∀ a b, check a = .ok b → b = a)
    {rows found : List α} (h : rows.mapM check = .ok found) : found = rows := by
  induction rows generalizing found with
  | nil =>
    rw [List.mapM_nil, pure_eq_ok] at h
    exact h.symm
  | cons a rows ih =>
    simp only [List.mapM_cons, bind_eq_ok, pure_eq_ok] at h
    obtain ⟨b, hb, others, hothers, rfl⟩ := h
    rw [hcheck a b hb, ih hothers]

variable [DecidableRel r] {rows : List α} {check : α → Except ε α} {cut : List α → List α}
  {fetch : Option α → Except ε (List α)} {isLast : List α → Bool} {spent : ε}

/-- RUN: from the end of an initial part, the walk gives the rest. -/
theorem walk_from (hasymm : ∀ x y, r x y → ¬ r y x) (hrows : rows.Pairwise r)
    (hcheck : ∀ a b, check a = .ok b → b = a) (hcutPre : ∀ l, cut l <+: l)
    (hempty : isLast [] = true) (hlast : ∀ l, isLast (cut l) = true → cut l = l)
    (hfetch : ∀ cursor, (∀ c ∈ cursor, c ∈ rows) →
      fetch cursor = (cut (rows.filter fun x => After r cursor x)).mapM check)
    (fuel : ℕ) :
    ∀ before rest : List α, rows = before ++ rest → rest.length < fuel →
      walk fetch isLast spent fuel before.getLast? = rest.mapM check := by
  induction fuel with
  | zero =>
    intro before rest _ hfuel
    omega
  | succ fuel ih =>
    rintro before rest rfl hfuel
    have hpage := hfetch before.getLast? fun c hc =>
      List.mem_append_left _ (List.mem_of_mem_getLast? hc)
    rw [filter_after hasymm hrows] at hpage
    obtain ⟨others, hcut⟩ := hcutPre rest
    rw [walk, hpage]
    cases hfound : (cut rest).mapM check with
    | error e =>
      rw [← hcut, List.mapM_append, hfound]
      rfl
    | ok page =>
      obtain rfl := mapM_check hcheck hfound
      change (if isLast (cut rest) = true then pure (cut rest) else _) = _
      split
      · rename_i hend
        rw [hlast rest hend] at hfound ⊢
        exact hfound.symm
      · rename_i hmore
        rcases List.eq_nil_or_concat' (cut rest) with hnil | ⟨init, x, hconcat⟩
        · exact absurd (hnil ▸ hempty) hmore
        · have hshort : others.length < fuel := by
            have hlength := congrArg List.length hcut
            rw [hconcat] at hlength
            simp only [List.length_append, List.length_singleton] at hlength
            omega
          have hnext := ih (before ++ cut rest) others (by rw [List.append_assoc, hcut]) hshort
          rw [hconcat, ← List.append_assoc, List.getLast?_concat] at hnext
          conv_rhs => rw [← hcut, List.mapM_append, hfound]
          rw [hconcat, List.getLast?_concat]
          change (do let others ← walk fetch isLast spent fuel (some x); _) = _
          rw [hnext]
          rfl

/-- CORRECT: from the first page on, the walk gives all the rows. -/
theorem walk_eq (hasymm : ∀ x y, r x y → ¬ r y x) (hrows : rows.Pairwise r)
    (hcheck : ∀ a b, check a = .ok b → b = a) (hcutPre : ∀ l, cut l <+: l)
    (hempty : isLast [] = true) (hlast : ∀ l, isLast (cut l) = true → cut l = l)
    (hfetch : ∀ cursor, (∀ c ∈ cursor, c ∈ rows) →
      fetch cursor = (cut (rows.filter fun x => After r cursor x)).mapM check)
    {fuel : ℕ} (hfuel : rows.length < fuel) :
    walk fetch isLast spent fuel none = rows.mapM check :=
  walk_from hasymm hrows hcheck hcutPre hempty hlast hfetch fuel [] rows rfl hfuel

end Keyset

namespace Pages

variable {α : Type*}

/-- `for (let i = 0; i < l.length; i += n) chunks.push(l.slice(i, i + n))` -/
def chunks (n : ℕ) (l : List α) : List (List α) :=
  (List.range ((l.length + n - 1) / n)).map fun k => (l.drop (k * n)).take n

/-- STEP: the first `m` pages hold the first `m * n` elements. -/
theorem flatten_take (n : ℕ) (l : List α) (m : ℕ) :
    ((List.range m).map fun k => (l.drop (k * n)).take n).flatten = l.take (m * n) := by
  induction m with
  | zero => simp
  | succ m ih =>
    rw [List.range_succ, List.map_append, List.flatten_append, ih, Nat.succ_mul, List.take_add]
    simp

/-- CORRECT: the pages hold the elements of the list in order. -/
theorem flatten_chunks {n : ℕ} (hn : 0 < n) (l : List α) : (chunks n l).flatten = l := by
  rw [chunks, flatten_take]
  refine List.take_of_length_le ?_
  have hmod := Nat.lt_div_mul_add (a := l.length + n - 1) hn
  omega

theorem length_le_of_mem_chunks {n : ℕ} {l page : List α} (h : page ∈ chunks n l) :
    page.length ≤ n := by
  obtain ⟨k, -, rfl⟩ := List.mem_map.1 h
  exact List.length_take_le _ _

/-! ### Numbered pages -/

section Numbered

variable (number : α → ℕ)

/-- `pages.sort((left, right) => left.number - right.number)` -/
def inOrder (pages : List α) : List α := pages.insertionSort fun a b => number a ≤ number b

theorem inOrder_perm (pages : List α) : (inOrder number pages).Perm pages :=
  List.perm_insertionSort _ _

/-- CORRECT: pages numbered upwards come back from any order. -/
theorem inOrder_eq {pages others : List α} (h : pages.Pairwise fun a b => number a < number b)
    (hperm : others.Perm pages) : inOrder number others = pages := by
  have hsame : (inOrder number others).Perm pages := (inOrder_perm number others).trans hperm
  have : Std.Total fun a b : α => number a ≤ number b := ⟨fun _ _ => le_total _ _⟩
  have : IsTrans α fun a b => number a ≤ number b := ⟨fun _ _ _ => le_trans⟩
  refine hsame.eq_of_pairwise ?_ (List.pairwise_insertionSort _ _)
    (h.imp fun hlt => hlt.le)
  -- Two pages with one number are one page, because the numbers of `pages` are distinct.
  intro a b ha hb hab hba
  have hinj : Set.InjOn number {x | x ∈ pages} :=
    List.inj_on_of_nodup_map ((List.pairwise_map.2 h).imp fun hlt => hlt.ne)
  exact hinj (hsame.subset ha) hb (le_antisymm hab hba)

end Numbered

end Pages
