import Mathlib.Tactic
import Tasq.Lib.Run
import Tasq.Lib.Table

/-! Fenced leases: rows of a table, each for one resource and under one fence, that stay in the
    table when they are released.

    `Fenced` is the invariant of such a table: the fences of a resource are `1, …, n`, no two rows
    share one, and only the row with the highest fence may be unreleased. A transaction `Turns` the
    table: it revises rows without reviving any, and may then issue one row under the next fence of
    a resource that has no unreleased row. Turns keep the invariant (`Fenced.turn`), and a run of
    them issues consecutive fences (`trace_issued`). -/

universe u v w

/-- How a row reads as a lease. -/
structure Lease (ρ : Type u) (τ : Type v) where
  resource : ρ → τ
  fence : ρ → ℕ
  released : ρ → Bool

namespace Lease

variable {κ : Type w} {ρ : Type u} {τ : Type v} [Ord κ] [Std.TransOrd κ] (lease : Lease ρ τ)

/-- Row `r` under key `k` is a lease of `x`. -/
def Leases (t : Table κ ρ) (x : τ) (k : κ) (r : ρ) : Prop := t[k]? = some r ∧ lease.resource r = x

/-- Row `r` under key `k` is an unreleased lease of `x`. -/
def Unreleased (t : Table κ ρ) (x : τ) (k : κ) (r : ρ) : Prop :=
  lease.Leases t x k r ∧ lease.released r = false

/-- INVARIANT: the fences of each resource, and who may be unreleased. -/
structure Fenced (t : Table κ ρ) : Prop where
  positive : ∀ x k r, lease.Leases t x k r → 0 < lease.fence r
  distinct : ∀ x k r k' r', lease.Leases t x k r → lease.Leases t x k' r' →
    lease.fence r = lease.fence r' → k = k'
  dense : ∀ x k r n, lease.Leases t x k r → 0 < n → n ≤ lease.fence r →
    ∃ k' r', lease.Leases t x k' r' ∧ lease.fence r' = n
  last : ∀ x k r k' r', lease.Unreleased t x k r → lease.Leases t x k' r' →
    lease.fence r' ≤ lease.fence r

/-- The highest fence of `x` is `n`; it is 0 when `x` was never leased. -/
structure Highest (t : Table κ ρ) (x : τ) (n : ℕ) : Prop where
  le : ∀ k r, lease.Leases t x k r → lease.fence r ≤ n
  reached : n = 0 ∨ ∃ k r, lease.Leases t x k r ∧ lease.fence r = n

/-- Rows stay, with their resource and fence, and no released row is revived. -/
structure Revises (t t' : Table κ ρ) : Prop where
  keys : ∀ k : κ, k ∈ t' ↔ k ∈ t
  rows : ∀ (k : κ) r r', t[k]? = some r → t'[k]? = some r' →
    lease.resource r' = lease.resource r ∧ lease.fence r' = lease.fence r ∧
      (lease.released r = true → lease.released r' = true)

/-- `t'` is `t` with one new row, under the next fence of a resource without unreleased row. -/
structure Issues (t t' : Table κ ρ) (k : κ) (r : ρ) : Prop where
  fresh : k ∉ t
  inserted : t' = t.insert k r
  idle : ∀ k' r', ¬ lease.Unreleased t (lease.resource r) k' r'
  next : ∃ n, lease.Highest t (lease.resource r) n ∧ lease.fence r = n + 1

/-- What one transaction does to the table. -/
inductive Turns (t t' : Table κ ρ) : Prop
  | revise (h : lease.Revises t t')
  | issue (m : Table κ ρ) (k : κ) (r : ρ) (h : lease.Revises t m) (h' : lease.Issues m t' k r)

/-- The fences of `x` that `t'` has under keys that are not in `t`. -/
def issued [DecidableEq τ] (x : τ) (t t' : Table κ ρ) : List ℕ :=
  (Table.rows t' fun k r => decide (k ∉ t) && decide (lease.resource r = x)).map
    fun e => lease.fence e.2

variable {lease}

/-! ### Reading the invariant -/

/-- At most one lease of a resource is unreleased. -/
theorem Fenced.one_unreleased {t : Table κ ρ} (ht : lease.Fenced t) {x : τ} {k k' : κ} {r r' : ρ}
    (h : lease.Unreleased t x k r) (h' : lease.Unreleased t x k' r') : k = k' :=
  ht.distinct x k r k' r' h.1 h'.1
    (le_antisymm (ht.last x k' r' k r h' h.1) (ht.last x k r k' r' h h'.1))

/-- The unreleased lease has the highest fence. -/
theorem Fenced.highest_of_unreleased {t : Table κ ρ} (ht : lease.Fenced t) {x : τ} {k : κ} {r : ρ}
    (h : lease.Unreleased t x k r) : lease.Highest t x (lease.fence r) :=
  ⟨fun k' r' h' => ht.last x k r k' r' h h', .inr ⟨k, r, h.1, rfl⟩⟩

/-- A resource has one highest fence. -/
theorem Highest.unique {t : Table κ ρ} {x : τ} {n m : ℕ} (hn : lease.Highest t x n)
    (hm : lease.Highest t x m) : n = m := by
  have hle : ∀ {n m : ℕ}, lease.Highest t x n → lease.Highest t x m → n ≤ m := by
    intro n m hn hm
    obtain rfl | ⟨k, r, hr, rfl⟩ := hn.reached
    · exact Nat.zero_le m
    · exact hm.le k r hr
  exact le_antisymm (hle hn hm) (hle hm hn)

theorem fenced_empty : lease.Fenced (∅ : Table κ ρ) := by
  constructor <;> intros <;> simp_all [Leases, Unreleased]

theorem highest_empty (x : τ) : lease.Highest (∅ : Table κ ρ) x 0 :=
  ⟨fun k r h => by simp [Leases] at h, .inl rfl⟩

/-! ### Revising -/

theorem Revises.refl (t : Table κ ρ) : lease.Revises t t := by
  refine ⟨fun k => Iff.rfl, fun k r r' h h' => ?_⟩
  obtain rfl : r = r' := by simpa [h] using h'
  exact ⟨rfl, rfl, id⟩

theorem Revises.trans {a b c : Table κ ρ} (h : lease.Revises a b) (h' : lease.Revises b c) :
    lease.Revises a c := by
  refine ⟨fun k => (h'.keys k).trans (h.keys k), fun k r r'' ha hc => ?_⟩
  have hb : k ∈ b := (h.keys k).2 (Table.mem_of_getElem? ha)
  have hrow : b[k]? = some b[k] := Std.ExtTreeMap.getElem?_eq_some_getElem hb
  obtain ⟨hres, hfence, hreleased⟩ := h.rows k r _ ha hrow
  obtain ⟨hres', hfence', hreleased'⟩ := h'.rows k _ r'' hrow hc
  exact ⟨hres'.trans hres, hfence'.trans hfence, fun hr => hreleased' (hreleased hr)⟩

/-- A lease stays a lease of its resource under its fence. -/
theorem Revises.leases {t t' : Table κ ρ} (h : lease.Revises t t') {x : τ} {k : κ} {r : ρ}
    (hr : lease.Leases t x k r) : ∃ r', lease.Leases t' x k r' ∧ lease.fence r' = lease.fence r := by
  have hk : k ∈ t' := (h.keys k).2 (Table.mem_of_getElem? hr.1)
  have hrow : t'[k]? = some t'[k] := Std.ExtTreeMap.getElem?_eq_some_getElem hk
  obtain ⟨hresource, hfence, -⟩ := h.rows k r _ hr.1 hrow
  exact ⟨_, ⟨hrow, hresource.trans hr.2⟩, hfence⟩

/-- A lease was a lease of its resource under its fence before. -/
theorem Revises.leases_back {t t' : Table κ ρ} (h : lease.Revises t t') {x : τ} {k : κ} {r' : ρ}
    (hr : lease.Leases t' x k r') :
    ∃ r, lease.Leases t x k r ∧ lease.fence r' = lease.fence r ∧
      (lease.released r = true → lease.released r' = true) := by
  have hk : k ∈ t := (h.keys k).1 (Table.mem_of_getElem? hr.1)
  have hrow : t[k]? = some t[k] := Std.ExtTreeMap.getElem?_eq_some_getElem hk
  obtain ⟨hresource, hfence, hreleased⟩ := h.rows k _ r' hrow hr.1
  exact ⟨_, ⟨hrow, hresource ▸ hr.2⟩, hfence, hreleased⟩

/-- An unreleased lease was unreleased before. -/
theorem Revises.unreleased_back {t t' : Table κ ρ} (h : lease.Revises t t') {x : τ} {k : κ} {r' : ρ}
    (hr : lease.Unreleased t' x k r') :
    ∃ r, lease.Unreleased t x k r ∧ lease.fence r' = lease.fence r := by
  obtain ⟨r, hr', hfence, hreleased⟩ := h.leases_back hr.1
  refine ⟨r, ⟨hr', ?_⟩, hfence⟩
  by_contra hne
  rw [Bool.not_eq_false] at hne
  exact absurd (hreleased hne) (by simp [hr.2])

theorem Highest.revise {t t' : Table κ ρ} {x : τ} {n : ℕ} (hn : lease.Highest t x n)
    (h : lease.Revises t t') : lease.Highest t' x n := by
  refine ⟨fun k r' hr' => ?_, hn.reached.imp_right fun ⟨k, r, hr, hfence⟩ => ?_⟩
  · obtain ⟨r, hr, hfence, -⟩ := h.leases_back hr'
    exact hfence ▸ hn.le k r hr
  · obtain ⟨r', hr', hfence'⟩ := h.leases hr
    exact ⟨k, r', hr', hfence'.trans hfence⟩

/-- STEP: revising rows keeps the invariant. -/
theorem Fenced.revise {t t' : Table κ ρ} (ht : lease.Fenced t) (h : lease.Revises t t') :
    lease.Fenced t' where
  positive x k r' hr' := by
    obtain ⟨r, hr, hfence, -⟩ := h.leases_back hr'
    exact hfence ▸ ht.positive x k r hr
  distinct x k r' k₂ r₂' hr' hr₂' heq := by
    obtain ⟨r, hr, hfence, -⟩ := h.leases_back hr'
    obtain ⟨r₂, hr₂, hfence₂, -⟩ := h.leases_back hr₂'
    exact ht.distinct x k r k₂ r₂ hr hr₂ (by omega)
  dense x k r' n hr' hpos hle := by
    obtain ⟨r, hr, hfence, -⟩ := h.leases_back hr'
    obtain ⟨k₂, r₂, hr₂, hfence₂⟩ := ht.dense x k r n hr hpos (by omega)
    obtain ⟨r₂', hr₂', hfence₂'⟩ := h.leases hr₂
    exact ⟨k₂, r₂', hr₂', hfence₂'.trans hfence₂⟩
  last x k r' k₂ r₂' hr' hr₂' := by
    obtain ⟨r, hr, hfence⟩ := h.unreleased_back hr'
    obtain ⟨r₂, hr₂, hfence₂, -⟩ := h.leases_back hr₂'
    have := ht.last x k r k₂ r₂ hr hr₂
    omega

theorem Turns.refl (t : Table κ ρ) : lease.Turns t t := .revise (.refl t)

/-! ### Issuing -/

variable [Std.LawfulEqOrd κ] [DecidableEq κ]

/-- Writing a row over its predecessor, with its resource and fence. -/
theorem Revises.insert {t : Table κ ρ} {k : κ} {r r' : ρ} (hk : t[k]? = some r)
    (hresource : lease.resource r' = lease.resource r) (hfence : lease.fence r' = lease.fence r)
    (hreleased : lease.released r = true → lease.released r' = true) :
    lease.Revises t (t.insert k r') := by
  refine ⟨fun k' => ?_, fun k' s s' hs hs' => ?_⟩
  · rw [Std.ExtTreeMap.mem_insert, Std.compare_eq_iff_eq]
    constructor
    · rintro (rfl | h)
      · exact Table.mem_of_getElem? hk
      · exact h
    · exact .inr
  · rw [Table.getElem?_insert'] at hs'
    split at hs'
    · rename_i heq
      subst heq
      rw [hk, Option.some.injEq] at hs
      rw [Option.some.injEq] at hs'
      subst hs hs'
      exact ⟨hresource, hfence, hreleased⟩
    · obtain rfl : s = s' := by simpa [hs] using hs'
      exact ⟨rfl, rfl, id⟩

/-- The leases of a table with one new row. -/
theorem leases_insert {t : Table κ ρ} {k k' : κ} {r r' : ρ} {x : τ} (hfresh : k ∉ t) :
    lease.Leases (t.insert k r) x k' r' ↔
      (k' = k ∧ r' = r ∧ lease.resource r = x) ∨ lease.Leases t x k' r' := by
  unfold Leases
  rw [Table.getElem?_insert']
  split
  · rename_i heq
    subst heq
    have hnone : t[k]? = none := Std.ExtTreeMap.getElem?_eq_none hfresh
    simp only [Option.some.injEq, hnone, reduceCtorEq, false_and, or_false, true_and]
    constructor <;> (rintro ⟨rfl, h⟩; exact ⟨rfl, h⟩)
  · rename_i hne
    simp only [Ne.symm hne, false_and, false_or]

/-- STEP: issuing a row under the next fence keeps the invariant. -/
theorem Fenced.issue {t t' : Table κ ρ} {k : κ} {r : ρ} (ht : lease.Fenced t)
    (h : lease.Issues t t' k r) : lease.Fenced t' := by
  obtain ⟨hfresh, rfl, hidle, n, hn, hfence⟩ := h
  constructor
  · intro x k' r' hr'
    obtain ⟨rfl, rfl, -⟩ | hr' := (leases_insert hfresh).1 hr'
    · omega
    · exact ht.positive x k' r' hr'
  · intro x k₁ r₁ k₂ r₂ h₁ h₂ heq
    obtain ⟨rfl, rfl, rfl⟩ | hold := (leases_insert hfresh).1 h₁
    · obtain ⟨rfl, -, -⟩ | h₂ := (leases_insert hfresh).1 h₂
      · rfl
      · have := hn.le k₂ r₂ h₂
        omega
    · obtain ⟨rfl, rfl, rfl⟩ | h₂ := (leases_insert hfresh).1 h₂
      · have := hn.le k₁ r₁ hold
        omega
      · exact ht.distinct x k₁ r₁ k₂ r₂ hold h₂ heq
  · intro x k' r' m hr' hpos hle
    obtain ⟨rfl, rfl, rfl⟩ | hr' := (leases_insert hfresh).1 hr'
    · by_cases hm : m = n + 1
      · exact ⟨k', r', (leases_insert hfresh).2 (.inl ⟨rfl, rfl, rfl⟩), by omega⟩
      · obtain rfl | ⟨k₁, r₁, h₁, rfl⟩ := hn.reached
        · omega
        · obtain ⟨k₂, r₂, h₂, hm₂⟩ := ht.dense _ k₁ r₁ m h₁ hpos (by omega)
          exact ⟨k₂, r₂, (leases_insert hfresh).2 (.inr h₂), hm₂⟩
    · obtain ⟨k₂, r₂, h₂, hm₂⟩ := ht.dense x k' r' m hr' hpos hle
      exact ⟨k₂, r₂, (leases_insert hfresh).2 (.inr h₂), hm₂⟩
  · rintro x k₁ r₁ k₂ r₂ ⟨h₁, hu⟩ h₂
    obtain ⟨rfl, rfl, rfl⟩ | hold := (leases_insert hfresh).1 h₁
    · obtain ⟨rfl, rfl, -⟩ | h₂ := (leases_insert hfresh).1 h₂
      · exact le_rfl
      · have := hn.le k₂ r₂ h₂
        omega
    · obtain ⟨rfl, rfl, rfl⟩ | h₂ := (leases_insert hfresh).1 h₂
      · exact absurd ⟨hold, hu⟩ (hidle k₁ r₁)
      · exact ht.last x k₁ r₁ k₂ r₂ ⟨hold, hu⟩ h₂

/-- After issuing, the new fence is the highest of its resource; those of the others stay. -/
theorem Highest.issue [DecidableEq τ] {t t' : Table κ ρ} {k : κ} {r : ρ} {x : τ} {n : ℕ}
    (hn : lease.Highest t x n) (h : lease.Issues t t' k r) :
    lease.Highest t' x (if lease.resource r = x then n + 1 else n) := by
  obtain ⟨hfresh, rfl, -, m, hm, hfence⟩ := h
  split
  · rename_i heq
    subst heq
    obtain rfl := hn.unique hm
    refine ⟨fun k' r' hr' => ?_, .inr ⟨k, r, (leases_insert hfresh).2 (.inl ⟨rfl, rfl, rfl⟩), hfence⟩⟩
    obtain ⟨rfl, rfl, -⟩ | hr' := (leases_insert hfresh).1 hr'
    · exact hfence.le
    · have := hn.le k' r' hr'
      omega
  · rename_i hne
    refine ⟨fun k' r' hr' => ?_, hn.reached.imp_right fun ⟨k', r', hr', hf⟩ =>
      ⟨k', r', (leases_insert hfresh).2 (.inr hr'), hf⟩⟩
    obtain ⟨-, -, heq⟩ | hr' := (leases_insert hfresh).1 hr'
    · exact absurd heq hne
    · exact hn.le k' r' hr'

/-! ### Turns -/

/-- STEP: a turn keeps the invariant. -/
theorem Fenced.turn {t t' : Table κ ρ} (ht : lease.Fenced t) (h : lease.Turns t t') :
    lease.Fenced t' := by
  rcases h with hrev | ⟨m, k, r, hrev, hissue⟩
  · exact ht.revise hrev
  · exact (ht.revise hrev).issue hissue

/-- STEP: a turn issues no fence of `x`, or the next one. -/
theorem Highest.turn [DecidableEq τ] {t t' : Table κ ρ} {x : τ} {n : ℕ} (hn : lease.Highest t x n)
    (h : lease.Turns t t') :
    (lease.Highest t' x n ∧ lease.issued x t t' = []) ∨
      (lease.Highest t' x (n + 1) ∧ lease.issued x t t' = [n + 1]) := by
  rcases h with hrev | ⟨m, k, r, hrev, hissue⟩
  · refine .inl ⟨hn.revise hrev, ?_⟩
    rw [issued, List.map_eq_nil_iff, Table.rows_eq_nil]
    intro k r hr
    have hk := (hrev.keys k).1 (Table.mem_of_getElem? hr)
    simp [hk]
  · have htop := (hn.revise hrev).issue hissue
    obtain ⟨hfresh, rfl, -, m', hm', hfence⟩ := hissue
    have hnew : ∀ k' : κ, k' ∈ m.insert k r ∧ k' ∉ t ↔ k' = k := by
      intro k'
      rw [Std.ExtTreeMap.mem_insert, Std.compare_eq_iff_eq, ← hrev.keys k']
      constructor
      · rintro ⟨rfl | h, h'⟩
        · rfl
        · exact absurd h h'
      · rintro rfl
        exact ⟨.inl rfl, hfresh⟩
    by_cases hx : lease.resource r = x
    · rw [if_pos hx] at htop
      refine .inr ⟨htop, ?_⟩
      have hrow : (m.insert k r)[k]? = some r := by rw [Table.getElem?_insert', if_pos rfl]
      rw [issued, Table.rows_eq_singleton hrow (by simp [(hnew k).2 rfl, hx])]
      · obtain rfl := hm'.unique (hx ▸ hn.revise hrev)
        simp [hfence]
      · intro k' r' hr' hp
        simp only [Bool.and_eq_true, decide_eq_true_eq] at hp
        exact (hnew k').1 ⟨Table.mem_of_getElem? hr', hp.1⟩
    · rw [if_neg hx] at htop
      refine .inl ⟨htop, ?_⟩
      rw [issued, List.map_eq_nil_iff, Table.rows_eq_nil]
      intro k' r' hr'
      by_contra hne
      simp only [Bool.not_eq_false, Bool.and_eq_true, decide_eq_true_eq] at hne
      obtain rfl := (hnew k').1 ⟨Table.mem_of_getElem? hr', hne.1⟩
      rw [Table.getElem?_insert', if_pos rfl, Option.some.injEq] at hr'
      exact hx (hr' ▸ hne.2)

/-- A lease stays a lease of its resource under its fence. -/
theorem Turns.leases {t t' : Table κ ρ} (h : lease.Turns t t') {x : τ} {k : κ} {r : ρ}
    (hr : lease.Leases t x k r) : ∃ r', lease.Leases t' x k r' ∧ lease.fence r' = lease.fence r := by
  rcases h with hrev | ⟨m, k₁, r₁, hrev, hissue⟩
  · exact hrev.leases hr
  · obtain ⟨r', hr', hfence⟩ := hrev.leases hr
    obtain ⟨hfresh, rfl, -, -⟩ := hissue
    exact ⟨r', (leases_insert hfresh).2 (.inr hr'), hfence⟩

/-! ### Runs -/

section Runs

variable {σ : Type*} {α : Type*} {step : σ → α → σ} {table : σ → Table κ ρ}

/-- RUN: a system whose steps are turns keeps the invariant. -/
theorem fenced_run (hturn : ∀ s a, lease.Fenced (table s) → lease.Turns (table s) (table (step s a)))
    {s : σ} (hs : lease.Fenced (table s)) (actions : List α) :
    lease.Fenced (table (Run.run step s actions)) :=
  Run.run_invariant' (I := fun s => lease.Fenced (table s)) (fun s a h => h.turn (hturn s a h))
    actions hs

/-- RUN: a lease stays a lease of its resource under its fence. -/
theorem leases_run (hturn : ∀ s a, lease.Fenced (table s) → lease.Turns (table s) (table (step s a)))
    {s : σ} (hs : lease.Fenced (table s)) (actions : List α) {x : τ} {k : κ} {r : ρ}
    (hr : lease.Leases (table s) x k r) :
    ∃ r', lease.Leases (table (Run.run step s actions)) x k r' ∧ lease.fence r' = lease.fence r := by
  induction actions generalizing s r with
  | nil => exact ⟨r, hr, rfl⟩
  | cons a actions ih =>
    obtain ⟨r', hr', hfence⟩ := (hturn s a hs).leases hr
    obtain ⟨r'', hr'', hfence'⟩ := ih (hs.turn (hturn s a hs)) hr'
    exact ⟨r'', hr'', hfence'.trans hfence⟩

/-- RUN: the fences that a run issues for `x` are consecutive, from the next one on. -/
theorem trace_issued [DecidableEq τ]
    (hturn : ∀ s a, lease.Fenced (table s) → lease.Turns (table s) (table (step s a)))
    {s : σ} (hs : lease.Fenced (table s)) (actions : List α) {x : τ} {n : ℕ}
    (hn : lease.Highest (table s) x n) :
    ∃ count, Run.trace step (fun s a => lease.issued x (table s) (table (step s a))) s actions =
      List.range' (n + 1) count := by
  induction actions generalizing s n with
  | nil => exact ⟨0, rfl⟩
  | cons a actions ih =>
    have hs' := hs.turn (hturn s a hs)
    obtain ⟨hn', hissued⟩ | ⟨hn', hissued⟩ := hn.turn (hturn s a hs)
    · obtain ⟨count, hcount⟩ := ih hs' hn'
      exact ⟨count, by rw [Run.trace, hissued, hcount, List.nil_append]⟩
    · obtain ⟨count, hcount⟩ := ih hs' hn'
      exact ⟨count + 1, by rw [Run.trace, hissued, hcount, List.range'_succ, List.singleton_append]⟩

end Runs

end Lease
