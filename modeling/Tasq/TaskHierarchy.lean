import Mathlib.Tactic
import Tasq.Lib.Forest
import Tasq.Tasks

/-! The hierarchy of the live tasks as a forest, and what the loops that walk it find: the depth of
    a task, the height of what is live below it, and that a task is not above its new parent. -/

namespace Tasq

open Outcome Forest

/-- The task is there and not deleted. -/
def LiveIn (tasks : Table UuidV7 Task) (k : UuidV7) : Prop :=
  ∃ row, tasks[k]? = some row ∧ row.deletedAt = none

/-- The parent that the row of a task names. -/
def parentIn (tasks : Table UuidV7 Task) (k : UuidV7) : Option UuidV7 :=
  tasks[k]?.bind (·.parentTaskId)

/-- The depth of a task, over live and deleted rows. -/
def DepthIn (tasks : Table UuidV7 Task) (k : UuidV7) (n : ℕ) : Prop :=
  Depth (fun _ => True) (parentIn tasks) k n

/-- The task is live, `j - 1` levels below `id` over live tasks. -/
def BelowIn (tasks : Table UuidV7 Task) (id k : UuidV7) (j : ℕ) : Prop :=
  Under (LiveIn tasks) (parentIn tasks) id k j

section Rows

variable {tasks : Table UuidV7 Task} {k p id : UuidV7} {n j : ℕ} {row : Task}

theorem liveIn_of_row (hrow : tasks[k]? = some row) (h : row.deletedAt = none) : LiveIn tasks k :=
  ⟨row, hrow, h⟩

theorem not_liveIn_of_row (hrow : tasks[k]? = some row) (h : row.deletedAt ≠ none) :
    ¬ LiveIn tasks k := by
  rintro ⟨row', hrow', hlive⟩
  rw [hrow, Option.some.injEq] at hrow'
  exact h (hrow' ▸ hlive)

theorem parentIn_of_row (hrow : tasks[k]? = some row) : parentIn tasks k = row.parentTaskId := by
  simp [parentIn, hrow]

/-- The depth in the forest of live tasks is the depth of the task. -/
theorem depthIn_of_depth (h : Depth (LiveIn tasks) (parentIn tasks) k n) : DepthIn tasks k n :=
  h.congr fun _ _ => ⟨trivial, rfl⟩

/-- The topmost step of a way up. -/
theorem below_head (h : BelowIn tasks id k (j + 1)) (hj : 0 < j) :
    ∃ c, LiveIn tasks c ∧ parentIn tasks c = some id ∧ BelowIn tasks c k j := by
  induction j generalizing k with
  | zero => omega
  | succ j ih =>
    rcases h with _ | ⟨hlive, hup, hp⟩
    rcases Nat.eq_zero_or_pos j with rfl | hpos
    · rcases hp with ⟨hid⟩ | ⟨-, -, hp⟩
      · exact ⟨k, hlive, hup, .here hlive⟩
      · cases hp
    · obtain ⟨c, hc, hcup, hbelow⟩ := ih hp hpos
      exact ⟨c, hc, hcup, .step hlive hup hbelow⟩

end Rows

namespace Ledger

variable {l : Ledger} {id desired k : UuidV7} {d h j : ℕ}

/-! ### `getTaskDepth` -/

/-- The walk ends at the root, or after the rounds that it has. -/
theorem getTaskDepthFrom_eq_ok {rounds depth : ℕ} {seen : List UuidV7}
    (h : l.getTaskDepthFrom rounds depth id seen = .ok d) :
    d = depth + rounds ∨ ∃ n, d + 1 = depth + n ∧ DepthIn l.tasks id n := by
  induction rounds generalizing depth id seen with
  | zero =>
    obtain rfl : depth = d := by simpa [getTaskDepthFrom] using h
    exact .inl (by omega)
  | succ rounds ih =>
    simp only [getTaskDepthFrom, bind_eq_ok, refuse_eq_ok] at h
    obtain ⟨-, -, h⟩ := h
    split at h
    · rename_i hroot
      obtain rfl : depth = d := by simpa using h
      exact .inr ⟨1, rfl, .root trivial hroot⟩
    · rename_i p hp
      rcases ih h with hend | ⟨n, hn, hdepth⟩
      · exact .inl (by omega)
      · exact .inr ⟨n + 1, by omega, .child trivial hp hdepth⟩

/-- A depth within the maximum is the depth of the task. -/
theorem getTaskDepth_depth (h : l.getTaskDepth id = .ok d) (hd : d ≤ maxTaskDepth) :
    DepthIn l.tasks id d := by
  rcases getTaskDepthFrom_eq_ok h with hend | ⟨n, hn, hdepth⟩
  · omega
  · obtain rfl : d = n := by omega
    exact hdepth

/-! ### `subtreeHeight` -/

theorem subtreeHeightFrom_ge (rounds height : ℕ) (frontier : List UuidV7) :
    height ≤ l.subtreeHeightFrom rounds height frontier := by
  induction rounds generalizing height frontier with
  | zero => exact le_rfl
  | succ rounds ih =>
    rw [subtreeHeightFrom]
    split
    · exact le_rfl
    · exact (Nat.le_succ _).trans (ih _ _)

/-- The height counts every level below the frontier, as far as the rounds go. -/
theorem subtreeHeightFrom_below {rounds height : ℕ} {frontier : List UuidV7} {a : UuidV7}
    (ha : a ∈ frontier) (hbelow : BelowIn l.tasks a k (j + 1)) :
    height + min j rounds ≤ l.subtreeHeightFrom rounds height frontier := by
  induction rounds generalizing height frontier a j with
  | zero =>
    rw [subtreeHeightFrom]
    omega
  | succ rounds ih =>
    rcases Nat.eq_zero_or_pos j with rfl | hpos
    · have := subtreeHeightFrom_ge (l := l) (rounds + 1) height frontier
      omega
    · obtain ⟨c, ⟨row, hrow, hlive⟩, hup, hc⟩ := below_head hbelow hpos
      have hmem : c ∈ Table.keysWhere l.tasks fun _ row =>
          row.parentTaskId.any (· ∈ frontier) && row.deletedAt.isNone := by
        rw [parentIn_of_row hrow] at hup
        exact Table.mem_keysWhere.2 ⟨row, hrow, by simp [hup, ha, hlive]⟩
      rw [subtreeHeightFrom, if_neg (List.ne_nil_of_mem hmem)]
      obtain ⟨i, rfl⟩ : ∃ i, j = i + 1 := ⟨j - 1, by omega⟩
      have hrest : height + 1 + min i rounds ≤ _ := ih hmem hc
      omega

/-- A height within the maximum bounds every level below the task. -/
theorem subtreeHeight_below (hbelow : BelowIn l.tasks id k j)
    (hh : l.subtreeHeight id ≤ maxTaskDepth + 1) : j ≤ l.subtreeHeight id := by
  obtain ⟨i, rfl⟩ : ∃ i, j = i + 1 := by
    rcases hbelow with _ | _
    · exact ⟨0, rfl⟩
    · exact ⟨_, rfl⟩
  have hlevels : 1 + min i (maxTaskDepth + 2) ≤
      l.subtreeHeightFrom (maxTaskDepth + 2) 1 [id] :=
    subtreeHeightFrom_below (List.mem_singleton.2 rfl) hbelow
  rw [subtreeHeight] at hh ⊢
  omega

/-! ### `assertReparent` -/

/-- The walk up from the desired parent does not meet the task. -/
theorem assertNoReparentCycle_below {rounds : ℕ} {cursor : UuidV7} {seen : List UuidV7} {u : Unit}
    (h : l.assertNoReparentCycle id desired rounds cursor seen = .ok u) :
    ∀ j, ¬ BelowIn l.tasks id cursor j := by
  induction rounds generalizing cursor seen with
  | zero => cases h
  | succ rounds ih =>
    simp only [assertNoReparentCycle, bind_eq_ok, refuse_eq_ok] at h
    obtain ⟨-, hne, -, -, h⟩ := h
    intro j hj
    rcases hj with _ | ⟨hlive, hup, hp⟩
    · exact hne rfl
    · split at h
      · rename_i hroot
        rw [parentIn, hroot] at hup
        cases hup
      · rename_i p hp'
        rw [parentIn, hp', Option.some.injEq] at hup
        exact ih h _ (hup ▸ hp)

end Ledger

end Tasq
