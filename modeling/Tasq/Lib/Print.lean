import Mathlib.Tactic
import Tasq.Lib.Json

/-! JSON values as texts, without two values on one text.

    The texts delimit themselves: whatever follows a printed value, the value can be read back from
    the front (`print_append`). Numbers and lengths are in unary. -/

namespace Json

/-- A number, closed by a dot. -/
def printNat (n : ℕ) : List Char := List.replicate n '1' ++ ['.']

/-- A text behind its length. -/
def printStr (s : String) : List Char := printNat s.toList.length ++ s.toList

mutual

/-- A value behind a letter for its kind. -/
def print : Json → List Char
  | .null => ['n']
  | .bool true => ['t']
  | .bool false => ['f']
  | .num q => (if q.num < 0 then '-' else '+') :: (printNat q.num.natAbs ++ printNat q.den)
  | .str s => 's' :: printStr s
  | .arr items => 'a' :: printItems items
  | .obj fields => 'o' :: printFields fields

/-- Every item behind a mark, closed by a dot. -/
def printItems : List Json → List Char
  | [] => ['.']
  | a :: as => '1' :: (print a ++ printItems as)

/-- Every field behind a mark, closed by a dot. -/
def printFields : List (String × Json) → List Char
  | [] => ['.']
  | (k, a) :: as => '1' :: (printStr k ++ (print a ++ printFields as))

end

theorem printNat_append {m n : ℕ} {xs ys : List Char}
    (h : printNat m ++ xs = printNat n ++ ys) : m = n ∧ xs = ys := by
  induction m generalizing n with
  | zero =>
    cases n with
    | zero => simpa [printNat] using h
    | succ n => simp [printNat, List.replicate_succ] at h
  | succ m ih =>
    cases n with
    | zero => simp [printNat, List.replicate_succ] at h
    | succ n =>
      have h : printNat m ++ xs = printNat n ++ ys := by
        simpa [printNat, List.replicate_succ] using h
      obtain ⟨rfl, hrest⟩ := ih h
      exact ⟨rfl, hrest⟩

theorem printStr_append {s t : String} {xs ys : List Char}
    (h : printStr s ++ xs = printStr t ++ ys) : s = t ∧ xs = ys := by
  rw [printStr, printStr, List.append_assoc, List.append_assoc] at h
  obtain ⟨hlength, h⟩ := printNat_append h
  obtain ⟨hchars, hrest⟩ := List.append_inj h hlength
  exact ⟨String.toList_inj.1 hchars, hrest⟩

mutual

/-- CORRECT: a printed value can be read back, whatever follows it. -/
theorem print_append : ∀ (a b : Json) (xs ys : List Char),
    print a ++ xs = print b ++ ys → a = b ∧ xs = ys
  | .null, b, xs, ys, h => by
    cases b with
    | null => simpa [print] using h
    | bool b => cases b <;> simp [print] at h
    | num q => simp only [print] at h; split at h <;> simp at h
    | str | arr | obj => simp [print] at h
  | .bool a, b, xs, ys, h => by
    cases b with
    | null => cases a <;> simp [print] at h
    | bool b => cases a <;> cases b <;> simp_all [print]
    | num q => cases a <;> simp only [print] at h <;> split at h <;> simp at h
    | str | arr | obj => cases a <;> simp [print] at h
  | .num q, b, xs, ys, h => by
    cases b with
    | null => simp only [print] at h; split at h <;> simp at h
    | bool b => cases b <;> simp only [print] at h <;> split at h <;> simp at h
    | num r =>
      simp only [print, List.cons_append, List.cons.injEq, List.append_assoc] at h
      obtain ⟨hsign, h⟩ := h
      obtain ⟨hnum, h⟩ := printNat_append h
      obtain ⟨hden, h⟩ := printNat_append h
      have hint : q.num = r.num := by
        split at hsign <;> split at hsign <;> first | omega | simp at hsign
      exact ⟨by rw [Rat.ext hint hden], h⟩
    | str | arr | obj => simp only [print] at h; split at h <;> simp at h
  | .str s, b, xs, ys, h => by
    cases b with
    | null => simp [print] at h
    | bool b => cases b <;> simp [print] at h
    | num q => simp only [print] at h; split at h <;> simp at h
    | str t =>
      simp only [print, List.cons_append, List.cons.injEq, true_and] at h
      obtain ⟨rfl, hrest⟩ := printStr_append h
      exact ⟨rfl, hrest⟩
    | arr | obj => simp [print] at h
  | .arr as, b, xs, ys, h => by
    cases b with
    | null => simp [print] at h
    | bool b => cases b <;> simp [print] at h
    | num q => simp only [print] at h; split at h <;> simp at h
    | arr bs =>
      simp only [print, List.cons_append, List.cons.injEq, true_and] at h
      obtain ⟨rfl, hrest⟩ := printItems_append as bs xs ys h
      exact ⟨rfl, hrest⟩
    | str | obj => simp [print] at h
  | .obj as, b, xs, ys, h => by
    cases b with
    | null => simp [print] at h
    | bool b => cases b <;> simp [print] at h
    | num q => simp only [print] at h; split at h <;> simp at h
    | obj bs =>
      simp only [print, List.cons_append, List.cons.injEq, true_and] at h
      obtain ⟨rfl, hrest⟩ := printFields_append as bs xs ys h
      exact ⟨rfl, hrest⟩
    | str | arr => simp [print] at h

theorem printItems_append : ∀ (as bs : List Json) (xs ys : List Char),
    printItems as ++ xs = printItems bs ++ ys → as = bs ∧ xs = ys
  | [], [], xs, ys, h => by simpa [printItems] using h
  | [], _ :: _, _, _, h => by simp [printItems] at h
  | _ :: _, [], _, _, h => by simp [printItems] at h
  | a :: as, b :: bs, xs, ys, h => by
    simp only [printItems, List.cons_append, List.cons.injEq, true_and, List.append_assoc] at h
    obtain ⟨rfl, hitems⟩ := print_append a b _ _ h
    obtain ⟨rfl, hrest⟩ := printItems_append as bs xs ys hitems
    exact ⟨rfl, hrest⟩

theorem printFields_append : ∀ (as bs : List (String × Json)) (xs ys : List Char),
    printFields as ++ xs = printFields bs ++ ys → as = bs ∧ xs = ys
  | [], [], xs, ys, h => by simpa [printFields] using h
  | [], _ :: _, _, _, h => by simp [printFields] at h
  | _ :: _, [], _, _, h => by simp [printFields] at h
  | (k, a) :: as, (l, b) :: bs, xs, ys, h => by
    simp only [printFields, List.cons_append, List.cons.injEq, true_and, List.append_assoc] at h
    obtain ⟨rfl, hvalue⟩ := printStr_append h
    obtain ⟨rfl, hfields⟩ := print_append a b _ _ hvalue
    obtain ⟨rfl, hrest⟩ := printFields_append as bs xs ys hfields
    exact ⟨rfl, hrest⟩

end

/-- The text of a value. -/
def text (a : Json) : String := String.ofList (print a)

/-- No two values have one text. -/
theorem text_injective : Function.Injective text := by
  intro a b h
  have h : print a = print b := String.ofList_inj.1 h
  exact (print_append a b [] [] (by rw [h])).1

end Json
