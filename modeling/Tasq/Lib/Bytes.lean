import Mathlib.Tactic

/-! Texts as bytes and bytes as texts: UTF-8, hexadecimal and base64url.

    Every writer has its reader. What is not well-formed UTF-8 is still read, with the replacement
    character for each part that is no character; so only the strict reader tells bytes apart. -/

namespace Bytes

/-! ### UTF-8 -/

/-- The UTF-8 bytes of a text. -/
def utf8 (cs : List Char) : List UInt8 := cs.flatMap String.utf8EncodeChar

/-- The character that the bytes start with. -/
def char? (bytes : List UInt8) : Option Char := bytes.toByteArray.utf8DecodeChar? 0

/-- The bytes that may follow a first byte, and how many of any kind after them. -/
def continuation (first : ℕ) : Option (ℕ × ℕ × ℕ) :=
  if 0xC2 ≤ first ∧ first ≤ 0xDF then some (0x80, 0xBF, 0)
  else if first = 0xE0 then some (0xA0, 0xBF, 1)
  else if first = 0xED then some (0x80, 0x9F, 1)
  else if 0xE1 ≤ first ∧ first ≤ 0xEF then some (0x80, 0xBF, 1)
  else if first = 0xF0 then some (0x90, 0xBF, 2)
  else if first = 0xF4 then some (0x80, 0x8F, 2)
  else if 0xF1 ≤ first ∧ first ≤ 0xF3 then some (0x80, 0xBF, 2)
  else none

/-- How many bytes one replacement character stands for: the part that could start a character. -/
def badLength : List UInt8 → ℕ
  | [] => 0
  | first :: bytes =>
    match continuation first.toNat, bytes with
    | some (low, high, more), second :: bytes =>
      if low ≤ second.toNat ∧ second.toNat ≤ high then
        2 + ((bytes.take more).takeWhile fun b => 0x80 ≤ b.toNat ∧ b.toNat ≤ 0xBF).length
      else 1
    | _, _ => 1

/-- The characters that the bytes write, with none for what is no character. -/
def chars : ℕ → List UInt8 → List (Option Char)
  | 0, _ => []
  | _ + 1, [] => []
  | fuel + 1, byte :: bytes =>
    match char? (byte :: bytes) with
    | some c => some c :: chars fuel ((byte :: bytes).drop c.utf8Size)
    | none => none :: chars fuel ((byte :: bytes).drop (badLength (byte :: bytes)))

/-- `Buffer.from(bytes).toString("utf8")` -/
def toText (bytes : List UInt8) : List Char :=
  (chars bytes.length bytes).map fun c => c.getD (Char.ofNat 0xFFFD)

/-- `new TextDecoder("utf-8", { fatal: true, ignoreBOM: true }).decode(bytes)` -/
def strictText? (bytes : List UInt8) : Option (List Char) :=
  let cs := chars bytes.length bytes
  if cs.all Option.isSome then some (cs.filterMap id) else none

/-! ### Hexadecimal and base64url -/

/-- A hexadecimal digit, in lowercase. -/
def hexChar (n : ℕ) : Char := Char.ofNat (if n < 10 then 0x30 + n else 0x57 + n)

/-- `Buffer.from(bytes).toString("hex")` -/
def hex (bytes : List UInt8) : List Char :=
  bytes.flatMap fun b => [hexChar (b.toNat / 16), hexChar (b.toNat % 16)]

/-- A digit of base64url. -/
def digit (n : ℕ) : Char :=
  Char.ofNat (if n < 26 then 0x41 + n else if n < 52 then 0x47 + n else if n < 62 then n - 4
    else if n = 62 then 0x2D else 0x5F)

/-- The value of a digit, of base64 or of base64url. -/
def sextet? (c : Char) : Option ℕ :=
  let n := c.toNat
  if 0x41 ≤ n ∧ n ≤ 0x5A then some (n - 0x41)
  else if 0x61 ≤ n ∧ n ≤ 0x7A then some (n - 0x47)
  else if 0x30 ≤ n ∧ n ≤ 0x39 then some (n + 4)
  else if n = 0x2D ∨ n = 0x2B then some 62
  else if n = 0x5F ∨ n = 0x2F then some 63
  else none

/-- `Buffer.from(bytes).toString("base64url")` -/
def base64url : List UInt8 → List Char
  | [] => []
  | [a] => [digit (a.toNat / 4), digit (a.toNat % 4 * 16)]
  | [a, b] =>
    [digit (a.toNat / 4), digit (a.toNat % 4 * 16 + b.toNat / 16), digit (b.toNat % 16 * 4)]
  | a :: b :: c :: bytes =>
    digit (a.toNat / 4) :: digit (a.toNat % 4 * 16 + b.toNat / 16) ::
      digit (b.toNat % 16 * 4 + c.toNat / 64) :: digit (c.toNat % 64) :: base64url bytes

/-- The bytes that sextets write; what is short of a byte is dropped. -/
def ofSextets : List ℕ → List UInt8
  | w :: x :: y :: z :: rest =>
    UInt8.ofNat (w * 4 + x / 16) :: UInt8.ofNat (x % 16 * 16 + y / 4) ::
      UInt8.ofNat (y % 4 * 64 + z) :: ofSextets rest
  | [w, x, y] => [UInt8.ofNat (w * 4 + x / 16), UInt8.ofNat (x % 16 * 16 + y / 4)]
  | [w, x] => [UInt8.ofNat (w * 4 + x / 16)]
  | [_] => []
  | [] => []

/-- `Buffer.from(text, "base64url")`, which skips what is no digit. -/
def ofBase64url (text : List Char) : List UInt8 := ofSextets (text.filterMap sextet?)

/-! ### UTF-8 read back -/

theorem char?_utf8EncodeChar (c : Char) (bytes : List UInt8) :
    char? (String.utf8EncodeChar c ++ bytes) = some c := by
  rw [char?, List.toByteArray_append]
  exact ByteArray.utf8DecodeChar?_utf8EncodeChar_append

/-- A character is read from its bytes alone. -/
theorem eq_of_char? {bytes : List UInt8} {c : Char} (h : char? bytes = some c) :
    bytes = String.utf8EncodeChar c ++ bytes.drop c.utf8Size := by
  obtain ⟨rest, hrest⟩ := ByteArray.exists_of_utf8DecodeChar?_eq_some h
  have hlist : bytes = String.utf8EncodeChar c ++ rest.data.toList := by
    have := congrArg (fun b => b.data.toList) hrest
    simpa using this
  have hdrop : bytes.drop c.utf8Size = rest.data.toList := by
    rw [hlist]
    exact List.drop_left' (String.length_utf8EncodeChar c)
  rw [hdrop]
  exact hlist

/-- CORRECT: what UTF-8 writes is read back, character by character. -/
theorem chars_utf8 (cs : List Char) (fuel : ℕ) (h : (utf8 cs).length ≤ fuel) :
    chars fuel (utf8 cs) = cs.map some := by
  induction cs generalizing fuel with
  | nil => cases fuel <;> rfl
  | cons c cs ih =>
    have hsize := c.utf8Size_pos
    have hlength : (String.utf8EncodeChar c).length = c.utf8Size := String.length_utf8EncodeChar c
    rw [utf8, List.flatMap_cons, List.length_append, hlength] at h
    obtain ⟨fuel, rfl⟩ : ∃ n, fuel = n + 1 := ⟨fuel - 1, by omega⟩
    obtain ⟨byte, bytes, hbytes⟩ : ∃ byte bytes, utf8 (c :: cs) = byte :: bytes := by
      refine List.exists_cons_of_ne_nil fun hnil => ?_
      have := congrArg List.length hnil
      rw [utf8, List.flatMap_cons, List.length_append, hlength, List.length_nil] at this
      omega
    have hread : char? (byte :: bytes) = some c := by
      rw [← hbytes, utf8, List.flatMap_cons]
      exact char?_utf8EncodeChar c _
    have hdrop : (byte :: bytes).drop c.utf8Size = utf8 cs := by
      rw [← hbytes, utf8, List.flatMap_cons]
      exact List.drop_left' hlength
    rw [hbytes, chars, hread]
    simp only [hdrop, List.map_cons]
    rw [ih fuel (by rw [utf8]; omega)]

/-- CORRECT: UTF-8 reads back. -/
theorem toText_utf8 (cs : List Char) : toText (utf8 cs) = cs := by
  rw [toText, chars_utf8 cs _ le_rfl, List.map_map]
  exact List.map_id cs

theorem utf8_injective : Function.Injective utf8 := fun cs ds h => by
  rw [← toText_utf8 cs, h, toText_utf8]

/-- Where every part is a character, the bytes are those of the characters. -/
theorem utf8_of_chars {bytes : List UInt8} {cs : List Char} (fuel : ℕ) (hfuel : bytes.length ≤ fuel)
    (h : chars fuel bytes = cs.map some) : utf8 cs = bytes := by
  induction fuel generalizing bytes cs with
  | zero =>
    have hnil : bytes = [] := List.length_eq_zero_iff.1 (by omega)
    subst hnil
    cases cs with
    | nil => rfl
    | cons c cs => simp [chars] at h
  | succ fuel ih =>
    cases bytes with
    | nil =>
      cases cs with
      | nil => rfl
      | cons c cs => simp [chars] at h
    | cons byte bytes =>
      rw [chars] at h
      split at h
      · rename_i c hc
        obtain ⟨d, ds, rfl, hd, hds⟩ := List.map_eq_cons_iff.1 h.symm
        obtain rfl := Option.some_inj.1 hd
        have hsize := d.utf8Size_pos
        have hrest := @ih ((byte :: bytes).drop d.utf8Size) _ (by
          rw [List.length_drop, List.length_cons] at *
          omega) hds.symm
        rw [utf8, List.flatMap_cons, ← utf8, hrest]
        exact (eq_of_char? hc).symm
      · cases cs with
        | nil => simp at h
        | cons c cs => simp at h

theorem eq_map_some_iff {α : Type*} {as : List (Option α)} {bs : List α} :
    as = bs.map some ↔ as.all Option.isSome = true ∧ as.filterMap id = bs := by
  constructor
  · rintro rfl
    refine ⟨by simp, ?_⟩
    rw [List.filterMap_map]
    exact List.filterMap_some
  · rintro ⟨hall, rfl⟩
    induction as with
    | nil => rfl
    | cons a as ih =>
      rw [List.all_cons, Bool.and_eq_true] at hall
      obtain ⟨b, rfl⟩ := Option.isSome_iff_exists.1 hall.1
      rw [List.filterMap_cons, id_eq, List.map_cons, ← ih hall.2]

/-- EXACT: the strict reader reads exactly what UTF-8 writes. -/
theorem strictText?_eq_some {bytes : List UInt8} {cs : List Char} :
    strictText? bytes = some cs ↔ utf8 cs = bytes := by
  have hmap : strictText? bytes = some cs ↔ chars bytes.length bytes = cs.map some := by
    rw [eq_map_some_iff, strictText?]
    split
    · rename_i hall
      rw [Option.some_inj, and_iff_right hall]
    · rename_i hall
      exact iff_of_false (by simp) fun h => hall h.1
  rw [hmap]
  constructor
  · exact utf8_of_chars _ le_rfl
  · rintro rfl
    exact chars_utf8 cs _ le_rfl

/-! ### Hexadecimal and base64url read back -/

theorem hexChar_injective : ∀ m < 16, ∀ n < 16, hexChar m = hexChar n → m = n := by
  decide

/-- EXACT: different bytes have different digits. -/
theorem hex_injective : Function.Injective hex := by
  intro as bs h
  induction as generalizing bs with
  | nil =>
    cases bs with
    | nil => rfl
    | cons b bs => simp [hex] at h
  | cons a as ih =>
    cases bs with
    | nil => simp [hex] at h
    | cons b bs =>
      simp only [hex, List.flatMap_cons, List.cons_append, List.nil_append, List.cons.injEq] at h
      obtain ⟨hhigh, hlow, hrest⟩ := h
      have ha := a.toNat_lt
      have hb := b.toNat_lt
      have hhigh := hexChar_injective _ (by omega) _ (by omega) hhigh
      have hlow := hexChar_injective _ (by omega) _ (by omega) hlow
      have hab : a = b := UInt8.toNat_inj.1 (by omega)
      rw [hab, ih hrest]

theorem sextet?_digit : ∀ n < 64, sextet? (digit n) = some n := by
  decide

theorem ofNat_eq {n : ℕ} {a : UInt8} (h : n = a.toNat) : UInt8.ofNat n = a := by
  rw [h, UInt8.ofNat_toNat]

/-- CORRECT: base64url reads back. -/
theorem ofBase64url_base64url (bytes : List UInt8) : ofBase64url (base64url bytes) = bytes := by
  induction bytes using base64url.induct with
  | case1 => rfl
  | case2 a =>
    have ha := a.toNat_lt
    simp only [ofBase64url, base64url, List.filterMap_cons, List.filterMap_nil,
      sextet?_digit (a.toNat / 4) (by omega), sextet?_digit (a.toNat % 4 * 16) (by omega),
      ofSextets]
    rw [ofNat_eq (a := a) (by omega)]
  | case3 a b =>
    have ha := a.toNat_lt
    have hb := b.toNat_lt
    simp only [ofBase64url, base64url, List.filterMap_cons, List.filterMap_nil,
      sextet?_digit (a.toNat / 4) (by omega),
      sextet?_digit (a.toNat % 4 * 16 + b.toNat / 16) (by omega),
      sextet?_digit (b.toNat % 16 * 4) (by omega), ofSextets]
    rw [ofNat_eq (a := a) (by omega), ofNat_eq (a := b) (by omega)]
  | case4 a b c bytes ih =>
    have ha := a.toNat_lt
    have hb := b.toNat_lt
    have hc := c.toNat_lt
    simp only [ofBase64url, base64url, List.filterMap_cons,
      sextet?_digit (a.toNat / 4) (by omega),
      sextet?_digit (a.toNat % 4 * 16 + b.toNat / 16) (by omega),
      sextet?_digit (b.toNat % 16 * 4 + c.toNat / 64) (by omega),
      sextet?_digit (c.toNat % 64) (by omega), ofSextets]
    rw [ofNat_eq (a := a) (by omega), ofNat_eq (a := b) (by omega), ofNat_eq (a := c) (by omega)]
    exact congrArg (a :: b :: c :: ·) ih

theorem base64url_injective : Function.Injective base64url := fun as bs h => by
  rw [← ofBase64url_base64url as, h, ofBase64url_base64url]

theorem mem_base64url {bytes : List UInt8} {c : Char} (h : c ∈ base64url bytes) :
    ∃ n < 64, c = digit n := by
  induction bytes using base64url.induct with
  | case1 => exact absurd h List.not_mem_nil
  | case2 a =>
    have ha := a.toNat_lt
    simp only [base64url, List.mem_cons, List.not_mem_nil, or_false] at h
    rcases h with h | h
    all_goals exact ⟨_, by omega, h⟩
  | case3 a b =>
    have ha := a.toNat_lt
    have hb := b.toNat_lt
    simp only [base64url, List.mem_cons, List.not_mem_nil, or_false] at h
    rcases h with h | h | h
    all_goals exact ⟨_, by omega, h⟩
  | case4 a b d bytes ih =>
    have ha := a.toNat_lt
    have hb := b.toNat_lt
    have hd := d.toNat_lt
    simp only [base64url, List.mem_cons] at h
    rcases h with h | h | h | h | h
    · exact ⟨_, by omega, h⟩
    · exact ⟨_, by omega, h⟩
    · exact ⟨_, by omega, h⟩
    · exact ⟨_, by omega, h⟩
    · exact ih h

theorem base64url_length_le (bytes : List UInt8) :
    3 * (base64url bytes).length ≤ 4 * bytes.length + 2 := by
  induction bytes using base64url.induct with
  | case1 => simp [base64url]
  | case2 a => simp [base64url]
  | case3 a b => simp [base64url]
  | case4 a b c bytes ih =>
    simp only [base64url, List.length_cons]
    omega

theorem base64url_ne_nil {bytes : List UInt8} (h : bytes ≠ []) : base64url bytes ≠ [] := by
  intro hnil
  exact h (base64url_injective (hnil.trans rfl))

end Bytes
