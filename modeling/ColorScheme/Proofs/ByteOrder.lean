import ColorScheme.Text.Basic
import Mathlib.Algebra.Group.Nat.Defs
import Mathlib.Tactic.SplitIfs

/-!
The order of texts by their bytes. In UTF-8 a character of a greater number has the greater
bytes, and none begins with all the bytes of another, so that texts are in one order by
their characters and by their bytes.
-/

namespace ColorScheme

section

variable {κ γ : Type} [LT κ] [LE κ] [Std.IsLinearOrder κ] [Std.LawfulOrderLT κ] [LT γ]
  [Std.Asymm (α := γ) (· < ·)]

/-- What keeps the order of two elements both ways round tells it. -/
theorem lt_iff_of_keeps {f : κ → γ} {a b : κ} (keeps : a < b → f a < f b)
    (keeps_back : b < a → f b < f a) : a < b ↔ f a < f b := by
  refine ⟨keeps, fun less => ?_⟩
  by_cases lt : a < b
  · exact lt
  · by_cases same : b = a
    · subst same
      exact absurd less (Std.Asymm.asymm _ _ less)
    · have back : b < a := Std.lt_of_le_of_ne (Std.not_lt.mp lt) same
      exact absurd less (Std.Asymm.asymm _ _ (keeps_back back))

end

namespace Text

/-- A number spread over bytes: a first one with a mark, and six bits in each of the others. -/
def spread (mark : Nat) : Nat → Nat → List UInt8
  | 0, n => [UInt8.ofNat (mark + n)]
  | k + 1, n => spread mark k (n / 64) ++ [UInt8.ofNat (n % 64 + 128)]

theorem cons_byte_lt {m n : Nat} (h : m < n) (byte : n < 256) (s t : List UInt8) :
    UInt8.ofNat m :: s < UInt8.ofNat n :: t := by
  refine List.cons_lt_cons_iff.mpr (.inl ?_)
  rw [UInt8.lt_iff_toNat_lt, UInt8.toNat_ofNat', UInt8.toNat_ofNat']
  omega

theorem spread_lt {mark k m n : Nat} (h : m < n) (byte : mark + n / 64 ^ k < 256)
    (s t : List UInt8) : spread mark k m ++ s < spread mark k n ++ t := by
  induction k generalizing m n s t with
  | zero => exact cons_byte_lt (by omega) (by simpa using byte) s t
  | succ k ih =>
      rw [spread, spread, List.append_assoc, List.append_assoc]
      obtain less | same : m / 64 < n / 64 ∨ m / 64 = n / 64 := by omega
      · refine ih less ?_ _ _
        rwa [Nat.div_div_eq_div_mul, ← Nat.pow_succ']
      · rw [same]
        exact List.append_left_lt (cons_byte_lt (by omega) (by omega) s t)

theorem exists_spread_eq_cons (mark k n : Nat) :
    ∃ rest, spread mark k n = UInt8.ofNat (mark + n / 64 ^ k) :: rest := by
  induction k generalizing n with
  | zero => exact ⟨[], by simp [spread]⟩
  | succ k ih =>
      obtain ⟨rest, eq⟩ := ih (n / 64)
      refine ⟨rest ++ [UInt8.ofNat (n % 64 + 128)], ?_⟩
      rw [spread, eq, Nat.div_div_eq_div_mul, ← Nat.pow_succ', List.cons_append]

/-- Numbers whose first bytes differ are compared by these. -/
theorem spread_lt_spread {mark k m mark' k' n : Nat} (h : mark + m / 64 ^ k < mark' + n / 64 ^ k')
    (byte : mark' + n / 64 ^ k' < 256) (s t : List UInt8) :
    spread mark k m ++ s < spread mark' k' n ++ t := by
  obtain ⟨rest, eq⟩ := exists_spread_eq_cons mark k m
  obtain ⟨rest', eq'⟩ := exists_spread_eq_cons mark' k' n
  rw [eq, eq', List.cons_append, List.cons_append]
  exact cons_byte_lt h byte _ _

/-- How many bytes follow the first one of a character. -/
def trailing (n : Nat) : Nat :=
  if n < 0x80 then 0 else if n < 0x800 then 1 else if n < 0x10000 then 2 else 3

/-- The mark in the first byte, which tells how many follow. -/
def mark (n : Nat) : Nat :=
  if n < 0x80 then 0 else if n < 0x800 then 0xC0 else if n < 0x10000 then 0xE0 else 0xF0

theorem toNat_lt (c : Char) : c.toNat < 0x110000 := by
  have valid := c.valid
  simp only [UInt32.isValidChar, Nat.isValidChar] at valid
  change c.val.toNat < _
  omega

theorem utf8EncodeChar_eq (c : Char) :
    String.utf8EncodeChar c = spread (mark c.toNat) (trailing c.toNat) c.toNat := by
  have most := toNat_lt c
  unfold String.utf8EncodeChar trailing mark
  simp only [Char.toNat_val]
  generalize c.toNat = n at *
  by_cases one : n < 0x80
  · rw [if_pos (by omega), if_pos one, if_pos one, spread, Nat.zero_add]
  by_cases two : n < 0x800
  · have lead : n / 64 % 32 + 192 = 192 + n / 64 := by omega
    rw [if_neg (by omega), if_pos (by omega), if_neg one, if_neg one, if_pos two, if_pos two, lead]
    rfl
  by_cases three : n < 0x10000
  · have lead : n / 4096 % 16 + 224 = 224 + n / 64 / 64 := by omega
    rw [if_neg (by omega), if_neg (by omega), if_pos (by omega), if_neg one, if_neg one, if_neg two,
      if_neg two, if_pos three, if_pos three, lead]
    rfl
  · have lead : n / 262144 % 8 + 240 = 240 + n / 64 / 64 / 64 := by omega
    have next : n / 4096 % 64 = n / 64 / 64 % 64 := by omega
    rw [if_neg (by omega), if_neg (by omega), if_neg (by omega), if_neg one, if_neg one, if_neg two,
      if_neg two, if_neg three, if_neg three, lead, next]
    rfl

/-- Of two numbers the greater has the greater first byte, if the first bytes have
different marks. -/
theorem firstByte_lt {m n : Nat} (h : m < n) : mark m = mark n ∧ trailing m = trailing n ∨
    mark m + m / 64 ^ trailing m < mark n + n / 64 ^ trailing n := by
  -- One case for each pair of lengths.
  unfold mark trailing
  split_ifs <;> omega

theorem firstByte_lt_256 {n : Nat} (h : n < 0x110000) : mark n + n / 64 ^ trailing n < 256 := by
  unfold mark trailing
  split_ifs <;> omega

/-- The bytes of characters have the order of the characters, whatever follows them. -/
theorem utf8EncodeChar_append_lt {c d : Char} (h : c < d) (s t : List UInt8) :
    String.utf8EncodeChar c ++ s < String.utf8EncodeChar d ++ t := by
  have less : c.toNat < d.toNat := h
  have byte := firstByte_lt_256 (toNat_lt d)
  rw [utf8EncodeChar_eq, utf8EncodeChar_eq]
  obtain ⟨same, alike⟩ | first := firstByte_lt less
  · rw [same, alike]
    exact spread_lt less byte s t
  · exact spread_lt_spread first byte s t

/-- The text in UTF-8. -/
def bytes (s : Text) : List UInt8 :=
  s.flatMap String.utf8EncodeChar

theorem bytes_lt_bytes {s t : Text} (h : s < t) : bytes s < bytes t := by
  induction s generalizing t with
  | nil =>
      cases t with
      | nil => cases h
      | cons d t =>
          obtain ⟨b, rest, eq⟩ := List.exists_cons_of_ne_nil (String.utf8EncodeChar_ne_nil (c := d))
          rw [bytes, bytes, List.flatMap_cons, eq]
          exact List.nil_lt_cons ..
  | cons c s ih =>
      cases t with
      | nil => cases h
      | cons d t =>
          rw [bytes, bytes, List.flatMap_cons, List.flatMap_cons]
          obtain less | ⟨rfl, less⟩ := List.cons_lt_cons_iff.mp h
          · exact utf8EncodeChar_append_lt less _ _
          · exact List.append_left_lt (ih less)

theorem lt_iff_bytes {s t : Text} : s < t ↔ bytes s < bytes t :=
  lt_iff_of_keeps bytes_lt_bytes bytes_lt_bytes

end Text
end ColorScheme
