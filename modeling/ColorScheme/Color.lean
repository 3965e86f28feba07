import ColorScheme.Error

/-!
Colors as three bytes, and their literals: a number sign with three or six
hexadecimal digits. A color is always printed with six lowercase digits, and
what is printed is read back.
-/

namespace ColorScheme

structure Color where
  red : UInt8
  green : UInt8
  blue : UInt8
  deriving DecidableEq

/-- The value of a hexadecimal digit of ASCII, in either case. -/
def hexValue? (c : Char) : Option Nat :=
  let n := c.toNat
  if 48 ≤ n ∧ n ≤ 57 then some (n - 48)
  else if 97 ≤ n ∧ n ≤ 102 then some (n - 87)
  else if 65 ≤ n ∧ n ≤ 70 then some (n - 55)
  else none

/-- The two lowercase hexadecimal digits of a byte. -/
def hexPair (b : UInt8) : Text :=
  [Nat.digitChar (b.toNat / 16), Nat.digitChar (b.toNat % 16)]

namespace Color

def white : Color := ⟨0xFF, 0xFF, 0xFF⟩

def paleYellow : Color := ⟨0xFF, 0xFF, 0xCC⟩

/-- Three digits are each doubled; six are taken in pairs. -/
def ofDigits? : List Nat → Option Color
  | [r, g, b] => some ⟨.ofNat (17 * r), .ofNat (17 * g), .ofNat (17 * b)⟩
  | [r, r', g, g', b, b'] =>
      some ⟨.ofNat (16 * r + r'), .ofNat (16 * g + g'), .ofNat (16 * b + b')⟩
  | _ => none

def ofLiteral? : Text → Option Color
  | '#' :: digits => (digits.mapM hexValue?).bind ofDigits?
  | _ => none

def parse (literal : Text) : Except Error Color :=
  match ofLiteral? literal with
  | some c => .ok c
  | none => .error (.invalidColor literal)

/-- The color of an optional literal; an empty one is none. -/
def normalize : Option Text → Except Error (Option Color)
  | none | some [] => .ok none
  | some (c :: s) => (parse (c :: s)).map some

def text (c : Color) : Text :=
  '#' :: (hexPair c.red ++ hexPair c.green ++ hexPair c.blue)

/-- Relative luminance between 0 and 1, with the weights of ITU-R BT.709 and no
gamma. -/
def luminance (c : Color) : Float :=
  (0.2126 * c.red.toFloat + 0.7152 * c.green.toFloat + 0.0722 * c.blue.toFloat) / 255.0

/-- Whether text on this color wants a scheme for light backgrounds. -/
def isLight (c : Color) : Bool :=
  decide (0.5 ≤ c.luminance)

instance : LT Color := ⟨fun a b => a.text < b.text⟩

instance : LE Color := ⟨fun a b => a.text ≤ b.text⟩

instance : DecidableLT Color := fun a b => inferInstanceAs (Decidable (a.text < b.text))

theorem hexValue?_digitChar : ∀ n < 16, hexValue? (Nat.digitChar n) = some n := by decide

theorem ofLiteral?_text (c : Color) : ofLiteral? c.text = some c := by
  have h (b : UInt8) : b.toNat / 16 < 16 ∧ b.toNat % 16 < 16 := by
    have := b.toNat_lt; omega
  have e (b : UInt8) : UInt8.ofNat (16 * (b.toNat / 16) + b.toNat % 16) = b := by
    rw [Nat.div_add_mod]; simp
  simp [ofLiteral?, text, hexPair, hexValue?_digitChar, (h c.red).1, (h c.red).2,
    (h c.green).1, (h c.green).2, (h c.blue).1, (h c.blue).2, ofDigits?, e]

theorem text_injective {a b : Color} (h : a.text = b.text) : a = b := by
  have := congrArg ofLiteral? h
  simpa [ofLiteral?_text] using this

instance : Std.IsLinearOrder Color where
  le_refl a := Std.le_refl a.text
  le_trans _ _ _ h k := Std.le_trans (α := Text) h k
  le_antisymm _ _ h k := text_injective (Std.le_antisymm h k)
  le_total a b := Std.le_total (a := a.text) (b := b.text)

instance : Std.LawfulOrderLT Color where
  lt_iff a b := Std.LawfulOrderLT.lt_iff a.text b.text

end Color
end ColorScheme
