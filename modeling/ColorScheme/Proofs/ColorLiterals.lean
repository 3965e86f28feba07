import ColorScheme.Color
import ColorScheme.Proofs.Sequences

/-!
The literals of colors, by their form: a number sign and three or six hexadecimal
digits of ASCII. These are exactly the texts that a color is read from, and any other
is refused as it was given. Of the literals for one color, one is printed.
-/

namespace ColorScheme

def IsHexDigit (c : Char) : Prop :=
  ('0' ≤ c ∧ c ≤ '9') ∨ ('a' ≤ c ∧ c ≤ 'f') ∨ ('A' ≤ c ∧ c ≤ 'F')

instance (c : Char) : Decidable (IsHexDigit c) :=
  inferInstanceAs (Decidable (_ ∨ _))

theorem exists_hexValue?_iff {c : Char} : (∃ n, hexValue? c = some n) ↔ IsHexDigit c := by
  have le (a b : Char) : a ≤ b ↔ a.toNat ≤ b.toNat := UInt32.le_iff_toNat_le
  simp only [← Option.isSome_iff_exists, IsHexDigit, le, hexValue?, Char.reduceToNat]
  split
  · next digit => exact iff_of_true rfl (.inl digit)
  · split
    · next lower => exact iff_of_true rfl (.inr (.inl lower))
    · split
      · next upper => exact iff_of_true rfl (.inr (.inr upper))
      · exact iff_of_false (by simp) (by omega)

theorem exists_mapM_hexValue?_iff {digits : Text} :
    (∃ values, digits.mapM hexValue? = some values) ↔ ∀ c ∈ digits, IsHexDigit c := by
  simp only [mapM_eq_some_iff, exists_forall₂_iff, exists_hexValue?_iff]

theorem length_of_mapM_eq_some {digits : Text} {values : List Nat}
    (h : digits.mapM hexValue? = some values) : values.length = digits.length :=
  (mapM_eq_some_iff.mp h).length_eq.symm

/-- The value of a digit is below sixteen, and for it the digit is printed in small. -/
theorem digit_of_hexValue? {c : Char} {n : Nat} (h : hexValue? c = some n) :
    n < 16 ∧ Nat.digitChar n = c.toLower := by
  have small : c.toNat < 103 := by
    simp only [hexValue?] at h
    split at h
    · omega
    · split at h
      · omega
      · split at h
        · omega
        · cases h
  exact forall_char_lt (p := fun c => ∀ n ∈ hexValue? c, n < 16 ∧ Nat.digitChar n = c.toLower)
    (by decide) small n h

theorem digits_of_mapM {digits : Text} {values : List Nat}
    (h : digits.mapM hexValue? = some values) :
    (∀ n ∈ values, n < 16) ∧ values.map Nat.digitChar = digits.map Char.toLower := by
  rw [mapM_eq_some_iff] at h
  induction h with
  | nil => simp
  | cons first _ ih =>
      obtain ⟨small, printed⟩ := digit_of_hexValue? first
      obtain ⟨others, same⟩ := ih
      exact ⟨List.forall_mem_cons.mpr ⟨small, others⟩, by simp [printed, same]⟩

/-- The digits of a byte are those of its two halves. -/
theorem hexPair_ofNat {m n : Nat} (hm : m < 16) (hn : n < 16) :
    hexPair (.ofNat (16 * m + n)) = [Nat.digitChar m, Nat.digitChar n] := by
  have byte : (UInt8.ofNat (16 * m + n)).toNat = 16 * m + n := by
    rw [UInt8.toNat_ofNat']
    omega
  have high : (16 * m + n) / 16 = m := by omega
  have low : (16 * m + n) % 16 = n := by omega
  rw [hexPair, byte, high, low]

theorem forall_mem_hexPair {p : Char → Prop} (digits : ∀ n < 16, p (Nat.digitChar n)) (b : UInt8) :
    ∀ d ∈ hexPair b, p d := by
  have high : b.toNat / 16 < 16 := by have := b.toNat_lt; omega
  have low : b.toNat % 16 < 16 := by omega
  simp only [hexPair, List.forall_mem_cons]
  exact ⟨digits _ high, digits _ low, by simp⟩

namespace Color

def IsLiteral (s : Text) : Prop :=
  ∃ digits, s = '#' :: digits ∧ (digits.length = 3 ∨ digits.length = 6) ∧
    ∀ c ∈ digits, IsHexDigit c

instance (s : Text) : Decidable (IsLiteral s) :=
  decidable_of_iff (s.head? = some '#' ∧ (s.tail.length = 3 ∨ s.tail.length = 6) ∧
      s.tail.all fun c => IsHexDigit c) <| by
    simp only [List.all_eq_true, decide_eq_true_eq]
    constructor
    · rintro ⟨sign, count, hex⟩
      obtain ⟨digits, rfl⟩ := List.head?_eq_some_iff.mp sign
      exact ⟨digits, rfl, count, hex⟩
    · rintro ⟨digits, rfl, count, hex⟩
      exact ⟨rfl, count, hex⟩

theorem exists_ofDigits?_iff {values : List Nat} :
    (∃ c, ofDigits? values = some c) ↔ values.length = 3 ∨ values.length = 6 := by
  match values with
  | [] | [_] | [_, _] | [_, _, _, _] | [_, _, _, _, _] => simp [ofDigits?]
  | [_, _, _] | [_, _, _, _, _, _] => simp [ofDigits?]
  | _ :: _ :: _ :: _ :: _ :: _ :: _ :: _ => simp [ofDigits?]

theorem exists_ofLiteral?_iff {s : Text} : (∃ c, ofLiteral? s = some c) ↔ IsLiteral s := by
  constructor
  · rintro ⟨c, read⟩
    unfold ofLiteral? at read
    split at read
    · next digits =>
        obtain ⟨values, taken, made⟩ := Option.bind_eq_some_iff.mp read
        refine ⟨digits, rfl, ?_, exists_mapM_hexValue?_iff.mp ⟨values, taken⟩⟩
        rw [← length_of_mapM_eq_some taken]
        exact exists_ofDigits?_iff.mp ⟨c, made⟩
    · cases read
  · rintro ⟨digits, rfl, count, hex⟩
    obtain ⟨values, taken⟩ := exists_mapM_hexValue?_iff.mpr hex
    rw [← length_of_mapM_eq_some taken] at count
    obtain ⟨c, made⟩ := exists_ofDigits?_iff.mpr count
    exact ⟨c, Option.bind_eq_some_iff.mpr ⟨values, taken, made⟩⟩

theorem parse_of_isLiteral {s : Text} (h : IsLiteral s) :
    ∃ c, ofLiteral? s = some c ∧ parse s = .ok c := by
  obtain ⟨c, read⟩ := exists_ofLiteral?_iff.mpr h
  exact ⟨c, read, by rw [parse, read]⟩

theorem parse_of_not_isLiteral {s : Text} (h : ¬ IsLiteral s) :
    parse s = .error (.invalidColor s) := by
  cases read : ofLiteral? s with
  | none => rw [parse, read]
  | some c => exact absurd (exists_ofLiteral?_iff.mp ⟨c, read⟩) h

/-- An optional literal is one that may be empty, which stands for no color. -/
def IsOptionalLiteral (s : Text) : Prop :=
  s = [] ∨ IsLiteral s

theorem normalize_of_isOptionalLiteral {s : Text} (h : IsOptionalLiteral s) :
    normalize (some s) = .ok (ofLiteral? s) := by
  obtain rfl | literal := h
  · rfl
  · obtain ⟨c, read, parsed⟩ := parse_of_isLiteral literal
    obtain ⟨digits, rfl, -⟩ := literal
    rw [normalize, parsed, read]
    rfl

theorem normalize_of_not_isOptionalLiteral {s : Text} (h : ¬ IsOptionalLiteral s) :
    normalize (some s) = .error (.invalidColor s) := by
  cases s with
  | nil => exact absurd (.inl rfl) h
  | cons c s =>
      rw [normalize, parse_of_not_isLiteral fun literal => h (.inr literal)]
      rfl

/-! ### The printed literal -/

theorem parse_text (c : Color) : parse c.text = .ok c := by
  rw [parse, ofLiteral?_text]

theorem normalize_text (c : Color) : normalize (some c.text) = .ok (some c) := by
  change (parse c.text).map some = _
  rw [parse_text]
  rfl

/-- The digits of a literal are characters that satisfy `p`, if all lowercase
hexadecimal digits do. -/
theorem forall_mem_text {p : Char → Prop} (sign : p '#') (digits : ∀ n < 16, p (Nat.digitChar n))
    (c : Color) : ∀ d ∈ c.text, p d := by
  simp only [text, List.forall_mem_cons, List.forall_mem_append]
  exact ⟨sign, ⟨forall_mem_hexPair digits c.red, forall_mem_hexPair digits c.green⟩,
    forall_mem_hexPair digits c.blue⟩

/-- The literal has six digits, all of them in small. -/
def IsPrinted (s : Text) : Prop :=
  ∃ digits, s = '#' :: digits ∧ digits.length = 6 ∧
    ∀ d ∈ digits, ('0' ≤ d ∧ d ≤ '9') ∨ ('a' ≤ d ∧ d ≤ 'f')

theorem isPrinted_text (c : Color) : IsPrinted c.text := by
  have digits := forall_mem_hexPair
    (p := fun d => ('0' ≤ d ∧ d ≤ '9') ∨ ('a' ≤ d ∧ d ≤ 'f')) (by decide)
  refine ⟨_, rfl, rfl, ?_⟩
  simp only [List.forall_mem_append]
  exact ⟨⟨digits c.red, digits c.green⟩, digits c.blue⟩

/-- A literal in small and, if it has three digits, with each of them twice. -/
def spelledOut : Text → Text
  | [] => []
  | sign :: digits =>
      sign ::
        (if digits.length = 3 then digits.flatMap fun d => [d, d] else digits).map Char.toLower

theorem text_of_ofDigits? {values : List Nat} {c : Color} (small : ∀ n ∈ values, n < 16)
    (h : ofDigits? values = some c) :
    c.text = '#' ::
      (if values.length = 3 then values.flatMap fun n => [n, n] else values).map Nat.digitChar := by
  unfold ofDigits? at h
  split at h
  · next r g b =>
      cases h
      have double (n : Nat) (hn : n < 16) :
          hexPair (.ofNat (17 * n)) = [Nat.digitChar n, Nat.digitChar n] := by
        have halves : 17 * n = 16 * n + n := by omega
        rw [halves, hexPair_ofNat hn hn]
      simp only [List.forall_mem_cons] at small
      obtain ⟨hr, hg, hb, -⟩ := small
      dsimp only [text]
      rw [double r hr, double g hg, double b hb]
      rfl
  · next r r' g g' b b' =>
      cases h
      simp only [List.forall_mem_cons] at small
      obtain ⟨hr, hr', hg, hg', hb, hb', -⟩ := small
      dsimp only [text]
      rw [hexPair_ofNat hr hr', hexPair_ofNat hg hg', hexPair_ofNat hb hb']
      rfl
  · cases h

theorem text_of_parse {s : Text} {c : Color} (h : parse s = .ok c) : c.text = spelledOut s := by
  have read : ofLiteral? s = some c := by
    rw [parse] at h
    split at h
    · next read => cases h; exact read
    · cases h
  unfold ofLiteral? at read
  split at read
  · next digits =>
      obtain ⟨values, taken, made⟩ := Option.bind_eq_some_iff.mp read
      obtain ⟨small, printed⟩ := digits_of_mapM taken
      rw [text_of_ofDigits? small made, spelledOut, length_of_mapM_eq_some taken]
      congr 1
      split
      · have twice := congrArg (List.flatMap fun d => [d, d]) printed
        simp only [List.flatMap_map] at twice
        simpa only [List.map_flatMap, List.map_cons, List.map_nil] using twice
      · exact printed
  · cases read

/-- A color is read from the literals only, and any other text is refused as it was given.
What is printed for the color that is read is the literal spelled out, which is a literal for
the same color and printed again. So two literals are of one color if they are the same
spelled out. -/
theorem parse_spells_out :
    (∀ s, ((∃ c, parse s = .ok c) ↔ IsLiteral s) ∧
      (¬ IsLiteral s → parse s = .error (.invalidColor s)) ∧
      ∀ c, parse s = .ok c → c.text = spelledOut s ∧ IsPrinted (spelledOut s)) ∧
    (∀ c : Color, parse c.text = .ok c) ∧
    (∀ literal, (normalize literal >>= fun c => normalize (c.map text)) = normalize literal) ∧
    ∀ s s', IsLiteral s → IsLiteral s' →
      (parse s = parse s' ↔ spelledOut s = spelledOut s') := by
  refine ⟨fun s => ⟨?_, parse_of_not_isLiteral, fun c read => ?_⟩, parse_text, fun literal => ?_, ?_⟩
  · by_cases literal : IsLiteral s
    · obtain ⟨c, -, read⟩ := parse_of_isLiteral literal
      exact iff_of_true ⟨c, read⟩ literal
    · rw [parse_of_not_isLiteral literal]
      exact iff_of_false (fun ⟨c, read⟩ => nomatch read) literal
  · have printed := isPrinted_text c
    rw [text_of_parse read] at printed
    exact ⟨text_of_parse read, printed⟩
  · cases normalize literal with
    | error e => rfl
    | ok c => cases c with
      | none => rfl
      | some c => exact normalize_text c
  · intro s s' hs hs'
    obtain ⟨c, -, read⟩ := parse_of_isLiteral hs
    obtain ⟨c', -, read'⟩ := parse_of_isLiteral hs'
    rw [read, read', ← text_of_parse read, ← text_of_parse read']
    exact ⟨fun same => congrArg text (Except.ok.inj same),
      fun same => congrArg Except.ok (text_injective same)⟩

/-- Two literals of one color, and texts that are almost literals. -/
theorem parse_spells_out_short :
    parse "#aBc".toList = parse "#AABBcc".toList ∧
      (∃ c, parse "#aBc".toList = .ok c ∧ c.text = "#aabbcc".toList) ∧
      ∀ s ∈ List.map String.toList ["#fff\n", " #fff", "#+ff", "#\u0663ff", "#ffff", "fff", ""],
        parse s = .error (.invalidColor s) := by
  obtain ⟨reads, -, -, same⟩ := parse_spells_out
  have short : IsLiteral "#aBc".toList := by decide
  have long : IsLiteral "#AABBcc".toList := by decide
  have others : ∀ s ∈ List.map String.toList
      ["#fff\n", " #fff", "#+ff", "#\u0663ff", "#ffff", "fff", ""], ¬ IsLiteral s := by decide
  obtain ⟨accepts, -, spells⟩ := reads "#aBc".toList
  obtain ⟨c, read⟩ := accepts.mpr short
  refine ⟨(same _ _ short long).mpr (by decide), ⟨c, read, (spells c read).1⟩, fun s hs => ?_⟩
  obtain ⟨-, refuses, -⟩ := reads s
  exact refuses (others s hs)

end Color
end ColorScheme
