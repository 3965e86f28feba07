import ColorScheme.VimScript
import ColorScheme.Proofs.Blanks
import ColorScheme.Proofs.PhysicalLines
import Mathlib.Algebra.Ring.Parity

/-!
The strings of a script. A text stands in one with escapes for the characters that would end
it or its line, and undoing the escapes gives the text again.
-/

namespace ColorScheme

open Text (isLineBreak)

namespace Text

/-- How many backslashes a text ends with. -/
def endingBackslashes (s : Text) : Nat :=
  (s.rtakeWhile (· = '\\')).length

theorem odd_endingBackslashes_concat (s : Text) (c : Char) :
    Odd (endingBackslashes (s ++ [c])) ↔ c = '\\' ∧ ¬ Odd (endingBackslashes s) := by
  by_cases h : c = '\\'
  · simp [endingBackslashes, h, Nat.odd_add_one]
  · simp [endingBackslashes, h]

/-- In front of each quote is an odd number of backslashes, so that it is escaped. -/
def QuotesEscaped (s : Text) : Prop :=
  ∀ before after, s = before ++ '"' :: after → Odd (endingBackslashes before)

theorem QuotesEscaped.concat {s : Text} (h : QuotesEscaped s) {c : Char}
    (hc : c = '"' → Odd (endingBackslashes s)) : QuotesEscaped (s ++ [c]) := by
  intro before after whole
  cases after using List.reverseRecOn with
  | nil =>
      obtain ⟨rfl, last⟩ := List.append_inj' whole rfl
      exact hc (List.singleton_inj.mp last)
  | append_singleton after d =>
      rw [← List.cons_append, ← List.append_assoc] at whole
      exact h before after (List.append_inj' whole rfl).1

end Text

open Text (endingBackslashes odd_endingBackslashes_concat QuotesEscaped)

namespace VimScript

/-- What a character stands for behind a backslash. -/
def unescapeChar? (c : Char) : Option Char :=
  if c = '\\' ∨ c = '"' then some c
  else if c = 'n' then some '\n'
  else if c = 'r' then some '\r'
  else none

/-- What a text stands for whose escapes are undone from left to right. -/
def unescape? : Text → Option Text
  | [] => some []
  | ['\\'] => none
  | '\\' :: c :: s => do return (← unescapeChar? c) :: (← unescape? s)
  | c :: s => do return c :: (← unescape? s)

/-- The text stays within a string and on its line: each quote in it is escaped, and the
quote behind it is not. -/
structure InString (s : Text) : Prop where
  line : '\n' ∉ s ∧ '\r' ∉ s
  quotes : QuotesEscaped s
  closes : ¬ Odd (endingBackslashes s)

/-- A character stands for itself or is escaped, and never ends a line. -/
theorem escapeChar_cases (c : Char) :
    (∃ d, escapeChar c = ['\\', d] ∧ unescapeChar? d = some c ∧ isLineBreak d = false) ∨
      escapeChar c = [c] ∧ c ≠ '\\' ∧ c ≠ '"' ∧ isLineBreak c = false := by
  by_cases special : c = '\\' ∨ c = '"'
  · refine .inl ⟨c, by simp [escapeChar, special], by simp [unescapeChar?, special], ?_⟩
    obtain rfl | rfl := special <;> decide
  · by_cases lineFeed : c = '\n'
    · exact .inl ⟨'n', by simp [escapeChar, lineFeed], by simp [unescapeChar?, lineFeed], by decide⟩
    · by_cases carriageReturn : c = '\r'
      · exact .inl ⟨'r', by simp [escapeChar, carriageReturn],
          by simp [unescapeChar?, carriageReturn], by decide⟩
      · refine .inr ⟨by simp [escapeChar, special, lineFeed, carriageReturn], ?_⟩
        exact ⟨(not_or.mp special).1, (not_or.mp special).2,
          by simp [isLineBreak, lineFeed, carriageReturn]⟩

theorem no_break_escape (name : Text) : ∀ c ∈ escape name, isLineBreak c = false := by
  intro c hc
  obtain ⟨d, -, hc⟩ := List.mem_flatMap.mp hc
  obtain ⟨e, escaped, -, solid⟩ | ⟨plain, -, -, solid⟩ := escapeChar_cases d
  · rw [escaped, List.mem_cons, List.mem_singleton] at hc
    obtain rfl | rfl := hc
    · decide
    · exact solid
  · rw [plain, List.mem_singleton] at hc
    exact hc ▸ solid

theorem unescape?_cons {c : Char} (plain : c ≠ '\\') (s : Text) :
    unescape? (c :: s) = do return c :: (← unescape? s) := by
  rw [unescape?]
  · rintro rfl
    exact absurd rfl plain
  · rintro _ _ rfl
    exact absurd rfl plain

theorem unescape?_escape (name : Text) : unescape? (escape name) = some name := by
  induction name with
  | nil => rfl
  | cons c name ih =>
      have rest : escape (c :: name) = escapeChar c ++ escape name := List.flatMap_cons
      obtain ⟨d, escaped, undone, -⟩ | ⟨plain, backslash, -, -⟩ := escapeChar_cases c
      · rw [rest, escaped]
        change (do return (← unescapeChar? d) :: (← unescape? (escape name))) = _
        rw [undone, ih]
        rfl
      · rw [rest, plain, List.singleton_append, unescape?_cons backslash, ih]
        rfl

/-- In front of an escaped character there is one backslash more than in front of its
escape, where the number is even. -/
theorem quotesEscaped_escape (name : Text) :
    QuotesEscaped (escape name) ∧ ¬ Odd (endingBackslashes (escape name)) := by
  induction name using List.reverseRecOn with
  | nil => exact ⟨fun before after whole => by simp [escape] at whole, by decide⟩
  | append_singleton name c ih =>
      obtain ⟨quotes, closes⟩ := ih
      have rest : escape (name ++ [c]) = escape name ++ escapeChar c := by simp [escape]
      obtain ⟨d, escaped, -, -⟩ | ⟨plain, backslash, quote, -⟩ := escapeChar_cases c
      · have opened : Odd (endingBackslashes (escape name ++ ['\\'])) :=
          (odd_endingBackslashes_concat _ _).mpr ⟨rfl, closes⟩
        rw [rest, escaped, List.append_cons]
        refine ⟨(quotes.concat fun e => absurd e (by decide)).concat fun _ => opened, fun odd => ?_⟩
        exact ((odd_endingBackslashes_concat _ _).mp odd).2 opened
      · rw [rest, plain]
        refine ⟨quotes.concat fun e => absurd e quote, fun odd => ?_⟩
        exact backslash ((odd_endingBackslashes_concat _ _).mp odd).1

theorem inString_escape (name : Text) : InString (escape name) where
  line := ⟨fun m => absurd (no_break_escape name _ m) (by decide),
    fun m => absurd (no_break_escape name _ m) (by decide)⟩
  quotes := (quotesEscaped_escape name).1
  closes := (quotesEscaped_escape name).2

end VimScript
end ColorScheme
