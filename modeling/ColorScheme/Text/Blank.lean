import ColorScheme.Text.Basic

/-!
White space, as the Unicode property `White_Space` has it: trimming both ends
of a text, and the words between runs of white space.
-/

namespace ColorScheme.Text

/-- The characters with the property `White_Space`. -/
def isBlank (c : Char) : Bool :=
  let n := c.toNat
  (9 ≤ n && n ≤ 13) || n == 0x20 || n == 0x85 || n == 0xA0 || n == 0x1680 ||
    (0x2000 ≤ n && n ≤ 0x200A) || n == 0x2028 || n == 0x2029 || n == 0x202F ||
    n == 0x205F || n == 0x3000

def trimStart (s : Text) : Text :=
  s.dropWhile isBlank

def trimEnd : Text → Text
  | [] => []
  | c :: s => match trimEnd s with
      | [] => if isBlank c then [] else [c]
      | d :: t => c :: d :: t

def trim (s : Text) : Text :=
  trimEnd (trimStart s)

/-- The maximal runs of characters that are not white space. -/
def words (s : Text) : List Text :=
  (s.splitOnP isBlank).filter fun w => !w.isEmpty

theorem isBlank_of_isWhitespace {c : Char} (h : c.isWhitespace = true) : isBlank c = true := by
  simp only [Char.isWhitespace, Bool.or_eq_true, decide_eq_true_eq] at h
  rcases h with ((rfl | rfl) | rfl) | rfl <;> decide

@[simp] theorem words_nil : words [] = [] := rfl

/-- One white-space character separates the words on its two sides. -/
theorem words_append_blank (a b : Text) {c : Char} (h : isBlank c = true) :
    words (a ++ c :: b) = words a ++ words b := by
  simp [words, List.splitOnP_append_cons _ _ h]

/-- A non-empty text without white space is one word. -/
theorem words_eq_singleton {w : Text} (ne : w ≠ []) (h : ∀ c ∈ w, isBlank c = false) :
    words w = [w] := by
  have e : w.splitOnP isBlank = [w] := List.splitOnP_eq_singleton (by simpa using h)
  cases w with
  | nil => exact absurd rfl ne
  | cons c w => simp [words, e]

end ColorScheme.Text
