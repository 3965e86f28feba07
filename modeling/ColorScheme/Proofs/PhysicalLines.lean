import ColorScheme.Proofs.TextCuts
import Mathlib.Data.List.Basic

/-!
The lines of a program text, where a carriage return ends a line as a line feed
does, and whether a string literal is open at the end of one. Each break within
what was meant for a line makes one line more.
-/

namespace ColorScheme

namespace Text

def isLineBreak (c : Char) : Bool :=
  c = '\n' || c = '\r'

/-- The lines of a text in which carriage returns end lines too. -/
def physicalLines (s : Text) : List Text :=
  lines (s.map fun c => if isLineBreak c then '\n' else c)

/-- Whether a string literal is open at the end of a text, if it is or is not at the
beginning. In a literal a backslash takes the next character with it. -/
def literalOpen : Bool → Text → Bool
  | opened, [] => opened
  | false, c :: s => literalOpen (c == '"') s
  | true, '\\' :: _ :: s => literalOpen true s
  | true, c :: s => literalOpen (c != '"') s

theorem length_lines {s : Text} (whole : s = [] ∨ s.getLast? = some '\n') :
    (lines s).length = s.count '\n' := by
  induction s with
  | nil => rfl
  | cons c s ih =>
      have last : (c :: s).getLast? = some '\n' := whole.resolve_left (by simp)
      by_cases hc : c = '\n'
      · have rest : s = [] ∨ s.getLast? = some '\n' := by
          cases s with
          | nil => exact .inl rfl
          | cons d s => exact .inr (by simpa using last)
        rw [hc, lines_cons_lineFeed, List.length_cons, ih rest, List.count_cons_self]
      · obtain ⟨d, t, rfl⟩ : ∃ d t, s = d :: t := by
          cases s with
          | nil => exact absurd (by simpa using last) hc
          | cons d t => exact ⟨d, t, rfl⟩
        have rest := ih (.inr (by simpa using last))
        rw [List.count_cons_of_ne hc, ← rest, lines_cons_of_ne hc]
        cases h : lines (d :: t) with
        | nil => simp [lines_eq_nil_iff] at h
        | cons line ls => rfl

theorem map_of_no_break {s : Text} (h : ∀ c ∈ s, isLineBreak c = false) :
    s.map (fun c => if isLineBreak c then '\n' else c) = s :=
  calc s.map (fun c => if isLineBreak c then '\n' else c)
    _ = s.map id := List.map_congr_left fun c hc => by simp [h c hc]
    _ = s := List.map_id s

theorem lineFeed_not_mem_of_no_break {s : Text} (h : ∀ c ∈ s, isLineBreak c = false) : '\n' ∉ s :=
  fun m => absurd (h _ m) (by decide)

/-- The first break ends the first line. -/
theorem physicalLines_append_break {l : Text} (h : ∀ c ∈ l, isLineBreak c = false) {c : Char}
    (hc : isLineBreak c = true) (s : Text) :
    physicalLines (l ++ c :: s) = l :: physicalLines s := by
  rw [physicalLines, List.map_append, map_of_no_break h, List.map_cons, if_pos hc,
    lines_append_lineFeed _ _ (lineFeed_not_mem_of_no_break h), physicalLines]

theorem physicalLines_ofLines_cons (l : Text) (ls : List Text) :
    physicalLines (ofLines (l :: ls)) =
      physicalLines (l ++ ['\n']) ++ physicalLines (ofLines ls) := by
  have whole (s : Text) : ((s ++ ['\n']).map fun c => if isLineBreak c then '\n' else c).getLast? =
      some '\n' := by simp
  rw [ofLines, List.flatMap_cons, physicalLines, List.map_append, lines_append (.inr (whole l))]
  rfl

theorem physicalLines_ofLines (ls : List Text) :
    physicalLines (ofLines ls) = ls.flatMap fun l => physicalLines (l ++ ['\n']) := by
  induction ls with
  | nil => rfl
  | cons l ls ih => rw [physicalLines_ofLines_cons, ih, List.flatMap_cons]

theorem physicalLines_of_no_break {ls : List Text} (h : ∀ l ∈ ls, ∀ c ∈ l, isLineBreak c = false) :
    physicalLines (ofLines ls) = ls := by
  rw [physicalLines_ofLines]
  calc ls.flatMap (fun l => physicalLines (l ++ ['\n']))
    _ = ls.flatMap fun l => [l] :=
        List.flatMap_congr fun l hl => physicalLines_append_break (h l hl) (by decide) []
    _ = ls := List.flatMap_singleton' ls

theorem length_physicalLines_line (l : Text) :
    (physicalLines (l ++ ['\n'])).length = 1 + l.countP isLineBreak := by
  have breaks (s : Text) : (s.map fun c => if isLineBreak c then '\n' else c).count '\n' =
      s.countP isLineBreak := by
    rw [List.count_eq_countP, List.countP_map]
    refine List.countP_congr fun c _ => ?_
    by_cases h : isLineBreak c
    · simp [h]
    · have other : c ≠ '\n' := by rintro rfl; exact h (by decide)
      simp [h, other]
  rw [physicalLines, length_lines (.inr (by simp)), breaks, List.countP_append, Nat.add_comm]
  rfl

/-- Each break within a line makes one line more. -/
theorem length_physicalLines_ofLines (ls : List Text) :
    (physicalLines (ofLines ls)).length = ls.length + ls.flatten.countP isLineBreak := by
  rw [physicalLines_ofLines]
  induction ls with
  | nil => rfl
  | cons l ls ih =>
      rw [List.flatMap_cons, List.length_append, length_physicalLines_line, ih, List.length_cons,
        List.flatten_cons, List.countP_append]
      omega

theorem literalOpen_escaped (c : Char) (s : Text) :
    literalOpen true ('\\' :: c :: s) = literalOpen true s := rfl

theorem literalOpen_cons {c : Char} (quote : c ≠ '"') (backslash : c ≠ '\\') (opened : Bool)
    (s : Text) : literalOpen opened (c :: s) = literalOpen opened s := by
  have other : (c == '"') = false := beq_false_of_ne quote
  cases opened with
  | false => rw [literalOpen, other]
  | true =>
      rw [literalOpen, bne, other, Bool.not_false]
      rintro _ _ rfl
      exact absurd rfl backslash

theorem literalOpen_append {l : Text} (plain : ∀ c ∈ l, c ≠ '"' ∧ c ≠ '\\') (opened : Bool)
    (s : Text) : literalOpen opened (l ++ s) = literalOpen opened s := by
  induction l with
  | nil => rfl
  | cons c l ih =>
      obtain ⟨quote, backslash⟩ := plain c (by simp)
      rw [List.cons_append, literalOpen_cons quote backslash, ih fun d hd => plain d (by simp [hd])]

end Text
end ColorScheme
