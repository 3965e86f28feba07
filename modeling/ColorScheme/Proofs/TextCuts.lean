import ColorScheme.Text.Basic

/-!
Where texts come apart: the lines of two texts one after the other, and the two
sides of a first separator.
-/

namespace ColorScheme

theorem mem_intercalate {α : Type} {sep : List α} {ls : List (List α)} {a : α}
    (h : a ∈ sep.intercalate ls) : a ∈ sep ∨ ∃ l ∈ ls, a ∈ l := by
  induction ls with
  | nil => cases h
  | cons l ls ih =>
      cases ls with
      | nil => exact .inr ⟨l, List.mem_cons_self .., by simpa using h⟩
      | cons next ls =>
          rw [List.intercalate_cons_cons, List.mem_append, List.mem_append] at h
          obtain (h | h) | h := h
          · exact .inr ⟨l, List.mem_cons_self .., h⟩
          · exact .inl h
          · obtain h | ⟨m, hm, h⟩ := ih h
            · exact .inl h
            · exact .inr ⟨m, List.mem_cons_of_mem _ hm, h⟩

theorem intercalate_cons_eq {α : Type} (sep l : List α) (ls : List (List α)) :
    sep.intercalate (l :: ls) = l ++ ls.flatMap (sep ++ ·) := by
  induction ls generalizing l with
  | nil => simp
  | cons next ls ih => simp [ih]

/-- The pieces between separators hold none, and are parts of the text. -/
theorem mem_splitOnP {α : Type} {p : α → Bool} {s piece : List α} (h : piece ∈ s.splitOnP p) :
    (∀ a ∈ piece, p a = false) ∧ piece.Sublist s := by
  induction s generalizing piece with
  | nil =>
      obtain rfl : piece = [] := by simpa using h
      simp
  | cons c s ih =>
      rw [List.splitOnP_cons_eq_if_modifyHead] at h
      split at h
      · obtain rfl | h := List.mem_cons.mp h
        · simp
        · exact ⟨(ih h).1, (ih h).2.cons c⟩
      · next hc =>
          obtain ⟨first, rest, split⟩ := List.exists_cons_of_ne_nil (List.splitOnP_ne_nil p s)
          rw [split] at h ih
          obtain rfl | h := List.mem_cons.mp h
          · obtain ⟨fresh, part⟩ := ih (List.mem_cons_self ..)
            refine ⟨?_, part.cons_cons c⟩
            rintro a (_ | ⟨_, ha⟩)
            · simpa using hc
            · exact fresh a ha
          · obtain ⟨fresh, part⟩ := ih (List.mem_cons_of_mem _ h)
            exact ⟨fresh, part.cons c⟩

namespace Text

theorem lines_cons_of_ne {c : Char} (h : c ≠ '\n') (s : Text) :
    lines (c :: s) = match lines s with
      | [] => [[c]]
      | line :: rest => (c :: line) :: rest :=
  if_neg h

theorem lines_eq_nil_iff {s : Text} : lines s = [] ↔ s = [] := by
  cases s with
  | nil => simp
  | cons c s =>
      by_cases h : c = '\n'
      · simp [h]
      · rw [lines_cons_of_ne h]
        split <;> simp

/-- The lines of a text that ends with a line feed stay as they are in front of
any other text. -/
theorem lines_append {a : Text} (whole : a = [] ∨ a.getLast? = some '\n') (b : Text) :
    lines (a ++ b) = lines a ++ lines b := by
  induction a with
  | nil => rfl
  | cons c a ih =>
      have last : (c :: a).getLast? = some '\n' := whole.resolve_left (by simp)
      cases a with
      | nil =>
          obtain rfl : c = '\n' := by simpa using last
          simp
      | cons d a =>
          have rest := ih (.inr (by simpa using last))
          rw [List.cons_append]
          by_cases hc : c = '\n'
          · rw [hc, lines_cons_lineFeed, lines_cons_lineFeed, rest, List.cons_append]
          · rw [lines_cons_of_ne hc, lines_cons_of_ne hc, rest]
            cases h : lines (d :: a) with
            | nil => simp [lines_eq_nil_iff] at h
            | cons line ls => rfl

theorem lineFeed_not_mem_of_mem_lines {s l : Text} (h : l ∈ lines s) : '\n' ∉ l := by
  induction s generalizing l with
  | nil => simp at h
  | cons c s ih =>
      by_cases hc : c = '\n'
      · rw [hc, lines_cons_lineFeed] at h
        obtain rfl | h := List.mem_cons.mp h
        · simp
        · exact ih h
      · rw [lines_cons_of_ne hc] at h
        cases hs : lines s with
        | nil =>
            obtain rfl : l = [c] := by simpa [hs] using h
            simpa using Ne.symm hc
        | cons line rest =>
            rw [hs] at h ih
            obtain rfl | h := List.mem_cons.mp h
            · simpa [Ne.symm hc] using ih (List.mem_cons_self ..)
            · exact ih (List.mem_cons_of_mem _ h)

theorem cut?_append {p : Char → Bool} {l : Text} (left : ∀ d ∈ l, p d = false) {c : Char}
    (hc : p c = true) (r : Text) : cut? p (l ++ c :: r) = some (l, r) := by
  induction l with
  | nil => simp [cut?, hc]
  | cons d l ih =>
      simp [cut?, left d (by simp), ih fun e he => left e (by simp [he])]

theorem cut?_char {x : Char} {l : Text} (h : x ∉ l) (r : Text) :
    cut? (· = x) (l ++ x :: r) = some (l, r) :=
  cut?_append (fun c hc => by simpa using fun e : c = x => h (e ▸ hc)) (by simp) r

theorem cut?_eq_none {p : Char → Bool} {s : Text} (h : ∀ d ∈ s, p d = false) :
    cut? p s = none := by
  induction s with
  | nil => rfl
  | cons d s ih => simp [cut?, h d (by simp), ih fun e he => h e (by simp [he])]

theorem after?_eq_none_iff {lead s : Text} : after? lead s = none ↔ ¬ lead <+: s := by
  constructor
  · rintro absent ⟨rest, rfl⟩
    rw [after?_append] at absent
    cases absent
  · intro h
    cases found : after? lead s with
    | none => rfl
    | some rest => exact absurd ⟨rest, (eq_append_of_after? found).symm⟩ h

end Text
end ColorScheme
