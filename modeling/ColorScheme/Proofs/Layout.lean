import ColorScheme.Proofs.Renumbering

/-!
Layout that makes no difference. Comments put between the lines of a document, also
between the lines of one value, and blanks at the ends of lines, such as the carriage
return of another line ending, leave what is read as it was, except that each line is
numbered after the comments above it.
-/

namespace ColorScheme

namespace Text

/-- The first character that is not blank begins a comment. -/
def IsComment (line : Text) : Prop :=
  line.find? (!isBlank ·) = some '#' ∨ line.find? (!isBlank ·) = some ';'

instance (line : Text) : Decidable line.IsComment :=
  inferInstanceAs (Decidable (_ ∨ _))

/-- The text with a carriage return before each line feed. -/
def withReturns (s : Text) : Text :=
  s.flatMap fun c => if c = '\n' then ['\r', '\n'] else [c]

theorem exists_trim_of_find? {c : Char} {s : Text} (h : s.find? (!isBlank ·) = some c) :
    ∃ rest, trim s = c :: rest := by
  induction s with
  | nil => cases h
  | cons d s ih =>
      cases hd : isBlank d with
      | true =>
          rw [trim_cons_blank hd]
          exact ih (by simpa [hd] using h)
      | false =>
          obtain rfl : d = c := by simpa [hd] using h
          exact ⟨trimEnd s, trim_cons_of_not_blank hd s⟩

theorem trim_append_blanks {blanks : Text} (h : ∀ c ∈ blanks, isBlank c = true) (s : Text) :
    trim (s ++ blanks) = trim s := by
  induction blanks using List.reverseRecOn with
  | nil => rw [List.append_nil]
  | append_singleton blanks c ih =>
      rw [← List.append_assoc, trim_append_blank (h c (by simp)), ih fun d hd => h d (by simp [hd])]

/-- Carriage returns are put in front of line feeds only, so they end lines. -/
theorem forall₂_lines_withReturns (s : Text) :
    List.Forall₂ (fun raw line => line = raw ∨ line = raw ++ ['\r'])
      (lines s) (lines (withReturns s)) := by
  induction s with
  | nil => exact .nil
  | cons c s ih =>
      by_cases feed : c = '\n'
      · subst feed
        change List.Forall₂ _ _ (lines ('\r' :: '\n' :: withReturns s))
        rw [lines_cons_lineFeed, lines, lines_cons_lineFeed]
        exact .cons (.inr rfl) ih
      · have other : withReturns (c :: s) = c :: withReturns s := by simp [withReturns, feed]
        rw [other, lines, lines, if_neg feed, if_neg feed]
        generalize lines s = ls, lines (withReturns s) = ms at ih
        cases ih with
        | nil => exact .cons (.inl rfl) .nil
        | cons first rest =>
            refine .cons ?_ rest
            obtain rfl | rfl := first
            · exact .inl rfl
            · exact .inr rfl

end Text

namespace Line

theorem ofText_comment {line : Text} (h : line.IsComment) : ofText line = .comment := by
  obtain h | h := h
  all_goals
    obtain ⟨rest, trimmed⟩ := Text.exists_trim_of_find? h
    rw [ofText, trimmed]
    rfl

theorem ofText_append_blanks {blanks : Text} (h : ∀ c ∈ blanks, Text.isBlank c = true)
    (raw : Text) : ofText (raw ++ blanks) = ofText raw := by
  rw [ofText, ofText, Text.trim_append_blanks h]
  cases raw with
  | nil => rfl
  | cons c raw => rfl

end Line

/-- What is put around a line: comments above it, and blanks behind it. -/
structure Margin where
  above : List Text := []
  behind : Text := []
  comments : ∀ line ∈ above, line.IsComment := by simp
  blanks : ∀ c ∈ behind, Text.isBlank c = true := by simp

/-- What is put around each line, by its number. The comments above the number after the
last line stand at the end. -/
def Layout :=
  Nat → Margin

namespace Layout

/-- Lines, the first of them with the given number, in a layout. -/
def lines (layout : Layout) (n : Nat) : List Text → List Text
  | [] => (layout n).above
  | raw :: ls => (layout n).above ++ (raw ++ (layout n).behind) :: layout.lines (n + 1) ls

/-- The new number of a line: each comment above it counts. -/
def number (layout : Layout) (n : Nat) : Nat :=
  n + ((List.range n).flatMap fun i => (layout (i + 1)).above).length

theorem number_succ (layout : Layout) (n : Nat) :
    layout.number (n + 1) = layout.number n + 1 + (layout (n + 1)).above.length := by
  simp only [number, List.range_succ, List.flatMap_append, List.flatMap_singleton,
    List.length_append]
  omega

end Layout

namespace Reader

theorem readLines_comments {ls : List Text} (h : ∀ line ∈ ls, line.IsComment) (r : Reader)
    (number : Nat) : r.readLines number ls = .ok r := by
  induction ls generalizing number with
  | nil => rfl
  | cons line ls ih =>
      have pass : r.place.action line = .pass := by
        rw [Place.action, Line.ofText_comment (h line (by simp))]
      rw [readLines_cons, pass]
      exact ih (fun line hl => h line (by simp [hl])) (number + 1)

theorem readLines_congr {ls ms : List Text}
    (h : List.Forall₂ (fun raw line => Line.ofText line = Line.ofText raw) ls ms) (r : Reader)
    (number : Nat) : r.readLines number ms = r.readLines number ls := by
  induction h generalizing r number with
  | nil => rfl
  | cons same _ ih =>
      rw [readLines_cons, readLines_cons, Place.action, same, ← Place.action]
      congr 1
      funext next
      exact ih next (number + 1)

theorem readLines_layout (layout : Layout) (ls : List Text) (r : Reader) (n : Nat) :
    (r.renumber layout.number).readLines (layout.number n + 1) (layout.lines (n + 1) ls) =
      ((r.readLines (n + 1) ls).map (.renumber layout.number)).mapError
        (.renumber layout.number) := by
  induction ls generalizing r n with
  | nil => exact readLines_comments (layout (n + 1)).comments _ _
  | cons raw ls ih =>
      have same : (r.renumber layout.number).place = r.place := rfl
      have line (p : Place) : p.action (raw ++ (layout (n + 1)).behind) = p.action raw := by
        rw [Place.action, Line.ofText_append_blanks (layout (n + 1)).blanks, ← Place.action]
      rw [Layout.lines, readLines_append, readLines_comments (layout (n + 1)).comments]
      -- Past the comments above it the line stands at its new number.
      change readLines _ _ _ = _
      rw [← layout.number_succ, readLines_cons, readLines_cons, line, same, perform_renumber]
      cases r.perform (n + 1) (r.place.action raw) with
      | error e => rfl
      | ok next => exact ih next (n + 1)

end Reader

namespace Document

theorem ofText_of_lines_eq {text other : Text} {layout : Layout}
    (laid : Text.lines other = layout.lines 1 (Text.lines text)) :
    ofText other =
      ((ofText text).map (.renumber layout.number)).mapError (.renumber layout.number) := by
  have run := Reader.readLines_layout layout (Text.lines text) {} 0
  change ({} : Reader).readLines 1 (layout.lines 1 (Text.lines text)) = _ at run
  rw [ofText, ofText, laid, run]
  cases ({} : Reader).readLines 1 (Text.lines text) <;> rfl

theorem exists_of_ofText_eq_error {text : Text} {e : Error} (h : ofText text = .error e) :
    ∃ line fault, e = .malformed line fault := by
  obtain ⟨i, -, fault, rfl⟩ := Reader.readLines_error (ofText_eq_error_iff.mp h)
  exact ⟨1 + i, fault, rfl⟩

theorem ofText_withReturns (text : Text) : ofText (Text.withReturns text) = ofText text := by
  have alike : List.Forall₂ (fun raw line => Line.ofText line = Line.ofText raw)
      (Text.lines text) (Text.lines (Text.withReturns text)) := by
    refine (Text.forall₂_lines_withReturns text).imp fun raw line h => ?_
    obtain rfl | rfl := h
    · rfl
    · exact Line.ofText_append_blanks (List.forall_mem_singleton.mpr rfl) raw
  rw [ofText, ofText, Reader.readLines_congr alike]

/-- Comments between the lines of a text and blanks at their ends change nothing but the
numbers of lines, and returns at the ends of lines not even those. -/
theorem ofText_layout (text : Text) :
    (∀ (layout : Layout) (other : Text), Text.lines other = layout.lines 1 (Text.lines text) →
      match ofText text with
      | .ok d =>
          ofText other = .ok (d.renumber layout.number) ∧ ∀ sec key,
            (d.renumber layout.number).raw? sec key =
              (d.raw? sec key).map (.renumber layout.number) ∧
            (d.renumber layout.number).value sec key =
              (d.value sec key).mapError (.renumber layout.number) ∧
            (d.renumber layout.number).flag sec key =
              (d.flag sec key).mapError (.renumber layout.number)
      | .error e => ∃ line fault, e = .malformed line fault ∧
          ofText other = .error (.malformed (layout.number line) fault)) ∧
    ofText (Text.withReturns text) = ofText text := by
  refine ⟨fun layout other laid => ?_, ofText_withReturns text⟩
  have outcome := ofText_of_lines_eq laid
  cases read : ofText text with
  | ok d =>
      rw [read] at outcome
      exact ⟨outcome, fun sec key => ⟨raw?_renumber _ d sec key, value_renumber _ d sec key,
        flag_renumber _ d sec key⟩⟩
  | error e =>
      rw [read] at outcome
      obtain ⟨line, fault, rfl⟩ := exists_of_ofText_eq_error read
      exact ⟨line, fault, rfl, outcome⟩

/-- A comment above the section, one within a value, and blanks behind the value's first
line. -/
theorem ofText_layout_annotated :
    let layout : Layout
      | 1 => { above := ["# settings".toList], comments := by decide }
      | 2 =>
          { behind := [' ', '\r']
            blanks := List.forall_mem_cons.mpr ⟨rfl, List.forall_mem_singleton.mpr rfl⟩ }
      | 3 => { above := ["  ; more".toList], comments := by decide }
      | _ => {}
    let annotated := "# settings\n[s]\na = 1 \r\n  ; more\n 2\n".toList
    (∃ d, ofText "[s]\na = 1\n 2".toList = .ok d ∧
      ofText annotated = .ok (d.renumber layout.number) ∧
      (d.renumber layout.number).raw? ['s'] ['a'] = some ⟨"1\n2".toList, 3⟩) ∧
    ofText (annotated ++ "b".toList) = .error (.malformed 6 (.notAnOption "b".toList)) ∧
    ofText (Text.withReturns "[s]\na = 1\n 2".toList) = ofText "[s]\na = 1\n 2".toList := by
  intro layout annotated
  have plain := ofText_layout "[s]\na = 1\n 2".toList
  have faulty := ofText_layout "[s]\na = 1\n 2\nb".toList
  have laid := plain.1 layout annotated (by decide)
  have laid' := faulty.1 layout (annotated ++ "b".toList) (by decide)
  obtain ⟨line, fault, same, outcome⟩ := laid'
  cases same
  exact ⟨⟨_, rfl, laid.1, rfl⟩, outcome, plain.2⟩

end Document
end ColorScheme
