import ColorScheme.Proofs.ScriptCommands

/-!
The name of a scheme in its script. It stands in a string on a line of its own and can end
neither, so all other lines are the same whatever the name.
-/

namespace ColorScheme.VimScript

open Text (isLineBreak physicalLines endingBackslashes)

/-- The line of a script that has the name of the scheme. -/
def nameLine (name : Text) : Text :=
  "let g:colors_name=\"".toList ++ escape name ++ ['"']

theorem nameLine_injective : Function.Injective nameLine := by
  intro name other same
  unfold nameLine at same
  rw [List.append_cancel_right_eq, List.append_cancel_left_eq] at same
  have undone := congrArg unescape? same
  rw [unescape?_escape, unescape?_escape] at undone
  exact Option.some.inj undone

theorem no_break_nameLine (name : Text) : ∀ c ∈ nameLine name, isLineBreak c = false := by
  have lead : ∀ c ∈ "let g:colors_name=\"".toList, isLineBreak c = false :=
    List.all_iff_forall_prop.mp (by decide)
  unfold nameLine
  simp only [List.forall_mem_append, List.forall_mem_singleton]
  exact ⟨⟨lead, no_break_escape name⟩, rfl⟩

variable (background : Background) (s : Scheme)

/-- The lines of a script around the one that has the name. -/
theorem exists_lines_around : ∃ before after : List Text, ∀ name,
    header name background s ++ groups.flatMap (groupLines s) = before ++ nameLine name :: after :=
  ⟨(header [] background s).take 5,
    (header [] background s).drop 6 ++ groups.flatMap (groupLines s), fun _ => rfl⟩

/-- Whatever the name of a scheme, it stays within its string and on its line, and is what
the string says. So different names have different lines, and all other lines of a script
are the same for all names, if carriage returns end lines too or not. -/
theorem write_quotes_name :
    (∀ name, InString (escape name) ∧ unescape? (escape name) = some name) ∧
    Function.Injective nameLine ∧
    (∃ before after, ∀ name,
      Text.lines (write name background s) = before ++ nameLine name :: after) ∧
    ∃ before after, ∀ name,
      physicalLines (write name background s) = before ++ nameLine name :: after := by
  obtain ⟨before, after, around⟩ := exists_lines_around background s
  refine ⟨fun name => ⟨inString_escape name, unescape?_escape name⟩, nameLine_injective,
    ⟨before, after, fun name => ?_⟩, before.flatMap fun l => physicalLines (l ++ ['\n']),
    after.flatMap fun l => physicalLines (l ++ ['\n']), fun name => ?_⟩
  · rw [lines_write, around]
  · have line : physicalLines (nameLine name ++ ['\n']) = [nameLine name] :=
      Text.physicalLines_append_break (no_break_nameLine name) (by decide) []
    rw [write, around, Text.physicalLines_ofLines, List.flatMap_append, List.flatMap_cons, line]
    rfl

/-- A backslash in front of an `n` is not taken for the escape of a line feed, and one at the
end of a name leaves its string closed. -/
theorem write_quotes_name_backslashes :
    let name := "\\n\"\\".toList
    let other := "\n\"\\".toList
    Odd (endingBackslashes "\\\\n\\".toList) ∧ ¬ Odd (endingBackslashes (escape name)) ∧
      unescape? "\\\\n\\\"\\\\".toList = some name ∧ nameLine name ≠ nameLine other ∧
      (Text.lines (write name .auto {})).length = (Text.lines (write other .auto {})).length := by
  intro name other
  obtain ⟨strings, injective, ⟨before, after, lines⟩, -⟩ := write_quotes_name .auto {}
  obtain ⟨inString, undone⟩ := strings name
  refine ⟨inString.quotes _ "\\\\".toList rfl, inString.closes, undone, ?_, ?_⟩
  · exact fun same => absurd (injective same) (by decide)
  · rw [lines name, lines other, List.length_append, List.length_append, List.length_cons,
      List.length_cons]

end ColorScheme.VimScript
