import ColorScheme.Proofs.ScriptCommands

/-!
What can be told of a scheme from its script: the two colors of the page and the
look of the style in effect for each token of the table. Nothing else of the
scheme has a say, and each of these has.
-/

namespace ColorScheme.VimScript

theorem commands_eq_iff {a b : Scheme} {e : Text × Token} :
    commands a e = commands b e ↔ (a.resolve e.2).SameLook (b.resolve e.2) := by
  rw [← attributes_eq_iff, commands, commands]
  constructor
  · intro same
    by_cases ha : attributes (a.resolve e.2) = [] <;> by_cases hb : attributes (b.resolve e.2) = []
    · rw [ha, hb]
    · simp [ha, hb] at same
    · simp [ha, hb] at same
    · rw [if_neg ha, if_neg hb, List.singleton_inj, highlightLine, highlightLine,
        List.append_cancel_left_eq, List.cons_inj_right] at same
      rw [← Text.words_intercalate _ attributes_solid, same, Text.words_intercalate _ attributes_solid]
  · intro same
    rw [same]

theorem groupLines_congr {a b : Scheme} {row : Token × List Text}
    (h : (a.resolve row.1).SameLook (b.resolve row.1)) : groupLines a row = groupLines b row := by
  rw [groupLines, groupLines, attributes_eq_iff.mpr h]

theorem exists_group : ∀ row ∈ groups, ∃ g, g ∈ row.2 := by
  have some : ∀ row ∈ groups, row.2 ≠ [] := by decide +kernel
  exact fun row h => List.exists_mem_of_ne_nil _ (some row h)

variable (name : Text) (background : Background)

theorem page_of_write_eq {a b : Scheme} (h : write name background a = write name background b) :
    a.background = b.background ∧ a.highlight = b.highlight := by
  have commands := congrArg (fun text => (Text.lines text).filter isCommand) h
  simp only [filter_lines_write] at commands
  -- The commands for the page come first, whatever the groups show.
  obtain ⟨-, page⟩ := List.cons.inj (List.append_inj_left commands rfl)
  obtain ⟨page, cursorLine⟩ := List.cons.inj page
  obtain ⟨cursorLine, -⟩ := List.cons.inj cursorLine
  exact ⟨Color.text_injective (List.append_cancel_left page),
    Color.text_injective (List.append_cancel_left cursorLine)⟩

theorem sameLook_of_write_eq {a b : Scheme} (h : write name background a = write name background b)
    {row : Token × List Text} (hrow : row ∈ groups) :
    (a.resolve row.1).SameLook (b.resolve row.1) := by
  obtain ⟨g, hg⟩ := exists_group row hrow
  have same := congrArg (fun text => (Text.lines text).filter (sets g)) h
  have target := mem_targets hrow hg
  simp only [filter_sets_lines_write name background _ target, (page_of_write_eq name background h).1,
    List.append_cancel_left_eq] at same
  exact commands_eq_iff.mp same

theorem write_congr {a b : Scheme} (page : a.background = b.background)
    (highlight : a.highlight = b.highlight)
    (looks : ∀ row ∈ groups, (a.resolve row.1).SameLook (b.resolve row.1)) :
    write name background a = write name background b := by
  have blocks : groups.flatMap (groupLines a) = groups.flatMap (groupLines b) :=
    List.flatMap_congr fun row hrow => groupLines_congr (looks row hrow)
  rw [write, write, header, header, page, highlight, blocks]

/-- Two schemes have the same script exactly when their pages have the same
colors and every token of the table looks the same in both. So the script shows
nothing of styles that are not along the path of such a token, and nothing of
what does not show in a style. -/
theorem write_eq_write_iff (a b : Scheme) :
    (write name background a = write name background b ↔
      a.background = b.background ∧ a.highlight = b.highlight ∧
        ∀ row ∈ groups, (a.resolve row.1).SameLook (b.resolve row.1)) ∧
    (a.background = b.background → a.highlight = b.highlight →
      (∀ row ∈ groups, ∀ path, path <+: row.1.segments → a.get? ⟨path⟩ = b.get? ⟨path⟩) →
      write name background a = write name background b) ∧
    ∀ f : Style → Style, (∀ style, (f style).SameLook style) →
      write name background { a with styles := a.styles.map f } = write name background a := by
  refine ⟨⟨fun h => ?_, fun ⟨page, highlight, looks⟩ => ?_⟩, fun page highlight same => ?_,
    fun f kept => ?_⟩
  · obtain ⟨page, highlight⟩ := page_of_write_eq name background h
    exact ⟨page, highlight, fun row hrow => sameLook_of_write_eq name background h hrow⟩
  · exact write_congr name background page highlight looks
  · refine write_congr name background page highlight fun row hrow => ?_
    rw [Scheme.resolve, Scheme.resolve, StyleTable.resolve_congr (same row hrow)]
    exact .refl _
  · exact write_congr name background rfl rfl fun row _ =>
      StyleTable.resolve_map kept (.refl _) a.styles row.1

/-- A function has no group of its own and a face that is off does not show, but
a face that is on does. -/
theorem write_eq_write_iff_function :
    let names := Token.root.child "Name".toList
    let a : Scheme := Scheme.insert {} names { bold := some true, italic := some false }
    let b : Scheme := a.insert (names.child "Function".toList) { color := some .white }
    let c : Scheme := Scheme.insert {} names { bold := some true, inherit := false }
    let shown := write "x".toList .auto
    shown a = shown b ∧ shown a = shown c ∧ shown a ≠ shown {} ∧
      shown { c with styles := c.styles.map ({ · with inherit := true }) } = shown c := by
  intro names a b c shown
  obtain ⟨-, elsewhere, -⟩ := write_eq_write_iff "x".toList .auto a b
  obtain ⟨looks, -, -⟩ := write_eq_write_iff "x".toList .auto a c
  obtain ⟨visible, -, -⟩ := write_eq_write_iff "x".toList .auto a {}
  obtain ⟨-, -, hidden⟩ := write_eq_write_iff "x".toList .auto c c
  have along : ∀ row ∈ groups, ∀ path ∈ row.1.segments.inits, a.get? ⟨path⟩ = b.get? ⟨path⟩ := by
    decide +kernel
  refine ⟨elsewhere rfl rfl fun row hrow path part => along row hrow path ?_,
    looks.mpr ⟨rfl, rfl, by decide +kernel⟩, fun same => ?_, hidden _ fun style => ?_⟩
  · exact (List.mem_inits ..).mpr part
  · have different : ¬ ∀ row ∈ groups, (a.resolve row.1).SameLook (Scheme.resolve {} row.1) := by
      decide +kernel
    exact different (visible.mp same).2.2
  · exact ⟨rfl, rfl, rfl, fun f => by cases f <;> rfl⟩

end ColorScheme.VimScript
