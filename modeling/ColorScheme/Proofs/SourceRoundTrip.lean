import ColorScheme.Proofs.SourceReading
import ColorScheme.Proofs.StyleText

/-!
A source made from a scheme gives it back, by what the source remembers and by
what it says. So forgetting the scheme that a source was made from changes
nothing.
-/

namespace ColorScheme.Scheme

theorem toScheme_detached (s : Scheme) (h : s.StylesSetSomething) :
    { s.toSource with origin := none }.toScheme = .ok s := by
  have literal (c : Color) : Color.IsOptionalLiteral c.text :=
    .inr (Color.exists_ofLiteral?_iff.mp ⟨c, c.ofLiteral?_text⟩)
  have described : (s.styles.map Style.text).entries.mapM Source.entry =
      .ok s.styles.entries := by
    rw [mapM_eq_ok_iff, SortedTable.map, List.forall₂_map_left_iff, List.forall₂_same]
    exact fun e _ => Source.entry_eq_ok_iff.mpr ⟨rfl, Style.parse_style_text e.2⟩
  let page : Scheme := { background := s.background, highlight := s.highlight }
  have read : { s.toSource with origin := none }.toScheme =
      .ok (page.insertAll s.styles.entries) := by
    rw [Source.toScheme_of_literals rfl (literal s.background) (literal s.highlight)]
    simp only [toSource, described, Source.page, Color.ofLiteral?_text]
    rfl
  rw [read, insertAll_eq rfl (.refl _) h]

/-- The way back over the remembered scheme and the way back over the words
agree, and both succeed. -/
theorem toScheme_toSource (s : Scheme) (h : s.StylesSetSomething) :
    s.toSource.toScheme = .ok s ∧ { s.toSource with origin := none }.toScheme = .ok s :=
  ⟨rfl, toScheme_detached s h⟩

theorem toScheme_toSource_blank_name :
    let s := Scheme.insert { background := .paleYellow } (Token.root.child " .\n".toList)
      { bold := some false, border := some .white }
    s.StylesSetSomething ∧ s.toSource.toScheme = .ok s ∧
      { s.toSource with origin := none }.toScheme = .ok s := by
  intro s
  have full : s.StylesSetSomething := by decide
  exact ⟨full, toScheme_toSource s full⟩

end ColorScheme.Scheme
