import ColorScheme.Proofs.DefinitionRoundTrip

/-!
Writing what was read brings a definition file to a normal form. However a file
spells the styles of a scheme, what is written of the scheme is read back as the
same scheme, and two files say the same exactly when what is written of them is
the same text.
-/

namespace ColorScheme.Definition

/-- A scheme that some definition file describes: its styles set something, its
tokens are canonical, and its page has the standard colors. -/
structure Expressible (s : Scheme) : Prop where
  full : s.StylesSetSomething
  canonical : ∀ t ∈ s.styles.keys, t.Canonical
  background : s.background = .white
  highlight : s.highlight = .paleYellow

theorem Expressible.read_write {s : Scheme} (h : Expressible s) : read (write s) = .ok s := by
  have same : ({ styles := s.styles } : Scheme) = s :=
    Scheme.ext h.background.symm h.highlight.symm rfl
  rw [Definition.read_write h.full h.canonical, same]

/-- What every section keeps, a whole file keeps. -/
theorem read_keeps {P : Scheme → Prop} {text : Text} {s : Scheme} (start : P {})
    (insert_keeps : ∀ scheme token style, P scheme → P (scheme.insert token style))
    (ok : read text = .ok s) : P s := by
  obtain ⟨d, -, described⟩ := exists_of_read ok
  refine foldlM_keeps (P := P) ?_ start described
  intro part _ scheme next h step
  obtain ⟨-, rfl⟩ | ⟨token, style, -, -, -, rfl⟩ := readSection_cases step
  · exact h
  · exact insert_keeps scheme token style h

theorem expressible_of_read {text : Text} {s : Scheme} (ok : read text = .ok s) :
    Expressible s where
  full := read_keeps (fun _ he => nomatch he) (fun _ t style h => h.insert t style) ok
  canonical := canonical_of_read ok
  background := read_keeps (P := fun s => s.background = .white) rfl (fun _ _ _ h => h) ok
  highlight := read_keeps (P := fun s => s.highlight = .paleYellow) rfl (fun _ _ _ h => h) ok

/-- The schemes that come from definition files are the expressible ones. -/
theorem exists_read_iff {s : Scheme} : (∃ text, read text = .ok s) ↔ Expressible s :=
  ⟨fun ⟨_, ok⟩ => expressible_of_read ok, fun h => ⟨write s, h.read_write⟩⟩

theorem write_inj {a b : Scheme} (ha : Expressible a) (hb : Expressible b)
    (same : write a = write b) : a = b := by
  have read := ha.read_write
  rw [same, hb.read_write] at read
  exact (Except.ok.inj read).symm

/-- What is written of a scheme that was read is read back as that scheme, and so
written again as the same text; and schemes that were read are equal exactly when
the texts written of them are. -/
theorem write_normalizes {text₁ text₂ : Text} {s₁ s₂ : Scheme} (ok₁ : read text₁ = .ok s₁)
    (ok₂ : read text₂ = .ok s₂) :
    read (write s₁) = .ok s₁ ∧ (read (write s₁)).map write = .ok (write s₁) ∧
      (s₁ = s₂ ↔ write s₁ = write s₂) := by
  have expressible₁ := expressible_of_read ok₁
  have expressible₂ := expressible_of_read ok₂
  refine ⟨expressible₁.read_write, ?_, congrArg write, write_inj expressible₁ expressible₂⟩
  rw [expressible₁.read_write]
  rfl

/-- An older key, a short color, a value from a palette and another spelling of a
truth value are gone from what is written. -/
theorem write_normalizes_spellings :
    let first := "[palette]\nbg = #ABC\n[String]\nbackground : $\x7bpalette:bg\x7d\nBold=Yes\n".toList
    let second := "[Token.String]\nbold = on\nbgcolor = #aabbcc\n".toList
    let s : Scheme := Scheme.insert {} (Token.root.child "String".toList)
      { bold := some true, background := some ⟨0xAA, 0xBB, 0xCC⟩ }
    read first = .ok s ∧ read second = .ok s ∧ read (write s) = .ok s ∧
      write s = "[Token.String]\nbgcolor = #aabbcc\nbold = true\n".toList := by
  intro first second s
  have ok₁ : read first = .ok s := by decide +kernel
  have ok₂ : read second = .ok s := by decide +kernel
  obtain ⟨back, -, -⟩ := write_normalizes ok₁ ok₂
  exact ⟨ok₁, ok₂, back, by decide +kernel⟩

end ColorScheme.Definition
