import ColorScheme.Proofs.StyleWords

/-!
Texts of styles one after another. Joined by white space they are obeyed in turn, the
same text again changes nothing, and words for different fields can change places, since
each field is decided by the words for it alone.
-/

namespace ColorScheme

namespace Field

/-- Whether a word sets the field. -/
def concerns (f : Field) (w : Text) : Bool :=
  (f.given? w).isSome

variable (f : Field) (old : f.Value) {ws vs : List Text}

theorem filterMap_given?_filter (ws : List Text) :
    (ws.filter f.concerns).filterMap f.given? = ws.filterMap f.given? := by
  rw [List.filterMap_filter]
  apply List.filterMap_congr
  intro w _
  rw [concerns]
  cases f.given? w <;> rfl

theorem after_congr (same : ws.filter f.concerns = vs.filter f.concerns) :
    f.after old ws = f.after old vs := by
  rw [after, after, ← f.filterMap_given?_filter ws, same, filterMap_given?_filter]

theorem after_after (ws : List Text) : f.after (f.after old ws) ws = f.after old ws := by
  unfold after
  cases (ws.filterMap f.given?).getLast? <;> rfl

end Field

namespace Style

variable {s t : Style} {a b : Text}

theorem apply_append_blank (s : Style) (a b : Text) {c : Char} (blank : Text.isBlank c = true) :
    s.apply (a ++ c :: b) = s.apply a >>= fun t => t.apply b := by
  simp only [apply_eq_foldlM, Text.words_append_blank a b blank, List.foldlM_append]

/-- Whether a text is obeyed does not depend on the style. -/
theorem exists_apply_of_apply (ok : s.apply a = .ok t) (u : Style) : ∃ v, u.apply a = .ok v :=
  exists_apply_iff.mpr (exists_apply_iff.mp ⟨t, ok⟩)

theorem apply_again (ok : s.apply a = .ok t) : t.apply a = .ok t := by
  obtain ⟨u, again⟩ := exists_apply_of_apply ok t
  have alike : u = t := by
    apply ext_field
    intro f
    rw [field_apply again, field_apply ok, Field.after_after]
  rw [again, alike]

theorem apply_of_reordered (ok : s.apply a = .ok t) (p : (Text.words b).Perm (Text.words a))
    (same : ∀ f : Field, (Text.words b).filter f.concerns = (Text.words a).filter f.concerns) :
    s.apply b = .ok t := by
  have valid : ∀ w ∈ Text.words b, IsDirective w :=
    fun w there => exists_apply_iff.mp ⟨t, ok⟩ w (p.mem_iff.mp there)
  obtain ⟨u, other⟩ := exists_apply_iff (s := s).mpr valid
  have alike : u = t := by
    apply ext_field
    intro f
    rw [field_apply other, field_apply ok, f.after_congr _ (same f)]
  rw [other, alike]

/-- Two texts with white space between them are obeyed one after the other, or refused for
the first that is. A text that was obeyed changes nothing the second time, and neither does
another order of its words, if words for the same field stay in theirs. -/
theorem apply_composes (s : Style) (a b : Text) :
    (∀ c, Text.isBlank c = true → s.apply (a ++ c :: b) =
      match s.apply a with
      | .ok t => t.apply b
      | .error e => .error e) ∧
    (∀ t, s.apply a = .ok t → t.apply a = .ok t) ∧
    ((∀ w ∈ Text.words a, IsDirective w) → (Text.words b).Perm (Text.words a) →
      (∀ f : Field, (Text.words b).filter f.concerns = (Text.words a).filter f.concerns) →
      ∃ t, s.apply a = .ok t ∧ s.apply b = .ok t) := by
  refine ⟨fun c blank => ?_, fun t => apply_again, fun valid p same => ?_⟩
  · rw [apply_append_blank s a b blank]
    cases s.apply a <;> rfl
  · obtain ⟨t, ok⟩ := exists_apply_iff.mpr valid
    exact ⟨t, ok, apply_of_reordered ok p same⟩

/-- The words for the two faces, and the words that set and unset the background, are told
apart by their fields only. An ideographic space is white space too. -/
theorem apply_composes_interleaved :
    let s : Style := { underline := some true }
    let t : Style := { s with inherit := false, bold := some false, italic := some true }
    let a := "bold bg:#fff nobold italic bg: noinherit".toList
    let b := "bg:#fff noinherit italic bold bg: nobold".toList
    let c := Char.ofNat 0x3000
    s.apply a = .ok t ∧ s.apply b = .ok t ∧ t.apply a = .ok t ∧ s.apply (a ++ c :: b) = .ok t ∧
      s.apply ("bg:red".toList ++ c :: b) = .error (.invalidColor "red".toList) := by
  intro s t a b c
  have ok : s.apply a = .ok t := by decide
  have refused : s.apply "bg:red".toList = .error (.invalidColor "red".toList) := by decide
  have valid : ∀ w ∈ Text.words a, IsDirective w := exists_apply_iff.mp ⟨t, ok⟩
  have p : (Text.words b).Perm (Text.words a) := by decide
  have same (f : Field) : (Text.words b).filter f.concerns = (Text.words a).filter f.concerns := by
    cases f with
    | face f => cases f <;> decide
    | inherit | color | background | border => decide
  obtain ⟨joined, again, reordered⟩ := apply_composes s a b
  obtain ⟨u, first, second⟩ := reordered valid p same
  obtain rfl : t = u := Except.ok.inj (ok.symm.trans first)
  obtain ⟨stopped, -⟩ := apply_composes s "bg:red".toList b
  obtain ⟨-, unchanged, -⟩ := apply_composes s b a
  have blank : Text.isBlank c = true := by decide
  refine ⟨ok, second, again t ok, ?_, ?_⟩
  · rw [joined c blank, ok]
    exact unchanged t second
  · rw [stopped c blank, refused]

end Style
end ColorScheme
