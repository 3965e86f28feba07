import ColorScheme.Style
import ColorScheme.Proofs.Blanks
import ColorScheme.Proofs.ColorLiterals
import ColorScheme.Proofs.Sequences
import ColorScheme.Proofs.TextCuts
import Mathlib.Data.Bool.AllAny

/-!
The written form of a style. Each directive is one solid word that is read back,
so obeying what a style writes sets exactly the fields that the style sets, and
a style is the only one with its text.
-/

namespace ColorScheme

namespace Color

theorem not_blank_text (c : Color) : ∀ d ∈ c.text, Text.isBlank d = false :=
  forall_mem_text (by decide) (by decide) c

end Color

namespace Directive

theorem normalize_elim_text (c : Option Color) :
    Color.normalize (some (c.elim [] Color.text)) = .ok c := by
  cases c with
  | none => rfl
  | some c => exact Color.normalize_text c

theorem parse_plain {d : Directive} (h : d ∈ plain) : parse d.text = .ok d := by
  have found : ∀ d ∈ plain, plain.find? (fun e => e.text = d.text) = some d := by decide
  rw [parse, found d h]

/-- A word that differs from all plain ones in its first characters is none of
them. -/
theorem find?_plain_eq_none {lead : Text} (h : ∀ d ∈ plain, d.text.take lead.length ≠ lead)
    (rest : Text) : plain.find? (fun d => d.text = lead ++ rest) = none := by
  rw [List.find?_eq_none]
  intro d hd
  have := h d hd
  simp only [decide_eq_true_eq]
  rintro e
  simp [e] at this

theorem text_color (c : Color) : (color c).text = '#' :: c.text.tail := rfl

theorem text_background (c : Option Color) :
    (background c).text = "bg:".toList ++ c.elim [] Color.text := rfl

theorem text_border (c : Option Color) :
    (border c).text = "border:".toList ++ c.elim [] Color.text := rfl

theorem parse_color (digits : Text) :
    parse ('#' :: digits) = (Color.parse ('#' :: digits)).map color := by
  have noBackground : Text.after? "bg:".toList ('#' :: digits) = none := rfl
  have noBorder : Text.after? "border:".toList ('#' :: digits) = none := rfl
  have fresh : plain.find? (fun d => d.text = '#' :: digits) = none :=
    @find?_plain_eq_none ['#'] (by decide) digits
  rw [parse, fresh, noBackground, noBorder]
  rfl

theorem parse_background (literal : Text) : parse ("bg:".toList ++ literal) =
    (Color.normalize (some literal)).map background := by
  rw [parse, find?_plain_eq_none (by decide), Text.after?_append]

theorem parse_border (literal : Text) : parse ("border:".toList ++ literal) =
    (Color.normalize (some literal)).map border := by
  have noBackground : Text.after? "bg:".toList ("border:".toList ++ literal) = none := rfl
  rw [parse, find?_plain_eq_none (by decide), noBackground, Text.after?_append]

theorem parse_text (d : Directive) : parse d.text = .ok d := by
  cases d with
  | noInherit => exact parse_plain (by decide)
  | face f on => exact parse_plain (by cases f <;> cases on <;> decide)
  | family f => exact parse_plain (by cases f <;> decide)
  | color c =>
      rw [text_color, parse_color]
      change (Color.parse c.text).map color = _
      rw [Color.parse_text]
      rfl
  | background c =>
      rw [text_background, parse_background, normalize_elim_text]
      rfl
  | border c =>
      rw [text_border, parse_border, normalize_elim_text]
      rfl

/-- The characters that directives are written with. -/
def alphabet : Text := "abcdefghijklmnopqrstuvwxyz0123456789#:".toList

theorem mem_alphabet_of_mem_text (d : Directive) : ∀ c ∈ d.text, c ∈ alphabet := by
  have color (c : Color) : ∀ d ∈ c.text, d ∈ alphabet :=
    c.forall_mem_text (by decide) (by decide)
  have colored (lead : Text) (known : ∀ c ∈ lead, c ∈ alphabet) (c : Option Color) :
      ∀ d ∈ lead ++ c.elim [] Color.text, d ∈ alphabet := by
    intro d hd
    obtain hd | hd := List.mem_append.mp hd
    · exact known d hd
    · cases c with
      | none => simp at hd
      | some c => exact color c d hd
  cases d with
  | noInherit => exact List.all_iff_forall_prop.mp (by decide)
  | face f on => cases f <;> cases on <;> exact List.all_iff_forall_prop.mp (by decide)
  | family f => cases f <;> exact List.all_iff_forall_prop.mp (by decide)
  | color c => exact color c
  | background c => exact colored "bg:".toList (List.all_iff_forall_prop.mp (by decide)) c
  | border c => exact colored "border:".toList (List.all_iff_forall_prop.mp (by decide)) c

theorem text_ne_nil (d : Directive) : d.text ≠ [] := by
  cases d with
  | noInherit => decide
  | face f on => cases f <;> cases on <;> decide
  | family f => cases f <;> decide
  | color c => simp [text_color]
  | background c => simp [text_background]
  | border c => simp [text_border]

theorem text_solid (d : Directive) : d.text ≠ [] ∧ ∀ c ∈ d.text, Text.isBlank c = false := by
  have solid : ∀ c ∈ alphabet, Text.isBlank c = false := List.all_iff_forall_prop.mp (by decide)
  exact ⟨d.text_ne_nil, fun c hc => solid c (d.mem_alphabet_of_mem_text c hc)⟩

end Directive

namespace Style

/-- The style that takes over what a second one sets. -/
def merge (s t : Style) : Style where
  inherit := s.inherit && t.inherit
  bold := t.bold.or s.bold
  italic := t.italic.or s.italic
  underline := t.underline.or s.underline
  color := t.color.or s.color
  background := t.background.or s.background
  border := t.border.or s.border

theorem merge_empty (s : Style) : empty.merge s = s := by
  simp [merge, empty]

theorem foldl_toList_map {α : Type} (s : Style) (o : Option α) (f : α → Directive) :
    (o.map f).toList.foldl obey s = o.elim s fun a => s.obey (f a) := by
  cases o <;> rfl

theorem filterMap_faces {β : Type} (s : Style) (f : Face → Bool → β) :
    (Face.all.filterMap fun face => (s.face face).map (f face)) =
      (s.bold.map (f .bold)).toList ++ (s.italic.map (f .italic)).toList ++
        (s.underline.map (f .underline)).toList := by
  obtain ⟨_, bold, italic, underline, _⟩ := s
  cases bold <;> cases italic <;> cases underline <;> rfl

theorem obey_optional_face (s : Style) (f : Face) (o : Option Bool) :
    (o.elim s fun on => s.obey (.face f on)) = s.setFace f (o.or (s.face f)) := by
  cases o <;> cases f <;> rfl

theorem obey_optional_color (s : Style) (o : Option Color) :
    (o.elim s fun c => s.obey (.color c)) = { s with color := o.or s.color } := by
  cases o <;> rfl

theorem obey_optional_background (s : Style) (o : Option Color) :
    (o.elim s fun c => s.obey (.background (some c))) =
      { s with background := o.or s.background } := by
  cases o <;> rfl

theorem obey_optional_border (s : Style) (o : Option Color) :
    (o.elim s fun c => s.obey (.border (some c))) = { s with border := o.or s.border } := by
  cases o <;> rfl

theorem foldl_obey_directives (s t : Style) : t.directives.foldl obey s = s.merge t := by
  rw [directives, filterMap_faces]
  simp only [List.foldl_append, foldl_toList_map, obey_optional_face, obey_optional_color,
    obey_optional_background, obey_optional_border]
  cases h : t.inherit <;> simp [obey, setFace, face, merge, h]

theorem apply_text (s t : Style) : s.apply t.text = .ok (s.merge t) := by
  have solid : ∀ w ∈ t.directives.map Directive.text,
      w ≠ [] ∧ ∀ c ∈ w, Text.isBlank c = false := by
    simp only [List.forall_mem_map]
    exact fun d _ => d.text_solid
  have read : (t.directives.map Directive.text).mapM Directive.parse = .ok t.directives := by
    rw [mapM_eq_ok_iff, List.forall₂_map_left_iff, List.forall₂_same]
    exact fun d _ => d.parse_text
  rw [apply, text, Text.words_intercalate _ solid, read, ← foldl_obey_directives]
  rfl

theorem parse_style_text (s : Style) : parse s.text = .ok s := by
  rw [parse, apply_text, merge_empty]

theorem mem_alphabet_of_mem_style_text (s : Style) : ∀ c ∈ s.text, c ∈ ' ' :: Directive.alphabet := by
  intro c hc
  obtain hc | ⟨w, hw, hc⟩ := mem_intercalate hc
  · rw [List.mem_singleton.mp hc]
    exact List.mem_cons_self ..
  · obtain ⟨d, -, rfl⟩ := List.mem_map.mp hw
    exact List.mem_cons_of_mem _ (d.mem_alphabet_of_mem_text c hc)

theorem eq_empty_of_blank_text {s : Style} (h : Text.trim s.text = []) : s = empty := by
  have nothing : parse s.text = .ok empty := by
    rw [parse, apply, Text.words_eq_nil h]
    rfl
  exact Except.ok.inj ((parse_style_text s).symm.trans nothing)

theorem text_eq_iff {s t : Style} : s.text = t.text ↔ s = t := by
  constructor
  · intro same
    have read := (parse_style_text s).symm.trans (same ▸ parse_style_text t)
    exact Except.ok.inj read
  · exact congrArg text

theorem text_eq_nil_iff {s : Style} : s.text = [] ↔ s = empty := by
  constructor
  · intro blank
    exact eq_empty_of_blank_text (congrArg Text.trim blank)
  · rintro rfl
    rfl

/-- Obeying what a style writes takes over the fields that it sets and leaves the
others. So it is read back as it was, no other style has its text, and nothing is
written for a style that sets nothing, and for no other. -/
theorem apply_text_merges (s t : Style) :
    s.apply t.text = .ok (s.merge t) ∧ parse t.text = .ok t ∧ (s.text = t.text ↔ s = t) ∧
      (t.text = [] ↔ t.isEmpty = true) := by
  refine ⟨apply_text s t, parse_style_text t, text_eq_iff, ?_⟩
  rw [text_eq_nil_iff, isEmpty, decide_eq_true_iff]

end Style
end ColorScheme
