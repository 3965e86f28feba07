import ColorScheme.VimScript
import ColorScheme.Proofs.StyleText
import ColorScheme.Proofs.Tables
import ColorScheme.Proofs.TextCuts

/-!
What shows of a style in an editor. A face that is switched off shows as little
as one that is unset, and whether a style inherits does not show. The attributes
of a style are its settings, each a key and what it is set to, so they tell
exactly the looks apart.
-/

namespace ColorScheme

namespace Style

/-- Something of the style shows. -/
def IsVisible (s : Style) : Prop :=
  s.color.isSome ∨ s.background.isSome ∨ s.border.isSome ∨
    s.bold = some true ∨ s.italic = some true ∨ s.underline = some true

instance (s : Style) : Decidable s.IsVisible :=
  inferInstanceAs (Decidable (_ ∨ _))

/-- The same shows of both styles. -/
structure SameLook (a b : Style) : Prop where
  color : a.color = b.color
  background : a.background = b.background
  border : a.border = b.border
  faces : ∀ f, a.face f = some true ↔ b.face f = some true

instance (a b : Style) : Decidable (a.SameLook b) :=
  decidable_of_iff (a.color = b.color ∧ a.background = b.background ∧ a.border = b.border ∧
      ∀ f ∈ Face.all, a.face f = some true ↔ b.face f = some true)
    ⟨fun ⟨color, background, border, faces⟩ =>
        ⟨color, background, border, fun f => faces f (by cases f <;> decide)⟩,
      fun h => ⟨h.color, h.background, h.border, fun f _ => h.faces f⟩⟩

theorem SameLook.refl (s : Style) : s.SameLook s := ⟨rfl, rfl, rfl, fun _ => .rfl⟩

end Style

namespace VimScript

/-- The faces that are on, and a curled line for a border. -/
def flags (s : Style) : List Text :=
  (if s.bold = some true then ["bold".toList] else []) ++
    (if s.italic = some true then ["italic".toList] else []) ++
    (if s.underline = some true then ["underline".toList] else []) ++
    (if s.border.isSome then ["undercurl".toList] else [])

/-- All that can be set of a group, by its key, with what it is set to, if it is. -/
def settingFields (s : Style) : List (Text × Option Text) :=
  [("guifg".toList, s.color.map Color.text), ("guibg".toList, s.background.map Color.text),
    ("guisp".toList, s.border.map Color.text),
    ("gui".toList, if flags s = [] then none else some ([','].intercalate (flags s)))]

def settings (s : Style) : List (Text × Text) :=
  (settingFields s).filterMap fun f => f.2.map (f.1, ·)

def settingText (e : Text × Text) : Text :=
  e.1 ++ '=' :: e.2

theorem guiFlags_eq (s : Style) : guiFlags s = flags s := by
  have one (f : Face) : ([f].filter fun f => s.face f = some true).map Face.name =
      if s.face f = some true then [f.name] else [] := by
    by_cases h : s.face f = some true <;> simp [h]
  have faces : s.faces = ([Face.bold] ++ [Face.italic] ++ [Face.underline]).filter fun f =>
      s.face f = some true := rfl
  rw [guiFlags, faces, List.filter_append, List.filter_append, List.map_append, List.map_append,
    one, one, one, flags]
  cases s.border <;> rfl

theorem attributes_eq (s : Style) : attributes s = (settings s).map settingText := by
  rw [attributes, guiFlags_eq, settings, List.map_filterMap, settingFields]
  simp only [List.filterMap_cons]
  cases s.color <;> cases s.background <;> cases s.border <;> by_cases h : flags s = [] <;>
      simp [settingText, h]

theorem keys_settingFields (s : Style) : (settingFields s).map (·.1) =
    ["guifg".toList, "guibg".toList, "guisp".toList, "gui".toList] := rfl

theorem keys_settings (s : Style) :
    ∀ e ∈ settings s, e.1 ∈ ["guifg".toList, "guibg".toList, "guisp".toList, "gui".toList] := by
  intro e he
  rw [← keys_settingFields s]
  exact (keys_filterMap_snd (settingFields s)).mem (List.mem_map_of_mem he)

theorem lookup_settings (s : Style) (key : Text) :
    (settings s).lookup key = ((settingFields s).lookup key).join :=
  lookup_filterMap_snd (by rw [keys_settingFields]; decide) key

theorem mem_flags_iff {s : Style} {w : Text} : w ∈ flags s ↔
    s.bold = some true ∧ w = "bold".toList ∨ s.italic = some true ∧ w = "italic".toList ∨
      s.underline = some true ∧ w = "underline".toList ∨
      s.border.isSome ∧ w = "undercurl".toList := by
  have one {p : Prop} [Decidable p] {name : Text} :
      w ∈ (if p then [name] else []) ↔ p ∧ w = name := by
    split <;> simp [*]
  simp only [flags, List.mem_append, one, or_assoc]

theorem flags_eq_nil_iff {s : Style} : flags s = [] ↔
    s.bold ≠ some true ∧ s.italic ≠ some true ∧ s.underline ≠ some true ∧ s.border = none := by
  have one {p : Prop} [Decidable p] {name : Text} : (if p then [name] else []) = [] ↔ ¬ p := by
    split <;> simp [*]
  simp only [flags, List.append_eq_nil_iff, one, and_assoc, Option.not_isSome_iff_eq_none, ne_eq]

theorem settings_eq_nil_iff {s : Style} : settings s = [] ↔ ¬ s.IsVisible := by
  simp only [settings, settingFields, List.filterMap_eq_nil_iff, List.forall_mem_cons,
    Option.map_eq_none_iff, ite_eq_left_iff, reduceCtorEq, imp_false, not_not, flags_eq_nil_iff,
    Style.IsVisible, not_or, Option.not_isSome_iff_eq_none, ne_eq, List.not_mem_nil, false_imp_iff,
    implies_true]
  tauto

theorem mem_flags {s : Style} {w : Text} (h : w ∈ flags s) :
    w ∈ ["bold".toList, "italic".toList, "underline".toList, "undercurl".toList] := by
  obtain ⟨-, rfl⟩ | ⟨-, rfl⟩ | ⟨-, rfl⟩ | ⟨-, rfl⟩ := mem_flags_iff.mp h <;> decide

theorem flag_solid {w : Text}
    (h : w ∈ ["bold".toList, "italic".toList, "underline".toList, "undercurl".toList]) :
    ',' ∉ w ∧ ∀ c ∈ w, Text.isBlank c = false := by
  simp only [List.mem_cons, List.not_mem_nil, or_false] at h
  obtain rfl | rfl | rfl | rfl := h <;>
    exact ⟨by decide, List.all_iff_forall_prop.mp (by decide)⟩

theorem name_mem_flags {s : Style} {f : Face} : f.name ∈ flags s ↔ s.face f = some true := by
  have named : f.name ∈ s.faces.map Face.name ↔ f ∈ s.faces :=
    List.mem_map_of_injective (by intro f g; cases f <;> cases g <;> decide)
  have on : f ∈ s.faces ↔ s.face f = some true := by
    cases f <;> simp [Style.faces, Face.all]
  have other : f.name ≠ "undercurl".toList := by cases f <;> decide
  have curl : f.name ∉ (s.border.map fun _ => "undercurl".toList).toList := by
    cases s.border with
    | none => exact List.not_mem_nil
    | some c => exact fun m => other (List.mem_singleton.mp m)
  rw [← guiFlags_eq, guiFlags, List.mem_append, or_iff_left curl, named, on]

theorem splitOn_flags {s : Style} (h : flags s ≠ []) :
    ([','].intercalate (flags s)).splitOn ',' = flags s :=
  List.splitOn_intercalate ',' (fun _ hw => (flag_solid (mem_flags hw)).1) h

/-- The settings of a style tell exactly its look. -/
theorem settings_eq_iff {a b : Style} : settings a = settings b ↔ a.SameLook b := by
  constructor
  · intro h
    have content (key : Text) : ((settingFields a).lookup key).join =
        ((settingFields b).lookup key).join := by
      rw [← lookup_settings, ← lookup_settings, h]
    have color {o p : Option Color} (e : o.map Color.text = p.map Color.text) : o = p :=
      Option.map_injective (fun _ _ => Color.text_injective) e
    -- The faces are told apart by the commas between them.
    have same : flags a = flags b := by
      have gui : (if flags a = [] then none else some ([','].intercalate (flags a))) =
          if flags b = [] then none else some ([','].intercalate (flags b)) :=
        content "gui".toList
      by_cases ha : flags a = [] <;> by_cases hb : flags b = []
      · rw [ha, hb]
      · simp [ha, hb] at gui
      · simp [ha, hb] at gui
      · rw [if_neg ha, if_neg hb, Option.some.injEq] at gui
        rw [← splitOn_flags ha, gui, splitOn_flags hb]
    refine ⟨color (content "guifg".toList), color (content "guibg".toList),
      color (content "guisp".toList), fun f => ?_⟩
    rw [← name_mem_flags, ← name_mem_flags, same]
  · intro h
    have bold : a.bold = some true ↔ b.bold = some true := h.faces .bold
    have italic : a.italic = some true ↔ b.italic = some true := h.faces .italic
    have underline : a.underline = some true ↔ b.underline = some true := h.faces .underline
    have same : flags a = flags b := by
      simp only [flags, bold, italic, underline, h.border]
    simp only [settings, settingFields, h.color, h.background, h.border, same]

theorem settings_solid {s : Style} {e : Text × Text} (h : e ∈ settings s) :
    '=' ∉ e.1 ∧ ∀ c ∈ settingText e, Text.isBlank c = false := by
  have solid_key : '=' ∉ e.1 ∧ ∀ c ∈ e.1, Text.isBlank c = false := by
    have key := keys_settings s e h
    simp only [List.mem_cons, List.not_mem_nil, or_false] at key
    obtain key | key | key | key := key <;> rw [key] <;>
      exact ⟨by decide, List.all_iff_forall_prop.mp (by decide)⟩
  have solid_content : ∀ c ∈ e.2, Text.isBlank c = false := by
    obtain ⟨f, hf, value, hv, rfl⟩ : ∃ f ∈ settingFields s, ∃ value, f.2 = some value ∧
        (f.1, value) = e := by simpa [settings] using h
    have color {o : Option Color} (e : o.map Color.text = some value) :
        ∀ c ∈ value, Text.isBlank c = false := by
      obtain ⟨c, -, rfl⟩ := Option.map_eq_some_iff.mp e
      exact c.not_blank_text
    simp only [settingFields, List.mem_cons, List.not_mem_nil, or_false] at hf
    obtain rfl | rfl | rfl | rfl := hf
    · exact color hv
    · exact color hv
    · exact color hv
    · dsimp only at hv
      split at hv
      · cases hv
      · obtain rfl := Option.some.inj hv
        intro c hc
        obtain hc | ⟨w, hw, hc⟩ := mem_intercalate hc
        · rw [List.mem_singleton.mp hc]
          decide
        · exact (flag_solid (mem_flags hw)).2 c hc
  refine ⟨solid_key.1, fun c hc => ?_⟩
  rw [settingText, List.mem_append, List.mem_cons] at hc
  obtain hc | rfl | hc := hc
  · exact solid_key.2 c hc
  · decide
  · exact solid_content c hc

theorem attributes_solid {s : Style} :
    ∀ w ∈ attributes s, w ≠ [] ∧ ∀ c ∈ w, Text.isBlank c = false := by
  rw [attributes_eq]
  simp only [List.forall_mem_map]
  intro e he
  exact ⟨by simp [settingText], (settings_solid he).2⟩

theorem filterMap_cut?_attributes (s : Style) :
    (attributes s).filterMap (Text.cut? (· = '=')) = settings s := by
  rw [attributes_eq, List.filterMap_map]
  conv_rhs => rw [← List.filterMap_some (l := settings s)]
  exact List.filterMap_congr fun e he => Text.cut?_char (settings_solid he).1 e.2

theorem attributes_eq_iff {a b : Style} : attributes a = attributes b ↔ a.SameLook b := by
  rw [← settings_eq_iff]
  constructor
  · intro h
    rw [← filterMap_cut?_attributes a, h, filterMap_cut?_attributes]
  · intro h
    rw [attributes_eq, attributes_eq, h]

end VimScript
end ColorScheme
