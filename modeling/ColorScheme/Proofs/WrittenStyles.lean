import ColorScheme.Proofs.Expansion
import ColorScheme.Proofs.StyleText
import ColorScheme.Proofs.WrittenSections

/-!
A style as the options of a section. Where a section of a document shows exactly
the options that a style writes, the style is read back from it.
-/

namespace ColorScheme

namespace Definition

/-- The fields of a style by their keys, each with the value that is written if
the style sets it. -/
def fields (s : Style) : List (Text × Option Text) :=
  [("color".toList, s.color.map Color.text),
    ("bgcolor".toList, s.background.map Color.text),
    ("border".toList, s.border.map Color.text),
    (Face.bold.name, s.bold.map flagText),
    (Face.italic.name, s.italic.map flagText),
    (Face.underline.name, s.underline.map flagText),
    ("inherit".toList, (if s.inherit then none else some false).map flagText)]

def styleOptions (s : Style) : List (Text × Text) :=
  (fields s).filterMap fun f => f.2.map (f.1, ·)

def fieldKeys : List Text :=
  ["color", "bgcolor", "border", "bold", "italic", "underline", "inherit"].map String.toList

theorem keys_fields (s : Style) : (fields s).map (·.1) = fieldKeys := rfl

theorem styleLines_eq (s : Style) :
    styleLines s = (styleOptions s).map fun o => optionLine o.1 o.2 := by
  rw [styleLines, Style.filterMap_faces, styleOptions, List.map_filterMap,
    List.filterMap_eq_flatMap_toList]
  simp only [fields, List.flatMap_cons, List.flatMap_nil, List.append_nil, List.append_assoc,
    Option.map_map, Function.comp_def]
  cases s.inherit <;> rfl

/-- A value of characters that mean nothing to a reader. -/
def Plain (value : Text) : Prop :=
  ∀ c ∈ value, Text.isBlank c = false ∧ c ≠ '$'

theorem plain_text (c : Color) : Plain c.text :=
  c.forall_mem_text (by decide) (by decide)

theorem plain_flagText (b : Bool) : Plain (flagText b) := by
  cases b <;> exact List.all_iff_forall_prop.mp (by decide)

theorem Plain.trimmed {value : Text} (h : Plain value) : Text.trim value = value :=
  Text.trim_eq_self_iff.mpr ⟨fun c hc => (h c (List.mem_of_head? hc)).1,
    fun c hc => (h c (List.mem_of_getLast? hc)).1⟩

theorem Plain.lineFeed_not_mem {value : Text} (h : Plain value) : '\n' ∉ value :=
  fun m => absurd (h _ m).1 (by decide)

theorem Plain.dollar_not_mem {value : Text} (h : Plain value) : '$' ∉ value :=
  fun m => (h _ m).2 rfl

theorem plain_of_mem_fields {s : Style} {key value : Text} (h : (key, some value) ∈ fields s) :
    Plain value := by
  have color (o : Option Color) (e : some value = o.map Color.text) : Plain value := by
    obtain ⟨c, -, rfl⟩ := Option.map_eq_some_iff.mp e.symm
    exact plain_text c
  have flag (o : Option Bool) (e : some value = o.map flagText) : Plain value := by
    obtain ⟨b, -, rfl⟩ := Option.map_eq_some_iff.mp e.symm
    exact plain_flagText b
  simp only [fields, List.mem_cons, List.not_mem_nil, or_false, Prod.mk.injEq] at h
  obtain ⟨-, e⟩ | ⟨-, e⟩ | ⟨-, e⟩ | ⟨-, e⟩ | ⟨-, e⟩ | ⟨-, e⟩ | ⟨-, e⟩ := h
  · exact color _ e
  · exact color _ e
  · exact color _ e
  · exact flag _ e
  · exact flag _ e
  · exact flag _ e
  · exact flag _ e

theorem of_mem_styleOptions {s : Style} {o : Text × Text} (h : o ∈ styleOptions s) :
    o.1 ∈ fieldKeys ∧ Plain o.2 := by
  obtain ⟨f, hf, value, hv, rfl⟩ : ∃ f ∈ fields s, ∃ value, f.2 = some value ∧
      (f.1, value) = o := by simpa [styleOptions] using h
  have set : (f.1, some value) ∈ fields s := hv ▸ hf
  exact ⟨keys_fields s ▸ List.mem_map_of_mem hf, plain_of_mem_fields set⟩

theorem writable_of_mem_fieldKeys : ∀ key ∈ fieldKeys, WritableKey key := by
  decide

theorem writable_styleOptions (s : Style) {name : Text} (ne : name ≠ [])
    (trimmed : Text.trim name = name) (line : '\n' ∉ name) :
    (WrittenSection.mk name ((styleOptions s).map WrittenOption.oneLine)).Writable := by
  have distinct : ((styleOptions s).map (·.1)).Nodup :=
    (keys_filterMap_snd (fields s)).nodup (by rw [keys_fields]; decide)
  refine ⟨ne, trimmed, line, by rwa [List.map_map], ?_⟩
  simp only [List.forall_mem_map]
  intro o ho
  obtain ⟨key, plain⟩ := of_mem_styleOptions ho
  exact .oneLine (writable_of_mem_fieldKeys _ key) plain.trimmed plain.lineFeed_not_mem

end Definition

namespace Document

variable {d : Document} {sec key : Text}

theorem expand_plain {raw : RawValue} (plain : '$' ∉ raw.text) :
    d.expand (maxDepth + 1) sec raw = .ok raw.text :=
  expand_eq_ok_iff.mpr (.of_no_dollar plain)

theorem value_plain {text : Option Text} (shown : (d.raw? sec key).map (·.text) = text)
    (plain : ∀ t, text = some t → Definition.Plain t) : d.value sec key = .ok text :=
  value_of_shown (f := id) (by rw [shown, Option.map_id]; rfl)
    fun t ht => .of_no_dollar (plain t ht).dollar_not_mem

theorem flag_plain {on : Option Bool}
    (shown : (d.raw? sec key).map (·.text) = on.map Definition.flagText) :
    d.flag sec key = .ok on := by
  rw [flag]
  cases found : d.raw? sec key with
  | none =>
      rw [found] at shown
      cases on with
      | none => rfl
      | some b => cases shown
  | some raw =>
      rw [found] at shown
      cases on with
      | none => cases shown
      | some b =>
          have text : raw.text = Definition.flagText b := Option.some.inj shown
          have plain := (Definition.plain_flagText b).dollar_not_mem
          have truth : truthValue? (Definition.flagText b) = some b := by cases b <;> decide
          dsimp only
          rw [expand_plain (text ▸ plain), text]
          simp only [bind, Except.bind, truth]
          rfl

end Document

namespace Definition

variable {d : Document} {sec : Text} {s : Style}

/-- A style is read back from a section that shows its options. -/
theorem readStyle_of_shown (shown : ∀ key,
    (d.raw? sec key).map (·.text) = (styleOptions s).lookup (Text.lowercase key)) :
    readStyle d sec = .ok s := by
  have field {key : Text} (lower : Text.lowercase key = key) {text : Option Text}
      (found : ((fields s).lookup key).join = text) :
      (d.raw? sec key).map (·.text) = text := by
    rw [shown, lower, styleOptions, lookup_filterMap_snd (by rw [keys_fields]; decide), found]
  have color {key : Text} (lower : Text.lowercase key = key) {o : Option Color}
      (found : ((fields s).lookup key).join = o.map Color.text) :
      d.value sec key = .ok (o.map Color.text) := by
    refine Document.value_plain (field lower found) ?_
    intro t ht
    obtain ⟨c, -, rfl⟩ := Option.map_eq_some_iff.mp ht
    exact plain_text c
  have normalized (o : Option Color) : Color.normalize (o.map Color.text) = .ok o := by
    cases o with
    | none => rfl
    | some c => exact Color.normalize_text c
  have background : backgroundLiteral d sec = .ok (s.background.map Color.text) := by
    rw [backgroundLiteral, color (by decide) (o := s.background) rfl]
    cases s.background with
    | none => exact color (by decide) (o := none) rfl
    | some c => rfl
  have flag {key : Text} (lower : Text.lowercase key = key) {o : Option Bool}
      (found : ((fields s).lookup key).join = o.map flagText) : d.flag sec key = .ok o :=
    Document.flag_plain (field lower found)
  rw [readStyle, color (by decide) (o := s.color) rfl, background,
    color (by decide) (o := s.border) rfl, flag (by decide) (o := s.bold) rfl,
    flag (by decide) (o := s.italic) rfl, flag (by decide) (o := s.underline) rfl,
    flag (by decide) (o := if s.inherit then none else some false) rfl]
  simp only [normalized, bind, Except.bind]
  obtain ⟨inherit, _⟩ := s
  cases inherit <;> rfl

end Definition
end ColorScheme
