import ColorScheme.Proofs.StyleText

/-!
The words of a style, one field at a time. A word sets at most one of the seven fields,
and a text leaves in each field what the last word for it says, or what was there. A
text with a word that is none is refused for the first such word, and a style that is
held is not changed by it.
-/

namespace ColorScheme

/-! ### Words and fields -/

/-- The words that a style can be written with. -/
inductive IsDirective : Text → Prop
  | noInherit : IsDirective "noinherit".toList
  | on (f : Face) : IsDirective f.name
  | off (f : Face) : IsDirective ("no".toList ++ f.name)
  | family (f : Family) : IsDirective f.name
  | color {literal} : Color.IsLiteral literal → IsDirective literal
  | background {literal} : Color.IsOptionalLiteral literal → IsDirective ("bg:".toList ++ literal)
  | border {literal} : Color.IsOptionalLiteral literal → IsDirective ("border:".toList ++ literal)

/-- What a word that is no directive is refused for, which its beginning decides. -/
inductive Refusal : Text → Error → Prop
  | background (literal) : Refusal ("bg:".toList ++ literal) (.invalidColor literal)
  | border (literal) : Refusal ("border:".toList ++ literal) (.invalidColor literal)
  | color (digits) : Refusal ('#' :: digits) (.invalidColor ('#' :: digits))
  | other {w} : ¬ "bg:".toList <+: w → ¬ "border:".toList <+: w → w.head? ≠ some '#' →
      Refusal w (.unrecognisedDirective w)

/-- A field of a style. -/
inductive Field where
  | inherit
  | face (f : Face)
  | color
  | background
  | border
  deriving DecidableEq

namespace Field

@[reducible] def Value : Field → Type
  | inherit => Bool
  | face _ => Option Bool
  | color | background | border => Option Color

/-- What a word gives to a field, if it concerns the field. -/
def given? : (f : Field) → Text → Option f.Value
  | inherit, w => if w = "noinherit".toList then some false else none
  | face f, w =>
      if w = f.name then some (some true)
      else if w = "no".toList ++ f.name then some (some false)
      else none
  | color, w => (Color.ofLiteral? w).map some
  | background, w => (Text.after? "bg:".toList w).map Color.ofLiteral?
  | border, w => (Text.after? "border:".toList w).map Color.ofLiteral?

/-- What words leave in a field: the last of them for the field decides. -/
def after (f : Field) (old : f.Value) (ws : List Text) : f.Value :=
  (ws.filterMap f.given?).getLast?.getD old

theorem after_nil (f : Field) (old : f.Value) : f.after old [] = old := rfl

theorem after_cons (f : Field) (old : f.Value) (w : Text) (ws : List Text) :
    f.after old (w :: ws) = f.after ((f.given? w).getD old) ws := by
  unfold after
  cases given : f.given? w with
  | none => rw [List.filterMap_cons_none given, Option.getD_none]
  | some value =>
      rw [List.filterMap_cons_some given, List.getLast?_cons, Option.getD_some, Option.getD_some]

end Field

namespace Style

def field (s : Style) : (f : Field) → f.Value
  | .inherit => s.inherit
  | .face f => s.face f
  | .color => s.color
  | .background => s.background
  | .border => s.border

theorem ext_field {s t : Style} (h : ∀ f, s.field f = t.field f) : s = t := by
  have inherit : s.inherit = t.inherit := h .inherit
  have bold : s.bold = t.bold := h (.face .bold)
  have italic : s.italic = t.italic := h (.face .italic)
  have underline : s.underline = t.underline := h (.face .underline)
  have color : s.color = t.color := h .color
  have background : s.background = t.background := h .background
  have border : s.border = t.border := h .border
  cases s
  cases t
  simp_all

end Style

/-! ### One word -/

namespace Directive

/-- What a directive gives to a field. -/
def sets : Directive → (f : Field) → Option f.Value
  | noInherit, .inherit => some false
  | face g on, .face f => if g = f then some (some on) else none
  | color c, .color => some (some c)
  | background c, .background => some c
  | border c, .border => some c
  | _, _ => none

theorem field_obey (s : Style) (d : Directive) (f : Field) :
    (s.obey d).field f = (d.sets f).getD (s.field f) := by
  cases d with
  | face g on =>
      cases f with
      | face f => cases g <;> cases f <;> rfl
      | inherit | color | background | border => cases g <;> rfl
  | noInherit | family | color | background | border => cases f <;> rfl

theorem parse_background_of {literal : Text} (h : Color.IsOptionalLiteral literal) :
    parse ("bg:".toList ++ literal) = .ok (background (Color.ofLiteral? literal)) := by
  rw [parse_background, Color.normalize_of_isOptionalLiteral h]
  rfl

theorem parse_border_of {literal : Text} (h : Color.IsOptionalLiteral literal) :
    parse ("border:".toList ++ literal) = .ok (border (Color.ofLiteral? literal)) := by
  rw [parse_border, Color.normalize_of_isOptionalLiteral h]
  rfl

theorem exists_parse_color {literal : Text} (h : Color.IsLiteral literal) :
    ∃ c, Color.ofLiteral? literal = some c ∧ parse literal = .ok (color c) := by
  obtain ⟨c, read, parsed⟩ := Color.parse_of_isLiteral h
  obtain ⟨digits, rfl, -⟩ := h
  exact ⟨c, read, by rw [parse_color, parsed]; rfl⟩

/-- All that can come of reading a word. -/
inductive Reading : Text → Except Error Directive → Prop
  | plain {d} : d ∈ Directive.plain → Reading d.text (.ok d)
  | background {literal} : Color.IsOptionalLiteral literal →
      Reading ("bg:".toList ++ literal) (.ok (background (Color.ofLiteral? literal)))
  | noBackground {literal} : Reading ("bg:".toList ++ literal) (.error (.invalidColor literal))
  | border {literal} : Color.IsOptionalLiteral literal →
      Reading ("border:".toList ++ literal) (.ok (border (Color.ofLiteral? literal)))
  | noBorder {literal} : Reading ("border:".toList ++ literal) (.error (.invalidColor literal))
  | color {digits c} : Color.IsLiteral ('#' :: digits) →
      Color.ofLiteral? ('#' :: digits) = some c → Reading ('#' :: digits) (.ok (color c))
  | noColor {digits} : Reading ('#' :: digits) (.error (.invalidColor ('#' :: digits)))
  | other {w} : ¬ "bg:".toList <+: w → ¬ "border:".toList <+: w → w.head? ≠ some '#' →
      Reading w (.error (.unrecognisedDirective w))

theorem reading (w : Text) : Reading w (parse w) := by
  cases found : plain.find? fun d => d.text = w with
  | some d =>
      have text : d.text = w := by simpa using List.find?_some found
      rw [← text, parse_text]
      exact .plain (List.mem_of_find?_eq_some found)
  | none =>
      cases bg : Text.after? "bg:".toList w with
      | some literal =>
          rw [Text.eq_append_of_after? bg]
          by_cases h : Color.IsOptionalLiteral literal
          · rw [parse_background_of h]
            exact .background h
          · rw [parse_background, Color.normalize_of_not_isOptionalLiteral h]
            exact .noBackground
      | none =>
          cases border : Text.after? "border:".toList w with
          | some literal =>
              rw [Text.eq_append_of_after? border]
              by_cases h : Color.IsOptionalLiteral literal
              · rw [parse_border_of h]
                exact .border h
              · rw [parse_border, Color.normalize_of_not_isOptionalLiteral h]
                exact .noBorder
          | none =>
              by_cases sign : w.head? = some '#'
              · obtain ⟨digits, rfl⟩ := List.head?_eq_some_iff.mp sign
                by_cases h : Color.IsLiteral ('#' :: digits)
                · obtain ⟨c, read, parsed⟩ := exists_parse_color h
                  rw [parsed]
                  exact .color h read
                · rw [parse_color, Color.parse_of_not_isLiteral h]
                  exact .noColor
              · have refused : parse w = .error (.unrecognisedDirective w) := by
                  simp only [parse, found, bg, border, if_neg sign]
                rw [refused]
                exact .other (Text.after?_eq_none_iff.mp bg) (Text.after?_eq_none_iff.mp border)
                  sign

theorem isDirective_plain {d : Directive} (h : d ∈ plain) : IsDirective d.text := by
  cases d with
  | noInherit => exact .noInherit
  | face f on =>
      cases on with
      | true => exact .on f
      | false => exact .off f
  | family f => exact .family f
  | color c | background c | border c => simp [plain, Face.all, Family.all] at h

theorem exists_parse_iff {w : Text} : (∃ d, parse w = .ok d) ↔ IsDirective w := by
  constructor
  · rintro ⟨d, parsed⟩
    have read := reading w
    rw [parsed] at read
    cases read with
    | plain h => exact isDirective_plain h
    | background h => exact .background h
    | border h => exact .border h
    | color h _ => exact .color h
  · intro h
    cases h with
    | noInherit => exact ⟨_, parse_text .noInherit⟩
    | on f => exact ⟨_, parse_text (.face f true)⟩
    | off f => exact ⟨_, parse_text (.face f false)⟩
    | family f => exact ⟨_, parse_text (.family f)⟩
    | color h =>
        obtain ⟨c, -, parsed⟩ := exists_parse_color h
        exact ⟨_, parsed⟩
    | background h => exact ⟨_, parse_background_of h⟩
    | border h => exact ⟨_, parse_border_of h⟩

theorem refusal_of_parse {w : Text} {e : Error} (refused : parse w = .error e) : Refusal w e := by
  have read := reading w
  rw [refused] at read
  cases read with
  | noBackground => exact .background _
  | noBorder => exact .border _
  | noColor => exact .color _
  | other background border sign => exact .other background border sign

theorem given?_plain : ∀ d ∈ plain, ∀ f : Field, f.given? d.text = d.sets f := by
  intro d hd f
  cases f with
  | inherit => revert d; decide
  | face f => cases f <;> revert d <;> decide
  | color | background | border => revert d; decide

/-- A word that begins unlike all plain ones gives no face and does not stop inheriting. -/
theorem given?_eq_none {lead : Text} (h : ∀ d ∈ plain, d.text.take lead.length ≠ lead)
    (rest : Text) : Field.inherit.given? (lead ++ rest) = none ∧
      ∀ f, (Field.face f).given? (lead ++ rest) = none := by
  have fresh : ∀ d ∈ plain, lead ++ rest ≠ d.text := by
    intro d hd same
    have other := List.find?_eq_none.mp (find?_plain_eq_none h rest) d hd
    exact other (decide_eq_true same.symm)
  refine ⟨if_neg (fresh .noInherit (by decide)), fun f => ?_⟩
  have on : lead ++ rest ≠ f.name := fresh (.face f true) (by cases f <;> decide)
  have off : lead ++ rest ≠ "no".toList ++ f.name :=
    fresh (.face f false) (by cases f <;> decide)
  rw [Field.given?, if_neg on, if_neg off]

/-- A directive sets what its word gives. -/
theorem given?_eq_sets {w : Text} {d : Directive} (parsed : parse w = .ok d) (f : Field) :
    f.given? w = d.sets f := by
  have read := reading w
  rw [parsed] at read
  cases read with
  | plain h => exact given?_plain d h f
  | @background literal _ =>
      obtain ⟨inherit, face⟩ := @given?_eq_none "bg:".toList (by decide) literal
      cases f with
      | inherit => exact inherit
      | face f => exact face f
      | background => rw [Field.given?, Text.after?_append]; rfl
      | color | border => rfl
  | @border literal _ =>
      obtain ⟨inherit, face⟩ := @given?_eq_none "border:".toList (by decide) literal
      cases f with
      | inherit => exact inherit
      | face f => exact face f
      | border => rw [Field.given?, Text.after?_append]; rfl
      | color | background => rfl
  | @color digits c _ read =>
      obtain ⟨inherit, face⟩ := @given?_eq_none ['#'] (by decide) digits
      cases f with
      | inherit => exact inherit
      | face f => exact face f
      | color => exact congrArg (Option.map some) read
      | background | border => rfl

end Directive

namespace Style

/-! ### Whole texts -/

def obeyWord (s : Style) (w : Text) : Except Error Style :=
  (Directive.parse w).map s.obey

variable {s t : Style}

theorem apply_eq_foldlM (s : Style) (text : Text) :
    s.apply text = (Text.words text).foldlM obeyWord s := by
  rw [apply]
  generalize Text.words text = ws
  induction ws generalizing s with
  | nil => rfl
  | cons w ws ih =>
      rw [List.mapM_cons, List.foldlM_cons, obeyWord]
      cases Directive.parse w with
      | error e => rfl
      | ok d =>
          refine Eq.trans ?_ (ih (s.obey d))
          cases ws.mapM Directive.parse <;> rfl

theorem field_obeyWord {w : Text} (ok : s.obeyWord w = .ok t) (f : Field) :
    t.field f = (f.given? w).getD (s.field f) := by
  rw [obeyWord] at ok
  cases parsed : Directive.parse w with
  | error e => rw [parsed] at ok; cases ok
  | ok d =>
      rw [parsed] at ok
      cases ok
      rw [Directive.field_obey, Directive.given?_eq_sets parsed]

theorem field_apply {text : Text} (ok : s.apply text = .ok t) (f : Field) :
    t.field f = f.after (s.field f) (Text.words text) := by
  rw [apply_eq_foldlM] at ok
  generalize Text.words text = ws at ok ⊢
  induction ws generalizing s with
  | nil => cases ok; rfl
  | cons w ws ih =>
      rw [List.foldlM_cons] at ok
      cases first : s.obeyWord w with
      | error e => rw [first] at ok; cases ok
      | ok next =>
          rw [first] at ok
          rw [ih ok, field_obeyWord first, Field.after_cons]

theorem exists_apply_iff {text : Text} :
    (∃ t, s.apply text = .ok t) ↔ ∀ w ∈ Text.words text, IsDirective w := by
  simp only [← Directive.exists_parse_iff, ← exists_mapM_iff, apply]
  cases (Text.words text).mapM Directive.parse <;> simp [Except.map]

theorem exists_refused {text : Text} {e : Error} (refused : s.apply text = .error e) :
    ∃ before w after, Text.words text = before ++ w :: after ∧
      (∀ v ∈ before, IsDirective v) ∧ ¬ IsDirective w ∧ Refusal w e := by
  have failed : (Text.words text).mapM Directive.parse = .error e := by
    rw [apply] at refused
    cases parsed : (Text.words text).mapM Directive.parse with
    | ok ds => rw [parsed] at refused; cases refused
    | error e' => rw [parsed] at refused; cases refused; rfl
  obtain ⟨before, w, after, words, taken, bad⟩ := exists_first_error failed
  have valid : ∀ v ∈ before, IsDirective v := fun v hv =>
    Directive.exists_parse_iff.mp (taken v hv)
  have other : ¬ IsDirective w := by
    rw [← Directive.exists_parse_iff, bad]
    rintro ⟨_, ok⟩
    cases ok
  exact ⟨before, w, after, words, valid, other, Directive.refusal_of_parse bad⟩

/-- Changes a style that is held. The words are obeyed one after another on a copy, which
takes the place of the style after the last of them. -/
def change (text : Text) : EStateM Error Style Unit := do
  let mut next : Style ← get
  for w in Text.words text do
    next ← ofExcept (next.obeyWord w)
  set next

theorem run_change (s : Style) (text : Text) :
    (change text).run s = match s.apply text with
      | .ok t => .ok () t
      | .error e => .error e s := by
  rw [apply_eq_foldlM]
  -- The copy is all that the loop changes.
  have loop (ws : List Text) (next : Style) :
      (forIn ws next fun w next => do
        let next ← ofExcept (next.obeyWord w)
        pure (.yield next) : EStateM Error Style Style).run s =
          match ws.foldlM obeyWord next with
            | .ok t => .ok t s
            | .error e => .error e s := by
    induction ws generalizing next with
    | nil => rfl
    | cons w ws ih =>
        rw [List.forIn_cons, List.foldlM_cons]
        cases first : next.obeyWord w with
        | error e => rfl
        | ok t => exact ih t
  have copied := loop (Text.words text) s
  rw [change, EStateM.run_bind, EStateM.run_get]
  dsimp only
  rw [EStateM.run_bind]
  rw [copied]
  cases (Text.words text).foldlM obeyWord s <;> rfl

theorem after_inherit (old : Bool) (ws : List Text) :
    Field.inherit.after old ws = false ↔ old = false ∨ "noinherit".toList ∈ ws := by
  induction ws generalizing old with
  | nil => simp [Field.after_nil]
  | cons w ws ih =>
      rw [Field.after_cons, ih, List.mem_cons, Field.given?]
      by_cases h : w = "noinherit".toList
      · rw [if_pos h, Option.getD_some]
        exact iff_of_true (.inl rfl) (.inr (.inl h.symm))
      · rw [if_neg h, Option.getD_none, or_iff_right (Ne.symm h)]

/-- A text is obeyed if each of its words is a directive. The last word for a field says
what the field is then, and other fields stay as they were. Otherwise the first word that
is no directive is what the text is refused for, and a style that is held stays as it was. -/
theorem apply_obeys_words (s : Style) (text : Text) :
    ((∃ t, s.apply text = .ok t) ↔ ∀ w ∈ Text.words text, IsDirective w) ∧
    (∀ t, s.apply text = .ok t → (change text).run s = .ok () t ∧
      (∀ f : Field, t.field f = f.after (s.field f) (Text.words text)) ∧
      (t.inherit = false ↔ s.inherit = false ∨ "noinherit".toList ∈ Text.words text)) ∧
    ∀ e, s.apply text = .error e → (change text).run s = .error e s ∧
      ∃ before w after, Text.words text = before ++ w :: after ∧
        (∀ v ∈ before, IsDirective v) ∧ ¬ IsDirective w ∧ Refusal w e := by
  refine ⟨exists_apply_iff, fun t ok => ⟨?_, field_apply ok, ?_⟩, fun e refused =>
    ⟨?_, exists_refused refused⟩⟩
  · rw [run_change, ok]
  · have inherit : t.inherit = Field.inherit.after s.inherit (Text.words text) :=
      field_apply ok .inherit
    rw [inherit, after_inherit]
  · rw [run_change, refused]

/-- A background is unset, a face is switched on and off again, and a color is written in
mixed case; and a color that is none stops a text in which another word was obeyed. -/
theorem apply_obeys_words_unset :
    let s : Style := { italic := some true, background := some .white }
    let t : Style := { s with
      inherit := false, bold := some false, color := some ⟨0, 0xFF, 0xFF⟩, background := none }
    let text := "bg: bold\tnoinherit #0Ff mono nobold".toList
    let bad := "noitalic bg:red blink".toList
    (∀ w ∈ Text.words text, IsDirective w) ∧ (change text).run s = .ok () t ∧
      t.field .background = Field.background.after (some .white) (Text.words text) ∧
      (change bad).run s = .error (.invalidColor "red".toList) s ∧
      ∃ w ∈ Text.words bad, ¬ IsDirective w := by
  intro s t text bad
  have ok : s.apply text = .ok t := by decide
  have refused : s.apply bad = .error (.invalidColor "red".toList) := by decide
  obtain ⟨valid, obeyed, -⟩ := apply_obeys_words s text
  obtain ⟨changed, fields, -⟩ := obeyed t ok
  obtain ⟨-, -, stopped⟩ := apply_obeys_words s bad
  obtain ⟨kept, before, w, after, whole, -, other, -⟩ := stopped _ refused
  refine ⟨valid.mp ⟨t, ok⟩, changed, fields .background, kept, w, ?_, other⟩
  simp [whole]

end Style
end ColorScheme
