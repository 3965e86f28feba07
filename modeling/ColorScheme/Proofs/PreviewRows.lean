import ColorScheme.Preview
import ColorScheme.Proofs.StyleText
import ColorScheme.Proofs.TokenNames
import Mathlib.Data.List.MinMax
import Mathlib.Order.Nat

/-!
What a terminal shows of a preview: the text without its control sequences. Each token
has a row, in which its name is filled up to the width of the widest, so that the samples
stand below each other, and the style at the end of a row is read back.
-/

namespace ColorScheme.Preview

/-! ### Control sequences -/

/-- What the next character of a text is part of. -/
inductive Scan where
  | shown
  /-- An escape character has been read. -/
  | escaped
  /-- A control sequence goes on up to its final character. -/
  | parameters

def isFinal (c : Char) : Bool :=
  '@' ≤ c ∧ c ≤ '~'

def visibleFrom : Scan → Text → Text
  | _, [] => []
  | .shown, c :: s => if c = '\x1b' then visibleFrom .escaped s else c :: visibleFrom .shown s
  | .escaped, c :: s => visibleFrom (if c = '[' then .parameters else .shown) s
  | .parameters, c :: s => visibleFrom (if isFinal c then .shown else .parameters) s

/-- The text without its control sequences. -/
def visible (s : Text) : Text :=
  visibleFrom .shown s

/-- A character that is shown on the line on which it stands. -/
def Shown (c : Char) : Prop :=
  c ≠ '\n' ∧ c ≠ '\x1b'

instance (c : Char) : Decidable (Shown c) :=
  inferInstanceAs (Decidable (_ ∧ _))

def IsShown (s : Text) : Prop :=
  ∀ c ∈ s, Shown c

instance (s : Text) : Decidable (IsShown s) :=
  decidable_of_iff (s.all fun c => Shown c) List.all_iff_forall_prop

theorem lineFeed_not_mem_of_shown {s : Text} (h : IsShown s) : '\n' ∉ s :=
  fun m => (h _ m).1 rfl

theorem visible_append {s : Text} (h : IsShown s) (t : Text) :
    visible (s ++ t) = s ++ visible t := by
  induction s with
  | nil => rfl
  | cons c s ih =>
      obtain ⟨shown, rest⟩ := List.forall_mem_cons.mp h
      rw [List.cons_append, visible, visibleFrom, if_neg shown.2, ← visible, ih rest]
      rfl

theorem visible_of_shown {s : Text} (h : IsShown s) : visible s = s := by
  simpa [visible, visibleFrom] using visible_append h []

def IsParameter (c : Char) : Prop :=
  '0' ≤ c ∧ c ≤ '?'

instance (c : Char) : Decidable (IsParameter c) :=
  inferInstanceAs (Decidable (_ ∧ _))

/-- The code can stand in a control sequence. -/
def IsCode (code : Text) : Prop :=
  ∀ c ∈ code, IsParameter c

instance (code : Text) : Decidable (IsCode code) :=
  decidable_of_iff (code.all fun c => IsParameter c) List.all_iff_forall_prop

theorem visibleFrom_parameters {code : Text} (h : IsCode code) (t : Text) :
    visibleFrom .parameters (code ++ 'm' :: t) = visible t := by
  induction code with
  | nil => rfl
  | cons c code ih =>
      obtain ⟨parameter, rest⟩ := List.forall_mem_cons.mp h
      have more : isFinal c = false := by
        have below : c < '@' := Std.lt_of_le_of_lt parameter.2 (by decide)
        simp [isFinal, Std.not_le.mpr below]
      rw [List.cons_append, visibleFrom, more]
      exact ih rest

theorem visible_escapes {codes : List Text} (h : ∀ code ∈ codes, IsCode code) (t : Text) :
    visible (codes.flatMap escape ++ t) = visible t := by
  induction codes with
  | nil => rfl
  | cons code codes ih =>
      obtain ⟨first, rest⟩ := List.forall_mem_cons.mp h
      rw [← ih rest, List.flatMap_cons, List.append_assoc, escape, List.append_assoc]
      exact visibleFrom_parameters first _

theorem lineFeed_not_mem_escapes {codes : List Text} (h : ∀ code ∈ codes, IsCode code) :
    '\n' ∉ codes.flatMap escape := by
  intro m
  obtain ⟨code, hc, m⟩ := List.mem_flatMap.mp m
  have other : '\n' ∉ code := fun m => absurd (h code hc _ m) (by decide)
  simp [escape, other] at m

/-! ### Painted texts -/

/-- Of a painted text the text alone is shown, and on its line. -/
structure Terminal.Removable (terminal : Terminal) : Prop where
  visible_paint : ∀ look s, IsShown s → ∀ t, visible (terminal.paint look s ++ t) = s ++ visible t
  lineFeed_not_mem_paint : ∀ look s, '\n' ∉ s → '\n' ∉ terminal.paint look s

/-- The codes in front of a text in a look. -/
def openingCodes (look : Look) : List Text :=
  (look.background.map fun c => "48;".toList ++ rgb c).toList ++
    (look.color.map fun c => "38;".toList ++ rgb c).toList ++
    (look.underline.map fun c => "58;".toList ++ rgb c).toList ++
    look.attributes.map Attribute.code

def closingCodes (look : Look) : List Text :=
  if look.attributes ≠ [] then ["0".toList]
  else (if look.background.isSome then ["49".toList] else []) ++
    (if look.color.isSome then ["39".toList] else [])

theorem paint_eq (look : Look) (s : Text) : paint look s =
    (openingCodes look).flatMap escape ++ s ++ (closingCodes look).flatMap escape := by
  -- Which codes there are depends on the four fields alone.
  obtain ⟨color, background, underline, attributes⟩ := look
  cases color <;> cases background <;> cases underline <;> cases attributes <;>
    simp [paint, openingCodes, closingCodes, List.flatMap_map]

theorem isCode_rgb {lead : Text} (h : IsCode lead) (c : Color) : IsCode (lead ++ rgb c) := by
  have space : IsCode "2;".toList := by decide
  refine List.forall_mem_append.mpr ⟨h, List.forall_mem_append.mpr ⟨space, ?_⟩⟩
  intro d hd
  obtain hd | ⟨digits, hdigits, hd⟩ := mem_intercalate hd
  · rw [List.mem_singleton.mp hd]
    decide
  · obtain ⟨b, -, rfl⟩ := List.mem_map.mp hdigits
    have digit : '0' ≤ d ∧ d ≤ '9' := by
      simpa [Char.isDigit, Char.le_def] using
        Nat.isDigit_of_mem_toDigits (by omega) (by omega) hd
    exact ⟨digit.1, Std.le_trans digit.2 (by decide)⟩

theorem isCode_openingCodes (look : Look) : ∀ code ∈ openingCodes look, IsCode code := by
  have color {lead : Text} (hl : IsCode lead) (o : Option Color) :
      ∀ code ∈ (o.map fun c => lead ++ rgb c).toList, IsCode code := by
    intro code hc
    obtain ⟨c, -, rfl⟩ := Option.map_eq_some_iff.mp (Option.mem_toList.mp hc)
    exact isCode_rgb hl c
  have known (a : Attribute) : IsCode a.code := by cases a <;> decide
  simp only [openingCodes, List.forall_mem_append, List.forall_mem_map]
  exact ⟨⟨⟨color (by decide) _, color (by decide) _⟩, color (by decide) _⟩,
    fun a _ => known a⟩

theorem isCode_closingCodes (look : Look) : ∀ code ∈ closingCodes look, IsCode code := by
  have known : ∀ code ∈ ["0".toList, "49".toList, "39".toList], IsCode code := by decide
  intro code hc
  apply known
  rw [closingCodes] at hc
  split at hc
  · simp_all
  · split at hc <;> split at hc <;> simp_all

theorem removable_trueColor : Terminal.trueColor.Removable where
  visible_paint look s h t := by
    change visible (paint look s ++ t) = s ++ visible t
    rw [paint_eq, List.append_assoc, List.append_assoc,
      visible_escapes (isCode_openingCodes look), visible_append h,
      visible_escapes (isCode_closingCodes look)]
  lineFeed_not_mem_paint look s h := by
    change '\n' ∉ paint look s
    rw [paint_eq]
    simp only [List.mem_append, not_or]
    exact ⟨⟨lineFeed_not_mem_escapes (isCode_openingCodes look), h⟩,
      lineFeed_not_mem_escapes (isCode_closingCodes look)⟩

/-! ### Rows -/

theorem le_widest {widths : List Nat} {n : Nat} (h : n ∈ widths) : n ≤ widest widths :=
  List.le_max_of_le h (Nat.le_refl n)

theorem widest_mem {widths : List Nat} (h : widths ≠ []) : widest widths ∈ widths :=
  List.maximum_mem (List.foldr_max_of_ne_nil h).symm

theorem shown_shortName {t : Token} (h : ∀ name ∈ t.segments, IsShown name) :
    IsShown t.shortName := by
  rw [Token.shortName]
  split
  · decide
  · intro c hc
    obtain hc | ⟨name, hn, hc⟩ := mem_intercalate hc
    · rw [List.mem_singleton.mp hc]
      decide
    · exact h name hn c hc

theorem shown_style_text (s : Style) : IsShown s.text := by
  have alphabet : IsShown (' ' :: Directive.alphabet) := by decide
  exact fun c hc => alphabet c (s.mem_alphabet_of_mem_style_text c hc)

theorem shown_color_text (c : Color) : IsShown c.text :=
  c.forall_mem_text (by decide) (by decide)

/-- The beginning of a row, up to the sample. -/
def label (width : Text → Nat) (columns : Nat) (t : Token) : Text :=
  t.shortName ++ List.replicate (columns - width t.shortName) ' ' ++ "  ".toList

theorem shown_label (width : Text → Nat) (columns : Nat) {t : Token}
    (h : ∀ name ∈ t.segments, IsShown name) : IsShown (label width columns t) := by
  have blanks : IsShown (List.replicate (columns - width t.shortName) ' ') := by
    intro c hc
    rw [List.eq_of_mem_replicate hc]
    decide
  have gap : IsShown "  ".toList := by decide
  exact List.forall_mem_append.mpr ⟨List.forall_mem_append.mpr ⟨shown_shortName h, blanks⟩, gap⟩

theorem row_eq (terminal : Terminal) (columns : Nat) (scheme : Scheme) (t : Token) (s : Style) :
    row terminal columns scheme t s = label terminal.width columns t ++
      (terminal.paint (look scheme s) sample ++ ("  ".toList ++ s.text)) := by
  simp [row, label]

section

variable {terminal : Terminal} (removable : terminal.Removable)
include removable

theorem visible_row (columns : Nat) (scheme : Scheme) {t : Token}
    (h : ∀ name ∈ t.segments, IsShown name) (s : Style) :
    visible (row terminal columns scheme t s) =
      label terminal.width columns t ++ sample ++ "  ".toList ++ s.text := by
  have shown : IsShown sample := by decide
  have gap : IsShown "  ".toList := by decide
  rw [row_eq, visible_append (shown_label terminal.width columns h),
    removable.visible_paint _ _ shown, visible_append gap,
    visible_of_shown (shown_style_text s), List.append_assoc, List.append_assoc]

theorem lineFeed_not_mem_row (columns : Nat) (scheme : Scheme) {t : Token}
    (h : ∀ name ∈ t.segments, IsShown name) (s : Style) :
    '\n' ∉ row terminal columns scheme t s := by
  have painted : '\n' ∉ terminal.paint (look scheme s) sample :=
    removable.lineFeed_not_mem_paint _ _ (by decide)
  have label := lineFeed_not_mem_of_shown (shown_label terminal.width columns h)
  have text := lineFeed_not_mem_of_shown (shown_style_text s)
  simp only [row_eq, List.mem_append, not_or]
  exact ⟨label, painted, by decide, text⟩

/-- A color is shown by its literal and a blank stretch in that color. -/
theorem visible_color (c : Color) (t : Text) :
    visible (c.text ++ (' ' :: swatch terminal c ++ t)) =
      c.text ++ ("     ".toList ++ visible t) := by
  have stretch : IsShown "    ".toList := by decide
  have blank : IsShown [' '] := by decide
  rw [visible_append (shown_color_text c), List.cons_append, ← List.singleton_append,
    visible_append blank, swatch, removable.visible_paint _ _ stretch]
  rfl

theorem visible_pageLine (scheme : Scheme) : visible (pageLine terminal scheme) =
    "background ".toList ++ scheme.background.text ++ "     ".toList ++
      "   highlight ".toList ++ scheme.highlight.text ++ "     ".toList := by
  have page : IsShown "background ".toList := by decide
  have highlight : IsShown "   highlight ".toList := by decide
  have last := visible_color removable scheme.highlight []
  have none : visible [] = [] := rfl
  rw [List.append_nil, none, List.append_nil] at last
  unfold pageLine
  simp only [List.append_assoc]
  rw [visible_append page, visible_color removable, visible_append highlight, last]

theorem lineFeed_not_mem_pageLine (scheme : Scheme) : '\n' ∉ pageLine terminal scheme := by
  have text (c : Color) := lineFeed_not_mem_of_shown (shown_color_text c)
  have stretch : '\n' ∉ "    ".toList := by decide
  have blank (c : Color) : '\n' ∉ ' ' :: swatch terminal c :=
    List.not_mem_cons_of_ne_of_not_mem (by decide)
      (removable.lineFeed_not_mem_paint _ _ stretch)
  have page : '\n' ∉ "background ".toList := by decide
  have highlight : '\n' ∉ "   highlight ".toList := by decide
  have first := List.not_mem_append (List.not_mem_append page (text scheme.background))
    (blank scheme.background)
  exact List.not_mem_append (List.not_mem_append (List.not_mem_append first highlight)
    (text scheme.highlight)) (blank scheme.highlight)

end

/-- A preview shows the colors of the page, an empty line, and a row for each token with a
style, in the order of the tokens. The name in a row is filled up with as many blanks as it
is less wide than the widest of them, and none is wider. The style is read back from the end
of its row. So it is on any terminal whose control sequences can be removed. -/
theorem writeWith_aligns_rows (terminal : Terminal) (removable : terminal.Removable)
    (scheme : Scheme) (shown : ∀ t ∈ scheme.styles.keys, ∀ name ∈ t.segments, IsShown name) :
    ∃ most rows, Text.lines (writeWith terminal scheme) = pageLine terminal scheme :: [] :: rows ∧
      visible (pageLine terminal scheme) = "background ".toList ++ scheme.background.text ++
        "     ".toList ++ "   highlight ".toList ++ scheme.highlight.text ++ "     ".toList ∧
      (∀ t ∈ scheme.styles.keys, terminal.width t.shortName ≤ most) ∧
      (scheme.styles.keys ≠ [] →
        most ∈ scheme.styles.keys.map fun t => terminal.width t.shortName) ∧
      rows = scheme.styles.entries.map (fun e =>
        e.1.shortName ++ List.replicate (most - terminal.width e.1.shortName) ' ' ++
          "  ".toList ++ terminal.paint (look scheme e.2) " Sample text ".toList ++
          "  ".toList ++ e.2.text) ∧
      rows.map visible = scheme.styles.entries.map (fun e =>
        e.1.shortName ++ List.replicate (most - terminal.width e.1.shortName) ' ' ++
          "  ".toList ++ " Sample text ".toList ++ "  ".toList ++ e.2.text) ∧
      ∀ e ∈ scheme.styles.entries, Style.parse e.2.text = .ok e.2 := by
  have stored : ∀ e ∈ scheme.styles.entries, ∀ name ∈ e.1.segments, IsShown name :=
    fun e he => shown e.1 (List.mem_map_of_mem he)
  let most := widest (scheme.styles.keys.map fun t => terminal.width t.shortName)
  let rows := scheme.styles.entries.map fun e => row terminal most scheme e.1 e.2
  refine ⟨most, rows, Text.lines_ofLines _ ?_, visible_pageLine removable scheme, ?_, ?_, rfl, ?_,
    fun e _ => e.2.parse_style_text⟩
  · refine List.forall_mem_cons.mpr ⟨lineFeed_not_mem_pageLine removable scheme, ?_⟩
    refine List.forall_mem_cons.mpr ⟨List.not_mem_nil, List.forall_mem_map.mpr ?_⟩
    exact fun e he => lineFeed_not_mem_row removable most scheme (stored e he) e.2
  · exact fun t ht => le_widest (List.mem_map_of_mem ht)
  · exact fun some => widest_mem (by simpa using some)
  · rw [List.map_map]
    exact List.map_congr_left fun e he => visible_row removable most scheme (stored e he) e.2

/-- A name of one character can be wider than another. -/
theorem writeWith_aligns_rows_wide :
    let scheme := (Scheme.insert {} (Token.root.child "A".toList) { bold := some true }).insert
      (Token.root.child "漢".toList) { inherit := false, color := some .white }
    (∀ t ∈ scheme.styles.keys, ∀ name ∈ t.segments, IsShown name) ∧
      ∃ rows, Text.lines (write scheme) = pageLine .trueColor scheme :: [] :: rows ∧
        visible (pageLine .trueColor scheme) =
          "background #ffffff        highlight #ffffcc     ".toList ∧
        rows.map visible = ["A    Sample text   bold".toList,
          "漢   Sample text   noinherit #ffffff".toList] := by
  intro scheme
  have shown : ∀ t ∈ scheme.styles.keys, ∀ name ∈ t.segments, IsShown name := by decide
  obtain ⟨most, rows, written, page, below, widest, -, seen, -⟩ :=
    writeWith_aligns_rows .trueColor removable_trueColor scheme shown
  have widths :
      scheme.styles.keys.map (fun t => Terminal.trueColor.width t.shortName) = [1, 2] := by
    decide +kernel
  have two : Terminal.trueColor.width (Token.root.child "漢".toList).shortName = 2 := by
    decide +kernel
  have least : 2 ≤ most := two ▸ below (Token.root.child "漢".toList) (by decide)
  have one : most ∈ [1, 2] := widths ▸ widest (by decide)
  obtain rfl : most = 2 := by
    simp only [List.mem_cons, List.not_mem_nil, or_false] at one
    omega
  refine ⟨shown, rows, written, page.trans ?_, ?_⟩
  · decide +kernel
  · rw [seen]
    decide +kernel

end ColorScheme.Preview
