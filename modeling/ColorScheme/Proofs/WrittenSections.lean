import ColorScheme.Definition
import ColorScheme.Proofs.LineActions
import ColorScheme.Proofs.Tables
import ColorScheme.Proofs.TextCuts

/-!
Sections as they are written: a header, and below it the options, each with the
first line of its value behind the key and the other lines indented. Reading such
a file gives its sections in their order, and in each of them the values that were
written. It makes no difference whether blank lines lie between the sections.
-/

namespace ColorScheme

open Definition (optionLine)

/-- A key that a line can begin with, and that the reader leaves as it is. -/
structure WritableKey (key : Text) : Prop where
  ne_nil : key ≠ []
  trimmed : Text.trim key = key
  lower : Text.lowercase key = key
  solid : ∀ c ∈ key, c ≠ '=' ∧ c ≠ ':' ∧ c ≠ '\n'
  lead : ∀ c, key.head? = some c → c ≠ '#' ∧ c ≠ ';' ∧ c ≠ '['

instance (key : Text) : Decidable (WritableKey key) :=
  decidable_of_iff (key ≠ [] ∧ Text.trim key = key ∧ Text.lowercase key = key ∧
      (key.all fun c => c ≠ '=' ∧ c ≠ ':' ∧ c ≠ '\n') ∧
      key.head?.all fun c => c ≠ '#' ∧ c ≠ ';' ∧ c ≠ '[')
    ⟨fun ⟨ne, trimmed, lower, solid, lead⟩ =>
        ⟨ne, trimmed, lower, by simpa using solid, by simpa [Option.all_eq_true] using lead⟩,
      fun h => ⟨h.ne_nil, h.trimmed, h.lower, by simpa using h.solid,
        by simpa [Option.all_eq_true] using h.lead⟩⟩

namespace Place

theorem action_blank (p : Place) {raw : Text} (h : Text.trim raw = []) :
    p.action raw = .closeOption := by
  rw [action, Line.ofText, h]

theorem action_indented {l : Text} (ne : l ≠ []) (trimmed : Text.trim l = l)
    (sharp : l.head? ≠ some '#') (semicolon : l.head? ≠ some ';') (sec key : Text) :
    (Place.inside sec (some key)).action (' ' :: l) = .extend sec key l := by
  obtain ⟨c, rest, rfl⟩ := List.exists_cons_of_ne_nil ne
  have sharp : c ≠ '#' := by simpa using sharp
  have semicolon : c ≠ ';' := by simpa using semicolon
  have line : Line.ofText (' ' :: c :: rest) = .content true (c :: rest) := by
    rw [Line.ofText, Text.trim_cons_blank (by decide), trimmed]
    simp only [sharp, semicolon, or_self, if_false]
    rfl
  rw [action, line]

theorem action_sectionHeader (p : Place) {name : Text} (ne : name ≠ [])
    (trimmed : Text.trim name = name) :
    p.action ('[' :: name ++ [']']) = .openSection name := by
  have closed : Text.trimEnd (name ++ [']']) = name ++ [']'] :=
    Text.trimEnd_eq_self (by simp; decide)
  have inside : headerName? (name ++ [']']) = some name := by
    simp [headerName?, trimmed, ne]
  rw [List.cons_append, action_header, closed, inside]

end Place

namespace WritableKey

variable {key value : Text}

theorem trim_optionLine (h : WritableKey key) :
    Text.trim (optionLine key value) = key ++ ' ' :: '=' :: Text.trimEnd (' ' :: value) := by
  have split : optionLine key value = (key ++ [' ', '=']) ++ ' ' :: value := by
    simp [optionLine]
  have first : ∀ c, (optionLine key value).head? = some c → Text.isBlank c = false := by
    obtain ⟨c, rest, rfl⟩ := List.exists_cons_of_ne_nil h.ne_nil
    exact (Text.trim_eq_self_iff.mp h.trimmed).1
  have last : Text.trimEnd (key ++ [' ', '=']) = key ++ [' ', '='] :=
    Text.trimEnd_eq_self (by simp; decide)
  -- Of an empty value not even the space in front of it is left.
  rw [Text.trim, Text.trimStart_eq_self first, split, Text.trimEnd_append, last]
  split
  · next blank => simp [blank]
  · simp

theorem ofText_optionLine (h : WritableKey key) : Line.ofText (optionLine key value) =
    .content false (key ++ ' ' :: '=' :: Text.trimEnd (' ' :: value)) := by
  have first := (Text.trim_eq_self_iff.mp h.trimmed).1
  rw [Line.ofText, h.trim_optionLine]
  obtain ⟨c, rest, rfl⟩ := List.exists_cons_of_ne_nil h.ne_nil
  obtain ⟨sharp, semicolon, -⟩ := h.lead c rfl
  simp [sharp, semicolon, optionLine, first c rfl]

theorem optionOfText?_eq (h : WritableKey key) (rest : Text) :
    optionOfText? (key ++ ' ' :: '=' :: rest) = some (key, Text.trim rest) := by
  have cut : Text.cut? (fun c => c = '=' || c = ':') ((key ++ [' ']) ++ '=' :: rest) =
      some (key ++ [' '], rest) := by
    apply Text.cut?_append
    · intro c hc
      obtain hc | hc := List.mem_append.mp hc
      · obtain ⟨equals, colon, -⟩ := h.solid c hc
        simp [equals, colon]
      · obtain rfl : c = ' ' := by simpa using hc
        decide
    · decide
  have trimmed : Text.trim (key ++ [' ']) = key := by
    rw [Text.trim_append_blank (by decide), h.trimmed]
  rw [List.append_assoc] at cut
  rw [optionOfText?, show key ++ ' ' :: '=' :: rest = key ++ ([' '] ++ '=' :: rest) from rfl, cut]
  simp [trimmed, h.ne_nil, h.lower]

theorem action_optionLine (h : WritableKey key) (trimmed : Text.trim value = value)
    (sec : Text) (openKey : Option Text) :
    (Place.inside sec openKey).action (optionLine key value) = .set sec key value := by
  have other : Text.after? ['['] (key ++ ' ' :: '=' :: Text.trimEnd (' ' :: value)) = none := by
    obtain ⟨c, rest, rfl⟩ := List.exists_cons_of_ne_nil h.ne_nil
    obtain ⟨-, -, bracket⟩ := h.lead c rfl
    simp [Text.after?, Ne.symm bracket]
  have kept : Text.trim (Text.trimEnd (' ' :: value)) = value := by
    have last := (Text.trim_eq_self_iff.mp trimmed).2
    cases value with
    | nil => rfl
    | cons c value =>
        rw [Text.trimEnd_eq_self (by simpa using last), Text.trim_cons_blank (by decide), trimmed]
  rw [Place.action, h.ofText_optionLine]
  dsimp only
  rw [Place.entry.eq_def, other, h.optionOfText?_eq, kept]

end WritableKey

/-- An option as it is written: the first line of its value stands behind the
key, and each other line on an indented line of its own. -/
structure WrittenOption where
  key : Text
  first : Text
  more : List Text := []

namespace WrittenOption

def oneLine (o : Text × Text) : WrittenOption :=
  { key := o.1, first := o.2 }

def lines (o : WrittenOption) : List Text :=
  optionLine o.key o.first :: o.more.map (' ' :: ·)

/-- The value, with its lines one below the other. -/
def text (o : WrittenOption) : Text :=
  ['\n'].intercalate (o.first :: o.more)

def entry (o : WrittenOption) : Text × Text :=
  (o.key, o.text)

@[simp] theorem entry_oneLine (o : Text × Text) : (oneLine o).entry = o := by
  simp [entry, oneLine, text]

/-- The option is read back from its lines. -/
structure Writable (o : WrittenOption) : Prop where
  key : WritableKey o.key
  solid : ∀ l ∈ o.first :: o.more, Text.trim l = l ∧ '\n' ∉ l
  lead : ∀ l ∈ o.more, l ≠ [] ∧ l.head? ≠ some '#' ∧ l.head? ≠ some ';'

instance (o : WrittenOption) : Decidable o.Writable :=
  decidable_of_iff (WritableKey o.key ∧ (∀ l ∈ o.first :: o.more, Text.trim l = l ∧ '\n' ∉ l) ∧
      ∀ l ∈ o.more, l ≠ [] ∧ l.head? ≠ some '#' ∧ l.head? ≠ some ';')
    ⟨fun ⟨key, solid, lead⟩ => ⟨key, solid, lead⟩, fun h => ⟨h.key, h.solid, h.lead⟩⟩

theorem Writable.oneLine {o : Text × Text} (key : WritableKey o.1) (trimmed : Text.trim o.2 = o.2)
    (line : '\n' ∉ o.2) : (oneLine o).Writable where
  key := key
  solid := by simpa [WrittenOption.oneLine] using ⟨trimmed, line⟩
  lead := by simp [WrittenOption.oneLine]

theorem Writable.lineFeed_not_mem {o : WrittenOption} (h : o.Writable) :
    ∀ l ∈ o.lines, '\n' ∉ l := by
  intro l hl
  obtain rfl | hl := List.mem_cons.mp hl
  · have key : '\n' ∉ o.key := fun m => (h.key.solid _ m).2.2 rfl
    have first : '\n' ∉ o.first := (h.solid o.first (by simp)).2
    simp [optionLine, key, first]
  · obtain ⟨m, hm, rfl⟩ := List.mem_map.mp hl
    have more : '\n' ∉ m := (h.solid m (List.mem_cons_of_mem _ hm)).2
    simp [more]

end WrittenOption

namespace Section

theorem set_set (s : Section) (key : Text) (v w : RawValue) :
    (s.set key v).set key w = s.set key w := by
  have options : (s.options.insert key v).insert key w = s.options.insert key w := by
    apply SortedTable.ext_get?
    intro k
    simp only [SortedTable.get?_insert]
    split <;> rfl
  simp only [set, options]

theorem continueOption_set (s : Section) (key line : Text) (value : RawValue) :
    (s.set key value).continueOption key line =
      s.set key { value with text := value.text ++ '\n' :: line } := by
  have found : (s.set key value).options.get? key = some value := by
    rw [options_set, if_pos rfl]
  rw [continueOption_eq found, set_set]

def setLines (s : Section) (number : Nat) : List WrittenOption → Section
  | [] => s
  | o :: options => (s.set o.key ⟨o.text, number⟩).setLines (number + o.lines.length) options

@[simp] theorem name_setLines (s : Section) (number : Nat) (options : List WrittenOption) :
    (s.setLines number options).name = s.name := by
  induction options generalizing s number with
  | nil => rfl
  | cons o options ih => exact ih _ _

@[simp] theorem line_setLines (s : Section) (number : Nat) (options : List WrittenOption) :
    (s.setLines number options).line = s.line := by
  induction options generalizing s number with
  | nil => rfl
  | cons o options ih => exact ih _ _

theorem text_setLines (s : Section) (number : Nat) (options : List WrittenOption) (key : Text) :
    ((s.setLines number options).options.get? key).map (·.text) =
      ((options.map (·.entry)).reverse.lookup key).or ((s.options.get? key).map (·.text)) := by
  induction options generalizing s number with
  | nil => rfl
  | cons o options ih =>
      rw [setLines, ih, List.map_cons, List.reverse_cons, List.lookup_append, Option.or_assoc,
        options_set, lookup_cons_eq]
      by_cases h : key = o.key <;> simp [h, WrittenOption.entry]

end Section

structure WrittenSection where
  name : Text
  options : List WrittenOption

namespace WrittenSection

def lines (w : WrittenSection) : List Text :=
  ('[' :: w.name ++ [']']) :: w.options.flatMap (·.lines)

/-- The values by their keys. -/
def entries (w : WrittenSection) : List (Text × Text) :=
  w.options.map (·.entry)

/-- The section is read back from its lines. -/
structure Writable (w : WrittenSection) : Prop where
  name_ne_nil : w.name ≠ []
  name_trimmed : Text.trim w.name = w.name
  name_line : '\n' ∉ w.name
  distinct : (w.options.map (·.key)).Nodup
  options : ∀ o ∈ w.options, o.Writable

instance (w : WrittenSection) : Decidable w.Writable :=
  decidable_of_iff (w.name ≠ [] ∧ Text.trim w.name = w.name ∧ '\n' ∉ w.name ∧
      (w.options.map (·.key)).Nodup ∧ ∀ o ∈ w.options, o.Writable)
    ⟨fun ⟨ne, trimmed, line, distinct, options⟩ => ⟨ne, trimmed, line, distinct, options⟩,
      fun h => ⟨h.name_ne_nil, h.name_trimmed, h.name_line, h.distinct, h.options⟩⟩

def read (w : WrittenSection) (number : Nat) : Section :=
  Section.setLines { name := w.name, line := number } (number + 1) w.options

/-- The sections of a file where `gap` lines lie between one and the next. -/
def readAll (gap number : Nat) : List WrittenSection → List Section
  | [] => []
  | w :: ws => w.read number :: readAll gap (number + w.lines.length + gap) ws

/-- The file with the lines `gap` between one section and the next. -/
def fileText (gap : List Text) (ws : List WrittenSection) : Text :=
  Text.ofLines (gap.intercalate (ws.map lines))

@[simp] theorem name_read (w : WrittenSection) (number : Nat) : (w.read number).name = w.name :=
  Section.name_setLines ..

@[simp] theorem line_read (w : WrittenSection) (number : Nat) : (w.read number).line = number :=
  Section.line_setLines ..

theorem Writable.keys_entries {w : WrittenSection} (h : w.Writable) :
    (w.entries.map (·.1)).Nodup := by
  rw [entries, List.map_map]
  exact h.distinct

theorem Writable.lookup_entries {w : WrittenSection} (h : w.Writable) {o : WrittenOption}
    (ho : o ∈ w.options) : w.entries.lookup o.key = some o.text :=
  (lookup_eq_some_iff_mem h.keys_entries).mpr (List.mem_map_of_mem ho)

theorem Writable.text_read {w : WrittenSection} (h : w.Writable) (number : Nat) (key : Text) :
    ((w.read number).options.get? key).map (·.text) = w.entries.lookup key := by
  rw [read, Section.text_setLines]
  change ((w.entries.reverse).lookup key).or none = _
  rw [Option.or_none, lookup_perm w.entries.reverse_perm h.keys_entries]

end WrittenSection

namespace Reader

section

variable {d : Document} {s : Section}

theorem readLines_more (fresh : d.find? s.name = none) {more : List Text}
    (trimmed : ∀ l ∈ more, Text.trim l = l)
    (lead : ∀ l ∈ more, l ≠ [] ∧ l.head? ≠ some '#' ∧ l.head? ≠ some ';')
    (key : Text) (value : RawValue) (number : Nat) :
    (Reader.mk ⟨d.sections ++ [s.set key value]⟩ (.inside s.name (some key))).readLines number
        (more.map (' ' :: ·)) =
      .ok ⟨⟨d.sections ++ [s.set key { value with text := value.text ++ more.flatMap ('\n' :: ·) }]⟩,
        .inside s.name (some key)⟩ := by
  induction more generalizing value number with
  | nil => simp [readLines]
  | cons l more ih =>
      obtain ⟨ne, sharp, semicolon⟩ := lead l (by simp)
      have changed := Document.modify_last (s := s.set key value) fresh (·.continueOption key l)
      have rest := ih (fun m hm => trimmed m (by simp [hm])) (fun m hm => lead m (by simp [hm]))
        { value with text := value.text ++ '\n' :: l } (number + 1)
      rw [List.map_cons, readLines_cons,
        Place.action_indented ne (trimmed l (by simp)) sharp semicolon, perform]
      simp only [Section.name_set] at changed
      simp only [changed, Section.continueOption_set]
      change Reader.readLines _ _ _ = _
      simpa using rest

theorem readLines_option (fresh : d.find? s.name = none) {o : WrittenOption} (h : o.Writable)
    (number : Nat) (openKey : Option Text) :
    (Reader.mk ⟨d.sections ++ [s]⟩ (.inside s.name openKey)).readLines number o.lines =
      .ok ⟨⟨d.sections ++ [s.set o.key ⟨o.text, number⟩]⟩, .inside s.name (some o.key)⟩ := by
  have action := h.key.action_optionLine (h.solid o.first (by simp)).1 s.name openKey
  have trimmed : ∀ l ∈ o.more, Text.trim l = l := fun l hl =>
    (h.solid l (List.mem_cons_of_mem _ hl)).1
  have more := readLines_more fresh trimmed h.lead o.key ⟨o.first, number⟩ (number + 1)
  rw [WrittenOption.lines, readLines_cons, action, perform]
  simp only [Document.modify_last fresh]
  rw [WrittenOption.text, intercalate_cons_eq]
  exact more

theorem readLines_options (fresh : d.find? s.name = none) {options : List WrittenOption}
    (writable : ∀ o ∈ options, o.Writable) (number : Nat) (openKey : Option Text) :
    ∃ last, (Reader.mk ⟨d.sections ++ [s]⟩ (.inside s.name openKey)).readLines number
        (options.flatMap (·.lines)) =
      .ok ⟨⟨d.sections ++ [s.setLines number options]⟩, .inside s.name last⟩ := by
  induction options generalizing s number openKey with
  | nil => exact ⟨openKey, rfl⟩
  | cons o options ih =>
      obtain ⟨last, rest⟩ := ih (s := s.set o.key ⟨o.text, number⟩) fresh
        (fun o ho => writable o (by simp [ho])) (number + o.lines.length) (some o.key)
      refine ⟨last, ?_⟩
      rw [List.flatMap_cons, readLines_append, readLines_option fresh (writable o (by simp))]
      exact rest

end

theorem readLines_blank {gap : List Text} (blank : ∀ l ∈ gap, Text.trim l = []) (r : Reader)
    (number : Nat) : ∃ place, r.readLines number gap = .ok ⟨r.document, place⟩ := by
  induction gap generalizing r number with
  | nil => exact ⟨r.place, rfl⟩
  | cons l gap ih =>
      rw [readLines_cons, Place.action_blank _ (blank l (by simp))]
      exact ih (fun l hl => blank l (by simp [hl])) _ (number + 1)

theorem readLines_section {w : WrittenSection} (h : w.Writable) {r : Reader}
    (fresh : r.document.find? w.name = none) (number : Nat) : ∃ place,
    r.readLines number w.lines = .ok ⟨⟨r.document.sections ++ [w.read number]⟩, place⟩ := by
  obtain ⟨last, options⟩ := readLines_options (s := { name := w.name, line := number }) fresh
    h.options (number + 1) none
  refine ⟨.inside w.name last, ?_⟩
  rw [WrittenSection.lines, readLines_cons,
    Place.action_sectionHeader _ h.name_ne_nil h.name_trimmed, perform]
  simp only [Document.addSection_of_absent fresh]
  exact options

/-- Written sections are read one after the other, if none has the name of
another. -/
theorem readLines_sections {gap : List Text} (blank : ∀ l ∈ gap, Text.trim l = [])
    {ws : List WrittenSection} (writable : ∀ w ∈ ws, w.Writable)
    (distinct : (ws.map (·.name)).Nodup) {r : Reader}
    (fresh : ∀ w ∈ ws, r.document.find? w.name = none) (number : Nat) : ∃ place,
    r.readLines number (gap.intercalate (ws.map (·.lines))) =
      .ok ⟨⟨r.document.sections ++ WrittenSection.readAll gap.length number ws⟩, place⟩ := by
  induction ws generalizing r number with
  | nil => exact ⟨r.place, by simp [readLines, WrittenSection.readAll]⟩
  | cons w ws ih =>
      obtain ⟨place, first⟩ := readLines_section (writable w (by simp)) (fresh w (by simp)) number
      obtain ⟨between, skipped⟩ := readLines_blank blank
        ⟨⟨r.document.sections ++ [w.read number]⟩, place⟩ (number + w.lines.length)
      obtain ⟨other, distinct⟩ := List.nodup_cons.mp distinct
      have fresh' : ∀ v ∈ ws, (Document.mk (r.document.sections ++ [w.read number])).find? v.name =
          none := by
        intro v hv
        have ne : w.name ≠ v.name := fun e => other (List.mem_map.mpr ⟨v, hv, e.symm⟩)
        rw [Document.find?_append, fresh v (by simp [hv])]
        simp [Document.find?, ne]
      obtain ⟨last, rest⟩ := ih (fun v hv => writable v (by simp [hv])) distinct
        (r := ⟨⟨r.document.sections ++ [w.read number]⟩, between⟩) fresh'
        (number + w.lines.length + gap.length)
      -- The gap lies in front of a further section, not behind the last.
      cases ws with
      | nil => exact ⟨place, by simpa [WrittenSection.readAll] using first⟩
      | cons v ws =>
          refine ⟨last, ?_⟩
          rw [List.map_cons, List.map_cons, List.intercalate_cons_cons, List.append_assoc,
            readLines_append, first]
          change Reader.readLines _ _ (gap ++ _) = _
          rw [readLines_append, skipped]
          simpa [WrittenSection.readAll, Except.bind] using rest

end Reader

namespace WrittenSection

theorem Writable.lineFeed_not_mem {w : WrittenSection} (h : w.Writable) :
    ∀ l ∈ w.lines, '\n' ∉ l := by
  intro l hl
  obtain rfl | hl := List.mem_cons.mp hl
  · simp [h.name_line]
  · obtain ⟨o, ho, hl⟩ := List.mem_flatMap.mp hl
    exact (h.options o ho).lineFeed_not_mem l hl

theorem fileText_nil (ws : List WrittenSection) :
    fileText [] ws = Text.ofLines (ws.flatMap (·.lines)) := by
  cases ws with
  | nil => rfl
  | cons w ws => simp [fileText, intercalate_cons_eq, List.flatMap_map]

theorem ofText_fileText {gap : List Text} (blank : ∀ l ∈ gap, Text.trim l = [] ∧ '\n' ∉ l)
    {ws : List WrittenSection} (writable : ∀ w ∈ ws, w.Writable)
    (distinct : (ws.map (·.name)).Nodup) :
    Document.ofText (fileText gap ws) = .ok ⟨readAll gap.length 1 ws⟩ := by
  have whole : ∀ l ∈ gap.intercalate (ws.map lines), '\n' ∉ l := by
    intro l hl
    obtain hl | ⟨ls, hls, hl⟩ := mem_intercalate hl
    · exact (blank l hl).2
    · obtain ⟨w, hw, rfl⟩ := List.mem_map.mp hls
      exact (writable w hw).lineFeed_not_mem l hl
  obtain ⟨place, read⟩ := Reader.readLines_sections (fun l hl => (blank l hl).1) writable distinct
    (r := {}) (fun _ _ => rfl) 1
  rw [Document.ofText, fileText, Text.lines_ofLines _ whole, read]
  rfl

/-- The options of a file of written sections are those that were written. -/
theorem text_raw?_readAll {ws : List WrittenSection} (writable : ∀ w ∈ ws, w.Writable)
    (gap number : Nat) (sec key : Text) :
    ((Document.mk (readAll gap number ws)).raw? sec key).map (·.text) =
      (ws.find? (·.name = sec)).bind (·.entries.lookup (Text.lowercase key)) := by
  induction ws generalizing number with
  | nil => rfl
  | cons w ws ih =>
      by_cases h : w.name = sec
      · have found : (Document.mk (readAll gap number (w :: ws))).find? sec =
            some (w.read number) := by
          simp [readAll, Document.find?, h]
        rw [Document.raw?, found, List.find?_cons_of_pos (by simpa using h)]
        exact (writable w (by simp)).text_read number _
      · have found : (Document.mk (readAll gap number (w :: ws))).find? sec =
            (Document.mk (readAll gap (number + w.lines.length + gap) ws)).find? sec := by
          simp [readAll, Document.find?, h]
        rw [Document.raw?, found, List.find?_cons_of_neg (by simpa using h)]
        exact ih (fun v hv => writable v (by simp [hv])) _

end WrittenSection
end ColorScheme
