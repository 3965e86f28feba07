import ColorScheme.Proofs.OptionFrames
import ColorScheme.Proofs.SectionOrder
import ColorScheme.Proofs.WrittenSections

/-!
The order of options. An option is moved with the lines that continue its value. Set
one after the other, options with different keys leave the same section in any order;
and the lines below have no part in it, since they begin with a header. Together with
the order of sections this is all the order there is in a file.
-/

namespace ColorScheme

/-- The key and the value on a line that is not indented. -/
def unindentedOption? (raw : Text) : Option (Text × Text) :=
  match Line.ofText raw with
  | .content false text => if text.head? = some '[' then none else optionOfText? text
  | _ => none

/-- Whether a line goes with the option above it. -/
def continues (raw : Text) : Bool :=
  match Line.ofText raw with
  | .blank => false
  | .comment => true
  | .content indented _ => indented

/-- A value with one of the lines below it. -/
def continued (value raw : Text) : Text :=
  match Line.ofText raw with
  | .content _ text => value ++ '\n' :: text
  | _ => value

/-- A part of a file that is one option, from its line to the last that continues it. -/
structure WholeOption where
  key : Text
  /-- The part of the value that stands on the first line. -/
  value : Text
  text : Text
  first : Text
  more : List Text
  whole : text.getLast? = some '\n'
  lines : Text.lines text = first :: more
  option : unindentedOption? first = some (key, value)
  continues : ∀ raw ∈ more, continues raw = true

namespace Place

variable {raw : Text}

theorem action_unindentedOption {key value : Text} (h : unindentedOption? raw = some (key, value))
    (p : Place) : p.action raw = match p with
      | .outside => .refuse .optionOutsideSection
      | .inside sec _ => .set sec key value := by
  rw [unindentedOption?] at h
  split at h
  · next text line =>
      split at h
      · cases h
      · next header =>
          have other : Text.after? ['['] text = none := Text.after?_eq_none header
          rw [action, line]
          change p.entry text = _
          rw [entry.eq_def, other]
          cases p with
          | outside => rfl
          | inside sec openKey =>
              dsimp only
              rw [h]
  · cases h

end Place

theorem Document.modify_modify {f : Section → Section} (keep : ∀ s, (f s).name = s.name)
    (d : Document) (name : Text) (g : Section → Section) :
    (d.modify name f).modify name g = d.modify name fun s => g (f s) := by
  simp only [modify, List.map_map]
  congr 2
  funext s
  rw [Function.comp_apply]
  by_cases h : s.name = name
  · rw [if_pos h, if_pos h, if_pos ((keep s).trans h)]
  · rw [if_neg h, if_neg h, if_neg h]

namespace Reader

variable {sec key : Text}

theorem perform_continues {raw : Text} (h : continues raw = true) (d : Document) (value : RawValue)
    (number : Nat) :
    (Reader.mk (d.modify sec (·.set key value)) (.inside sec (some key))).perform number
        ((Place.inside sec (some key)).action raw) =
      .ok ⟨d.modify sec (·.set key { value with text := continued value.text raw }),
        .inside sec (some key)⟩ := by
  rw [continues] at h
  rw [Place.action, continued]
  cases line : Line.ofText raw with
  | blank => rw [line] at h; cases h
  | comment => rfl
  | content indented text =>
      rw [line] at h
      obtain rfl : indented = true := h
      dsimp only
      rw [perform, Document.modify_modify (by simp)]
      simp only [Section.continueOption_set]

theorem readLines_continues {more : List Text} (h : ∀ raw ∈ more, continues raw = true)
    (d : Document) (value : RawValue) (number : Nat) :
    (Reader.mk (d.modify sec (·.set key value)) (.inside sec (some key))).readLines number more =
      .ok ⟨d.modify sec (·.set key { value with text := more.foldl continued value.text }),
        .inside sec (some key)⟩ := by
  induction more generalizing value number with
  | nil => rfl
  | cons raw more ih =>
      rw [readLines_cons, perform_continues (h raw (by simp))]
      exact ih (fun raw hraw => h raw (by simp [hraw])) _ (number + 1)

end Reader

namespace WholeOption

def file (options : List WholeOption) : Text :=
  options.flatMap (·.text)

/-- The value with all its lines. -/
def content (o : WholeOption) : Text :=
  o.more.foldl continued o.value

/-- Sets the option, at no particular line. -/
def setIn (sec : Text) (d : Document) (o : WholeOption) : Document :=
  d.modify sec (·.set o.key ⟨o.content, 0⟩)

variable {r : Reader} {sec : Text} {openKey : Option Text}

theorem readLines_text (o : WholeOption) (place : r.place = .inside sec openKey) (number : Nat) :
    r.readLines number (Text.lines o.text) =
      .ok ⟨r.document.modify sec (·.set o.key ⟨o.content, number⟩), .inside sec (some o.key)⟩ := by
  rw [o.lines, Reader.readLines_cons, place, Place.action_unindentedOption o.option]
  exact Reader.readLines_continues o.continues r.document ⟨o.value, number⟩ (number + 1)

/-- No option stands outside of a section. -/
theorem readLines_text_outside (o : WholeOption) (place : r.place = .outside) (number : Nat) :
    r.readLines number (Text.lines o.text) =
      .error (.malformed number .optionOutsideSection) := by
  rw [o.lines, Reader.readLines_cons, place, Place.action_unindentedOption o.option]
  rfl

theorem lines_file_cons (o : WholeOption) (options : List WholeOption) :
    Text.lines (file (o :: options)) = Text.lines o.text ++ Text.lines (file options) := by
  rw [file, List.flatMap_cons, Text.lines_append (.inr o.whole)]
  rfl

theorem file_whole (options : List WholeOption) :
    file options = [] ∨ (file options).getLast? = some '\n' := by
  cases options using List.reverseRecOn with
  | nil => exact .inl rfl
  | append_singleton options o =>
      refine .inr ?_
      rw [file, List.flatMap_append, List.flatMap_singleton, List.getLast?_append, o.whole]
      rfl

theorem readLines_file (options : List WholeOption) (place : r.place = .inside sec openKey)
    (number : Nat) : ∃ next, r.readLines number (Text.lines (file options)) = .ok next ∧
      next.document.unnumbered = options.foldl (setIn sec) r.document.unnumbered := by
  induction options generalizing r openKey number with
  | nil => exact ⟨r, rfl, rfl⟩
  | cons o options ih =>
      obtain ⟨next, read, document⟩ := ih (r := ⟨r.document.modify sec _, .inside sec (some o.key)⟩)
        rfl (number + (Text.lines o.text).length)
      refine ⟨next, ?_, ?_⟩
      · rw [lines_file_cons, Reader.readLines_append, o.readLines_text place]
        exact read
      · have changed := r.document.renumber_modify (fun _ => 0) sec
          (·.set o.key ⟨o.content, number⟩) (·.set o.key ⟨o.content, 0⟩)
          fun s => s.renumber_set _ o.key ⟨o.content, number⟩
        rw [document, List.foldl_cons]
        exact congrArg (options.foldl (setIn sec)) changed

theorem setIn_comm (sec : Text) (d : Document) {o p : WholeOption} (h : o.key ≠ p.key) :
    setIn sec (setIn sec d o) p = setIn sec (setIn sec d p) o := by
  rw [setIn, setIn, setIn, setIn, Document.modify_modify (by simp),
    Document.modify_modify (by simp)]
  congr 1
  funext s
  refine Section.eq_of_options rfl rfl fun key => ?_
  simp only [Section.options_set]
  by_cases first : key = o.key <;> by_cases second : key = p.key <;> simp_all

/-- Options with different keys can be set in any order. -/
theorem foldl_setIn_perm {options other : List WholeOption} (p : other.Perm options)
    (distinct : (options.map (·.key)).Nodup) (d : Document) :
    other.foldl (setIn sec) d = options.foldl (setIn sec) d := by
  refine p.foldl_eq' (fun x hx y hy d => ?_) d
  by_cases same : x.key = y.key
  -- Only an option and itself have the same key.
  · rw [List.inj_on_of_nodup_map distinct (p.mem_iff.mp hx) (p.mem_iff.mp hy) same]
  · exact setIn_comm sec d same

end WholeOption

namespace Reader

/-- Below a header, or at the end of the file, it makes no difference where the
lines above it have led. -/
theorem readLines_below {b : Text} (header : b = [] ∨ b.head? = some '[') {r q last : Reader}
    (alike : r.document.unnumbered = q.document.unnumbered) {n : Nat}
    (ok : r.readLines n (Text.lines b) = .ok last) (m : Nat) :
    ∃ other, q.readLines m (Text.lines b) = .ok other ∧
      last.document.unnumbered = other.document.unnumbered := by
  obtain rfl | header := header
  · cases ok
    exact ⟨q, rfl, alike⟩
  · rw [readLines_at_header header r .outside] at ok
    rw [readLines_at_header header q .outside]
    have start : Reader.unnumbered { r with place := .outside } =
        Reader.unnumbered { q with place := .outside } :=
      congrArg (Reader.mk · .outside) alike
    obtain ⟨other, read, alike⟩ := readLines_unnumbered start ok m
    exact ⟨other, read, congrArg (·.document) alike⟩

end Reader

/-- A file is read up to some options, then the options are, and then what is below. -/
theorem Document.ofText_eq_ok_iff_of_options {before : Text}
    (whole : before = [] ∨ before.getLast? = some '\n') (options : List WholeOption) (after : Text)
    {d : Document} : ofText (before ++ WholeOption.file options ++ after) = .ok d ↔
      ∃ r q last, ({} : Reader).readLines 1 (Text.lines before) = .ok r ∧
        r.readLines (1 + (Text.lines before).length) (Text.lines (WholeOption.file options)) =
          .ok q ∧
        q.readLines (1 + (Text.lines before).length + (Text.lines (WholeOption.file options)).length)
          (Text.lines after) = .ok last ∧
        last.document = d := by
  simp only [ofText_eq_ok_iff, List.append_assoc, Text.lines_append whole,
    Text.lines_append (WholeOption.file_whole options), Reader.readLines_append_eq_ok_iff]
  constructor
  · rintro ⟨last, ⟨r, first, q, set, below⟩, document⟩
    exact ⟨r, q, last, first, set, below, document⟩
  · rintro ⟨r, q, last, first, set, below, document⟩
    exact ⟨last, ⟨r, first, q, set, below⟩, document⟩

section

variable {before after : Text} {options other : List WholeOption}
  (whole : before = [] ∨ before.getLast? = some '\n')
  (header : after = [] ∨ after.head? = some '[') (p : other.Perm options)
  (distinct : (options.map (·.key)).Nodup)

include whole header p distinct

theorem Document.ofText_of_options_perm {d : Document}
    (ok : ofText (before ++ WholeOption.file options ++ after) = .ok d) :
    ∃ e, ofText (before ++ WholeOption.file other ++ after) = .ok e ∧
      d.unnumbered = e.unnumbered := by
  obtain ⟨r, q, last, first, set, below, rfl⟩ :=
    (ofText_eq_ok_iff_of_options whole options after).mp ok
  have places : ∃ q', r.readLines (1 + (Text.lines before).length)
        (Text.lines (WholeOption.file other)) = .ok q' ∧
      q.document.unnumbered = q'.document.unnumbered := by
    cases place : r.place with
    | outside =>
        -- Nothing but the empty file of options is read there.
        cases options with
        | nil => exact ⟨q, p.eq_nil ▸ set, rfl⟩
        | cons o options =>
            rw [WholeOption.lines_file_cons, Reader.readLines_append,
              o.readLines_text_outside place] at set
            cases set
    | inside sec openKey =>
        have run (options : List WholeOption) :=
          WholeOption.readLines_file options place (1 + (Text.lines before).length)
        obtain ⟨_, set', document⟩ := run options
        obtain ⟨q', set'', document'⟩ := run other
        obtain rfl := Except.ok.inj (set.symm.trans set')
        refine ⟨q', set'', ?_⟩
        rw [document, document', WholeOption.foldl_setIn_perm p distinct]
  obtain ⟨q', set', alike⟩ := places
  obtain ⟨last', below', alike⟩ := Reader.readLines_below header alike below _
  exact ⟨last'.document, (ofText_eq_ok_iff_of_options whole other after).mpr
    ⟨r, q', last', first, set', below', rfl⟩, alike⟩

theorem Definition.read_of_options_perm {s : Scheme}
    (ok : read (before ++ WholeOption.file options ++ after) = .ok s) :
    read (before ++ WholeOption.file other ++ after) = .ok s := by
  obtain ⟨d, parsed, described⟩ := exists_of_read ok
  obtain ⟨e, parsed', alike⟩ := Document.ofText_of_options_perm whole header p distinct parsed
  rw [read, parsed']
  exact Document.ofDocument_unnumbered_iff.mp
    (alike ▸ Document.ofDocument_unnumbered_iff.mpr described)

end

namespace Definition

/-- Blocks with different names that are for different tokens can stand in any order,
and so can options with different keys within a section: a file in another order is
accepted if the one is, and is read as the same scheme. -/
theorem read_rearranged :
    (∀ blocks other : List Block, other.Perm blocks → (blocks.map (·.name)).Nodup →
      ((blocks.map (·.name)).filterMap tokenOfName?).Nodup →
      ∀ s, read (Block.file other) = .ok s ↔ read (Block.file blocks) = .ok s) ∧
    ∀ (before : Text) (options other : List WholeOption) (after : Text),
      (before = [] ∨ before.getLast? = some '\n') → (after = [] ∨ after.head? = some '[') →
      other.Perm options → (options.map (·.key)).Nodup →
      ∀ s, read (before ++ WholeOption.file other ++ after) = .ok s ↔
        read (before ++ WholeOption.file options ++ after) = .ok s := by
  constructor
  · intro blocks other p distinct tokens s
    have names : (other.map (·.name)).Perm (blocks.map (·.name)) := p.map _
    exact ⟨read_of_blocks_perm p.symm (names.nodup_iff.mpr distinct)
      ((names.filterMap _).nodup_iff.mpr tokens), read_of_blocks_perm p distinct tokens⟩
  · intro before options other after whole header p distinct s
    have distinct' : (other.map (·.key)).Nodup := (p.map _).nodup_iff.mpr distinct
    exact ⟨read_of_options_perm whole header p.symm distinct',
      read_of_options_perm whole header p distinct⟩

/-- A palette that is referred to from above and then from below, and a value on two
lines that is moved with both. -/
theorem read_rearranged_palette :
    let block (name : String) (text : Text) (opens : text.head? = some '[')
        (whole : text.getLast? = some '\n')
        (only : Place.outside.headers (Text.lines text) = [name.toList]) : Block :=
      ⟨name.toList, text, opens, whole, only⟩
    let string := block "String" "[String]\ncolor = $\x7bpalette:red\x7d\n\n".toList
      (by decide) (by decide) (by decide)
    let palette := block "palette" "[palette]\nred = #f00\n".toList
      (by decide) (by decide) (by decide)
    let name := block "Name" "[Name]\n; as above\ncolor: $\x7bString:color\x7d\n".toList
      (by decide) (by decide) (by decide)
    let blocks := [string, palette, name]
    let hue : WholeOption := ⟨"hue".toList, "#f00".toList, "Hue = #f00\n".toList,
      "Hue = #f00".toList, [], by decide, by decide, by decide, by decide⟩
    let color : WholeOption := ⟨"color".toList, "$\x7bhue\x7d".toList, "color = $\x7bhue\x7d\n".toList,
      "color = $\x7bhue\x7d".toList, [], by decide, by decide, by decide, by decide⟩
    let bold : WholeOption := ⟨"bold".toList, [], "bold =\n# not yet\n  yes\n".toList,
      "bold =".toList, ["# not yet".toList, "  yes".toList], by decide, by decide, by decide,
      by decide⟩
    let options := [hue, color, bold]
    let before := "[String]\n".toList
    let after := "[Name]\ncolor = $\x7bString:color\x7d\n".toList
    let red : Style := { color := some ⟨0xFF, 0, 0⟩ }
    let s := (Scheme.insert {} (Token.root.child "String".toList) red).insert
      (Token.root.child "Name".toList) red
    let t := s.insert (Token.root.child "String".toList) { red with bold := some true }
    read (Block.file blocks) = .ok s ∧ read (Block.file blocks.reverse) = .ok s ∧
      read (before ++ WholeOption.file options ++ after) = .ok t ∧
      read (before ++ WholeOption.file options.reverse ++ after) = .ok t := by
  intro block string palette name blocks hue color bold options before after red s t
  have distinct : (blocks.map (·.name)).Nodup := by decide
  have tokens : ((blocks.map (·.name)).filterMap tokenOfName?).Nodup := by decide +kernel
  have keys : (options.map (·.key)).Nodup := by decide
  have read_blocks : read (Block.file blocks) = .ok s := by decide +kernel
  have read_options : read (before ++ WholeOption.file options ++ after) = .ok t := by
    decide +kernel
  obtain ⟨of_blocks, of_options⟩ := read_rearranged
  exact ⟨read_blocks,
    (of_blocks blocks blocks.reverse blocks.reverse_perm distinct tokens s).mpr read_blocks,
    read_options, (of_options before options options.reverse after (.inr (by decide))
      (.inr (by decide)) options.reverse_perm keys t).mpr read_options⟩

end Definition
end ColorScheme
