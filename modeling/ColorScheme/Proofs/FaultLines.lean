import ColorScheme.Proofs.Layout

/-!
Where faults stand. Each line that a document remembers, of a section or of an option, is
one of the text that is neither blank nor a comment, so whatever is found wrong later is
found wrong at such a line. Reading itself stops at the first line that it cannot take:
the lines above that one can be read by themselves, and what follows it has no say.
-/

namespace ColorScheme

namespace Text

/-- A line that is neither blank nor a comment. -/
def HasContent (line : Text) : Prop :=
  (∃ c ∈ line, isBlank c = false) ∧ ¬ line.IsComment

/-- The text has a line of this number, counted from one, and there is content in it. -/
def ContentAt (text : Text) (number : Nat) : Prop :=
  1 ≤ number ∧ number ≤ (lines text).length ∧
    ∃ line, (lines text)[number - 1]? = some line ∧ line.HasContent

theorem contentAt_of_lines {text line : Text} {i : Nat} (there : (lines text)[i]? = some line)
    (content : line.HasContent) : text.ContentAt (1 + i) := by
  obtain ⟨within, -⟩ := List.getElem?_eq_some_iff.mp there
  refine ⟨by omega, by omega, line, ?_, content⟩
  rw [Nat.add_sub_cancel_left]
  exact there

end Text

/-! ### The lines that a result blames -/

/-- If a result is a fault at a line, then at one of these. -/
def BlamesOnly {α : Type} (these : Nat → Prop) (x : Except Error α) : Prop :=
  ∀ line fault, x = .error (.malformed line fault) → these line

namespace BlamesOnly

variable {α β σ : Type} {these : Nat → Prop}

theorem ok (a : α) : BlamesOnly these (.ok a) := by
  intro line fault h
  cases h

theorem fault {line : Nat} (h : these line) (fault : LineFault) :
    BlamesOnly these (.error (.malformed line fault) : Except Error α) := by
  rintro _ _ ⟨⟩
  exact h

theorem bind {x : Except Error α} {f : α → Except Error β} (first : BlamesOnly these x)
    (rest : ∀ a, x = .ok a → BlamesOnly these (f a)) : BlamesOnly these (x >>= f) := by
  cases x with
  | error e =>
      intro line fault h
      cases h
      exact first line fault rfl
  | ok a => exact rest a rfl

theorem map {x : Except Error α} (h : BlamesOnly these x) (f : α → β) :
    BlamesOnly these (x.map f) := by
  cases x with
  | error e =>
      intro line fault failed
      cases failed
      exact h line fault rfl
  | ok a => exact ok (f a)

theorem mapM {f : α → Except Error β} {l : List α} (h : ∀ a ∈ l, BlamesOnly these (f a)) :
    BlamesOnly these (l.mapM f) := by
  intro line fault failed
  obtain ⟨before, a, after, rfl, -, bad⟩ := exists_first_error failed
  exact h a (by simp) line fault bad

theorem foldlM {f : σ → α → Except Error σ} {l : List α}
    (h : ∀ s, ∀ a ∈ l, BlamesOnly these (f s a)) (s : σ) : BlamesOnly these (l.foldlM f s) := by
  induction l generalizing s with
  | nil => exact ok s
  | cons a l ih =>
      rw [List.foldlM_cons]
      exact (h s a (by simp)).bind fun next _ => ih (fun s b hb => h s b (by simp [hb])) next

end BlamesOnly

/-! ### The lines that a document remembers -/

def Section.LinesAmong (these : Nat → Prop) (s : Section) : Prop :=
  these s.line ∧ ∀ key value, s.options.get? key = some value → these value.line

def Document.LinesAmong (these : Nat → Prop) (d : Document) : Prop :=
  ∀ s ∈ d.sections, s.LinesAmong these

variable {these : Nat → Prop}

namespace Section.LinesAmong

variable {s : Section}

theorem set (h : s.LinesAmong these) (key : Text) {value : RawValue} (here : these value.line) :
    (s.set key value).LinesAmong these := by
  refine ⟨h.1, fun other found => ?_⟩
  rw [options_set]
  split
  · rintro ⟨⟩
    exact here
  · exact h.2 other found

/-- A value that goes on keeps the line where it begins. -/
theorem continueOption (h : s.LinesAmong these) (key line : Text) :
    (s.continueOption key line).LinesAmong these := by
  cases found : s.options.get? key with
  | none => rw [Section.continueOption, found]; exact h
  | some value =>
      rw [continueOption_eq found]
      exact h.set key (h.2 key value found)

end Section.LinesAmong

namespace Document.LinesAmong

variable {d : Document}

theorem addSection (h : d.LinesAmong these) (name : Text) {line : Nat} (here : these line) :
    (d.addSection name line).LinesAmong these := by
  cases found : d.find? name with
  | some s => rw [addSection_of_found found]; exact h
  | none =>
      rw [addSection_of_absent found]
      refine List.forall_mem_append.mpr ⟨h, List.forall_mem_singleton.mpr ⟨here, ?_⟩⟩
      intro key value there
      cases there

theorem modify (h : d.LinesAmong these) {f : Section → Section}
    (keep : ∀ s : Section, s.LinesAmong these → (f s).LinesAmong these) (name : Text) :
    (d.modify name f).LinesAmong these := by
  refine List.forall_mem_map.mpr fun s hs => ?_
  split
  · exact keep s (h s hs)
  · exact h s hs

theorem of_raw? (h : d.LinesAmong these) {sec key : Text} {raw : RawValue}
    (found : d.raw? sec key = some raw) : these raw.line := by
  obtain ⟨s, there, option⟩ := Option.bind_eq_some_iff.mp found
  exact (h s (List.mem_of_find?_eq_some there)).2 _ raw option

end Document.LinesAmong

theorem Place.hasContent_of_action {p : Place} {raw : Text} {act : LineAction}
    (h : p.action raw = act) (shown : act ≠ .closeOption) (said : act ≠ .pass) :
    raw.HasContent := by
  constructor
  · by_contra blank
    have nothing : Text.trim raw = [] := by
      rw [Text.trim_eq_nil_iff]
      simpa using blank
    apply shown
    rw [← h, action, Line.ofText, nothing]
  · intro comment
    apply said
    rw [← h, action, Line.ofText_comment comment]

namespace Reader

theorem step_linesAmong {r next : Reader} {number : Nat} {raw : Text}
    (h : r.document.LinesAmong these) (here : raw.HasContent → these number)
    (ok : r.step number raw = .ok next) : next.document.LinesAmong these := by
  rw [step_eq_perform] at ok
  cases act : r.place.action raw with
  | closeOption | pass => rw [act] at ok; cases ok; exact h
  | refuse fault => rw [act] at ok; cases ok
  | extend sec key line =>
      rw [act] at ok
      cases ok
      exact h.modify (fun s hs => hs.continueOption key line) sec
  | openSection name =>
      have content : raw.HasContent := Place.hasContent_of_action act (by simp) (by simp)
      rw [act] at ok
      cases ok
      exact h.addSection name (here content)
  | set sec key value =>
      have content : raw.HasContent := Place.hasContent_of_action act (by simp) (by simp)
      rw [act] at ok
      cases ok
      exact h.modify (fun s hs => hs.set key (here content)) sec

theorem readLines_linesAmong {r last : Reader} {number : Nat} {ls : List Text}
    (h : r.document.LinesAmong these)
    (here : ∀ i raw, ls[i]? = some raw → raw.HasContent → these (number + i))
    (ok : r.readLines number ls = .ok last) : last.document.LinesAmong these := by
  induction ls generalizing r number with
  | nil => cases ok; exact h
  | cons raw ls ih =>
      rw [readLines] at ok
      cases first : r.step number raw with
      | error e => rw [first] at ok; cases ok
      | ok next =>
          rw [first] at ok
          have kept := step_linesAmong h (here 0 raw rfl) first
          refine ih kept (fun i line there content => ?_) ok
          rw [Nat.add_assoc, Nat.add_comm 1]
          exact here (i + 1) line there content

/-- Blanks at the ends of lines are not seen. -/
theorem readLines_trimEnd (r : Reader) (number : Nat) (ls : List Text) :
    r.readLines number (ls.map Text.trimEnd) = r.readLines number ls := by
  refine readLines_congr (List.forall₂_map_right_iff.mpr ?_) r number
  refine List.forall₂_same.mpr fun raw _ => ?_
  have blanks : ∀ c ∈ raw.rtakeWhile Text.isBlank, Text.isBlank c = true :=
    fun c hc => List.mem_rtakeWhile_imp hc
  have whole : Text.trimEnd raw ++ raw.rtakeWhile Text.isBlank = raw := by
    rw [Text.trimEnd_eq_rdropWhile, List.rdropWhile_append_rtakeWhile]
  conv_rhs => rw [← whole, Line.ofText_append_blanks blanks]

end Reader

/-! ### Faults of a document that was read -/

namespace Document

variable {d : Document}

theorem LinesAmong.expand (h : d.LinesAmong these) (levels : Nat) (sec : Text) {raw : RawValue}
    (here : these raw.line) : BlamesOnly these (d.expand levels sec raw) := by
  induction levels generalizing sec raw with
  | zero => exact .fault here .nestedTooDeeply
  | succ levels ih =>
      rw [expand_succ, restValue]
      refine BlamesOnly.map (.mapM fun piece _ => ?_) List.flatten
      cases piece with
      | literal c => exact .ok [c]
      | stray | unterminated => exact .fault here _
      | reference written =>
          rw [pieceValue]
          cases found : d.raw? (referenceTarget sec written).1 (referenceTarget sec written).2 with
          | none => exact .fault here (.unknownReference written)
          | some target => exact ih _ (h.of_raw? found)

theorem LinesAmong.value (h : d.LinesAmong these) (sec key : Text) :
    BlamesOnly these (d.value sec key) := by
  rw [Document.value]
  cases found : d.raw? sec key with
  | none => exact .ok none
  | some raw => exact (h.expand (maxDepth + 1) sec (h.of_raw? found)).map some

/-- The line to give for a value that is no flag, which is 0 if there is no option. -/
def flagLine (d : Document) (sec key : Text) : Nat :=
  (d.raw? sec key).elim 0 (·.line)

/-- A flag is found by its value alone, and its line by looking for the option again. -/
theorem flag_eq_bind (d : Document) (sec key : Text) : d.flag sec key =
    d.value sec key >>= fun found => match found with
      | none => .ok none
      | some value => match truthValue? value with
        | some b => .ok (some b)
        | none => .error (.malformed (d.flagLine sec key) (.notABoolean sec key value)) := by
  rw [Document.flag, Document.value, flagLine]
  cases d.raw? sec key with
  | none => rfl
  | some raw =>
      dsimp only
      cases d.expand (maxDepth + 1) sec raw with
      | error e => rfl
      | ok value =>
          dsimp only [Except.map, bind, Except.bind]
          cases truthValue? value <;> rfl

theorem LinesAmong.flag (h : d.LinesAmong these) (sec key : Text) :
    BlamesOnly these (d.flag sec key) := by
  rw [flag_eq_bind]
  refine (h.value sec key).bind fun found asked => ?_
  cases found with
  | none => exact .ok none
  | some value =>
      dsimp only
      cases truthValue? value with
      | some b => exact .ok (some b)
      | none =>
          -- There is a value, so there is an option to give the line of.
          obtain ⟨raw, there⟩ : ∃ raw, d.raw? sec key = some raw := by
            cases there : d.raw? sec key with
            | none => rw [Document.value, there] at asked; cases asked
            | some raw => exact ⟨raw, rfl⟩
          refine .fault ?_ (.notABoolean sec key value)
          rw [flagLine, there]
          exact h.of_raw? there

end Document

namespace Definition

variable {d : Document}

/-- A literal that is no color is not the fault of a line. -/
theorem blames_normalize (literal : Option Text) : BlamesOnly these (Color.normalize literal) := by
  intro line fault failed
  have unchanged := normalize_mapError (fun _ => line + 1) literal
  rw [failed] at unchanged
  cases unchanged

theorem blames_readStyle (h : d.LinesAmong these) (sec : Text) :
    BlamesOnly these (readStyle d sec) := by
  have background : BlamesOnly these (backgroundLiteral d sec) := by
    refine (h.value sec _).bind fun literal _ => ?_
    cases literal with
    | none => exact h.value sec _
    | some literal => exact .ok (some literal)
  refine (h.value sec _).bind fun _ _ => (blames_normalize _).bind fun _ _ => ?_
  refine background.bind fun _ _ => (blames_normalize _).bind fun _ _ => ?_
  refine (h.value sec _).bind fun _ _ => (blames_normalize _).bind fun _ _ => ?_
  refine (h.flag sec _).bind fun _ _ => (h.flag sec _).bind fun _ _ => ?_
  exact (h.flag sec _).bind fun _ _ => (h.flag sec _).bind fun _ _ => .ok _

theorem blames_readSection (h : d.LinesAmong these) (scheme : Scheme) {s : Section}
    (there : s ∈ d.sections) : BlamesOnly these (readSection d scheme s) := by
  have token : BlamesOnly these (sectionToken s) := by
    rw [sectionToken]
    cases Token.parse s.name with
    | ok t => exact .ok t
    | error e => exact .fault (h s there).1 _
  rw [readSection]
  split
  · exact .ok scheme
  · exact token.bind fun t _ => (blames_readStyle h s.name).bind fun style _ => .ok _

theorem blames_ofDocument (h : d.LinesAmong these) : BlamesOnly these (ofDocument d) :=
  .foldlM (fun scheme _ there => blames_readSection h scheme there) {}

end Definition

namespace Document

theorem linesAmong_of_ofText {text : Text} {d : Document} (ok : ofText text = .ok d) :
    d.LinesAmong text.ContentAt := by
  obtain ⟨last, run, rfl⟩ := ofText_eq_ok_iff.mp ok
  refine Reader.readLines_linesAmong (r := {}) (fun s hs => ?_) (fun i raw there content => ?_) run
  · cases hs
  · exact Text.contentAt_of_lines there content

theorem ofText_of_lines_prefix {text other : Text} {n : Nat} {e : Error}
    (failed : ({} : Reader).readLines 1 ((Text.lines text).take n) = .error e)
    (same : ((Text.lines other).take n).map Text.trimEnd =
      ((Text.lines text).take n).map Text.trimEnd) : ofText other = .error e := by
  have above : ({} : Reader).readLines 1 ((Text.lines other).take n) = .error e := by
    rw [← Reader.readLines_trimEnd, same, Reader.readLines_trimEnd, failed]
  rw [ofText_eq_error_iff, ← List.take_append_drop n (Text.lines other)]
  exact Reader.readLines_append_of_error above _

theorem ofText_refused {text : Text} {e : Error} (failed : ofText text = .error e) :
    ∃ line fault, e = .malformed line fault ∧ text.ContentAt line ∧
      (∃ d, ofText (Text.ofLines ((Text.lines text).take (line - 1))) = .ok d) ∧
      ({} : Reader).readLines 1 ((Text.lines text).take line) = .error e := by
  have run := ofText_eq_error_iff.mp failed
  obtain ⟨before, raw, after, next, fault, lines, taken, refused, rfl⟩ := Reader.readLines_refused run
  have there : (Text.lines text)[before.length]? = some raw := by
    rw [lines, List.getElem?_append_right (Nat.le_refl _), Nat.sub_self]
    rfl
  have content : raw.HasContent := Place.hasContent_of_action refused (by simp) (by simp)
  refine ⟨1 + before.length, fault, rfl, Text.contentAt_of_lines there content, ?_, ?_⟩
  · have above : (Text.lines text).take (1 + before.length - 1) = before := by
      rw [lines, Nat.add_sub_cancel_left, List.take_left]
    have whole : ∀ l ∈ before, '\n' ∉ l := by
      intro l hl
      apply Text.lineFeed_not_mem_of_mem_lines (s := text)
      rw [lines]
      exact List.mem_append_left _ hl
    refine ⟨next.document, ofText_eq_ok_iff.mpr ⟨next, ?_, rfl⟩⟩
    rw [above, Text.lines_ofLines before whole, taken]
  · have upTo : (Text.lines text).take (1 + before.length) = before ++ [raw] := by
      rw [lines, Nat.add_comm, List.take_length_add_append]
      rfl
    rw [upTo, Reader.readLines_append, taken]
    change (next.readLines _ [raw]) = _
    rw [Reader.readLines_cons, refused]
    rfl

/-- Whatever is found wrong, by reading a text, by asking the document for a value or a flag,
or by reading a definition, is found wrong at a line of the text with content in it. Where
reading stops, the lines above can be read by themselves, and every text that has the same
lines up to there, blanks at their ends aside, is refused for the same fault. -/
theorem faults_at_content (text : Text) :
    (∀ e, ofText text = .error e → ∃ line fault, e = .malformed line fault ∧
      text.ContentAt line ∧
      (∃ d, ofText (Text.ofLines ((Text.lines text).take (line - 1))) = .ok d) ∧
      ∀ other, ((Text.lines other).take line).map Text.trimEnd =
        ((Text.lines text).take line).map Text.trimEnd → ofText other = .error e) ∧
    (∀ d, ofText text = .ok d → ∀ sec key, BlamesOnly text.ContentAt (d.value sec key) ∧
      BlamesOnly text.ContentAt (d.flag sec key)) ∧
    BlamesOnly text.ContentAt (Definition.read text) := by
  refine ⟨fun e failed => ?_, fun d ok sec key => ?_, ?_⟩
  · obtain ⟨line, fault, rfl, content, above, stopped⟩ := ofText_refused failed
    exact ⟨line, fault, rfl, content, above, fun other same => ofText_of_lines_prefix stopped same⟩
  · have lines := linesAmong_of_ofText ok
    exact ⟨lines.value sec key, lines.flag sec key⟩
  · have reading : BlamesOnly text.ContentAt (ofText text) := by
      intro line fault failed
      obtain ⟨_, _, same, content, -⟩ := ofText_refused failed
      cases same
      exact content
    exact reading.bind fun d ok => Definition.blames_ofDocument (linesAmong_of_ofText ok)

/-- A line that would go on with a value if there were no blank above it; a reference to an
option that is set again later; a value that is no flag; and a section for no token. -/
theorem faults_at_content_reopened :
    let stopped : Text := "; top\n[a]\nk = 1\n  [more\n\n  x\n[b]\n".toList
    let other : Text := "; top\r\n[a]\t\nk = 1\n  [more\n \n  x".toList
    let asked : Text :=
      "[a]\nk = 1\n# note\n[b]\nJ : 1\n[a]\nbold = $$1\nk = $\x7bb:j\x7d\n 2\n[b]\nj = $x".toList
    let named : Text := "[p]\n\n[X.]\nbold = 1\n".toList
    (ofText stopped = .error (.malformed 6 (.notAnOption "x".toList)) ∧ stopped.ContentAt 6 ∧
      (∃ d, ofText (Text.ofLines ((Text.lines stopped).take 5)) = .ok d) ∧
      ofText other = .error (.malformed 6 (.notAnOption "x".toList))) ∧
    (∃ d, ofText asked = .ok d ∧
      d.value ['a'] ['k'] = .error (.malformed 11 (.strayDollar "$x".toList)) ∧
      asked.ContentAt 11 ∧
      d.flag ['a'] Face.bold.name =
        .error (.malformed 7 (.notABoolean ['a'] Face.bold.name "$1".toList)) ∧
      asked.ContentAt 7) ∧
    Definition.read named = .error (.malformed 3 (.notAToken "X.".toList)) ∧ named.ContentAt 3 := by
  intro stopped other asked named
  have failed : ofText stopped = .error (.malformed 6 (.notAnOption "x".toList)) := by
    decide +kernel
  have refused : Definition.read named = .error (.malformed 3 (.notAToken "X.".toList)) := by
    decide +kernel
  obtain ⟨d, ok, value, flag⟩ : ∃ d, ofText asked = .ok d ∧
      d.value ['a'] ['k'] = .error (.malformed 11 (.strayDollar "$x".toList)) ∧
      d.flag ['a'] Face.bold.name =
        .error (.malformed 7 (.notABoolean ['a'] Face.bold.name "$1".toList)) :=
    ⟨_, rfl, by decide +kernel, by decide +kernel⟩
  obtain ⟨stops, -, -⟩ := faults_at_content stopped
  obtain ⟨line, fault, place, content, above, alike⟩ := stops _ failed
  cases place
  obtain ⟨-, asks, -⟩ := faults_at_content asked
  obtain ⟨-, -, reads⟩ := faults_at_content named
  refine ⟨⟨failed, content, above, alike other (by decide)⟩, ⟨d, ok, value, ?_, flag, ?_⟩,
    refused, reads 3 _ refused⟩
  · exact (asks d ok ['a'] ['k']).1 11 _ value
  · exact (asks d ok ['a'] Face.bold.name).2 7 _ flag

end Document
end ColorScheme
