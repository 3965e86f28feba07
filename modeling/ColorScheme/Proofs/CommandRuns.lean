import ColorScheme.CommandLine
import ColorScheme.Proofs.BuiltinFormats
import ColorScheme.Proofs.Sequences

/-!
Runs of the program. Whatever can fail does so before anything is printed, and what
is printed is printed to its end; so a run leaves either all of its output or nothing
but its error. It succeeds if the settings can be read, the source is there, and the
format is known. How arguments and settings are read and what previews are shown on
is left open, but that a list of names is asked for alone.
-/

namespace ColorScheme

/-- The styles that come with the program can all be read. -/
theorem Builtin.exists_find_iff {name : Text} :
    (∃ s, Builtin.find name >>= Source.toScheme = .ok s) ↔ ∃ b ∈ Builtin.all, b.name = name := by
  have converts : ∀ b ∈ Builtin.all, (b.toSource >>= Source.toScheme).isOk = true := by
    decide +kernel
  rw [find]
  cases found : all.find? fun b => b.name = name with
  | none =>
      have absent : ∀ b ∈ all, b.name ≠ name := by simpa using List.find?_eq_none.mp found
      constructor
      · rintro ⟨s, ok⟩
        cases ok
      · rintro ⟨b, hb, same⟩
        exact absurd same (absent b hb)
  | some b =>
      have there : b ∈ all := List.mem_of_find?_eq_some found
      have same : b.name = name := by simpa using List.find?_some found
      refine ⟨fun _ => ⟨b, there, same⟩, fun _ => ?_⟩
      have converted := converts b there
      dsimp only
      cases ok : b.toSource >>= Source.toScheme with
      | error e => rw [ok] at converted; cases converted
      | ok s => exact ⟨s, rfl⟩

namespace Settings

variable {kept : Settings}

theorem known_eq_ok_iff {read : Option Settings} :
    known read = .ok kept ↔ read = some kept := by
  cases read <;> simp [known]

theorem load_eq_ok_iff {parse? : Text → Option Settings} {file : File} (there : file ≠ .missing) :
    load parse? file = .ok kept ↔
      ∃ text, file.text = .ok text ∧ parse? text = some kept := by
  have loaded : load parse? file =
      file.text >>= fun text => known (parse? text) := by
    cases file with
    | missing => exact absurd rfl there
    | directory | content bytes => rfl
  rw [loaded]
  cases file.text with
  | error e => simp [bind, Except.bind]
  | ok text => simpa [bind, Except.bind] using known_eq_ok_iff

end Settings

namespace CommandLine

/-- What the source that the arguments name is read as. -/
def source? (a : Arguments) (around : Surroundings) : Option (Except Error Scheme) :=
  match a.style, a.file with
  | some name, _ => some (Builtin.find name >>= Source.toScheme)
  | none, some path => some ((around.file path).text >>= Definition.read)
  | none, none => none

/-- The style that the arguments name comes with the program, or the file can be read
as a definition. -/
def SourceThere (a : Arguments) (around : Surroundings) : Prop :=
  match a.style, a.file with
  | some name, _ => ∃ b ∈ Builtin.all, b.name = name
  | none, some path =>
      ∃ text s, (around.file path).text = .ok text ∧ Definition.read text = .ok s
  | none, none => False

/-- What is kept stands in the file that the arguments name, or else in the usual one.
Where there is no file, it is what is set where nothing else is. -/
def SettingsThere (libraries : Libraries) (a : Arguments) (around : Surroundings)
    (kept : Settings) : Prop :=
  match (a.config.map around.file).or around.home with
  | none | some .missing => kept = {}
  | some file => ∃ text, file.text = .ok text ∧ libraries.settings? text = some kept

/-- The name of the format that is asked for, or else of the usual one. -/
def wantedFormat (a : Arguments) (kept : Settings) : Text :=
  a.format.getD kept.defaultFormat

/-- What the format that is wanted writes, if there is one of that name. The name and
the background of the scheme are those of the arguments, or else the usual ones. -/
def writing? (terminal : Preview.Terminal) (a : Arguments) (kept : Settings) :
    Option (Scheme → Text) :=
  (writings terminal (a.name.getD kept.schemeName) (a.background.getD kept.background)).lookup
    (Text.lowercase (wantedFormat a kept))

variable {libraries : Libraries} {a : Arguments} {around : Surroundings} {kept : Settings}

theorem sourceThere_iff : SourceThere a around ↔ ∃ s, source? a around = some (.ok s) := by
  unfold SourceThere source?
  cases a.style with
  | some name =>
      dsimp only
      rw [← Builtin.exists_find_iff]
      exact exists_congr fun s => Option.some_inj.symm
  | none =>
      cases a.file with
      | none => simp
      | some path =>
          have both (x : Except Error Text) :
              (∃ text s, x = .ok text ∧ Definition.read text = .ok s) ↔
                ∃ s, some (x >>= Definition.read) = some (.ok s) := by
            cases x <;> simp [bind, Except.bind]
          exact both (around.file path).text

theorem keptSettings_eq_ok_iff :
    keptSettings libraries a around = .ok kept ↔ SettingsThere libraries a around kept := by
  have place : keptSettings libraries a around =
      match (a.config.map around.file).or around.home with
      | none => .ok {}
      | some file => Settings.load libraries.settings? file := by
    rw [keptSettings]
    cases a.config with
    | some path => rfl
    | none => cases around.home <;> rfl
  have usual : (Except.ok {} : Except Error Settings) = .ok kept ↔ kept = {} := by
    rw [Except.ok.injEq, eq_comm]
  rw [place, SettingsThere]
  cases (a.config.map around.file).or around.home with
  | none => exact usual
  | some file =>
      cases file with
      | missing => exact usual
      | directory | content bytes => exact Settings.load_eq_ok_iff (by simp)

theorem exists_source (around : Surroundings) (source : a.style.isSome ∨ a.file.isSome) :
    ∃ x, source? a around = some x := by
  rw [source?]
  cases style : a.style with
  | some name => exact ⟨_, rfl⟩
  | none =>
      cases file : a.file with
      | some path => exact ⟨_, rfl⟩
      | none => simp [style, file] at source

theorem exists_writing?_iff {terminal : Preview.Terminal} :
    (∃ write, writing? terminal a kept = some write) ↔
      Text.lowercase (wantedFormat a kept) ∈ formatNames := by
  rw [writing?, ← names_writings terminal (a.name.getD kept.schemeName)
    (a.background.getD kept.background), ← Option.isSome_iff_exists, List.lookup_isSome_iff,
    List.mem_map]
  exact exists_congr fun w => and_congr_right fun _ => beq_iff_eq.trans eq_comm

theorem bind_pure_some {α : Type} (x : Except Error α) :
    (x >>= fun a => pure (some a)) = x.map some := by
  cases x <;> rfl

theorem sourceScheme?_eq {registry : Registry}
    (reads : registry.require "definition".toList = .ok .definition) :
    sourceScheme? a around registry = match source? a around with
      | some x => x.map some
      | none => .ok none := by
  rw [sourceScheme?, source?]
  cases a.style with
  | some name =>
      dsimp only
      cases Builtin.find name with
      | error e => rfl
      | ok source => exact bind_pure_some source.toScheme
  | none =>
      cases a.file with
      | none => rfl
      | some path =>
          dsimp only
          rw [reads]
          cases around.file path with
          | missing | directory => rfl
          | content bytes =>
              rw [File.text]
              cases textOfBytes bytes with
              | error e => rfl
              | ok text => exact bind_pure_some (Definition.read text)

theorem print_of_unreadable {e : Error} (h : keptSettings libraries a around = .error e) :
    print libraries a around = .ofExcept (.error e) := by
  rw [print, settings, h]
  rfl

/-- What the source is read as is printed in the format, or nothing is. -/
theorem print_of_kept (read : keptSettings libraries a around = .ok kept) :
    ∃ r : Registry, print libraries a around =
      if a.listStyles then .emitLines Builtin.names
      else if a.listFormats then .emitLines r.names
      else match source? a around with
        | none => .emit []
        | some (.error e) => .ofExcept (.error e)
        | some (.ok s) => match writing? libraries.terminal a kept with
            | some write => .emit (write s)
            | none => .ofExcept (.error (.unknownFormat (wantedFormat a kept))) := by
  let set : Settings := { kept with
    schemeName := a.name.getD kept.schemeName
    background := a.background.getD kept.background }
  have ready : settings libraries a around = .ok set := by
    rw [settings, read]
    rfl
  obtain ⟨r, added, reads, printed⟩ := Registry.builtinWith_eq_ok libraries.terminal set
  refine ⟨r, ?_⟩
  rw [print, ready, Printing.ofExcept_ok_bind, added, Printing.ofExcept_ok_bind, printScheme,
    sourceScheme?_eq reads]
  cases source? a around with
  | none => rfl
  | some x =>
      cases x with
      | error e => rfl
      | ok s =>
          exact congrArg (fun rest => if a.listStyles then _ else if a.listFormats then _ else rest)
            (printed (wantedFormat a kept) s)

/-- Either all is printed, or there is an error and nothing is. -/
theorem print_cases (libraries : Libraries) (a : Arguments) (around : Surroundings) :
    (∃ s, print libraries a around = .emit s) ∨
      ∃ e, print libraries a around = .ofExcept (.error e) := by
  cases read : keptSettings libraries a around with
  | error e => exact .inr ⟨e, print_of_unreadable read⟩
  | ok kept =>
      obtain ⟨r, printed⟩ := print_of_kept read
      rw [printed]
      split
      · exact .inl ⟨_, rfl⟩
      · split
        · exact .inl ⟨_, rfl⟩
        · split
          · exact .inl ⟨_, rfl⟩
          · exact .inr ⟨_, rfl⟩
          · split
            · exact .inl ⟨_, rfl⟩
            · exact .inr ⟨_, rfl⟩

/-- With the source of a scheme no list of names is asked for. -/
def Libraries.ListsAlone (libraries : Libraries) : Prop :=
  ∀ arguments a, libraries.parse arguments = .ok a → a.style.isSome ∨ a.file.isSome →
    a.listStyles = false ∧ a.listFormats = false

section

variable (noStyles : a.listStyles = false) (noFormats : a.listFormats = false)

include noStyles noFormats

theorem print_of_source {s : Scheme} {write : Scheme → Text}
    (read : keptSettings libraries a around = .ok kept) (there : source? a around = some (.ok s))
    (wanted : writing? libraries.terminal a kept = some write) :
    print libraries a around = .emit (write s) := by
  obtain ⟨r, printed⟩ := print_of_kept read
  rw [printed, noStyles, noFormats, there]
  dsimp only
  rw [wanted]
  rfl

/-- With a source all is printed if the settings can be read, the source is there and
the format is known. -/
theorem exists_print_iff (source : a.style.isSome ∨ a.file.isSome) :
    (∃ text, print libraries a around = .emit text) ↔ SourceThere a around ∧
      ∃ kept, keptSettings libraries a around = .ok kept ∧
        Text.lowercase (wantedFormat a kept) ∈ formatNames := by
  constructor
  · rintro ⟨text, h⟩
    cases read : keptSettings libraries a around with
    | error e => cases (print_of_unreadable read).symm.trans h
    | ok kept =>
        obtain ⟨r, printed⟩ := print_of_kept read
        rw [printed, noStyles, noFormats, if_neg Bool.false_ne_true, if_neg Bool.false_ne_true] at h
        obtain ⟨x, given⟩ := exists_source around source
        rw [given] at h
        cases x with
        | error e => cases h
        | ok s =>
            dsimp only at h
            cases wanted : writing? libraries.terminal a kept with
            | none => rw [wanted] at h; cases h
            | some write =>
                exact ⟨sourceThere_iff.mpr ⟨s, given⟩, kept, rfl,
                  exists_writing?_iff.mp ⟨write, wanted⟩⟩
  · rintro ⟨there, kept, read, known⟩
    obtain ⟨s, there⟩ := sourceThere_iff.mp there
    obtain ⟨write, wanted⟩ := exists_writing?_iff.mpr known
    exact ⟨_, print_of_source noStyles noFormats read there wanted⟩

end

theorem outcome_emit (s : Text) : outcome (.emit s) = { code := 0, stdout := s } := rfl

theorem outcome_error (e : Error) : outcome (.ofExcept (.error e)) =
    { code := 1, stderr := Text.ofLines ["Error: ".toList ++ e.message] } := rfl

/-- What a run can leave: its output, or its error, or that its arguments are refused. -/
inductive Outcome.Whole : Outcome → Prop where
  | output (s : Text) : Whole { code := 0, stdout := s }
  | error (e : Error) :
      Whole { code := 1, stderr := Text.ofLines ["Error: ".toList ++ e.message] }
  | refusal (s : Text) : Whole { code := 2, stderr := s }

namespace Outcome.Whole

variable {left : Outcome}

theorem stderr_of_success (whole : left.Whole) (success : left.code = 0) : left.stderr = [] := by
  cases whole with
  | output s => rfl
  | error e | refusal s => cases success

theorem stdout_of_failure (whole : left.Whole) (failure : left.code = 1) :
    left.stdout = [] ∧ "Error: ".toList <+: left.stderr := by
  cases whole with
  | output s | refusal s => cases failure
  | error e => exact ⟨rfl, e.message ++ ['\n'], by simp [Text.ofLines]⟩

end Outcome.Whole

theorem whole_of_print (libraries : Libraries) (a : Arguments) (around : Surroundings) :
    (outcome (print libraries a around)).Whole := by
  obtain ⟨s, printed⟩ | ⟨e, failed⟩ := print_cases libraries a around
  · rw [printed, outcome_emit]
    exact .output s
  · rw [failed, outcome_error]
    exact .error e

theorem whole_runWith (libraries : Libraries) (arguments : List Text) (around : Surroundings) :
    (runWith libraries arguments around).Whole := by
  rw [runWith]
  cases request libraries arguments with
  | ok a => exact whole_of_print libraries a around
  | error ending =>
      cases ending with
      | told text => exact .output text
      | refused text => exact .refusal text

theorem runWith_of_source {arguments : List Text} (parsed : libraries.parse arguments = .ok a)
    (source : a.style.isSome ∨ a.file.isSome) :
    runWith libraries arguments around = outcome (print libraries a around) := by
  have asks : a.asksNothing = false := by
    obtain given | given := source <;> simp [Arguments.asksNothing, ← Option.not_isSome, given]
  have asked : request libraries arguments = .ok a := by
    rw [request, parsed]
    change (if a.asksNothing then _ else _) = _
    rw [asks, if_neg Bool.false_ne_true]
    rfl
  rw [runWith, asked]

theorem code_eq_zero_iff : (outcome (print libraries a around)).code = 0 ↔
    ∃ text, print libraries a around = .emit text := by
  obtain ⟨text, printed⟩ | ⟨e, failed⟩ := print_cases libraries a around
  · exact iff_of_true (by rw [printed, outcome_emit]) ⟨text, printed⟩
  · refine iff_of_false (by rw [failed]; exact Nat.one_ne_zero) ?_
    rintro ⟨text, printed⟩
    cases failed.symm.trans printed

/-- A run that succeeds leaves no error, and one that fails leaves nothing else. With a
source it succeeds if the settings can be read, the source is there and the format is
known, and then it leaves what that format writes. -/
theorem runWith_all_or_nothing (libraries : Libraries) (arguments : List Text)
    (around : Surroundings) :
    let left := runWith libraries arguments around
    (left.code = 0 → left.stderr = []) ∧
    (left.code = 1 → left.stdout = [] ∧ "Error: ".toList <+: left.stderr) ∧
    (libraries.ListsAlone →
      ∀ a, libraries.parse arguments = .ok a → (a.style.isSome ∨ a.file.isSome) →
        (left.code = 0 ↔ SourceThere a around ∧
          ∃ kept, SettingsThere libraries a around kept ∧
            Text.lowercase (wantedFormat a kept) ∈ formatNames) ∧
        ∀ kept s write, SettingsThere libraries a around kept →
          source? a around = some (.ok s) → writing? libraries.terminal a kept = some write →
          left.stdout = write s) := by
  intro left
  have whole : left.Whole := whole_runWith libraries arguments around
  refine ⟨whole.stderr_of_success, whole.stdout_of_failure, fun alone a parsed source => ?_⟩
  obtain ⟨noStyles, noFormats⟩ := alone arguments a parsed source
  have run : left = outcome (print libraries a around) := runWith_of_source parsed source
  simp only [← keptSettings_eq_ok_iff]
  rw [run]
  refine ⟨code_eq_zero_iff.trans (exists_print_iff noStyles noFormats source),
    fun kept s write read there wanted => ?_⟩
  rw [print_of_source noStyles noFormats read there wanted, outcome_emit]

/-! ### The arguments as they are read -/

theorem Arguments.eq_of_check {b : Arguments} (checked : b.check = .ok a) : b = a := by
  rw [check] at checked
  split at checked
  · split at checked <;> cases checked
    rfl
  · split at checked <;> cases checked
    rfl

theorem Arguments.check_of_read {arguments : List Text} (parsed : read arguments = .ok a) :
    a.check = .ok a := by
  rw [read] at parsed
  cases taken : arguments.foldlM ArgumentReader.step {} with
  | error e => rw [taken] at parsed; cases parsed
  | ok r =>
      rw [taken] at parsed
      dsimp only [bind, Except.bind] at parsed
      cases waits : r.awaiting with
      | some option => rw [waits] at parsed; cases parsed
      | none =>
          rw [waits] at parsed
          rwa [eq_of_check parsed] at parsed

/-- A list of names is asked for alone. -/
theorem listsAlone_standard : Libraries.standard.ListsAlone := by
  intro arguments a parsed source
  have checked : a.check = .ok a := Arguments.check_of_read ((mapError_eq_ok_iff _).mp parsed)
  rw [Arguments.check] at checked
  cases listing : a.listing with
  | false => simpa [Arguments.listing] using listing
  | true =>
      rw [listing, if_pos rfl] at checked
      split at checked
      · next alone => obtain rfl | rfl := alone <;> simp at source
      · cases checked

/-- A file is written in the usual format, whose name is given in another case, under
the name that the arguments say. An unknown format is found after the file has been
read, and nothing of it is printed. -/
theorem runWith_all_or_nothing_module :
    let around : Surroundings :=
      { file := fun path => if path = "red".toList then
          .content "[String]\ncolor = #f00\n".toUTF8 else .missing
        home := some (.content "default-format = 'Pygments'\nscheme-name = 'usual'".toUTF8) }
    let arguments := ["-f", "red", "--name=warm"].map String.toList
    let unknown := "emacs".toList :: arguments
    let s := Scheme.insert {} (Token.root.child "String".toList) { color := some ⟨0xFF, 0, 0⟩ }
    ((run arguments around).code = 0 ∧ (run arguments around).stderr = [] ∧
      (run arguments around).stdout = StyleModule.write "warm".toList s) ∧
    (run unknown around).code = 1 ∧ (run unknown around).stdout = [] ∧
      "Error: ".toList <+: (run unknown around).stderr := by
  intro around arguments unknown s
  let a : Arguments := { file := some "red".toList, name := some "warm".toList }
  let kept : Settings := { schemeName := "usual".toList, defaultFormat := "Pygments".toList }
  obtain ⟨quiet, -, sourced⟩ := runWith_all_or_nothing .standard arguments around
  obtain ⟨-, failed, -⟩ := runWith_all_or_nothing .standard unknown around
  have parsed : Libraries.standard.parse arguments = .ok a := by decide +kernel
  have read : SettingsThere .standard a around kept :=
    keptSettings_eq_ok_iff.mp (by decide +kernel)
  have text : (around.file "red".toList).text = .ok "[String]\ncolor = #f00\n".toList := by
    decide +kernel
  have described : Definition.read "[String]\ncolor = #f00\n".toList = .ok s := by decide +kernel
  have there : SourceThere a around := ⟨_, s, text, described⟩
  have given : source? a around = some (.ok s) := by
    have read_text (t : Text) : (Except.ok t >>= Definition.read) = Definition.read t := rfl
    change some ((around.file "red".toList).text >>= Definition.read) = _
    rw [text, read_text, described]
  have known : Text.lowercase (wantedFormat a kept) ∈ formatNames := by decide +kernel
  obtain ⟨success, written⟩ := sourced listsAlone_standard a parsed (.inr rfl)
  have code : (run arguments around).code = 0 := success.mpr ⟨there, kept, read, known⟩
  have error : (run unknown around).code = 1 := by decide +kernel
  exact ⟨⟨code, quiet code, written kept s _ read given rfl⟩, error, failed error⟩

end CommandLine
end ColorScheme
