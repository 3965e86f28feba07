import ColorScheme.Proofs.LineNumbers
import ColorScheme.Proofs.TextCuts

/-!
Two files one after the other. When the second begins with a header, reading
both is reading each of them and merging what they hold: the reader of the
second file alone and the reader that goes on after the first do the same at
every line, and their documents differ by the first file's.
-/

namespace ColorScheme

/-- A section reopened: it stays where it was, and takes over the options of the
later one. -/
def Section.merge (s t : Section) : Section :=
  { s with options := s.options.union t.options }

/-- The sections of both documents, in the order of their first headers. -/
def Document.merge (d e : Document) : Document :=
  ⟨d.sections.map (fun s => (e.find? s.name).elim s s.merge) ++
    e.sections.filter fun t => (d.find? t.name).isNone⟩

namespace Section

theorem merge_set (s t : Section) (key : Text) (value : RawValue) :
    s.merge (t.set key value) = (s.merge t).set key value := by
  have options : s.options.union (t.options.insert key value) =
      (s.options.union t.options).insert key value := by
    apply SortedTable.ext_get?
    intro k
    rw [SortedTable.get?_union, SortedTable.get?_insert, SortedTable.get?_insert,
      SortedTable.get?_union]
    split <;> rfl
  simp only [merge, set, options]

/-- The open option is one of the later section, so its own value is continued
and not one that the earlier section has for the key. -/
theorem merge_continueOption {s t : Section} {key : Text} {value : RawValue}
    (h : t.options.get? key = some value) (line : Text) :
    s.merge (t.continueOption key line) = (s.merge t).continueOption key line := by
  have found : (s.merge t).options.get? key = some value := by
    rw [merge, SortedTable.get?_union, h]
    rfl
  rw [continueOption_eq h, continueOption_eq found, merge_set]

theorem merge_new (s : Section) (name : Text) (line : Nat) :
    s.merge { name := name, line := line } = s := rfl

end Section

namespace Document

theorem merge_start (d : Document) : d.merge {} = d := by
  simp [merge, find?]

theorem find?_filter_absent {d e : Document} {name : Text} (h : d.find? name = none) :
    (Document.mk (e.sections.filter fun t => (d.find? t.name).isNone)).find? name =
      e.find? name :=
  find?_filter fun s hs => by simp [hs, h]

theorem find?_merge (d e : Document) (name : Text) : (d.merge e).find? name =
    match d.find? name with
    | some s => some ((e.find? name).elim s s.merge)
    | none => e.find? name := by
  have keep : ∀ s : Section, ((e.find? s.name).elim s s.merge).name = s.name := by
    intro s
    cases e.find? s.name <;> rfl
  have both := find?_append ⟨d.sections.map fun s => (e.find? s.name).elim s s.merge⟩
    (e.sections.filter fun t => (d.find? t.name).isNone) name
  rw [find?_map d keep] at both
  rw [merge, both]
  cases h : d.find? name with
  | some s => simp [name_of_find? h]
  | none => exact find?_filter_absent h

theorem merge_addSection (d e : Document) (name : Text) (line : Nat) :
    d.merge (e.addSection name line) = (d.merge e).addSection name line := by
  have reopened (s : Section) : ((e.addSection name line).find? s.name).elim s s.merge =
      (e.find? s.name).elim s s.merge := by
    rw [find?_addSection]
    cases e.find? s.name with
    | some t => rfl
    | none => by_cases h : name = s.name <;> simp [h, Section.merge_new]
  have there := find?_merge d e name
  -- The section may be new to each of the documents or be there already.
  cases he : e.find? name with
  | some t =>
      rw [addSection_of_found he]
      cases hd : d.find? name with
      | some s => rw [hd] at there; rw [addSection_of_found there]
      | none => rw [hd, he] at there; rw [addSection_of_found there]
  | none =>
      rw [addSection_of_absent he] at reopened ⊢
      rw [merge]
      simp only [reopened, List.filter_append]
      cases hd : d.find? name with
      | some s =>
          rw [hd] at there
          rw [addSection_of_found there]
          simp [merge, hd]
      | none =>
          rw [hd, he] at there
          rw [addSection_of_absent there]
          simp [merge, hd]

theorem merge_modify {d e : Document} {name : Text} {t : Section} {f : Section → Section}
    (found : e.find? name = some t) (keep : ∀ s, (f s).name = s.name)
    (commute : ∀ s : Section, s.merge (f t) = f (s.merge t)) :
    d.merge (e.modify name f) = (d.merge e).modify name f := by
  have reopened (s : Section) : ((e.modify name f).find? s.name).elim s s.merge =
      if s.name = name then f ((e.find? s.name).elim s s.merge)
        else (e.find? s.name).elim s s.merge := by
    rw [find?_modify e keep]
    split
    · next h => simp [h, found, name_of_find? found, commute]
    · next h =>
        cases hs : e.find? s.name with
        | none => rfl
        | some u => simp [name_of_find? hs, h]
  have names (s : Section) : (if s.name = name then f s else s).name = s.name := by
    split <;> simp [keep]
  have kept (s : Section) : ((e.find? s.name).elim s s.merge).name = s.name := by
    cases e.find? s.name <;> rfl
  rw [merge]
  simp only [reopened]
  simp only [merge, modify, List.map_append, List.map_map, List.filter_map, Function.comp_def,
    names, kept]

end Document

namespace Reader

def onto (d : Document) (r : Reader) : Reader :=
  { r with document := d.merge r.document }

theorem perform_onto (d : Document) {r : Reader} (h : r.Anchored) (number : Nat) (raw : Text) :
    (r.onto d).perform number (r.place.action raw) =
      (r.perform number (r.place.action raw)).map (.onto d) := by
  cases act : r.place.action raw with
  | closeOption | pass | refuse fault => rfl
  | openSection name =>
      simp only [perform, onto, ← Document.merge_addSection]
      rfl
  | extend sec key line =>
      obtain ⟨t, found, present⟩ := h _ _ (Place.eq_of_action_extend act)
      obtain ⟨value, hv⟩ := present key rfl
      have changed := Document.merge_modify (d := d) found (f := (·.continueOption key line))
        (by simp) fun s => s.merge_continueOption hv line
      simp only [perform, onto, ← changed]
      rfl
  | set sec key value =>
      obtain ⟨openKey, place⟩ := Place.eq_of_action_set act
      obtain ⟨t, found, -⟩ := h _ _ place
      have changed := Document.merge_modify (d := d) found (f := (·.set key ⟨value, number⟩))
        (by simp) fun s => s.merge_set t key ⟨value, number⟩
      simp only [perform, onto, ← changed]
      rfl

theorem readLines_onto (d : Document) {r : Reader} (h : r.Anchored) (number : Nat)
    (ls : List Text) :
    (r.onto d).readLines number ls = (r.readLines number ls).map (.onto d) := by
  induction ls generalizing r number with
  | nil => rfl
  | cons raw ls ih =>
      have same : (r.onto d).place = r.place := rfl
      rw [readLines_cons, readLines_cons, same, perform_onto d h, ← step_eq_perform]
      cases hs : r.step number raw with
      | error e => rfl
      | ok next => exact ih (anchored_step h hs) (number + 1)

theorem step_header (r : Reader) (number : Nat) (rest : Text) (p : Place) :
    r.step number ('[' :: rest) = { r with place := p }.step number ('[' :: rest) := by
  rw [step_eq_perform, step_eq_perform, Place.action_header, Place.action_header]
  cases headerName? (Text.trimEnd rest) <;> rfl

/-- A header is read alike at every place, so the lines from a header on are. -/
theorem readLines_at_header {b : Text} (header : b.head? = some '[') (r : Reader) (p : Place)
    (number : Nat) :
    r.readLines number (Text.lines b) = { r with place := p }.readLines number (Text.lines b) := by
  obtain ⟨s, rfl⟩ : ∃ s, b = '[' :: s := by
    cases b with
    | nil => cases header
    | cons c s => exact ⟨s, by rw [Option.some.inj header]⟩
  obtain ⟨l, ls, first⟩ : ∃ l ls, Text.lines ('[' :: s) = ('[' :: l) :: ls := by
    rw [Text.lines_cons_of_ne (by decide)]
    cases Text.lines s with
    | nil => exact ⟨_, _, rfl⟩
    | cons line rest => exact ⟨_, _, rfl⟩
  rw [first, readLines, readLines, step_header r _ _ p]

theorem readLines_from_header {b : Text} (header : b.head? = some '[') (n : Nat) (r : Reader) :
    r.readLines (1 + n) (Text.lines b) =
      ((({} : Reader).readLines 1 (Text.lines b)).map fun s =>
        (s.renumber (n + ·)).onto r.document).mapError (.renumber (n + ·)) := by
  -- Whatever the place, reading may as well start anew.
  have forget : r.readLines (1 + n) (Text.lines b) =
      (({} : Reader).onto r.document).readLines (1 + n) (Text.lines b) := by
    rw [readLines_at_header header r .outside, onto, Document.merge_start]
  have later : ({} : Reader).readLines (1 + n) (Text.lines b) =
      ((({} : Reader).readLines 1 (Text.lines b)).map (.renumber (n + ·))).mapError
        (.renumber (n + ·)) :=
    readLines_renumber (fun i _ => by omega) {}
  rw [forget, readLines_onto r.document anchored_start, later]
  cases ({} : Reader).readLines 1 (Text.lines b) <;> rfl

end Reader

namespace Document

/-- Reading two files one after the other is reading both and merging what they
hold, where the second begins with a header. An error of the first file is that
of both; an error of the second stands as many lines later as the first has. -/
theorem ofText_append {a b : Text} (whole : a = [] ∨ a.getLast? = some '\n')
    (header : b.head? = some '[') :
    (∀ error, ofText a = .error error → ofText (a ++ b) = .error error) ∧
    (∀ d error, ofText a = .ok d → ofText b = .error error →
      ∃ line fault, error = .malformed line fault ∧
        ofText (a ++ b) = .error (.malformed ((Text.lines a).length + line) fault)) ∧
    (∀ d e, ofText a = .ok d → ofText b = .ok e →
      ofText (a ++ b) = .ok (d.merge (e.renumber ((Text.lines a).length + ·)))) := by
  have both : ofText (a ++ b) = (({} : Reader).readLines 1 (Text.lines a) |>.bind fun r =>
      r.readLines (1 + (Text.lines a).length) (Text.lines b)).map (·.document) := by
    rw [ofText, Text.lines_append whole, Reader.readLines_append]
  simp only [Reader.readLines_from_header header] at both
  rw [both, ofText, ofText]
  cases ha : ({} : Reader).readLines 1 (Text.lines a) with
  | error error => simp [Except.map, Except.bind]
  | ok r =>
      cases hb : ({} : Reader).readLines 1 (Text.lines b) with
      | error error =>
          obtain ⟨i, -, fault, rfl⟩ := Reader.readLines_error hb
          simp [Except.map, Except.bind, Except.mapError, Error.renumber]
      | ok s => simp [Except.map, Except.bind, Except.mapError, Reader.onto, Reader.renumber]

theorem ofText_append_reopened :
    let a := "[x]\nk = 1\n".toList
    let b := "[x]\nK : 2\n".toList
    a.getLast? = some '\n' ∧ b.head? = some '[' ∧
      (ofText (a ++ b)).map (·.raw? "x".toList "k".toList) = .ok (some ⟨"2".toList, 4⟩) := by
  intro a b
  let k := "k".toList
  have whole : a.getLast? = some '\n' := by decide
  have header : b.head? = some '[' := by decide
  have first : ofText a = .ok ⟨[⟨['x'], 1, SortedTable.empty.insert k ⟨['1'], 2⟩⟩]⟩ := by decide
  have second : ofText b = .ok ⟨[⟨['x'], 1, SortedTable.empty.insert k ⟨['2'], 2⟩⟩]⟩ := by decide
  obtain ⟨-, -, both⟩ := ofText_append (.inr whole) header
  refine ⟨whole, header, ?_⟩
  rw [both _ _ first second]
  decide

end Document
end ColorScheme
