import ColorScheme.Document.Reader
import ColorScheme.Proofs.Blanks
import ColorScheme.Proofs.Documents

/-!
Reading a line in two parts: what a line asks for, which its place decides
without a look at the document, and the change that this makes. A run keeps the
section of the next line and its open option within the document, and stops
with an error that names the line it has come to.
-/

namespace ColorScheme

theorem Text.after?_eq_none {c : Char} {s : Text} (h : s.head? ≠ some c) :
    Text.after? [c] s = none := by
  cases s with
  | nil => rfl
  | cons d s =>
      have other : c ≠ d := fun e => h (congrArg some e.symm)
      simp [Text.after?, other]

/-- What a line asks for. -/
inductive LineAction where
  | closeOption
  | pass
  | extend (sec key line : Text)
  | openSection (name : Text)
  | set (sec key value : Text)
  | refuse (fault : LineFault)

namespace Place

def entry (p : Place) (text : Text) : LineAction :=
  match Text.after? ['['] text with
  | some rest =>
      match headerName? rest with
      | some name => .openSection name
      | none => .refuse (.badHeader text)
  | none =>
      match p with
      | .outside => .refuse .optionOutsideSection
      | .inside sec _ =>
          match optionOfText? text with
          | some (key, value) => .set sec key value
          | none => .refuse (.notAnOption text)

def action (p : Place) (raw : Text) : LineAction :=
  match Line.ofText raw with
  | .blank => .closeOption
  | .comment => .pass
  | .content indented text =>
      match indented, p with
      | true, .inside sec (some key) => .extend sec key text
      | _, p => p.entry text

theorem action_header (p : Place) (rest : Text) :
    p.action ('[' :: rest) = match headerName? (Text.trimEnd rest) with
      | some name => .openSection name
      | none => .refuse (.badHeader ('[' :: Text.trimEnd rest)) := by
  have line : Line.ofText ('[' :: rest) = .content false ('[' :: Text.trimEnd rest) := by
    rw [Line.ofText, Text.trim_cons_of_not_blank (by decide)]
    rfl
  have inside : Text.after? ['['] ('[' :: Text.trimEnd rest) = some (Text.trimEnd rest) := rfl
  rw [action, line]
  dsimp only
  rw [entry.eq_def, inside]

theorem eq_of_action_extend {p : Place} {raw sec key line : Text}
    (h : p.action raw = .extend sec key line) : p = .inside sec (some key) := by
  rw [action] at h
  have entry_ne (text : Text) : p.entry text ≠ .extend sec key line := by
    rw [entry.eq_def]
    split
    · split <;> simp
    · split
      · simp
      · split <;> simp
  split at h
  · cases h
  · cases h
  · split at h
    · cases h; rfl
    · exact absurd h (entry_ne _)

theorem eq_of_action_set {p : Place} {raw sec key value : Text}
    (h : p.action raw = .set sec key value) : ∃ openKey, p = .inside sec openKey := by
  have eq_of_entry {text : Text} (h : p.entry text = .set sec key value) :
      ∃ openKey, p = .inside sec openKey := by
    rw [entry.eq_def] at h
    split at h
    · split at h <;> cases h
    · split at h
      · cases h
      · split at h <;> cases h
        exact ⟨_, rfl⟩
  rw [action] at h
  split at h
  · cases h
  · cases h
  · split at h
    · cases h
    · exact eq_of_entry h

end Place

namespace Reader

def perform (r : Reader) (number : Nat) : LineAction → Except Error Reader
  | .closeOption => .ok { r with place := r.place.closeOption }
  | .pass => .ok r
  | .extend sec key line =>
      .ok { r with document := r.document.modify sec (·.continueOption key line) }
  | .openSection name => .ok ⟨r.document.addSection name number, .inside name none⟩
  | .set sec key value =>
      .ok ⟨r.document.modify sec (·.set key ⟨value, number⟩), .inside sec (some key)⟩
  | .refuse fault => .error (.malformed number fault)

theorem enter_eq_perform (r : Reader) (number : Nat) (text : Text) :
    r.enter number text = r.perform number (r.place.entry text) := by
  obtain ⟨document, place⟩ := r
  rw [enter.eq_def]
  split
  · next rest =>
      have header : Text.after? ['['] ('[' :: rest) = some rest := rfl
      rw [Place.entry.eq_def, header]
      dsimp only
      cases headerName? rest <;> rfl
  · next _ other =>
      have option : Text.after? ['['] text = none := by
        refine Text.after?_eq_none fun h => ?_
        obtain ⟨rest, rfl⟩ := List.head?_eq_some_iff.mp h
        exact other rest rfl
      rw [Place.entry.eq_def, option]
      cases place with
      | outside => rfl
      | inside sec openKey =>
          dsimp only
          cases optionOfText? text <;> rfl

theorem step_eq_perform (r : Reader) (number : Nat) (raw : Text) :
    r.step number raw = r.perform number (r.place.action raw) := by
  obtain ⟨document, place⟩ := r
  rw [step, Place.action]
  cases Line.ofText raw with
  | blank | comment => rfl
  | content indented text =>
      have enter := enter_eq_perform ⟨document, place⟩ number text
      cases indented with
      | false => exact enter
      | true =>
          cases place with
          | outside => exact enter
          | inside sec openKey =>
              cases openKey with
              | none => exact enter
              | some key => rfl

/-- The section of the next line is in the document, and so is an option that
stands open in it. -/
def Anchored (r : Reader) : Prop :=
  ∀ sec openKey, r.place = .inside sec openKey → ∃ s, r.document.find? sec = some s ∧
    ∀ key, openKey = some key → ∃ value, s.options.get? key = some value

theorem anchored_start : ({} : Reader).Anchored := by
  intro sec openKey h
  cases h

theorem anchored_step {r next : Reader} {number : Nat} {raw : Text} (h : r.Anchored)
    (ok : r.step number raw = .ok next) : next.Anchored := by
  rw [step_eq_perform] at ok
  cases act : r.place.action raw with
  | closeOption =>
      rw [act] at ok
      cases ok
      intro sec openKey stands
      cases hp : r.place with
      | outside => rw [hp] at stands; cases stands
      | inside sec' openKey' =>
          rw [hp] at stands
          cases stands
          obtain ⟨s, found, -⟩ := h _ _ hp
          exact ⟨s, found, by simp⟩
  | pass => rw [act] at ok; cases ok; exact h
  | extend sec key line =>
      rw [act] at ok
      cases ok
      have place := Place.eq_of_action_extend act
      obtain ⟨s, found, present⟩ := h _ _ place
      obtain ⟨value, hv⟩ := present key rfl
      intro sec' openKey stands
      cases place.symm.trans stands
      refine ⟨_, Document.find?_modify_self (by simp) found, ?_⟩
      rintro _ ⟨⟩
      exact ⟨_, by rw [Section.continueOption_eq hv, Section.options_set, if_pos rfl]⟩
  | openSection name =>
      rw [act] at ok
      cases ok
      rintro _ _ ⟨⟩
      rw [Document.find?_addSection, if_pos rfl]
      cases r.document.find? name with
      | none => exact ⟨_, rfl, by simp⟩
      | some s => exact ⟨s, rfl, by simp⟩
  | set sec key value =>
      rw [act] at ok
      cases ok
      obtain ⟨openKey, place⟩ := Place.eq_of_action_set act
      obtain ⟨s, found, -⟩ := h _ _ place
      rintro _ _ ⟨⟩
      refine ⟨_, Document.find?_modify_self (by simp) found, ?_⟩
      rintro _ ⟨⟩
      exact ⟨_, by rw [Section.options_set, if_pos rfl]⟩
  | refuse fault => rw [act] at ok; cases ok

theorem readLines_cons (r : Reader) (number : Nat) (raw : Text) (ls : List Text) :
    r.readLines number (raw :: ls) = (r.perform number (r.place.action raw)).bind fun next =>
      next.readLines (number + 1) ls := by
  rw [readLines, step_eq_perform]
  cases r.perform number (r.place.action raw) <;> rfl

theorem readLines_append (r : Reader) (number : Nat) (ls ms : List Text) :
    r.readLines number (ls ++ ms) =
      (r.readLines number ls).bind fun next => next.readLines (number + ls.length) ms := by
  induction ls generalizing r number with
  | nil => rfl
  | cons raw ls ih =>
      rw [List.cons_append, readLines_cons, readLines_cons]
      cases r.perform number (r.place.action raw) with
      | error e => rfl
      | ok next =>
          change next.readLines (number + 1) (ls ++ ms) = _
          rw [ih, List.length_cons, Nat.add_right_comm, Nat.add_assoc]
          rfl

theorem readLines_append_eq_ok_iff {r last : Reader} {number : Nat} {ls ms : List Text} :
    r.readLines number (ls ++ ms) = .ok last ↔ ∃ next, r.readLines number ls = .ok next ∧
      next.readLines (number + ls.length) ms = .ok last := by
  rw [readLines_append]
  cases r.readLines number ls <;> simp [Except.bind]

theorem readLines_append_of_error {r : Reader} {number : Nat} {ls : List Text} {e : Error}
    (failed : r.readLines number ls = .error e) (ms : List Text) :
    r.readLines number (ls ++ ms) = .error e := by
  rw [readLines_append, failed]
  rfl

/-- What every step keeps, a run over the same lines keeps. -/
theorem readLines_keeps {P : Reader → Prop} {ls : List Text}
    (step_keeps : ∀ raw ∈ ls, ∀ {r next : Reader} {number : Nat}, P r →
      r.step number raw = .ok next → P next)
    {r next : Reader} {number : Nat} (h : P r) (ok : r.readLines number ls = .ok next) :
    P next := by
  induction ls generalizing r number with
  | nil => cases ok; exact h
  | cons raw ls ih =>
      rw [readLines] at ok
      cases first : r.step number raw with
      | error e => rw [first] at ok; cases ok
      | ok after =>
          rw [first] at ok
          have kept := step_keeps raw (by simp) h first
          exact ih (fun raw hraw => step_keeps raw (by simp [hraw])) kept ok

/-- Readers that look alike after every step look alike after a run over the same
lines. -/
theorem readLines_alike_of_step {α : Type} {view : Reader → α}
    (step_alike : ∀ {r q : Reader} (number : Nat) (raw : Text), view r = view q →
      (r.perform number (r.place.action raw)).map view =
        (q.perform number (q.place.action raw)).map view)
    {r q : Reader} (alike : view r = view q) (number : Nat) (ls : List Text) :
    (r.readLines number ls).map view = (q.readLines number ls).map view := by
  induction ls generalizing r q number with
  | nil => exact congrArg Except.ok alike
  | cons raw ls ih =>
      have step := step_alike number raw alike
      rw [readLines_cons, readLines_cons]
      cases hr : r.perform number (r.place.action raw) with
      | error e =>
          cases hq : q.perform number (q.place.action raw) with
          | error e' => rw [hr, hq] at step; cases step; rfl
          | ok after => rw [hr, hq] at step; cases step
      | ok after =>
          cases hq : q.perform number (q.place.action raw) with
          | error e => rw [hr, hq] at step; cases step
          | ok after' =>
              rw [hr, hq] at step
              exact ih (Except.ok.inj step) (number + 1)

/-- Reading stops at a line that is refused, when all lines above it have been taken. -/
theorem readLines_refused {r : Reader} {number : Nat} {ls : List Text} {e : Error}
    (failed : r.readLines number ls = .error e) :
    ∃ before raw after next fault, ls = before ++ raw :: after ∧
      r.readLines number before = .ok next ∧ next.place.action raw = .refuse fault ∧
      e = .malformed (number + before.length) fault := by
  induction ls generalizing r number with
  | nil => cases failed
  | cons raw ls ih =>
      rw [readLines_cons] at failed
      cases first : r.perform number (r.place.action raw) with
      | error e' =>
          rw [first] at failed
          cases failed
          cases act : r.place.action raw with
          | refuse fault =>
              rw [act] at first
              cases first
              exact ⟨[], raw, ls, r, fault, rfl, rfl, act, rfl⟩
          | closeOption | pass | extend | openSection | set => rw [act] at first; cases first
      | ok after =>
          rw [first] at failed
          obtain ⟨before, line, rest, next, fault, rfl, taken, refused, rfl⟩ := ih failed
          refine ⟨raw :: before, line, rest, next, fault, rfl, ?_, refused, ?_⟩
          · rw [readLines_cons, first]
            exact taken
          · rw [List.length_cons, Nat.add_assoc, Nat.add_comm 1]

/-- An error names the line that reading has come to. -/
theorem readLines_error {r : Reader} {number : Nat} {ls : List Text} {e : Error}
    (h : r.readLines number ls = .error e) :
    ∃ i < ls.length, ∃ fault, e = .malformed (number + i) fault := by
  obtain ⟨before, raw, after, -, fault, rfl, -, -, rfl⟩ := readLines_refused h
  exact ⟨before.length, by simp, fault, rfl⟩

end Reader

theorem Document.ofText_eq_ok_iff {text : Text} {d : Document} : ofText text = .ok d ↔
    ∃ last, ({} : Reader).readLines 1 (Text.lines text) = .ok last ∧ last.document = d := by
  rw [ofText]
  cases ({} : Reader).readLines 1 (Text.lines text) <;> simp [Except.map]

theorem Document.ofText_eq_error_iff {text : Text} {e : Error} :
    ofText text = .error e ↔ ({} : Reader).readLines 1 (Text.lines text) = .error e := by
  rw [ofText]
  cases ({} : Reader).readLines 1 (Text.lines text) <;> simp [Except.map]

end ColorScheme
