import ColorScheme.Proofs.LineActions
import ColorScheme.Proofs.Tables

/-!
Other line numbers change nothing but the line numbers: reading the same lines
with other numbers gives the same document, or the same fault, with the numbers
that stand for the old ones.
-/

namespace ColorScheme

def Error.renumber (f : Nat → Nat) : Error → Error
  | .malformed line fault => .malformed (f line) fault
  | e => e

def RawValue.renumber (f : Nat → Nat) (value : RawValue) : RawValue :=
  { value with line := f value.line }

namespace Section

def renumber (f : Nat → Nat) (s : Section) : Section :=
  { s with line := f s.line, options := s.options.map (.renumber f) }

variable (f : Nat → Nat)

theorem renumber_set (s : Section) (key : Text) (value : RawValue) :
    (s.set key value).renumber f = (s.renumber f).set key (value.renumber f) := by
  simp only [renumber, set, SortedTable.map_insert]

theorem renumber_continueOption (s : Section) (key line : Text) :
    (s.continueOption key line).renumber f = (s.renumber f).continueOption key line := by
  have found : (s.renumber f).options.get? key = (s.options.get? key).map (.renumber f) :=
    SortedTable.get?_map ..
  cases h : s.options.get? key with
  | none => simp only [continueOption, h, found, Option.map_none]
  | some value =>
      rw [h, Option.map_some] at found
      rw [continueOption_eq h, continueOption_eq found, renumber_set]
      rfl

end Section

namespace Document

def renumber (f : Nat → Nat) (d : Document) : Document :=
  ⟨d.sections.map (.renumber f)⟩

variable (f : Nat → Nat)

theorem find?_renumber (d : Document) (name : Text) :
    (d.renumber f).find? name = (d.find? name).map (.renumber f) :=
  find?_map d (f := Section.renumber f) (fun _ => rfl) name

theorem renumber_addSection (d : Document) (name : Text) (line : Nat) :
    (d.addSection name line).renumber f = (d.renumber f).addSection name (f line) := by
  rw [addSection, addSection, find?_renumber]
  cases d.find? name with
  | some s => rfl
  | none => simp [renumber, Section.renumber, SortedTable.map, SortedTable.empty]

theorem renumber_modify (d : Document) (name : Text) (g h : Section → Section)
    (commute : ∀ s, (g s).renumber f = h (s.renumber f)) :
    (d.modify name g).renumber f = (d.renumber f).modify name h := by
  simp only [renumber, modify, List.map_map]
  congr 2
  funext s
  simp only [Function.comp_apply, apply_ite (Section.renumber f), commute]
  rfl

end Document

namespace Reader

def renumber (f : Nat → Nat) (r : Reader) : Reader :=
  { r with document := r.document.renumber f }

variable (f : Nat → Nat)

theorem perform_renumber (r : Reader) (number : Nat) (act : LineAction) :
    (r.renumber f).perform (f number) act =
      ((r.perform number act).map (.renumber f)).mapError (.renumber f) := by
  cases act with
  | closeOption | pass | refuse fault => rfl
  | openSection name =>
      simp only [perform, renumber, ← Document.renumber_addSection]
      rfl
  | extend sec key line =>
      have changed := r.document.renumber_modify f sec (·.continueOption key line)
        (·.continueOption key line) fun s => s.renumber_continueOption f key line
      simp only [perform, renumber, ← changed]
      rfl
  | set sec key value =>
      have changed := r.document.renumber_modify f sec (·.set key ⟨value, number⟩)
        (·.set key ⟨value, f number⟩) fun s => s.renumber_set f key ⟨value, number⟩
      simp only [perform, renumber, ← changed]
      rfl

theorem readLines_renumber {f : Nat → Nat} {ls : List Text} {number start : Nat}
    (consecutive : ∀ i < ls.length, f (number + i) = start + i) (r : Reader) :
    (r.renumber f).readLines start ls =
      ((r.readLines number ls).map (.renumber f)).mapError (.renumber f) := by
  induction ls generalizing r number start with
  | nil => rfl
  | cons raw ls ih =>
      have first : start = f number := (consecutive 0 (by simp)).symm
      have rest : ∀ i < ls.length, f (number + 1 + i) = start + 1 + i := by
        intro i hi
        have := consecutive (i + 1) (by simpa using hi)
        simpa only [Nat.add_assoc, Nat.add_comm 1] using this
      have same : (r.renumber f).place = r.place := rfl
      rw [readLines_cons, readLines_cons, same, first, perform_renumber]
      cases r.perform number (r.place.action raw) with
      | error e => rfl
      | ok next => exact first ▸ ih rest next

end Reader
end ColorScheme
