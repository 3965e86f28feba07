import ColorScheme.Definition
import ColorScheme.Proofs.HeaderNames
import ColorScheme.Proofs.SectionStyles

/-!
Leaving out an option. A run of the reader does the same to a document that lacks one
of its options, up to that option; and if no other option refers to it and no style
is described by it, the document describes the same scheme without it, or has the same
fault.
-/

namespace ColorScheme

/-! ### Reading -/

def Section.erase (s : Section) (key : Text) : Section :=
  { s with options := s.options.erase key }

/-- The document without an option of a section. -/
def Document.erase (d : Document) (sec key : Text) : Document :=
  d.modify sec (·.erase key)

def Reader.erase (r : Reader) (sec key : Text) : Reader :=
  { r with document := r.document.erase sec key }

namespace Section

variable (s : Section) (key : Text)

@[simp] theorem name_erase : (s.erase key).name = s.name := rfl

theorem options_erase (other : Text) : (s.erase key).options.get? other =
    if other = key then none else s.options.get? other :=
  SortedTable.get?_erase ..

theorem eq_of_options {s t : Section} (name : s.name = t.name) (line : s.line = t.line)
    (options : ∀ key, s.options.get? key = t.options.get? key) : s = t := by
  obtain ⟨_, _, _⟩ := s
  obtain ⟨_, _, _⟩ := t
  cases name
  cases line
  exact congrArg _ (SortedTable.ext_get? options)

theorem erase_erase : (s.erase key).erase key = s.erase key := by
  refine eq_of_options rfl rfl fun other => ?_
  rw [options_erase, options_erase]
  split <;> rfl

theorem erase_set_self (value : RawValue) : (s.set key value).erase key = s.erase key := by
  refine eq_of_options rfl rfl fun k => ?_
  simp only [options_erase, options_set]
  split <;> rfl

theorem erase_set (other : Text) (value : RawValue) :
    (s.set other value).erase key = ((s.erase key).set other value).erase key := by
  refine eq_of_options rfl rfl fun k => ?_
  simp only [options_erase, options_set]
  split <;> rfl

/-- What an option that is left out is continued with is left out too. -/
theorem erase_continueOption (other line : Text) :
    (s.continueOption other line).erase key =
      ((s.erase key).continueOption other line).erase key := by
  have there := s.options_erase key other
  cases found : s.options.get? other with
  | none =>
      have absent : (s.erase key).options.get? other = none := by simp [there, found]
      rw [continueOption, continueOption, found, absent, erase_erase]
  | some value =>
      by_cases same : other = key
      · have absent : (s.erase key).options.get? other = none := by rw [there, if_pos same]
        rw [continueOption_eq found, continueOption, absent, erase_erase, same, erase_set_self]
      · have kept : (s.erase key).options.get? other = some value := by simp [there, same, found]
        rw [continueOption_eq found, continueOption_eq kept, erase_set]

end Section

namespace Document

variable (d : Document) (sec key : Text)

theorem find?_erase (name : Text) : (d.erase sec key).find? name =
    (d.find? name).map fun s => if s.name = sec then s.erase key else s :=
  d.find?_modify (fun s => s.name_erase key) sec name

theorem erase_modify {f : Section → Section} (keep : ∀ s, (f s).name = s.name)
    (after : ∀ s, (f s).erase key = (f (s.erase key)).erase key) (name : Text) :
    (d.modify name f).erase sec key = ((d.erase sec key).modify name f).erase sec key := by
  simp only [erase, modify, List.map_map]
  congr 2
  funext s
  simp only [Function.comp_apply]
  by_cases hn : s.name = name
  · subst hn
    by_cases hs : s.name = sec
    · subst hs
      simp [keep, after s]
    · simp [keep, hs]
  · by_cases hs : s.name = sec
    · simp [hs, Section.erase_erase, show sec ≠ name from hs ▸ hn]
    · simp [hn, hs]

theorem erase_erase : (d.erase sec key).erase sec key = d.erase sec key := by
  simp only [erase, modify, List.map_map]
  congr 2
  funext s
  by_cases h : s.name = sec <;> simp [h, Section.erase_erase]

theorem erase_modify_set (value : RawValue) :
    (d.modify sec (·.set key value)).erase sec key = d.erase sec key := by
  simp only [erase, modify, List.map_map]
  congr 2
  funext s
  by_cases h : s.name = sec <;> simp [h, Section.erase_set_self]

theorem erase_addSection (name : Text) (line : Nat) : (d.addSection name line).erase sec key =
    ((d.erase sec key).addSection name line).erase sec key := by
  have there := d.find?_erase sec key name
  cases found : d.find? name with
  | some s =>
      rw [found, Option.map_some] at there
      rw [addSection_of_found found, addSection_of_found there, erase_erase]
  | none =>
      rw [found, Option.map_none] at there
      rw [addSection_of_absent found, addSection_of_absent there]
      have again := d.erase_erase sec key
      simp only [erase, modify, List.map_append, mk.injEq] at again ⊢
      rw [again]

end Document

namespace Reader

variable (sec key : Text)

/-- A line does the same to a reader without the option, but for the option. -/
theorem perform_erase (r : Reader) (number : Nat) (act : LineAction) :
    (r.perform number act).map (·.erase sec key) =
      ((r.erase sec key).perform number act).map (·.erase sec key) := by
  cases act with
  | closeOption | pass =>
      change Except.ok (Reader.mk _ _) = Except.ok (Reader.mk _ _)
      rw [← Document.erase_erase]
      rfl
  | refuse fault => rfl
  | openSection name =>
      change Except.ok (Reader.mk _ _) = Except.ok (Reader.mk _ _)
      rw [Document.erase_addSection]
      rfl
  | extend other k line =>
      have changed := r.document.erase_modify sec key (f := (·.continueOption k line))
        (by simp) (fun s => s.erase_continueOption key k line) other
      change Except.ok (Reader.mk _ _) = Except.ok (Reader.mk _ _)
      rw [changed]
      rfl
  | set other k value =>
      have changed := r.document.erase_modify sec key (f := (·.set k ⟨value, number⟩))
        (by simp) (fun s => s.erase_set key k ⟨value, number⟩) other
      change Except.ok (Reader.mk _ _) = Except.ok (Reader.mk _ _)
      rw [changed]
      rfl

/-- Readers that differ in the option only go on to do so. -/
theorem readLines_erase {sec key : Text} {r q : Reader}
    (alike : r.erase sec key = q.erase sec key) (number : Nat) (ls : List Text) :
    (r.readLines number ls).map (·.erase sec key) =
      (q.readLines number ls).map (·.erase sec key) := by
  refine readLines_alike_of_step (fun {r q} number raw alike => ?_) alike number ls
  have place : (r.erase sec key).place = (q.erase sec key).place := by rw [alike]
  change r.place = q.place at place
  rw [perform_erase, perform_erase sec key q, alike, place]

end Reader

/-! ### Values -/

/-- The option that a reference within `sec` leads to. -/
def Piece.option? (sec : Text) : Piece → Option (Text × Text)
  | .reference written =>
      some ((referenceTarget sec written).1, Text.lowercase (referenceTarget sec written).2)
  | _ => none

namespace Document

/-- No option refers to this one, unless it does so itself. -/
def Unreferred (d : Document) (sec key : Text) : Prop :=
  ∀ s ∈ d.sections, ∀ e ∈ s.options.entries, (s.name, e.1) ≠ (sec, key) →
    ∀ piece ∈ Piece.ofText e.2.text, piece.option? s.name ≠ some (sec, key)

instance (d : Document) (sec key : Text) : Decidable (d.Unreferred sec key) :=
  inferInstanceAs (Decidable (∀ s ∈ d.sections, ∀ e ∈ s.options.entries, (s.name, e.1) ≠ (sec, key) →
    ∀ piece ∈ Piece.ofText e.2.text, piece.option? s.name ≠ some (sec, key)))

variable {d : Document} {sec key other k : Text}

theorem Unreferred.apart (unreferred : d.Unreferred sec key) {raw : RawValue}
    (found : d.raw? other k = some raw) (apart : (other, Text.lowercase k) ≠ (sec, key))
    {written : Text} (there : .reference written ∈ Piece.ofText raw.text) :
    ((referenceTarget other written).1, Text.lowercase (referenceTarget other written).2) ≠
      (sec, key) := by
  obtain ⟨s, hs, option⟩ := Option.bind_eq_some_iff.mp found
  have entry := SortedTable.mem_entries_iff.mpr option
  obtain rfl := name_of_find? hs
  have other := unreferred s (List.mem_of_find?_eq_some hs) _ entry apart _ there
  exact fun same => other (congrArg some same)

/-- Whether an option is referred to does not depend on what it holds itself. -/
theorem unreferred_erase_iff : (d.erase sec key).Unreferred sec key ↔ d.Unreferred sec key := by
  have name (s : Section) : (if s.name = sec then s.erase key else s).name = s.name := by
    split <;> rfl
  have entries (s : Section) (e : Text × RawValue) (apart : (s.name, e.1) ≠ (sec, key)) :
      e ∈ (if s.name = sec then s.erase key else s).options.entries ↔ e ∈ s.options.entries := by
    split
    · next same =>
        have other : e.1 ≠ key := fun k => apart (Prod.ext same k)
        exact (List.mem_filter.trans (and_iff_left (by simpa using other)))
    · rfl
  have sections : (d.erase sec key).sections =
      d.sections.map fun s => if s.name = sec then s.erase key else s := rfl
  rw [Unreferred, Unreferred, sections, List.forall_mem_map]
  refine forall₂_congr fun s _ => forall_congr' fun e => ?_
  rw [name]
  constructor
  · exact fun h there apart => h ((entries s e apart).mpr there) apart
  · exact fun h there apart => h ((entries s e apart).mp there) apart

theorem raw?_erase (apart : (other, Text.lowercase k) ≠ (sec, key)) :
    (d.erase sec key).raw? other k = d.raw? other k := by
  rw [raw?, raw?, find?_erase]
  cases found : d.find? other with
  | none => rfl
  | some s =>
      obtain rfl := name_of_find? found
      simp only [Option.map_some, Option.bind_some]
      split
      · next same =>
          have other : Text.lowercase k ≠ key := fun e => apart (Prod.ext same e)
          rw [Section.get?, Section.options_erase, if_neg other]
          rfl
      · rfl

theorem expand_erase (unreferred : d.Unreferred sec key) (levels : Nat) {raw : RawValue}
    (apart : (other, Text.lowercase k) ≠ (sec, key)) (found : d.raw? other k = some raw) :
    (d.erase sec key).expand levels other raw = d.expand levels other raw := by
  induction levels generalizing other k raw with
  | zero => rfl
  | succ levels ih =>
      rw [expand_succ, expand_succ, restValue, restValue]
      congr 1
      refine mapM_congr_left fun piece there => ?_
      cases piece with
      | literal | stray | unterminated => rfl
      | reference written =>
          have target := unreferred.apart found apart there
          simp only [pieceValue]
          rw [raw?_erase target]
          cases found : d.raw? (referenceTarget other written).1
              (referenceTarget other written).2 with
          | none => rfl
          | some raw => exact ih target found

theorem value_erase (unreferred : d.Unreferred sec key)
    (apart : (other, Text.lowercase k) ≠ (sec, key)) :
    (d.erase sec key).value other k = d.value other k := by
  rw [value, value, raw?_erase apart]
  cases found : d.raw? other k with
  | none => rfl
  | some raw => exact congrArg (Except.map some) (expand_erase unreferred _ apart found)

theorem flag_erase (unreferred : d.Unreferred sec key)
    (apart : (other, Text.lowercase k) ≠ (sec, key)) :
    (d.erase sec key).flag other k = d.flag other k := by
  rw [flag, flag, raw?_erase apart]
  cases found : d.raw? other k with
  | none => rfl
  | some raw =>
      dsimp only
      rw [expand_erase unreferred _ apart found]

end Document

namespace Definition

/-- The keys of the options that describe a style. -/
def styleKeys : List Text :=
  ["color", "bgcolor", "background", "border", "bold", "italic", "underline", "inherit"].map
    String.toList

variable {d : Document} {sec key : Text}

theorem readStyle_erase (unreferred : d.Unreferred sec key) {other : Text}
    (apart : ∀ k ∈ styleKeys, (other, k) ≠ (sec, key)) :
    readStyle (d.erase sec key) other = readStyle d other := by
  have lower : ∀ k ∈ styleKeys, Text.lowercase k = k := by decide
  have value (k : Text) (hk : k ∈ styleKeys) :
      (d.erase sec key).value other k = d.value other k :=
    Document.value_erase unreferred ((lower k hk).symm ▸ apart k hk)
  have flag (k : Text) (hk : k ∈ styleKeys) : (d.erase sec key).flag other k = d.flag other k :=
    Document.flag_erase unreferred ((lower k hk).symm ▸ apart k hk)
  rw [readStyle, readStyle, backgroundLiteral, backgroundLiteral, value _ (by decide),
    value _ (by decide), value _ (by decide), value _ (by decide), flag _ (by decide),
    flag _ (by decide), flag _ (by decide), flag _ (by decide)]

/-- An option that describes no style and that no other refers to can be left out. -/
theorem ofDocument_erase (unused : isReserved sec = true ∨ key ∉ styleKeys)
    (unreferred : d.Unreferred sec key) : ofDocument (d.erase sec key) = ofDocument d := by
  have each (scheme : Scheme) (s : Section) : readSection (d.erase sec key) scheme
      (if s.name = sec then s.erase key else s) = readSection d scheme s := by
    have name : (if s.name = sec then s.erase key else s).name = s.name := by split <;> rfl
    have line : (if s.name = sec then s.erase key else s).line = s.line := by split <;> rfl
    rw [readSection, readSection, sectionToken, sectionToken, name, line]
    cases reserved : isReserved s.name with
    | true => rw [if_pos rfl, if_pos rfl]
    | false =>
        have apart : ∀ k ∈ styleKeys, (s.name, k) ≠ (sec, key) := by
          rintro k hk ⟨⟩
          obtain skipped | absent := unused
          · simp [reserved] at skipped
          · exact absent hk
        rw [readStyle_erase unreferred apart]
  have sections : (d.erase sec key).sections =
      d.sections.map fun s => if s.name = sec then s.erase key else s := rfl
  rw [ofDocument, ofDocument, sections, List.foldlM_map]
  simp only [each]

end Definition
end ColorScheme
