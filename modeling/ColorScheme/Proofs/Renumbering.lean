import ColorScheme.Definition
import ColorScheme.Proofs.Expansion
import ColorScheme.Proofs.LineNumbers

/-!
What the line numbers of a document are for: they reach nothing but the errors. A
document with other numbers describes the same scheme, or has the same fault at the
line that now has the number. So what is read does not depend on where it was read.
-/

namespace ColorScheme

variable (f : Nat → Nat)

namespace Document

theorem raw?_renumber (d : Document) (sec key : Text) :
    (d.renumber f).raw? sec key = (d.raw? sec key).map (.renumber f) := by
  rw [raw?, raw?, find?_renumber]
  cases d.find? sec with
  | none => rfl
  | some s => exact SortedTable.get?_map ..

theorem expand_renumber (d : Document) (levels : Nat) (sec : Text) (raw : RawValue) :
    (d.renumber f).expand levels sec (raw.renumber f) =
      (d.expand levels sec raw).mapError (.renumber f) := by
  induction levels generalizing sec raw with
  | zero => rfl
  | succ levels ih =>
      have piece (p : Piece) : (d.renumber f).pieceValue levels sec (raw.renumber f) p =
          (d.pieceValue levels sec raw p).mapError (.renumber f) := by
        cases p with
        | literal | stray | unterminated => rfl
        | reference written =>
            simp only [pieceValue]
            rw [raw?_renumber]
            cases d.raw? (referenceTarget sec written).1 (referenceTarget sec written).2 with
            | none => rfl
            | some target => exact ih _ target
      rw [expand_succ, expand_succ, restValue, restValue, funext piece, mapError_map,
        mapM_mapError]
      rfl

theorem value_renumber (d : Document) (sec key : Text) :
    (d.renumber f).value sec key = (d.value sec key).mapError (.renumber f) := by
  rw [value, value, raw?_renumber]
  cases d.raw? sec key with
  | none => rfl
  | some raw =>
      dsimp only [Option.map_some]
      rw [expand_renumber, mapError_map]

theorem flag_renumber (d : Document) (sec key : Text) :
    (d.renumber f).flag sec key = (d.flag sec key).mapError (.renumber f) := by
  rw [flag, flag, raw?_renumber]
  cases d.raw? sec key with
  | none => rfl
  | some raw =>
      dsimp only [Option.map_some]
      rw [expand_renumber, mapError_bind]
      congr 1
      funext value
      cases truthValue? value <;> rfl

end Document

namespace Definition

/-- A color that cannot be read is not the fault of a line. -/
theorem normalize_mapError (literal : Option Text) :
    (Color.normalize literal).mapError (.renumber f) = Color.normalize literal := by
  cases literal with
  | none => rfl
  | some s =>
      cases s with
      | nil => rfl
      | cons c s =>
          rw [Color.normalize, Color.parse]
          cases Color.ofLiteral? (c :: s) <;> rfl

theorem backgroundLiteral_renumber (d : Document) (sec : Text) :
    backgroundLiteral (d.renumber f) sec = (backgroundLiteral d sec).mapError (.renumber f) := by
  rw [backgroundLiteral, backgroundLiteral, Document.value_renumber, Document.value_renumber,
    mapError_bind]
  congr 1
  funext literal
  cases literal <;> rfl

theorem readStyle_renumber (d : Document) (sec : Text) :
    readStyle (d.renumber f) sec = (readStyle d sec).mapError (.renumber f) := by
  simp only [readStyle, mapError_bind, normalize_mapError, backgroundLiteral_renumber,
    Document.value_renumber, Document.flag_renumber]
  rfl

theorem sectionToken_renumber (s : Section) :
    sectionToken (s.renumber f) = (sectionToken s).mapError (.renumber f) := by
  have name : (s.renumber f).name = s.name := rfl
  rw [sectionToken, sectionToken, name]
  cases Token.parse s.name <;> rfl

theorem readSection_renumber (d : Document) (scheme : Scheme) (s : Section) :
    readSection (d.renumber f) scheme (s.renumber f) =
      (readSection d scheme s).mapError (.renumber f) := by
  have name : (s.renumber f).name = s.name := rfl
  rw [readSection, readSection, name]
  cases isReserved s.name with
  | true => rw [if_pos rfl, if_pos rfl]; rfl
  | false =>
      simp only [sectionToken_renumber, readStyle_renumber, mapError_bind, Bool.false_eq_true,
        if_false]
      rfl

theorem ofDocument_renumber (d : Document) :
    ofDocument (d.renumber f) = (ofDocument d).mapError (.renumber f) := by
  have sections : (d.renumber f).sections = d.sections.map (.renumber f) := rfl
  rw [ofDocument, ofDocument, sections, List.foldlM_map, foldlM_mapError]
  simp only [readSection_renumber]

end Definition

/-! ### Without numbers -/

/-- The document with one number for all lines. -/
def Document.unnumbered (d : Document) : Document :=
  d.renumber fun _ => 0

def Reader.unnumbered (r : Reader) : Reader :=
  r.renumber fun _ => 0

namespace Document

theorem unnumbered_renumber (d : Document) : (d.renumber f).unnumbered = d.unnumbered := by
  have options (t : SortedTable Text RawValue) :
      (t.map (RawValue.renumber f)).map (RawValue.renumber fun _ => 0) =
        t.map (RawValue.renumber fun _ => 0) :=
    SortedTable.ext (by simp [SortedTable.map, RawValue.renumber])
  simp [unnumbered, renumber, Section.renumber, Function.comp_def, options]

theorem ofDocument_unnumbered_iff {d : Document} {s : Scheme} :
    Definition.ofDocument d.unnumbered = .ok s ↔ Definition.ofDocument d = .ok s := by
  rw [unnumbered, Definition.ofDocument_renumber, mapError_eq_ok_iff]

end Document

namespace Reader

/-- Where a reader has come to has no say in what it takes. -/
theorem perform_unnumbered {r q next : Reader} (alike : r.unnumbered = q.unnumbered) {n : Nat}
    {act : LineAction} (ok : r.perform n act = .ok next) (m : Nat) :
    ∃ other, q.perform m act = .ok other ∧ next.unnumbered = other.unnumbered := by
  have first := r.perform_renumber (fun _ => 0) n act
  have second := q.perform_renumber (fun _ => 0) m act
  change r.unnumbered.perform 0 act = _ at first
  change q.unnumbered.perform 0 act = _ at second
  rw [← alike, first, ok] at second
  cases after : q.perform m act with
  | error e => rw [after] at second; cases second
  | ok other => rw [after] at second; exact ⟨other, rfl, Except.ok.inj second⟩

theorem readLines_unnumbered {r q next : Reader} (alike : r.unnumbered = q.unnumbered) {n : Nat}
    {ls : List Text} (ok : r.readLines n ls = .ok next) (m : Nat) :
    ∃ other, q.readLines m ls = .ok other ∧ next.unnumbered = other.unnumbered := by
  induction ls generalizing r q n m with
  | nil => cases ok; exact ⟨q, rfl, alike⟩
  | cons raw ls ih =>
      have place : r.place = q.place := congrArg (·.place) alike
      rw [readLines_cons] at ok
      cases first : r.perform n (r.place.action raw) with
      | error e => rw [first] at ok; cases ok
      | ok after =>
          rw [first] at ok
          obtain ⟨after', second, alike⟩ := perform_unnumbered alike first m
          rw [readLines_cons, ← place, second]
          exact ih alike ok (m + 1)

end Reader
end ColorScheme
