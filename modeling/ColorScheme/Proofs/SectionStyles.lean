import ColorScheme.Proofs.DefinitionRoundTrip
import ColorScheme.Proofs.Expansion

/-!
What the style of a section depends on: the options of the section and those of the
sections that references lead to, not the names that the sections go by. A document
describes a scheme if each of its sections describes a style, and it is the scheme
with these styles inserted in their order.
-/

namespace ColorScheme

theorem bind_ok_of {α β ε : Type} {x y : Except ε α} {f g : α → Except ε β}
    (first : ∀ a, x = .ok a → y = .ok a) (rest : ∀ a b, f a = .ok b → g a = .ok b) (b : β)
    (ok : x >>= f = .ok b) : y >>= g = .ok b := by
  cases hx : x with
  | error e => rw [hx] at ok; cases ok
  | ok a =>
      rw [hx] at ok
      rw [first a hx]
      exact rest a b ok

/-- The section that a reference names, if it does not mean its own. -/
def Piece.section? : Piece → Option Text
  | .reference written => (Text.cut? (· = ':') written).map (·.1)
  | _ => none

namespace Document

def sectionsNamed (d : Document) : List Text :=
  d.sections.flatMap fun s => s.options.entries.flatMap fun e =>
    (Piece.ofText e.2.text).filterMap Piece.section?

theorem mem_sectionsNamed {d : Document} {sec key name : Text} {raw : RawValue} {piece : Piece}
    (found : d.raw? sec key = some raw) (there : piece ∈ Piece.ofText raw.text)
    (h : piece.section? = some name) : name ∈ d.sectionsNamed := by
  obtain ⟨s, hs, option⟩ := Option.bind_eq_some_iff.mp found
  have entry := SortedTable.mem_entries_iff.mpr option
  exact List.mem_flatMap.mpr ⟨s, List.mem_of_find?_eq_some hs,
    List.mem_flatMap.mpr ⟨_, entry, List.mem_filterMap.mpr ⟨piece, there, h⟩⟩⟩

/-- The sections of two documents that correspond hold the same options, and refer
to no sections that do not. -/
structure Agree (d e : Document) (corresponds : Text → Text → Prop) : Prop where
  raws : ∀ {a b}, corresponds a b → ∀ key, d.raw? a key = e.raw? b key
  closed : ∀ name ∈ d.sectionsNamed, corresponds name name

variable {d e : Document} {corresponds : Text → Text → Prop}

theorem Agree.expand (agree : d.Agree e corresponds) (levels : Nat) {a b key : Text}
    {raw : RawValue} (h : corresponds a b) (found : d.raw? a key = some raw) :
    d.expand levels a raw = e.expand levels b raw := by
  induction levels generalizing a b key raw with
  | zero => rfl
  | succ levels ih =>
      rw [expand_succ, expand_succ, restValue, restValue]
      congr 1
      refine mapM_congr_left fun piece there => ?_
      cases piece with
      | literal | stray | unterminated => rfl
      | reference written =>
          obtain ⟨sections, keys⟩ : corresponds (referenceTarget a written).1
                (referenceTarget b written).1 ∧
              (referenceTarget b written).2 = (referenceTarget a written).2 := by
            rw [referenceTarget, referenceTarget]
            cases named : Text.cut? (· = ':') written with
            | none => exact ⟨h, rfl⟩
            | some side =>
                have section? : (Piece.reference written).section? = some side.1 := by
                  rw [Piece.section?, named]
                  rfl
                exact ⟨agree.closed _ (mem_sectionsNamed found there section?), rfl⟩
          simp only [pieceValue]
          rw [keys, ← agree.raws sections]
          cases found : d.raw? (referenceTarget a written).1 (referenceTarget a written).2 with
          | none => rfl
          | some target => exact ih sections found

theorem Agree.value (agree : d.Agree e corresponds) {a b : Text} (h : corresponds a b)
    (key : Text) : d.value a key = e.value b key := by
  rw [Document.value, Document.value, ← agree.raws h]
  cases found : d.raw? a key with
  | none => rfl
  | some raw => exact congrArg (Except.map some) (agree.expand (maxDepth + 1) h found)

/-- A fault in a flag names its section, so only what is found carries over. -/
theorem Agree.flag (agree : d.Agree e corresponds) {a b : Text} (h : corresponds a b)
    (key : Text) (out : Option Bool) (ok : d.flag a key = .ok out) : e.flag b key = .ok out := by
  rw [Document.flag, ← agree.raws h]
  rw [Document.flag] at ok
  cases found : d.raw? a key with
  | none => rw [found] at ok; exact ok
  | some raw =>
      rw [found] at ok
      dsimp only at ok ⊢
      rw [agree.expand (maxDepth + 1) h found] at ok
      refine bind_ok_of (fun _ => id) (fun value out ok => ?_) out ok
      cases truth : truthValue? value with
      | none => rw [truth] at ok; cases ok
      | some on => rw [truth] at ok; exact ok

end Document

namespace Definition

theorem readStyle_of_agree {d e : Document} {corresponds : Text → Text → Prop}
    (agree : d.Agree e corresponds) {a b : Text} (h : corresponds a b) {style : Style}
    (ok : readStyle d a = .ok style) : readStyle e b = .ok style := by
  have background : backgroundLiteral d a = backgroundLiteral e b := by
    rw [backgroundLiteral, backgroundLiteral, agree.value h, agree.value h]
  rw [readStyle, agree.value h, agree.value h, background] at ok
  revert ok
  -- The colors are read from equal values, so only the flags need to be carried over.
  refine bind_ok_of (fun _ => id) (fun _ => bind_ok_of (fun _ => id) fun _ => ?_) style
  refine bind_ok_of (fun _ => id) fun _ => bind_ok_of (fun _ => id) fun _ => ?_
  refine bind_ok_of (fun _ => id) fun _ => bind_ok_of (fun _ => id) fun _ => ?_
  refine bind_ok_of (agree.flag h _) fun _ => bind_ok_of (agree.flag h _) fun _ => ?_
  exact bind_ok_of (agree.flag h _) fun _ => bind_ok_of (agree.flag h _) fun _ _ => id

/-- A section that does not keep a document from being accepted. -/
def Readable (d : Document) (s : Section) : Prop :=
  isReserved s.name = false →
    (∃ t, sectionToken s = .ok t) ∧ ∃ style, readStyle d s.name = .ok style

/-- What a section adds to a scheme. -/
def sectionStyle? (d : Document) (s : Section) : Option (Token × Style) :=
  if isReserved s.name then none
  else (sectionToken s).toOption.bind fun t => (readStyle d s.name).toOption.map (t, ·)

theorem sectionStyle?_eq_some {d : Document} {s : Section} {t : Token} {style : Style} :
    sectionStyle? d s = some (t, style) ↔
      isReserved s.name = false ∧ sectionToken s = .ok t ∧ readStyle d s.name = .ok style := by
  have toOption {α : Type} {x : Except Error α} {a : α} : x.toOption = some a ↔ x = .ok a := by
    cases x <;> simp [Except.toOption]
  rw [sectionStyle?]
  cases isReserved s.name with
  | true => simp
  | false => simp [Option.bind_eq_some_iff, toOption]

/-- Sections that correspond and name one token add the same to a scheme. -/
theorem Readable.of_agree {d e : Document} {corresponds : Text → Text → Prop}
    (agree : d.Agree e corresponds) {a b : Section} (h : corresponds a.name b.name)
    (reserved : isReserved b.name = isReserved a.name)
    (token : ∀ t, sectionToken a = .ok t → sectionToken b = .ok t) (readable : Readable d a) :
    Readable e b ∧ sectionStyle? e b = sectionStyle? d a := by
  cases skipped : isReserved a.name with
  | true =>
      rw [skipped] at reserved
      refine ⟨fun shown => absurd shown (by simp [reserved]), ?_⟩
      rw [sectionStyle?, sectionStyle?, skipped, reserved]
      rfl
  | false =>
      obtain ⟨⟨t, named⟩, style, described⟩ := readable skipped
      have described' := readStyle_of_agree agree h described
      rw [skipped] at reserved
      refine ⟨fun _ => ⟨⟨t, token t named⟩, style, described'⟩, ?_⟩
      rw [sectionStyle?_eq_some.mpr ⟨skipped, named, described⟩,
        sectionStyle?_eq_some.mpr ⟨reserved, token t named, described'⟩]

/-- A document describes a scheme if each of its sections describes a style. -/
theorem ofDocument_eq_ok_iff {d : Document} {s : Scheme} : ofDocument d = .ok s ↔
    (∀ sec ∈ d.sections, Readable d sec) ∧
    s = Scheme.insertAll {} (d.sections.filterMap (sectionStyle? d)) := by
  have run (sections : List Section) (start : Scheme) :
      sections.foldlM (readSection d) start = .ok s ↔
        (∀ sec ∈ sections, Readable d sec) ∧
        s = start.insertAll (sections.filterMap (sectionStyle? d)) := by
    induction sections generalizing start with
    | nil =>
        exact ⟨fun ok => ⟨by simp, (Except.ok.inj ok).symm⟩, fun h => congrArg Except.ok h.2.symm⟩
    | cons sec sections ih =>
        rw [List.foldlM_cons, List.forall_mem_cons, readSection]
        cases reserved : isReserved sec.name with
        | true =>
            rw [List.filterMap_cons_none (by rw [sectionStyle?, reserved]; rfl)]
            change sections.foldlM (readSection d) start = .ok s ↔ _
            rw [ih]
            simp [Readable, reserved]
        | false =>
            cases named : sectionToken sec with
            | error e => simp [Readable, reserved, named, bind, Except.bind]
            | ok t =>
                cases described : readStyle d sec.name with
                | error e => simp [Readable, reserved, described, bind, Except.bind]
                | ok style =>
                    have entry := sectionStyle?_eq_some.mpr ⟨reserved, named, described⟩
                    rw [List.filterMap_cons_some entry]
                    change sections.foldlM (readSection d) (start.insert t style) = .ok s ↔ _
                    rw [ih]
                    simp [Scheme.insertAll, Readable, named, described]
  exact run d.sections {}

end Definition
end ColorScheme
