import ColorScheme.Proofs.HeaderNames
import ColorScheme.Proofs.Merging
import ColorScheme.Proofs.Renumbering
import ColorScheme.Proofs.SectionStyles
import Mathlib.Data.List.Perm.Basic

/-!
The order of sections. A file of blocks, each with a header of its own, is read block
by block, so that other files of the same blocks hold the same sections in the order
of theirs; and the order of the sections has no say in the scheme that they describe,
if each is for a token of its own.
-/

namespace ColorScheme

/-! ### Sections in another order -/

namespace Document

@[simp] theorem names_renumber (f : Nat → Nat) (d : Document) : (d.renumber f).names = d.names := by
  simp [names, renumber, Section.renumber]

theorem find?_eq_some_iff {d : Document} (distinct : d.names.Nodup) {name : Text} {s : Section} :
    d.find? name = some s ↔ s ∈ d.sections ∧ s.name = name := by
  constructor
  · exact fun found => ⟨List.mem_of_find?_eq_some found, name_of_find? found⟩
  · rintro ⟨there, rfl⟩
    exact find?_of_key distinct there

theorem find?_perm {d e : Document} (p : d.sections.Perm e.sections) (distinct : d.names.Nodup)
    (name : Text) : d.find? name = e.find? name := by
  have distinct' : e.names.Nodup := (p.map _).nodup_iff.mp distinct
  apply Option.ext
  intro s
  rw [find?_eq_some_iff distinct, find?_eq_some_iff distinct', p.mem_iff]

end Document

namespace Scheme

theorem insertAll_perm {l m : List (Token × Style)} (p : l.Perm m)
    (distinct : (l.map (·.1)).Nodup) (s : Scheme) : s.insertAll l = s.insertAll m := by
  have styles : (s.insertAll l).styles = (s.insertAll m).styles := by
    apply SortedTable.ext_get?
    intro t
    have last : l.reverse.lookup t = m.reverse.lookup t :=
      (lookup_perm l.reverse_perm distinct t).trans
        (lookup_perm (m.reverse_perm.trans p.symm) distinct t).symm
    change (s.insertAll l).get? t = (s.insertAll m).get? t
    rw [get?_insertAll, get?_insertAll, last]
  exact Scheme.ext (by simp) (by simp) styles

end Scheme

namespace Definition

/-- The token that a section of some name is for. -/
def tokenOfName? (name : Text) : Option Token :=
  if isReserved name then none else (Token.parse name).toOption

theorem tokenOfName?_eq_map {d : Document} {s : Section} (readable : Readable d s) :
    tokenOfName? s.name = (sectionStyle? d s).map (·.1) := by
  cases reserved : isReserved s.name with
  | true => rw [tokenOfName?, sectionStyle?, reserved]; rfl
  | false =>
      obtain ⟨⟨t, named⟩, style, described⟩ := readable reserved
      rw [sectionStyle?_eq_some.mpr ⟨reserved, named, described⟩, tokenOfName?, reserved]
      rw [sectionToken] at named
      cases parsed : Token.parse s.name with
      | error e => rw [parsed] at named; cases named
      | ok u => rw [parsed] at named; cases named; rfl

/-- Sections for different tokens can stand in any order. -/
theorem ofDocument_perm {d e : Document} {s : Scheme} (p : d.sections.Perm e.sections)
    (distinct : d.names.Nodup) (tokens : (d.names.filterMap tokenOfName?).Nodup)
    (ok : ofDocument d = .ok s) : ofDocument e = .ok s := by
  obtain ⟨readable, rfl⟩ := ofDocument_eq_ok_iff.mp ok
  -- References find the same options in both documents.
  have agree : d.Agree e (· = ·) :=
    { raws := by
        rintro a _ rfl key
        rw [Document.raw?, Document.raw?, Document.find?_perm p distinct]
      closed := fun _ _ => rfl }
  have each (sec : Section) (there : sec ∈ e.sections) :
      Readable e sec ∧ sectionStyle? e sec = sectionStyle? d sec :=
    (readable sec (p.mem_iff.mpr there)).of_agree agree rfl rfl fun _ => id
  refine ofDocument_eq_ok_iff.mpr ⟨fun sec there => (each sec there).1, ?_⟩
  rw [List.filterMap_congr fun sec there => (each sec there).2]
  refine Scheme.insertAll_perm (p.filterMap _) ?_ {}
  have same : (d.sections.filterMap (sectionStyle? d)).map (·.1) =
      d.names.filterMap tokenOfName? := by
    rw [List.map_filterMap, Document.names, List.filterMap_map]
    exact List.filterMap_congr fun sec there => (tokenOfName?_eq_map (readable sec there)).symm
  rwa [same]

end Definition

/-! ### Blocks in another order -/

namespace Document

theorem find?_eq_none_of_not_mem {d : Document} {name : Text} (h : name ∉ d.names) :
    d.find? name = none := by
  rw [find?, List.find?_eq_none]
  intro s hs same
  exact h (List.mem_map.mpr ⟨s, hs, by simpa using same⟩)

/-- Documents without a name in common are merged by putting the second behind the
first. -/
theorem merge_of_disjoint {d e : Document} (disjoint : d.names.Disjoint e.names) :
    d.merge e = ⟨d.sections ++ e.sections⟩ := by
  have kept : d.sections.map (fun s => (e.find? s.name).elim s s.merge) = d.sections.map id := by
    refine List.map_congr_left fun s hs => ?_
    rw [find?_eq_none_of_not_mem (disjoint (List.mem_map_of_mem hs))]
    rfl
  have new : (e.sections.filter fun t => (d.find? t.name).isNone) = e.sections := by
    refine List.filter_eq_self.mpr fun t ht => ?_
    have absent : t.name ∉ d.names := fun there => disjoint there (List.mem_map_of_mem ht)
    rw [find?_eq_none_of_not_mem absent]
    rfl
  rw [merge, kept, new, List.map_id]

theorem sections_merge_of_disjoint {d e : Document} (disjoint : d.names.Disjoint e.names)
    (f : Nat → Nat) : (d.merge (e.renumber f)).unnumbered.sections =
      d.unnumbered.sections ++ e.unnumbered.sections := by
  have disjoint' : d.names.Disjoint (e.renumber f).names := by rwa [names_renumber]
  have later : (e.renumber f).unnumbered.sections = e.unnumbered.sections := by
    rw [unnumbered_renumber]
  rw [merge_of_disjoint disjoint', ← later]
  exact List.map_append

/-- A file and another that begins with a header are accepted together if each is. -/
theorem ofText_append_eq_ok_iff {a b : Text} (whole : a.getLast? = some '\n')
    (header : b = [] ∨ b.head? = some '[') {d : Document} : ofText (a ++ b) = .ok d ↔
      ∃ first second, ofText a = .ok first ∧ ofText b = .ok second ∧
        d = first.merge (second.renumber ((Text.lines a).length + ·)) := by
  obtain rfl | header := header
  · have none : ofText [] = .ok {} := rfl
    have alone (first : Document) : first.merge (({} : Document).renumber
        ((Text.lines a).length + ·)) = first := first.merge_start
    simp [none, alone]
  rw [ofText, Text.lines_append (.inr whole), Reader.readLines_append, ofText, ofText]
  cases ({} : Reader).readLines 1 (Text.lines a) with
  | error e => simp [Except.bind, Except.map]
  | ok r =>
      dsimp only [Except.bind]
      rw [Reader.readLines_from_header header]
      cases ({} : Reader).readLines 1 (Text.lines b) with
      | error e => simp [Except.map, Except.mapError]
      | ok q =>
          simp only [Except.map, Except.mapError, Except.ok.injEq, exists_and_left, exists_eq_left',
            Reader.onto, Reader.renumber]
          exact eq_comm

end Document

/-- A part of a file from one header to the next. -/
structure Block where
  name : Text
  text : Text
  opens : text.head? = some '['
  whole : text.getLast? = some '\n'
  /-- One of its lines is a header, and no other is. -/
  only : Place.outside.headers (Text.lines text) = [name]

namespace Block

def file (blocks : List Block) : Text :=
  blocks.flatMap (·.text)

/-- The section that a block makes if it is read by itself, without line numbers. -/
def Holds (b : Block) (s : Section) : Prop :=
  ∃ d, Document.ofText b.text = .ok d ∧ d.unnumbered.sections = [s]

theorem names_of_ofText {b : Block} {d : Document} (ok : Document.ofText b.text = .ok d) :
    d.names = [b.name] := by
  obtain ⟨last, read, rfl⟩ := Document.ofText_eq_ok_iff.mp ok
  have names := Reader.names_readLines read
  change _ = (Place.outside.headers (Text.lines b.text)).foldl addName [] at names
  rw [b.only] at names
  exact names

theorem holds_of_ofText {b : Block} {d : Document} (ok : Document.ofText b.text = .ok d) :
    ∃ s, b.Holds s ∧ d.unnumbered.sections = [s] := by
  have names : d.unnumbered.sections.map (·.name) = [b.name] :=
    (d.names_renumber _).trans (names_of_ofText ok)
  obtain ⟨s, single, -⟩ := List.map_eq_singleton_iff.mp names
  exact ⟨s, ⟨d, ok, single⟩, single⟩

theorem Holds.name {b : Block} {s : Section} (h : b.Holds s) : s.name = b.name := by
  obtain ⟨d, ok, single⟩ := h
  have names : d.unnumbered.names = [b.name] := (d.names_renumber _).trans (names_of_ofText ok)
  rw [Document.names, single] at names
  exact (List.cons_eq_cons.mp names).1

theorem names_of_holds {blocks : List Block} {ss : List Section} (h : List.Forall₂ Holds blocks ss) :
    ss.map (·.name) = blocks.map (·.name) := by
  induction h with
  | nil => rfl
  | cons holds _ ih => rw [List.map_cons, List.map_cons, holds.name, ih]

theorem file_opens (blocks : List Block) : file blocks = [] ∨ (file blocks).head? = some '[' := by
  cases blocks with
  | nil => exact .inl rfl
  | cons b rest =>
      refine .inr ?_
      rw [file, List.flatMap_cons, List.head?_append, b.opens]
      rfl

/-- What a file of blocks with different names holds is what each of them holds. -/
theorem ofText_file_iff {blocks : List Block} (distinct : (blocks.map (·.name)).Nodup)
    {ss : List Section} :
    (∃ d, Document.ofText (file blocks) = .ok d ∧ d.unnumbered.sections = ss) ↔
      List.Forall₂ Holds blocks ss := by
  induction blocks generalizing ss with
  | nil =>
      have none : Document.ofText (file []) = .ok {} := rfl
      rw [none, List.forall₂_nil_left_iff]
      simp [Document.unnumbered, Document.renumber, eq_comm]
  | cons b rest ih =>
      obtain ⟨fresh, distinct⟩ := List.nodup_cons.mp distinct
      -- What comes later has other names, so that merging puts it behind the first block.
      have parts (d : Document) := Document.ofText_append_eq_ok_iff (d := d) b.whole (file_opens rest)
      have sections {first second : Document} (hb : Document.ofText b.text = .ok first)
          (hrest : List.Forall₂ Holds rest second.unnumbered.sections) (f : Nat → Nat) :
          (first.merge (second.renumber f)).unnumbered.sections =
            first.unnumbered.sections ++ second.unnumbered.sections := by
        refine Document.sections_merge_of_disjoint ?_ f
        have later : second.names = rest.map (·.name) :=
          (second.names_renumber _).symm.trans (names_of_holds hrest)
        rw [names_of_ofText hb, later]
        simpa using fresh
      constructor
      · rintro ⟨d, ok, rfl⟩
        obtain ⟨first, second, hb, hsecond, rfl⟩ := (parts d).mp ok
        obtain ⟨s, holds, single⟩ := holds_of_ofText hb
        have hrest := (ih distinct).mp ⟨second, hsecond, rfl⟩
        rw [sections hb hrest, single]
        exact .cons holds hrest
      · intro h
        cases h with
        | cons holds hrest =>
            obtain ⟨first, hb, single⟩ := holds
            obtain ⟨second, hsecond, rfl⟩ := (ih distinct).mpr hrest
            refine ⟨_, (parts _).mpr ⟨first, second, hb, hsecond, rfl⟩, ?_⟩
            rw [sections hb hrest, single]
            rfl

end Block

namespace Definition

theorem read_of_blocks_perm {blocks other : List Block} (p : other.Perm blocks)
    (distinct : (blocks.map (·.name)).Nodup)
    (tokens : ((blocks.map (·.name)).filterMap tokenOfName?).Nodup) {s : Scheme}
    (ok : read (Block.file blocks) = .ok s) : read (Block.file other) = .ok s := by
  obtain ⟨d, parsed, described⟩ := exists_of_read ok
  have distinct' : (other.map (·.name)).Nodup := (p.map _).nodup_iff.mpr distinct
  have held := (Block.ofText_file_iff distinct).mp ⟨d, parsed, rfl⟩
  have names : d.unnumbered.names = blocks.map (·.name) := Block.names_of_holds held
  obtain ⟨ss, held', p'⟩ := List.perm_comp_forall₂ p held
  obtain ⟨e, parsed', rfl⟩ := (Block.ofText_file_iff distinct').mpr held'
  have described' : ofDocument e.unnumbered = .ok s :=
    ofDocument_perm p'.symm (names ▸ distinct) (names ▸ tokens)
      (Document.ofDocument_unnumbered_iff.mpr described)
  rw [read, parsed']
  exact Document.ofDocument_unnumbered_iff.mp described'

end Definition
end ColorScheme
