import ColorScheme.Proofs.Resolution
import ColorScheme.Proofs.SchemeContents

/-!
Resolution as a look-up of the longest part of a path. The parts are tried from the whole
path down to the root's, each looked for among the entries in their order, and the first
that has a style gives it as it is. An insertion therefore shows at the tokens from its own
downwards, as far as no other style comes between.
-/

namespace ColorScheme

theorem Token.mem_ancestors_iff {t u : Token} : t ∈ u.ancestors ↔ t.segments <+: u.segments := by
  rw [ancestors, List.mem_map]
  constructor
  · rintro ⟨n, -, rfl⟩
    exact List.take_prefix n u.segments
  · intro part
    refine ⟨t.segments.length, ?_, ?_⟩
    · rw [List.mem_reverse, List.mem_range]
      exact Nat.lt_succ_of_le part.length_le
    · rw [← List.prefix_iff_eq_take.mp part]

@[simp] theorem Token.ancestors_root : Token.root.ancestors = [Token.root] := rfl

@[simp] theorem Token.parent?_child (t : Token) (name : Text) :
    (t.child name).parent? = some t := by
  simp [parent?, isRoot, child]

namespace StyleTable

variable {styles : StyleTable} {t u : Token}

/-! ### The search -/

/-- Looks for a path among entries in ascending order, and not past its place. -/
def search (path : List Text) : List (Token × Style) → Option Style
  | [] => none
  | (t, style) :: rest =>
      if path < t.segments then none
      else if path = t.segments then some style
      else search path rest

theorem search_eq_lookup {entries : List (Token × Style)}
    (ascending : entries.Pairwise fun a b => a.1 < b.1) (path : List Text) :
    search path entries = entries.lookup ⟨path⟩ := by
  induction entries with
  | nil => rfl
  | cons e rest ih =>
      obtain ⟨t, style⟩ := e
      obtain ⟨above, ascending⟩ := List.pairwise_cons.mp ascending
      rw [search, lookup_cons_eq, ih ascending]
      by_cases before : path < t.segments
      · -- No later entry can be the one that is looked for.
        have first : Token.mk path < t := before
        have other : Token.mk path ≠ t := fun same => Std.lt_irrefl (same ▸ first)
        rw [if_pos before, if_neg other, eq_comm]
        refine lookup_eq_none_of_not_mem fun there => ?_
        obtain ⟨e, he, same⟩ := List.mem_map.mp there
        have later : Token.mk path < e.1 := Std.lt_trans first (above e he)
        exact Std.lt_irrefl (same ▸ later)
      · rw [if_neg before]
        by_cases same : path = t.segments
        · rw [if_pos same, if_pos (congrArg Token.mk same)]
        · have other : Token.mk path ≠ t := fun e => same (congrArg Token.segments e)
          rw [if_neg same, if_neg other]

/-- The style found first when the parts of a token's path are looked for in turn, the whole
path first. -/
def nearest? (styles : StyleTable) (t : Token) : Option Style :=
  t.ancestors.findSome? fun a => search a.segments styles.entries

theorem nearest?_eq (styles : StyleTable) (t : Token) :
    styles.nearest? t = t.ancestors.findSome? styles.get? := by
  rw [nearest?]
  congr 1
  funext a
  exact search_eq_lookup styles.ascending a.segments

theorem resolve_eq_nearest? (styles : StyleTable) (t : Token) :
    styles.resolve t = (styles.nearest? t).getD .empty := by
  rw [nearest?_eq, resolve]

theorem nearest?_eq_none_iff : styles.nearest? t = none ↔ styles.Ungoverned t := by
  rw [nearest?_eq, List.findSome?_eq_none_iff]
  constructor
  · intro absent path part
    exact absent ⟨path⟩ (Token.mem_ancestors_iff.mpr part)
  · intro absent a there
    exact absent a.segments (Token.mem_ancestors_iff.mp there)

theorem nearest?_eq_some_iff {style : Style} :
    styles.nearest? t = some style ↔ ∃ path, styles.Governs t path style := by
  have resolved := styles.resolve_eq_nearest? t
  constructor
  · intro found
    rw [found, Option.getD_some] at resolved
    obtain ⟨path, governs⟩ | ⟨none, -⟩ := styles.resolve_cases t
    · exact ⟨path, resolved ▸ governs⟩
    · rw [nearest?_eq_none_iff.mpr none] at found
      cases found
  · rintro ⟨path, governs⟩
    cases found : styles.nearest? t with
    | none => exact absurd governs (nearest?_eq_none_iff.mp found).not_governs
    | some other =>
        rw [found, Option.getD_some, governs.resolve_eq] at resolved
        exact congrArg some resolved.symm

theorem resolve_of_own {style : Style} (own : styles.get? t = some style) :
    styles.resolve t = style :=
  (Governs.of_own own).resolve_eq

theorem resolve_of_parent {parent : Token} (absent : styles.get? t = none)
    (above : t.parent? = some parent) : styles.resolve t = styles.resolve parent := by
  cases t using Token.childRec with
  | root => cases above
  | child t name =>
      obtain rfl : t = parent := by simpa using above
      rw [resolve_child, absent, Option.getD_none]

theorem resolve_root_of_absent (absent : styles.get? .root = none) :
    styles.resolve .root = .empty := by
  rw [resolve_root, absent, Option.getD_none]

/-- Resolution gives the style of the longest part of a token's path that has one, as it
stands in the table, also if it sets nothing. The empty style takes its place exactly when no
part has one, not even the root's. In other words a style of the token's own is in effect,
without one the parent's is, and an unstyled root has the empty style. -/
theorem resolve_longest_part (styles : StyleTable) (t : Token) :
    styles.resolve t = (styles.nearest? t).getD .empty ∧
    (∀ style, styles.nearest? t = some style ↔ ∃ path, styles.Governs t path style) ∧
    (styles.nearest? t = none ↔ styles.Ungoverned t) ∧
    (∀ path style, styles.Governs t path style → styles.resolve t = style) ∧
    (styles.Ungoverned t → styles.resolve t = .empty) ∧
    (∀ style, styles.get? t = some style → styles.resolve t = style) ∧
    (∀ parent, styles.get? t = none → t.parent? = some parent →
      styles.resolve t = styles.resolve parent) ∧
    (styles.get? t = none → t = .root → styles.resolve t = .empty) := by
  refine ⟨styles.resolve_eq_nearest? t, fun style => nearest?_eq_some_iff, nearest?_eq_none_iff,
    fun path style governs => governs.resolve_eq, fun none => ?_, fun style => resolve_of_own,
    fun parent => resolve_of_parent, ?_⟩
  · rw [resolve_eq_nearest?, nearest?_eq_none_iff.mpr none, Option.getD_none]
  · rintro absent rfl
    exact resolve_root_of_absent absent

/-- A style that sets nothing hides the root's when it is in the table, and a name that begins
like another's is no part of a path. -/
theorem resolve_longest_part_hidden :
    let name := Token.root.child "Name".toList
    let cls := name.child "Class".toList
    let plain := cls.child "Outer".toList
    let style : Style := { bold := some true, inherit := false }
    let styles : StyleTable :=
      .ofList [(name, .empty), (.root, style), (cls.child "Inner".toList, style)]
    let bare : StyleTable := .empty
    styles.Governs plain name.segments .empty ∧ styles.nearest? plain = some .empty ∧
      styles.resolve plain = .empty ∧ styles.resolve cls = styles.resolve name ∧
      styles.resolve (Token.root.child "Names".toList) = style ∧
      bare.Ungoverned name ∧ bare.nearest? name = none ∧ bare.resolve name = .empty ∧
      bare.resolve .root = .empty := by
  intro name cls plain style styles bare
  have governs : styles.Governs plain name.segments .empty := by decide
  have none : bare.Ungoverned name := fun _ _ => rfl
  obtain ⟨-, found, -, resolved, -⟩ := resolve_longest_part styles plain
  obtain ⟨-, -, -, -, -, -, inherited, -⟩ := resolve_longest_part styles cls
  obtain ⟨-, -, -, -, -, -, above, -⟩ := resolve_longest_part styles (Token.root.child "Names".toList)
  obtain ⟨-, -, -, -, -, own, -⟩ := resolve_longest_part styles .root
  obtain ⟨-, -, unfound, -, empty, -⟩ := resolve_longest_part bare name
  obtain ⟨-, -, -, -, -, -, -, unstyled⟩ := resolve_longest_part bare .root
  refine ⟨governs, (found .empty).mpr ⟨_, governs⟩, resolved _ _ governs,
    inherited name (by decide) rfl, ?_, none, unfound.mpr none, empty none, unstyled rfl rfl⟩
  rw [above .root (by decide) rfl, own style (by decide)]

/-! ### Insertions -/

/-- Where nothing below a token has a style, along the path to another, the other has the style
of the token. -/
theorem resolve_of_absent_below (above : t ∈ u.ancestors)
    (below : ∀ v ∈ u.ancestors, t.segments.length < v.segments.length → styles.get? v = none) :
    styles.resolve u = styles.resolve t := by
  induction u using Token.childRec with
  | root =>
      obtain rfl : t = .root := by simpa using above
      rfl
  | child u name ih =>
      rw [Token.ancestors_child] at above below
      obtain rfl | above := List.mem_cons.mp above
      · rfl
      · have shorter : t.segments.length < (u.child name).segments.length := by
          have part := (Token.mem_ancestors_iff.mp above).length_le
          simp only [Token.child, List.length_append, List.length_singleton]
          omega
        have absent := below (u.child name) (List.mem_cons_self ..) shorter
        rw [resolve_child, absent, Option.getD_none]
        exact ih above fun v there => below v (List.mem_cons_of_mem _ there)

end StyleTable

namespace Scheme

variable {s : Scheme} {t u : Token}

theorem resolve_insert_apart (apart : t ∉ u.ancestors) (style : Style) :
    (s.insert t style).resolve u = s.resolve u := by
  refine StyleTable.resolve_congr fun path part => ?_
  have other : Token.mk path ≠ t := by
    rintro rfl
    exact apart (Token.mem_ancestors_iff.mpr part)
  exact (s.get?_insert t ⟨path⟩ style).trans (if_neg other)

/-- A style between the token and another keeps the insertion from the other. -/
theorem resolve_insert_covered {v : Token} (between : v ∈ u.ancestors)
    (longer : t.segments.length < v.segments.length) (styled : s.get? v ≠ none) (style : Style) :
    (s.insert t style).resolve u = s.resolve u := by
  have unlike {w : Token} (below : t.segments.length < w.segments.length) :
      (s.insert t style).get? w = s.get? w := by
    have other : w ≠ t := by
      rintro rfl
      exact Nat.lt_irrefl _ below
    rw [get?_insert, if_neg other]
  have part := Token.mem_ancestors_iff.mp between
  obtain ⟨path, governs⟩ | ⟨none, -⟩ := s.styles.resolve_cases u
  · have below : t.segments.length < path.length := by
      by_contra short
      exact styled (governs.longest v.segments part (by omega))
    have still : (s.insert t style).styles.Governs u path (s.resolve u) := by
      refine ⟨governs.part, (unlike (w := ⟨path⟩) below).trans governs.own, ?_⟩
      intro other there beyond
      exact (unlike (w := ⟨other⟩) (Nat.lt_trans below beyond)).trans
        (governs.longest other there beyond)
    exact still.resolve_eq
  · exact absurd (none v.segments part) styled

/-- Where no other style comes between, the token's own is in effect at the tokens below. -/
theorem resolve_insert_open (above : t ∈ u.ancestors)
    (clear : ∀ v ∈ u.ancestors, t.segments.length < v.segments.length → s.get? v = none)
    (style : Style) : (s.insert t style).resolve u = (s.insert t style).resolve t := by
  refine StyleTable.resolve_of_absent_below above fun v there longer => ?_
  have other : v ≠ t := by
    rintro rfl
    exact Nat.lt_irrefl _ longer
  exact (s.get?_insert t v style).trans ((if_neg other).trans (clear v there longer))

theorem resolve_insert_self {style : Style} (sets : style ≠ .empty) :
    (s.insert t style).resolve t = style := by
  have own : (s.insert t style).get? t = some style := by
    rw [get?_insert, if_pos rfl, if_neg sets]
  exact StyleTable.resolve_of_own own

theorem resolve_remove_self :
    (s.insert t .empty).resolve t = (t.parent?.map s.resolve).getD .empty := by
  have removed : (s.insert t .empty).get? t = none := by
    rw [get?_insert, if_pos rfl, if_pos rfl]
  cases t using Token.childRec with
  | root => exact StyleTable.resolve_root_of_absent removed
  | child t name =>
      have apart : t.child name ∉ t.ancestors := by
        intro below
        have shorter := (Token.mem_ancestors_iff.mp below).length_le
        simp only [Token.child, List.length_append, List.length_singleton] at shorter
        omega
      rw [Token.parent?_child, Option.map_some, Option.getD_some, ← resolve_insert_apart apart .empty]
      exact StyleTable.resolve_of_parent removed (t.parent?_child name)

/-- An insertion shows at the tokens from its own downwards that have no style between. There
the new style is in effect, or, if it sets nothing, what is in effect for the token's parent,
and nothing if the token is the root. All other tokens look as before. -/
theorem resolve_insert_below (s : Scheme) (t u : Token) (style : Style) :
    (t ∉ u.ancestors ∨
        (∃ v ∈ u.ancestors, t.segments.length < v.segments.length ∧ s.get? v ≠ none) →
      (s.insert t style).resolve u = s.resolve u) ∧
    (t ∈ u.ancestors →
        (∀ v ∈ u.ancestors, t.segments.length < v.segments.length → s.get? v = none) →
      (style ≠ .empty → (s.insert t style).resolve u = style) ∧
      (style = .empty →
        (s.insert t style).resolve u = (t.parent?.map s.resolve).getD .empty)) := by
  constructor
  · rintro (apart | ⟨v, between, longer, styled⟩)
    · exact resolve_insert_apart apart style
    · exact resolve_insert_covered between longer styled style
  · intro above clear
    rw [resolve_insert_open above clear]
    refine ⟨resolve_insert_self, ?_⟩
    rintro rfl
    exact resolve_remove_self

/-- A style set and removed above a token, with and without a style between, and beside it. -/
theorem resolve_insert_below_between :
    let name := Token.root.child "Name".toList
    let cls := name.child "Class".toList
    let inner := cls.child "Inner".toList
    let bold : Style := { bold := some true }
    let italic : Style := { italic := some true }
    let s : Scheme := insertAll {} [(.root, italic), (name, bold), (inner, bold)]
    (s.insert name italic).resolve cls = italic ∧ (s.insert name .empty).resolve cls = italic ∧
      (s.insert name italic).resolve inner = s.resolve inner ∧
      (s.insert name italic).resolve (Token.root.child "Names".toList) =
        s.resolve (Token.root.child "Names".toList) ∧
      (s.insert .root .empty).resolve (Token.root.child "Text".toList) = .empty := by
  intro name cls inner bold italic s
  have clear : ∀ v ∈ cls.ancestors, name.segments.length < v.segments.length →
      s.get? v = none := by decide
  obtain ⟨-, below⟩ := resolve_insert_below s name cls italic
  obtain ⟨-, removed⟩ := resolve_insert_below s name cls .empty
  obtain ⟨covered, -⟩ := resolve_insert_below s name inner italic
  obtain ⟨apart, -⟩ := resolve_insert_below s name (Token.root.child "Names".toList) italic
  obtain ⟨-, bare⟩ := resolve_insert_below s .root (Token.root.child "Text".toList) .empty
  refine ⟨(below (by decide) clear).1 (by decide), ?_,
    covered (.inr ⟨inner, by decide, by decide, by decide⟩), apart (.inl (by decide)),
    (bare (by decide) (by decide)).2 rfl⟩
  rw [(removed (by decide) clear).2 rfl]
  decide

end Scheme
end ColorScheme
