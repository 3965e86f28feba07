import ColorScheme.Token
import ColorScheme.Proofs.Blanks
import ColorScheme.Proofs.TextCuts
import Mathlib.Data.Bool.AllAny
import Mathlib.Data.Set.Operations

/-!
Which tokens are found again under their full names. A name that is read always
gives such a token, and no two of them have one name; other tokens can be made
by adding children of any name.
-/

namespace ColorScheme

theorem mem_splitOn {s piece : Text} {x : Char} (h : piece ∈ s.splitOn x) :
    x ∉ piece ∧ piece.Sublist s := by
  rw [List.splitOn_eq_splitOnP] at h
  obtain ⟨fresh, part⟩ := mem_splitOnP h
  exact ⟨fun m => absurd (fresh x m) (by simp), part⟩

theorem getLast?_intercalate {names : List Text} {name : Text} (h : names.getLast? = some name)
    (ne : name ≠ []) (x : Char) : ([x].intercalate names).getLast? = name.getLast? := by
  induction names with
  | nil => cases h
  | cons first names ih =>
      cases names with
      | nil =>
          obtain rfl : first = name := by simpa using h
          simp
      | cons next names =>
          rw [List.intercalate_cons_cons, List.getLast?_append, ih (by simpa using h),
            List.getLast?_eq_some_getLast ne, Option.some_or]

namespace Token

/-- The token is found again under its full name. -/
structure Findable (t : Token) : Prop where
  names : ∀ name ∈ t.segments, name ≠ [] ∧ '.' ∉ name
  last : ∀ name, t.segments.getLast? = some name →
    ∀ c, name.getLast? = some c → Text.isBlank c = false

instance (t : Token) : Decidable t.Findable :=
  decidable_of_iff ((∀ name ∈ t.segments, name ≠ [] ∧ '.' ∉ name) ∧
      ∀ name ∈ t.segments.getLast?, name.getLast?.all fun c => !Text.isBlank c)
    ⟨fun h => ⟨h.1, by simpa [Option.all_eq_true] using h.2⟩,
      fun h => ⟨h.names, by simpa [Option.all_eq_true] using h.last⟩⟩

/-- The token can be the subject of a section: it is found under its full
name, which is part of one line. -/
structure Canonical (t : Token) : Prop where
  names : ∀ name ∈ t.segments, name ≠ [] ∧ '.' ∉ name ∧ '\n' ∉ name
  last : ∀ name, t.segments.getLast? = some name →
    ∀ c, name.getLast? = some c → Text.isBlank c = false

instance (t : Token) : Decidable t.Canonical :=
  decidable_of_iff ((∀ name ∈ t.segments, name ≠ [] ∧ '.' ∉ name ∧ '\n' ∉ name) ∧
      ∀ name ∈ t.segments.getLast?, name.getLast?.all fun c => !Text.isBlank c)
    ⟨fun h => ⟨h.1, by simpa [Option.all_eq_true] using h.2⟩,
      fun h => ⟨h.names, by simpa [Option.all_eq_true] using h.last⟩⟩

theorem fullName_eq {t : Token} (h : t.segments ≠ []) :
    t.fullName = rootName ++ ['.'] ++ ['.'].intercalate t.segments := by
  obtain ⟨first, rest, names⟩ := List.exists_cons_of_ne_nil h
  rw [fullName, names, intercalate_cons_eq, List.flatMap_cons, List.append_assoc]
  rfl

theorem head?_fullName (t : Token) : t.fullName.head? = some 'T' := rfl

/-- What holds of the name of the root and of a dot holds of all characters of a full
name, if it holds of those of the names on the path. -/
theorem forall_mem_fullName {t : Token} {p : Char → Prop} (root : ∀ c ∈ rootName, p c)
    (dot : p '.') : (∀ c ∈ t.fullName, p c) ↔ ∀ name ∈ t.segments, ∀ c ∈ name, p c := by
  rw [fullName]
  constructor
  · intro h name hn c hc
    refine h c (List.mem_append_right _ (List.mem_flatMap.mpr ⟨name, hn, ?_⟩))
    exact List.mem_cons_of_mem _ hc
  · intro h c hc
    obtain hc | hc := List.mem_append.mp hc
    · exact root c hc
    · obtain ⟨name, hn, hc⟩ := List.mem_flatMap.mp hc
      obtain rfl | hc := List.mem_cons.mp hc
      · exact dot
      · exact h name hn c hc

theorem fullName_on_line {t : Token} (h : ∀ name ∈ t.segments, '\n' ∉ name) :
    '\n' ∉ t.fullName := by
  have others : ∀ c ∈ t.fullName, c ≠ '\n' :=
    (forall_mem_fullName (List.all_iff_forall_prop.mp (by decide)) (by decide)).mpr
      fun name hn c hc e => h name hn (e ▸ hc)
  exact fun m => others _ m rfl

theorem fullName_root : root.fullName = rootName := rfl

theorem eq_root {t : Token} (h : t.segments = []) : t = root :=
  congrArg mk h

def Dotless (t : Token) : Prop :=
  ∀ name ∈ t.segments, '.' ∉ name

theorem fullName_eq_intercalate (t : Token) :
    t.fullName = ['.'].intercalate (rootName :: t.segments) := by
  rw [intercalate_cons_eq]
  rfl

theorem splitOn_fullName {t : Token} (h : t.Dotless) :
    t.fullName.splitOn '.' = rootName :: t.segments := by
  rw [fullName_eq_intercalate, List.splitOn_intercalate '.' ?_ (by simp)]
  rw [List.forall_mem_cons]
  exact ⟨by decide, h⟩

theorem injOn_fullName : Set.InjOn fullName {t | t.Dotless} := by
  intro t ht u hu same
  have names := congrArg (List.splitOn '.') same
  rw [splitOn_fullName ht, splitOn_fullName hu] at names
  cases t; cases u
  exact congrArg mk (List.cons.inj names).2

/-! ### The path that a name gives -/

/-- What is left of a name without blanks around it and, where it begins with the name of
the root and a dot, without these. -/
def pathOf (name : Text) : Text :=
  let name := Text.trim name
  if rootName ++ ['.'] <+: name then name.drop (rootName.length + 1) else name

theorem pathOf_eq (name : Text) :
    pathOf name = (Text.after? (rootName ++ ['.']) (Text.trim name)).getD (Text.trim name) := by
  dsimp only [pathOf]
  split
  · next h =>
      obtain ⟨path, whole⟩ := h
      rw [← whole, Text.after?_append, Option.getD_some]
      exact List.drop_left' (by simp)
  · next h => rw [Text.after?_eq_none_iff.mpr h, Option.getD_none]

theorem pathOf_suffix (name : Text) : pathOf name <:+ Text.trim name := by
  dsimp only [pathOf]
  split
  · exact List.drop_suffix ..
  · exact List.suffix_rfl

theorem ofPath?_eq_some_iff {path : Text} {t : Token} :
    ofPath? path = some t ↔ t.segments = path.splitOn '.' ∧ [] ∉ t.segments := by
  cases t
  simp only [ofPath?]
  split <;> simp_all [eq_comm]

variable {name : Text} {t : Token}

theorem parse_of_root (h : Text.trim name = [] ∨ Text.trim name = rootName) :
    parse name = .ok root :=
  if_pos h

theorem parse_of_other (h : ¬(Text.trim name = [] ∨ Text.trim name = rootName)) :
    parse name = match ofPath? (pathOf name) with
      | some t => .ok t
      | none => .error (.invalidToken (Text.trim name)) := by
  rw [pathOf_eq]
  exact if_neg h

theorem parse_eq_ok_iff (h : ¬(Text.trim name = [] ∨ Text.trim name = rootName)) :
    parse name = .ok t ↔ t.segments = (pathOf name).splitOn '.' ∧ [] ∉ t.segments := by
  rw [parse_of_other h, ← ofPath?_eq_some_iff]
  cases ofPath? (pathOf name) <;> simp

theorem parse_eq_root_iff :
    parse name = .ok root ↔ Text.trim name = [] ∨ Text.trim name = rootName := by
  refine ⟨fun read => ?_, parse_of_root⟩
  by_contra other
  have none := ((parse_eq_ok_iff other).mp read).1
  exact List.splitOn_ne_nil '.' (pathOf name) none.symm

theorem parse_of_gap (h : ¬(Text.trim name = [] ∨ Text.trim name = rootName))
    (gap : [] ∈ (pathOf name).splitOn '.') :
    parse name = .error (.invalidToken (Text.trim name)) := by
  have none : ofPath? (pathOf name) = none := if_pos gap
  rw [parse_of_other h, none]

/-! ### Names that are read back -/

theorem findable_of_parse (h : parse name = .ok t) : t.Findable := by
  by_cases other : Text.trim name = [] ∨ Text.trim name = rootName
  · obtain rfl := Except.ok.inj ((parse_of_root other).symm.trans h)
    exact ⟨by simp [root], by simp [root]⟩
  · obtain ⟨split, full⟩ := (parse_eq_ok_iff other).mp h
    refine ⟨fun piece hp => ⟨fun e => full (e ▸ hp), (mem_splitOn (split ▸ hp)).1⟩,
      fun piece hp c hc => ?_⟩
    -- The path is the end of the trimmed name, so its last name ends as that does.
    have ne : piece ≠ [] := fun e => full (e ▸ List.mem_of_getLast? hp)
    have last := getLast?_intercalate hp ne '.'
    rw [split, List.intercalate_splitOn, hc] at last
    obtain ⟨lead, whole⟩ := pathOf_suffix name
    apply Text.not_blank_of_getLast?_trim (s := name)
    rw [← whole, List.getLast?_append, last, Option.some_or]

/-- The names on the path are parts of the name that is read. -/
theorem sublist_of_parse (h : parse name = .ok t) : ∀ piece ∈ t.segments, piece.Sublist name := by
  by_cases other : Text.trim name = [] ∨ Text.trim name = rootName
  · obtain rfl := Except.ok.inj ((parse_of_root other).symm.trans h)
    exact fun _ none => absurd none List.not_mem_nil
  · intro piece hp
    rw [((parse_eq_ok_iff other).mp h).1] at hp
    exact (mem_splitOn hp).2.trans ((pathOf_suffix name).sublist.trans (Text.trim_sublist name))

namespace Findable

/-- Nothing is trimmed off a path if its first name does not begin with a blank. -/
theorem trim_path (h : t.Findable) (start : ∀ name, t.segments.head? = some name →
    ∀ c, name.head? = some c → Text.isBlank c = false) :
    Text.trim (['.'].intercalate t.segments) = ['.'].intercalate t.segments := by
  refine Text.trim_eq_self_iff.mpr ⟨fun c hc => ?_, fun c hc => ?_⟩
  · cases ht : t.segments with
    | nil =>
        rw [ht] at hc
        cases hc
    | cons first rest =>
        have ne : first ≠ [] := (h.names first (by simp [ht])).1
        rw [ht, intercalate_cons_eq, List.head?_append, List.head?_eq_some_head ne,
          Option.some_or, ← List.head?_eq_some_head ne] at hc
        exact start first (by simp [ht]) c hc
  · cases ht : t.segments.getLast? with
    | none =>
        rw [List.getLast?_eq_none_iff.mp ht] at hc
        cases hc
    | some name =>
        have ne : name ≠ [] := (h.names name (List.mem_of_getLast? ht)).1
        rw [getLast?_intercalate ht ne] at hc
        exact h.last name ht c hc

theorem cons_root (h : t.Findable) : Findable ⟨rootName :: t.segments⟩ := by
  refine ⟨List.forall_mem_cons.mpr ⟨by decide, h.names⟩, fun name hn c hc => ?_⟩
  rw [List.getLast?_cons, Option.some.injEq] at hn
  cases ht : t.segments.getLast? with
  | none =>
      rw [ht, Option.getD_none] at hn
      subst hn
      obtain rfl : 'n' = c := Option.some.inj hc
      decide
  | some last =>
      rw [ht, Option.getD_some] at hn
      subst hn
      exact h.last last ht c hc

theorem trim_fullName (h : t.Findable) : Text.trim t.fullName = t.fullName := by
  rw [fullName_eq_intercalate]
  refine h.cons_root.trim_path fun name hn c hc => ?_
  obtain rfl : rootName = name := Option.some.inj hn
  obtain rfl : 'T' = c := Option.some.inj hc
  decide

theorem parse_fullName (h : t.Findable) : Token.parse t.fullName = .ok t := by
  by_cases ht : t.segments = []
  · rw [eq_root ht]
    rfl
  · have other : ¬(Text.trim t.fullName = [] ∨ Text.trim t.fullName = rootName) := by
      rw [h.trim_fullName, fullName_eq ht]
      simp
    have path : pathOf t.fullName = ['.'].intercalate t.segments := by
      rw [pathOf_eq, h.trim_fullName, fullName_eq ht, Text.after?_append, Option.getD_some]
    refine (parse_eq_ok_iff other).mpr ⟨?_, fun hn => (h.names [] hn).1 rfl⟩
    rw [path, List.splitOn_intercalate '.' (fun name hn => (h.names name hn).2) ht]

end Findable

theorem parse_fullName_iff : parse t.fullName = .ok t ↔ t.Findable :=
  ⟨findable_of_parse, Findable.parse_fullName⟩

namespace Canonical

theorem findable (h : t.Canonical) : t.Findable :=
  ⟨fun name hn => ⟨(h.names name hn).1, (h.names name hn).2.1⟩, h.last⟩

theorem lineFeed_not_mem_fullName (h : t.Canonical) : '\n' ∉ t.fullName :=
  fullName_on_line fun name hn => (h.names name hn).2.2

end Canonical

theorem fullName_injective {t u : Token} (ht : t.Canonical) (hu : u.Canonical)
    (h : t.fullName = u.fullName) : t = u :=
  injOn_fullName (fun name hn => (ht.names name hn).2.1) (fun name hn => (hu.names name hn).2.1) h

/-- A name within one line is that of a canonical token, if it is one's. -/
theorem canonical_of_parse (h : parse name = .ok t) (line : '\n' ∉ name) : t.Canonical := by
  have found := findable_of_parse h
  refine ⟨fun piece hp => ⟨(found.names piece hp).1, (found.names piece hp).2, fun m => ?_⟩,
    found.last⟩
  exact line ((sublist_of_parse h piece hp).mem m)

/-- A blank name and the name of the root stand for the root. Any other name stands for the
token of its path, if none of the names between the dots is empty, and is refused if one is.
A token is found again under its full name exactly if the names on its path are not empty
and hold no dots and the last of them does not end with a blank, as is the case for all
tokens that are read. Where the names hold no dots, no two tokens have one full name. -/
theorem parse_reads_path :
    (∀ name, (parse name = .ok root ↔ Text.trim name = [] ∨ Text.trim name = rootName) ∧
      (¬(Text.trim name = [] ∨ Text.trim name = rootName) →
        (∀ t, parse name = .ok t ↔ t.segments = (pathOf name).splitOn '.' ∧ [] ∉ t.segments) ∧
        ([] ∈ (pathOf name).splitOn '.' →
          parse name = .error (.invalidToken (Text.trim name)))) ∧
      ∀ t, parse name = .ok t → t.Findable) ∧
    (∀ t, parse t.fullName = .ok t ↔ t.Findable) ∧
    Set.InjOn fullName {t | t.Dotless} := by
  refine ⟨fun name => ⟨parse_eq_root_iff, fun other => ⟨fun t => ?_, ?_⟩, fun t => ?_⟩,
    fun t => parse_fullName_iff, injOn_fullName⟩
  · exact parse_eq_ok_iff other
  · exact parse_of_gap other
  · exact findable_of_parse

/-- The name of the root is taken off once and blanks only around the whole name; what is
left of a name can be empty. -/
theorem parse_reads_path_repeated_root :
    let t : Token := ⟨["Token".toList, " a b".toList]⟩
    let u : Token := root.child "a ".toList
    parse "\t Token.Token. a b\n".toList = .ok t ∧ parse t.fullName = .ok t ∧
      parse " Token. ".toList = .error (.invalidToken "Token.".toList) ∧
      parse u.fullName ≠ .ok u ∧ fullName ⟨[[], []]⟩ ≠ fullName ⟨[[]]⟩ := by
  intro t u
  obtain ⟨reads, found, injective⟩ := parse_reads_path
  obtain ⟨-, whole, keeps⟩ := reads "\t Token.Token. a b\n".toList
  obtain ⟨-, bare, -⟩ := reads " Token. ".toList
  have read : parse "\t Token.Token. a b\n".toList = .ok t :=
    ((whole (by decide)).1 t).mpr (by decide)
  refine ⟨read, (found t).mpr (keeps t read), (bare (by decide)).2 (by decide), ?_, ?_⟩
  · exact fun read => absurd ((found u).mp read) (by decide)
  · intro same
    have empty (names : List Text) (h : names.all (· = []) = true) : (Token.mk names).Dotless := by
      intro name hn
      simp [of_decide_eq_true (List.all_eq_true.mp h name hn)]
    exact absurd (injective (empty _ rfl) (empty _ rfl) same) (by decide)

end Token
end ColorScheme
