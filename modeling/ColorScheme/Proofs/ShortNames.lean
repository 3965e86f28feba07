import ColorScheme.Token.Catalogue
import ColorScheme.Proofs.TokenNames

/-!
Which tokens their short names stand for. Of the tokens that are read only the
root and the token below it that repeats its name share a short name. A short
name is not read as its token where the path begins with the name of the root,
which is taken for the root, or with a blank, which is trimmed. The catalogue
goes by short names, so it cannot tell the two tokens that share one.
-/

namespace ColorScheme.Token

variable {name : Text} {t u : Token}

theorem Findable.dotless (h : t.Findable) : t.Dotless :=
  fun name hn => (h.names name hn).2

theorem shortName_root : root.shortName = rootName := rfl

theorem shortName_eq (h : t.segments ≠ []) : t.shortName = ['.'].intercalate t.segments :=
  if_neg (by simpa [isRoot] using h)

theorem splitOn_shortName (h : t.Dotless) (ne : t.segments ≠ []) :
    t.shortName.splitOn '.' = t.segments := by
  rw [shortName_eq ne, List.splitOn_intercalate '.' h ne]

/-- Behind the name of the root the short name goes on as a full name. -/
theorem shortName_of_repeated_root {rest : List Text} (h : t.segments = rootName :: rest) :
    t.shortName = fullName ⟨rest⟩ := by
  rw [shortName_eq (by simp [h]), fullName_eq_intercalate, h]

theorem pathOf_rootName : pathOf rootName = rootName := by decide

/-- What is read as a token, unless it is blank, is its short name with or without the root
in front, and with or without blanks around. -/
theorem shortName_of_parse (h : parse name = .ok t) (ne : Text.trim name ≠ []) :
    t.shortName = pathOf name := by
  by_cases isRoot : Text.trim name = rootName
  · obtain rfl := Except.ok.inj ((parse_of_root (.inr isRoot)).symm.trans h)
    have path : pathOf name = pathOf rootName := by
      have own : Text.trim rootName = rootName := by decide
      rw [pathOf, pathOf, isRoot, own]
    rw [path, pathOf_rootName, shortName_root]
  · obtain ⟨split, -⟩ := (parse_eq_ok_iff (not_or.mpr ⟨ne, isRoot⟩)).mp h
    have below : t.segments ≠ [] := by
      rw [split]
      exact List.splitOn_ne_nil '.' (pathOf name)
    rw [shortName_eq below, split, List.intercalate_splitOn]

/-! ### Tokens that share a short name -/

theorem shortName_eq_rootName_iff (h : t.Dotless) :
    t.shortName = rootName ↔ t = root ∨ t = root.child rootName := by
  constructor
  · intro same
    by_cases ht : t.segments = []
    · exact .inl (eq_root ht)
    · have split := splitOn_shortName h ht
      have single : rootName.splitOn '.' = [rootName] := by decide
      rw [same, single] at split
      exact .inr (congrArg mk split.symm)
  · rintro (rfl | rfl) <;> rfl

theorem shortName_eq_iff (ht : t.Dotless) (hu : u.Dotless) :
    t.shortName = u.shortName ↔
      t = u ∨ (t = root ∧ u = root.child rootName) ∨ (t = root.child rootName ∧ u = root) := by
  constructor
  · intro same
    by_cases none : t = root ∨ u = root
    · -- The one short name is that of the root, so each is one of the two tokens that have it.
      have both : t.shortName = rootName ∧ u.shortName = rootName := by
        obtain rfl | rfl := none
        · exact ⟨rfl, same.symm⟩
        · exact ⟨same, rfl⟩
      obtain rfl | rfl := (shortName_eq_rootName_iff ht).mp both.1 <;>
        obtain rfl | rfl := (shortName_eq_rootName_iff hu).mp both.2 <;> simp
    · obtain ⟨tn, un⟩ := not_or.mp none
      have names := splitOn_shortName ht fun e => tn (eq_root e)
      rw [same, splitOn_shortName hu fun e => un (eq_root e)] at names
      exact .inl (congrArg mk names.symm)
  · rintro (rfl | ⟨rfl, rfl⟩ | ⟨rfl, rfl⟩) <;> rfl

/-! ### Short names that are read back -/

/-- A text that is a path as it stands has no blanks around. -/
theorem trim_of_pathOf_eq {s : Text} (h : pathOf s = s) : Text.trim s = s := by
  have whole : s <:+ Text.trim s := by
    conv_lhs => rw [← h]
    exact pathOf_suffix s
  exact (whole.eq_of_length_le (Text.trim_sublist s).length_le).symm

theorem Findable.tail {first : Text} {rest : List Text} (h : t.Findable)
    (ht : t.segments = first :: rest) : Findable ⟨rest⟩ := by
  refine ⟨fun name hn => h.names name (by simp [ht, show name ∈ rest from hn]),
    fun name hn => h.last name ?_⟩
  rw [ht, List.getLast?_cons, show rest.getLast? = some name from hn, Option.getD_some]

theorem Findable.head?_shortName {first : Text} (h : t.Findable)
    (ht : t.segments.head? = some first) : t.shortName.head? = first.head? := by
  obtain ⟨rest, segments⟩ := List.head?_eq_some_iff.mp ht
  have ne : first ≠ [] := (h.names first (by simp [segments])).1
  rw [shortName_eq (by simp [segments]), segments, intercalate_cons_eq, List.head?_append,
    List.head?_eq_some_head ne, Option.some_or]

theorem not_repeated_root_of_parse {first : Text} (h : t.Findable)
    (ht : t.segments.head? = some first) (read : parse t.shortName = .ok t) :
    first ≠ rootName := by
  rintro rfl
  obtain ⟨rest, segments⟩ := List.head?_eq_some_iff.mp ht
  have shorter : parse t.shortName = .ok ⟨rest⟩ := by
    rw [shortName_of_repeated_root segments]
    exact (h.tail segments).parse_fullName
  have same : t = ⟨rest⟩ := Except.ok.inj (read.symm.trans shorter)
  rw [same] at segments
  exact List.cons_ne_self _ _ segments.symm

theorem not_blank_of_parse {first : Text} (h : t.Findable)
    (ht : t.segments.head? = some first) (read : parse t.shortName = .ok t) :
    ∀ c, first.head? = some c → Text.isBlank c = false := by
  have ne : Text.trim t.shortName ≠ [] := by
    intro blank
    rw [Except.ok.inj (read.symm.trans (parse_of_root (.inl blank)))] at ht
    cases ht
  have path := shortName_of_parse read ne
  intro c hc
  exact (Text.trim_eq_self_iff.mp (trim_of_pathOf_eq path.symm)).1 c
    ((h.head?_shortName ht).trans hc)

/-- A text that begins like a full name is one. -/
theorem exists_fullName {s : Text} (h : s = rootName ∨ rootName ++ ['.'] <+: s) :
    ∃ u : Token, u.Dotless ∧ u.fullName = s := by
  obtain rfl | ⟨path, rfl⟩ := h
  · exact ⟨root, fun _ none => absurd none List.not_mem_nil, fullName_root⟩
  · refine ⟨⟨path.splitOn '.'⟩, fun piece hp => (mem_splitOn hp).1, ?_⟩
    have pieces : (Token.mk (path.splitOn '.')).segments ≠ [] := List.splitOn_ne_nil '.' path
    rw [fullName_eq pieces, List.intercalate_splitOn]

theorem Findable.parse_shortName {first : Text} (h : t.Findable)
    (ht : t.segments.head? = some first) (other : first ≠ rootName)
    (start : ∀ c, first.head? = some c → Text.isBlank c = false) :
    parse t.shortName = .ok t := by
  have below : t.segments ≠ [] := fun none => by simp [none] at ht
  have split := splitOn_shortName h.dotless below
  have trimmed : Text.trim t.shortName = t.shortName := by
    rw [shortName_eq below]
    refine h.trim_path fun name hn => ?_
    obtain rfl := Option.some.inj (ht.symm.trans hn)
    exact start
  -- Were it full, its first piece and so the first name would be that of the root.
  have bare : ¬(t.shortName = rootName ∨ rootName ++ ['.'] <+: t.shortName) := by
    intro full
    obtain ⟨u, hu, same⟩ := exists_fullName full
    rw [← same, splitOn_fullName hu] at split
    rw [← split] at ht
    exact other (Option.some.inj ht).symm
  have path : pathOf t.shortName = t.shortName := by
    rw [pathOf, trimmed]
    exact if_neg fun lead => bare (.inr lead)
  have full : [] ∉ t.segments := fun hn => (h.names [] hn).1 rfl
  have ne : t.shortName ≠ [] := by
    intro none
    rw [none] at split
    exact full (split ▸ List.mem_singleton.mpr rfl)
  refine (parse_eq_ok_iff ?_).mpr ⟨by rw [path, split], full⟩
  rw [trimmed]
  exact not_or.mpr ⟨ne, fun isRoot => bare (.inl isRoot)⟩

theorem parse_shortName_iff (h : t.Findable) :
    parse t.shortName = .ok t ↔ t = root ∨ ∃ first, t.segments.head? = some first ∧
      first ≠ rootName ∧ ∀ c, first.head? = some c → Text.isBlank c = false := by
  constructor
  · intro read
    cases ht : t.segments.head? with
    | none => exact .inl (eq_root (List.head?_eq_none_iff.mp ht))
    | some first =>
        exact .inr ⟨first, rfl, not_repeated_root_of_parse h ht read, not_blank_of_parse h ht read⟩
  · rintro (rfl | ⟨first, ht, other, start⟩)
    · exact parse_of_root (.inr (by decide))
    · exact h.parse_shortName ht other start

/-- A token that is read is read again by its short name exactly if it is the root or the
first name on its path neither is that of the root nor begins with a blank. No two tokens
that are read have one short name, but for the root and the token below it of its name. -/
theorem shortName_identifies :
    (∀ name t, parse name = .ok t →
      (parse t.shortName = .ok t ↔ t = root ∨ ∃ first, t.segments.head? = some first ∧
        first ≠ rootName ∧ ∀ c, first.head? = some c → Text.isBlank c = false)) ∧
    ∀ name other t u, parse name = .ok t → parse other = .ok u →
      (t.shortName = u.shortName ↔
        t = u ∨ (t = root ∧ u = root.child rootName) ∨ (t = root.child rootName ∧ u = root)) := by
  constructor
  · intro name t read
    exact parse_shortName_iff (findable_of_parse read)
  · intro name other t u read also
    exact shortName_eq_iff (findable_of_parse read).dotless (findable_of_parse also).dotless

/-- Behind the root a name may begin with a blank or repeat the root, and then its short name
is read as another token. -/
theorem shortName_identifies_look_alikes :
    let spaced : Token := ⟨[" a".toList, "Token".toList]⟩
    let repeated : Token := root.child rootName
    parse "Token. a.Token".toList = .ok spaced ∧ parse spaced.shortName ≠ .ok spaced ∧
      parse "Token.Token".toList = .ok repeated ∧ parse repeated.shortName ≠ .ok repeated ∧
      parse [] = .ok root ∧ root.shortName = repeated.shortName ∧
      spaced.shortName ≠ repeated.shortName := by
  intro spaced repeated
  have blank : parse "Token. a.Token".toList = .ok spaced := rfl
  have twice : parse "Token.Token".toList = .ok repeated := rfl
  obtain ⟨again, apart⟩ := shortName_identifies
  refine ⟨blank, fun read => ?_, twice, fun read => ?_, rfl, ?_, fun same => ?_⟩
  · obtain isRoot | ⟨first, ht, -, start⟩ := (again _ _ blank).mp read
    · exact absurd isRoot (by decide)
    · obtain rfl := Option.some.inj ht
      exact absurd (start ' ' rfl) (by decide)
  · obtain isRoot | ⟨first, ht, other, -⟩ := (again _ _ twice).mp read
    · exact absurd isRoot (by decide)
    · exact other (Option.some.inj ht).symm
  · exact (apart [] _ _ _ rfl twice).mpr (.inr (.inl ⟨rfl, rfl⟩))
  · exact absurd ((apart _ _ _ _ blank twice).mp same) (by decide)

end ColorScheme.Token
