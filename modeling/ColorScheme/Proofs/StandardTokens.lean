import ColorScheme.Proofs.ShortNames

/-!
What the catalogue of standard names says about tokens. Each of its entries is the short
name of the token that it is read as, and apart from these tokens only the one that shares
the short name of the root is called standard.
-/

namespace ColorScheme.Token

/-- A path without empty names is the short name of the token it is read as. -/
theorem exists_parse_of_path {path : Text} (whole : pathOf path = path) (ne : path ≠ [])
    (full : [] ∉ path.splitOn '.') : ∃ t, parse path = .ok t ∧ t.shortName = path := by
  have trimmed : Text.trim path = path := trim_of_pathOf_eq whole
  have read : ∃ t, parse path = .ok t := by
    by_cases isRoot : path = rootName
    · exact ⟨root, parse_of_root (.inr (trimmed.trans isRoot))⟩
    · refine ⟨⟨path.splitOn '.'⟩, (parse_eq_ok_iff ?_).mpr ⟨by rw [whole], full⟩⟩
      rw [trimmed]
      exact not_or.mpr ⟨ne, isRoot⟩
  obtain ⟨t, read⟩ := read
  refine ⟨t, read, ?_⟩
  rw [shortName_of_parse read (trimmed.symm ▸ ne), whole]

theorem standardNames_are_paths :
    ∀ entry ∈ standardNames, pathOf entry = entry ∧ entry ≠ [] ∧ [] ∉ entry.splitOn '.' := by
  decide +kernel

theorem exists_parse_of_entry {entry : Text} (listed : entry ∈ standardNames) :
    ∃ t, parse entry = .ok t ∧ t.shortName = entry := by
  obtain ⟨whole, ne, full⟩ := standardNames_are_paths entry listed
  exact exists_parse_of_path whole ne full

theorem shortName_of_entry {entry : Text} {t : Token} (listed : entry ∈ standardNames)
    (read : parse entry = .ok t) : t.shortName = entry := by
  obtain ⟨u, also, same⟩ := exists_parse_of_entry listed
  rw [← same, Except.ok.inj (read.symm.trans also)]

theorem rootName_mem_standardNames : rootName ∈ standardNames :=
  List.mem_cons_self ..

/-- The entry with the name of the token that repeats the root is read as the root. -/
theorem parse_entry_ne_repeated_root {entry : Text} (listed : entry ∈ standardNames) :
    parse entry ≠ .ok (root.child rootName) := by
  intro read
  obtain rfl : rootName = entry := shortName_of_entry listed read
  have isRoot : parse rootName = .ok root := parse_of_root (.inr (by decide))
  exact absurd (Except.ok.inj (isRoot.symm.trans read)) (by decide)

theorem isStandard_iff (h : t.Dotless) :
    t.isStandard = true ↔
      (∃ entry ∈ standardNames, parse entry = .ok t) ∨ t = root.child rootName := by
  rw [isStandard, decide_eq_true_iff]
  constructor
  · intro listed
    obtain ⟨u, read, same⟩ := exists_parse_of_entry listed
    have hu : u.Dotless := (findable_of_parse read).dotless
    obtain rfl | ⟨-, repeated⟩ | ⟨rfl, -⟩ := (shortName_eq_iff hu h).mp same
    · exact .inl ⟨_, listed, read⟩
    · exact .inr repeated
    · exact absurd read (parse_entry_ne_repeated_root listed)
  · rintro (⟨entry, listed, read⟩ | rfl)
    · rwa [shortName_of_entry listed read]
    · exact rootName_mem_standardNames

/-- A token that is read is standard exactly if an entry of the catalogue is read as it too,
unless it is the one token that repeats the name of the root: that is standard, and no entry
is read as it. -/
theorem isStandard_of_parse {name : Text} {t : Token} (read : parse name = .ok t) :
    (t.isStandard = true ↔
      (∃ entry ∈ standardNames, parse entry = .ok t) ∨ t = root.child rootName) ∧
    ((t.isStandard = true ↔ ∃ entry ∈ standardNames, parse entry = .ok t) ↔
      t ≠ root.child rootName) := by
  have known := isStandard_iff (findable_of_parse read).dotless
  refine ⟨known, ?_, fun other => ?_⟩
  · rintro meant rfl
    obtain ⟨entry, listed, same⟩ := meant.mp (known.mpr (.inr rfl))
    exact parse_entry_ne_repeated_root listed same
  · rw [known]
    exact or_iff_left other

/-- Names of the catalogue count in full and with blanks around, but not below the root's
name. -/
theorem isStandard_of_parse_spellings :
    let escape : Token := ⟨["String".toList, "Escape".toList]⟩
    let below : Token := ⟨["Token".toList, "String".toList]⟩
    parse " Token.String.Escape\n".toList = .ok escape ∧ escape.isStandard = true ∧
      parse "Token.Token.String".toList = .ok below ∧ below.isStandard ≠ true := by
  intro escape below
  have spelled : parse " Token.String.Escape\n".toList = .ok escape := rfl
  have deep : parse "Token.Token.String".toList = .ok below := rfl
  have listed : "String.Escape".toList ∈ standardNames := List.mem_map_of_mem (by simp)
  refine ⟨spelled, ?_, deep, fun standard => ?_⟩
  · exact (isStandard_of_parse spelled).1.mpr (.inl ⟨_, listed, rfl⟩)
  · obtain ⟨entry, there, read⟩ | repeated := (isStandard_of_parse deep).1.mp standard
    · obtain rfl := shortName_of_entry there read
      exact absurd (standardNames_are_paths _ there).1 (by decide)
    · exact absurd repeated (by decide)

/-- The token that repeats the name of the root is standard though no entry is read as it. -/
theorem repeated_root_isStandard :
    let t := root.child rootName
    parse "Token.Token".toList = .ok t ∧
      ¬(t.isStandard = true ↔ ∃ entry ∈ standardNames, parse entry = .ok t) := by
  intro t
  refine ⟨rfl, fun known => ?_⟩
  have standard : t.isStandard = true := decide_eq_true rootName_mem_standardNames
  obtain ⟨entry, listed, read⟩ := known.mp standard
  exact parse_entry_ne_repeated_root listed read

end ColorScheme.Token
