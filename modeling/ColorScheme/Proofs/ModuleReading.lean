import ColorScheme.Proofs.ModuleLines
import ColorScheme.Proofs.SourceRoundTrip

/-!
Style modules read back. The reader takes from the lines of a module what Python
would: the two colors, the rows of the table and the names that are imported. It
knows the literals that are written, in which a backslash stands before a quote or a
backslash only, and both ways of writing a token.
-/

namespace ColorScheme

open Text (physicalLines)

namespace StyleModule

/-- What a literal says from behind its opening quote, and what follows it. -/
def readLiteral? : Text → Option (Text × Text)
  | [] => none
  | '"' :: rest => some ([], rest)
  | '\\' :: c :: rest =>
      if c = '\\' ∨ c = '"' then (readLiteral? rest).map fun (s, rest) => (c :: s, rest) else none
  | c :: rest => (readLiteral? rest).map fun (s, rest) => (c :: s, rest)

/-- The name of the token that an expression stands for, and what follows it. -/
def readKey? (s : Text) : Option (Text × Text) :=
  match Text.after? "string_to_tokentype(\"".toList s with
  | some s => do
      let (name, rest) ← readLiteral? s
      return (name, ← Text.after? [')'] rest)
  | none => do
      let (path, rest) ← Text.cut? (· = ':') s
      if (path.splitOn '.').all isIdentifier then return (path, ':' :: rest) else none

/-- The name of the token and the style in a line of the table. -/
def readRow? (line : Text) : Option (Text × Text) := do
  let (name, s) ← readKey? (← Text.after? "        ".toList line)
  let (style, rest) ← readLiteral? (← Text.after? ": \"".toList s)
  if rest = [','] then return (name, style) else none

def readAssignment? (field line : Text) : Option Text := do
  let s ← Text.after? ("    ".toList ++ field ++ " = \"".toList) line
  let (value, rest) ← readLiteral? s
  if rest = [] then return value else none

/-- The lines between the braces of the table. -/
def tableLines (ls : List Text) : List Text :=
  ((ls.dropWhile (· ≠ "    styles = \x7b".toList)).drop 1).takeWhile (· ≠ "    \x7d".toList)

def callsLookup (line : Text) : Bool :=
  (Text.after? "        string_to_tokentype(".toList line).isSome

def importedNames (line : Text) : List Text :=
  match Text.after? "from pygments.token import ".toList line with
  | some names => (names.splitOn ',').map Text.trim
  | none => []

theorem readLiteral?_escaped {c : Char} (h : c = '\\' ∨ c = '"') (rest : Text) :
    readLiteral? ('\\' :: c :: rest) = (readLiteral? rest).map fun (s, rest) => (c :: s, rest) :=
  if_pos h

theorem readLiteral?_cons {c : Char} (backslash : c ≠ '\\') (quote : c ≠ '"') (rest : Text) :
    readLiteral? (c :: rest) = (readLiteral? rest).map fun (s, rest) => (c :: s, rest) := by
  rw [readLiteral?]
  · exact quote
  · rintro _ _ rfl
    exact absurd rfl backslash

/-- A literal says what was escaped in it. -/
theorem readLiteral?_escape (s rest : Text) :
    readLiteral? (escape s ++ '"' :: rest) = some (s, rest) := by
  induction s with
  | nil => rfl
  | cons c s ih =>
      obtain ⟨escaped, special⟩ | ⟨plain, backslash, quote⟩ := escape_cons_cases c s
      · rw [escaped, List.cons_append, List.cons_append, readLiteral?_escaped special, ih]
        rfl
      · rw [plain, List.cons_append, readLiteral?_cons backslash quote, ih]
        rfl

theorem escape_of_quiet {s : Text} (h : ∀ c ∈ s, Quiet c) : escape s = s := by
  induction s with
  | nil => rfl
  | cons c s ih =>
      rw [List.forall_mem_cons] at h
      obtain ⟨-, rfl | rfl⟩ | ⟨plain, -⟩ := escape_cons_cases c s
      · exact absurd rfl h.1.2.1
      · exact absurd rfl h.1.1
      · rw [plain, ih h.2]

theorem readLiteral?_of_quiet {s : Text} (h : ∀ c ∈ s, Quiet c) (rest : Text) :
    readLiteral? (s ++ '"' :: rest) = some (s, rest) := by
  have written := readLiteral?_escape s rest
  rwa [escape_of_quiet h] at written

theorem colon_not_mem_of_attributePath {t : Token} (h : isAttributePath t = true) :
    ':' ∉ t.fullName := by
  intro colon
  obtain word | other | other := forall_mem_of_attributePath h ':' colon
  · exact absurd word (by decide)
  · exact absurd other (by decide)
  · exact absurd other (by decide)

/-- A token is known again by the expression for it. -/
theorem readKey?_tokenExpression {t : Token} (h : t.Canonical) (rest : Text) :
    readKey? (tokenExpression t ++ ':' :: rest) = some (t.fullName, ':' :: rest) := by
  rw [tokenExpression]
  split
  · next path =>
      have bare : Text.after? "string_to_tokentype(\"".toList (t.fullName ++ ':' :: rest) = none :=
        rfl
      have names : ((t.fullName.splitOn '.').all isIdentifier) = true := by
        rw [Token.splitOn_fullName fun name hn => (h.names name hn).2.1, List.all_cons]
        exact Bool.and_eq_true_iff.mpr ⟨by decide, path⟩
      rw [readKey?, bare]
      dsimp only
      rw [Text.cut?_char (colon_not_mem_of_attributePath path)]
      exact if_pos names
  · rw [readKey?, List.append_assoc, List.append_assoc, Text.after?_append]
    have literal : readLiteral? (escape t.fullName ++ ("\")".toList ++ ':' :: rest)) =
        some (t.fullName, ')' :: ':' :: rest) := readLiteral?_escape t.fullName (')' :: ':' :: rest)
    dsimp only
    rw [literal]
    rfl

theorem readRow?_entryLine {t : Token} (h : t.Canonical) (s : Style) :
    readRow? (entryLine t s.text) = some (t.fullName, s.text) := by
  unfold entryLine
  rw [List.append_assoc, List.append_assoc, List.append_assoc, readRow?, Text.after?_append]
  have key := readKey?_tokenExpression h (" \"".toList ++ (s.text ++ "\",".toList))
  have style : readLiteral? (s.text ++ "\",".toList) = some (s.text, [',']) :=
    readLiteral?_of_quiet s.quiet_text [',']
  change (readKey?
    (tokenExpression t ++ ':' :: (" \"".toList ++ (s.text ++ "\",".toList)))).bind _ = _
  rw [key]
  change (readLiteral? (s.text ++ "\",".toList)).bind _ = _
  rw [style]
  rfl

theorem readAssignment?_line (field : Text) (c : Color) :
    readAssignment? field ("    ".toList ++ field ++ " = \"".toList ++ c.text ++ ['"']) =
      some c.text := by
  have value : readLiteral? (c.text ++ ['"']) = some (c.text, []) :=
    readLiteral?_of_quiet c.quiet_text []
  rw [readAssignment?, List.append_assoc _ c.text, Text.after?_append]
  change (readLiteral? (c.text ++ ['"'])).bind _ = _
  rw [value]
  rfl

theorem callsLookup_entryLine (t : Token) (style : Text) :
    callsLookup (entryLine t style) = !isAttributePath t := by
  unfold entryLine
  cases path : isAttributePath t <;> rw [tokenExpression, path] <;> rfl

theorem tableLines_logicalLines (name : Text) (s : Scheme) :
    tableLines (logicalLines name s) = s.styles.entries.map fun e => entryLine e.1 e.2.text := by
  have before (rest : List Text) :
      ((header name s.toSource ++ rest).dropWhile (· ≠ "    styles = \x7b".toList)).drop 1 = rest :=
    rfl
  rw [tableLines, logicalLines, List.append_assoc, before, List.takeWhile_append_of_pos]
  · exact List.append_nil _
  · intro l hl
    obtain ⟨e, -, rfl⟩ := List.mem_map.mp hl
    rfl

/-- The field that the lines before the table assign once is assigned nowhere else. -/
theorem filterMap_readAssignment {field : Text} {name : Text} {s : Scheme} {c : Color}
    (once : (header name s.toSource).flatMap (fun l => (readAssignment? field l).toList) =
      (readAssignment? field
        ("    ".toList ++ field ++ " = \"".toList ++ c.text ++ ['"'])).toList ++ [])
    (entry : ∀ t style, readAssignment? field (entryLine t style) = none)
    (close : readAssignment? field "    \x7d".toList = none) :
    (logicalLines name s).filterMap (readAssignment? field) = [c.text] := by
  have entries : (s.styles.entries.map fun e => entryLine e.1 e.2.text).filterMap
      (readAssignment? field) = [] := by
    rw [List.filterMap_map, List.filterMap_eq_nil_iff]
    exact fun e _ => entry e.1 e.2.text
  rw [logicalLines, List.filterMap_append, List.filterMap_append, entries,
    List.filterMap_cons_none close, List.filterMap_eq_flatMap_toList, once, readAssignment?_line]
  rfl

theorem importedNames_logicalLines (name : Text) (s : Scheme) :
    (logicalLines name s).flatMap importedNames =
      "Token".toList ::
        if s.styles.keys.all isAttributePath then [] else ["string_to_tokentype".toList] := by
  have keys : s.toSource.styles.keys = s.styles.keys := List.map_map
  have entries : (s.styles.entries.map fun e => entryLine e.1 e.2.text).flatMap importedNames =
      [] := by
    rw [List.flatMap_map, List.flatMap_eq_nil_iff]
    exact fun e _ => rfl
  rw [logicalLines, List.flatMap_append, List.flatMap_append, entries, header, keys]
  cases s.styles.keys.all isAttributePath <;> rfl

theorem any_callsLookup (s : Scheme) :
    (s.styles.entries.map fun e => entryLine e.1 e.2.text).any callsLookup =
      !s.styles.keys.all isAttributePath := by
  rw [List.any_map, SortedTable.keys, List.all_map, List.not_all_eq_any_not]
  exact congrArg (List.any _) (funext fun e => callsLookup_entryLine e.1 e.2.text)

theorem ofRows_fullName {s : Scheme} (canonical : ∀ t ∈ s.styles.keys, t.Canonical) :
    Source.ofRows s.background.text s.highlight.text
        (s.styles.entries.map fun e => (e.1.fullName, e.2.text)) =
      .ok { s.toSource with origin := none } := by
  have parsed : (s.styles.entries.map fun e => (e.1.fullName, e.2.text)).mapM Source.named =
      .ok (s.styles.map Style.text).entries := by
    rw [mapM_eq_ok_iff, SortedTable.map, List.forall₂_map_left_iff, List.forall₂_map_right_iff,
      List.forall₂_same]
    intro e he
    rw [Source.named, (canonical e.1 (List.mem_map.mpr ⟨e, he, rfl⟩)).findable.parse_fullName]
    rfl
  rw [Source.ofRows_eq, parsed]
  have table : SortedTable.ofList (s.styles.map Style.text).entries = s.styles.map Style.text :=
    SortedTable.ofList_entries _
  exact congrArg
    (fun styles => Except.ok (Source.mk s.background.text s.highlight.text styles none)) table

/-- Nothing is lost in a module. The lines of the table are the entries of the scheme
in their order, under different keys; the colors and the rows make up the scheme
again; and the function that looks tokens up is imported where some key calls it. -/
theorem write_reads_back (name : Text) (s : Scheme) (full : s.StylesSetSomething)
    (canonical : ∀ t ∈ s.styles.keys, t.Canonical) (lines : ∀ t ∈ s.styles.keys, t.OnOneLine) :
    let ls := physicalLines (write name s)
    let rows := s.styles.entries.map fun e => (e.1.fullName, e.2.text)
    (tableLines ls).map readRow? = rows.map some ∧
    (rows.map (·.1)).Nodup ∧
    (∃ background highlight,
      ls.filterMap (readAssignment? "background_color".toList) = [background] ∧
      ls.filterMap (readAssignment? "highlight_color".toList) = [highlight] ∧
      (Source.ofRows background highlight rows).bind Source.toScheme = .ok s) ∧
    ls.flatMap importedNames = "Token".toList ::
      if (tableLines ls).any callsLookup then ["string_to_tokentype".toList] else [] := by
  intro ls rows
  have written : ls = logicalLines name s := physicalLines_write lines name
  have table : tableLines ls = s.styles.entries.map fun e => entryLine e.1 e.2.text := by
    rw [written, tableLines_logicalLines]
  refine ⟨?_, ?_, ⟨s.background.text, s.highlight.text, ?_, ?_, ?_⟩, ?_⟩
  · rw [table, List.map_map, List.map_map]
    refine List.map_congr_left fun e he => ?_
    exact readRow?_entryLine (canonical e.1 (List.mem_map.mpr ⟨e, he, rfl⟩)) e.2
  · have names : rows.map (·.1) = s.styles.keys.map Token.fullName := by
      rw [List.map_map, SortedTable.keys, List.map_map]
      rfl
    rw [names]
    refine s.styles.keys_nodup.map_on fun t ht u hu same => ?_
    exact Token.fullName_injective (canonical t ht) (canonical u hu) same
  · rw [written]
    exact filterMap_readAssignment rfl (fun _ _ => rfl) rfl
  · rw [written]
    exact filterMap_readAssignment rfl (fun _ _ => rfl) rfl
  · rw [ofRows_fullName canonical]
    exact s.toScheme_detached full
  · rw [table, any_callsLookup, written, importedNames_logicalLines]
    cases s.styles.keys.all isAttributePath <;> rfl

/-- A name that ends the call and the line, as far as its characters go, and ends with
a backslash. -/
theorem write_reads_back_quotes :
    let string := Token.root.child "String".toList
    let odd := Token.root.child "\"): \"bold\",\\".toList
    let s := (Scheme.insert {} string { bold := some true }).insert odd { color := some .white }
    let ls := physicalLines (write "256".toList s)
    s.StylesSetSomething ∧ (∀ t ∈ s.styles.keys, t.Canonical ∧ t.OnOneLine) ∧
      (tableLines ls).map readRow? =
        [some (odd.fullName, "#ffffff".toList), some ("Token.String".toList, "bold".toList)] ∧
      ls.flatMap importedNames = ["Token".toList, "string_to_tokentype".toList] ∧
      ∃ background highlight,
        (Source.ofRows background highlight
          [(odd.fullName, "#ffffff".toList), ("Token.String".toList, "bold".toList)]).bind
            Source.toScheme = .ok s := by
  intro string odd s ls
  have full : s.StylesSetSomething := by decide
  have names : ∀ t ∈ s.styles.keys, t.Canonical ∧ t.OnOneLine := by decide
  obtain ⟨entries, -, ⟨background, highlight, -, -, scheme⟩, imports⟩ :=
    write_reads_back "256".toList s full (fun t ht => (names t ht).1) fun t ht => (names t ht).2
  have called : (tableLines ls).any callsLookup = true := by decide +kernel
  refine ⟨full, names, entries, ?_, background, highlight, scheme⟩
  rw [imports, called]
  rfl

end StyleModule
end ColorScheme
