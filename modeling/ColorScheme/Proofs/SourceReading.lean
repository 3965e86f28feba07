import ColorScheme.Source
import ColorScheme.Proofs.Blanks
import ColorScheme.Proofs.ColorLiterals
import ColorScheme.Proofs.SchemeContents

/-!
Sources that remember no scheme, read word by word. They are accepted if both literals and
the text of every token can be read, and then describe exactly what the texts say; else the
error is that of the first part that cannot be read, where tokens come in their order. Of a
table with several rows for one token only the last is ever looked at.
-/

namespace ColorScheme

/-- The color that a literal stands for, where an empty one stands for a default. -/
def Text.Denotes (literal : Text) (default c : Color) : Prop :=
  if literal = [] then c = default else Color.parse literal = .ok c

theorem Text.denotes_of_optional {literal : Text} (h : Color.IsOptionalLiteral literal)
    (default : Color) : literal.Denotes default ((Color.ofLiteral? literal).getD default) := by
  obtain rfl | literal := h
  · rfl
  · obtain ⟨c, read, parsed⟩ := Color.parse_of_isLiteral literal
    obtain ⟨digits, rfl, -⟩ := literal
    rw [Denotes, if_neg (by simp), parsed, read, Option.getD_some]

namespace Style

theorem parse_of_blank {words : Text} (blank : Text.trim words = []) : parse words = .ok empty := by
  rw [parse, apply, Text.words_eq_nil blank]
  rfl

end Style

namespace Scheme

theorem insert_empty_of_absent {s : Scheme} {t : Token} (absent : s.get? t = none) :
    s.insert t .empty = s := by
  have styles : (s.insert t .empty).styles = s.styles := by
    apply SortedTable.ext_get?
    intro u
    change (s.insert t .empty).get? u = s.get? u
    rw [get?_insert, if_pos rfl]
    split
    · next same => rw [same, absent]
    · rfl
  exact Scheme.ext rfl rfl styles

end Scheme

namespace Source

/-! ### The texts of the tokens -/

/-- The entry that the text of a token describes. -/
def entry (row : Token × Text) : Except Error (Token × Style) :=
  (Style.parse row.2).map (row.1, ·)

theorem entry_eq_ok_iff {row : Token × Text} {e : Token × Style} :
    entry row = .ok e ↔ row.1 = e.1 ∧ Style.parse row.2 = .ok e.2 := by
  rw [entry]
  cases Style.parse row.2 <;> simp [Except.map, Prod.ext_iff]

theorem entry_eq_error_iff {row : Token × Text} {e : Error} :
    entry row = .error e ↔ Style.parse row.2 = .error e := by
  rw [entry]
  cases Style.parse row.2 <;> simp [Except.map]

/-- What a blank text describes sets nothing, so that passing over it makes no difference as
long as its token has no style yet. -/
theorem foldlM_rows_eq {rows : List (Token × Text)} (distinct : (rows.map (·.1)).Nodup)
    {page : Scheme} (fresh : ∀ row ∈ rows, page.get? row.1 = none) :
    (rows.foldlM (fun scheme row => do
      if Text.trim row.2 = [] then return scheme
      return scheme.insert row.1 (← Style.parse row.2)) page : Except Error Scheme) =
      (rows.mapM entry).map page.insertAll := by
  induction rows generalizing page with
  | nil => rfl
  | cons row rows ih =>
      obtain ⟨new, distinct⟩ := List.nodup_cons.mp distinct
      obtain ⟨absent, fresh⟩ := List.forall_mem_cons.mp fresh
      have first : (do
          if Text.trim row.2 = [] then return page
          return page.insert row.1 (← Style.parse row.2) : Except Error Scheme) =
          (Style.parse row.2).map (page.insert row.1) := by
        by_cases blank : Text.trim row.2 = []
        · rw [if_pos blank, Style.parse_of_blank blank, Except.map,
            Scheme.insert_empty_of_absent absent]
          rfl
        · rw [if_neg blank]
          cases Style.parse row.2 <;> rfl
      rw [List.foldlM_cons, List.mapM_cons, first, entry]
      cases Style.parse row.2 with
      | error e => rfl
      | ok style =>
          have fresh' : ∀ other ∈ rows, (page.insert row.1 style).get? other.1 = none := by
            intro other there
            have unlike : other.1 ≠ row.1 := fun same =>
              new (List.mem_map.mpr ⟨other, there, same⟩)
            rw [Scheme.get?_insert, if_neg unlike, fresh other there]
          have rest := ih distinct fresh'
          change rows.foldlM _ (page.insert row.1 style) = _
          rw [rest]
          cases rows.mapM entry <;> rfl

section Entries

variable {rows : List (Token × Text)} {entries : List (Token × Style)}
  (read : List.Forall₂ (fun row e => entry row = .ok e) rows entries)

include read

theorem keys_of_entries : entries.map (·.1) = rows.map (·.1) := by
  induction read with
  | nil => rfl
  | cons first _ ih => rw [List.map_cons, List.map_cons, ih, (entry_eq_ok_iff.mp first).1]

theorem lookup_entries {t : Token} {style : Style} : entries.lookup t = some style ↔
    ∃ words, rows.lookup t = some words ∧ Style.parse words = .ok style := by
  induction read with
  | nil => simp
  | @cons row e rows entries first _ ih =>
      obtain ⟨key, parsed⟩ := entry_eq_ok_iff.mp first
      rw [lookup_cons_eq, lookup_cons_eq, key]
      by_cases here : t = e.1
      · simp [here, parsed]
      · rw [if_neg here, if_neg here]
        exact ih

/-- After all entries have been inserted, a token has the style that its text describes. -/
theorem get?_insertAll_entries (distinct : (rows.map (·.1)).Nodup) {page : Scheme}
    (fresh : page.styles = .empty) {t : Token} {style : Style} :
    (page.insertAll entries).get? t = some style ↔
      style ≠ .empty ∧ ∃ words, rows.lookup t = some words ∧ Style.parse words = .ok style := by
  have keys : (entries.map (·.1)).Nodup := keys_of_entries read ▸ distinct
  have bare : page.get? t = none := by rw [Scheme.get?, fresh, SortedTable.get?_empty]
  rw [Scheme.get?_insertAll, lookup_perm entries.reverse_perm keys, bare, ← lookup_entries read]
  cases entries.lookup t with
  | none => simp
  | some other =>
      rw [Option.elim_some]
      by_cases nothing : other = .empty
      · rw [if_pos nothing]
        refine iff_of_false (by simp) ?_
        rintro ⟨sets, same⟩
        exact sets ((Option.some.inj same).symm.trans nothing)
      · rw [if_neg nothing]
        refine ⟨fun same => ⟨?_, same⟩, fun h => h.2⟩
        exact Option.some.inj same ▸ nothing

end Entries

/-! ### What a conversion must come to -/

/-- The fault that stops a conversion: that of the first part that cannot be read. -/
inductive FirstFault (background highlight : Text) (words? : Token → Option Text) : Error → Prop
  | background : ¬ Color.IsOptionalLiteral background →
      FirstFault background highlight words? (.invalidColor background)
  | highlight : Color.IsOptionalLiteral background → ¬ Color.IsOptionalLiteral highlight →
      FirstFault background highlight words? (.invalidColor highlight)
  | style {t words e} : Color.IsOptionalLiteral background → Color.IsOptionalLiteral highlight →
      words? t = some words → Style.parse words = .error e →
      (∀ u, u < t → ∀ other, words? u = some other → ∃ style, Style.parse other = .ok style) →
      FirstFault background highlight words? e

/-- What is to come of two literals and of a text for some of the tokens: if all of them can
be read a scheme that says what they say, and else the first fault. -/
structure ReadExactly (background highlight : Text) (words? : Token → Option Text)
    (result : Except Error Scheme) : Prop where
  succeeds : (∃ s, result = .ok s) ↔
    Color.IsOptionalLiteral background ∧ Color.IsOptionalLiteral highlight ∧
      ∀ t words, words? t = some words → ∃ style, Style.parse words = .ok style
  page : ∀ s, result = .ok s →
    background.Denotes .white s.background ∧ highlight.Denotes .paleYellow s.highlight
  styles : ∀ s, result = .ok s → ∀ t style, s.get? t = some style ↔
    style ≠ .empty ∧ ∃ words, words? t = some words ∧ Style.parse words = .ok style
  fails : ∀ e, result = .error e → FirstFault background highlight words? e

/-- The page of a source before its styles are read. -/
def page (source : Source) : Scheme where
  background := (Color.ofLiteral? source.background).getD .white
  highlight := (Color.ofLiteral? source.highlight).getD .paleYellow

variable {source : Source}

theorem toScheme_of_literals (detached : source.origin = none)
    (background : Color.IsOptionalLiteral source.background)
    (highlight : Color.IsOptionalLiteral source.highlight) :
    source.toScheme = (source.styles.entries.mapM entry).map source.page.insertAll := by
  rw [← foldlM_rows_eq source.styles.keys_nodup (fun _ _ => rfl)]
  rw [toScheme, detached]
  dsimp only
  rw [Color.normalize_of_isOptionalLiteral background, Color.normalize_of_isOptionalLiteral highlight]
  rfl

theorem toScheme_of_bad_background (detached : source.origin = none)
    (background : ¬ Color.IsOptionalLiteral source.background) :
    source.toScheme = .error (.invalidColor source.background) := by
  rw [toScheme, detached]
  dsimp only
  rw [Color.normalize_of_not_isOptionalLiteral background]
  rfl

theorem toScheme_of_bad_highlight (detached : source.origin = none)
    (background : Color.IsOptionalLiteral source.background)
    (highlight : ¬ Color.IsOptionalLiteral source.highlight) :
    source.toScheme = .error (.invalidColor source.highlight) := by
  rw [toScheme, detached]
  dsimp only
  rw [Color.normalize_of_isOptionalLiteral background,
    Color.normalize_of_not_isOptionalLiteral highlight]
  rfl

theorem first_fault_of_entries {rows : List (Token × Text)}
    (ascending : rows.Pairwise fun a b => a.1 < b.1) {e : Error}
    (failed : rows.mapM entry = .error e) :
    ∃ t words, (t, words) ∈ rows ∧ Style.parse words = .error e ∧
      ∀ row ∈ rows, row.1 < t → ∃ style, Style.parse row.2 = .ok style := by
  obtain ⟨before, ⟨t, words⟩, after, rfl, fine, bad⟩ := exists_first_error failed
  obtain ⟨-, rest, -⟩ := List.pairwise_append.mp ascending
  obtain ⟨later, -⟩ := List.pairwise_cons.mp rest
  refine ⟨t, words, by simp, entry_eq_error_iff.mp bad, fun row there earlier => ?_⟩
  obtain there | there := List.mem_append.mp there
  · obtain ⟨described, read⟩ := fine row there
    exact ⟨described.2, (entry_eq_ok_iff.mp read).2⟩
  · obtain rfl | there := List.mem_cons.mp there
    · exact absurd earlier Std.lt_irrefl
    · exact absurd (Std.lt_trans earlier (later row there)) Std.lt_irrefl

theorem readExactly_of_fault {background highlight : Text} {words? : Token → Option Text}
    {e : Error} (fault : FirstFault background highlight words? e) :
    ReadExactly background highlight words? (.error e) where
  succeeds := by
    refine iff_of_false (by simp) ?_
    rintro ⟨background, highlight, all⟩
    cases fault with
    | background bad => exact bad background
    | highlight _ bad => exact bad highlight
    | @style t words _ _ _ found bad _ =>
        obtain ⟨style, ok⟩ := all t words found
        rw [bad] at ok
        cases ok
  page := by rintro s ⟨⟩
  styles := by rintro s ⟨⟩
  fails := by
    rintro _ ⟨⟩
    exact fault

theorem readExactly_of_entries {entries : List (Token × Style)}
    (background : Color.IsOptionalLiteral source.background)
    (highlight : Color.IsOptionalLiteral source.highlight)
    (read : source.styles.entries.mapM entry = .ok entries) :
    ReadExactly source.background source.highlight source.styles.get?
      (.ok (source.page.insertAll entries)) where
  succeeds := by
    refine iff_of_true ⟨_, rfl⟩ ⟨background, highlight, fun t words found => ?_⟩
    obtain ⟨described, ok⟩ := exists_mapM_iff.mp ⟨entries, read⟩ (t, words)
      (SortedTable.mem_entries_iff.mpr found)
    exact ⟨described.2, (entry_eq_ok_iff.mp ok).2⟩
  page := by
    rintro _ ⟨⟩
    rw [Scheme.background_insertAll, Scheme.highlight_insertAll]
    exact ⟨Text.denotes_of_optional background _, Text.denotes_of_optional highlight _⟩
  styles := by
    rintro _ ⟨⟩ t style
    exact get?_insertAll_entries (mapM_eq_ok_iff.mp read) source.styles.keys_nodup rfl
  fails := by rintro e ⟨⟩

theorem readExactly_of_detached (detached : source.origin = none) :
    ReadExactly source.background source.highlight source.styles.get? source.toScheme := by
  by_cases background : Color.IsOptionalLiteral source.background
  · by_cases highlight : Color.IsOptionalLiteral source.highlight
    · rw [toScheme_of_literals detached background highlight]
      cases read : source.styles.entries.mapM entry with
      | ok entries => exact readExactly_of_entries background highlight read
      | error e =>
          obtain ⟨t, words, there, bad, earlier⟩ :=
            first_fault_of_entries source.styles.ascending read
          refine readExactly_of_fault (.style background highlight
            (SortedTable.mem_entries_iff.mp there) bad fun u before other found => ?_)
          exact earlier (u, other) (SortedTable.mem_entries_iff.mpr found) before
    · rw [toScheme_of_bad_highlight detached background highlight]
      exact readExactly_of_fault (.highlight background highlight)
  · rw [toScheme_of_bad_background detached background]
    exact readExactly_of_fault (.background background)

/-! ### Tables with several rows for a token -/

/-- The text in the last row whose name is one of the token's. -/
def lastWords? (rows : List (Text × Text)) (t : Token) : Option Text :=
  (rows.reverse.find? fun row => Token.parse row.1 = .ok t).map (·.2)

/-- The entry of a row. -/
def named (row : Text × Text) : Except Error (Token × Text) :=
  (Token.parse row.1).map (·, row.2)

theorem ofRows_eq (background highlight : Text) (rows : List (Text × Text)) :
    ofRows background highlight rows = (rows.mapM named).map fun entries =>
      { background, highlight, styles := .ofList entries } := by
  have step : (fun row : Text × Text => do return (← Token.parse row.1, row.2)) = named := by
    funext row
    rw [named]
    cases Token.parse row.1 <;> rfl
  rw [ofRows, ← step]
  cases rows.mapM fun row : Text × Text => do return (← Token.parse row.1, row.2) <;> rfl

theorem lastWords?_append (rows more : List (Text × Text)) (t : Token) :
    lastWords? (rows ++ more) t = (lastWords? more t).or (lastWords? rows t) := by
  simp only [lastWords?, List.reverse_append, List.find?_append, Option.map_or]

theorem lastWords?_singleton (row : Text × Text) (t : Token) :
    lastWords? [row] t = if Token.parse row.1 = .ok t then some row.2 else none := by
  by_cases here : Token.parse row.1 = .ok t <;> simp [lastWords?, here]

theorem lastWords?_cons (row : Text × Text) (rows : List (Text × Text)) (t : Token) :
    lastWords? (row :: rows) t = (lastWords? rows t).or (lastWords? [row] t) :=
  lastWords?_append [row] rows t

theorem exists_lastWords? {row : Text × Text} {rows : List (Text × Text)} {t : Token}
    (there : row ∈ rows) (here : Token.parse row.1 = .ok t) :
    ∃ words, lastWords? rows t = some words := by
  rw [← Option.isSome_iff_exists, lastWords?, Option.isSome_map, List.find?_isSome]
  exact ⟨row, List.mem_reverse.mpr there, decide_eq_true here⟩

theorem lookup_named {rows : List (Text × Text)} {entries : List (Token × Text)}
    (read : List.Forall₂ (fun row e => named row = .ok e) rows entries) (t : Token) :
    entries.reverse.lookup t = lastWords? rows t := by
  induction read with
  | nil => rfl
  | @cons row e rows entries first _ ih =>
      have single : [e].lookup t = lastWords? [row] t := by
        rw [named] at first
        rw [lastWords?_singleton, lookup_cons_eq]
        cases parsed : Token.parse row.1 with
        | error fault => rw [parsed] at first; cases first
        | ok token =>
            rw [parsed] at first
            cases first
            simp [eq_comm]
      rw [List.reverse_cons, List.lookup_append, ih, single, lastWords?_cons row rows]

theorem exists_ofRows (background highlight : Text) {rows : List (Text × Text)}
    (parsed : ∀ row ∈ rows, ∃ t, Token.parse row.1 = .ok t) :
    ∃ styles : SortedTable Token Text,
      ofRows background highlight rows = .ok { background, highlight, styles } ∧
      styles.get? = lastWords? rows := by
  obtain ⟨entries, read⟩ : ∃ entries, rows.mapM named = .ok entries := by
    refine exists_mapM_iff.mpr fun row there => ?_
    obtain ⟨t, ok⟩ := parsed row there
    exact ⟨(t, row.2), by rw [named, ok]; rfl⟩
  refine ⟨.ofList entries, by rw [ofRows_eq, read]; rfl, funext fun t => ?_⟩
  rw [SortedTable.ofList, SortedTable.get?_foldl_insert, SortedTable.get?_empty, Option.or_none,
    lookup_named (mapM_eq_ok_iff.mp read)]

/-- Tables whose rows are read alike in the end give one source. -/
theorem ofRows_congr (background highlight : Text) {rows other : List (Text × Text)}
    (parsed : ∀ row ∈ rows, ∃ t, Token.parse row.1 = .ok t)
    (parsed' : ∀ row ∈ other, ∃ t, Token.parse row.1 = .ok t)
    (same : lastWords? other = lastWords? rows) :
    ofRows background highlight other = ofRows background highlight rows := by
  obtain ⟨styles, made, found⟩ := exists_ofRows background highlight parsed
  obtain ⟨styles', made', found'⟩ := exists_ofRows background highlight parsed'
  have equal : styles' = styles := SortedTable.ext_get? fun t => by rw [found', found, same]
  rw [made, made', equal]

theorem lastWords?_of_overridden {before after : List (Text × Text)} {row later : Text × Text}
    (there : later ∈ after) (same : Token.parse later.1 = Token.parse row.1) :
    lastWords? (before ++ after) = lastWords? (before ++ row :: after) := by
  funext t
  rw [lastWords?_append, lastWords?_append, lastWords?_cons, lastWords?_singleton]
  by_cases here : Token.parse row.1 = .ok t
  · obtain ⟨words, found⟩ := exists_lastWords? there (same.trans here)
    rw [found, Option.some_or, Option.some_or, Option.some_or]
  · rw [if_neg here, Option.or_none]

/-- A source that remembers no scheme is read exactly: it is accepted if its literals and all
its texts can be read, says what they say, and is refused for the first that cannot. A source
that is made from rows, when all names can be read, has for each token the text of the last
row for it, whatever the spelling of the names. So a row that another overrides may say what
it will: the source is the same without it. -/
theorem toScheme_reads_exactly :
    (∀ source : Source, source.origin = none →
      ReadExactly source.background source.highlight source.styles.get? source.toScheme) ∧
    ∀ background highlight rows, (∀ row ∈ rows, ∃ t, Token.parse row.1 = .ok t) →
      (∃ source, ofRows background highlight rows = .ok source ∧ source.origin = none ∧
        ∀ t, source.styles.get? t = lastWords? rows t) ∧
      ReadExactly background highlight (lastWords? rows)
        (ofRows background highlight rows >>= toScheme) ∧
      ∀ before row after later, rows = before ++ row :: after → later ∈ after →
        Token.parse later.1 = Token.parse row.1 →
        ofRows background highlight (before ++ after) = ofRows background highlight rows := by
  refine ⟨fun source => readExactly_of_detached, fun background highlight rows parsed => ?_⟩
  obtain ⟨styles, made, found⟩ := exists_ofRows background highlight parsed
  refine ⟨⟨_, made, rfl, fun t => congrFun found t⟩, ?_, ?_⟩
  · rw [made, ← found]
    have detached : Source.origin { background, highlight, styles } = none := rfl
    exact readExactly_of_detached detached
  · rintro before row after later rfl there same
    have kept : ∀ other ∈ before ++ after, other ∈ before ++ row :: after := fun other h =>
      (List.append_sublist_append_left _).mpr (List.sublist_cons_self ..) |>.mem h
    exact ofRows_congr background highlight parsed (fun other h => parsed other (kept other h))
      (lastWords?_of_overridden there same)

/-- Blanks, families of type and words that undo one another set nothing; an overridden row
is no fault, and of two faults that of the lesser token is reported. -/
theorem toScheme_reads_exactly_overridden :
    let name := Token.root.child "Name".toList
    let string := Token.root.child "String".toList
    let last : Text × Text := ("Token.String".toList, "bold sans bg:#000 bg:".toList)
    let rows : List (Text × Text) :=
      [("String".toList, "blink".toList), ("Name".toList, "\t ".toList), last]
    let wrong : Source :=
      { highlight := "#0F0".toList
        styles := .ofList [(string, "blink".toList), (name, "#00".toList)] }
    ofRows [] [] rows.tail = ofRows [] [] rows ∧
      (∃ s, (ofRows [] [] rows >>= toScheme) = .ok s ∧ s.background = .white ∧
        s.get? string = some { bold := some true } ∧ s.get? name = none) ∧
      FirstFault [] wrong.highlight wrong.styles.get? (.invalidColor "#00".toList) := by
  intro name string last rows wrong
  obtain ⟨whole, tables⟩ := toScheme_reads_exactly
  obtain ⟨-, exact', overridden⟩ := tables [] [] rows (by
    simp only [rows, List.forall_mem_cons]
    exact ⟨⟨string, by decide⟩, ⟨name, by decide⟩, ⟨string, by decide⟩, by simp⟩)
  obtain ⟨s, made⟩ : ∃ s, (ofRows [] [] rows >>= toScheme) = .ok s := ⟨_, rfl⟩
  refine ⟨overridden [] _ rows.tail last rfl (by simp [rows]) (by decide),
    ⟨s, made, (exact'.page s made).1, ?_, ?_⟩, (whole wrong rfl).fails _ (by decide)⟩
  · exact (exact'.styles s made string _).mpr ⟨by decide, _, rfl, by decide⟩
  · refine Option.eq_none_iff_forall_ne_some.mpr fun style found => ?_
    obtain ⟨sets, words, found, parsed⟩ := (exact'.styles s made name style).mp found
    obtain rfl : "\t ".toList = words := Option.some.inj (found ▸ rfl)
    rw [Style.parse_of_blank rfl] at parsed
    exact sets (Except.ok.inj parsed).symm

end Source
end ColorScheme
