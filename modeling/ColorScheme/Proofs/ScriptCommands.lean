import ColorScheme.Proofs.Resolution
import ColorScheme.Proofs.ScriptStrings
import ColorScheme.Proofs.StyleLook

/-!
The highlight commands of a script. Whatever the name of the scheme, it stays on
its line, so the commands are two for the page, one that clears what was set
before, and one for each group whose token shows something. No two rows of the
table share a group, so no command is overruled by another one of the table.
-/

namespace ColorScheme.VimScript

/-- Whether a line is a highlight command. -/
def isCommand (l : Text) : Bool :=
  "hi ".toList.isPrefixOf l

/-- Whether a line is a highlight command for a group. -/
def sets (group l : Text) : Bool :=
  ("hi ".toList ++ group ++ [' ']).isPrefixOf l

/-- The groups of the table, each with the token that it shows. -/
def targets : List (Text × Token) :=
  groups.flatMap fun row => row.2.map (·, row.1)

/-- Every name of the table is that of a token, so no row is left out. -/
theorem parse_groupNames :
    groupNames.map (fun row => (Token.parse row.1.toList, row.2.map String.toList)) =
      groups.map fun row => (.ok row.1, row.2) := by
  decide +kernel

/-- The commands that show a token in a group. -/
def commands (s : Scheme) (e : Text × Token) : List Text :=
  if attributes (s.resolve e.2) = [] then []
  else [highlightLine e.1 (attributes (s.resolve e.2))]

theorem lineFeed_not_mem_escape (name : Text) : '\n' ∉ escape name :=
  Text.lineFeed_not_mem_of_no_break (no_break_escape name)

theorem lineFeed_not_mem_text (c : Color) : '\n' ∉ c.text :=
  fun m => absurd (c.not_blank_text _ m) (by decide)

theorem lineFeed_not_mem_header (name : Text) (background : Background) (s : Scheme) :
    ∀ l ∈ header name background s, '\n' ∉ l := by
  have shade (b : Shade) : '\n' ∉ b.name := by cases b <;> decide
  simp only [header, List.forall_mem_cons, List.mem_append, List.mem_singleton, not_or,
    lineFeed_not_mem_escape, lineFeed_not_mem_text, shade, not_false_eq_true, and_true,
    List.not_mem_nil, forall_eq]
  decide

theorem lineFeed_not_mem_groups :
    ∀ row ∈ groups, '\n' ∉ row.1.fullName ∧ ∀ g ∈ row.2, '\n' ∉ g := by
  decide +kernel

theorem lineFeed_not_mem_groupLines (s : Scheme) {row : Token × List Text} (h : row ∈ groups) :
    ∀ l ∈ groupLines s row, '\n' ∉ l := by
  obtain ⟨comment, names⟩ := lineFeed_not_mem_groups row h
  have attrs : '\n' ∉ [' '].intercalate (attributes (s.resolve row.1)) := by
    intro m
    obtain m | ⟨w, hw, m⟩ := mem_intercalate m
    · exact absurd m (by decide)
    · exact absurd ((attributes_solid w hw).2 _ m) (by decide)
  intro l hl
  rw [groupLines] at hl
  split at hl
  · cases hl
  · simp only [List.cons_append, List.mem_cons, List.mem_append, List.mem_map, List.not_mem_nil,
      or_false] at hl
    obtain rfl | ⟨g, hg, rfl⟩ | rfl := hl
    · rw [List.mem_append, not_or]
      exact ⟨by decide, comment⟩
    · rw [highlightLine, List.mem_append, List.mem_append, List.mem_cons]
      simp only [not_or]
      exact ⟨⟨by decide, names g hg⟩, by decide, attrs⟩
    · exact List.not_mem_nil

theorem lines_write (name : Text) (background : Background) (s : Scheme) :
    Text.lines (write name background s) =
      header name background s ++ groups.flatMap (groupLines s) := by
  rw [write, Text.lines_ofLines]
  intro l hl
  obtain hl | hl := List.mem_append.mp hl
  · exact lineFeed_not_mem_header name background s l hl
  · obtain ⟨row, hrow, hl⟩ := List.mem_flatMap.mp hl
    exact lineFeed_not_mem_groupLines s hrow l hl

theorem filter_header (name : Text) (background : Background) (s : Scheme) :
    (header name background s).filter isCommand =
      ["hi clear".toList, "hi Normal guibg=".toList ++ s.background.text,
        "hi CursorLine guibg=".toList ++ s.highlight.text] := rfl

theorem isCommand_highlightLine (g : Text) (attrs : List Text) :
    isCommand (highlightLine g attrs) = true := by
  rw [isCommand, List.isPrefixOf_iff_prefix, highlightLine, List.append_assoc]
  exact List.prefix_append ..

theorem filter_groupLines (s : Scheme) (row : Token × List Text) :
    (groupLines s row).filter isCommand = row.2.flatMap fun g => commands s (g, row.1) := by
  rw [groupLines]
  by_cases h : attributes (s.resolve row.1) = []
  · simp [h, commands]
  · have comment : isCommand ("\" ".toList ++ row.1.fullName) = false := rfl
    have blank : isCommand [] = false := rfl
    have all : (row.2.map (highlightLine · (attributes (s.resolve row.1)))).filter isCommand =
        row.2.map (highlightLine · (attributes (s.resolve row.1))) := by
      rw [List.filter_eq_self, List.forall_mem_map]
      exact fun g _ => isCommand_highlightLine g _
    simp only [h, if_false, List.cons_append, List.filter_cons, comment, Bool.false_eq_true,
      List.filter_append, all, blank, List.filter_nil, List.append_nil, commands]
    exact List.map_eq_flatMap

/-- The commands of a script, in their order. -/
theorem filter_lines_write (name : Text) (background : Background) (s : Scheme) :
    (Text.lines (write name background s)).filter isCommand =
      ["hi clear".toList, "hi Normal guibg=".toList ++ s.background.text,
        "hi CursorLine guibg=".toList ++ s.highlight.text] ++ targets.flatMap (commands s) := by
  rw [lines_write, List.filter_append, filter_header, List.filter_flatMap, targets,
    List.flatMap_assoc]
  simp only [filter_groupLines, List.flatMap_map]

/-- A command names its group in front of the first space after the keyword. -/
theorem sets_command_iff {g h : Text} (hg : ' ' ∉ g) (hh : ' ' ∉ h) (rest : Text) :
    sets g ("hi ".toList ++ h ++ ' ' :: rest) = true ↔ h = g := by
  rw [sets, List.isPrefixOf_iff_prefix, List.append_assoc, List.append_assoc,
    List.prefix_append_right_inj]
  constructor
  · rintro ⟨more, e⟩
    rw [List.append_assoc, List.singleton_append] at e
    have cut := Text.cut?_char hh rest
    rw [← e, Text.cut?_char hg] at cut
    exact (congrArg Prod.fst (Option.some.inj cut)).symm
  · rintro rfl
    exact ⟨rest, by simp⟩

theorem space_not_mem_targets : ∀ e ∈ targets, ' ' ∉ e.1 := by
  decide +kernel

theorem targets_distinct : (targets.map (·.1)).Nodup := by
  decide +kernel

theorem filter_sets_commands (s : Scheme) {e : Text × Token} (h : e ∈ targets) :
    (targets.flatMap (commands s)).filter (sets e.1) = commands s e := by
  have own (d : Text × Token) (hd : d ∈ targets) :
      (commands s d).filter (sets e.1) = if d.1 = e.1 then commands s d else [] := by
    have named := sets_command_iff (space_not_mem_targets e h) (space_not_mem_targets d hd)
      ([' '].intercalate (attributes (s.resolve d.2)))
    rw [commands, highlightLine]
    split
    · simp
    · simp only [List.filter_cons, named, List.filter_nil]
  rw [List.filter_flatMap, List.flatMap_congr own]
  exact flatMap_of_key targets_distinct h (commands s)

theorem isCommand_of_sets {g l : Text} (h : sets g l = true) : isCommand l = true := by
  rw [sets, List.isPrefixOf_iff_prefix, List.append_assoc] at h
  rw [isCommand, List.isPrefixOf_iff_prefix]
  exact (List.prefix_append ..).trans h

theorem filter_sets (g : Text) (ls : List Text) :
    ls.filter (sets g) = (ls.filter isCommand).filter (sets g) := by
  rw [List.filter_filter]
  refine List.filter_congr fun l _ => ?_
  cases h : sets g l with
  | false => rfl
  | true => rw [isCommand_of_sets h, Bool.and_self]

theorem filter_sets_page (s : Scheme) {e : Text × Token} (h : e ∈ targets) :
    ["hi clear".toList, "hi Normal guibg=".toList ++ s.background.text,
        "hi CursorLine guibg=".toList ++ s.highlight.text].filter (sets e.1) =
      if "Normal".toList = e.1 then ["hi Normal guibg=".toList ++ s.background.text] else [] := by
  have others : ∀ e ∈ targets, sets e.1 "hi clear".toList = false ∧ e.1 ≠ "CursorLine".toList := by
    decide +kernel
  obtain ⟨clear, ne⟩ := others e h
  -- The page is in the group of the root, so its command is not ruled out.
  have normal : sets e.1 ("hi Normal guibg=".toList ++ s.background.text) = true ↔
      "Normal".toList = e.1 :=
    sets_command_iff (space_not_mem_targets e h) (by decide : ' ' ∉ "Normal".toList)
      ("guibg=".toList ++ s.background.text)
  have cursorLine : sets e.1 ("hi CursorLine guibg=".toList ++ s.highlight.text) = true ↔
      "CursorLine".toList = e.1 :=
    sets_command_iff (space_not_mem_targets e h) (by decide : ' ' ∉ "CursorLine".toList)
      ("guibg=".toList ++ s.highlight.text)
  simp only [List.filter_cons, List.filter_nil, clear, normal, cursorLine, ne.symm, if_false,
    Bool.false_eq_true]

theorem filter_sets_lines_write (name : Text) (background : Background) (s : Scheme)
    {e : Text × Token} (h : e ∈ targets) :
    (Text.lines (write name background s)).filter (sets e.1) =
      (if "Normal".toList = e.1 then ["hi Normal guibg=".toList ++ s.background.text] else []) ++
        commands s e := by
  rw [filter_sets, filter_lines_write, List.filter_append, filter_sets_page s h,
    filter_sets_commands s h]

/-- How the commands of a script show a token in a group: by one if the style at
the longest part of the token's path that has one is visible, and else not at
all. A command gives the settings of that style and nothing else. -/
structure Shows (s : Scheme) (t : Token) (group : Text) (lines : List Text) : Prop where
  once : lines.length ≤ 1
  mem_iff : ∀ l, l ∈ lines ↔ ∃ path style, s.styles.Governs t path style ∧ style.IsVisible ∧
    l = "hi ".toList ++ group ++ ' ' :: [' '].intercalate ((settings style).map settingText)

theorem shows_commands (s : Scheme) (e : Text × Token) : Shows s e.2 e.1 (commands s e) := by
  have nothing : attributes (s.resolve e.2) = [] ↔ ¬ (s.resolve e.2).IsVisible := by
    rw [attributes_eq, List.map_eq_nil_iff, settings_eq_nil_iff]
  rw [commands]
  by_cases shown : (s.resolve e.2).IsVisible
  · rw [if_neg fun none => nothing.mp none shown, highlightLine, attributes_eq]
    refine ⟨Nat.le_refl _, fun l => ?_⟩
    rw [List.mem_singleton]
    constructor
    · rintro rfl
      obtain ⟨path, governs⟩ | ⟨-, empty⟩ := s.styles.resolve_cases e.2
      · exact ⟨path, _, governs, shown, rfl⟩
      · rw [Scheme.resolve, empty] at shown
        exact absurd rfl (settings_eq_nil_iff.not_left.mpr shown)
    · rintro ⟨path, style, governs, -, rfl⟩
      rw [Scheme.resolve, governs.resolve_eq]
  · rw [if_pos (nothing.mpr shown)]
    refine ⟨Nat.zero_le _, fun l => iff_of_false List.not_mem_nil ?_⟩
    rintro ⟨path, style, governs, visible, -⟩
    rw [Scheme.resolve, governs.resolve_eq] at shown
    exact shown visible

theorem mem_targets {row : Token × List Text} (h : row ∈ groups) {g : Text} (hg : g ∈ row.2) :
    (g, row.1) ∈ targets :=
  List.mem_flatMap.mpr ⟨row, h, List.mem_map_of_mem hg⟩

/-- A script sets each group of the table at most once, from the style in effect
for its token, whatever the name of the scheme. Only the group of the root has a
second command, which sets the page. There are no other commands but the one
that clears and the one for the line of the cursor. -/
theorem write_sets_each_group (name : Text) (background : Background) (s : Scheme) :
    (∀ row ∈ groups, ∀ g ∈ row.2, g ≠ "Normal".toList →
      Shows s row.1 g ((Text.lines (write name background s)).filter (sets g))) ∧
    (∃ rest, (Text.lines (write name background s)).filter (sets "Normal".toList) =
        ("hi Normal guibg=".toList ++ s.background.text) :: rest ∧
      Shows s .root "Normal".toList rest) ∧
    ∀ l ∈ Text.lines (write name background s), isCommand l = true →
      l = "hi clear".toList ∨ l = "hi CursorLine guibg=".toList ++ s.highlight.text ∨
        ∃ row ∈ groups, ∃ g ∈ row.2, sets g l = true := by
  have root : (Token.root, ["Normal".toList]) ∈ groups := by decide +kernel
  refine ⟨fun row hrow g hg ne => ?_, ⟨commands s ("Normal".toList, .root), ?_, ?_⟩, ?_⟩
  · rw [filter_sets_lines_write name background s (mem_targets hrow hg), if_neg ne.symm,
      List.nil_append]
    exact shows_commands s (g, row.1)
  · have target : ("Normal".toList, Token.root) ∈ targets := mem_targets root (by simp)
    exact filter_sets_lines_write name background s target
  · exact shows_commands s ("Normal".toList, .root)
  · intro l hl command
    have there : l ∈ (Text.lines (write name background s)).filter isCommand :=
      List.mem_filter.mpr ⟨hl, command⟩
    rw [filter_lines_write] at there
    simp only [List.cons_append, List.nil_append, List.mem_cons] at there
    obtain clear | page | cursorLine | there := there
    · exact .inl clear
    · refine .inr (.inr ⟨_, root, _, List.mem_singleton_self _, ?_⟩)
      rw [page]
      exact (sets_command_iff (by decide) (by decide) ("guibg=".toList ++ s.background.text)).mpr rfl
    · exact .inr (.inl cursorLine)
    · obtain ⟨e, he, hl⟩ := List.mem_flatMap.mp there
      rw [← filter_sets_commands s he] at hl
      obtain ⟨row, hrow, he⟩ := List.mem_flatMap.mp he
      obtain ⟨g, hg, rfl⟩ := List.mem_map.mp he
      exact .inr (.inr ⟨row, hrow, g, hg, List.of_mem_filter hl⟩)

/-- A name that looks like the end of its line and a command is no command. -/
theorem write_sets_each_group_quoted :
    let s : Scheme := Scheme.insert {} (Token.root.child "String".toList)
      { border := some .white, bold := some true, italic := some false }
    let ls := Text.lines (write "x\"\nhi Comment gui=bold".toList (.always .dark) s)
    "hi SpecialChar guisp=#ffffff gui=bold,undercurl".toList ∈ ls ∧
      ls.filter (sets "Comment".toList) = [] := by
  intro s ls
  obtain ⟨each, -, -⟩ := write_sets_each_group "x\"\nhi Comment gui=bold".toList (.always .dark) s
  have escape : (Token.mk ["String".toList, "Escape".toList], ["SpecialChar".toList]) ∈ groups := by
    decide +kernel
  have comment : (Token.mk ["Comment".toList], ["Comment".toList]) ∈ groups := by
    decide +kernel
  have shown := each _ escape "SpecialChar".toList (by simp) (by decide)
  have hidden := each _ comment "Comment".toList (by simp) (by decide)
  have governs : s.styles.Governs ⟨["String".toList, "Escape".toList]⟩ ["String".toList]
      { border := some .white, bold := some true, italic := some false } := by decide
  have ungoverned : s.styles.Ungoverned ⟨["Comment".toList]⟩ := by decide
  constructor
  · exact List.mem_of_mem_filter ((shown.mem_iff _).mpr ⟨_, _, governs, by decide, rfl⟩)
  · rw [List.eq_nil_iff_forall_not_mem]
    intro l hl
    obtain ⟨path, style, governs, -⟩ := (hidden.mem_iff l).mp hl
    exact ungoverned.not_governs governs

end ColorScheme.VimScript
