import ColorScheme.Proofs.ClassNames
import ColorScheme.Proofs.PhysicalLines
import ColorScheme.Proofs.StyleText
import ColorScheme.Proofs.TokenNames

/-!
The lines of a style module as Python divides them. A line break in the name of a
token is not escaped, so it divides the line of the token within a literal. Nothing
else does: the name of the scheme, its colors and its styles stay on their lines.
-/

namespace ColorScheme

open Text (isLineBreak physicalLines literalOpen)

/-- A character that neither ends a line nor says anything in a literal. -/
def Quiet (c : Char) : Prop :=
  c ≠ '"' ∧ c ≠ '\\' ∧ isLineBreak c = false

instance (c : Char) : Decidable (Quiet c) :=
  inferInstanceAs (Decidable (_ ∧ _))

theorem literalOpen_of_quiet {l : Text} (h : ∀ c ∈ l, Quiet c) (opened : Bool) (s : Text) :
    literalOpen opened (l ++ s) = literalOpen opened s :=
  Text.literalOpen_append (fun c hc => ⟨(h c hc).1, (h c hc).2.1⟩) opened s

theorem countP_of_quiet {l : Text} (h : ∀ c ∈ l, Quiet c) : l.countP isLineBreak = 0 :=
  List.countP_eq_zero.mpr fun c hc => by simp [(h c hc).2.2]

theorem Color.quiet_text (c : Color) : ∀ d ∈ c.text, Quiet d :=
  c.forall_mem_text (by decide) (by decide)

theorem Style.quiet_text (s : Style) : ∀ c ∈ s.text, Quiet c := by
  have alphabet : ∀ c ∈ ' ' :: Directive.alphabet, Quiet c :=
    List.all_iff_forall_prop.mp (by decide)
  exact fun c hc => alphabet c (s.mem_alphabet_of_mem_style_text c hc)

namespace Token

/-- No name on the path of the token holds a line break. -/
def OnOneLine (t : Token) : Prop :=
  ∀ name ∈ t.segments, name.any isLineBreak = false

instance (t : Token) : Decidable t.OnOneLine :=
  inferInstanceAs (Decidable (∀ name ∈ t.segments, name.any isLineBreak = false))

theorem onOneLine_iff {t : Token} : t.OnOneLine ↔ ∀ c ∈ t.fullName, isLineBreak c = false := by
  rw [forall_mem_fullName (List.all_iff_forall_prop.mp (by decide)) (by decide)]
  simp only [OnOneLine, List.any_eq_false, Bool.not_eq_true]

end Token

namespace StyleModule

theorem quiet_of_alphanumeric {c : Char} (h : isAsciiAlphanumeric c = true) : Quiet c := by
  have other {d : Char} (hd : isAsciiAlphanumeric d = false) : c ≠ d := by
    rintro rfl
    rw [h] at hd
    cases hd
  refine ⟨other (by decide), other (by decide), ?_⟩
  simp [isLineBreak, other (d := '\n') (by decide), other (d := '\r') (by decide)]

theorem forall_mem_of_attributePath {t : Token} (h : isAttributePath t = true) :
    ∀ c ∈ t.fullName, isAsciiAlphanumeric c = true ∨ c = '_' ∨ c = '.' := by
  have names : ∀ name ∈ t.segments, ∀ c ∈ name,
      isAsciiAlphanumeric c = true ∨ c = '_' ∨ c = '.' := by
    intro name hn
    have identifier : isIdentifier name = true := List.all_eq_true.mp h name hn
    cases name with
    | nil => cases identifier
    | cons first rest =>
        obtain ⟨hf, hr⟩ := Bool.and_eq_true_iff.mp identifier
        rw [List.forall_mem_cons]
        constructor
        · obtain hf | hf := Bool.or_eq_true_iff.mp hf <;> simp_all [isAsciiAlphanumeric]
        · intro c hc
          obtain hc | hc := Bool.or_eq_true_iff.mp (List.all_eq_true.mp hr c hc) <;> simp_all
  have root : ∀ c ∈ Token.rootName, isAsciiAlphanumeric c = true ∨ c = '_' ∨ c = '.' :=
    List.all_iff_forall_prop.mp (by decide)
  exact (Token.forall_mem_fullName root (by decide)).mpr names

theorem quiet_of_attributePath {t : Token} (h : isAttributePath t = true) :
    ∀ c ∈ t.fullName, Quiet c := by
  intro c hc
  obtain hc | rfl | rfl := forall_mem_of_attributePath h c hc
  · exact quiet_of_alphanumeric hc
  · decide
  · decide

theorem escape_append (s t : Text) : escape (s ++ t) = escape s ++ escape t :=
  List.flatMap_append

/-- A character stands in a literal for itself or behind a backslash. -/
theorem escape_cons_cases (c : Char) (s : Text) :
    escape (c :: s) = '\\' :: c :: escape s ∧ (c = '\\' ∨ c = '"') ∨
      escape (c :: s) = c :: escape s ∧ c ≠ '\\' ∧ c ≠ '"' := by
  by_cases h : c = '\\' ∨ c = '"'
  · exact .inl ⟨by simp [escape, h], h⟩
  · exact .inr ⟨by simp [escape, h], not_or.mp h⟩

/-- A literal does not end within an escaped text. -/
theorem literalOpen_escape (s rest : Text) :
    literalOpen true (escape s ++ rest) = literalOpen true rest := by
  induction s with
  | nil => rfl
  | cons c s ih =>
      obtain ⟨escaped, -⟩ | ⟨plain, backslash, quote⟩ := escape_cons_cases c s
      · rw [escaped, List.cons_append, List.cons_append, Text.literalOpen_escaped, ih]
      · rw [plain, List.cons_append, Text.literalOpen_cons quote backslash, ih]

theorem countP_escape (s : Text) : (escape s).countP isLineBreak = s.countP isLineBreak := by
  induction s with
  | nil => rfl
  | cons c s ih =>
      obtain ⟨escaped, -⟩ | ⟨plain, -⟩ := escape_cons_cases c s
      · have backslash : ¬ isLineBreak '\\' := by decide
        rw [escaped, List.countP_cons_of_neg backslash, List.countP_cons, ih, List.countP_cons]
      · rw [plain, List.countP_cons, ih, List.countP_cons]

theorem countP_tokenExpression (t : Token) :
    (tokenExpression t).countP isLineBreak = t.fullName.countP isLineBreak := by
  rw [tokenExpression]
  split
  · rfl
  · have call : "string_to_tokentype(\"".toList.countP isLineBreak = 0 := by decide
    have close : "\")".toList.countP isLineBreak = 0 := by decide
    rw [List.countP_append, List.countP_append, countP_escape, call, close, Nat.zero_add,
      Nat.add_zero]

theorem countP_entryLine (t : Token) (s : Style) :
    (entryLine t s.text).countP isLineBreak = t.fullName.countP isLineBreak := by
  have margin : "        ".toList.countP isLineBreak = 0 := by decide
  have colon : ": \"".toList.countP isLineBreak = 0 := by decide
  have close : "\",".toList.countP isLineBreak = 0 := by decide
  unfold entryLine
  simp only [List.countP_append, countP_tokenExpression, countP_of_quiet s.quiet_text, margin,
    colon, close, Nat.zero_add, Nat.add_zero]

theorem literalOpen_tokenExpression (t : Token) (rest : Text) :
    literalOpen false (tokenExpression t ++ rest) = literalOpen false rest := by
  rw [tokenExpression]
  split
  · next path => exact literalOpen_of_quiet (quiet_of_attributePath path) false rest
  · have call (s : Text) : literalOpen false ("string_to_tokentype(\"".toList ++ s) =
        literalOpen true s := rfl
    have close (s : Text) : literalOpen true ("\")".toList ++ s) = literalOpen false s := rfl
    rw [List.append_assoc, List.append_assoc, call, literalOpen_escape, close]

/-- As it is meant to stand on a line, an entry closes the literals that it opens. -/
theorem literalOpen_entryLine (t : Token) (s : Style) :
    literalOpen false (entryLine t s.text) = false := by
  have margin (s : Text) : literalOpen false ("        ".toList ++ s) = literalOpen false s := rfl
  have colon (s : Text) : literalOpen false (": \"".toList ++ s) = literalOpen true s := rfl
  unfold entryLine
  rw [List.append_assoc, List.append_assoc, List.append_assoc, margin, literalOpen_tokenExpression,
    colon, literalOpen_of_quiet s.quiet_text]
  rfl

theorem lines_header (name : Text) (s : Scheme) : ∀ l ∈ header name s.toSource,
    (∀ c ∈ l, isLineBreak c = false) ∧ literalOpen false l = false := by
  have quiet {l : Text} (h : ∀ c ∈ l, Quiet c) :
      (∀ c ∈ l, isLineBreak c = false) ∧ literalOpen false l = false := by
    refine ⟨fun c hc => (h c hc).2.2, ?_⟩
    have all := literalOpen_of_quiet h false []
    rwa [List.append_nil] at all
  have fixed (w : String) (h : w.toList.all (fun c => decide (Quiet c)) = true) :
      ∀ c ∈ w.toList, Quiet c := by simpa using h
  have className : ∀ c ∈ className name, Quiet c := fun c hc =>
    quiet_of_alphanumeric (alphanumeric_className name c hc)
  have color (w : Text) (c : Color) (hw : w.any isLineBreak = false)
      (opens : ∀ s, literalOpen false (w ++ s) = literalOpen true s) :
      (∀ d ∈ w ++ c.text ++ ['"'], isLineBreak d = false) ∧
        literalOpen false (w ++ c.text ++ ['"']) = false := by
    constructor
    · intro d hd
      obtain hd | hd := List.mem_append.mp hd
      · obtain hd | hd := List.mem_append.mp hd
        · simpa using List.any_eq_false.mp hw d hd
        · exact (c.quiet_text d hd).2.2
      · rw [List.mem_singleton.mp hd]
        decide
    · rw [List.append_assoc, opens, literalOpen_of_quiet c.quiet_text]
      rfl
  unfold header
  simp only [List.forall_mem_cons]
  refine ⟨quiet (fixed _ (by decide)), quiet (fixed _ (by decide)), ?_, quiet (by simp),
    quiet (by simp), ?_, ?_, ?_, quiet (by simp), quiet (fixed _ (by decide)), by simp⟩
  · refine quiet fun c hc => ?_
    obtain hc | hc := List.mem_append.mp hc
    · exact fixed "from pygments.token import Token" (by decide) c hc
    · split at hc
      · cases hc
      · exact fixed ", string_to_tokentype" (by decide) c hc
  · refine quiet fun c hc => ?_
    obtain hc | hc := List.mem_append.mp hc
    · exact (List.mem_append.mp hc).elim (fixed "class " (by decide) c) (className c)
    · exact fixed "(Style):" (by decide) c hc
  · exact color "    background_color = \"".toList s.background (by decide) fun _ => rfl
  · exact color "    highlight_color = \"".toList s.highlight (by decide) fun _ => rfl

/-- The lines as they are meant. -/
def logicalLines (name : Text) (s : Scheme) : List Text :=
  header name s.toSource ++ s.styles.entries.map (fun e => entryLine e.1 e.2.text) ++
    ["    \x7d".toList]

theorem write_eq_ofLines (name : Text) (s : Scheme) :
    write name s = Text.ofLines (logicalLines name s) := by
  have entries : s.toSource.styles.entries.map (fun e => entryLine e.1 e.2) =
      s.styles.entries.map fun e => entryLine e.1 e.2.text := List.map_map
  rw [logicalLines, ← entries]
  rfl

theorem length_logicalLines (name : Text) (s : Scheme) :
    (logicalLines name s).length = 11 + s.styles.size := by
  have header : (header name s.toSource).length = 10 := rfl
  rw [logicalLines, List.length_append, List.length_append, header, List.length_map,
    List.length_singleton, SortedTable.size]
  omega

/-- Only names hold line breaks. -/
theorem breaks_logicalLines (name : Text) (s : Scheme) :
    (logicalLines name s).flatten.countP isLineBreak =
      (s.styles.keys.flatMap Token.fullName).countP isLineBreak := by
  have header : (header name s.toSource).flatten.countP isLineBreak = 0 := by
    rw [List.countP_eq_zero]
    intro c hc
    obtain ⟨l, hl, hc⟩ := List.mem_flatten.mp hc
    simp [(lines_header name s l hl).1 c hc]
  have entries (es : List (Token × Style)) :
      (es.map fun e => entryLine e.1 e.2.text).flatten.countP isLineBreak =
        ((es.map (·.1)).flatMap Token.fullName).countP isLineBreak := by
    induction es with
    | nil => rfl
    | cons e es ih =>
        rw [List.map_cons, List.flatten_cons, List.countP_append, countP_entryLine, ih,
          List.map_cons, List.flatMap_cons, List.countP_append]
  have close : ["    \x7d".toList].flatten.countP isLineBreak = 0 := by decide
  rw [logicalLines, List.flatten_append, List.flatten_append, List.countP_append,
    List.countP_append, header, entries, close, Nat.zero_add, Nat.add_zero]
  rfl

/-- The tokens whose names keep on their lines are the ones that bring no breaks. -/
theorem countP_keys_eq_zero_iff {s : Scheme} :
    (s.styles.keys.flatMap Token.fullName).countP isLineBreak = 0 ↔
      ∀ t ∈ s.styles.keys, t.OnOneLine := by
  simp only [List.countP_eq_zero, List.mem_flatMap, Token.onOneLine_iff, Bool.not_eq_true]
  exact ⟨fun h t ht c hc => h c ⟨t, ht, hc⟩, fun h c ⟨t, ht, hc⟩ => h t ht c hc⟩

/-- A break in a name leaves the literal open that holds the name. -/
theorem exists_open_of_break {t : Token} (h : ¬ t.OnOneLine) (style : Text) :
    ∃ l ∈ physicalLines (entryLine t style ++ ['\n']), literalOpen false l = true := by
  have broken : ∃ c ∈ t.fullName, isLineBreak c = true := by
    simpa [Token.onOneLine_iff] using h
  obtain ⟨c, found⟩ : ∃ c, t.fullName.find? isLineBreak = some c :=
    Option.isSome_iff_exists.mp (List.find?_isSome.mpr broken)
  obtain ⟨hc, front, back, cut, fresh⟩ := List.find?_eq_some_iff_append.mp found
  have call : isAttributePath t = false := by
    by_contra path
    have quiet := quiet_of_attributePath (by simpa using path) c (cut ▸ List.mem_append_cons_self)
    rw [Quiet, hc] at quiet
    cases quiet.2.2
  have special : escape (c :: back) = c :: escape back := by
    obtain ⟨-, rfl | rfl⟩ | ⟨plain, -⟩ := escape_cons_cases c back
    · exact absurd hc (by decide)
    · exact absurd hc (by decide)
    · exact plain
  let first := "        ".toList ++ "string_to_tokentype(\"".toList ++ escape front
  have line : entryLine t style ++ ['\n'] = first ++ c :: (escape back ++ "\")".toList ++
      ": \"".toList ++ style ++ "\",".toList ++ ['\n']) := by
    unfold entryLine
    rw [tokenExpression, call, cut, escape_append, special]
    simp only [first, Bool.false_eq_true, if_false, List.append_assoc, List.cons_append]
  refine ⟨first, ?_, ?_⟩
  · rw [line, Text.physicalLines_append_break _ hc]
    · exact List.mem_cons_self ..
    · have calm : (escape front).countP isLineBreak = 0 := by
        rw [countP_escape, List.countP_eq_zero]
        exact fun d hd => by simpa using fresh d hd
      have lead :
          ("        ".toList ++ "string_to_tokentype(\"".toList).countP isLineBreak = 0 := by decide
      have none : first.countP isLineBreak = 0 := by rw [List.countP_append, lead, calm]
      exact fun d hd => by simpa using List.countP_eq_zero.mp none d hd
  · have opens (s : Text) : literalOpen false
        ("        ".toList ++ "string_to_tokentype(\"".toList ++ s) = literalOpen true s := rfl
    have rest := literalOpen_escape front []
    rw [opens]
    rwa [List.append_nil] at rest

theorem physicalLines_write {s : Scheme} (h : ∀ t ∈ s.styles.keys, t.OnOneLine) (name : Text) :
    physicalLines (write name s) = logicalLines name s := by
  have none : (logicalLines name s).flatten.countP isLineBreak = 0 := by
    rw [breaks_logicalLines, countP_keys_eq_zero_iff.mpr h]
  rw [write_eq_ofLines, Text.physicalLines_of_no_break]
  intro l hl c hc
  simpa using List.countP_eq_zero.mp none c (List.mem_flatten.mpr ⟨l, hl, hc⟩)

/-- Each line break in the name of a token makes one line more than there are
entries and fixed lines. So the names without line breaks are the ones that keep the
lines apart, and the ones that keep every literal on one line. -/
theorem write_lines_iff (name : Text) (s : Scheme) :
    (physicalLines (write name s)).length =
      11 + s.styles.size + (s.styles.keys.flatMap Token.fullName).countP isLineBreak ∧
    ((physicalLines (write name s)).length = 11 + s.styles.size ↔
      ∀ t ∈ s.styles.keys, t.OnOneLine) ∧
    ((∀ l ∈ physicalLines (write name s), literalOpen false l = false) ↔
      ∀ t ∈ s.styles.keys, t.OnOneLine) := by
  have count : (physicalLines (write name s)).length =
      11 + s.styles.size + (s.styles.keys.flatMap Token.fullName).countP isLineBreak := by
    rw [write_eq_ofLines, Text.length_physicalLines_ofLines, length_logicalLines,
      breaks_logicalLines]
  refine ⟨count, ?_, ?_, ?_⟩
  · rw [count, Nat.add_eq_left, countP_keys_eq_zero_iff]
  · intro closed t ht
    by_contra broken
    obtain ⟨e, he, rfl⟩ := List.mem_map.mp ht
    obtain ⟨l, hl, opened⟩ := exists_open_of_break broken e.2.text
    have there : l ∈ physicalLines (write name s) := by
      have entry : entryLine e.1 e.2.text ∈ logicalLines name s :=
        List.mem_append_left _ (List.mem_append_right _ (List.mem_map.mpr ⟨e, he, rfl⟩))
      rw [write_eq_ofLines, Text.physicalLines_ofLines]
      exact List.mem_flatMap.mpr ⟨_, entry, hl⟩
    rw [closed l there] at opened
    cases opened
  · intro h l hl
    rw [physicalLines_write h, logicalLines, List.mem_append, List.mem_append] at hl
    obtain (hl | hl) | hl := hl
    · exact (lines_header name s l hl).2
    · obtain ⟨e, -, rfl⟩ := List.mem_map.mp hl
      exact literalOpen_entryLine e.1 e.2
    · rw [List.mem_singleton.mp hl]
      decide

/-- A name that is read can hold a line break. -/
theorem write_breaks_parsed_name :
    let t := Token.root.child "A\nB".toList
    let s := Scheme.insert {} t { bold := some true }
    let ls := physicalLines (write [] s)
    Token.parse "A\nB".toList = .ok t ∧ s.styles.keys = [t] ∧ ls.length ≠ 11 + s.styles.size ∧
      "        string_to_tokentype(\"Token.A".toList ∈ ls ∧
      literalOpen false "        string_to_tokentype(\"Token.A".toList = true := by
  decide +kernel

end StyleModule
end ColorScheme
