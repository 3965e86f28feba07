import ColorScheme.Proofs.OptionFrames
import ColorScheme.Proofs.SectionSpellings

/-!
Options that no style comes from. Other text behind the separator of an option's line
is read as another value of the same option; and where that option describes no style
and no other option refers to it, what is read of the file is the same, whatever the
text, and so is the fault of a file in which something else is wrong.
-/

namespace ColorScheme

theorem Text.trimEnd_cons_of_not_blank {c : Char} (h : Text.isBlank c = false) (s : Text) :
    Text.trimEnd (c :: s) = c :: Text.trimEnd s := by
  rw [Text.trimEnd, h]
  cases Text.trimEnd s <;> rfl

/-- A character that is no white space keeps what stands before it. -/
theorem Text.trim_append_cons {c : Char} (h : Text.isBlank c = false) (left right : Text) :
    Text.trim (left ++ c :: right) = Text.trimStart left ++ c :: Text.trimEnd right := by
  have start : Text.trimStart (left ++ c :: right) = Text.trimStart left ++ c :: right := by
    rw [Text.trimStart, List.dropWhile_append, List.dropWhile_cons_of_neg (by simp [h])]
    split
    · next e => rw [Text.trimStart, List.isEmpty_iff.mp e, List.nil_append]
    · rfl
  have last := Text.trimEnd_cons_of_not_blank h right
  rw [Text.trim, start, Text.trimEnd_append, last, if_neg (List.cons_ne_nil _ _)]

/-- The two characters that part a key from its value. -/
def isSeparator (c : Char) : Bool :=
  c = '=' || c = ':'

section

variable {left : Text} {sep : Char} (first : ∀ c ∈ left, isSeparator c = false)
  (separator : isSeparator sep = true)

theorem not_blank_of_isSeparator {c : Char} (h : isSeparator c = true) :
    Text.isBlank c = false := by
  obtain rfl | rfl : c = '=' ∨ c = ':' := by simpa [isSeparator] using h
  · decide
  · decide

include first separator

theorem optionOfText?_append (right : Text) : optionOfText? (left ++ sep :: right) =
    if Text.trim left = [] then none
    else some (Text.lowercase (Text.trim left), Text.trim right) := by
  have cut : Text.cut? (fun c => c = '=' || c = ':') (left ++ sep :: right) = some (left, right) :=
    Text.cut?_append first separator right
  rw [optionOfText?, cut]

theorem Place.entry_of_entry_set {p : Place} {old sec key value : Text}
    (h : p.entry (left ++ sep :: old) = .set sec key value) (new : Text) :
    p.entry (left ++ sep :: new) = .set sec key (Text.trim new) := by
  obtain ⟨c, tail, stem⟩ : ∃ c tail, left ++ [sep] = c :: tail :=
    List.exists_cons_of_ne_nil (by simp)
  have bracket (right : Text) : Text.after? ['['] (left ++ sep :: right) =
      if '[' = c then some (tail ++ right) else none := by
    rw [List.append_cons, stem]
    rfl
  rw [Place.entry.eq_def, bracket] at h ⊢
  by_cases header : '[' = c
  · rw [if_pos header] at h
    dsimp only at h
    split at h <;> cases h
  · rw [if_neg header] at h ⊢
    cases p with
    | outside => cases h
    | inside sec openKey =>
        dsimp only at h ⊢
        rw [optionOfText?_append first separator] at h ⊢
        by_cases blank : Text.trim left = []
        · rw [if_pos blank] at h
          cases h
        · rw [if_neg blank] at h ⊢
          cases h
          rfl

/-- Whether a line sets an option, and which one, is decided in front of its value. -/
theorem Place.action_of_action_set {p : Place} {old sec key value : Text}
    (h : p.action (left ++ sep :: old) = .set sec key value) (new : Text) :
    ∃ value, p.action (left ++ sep :: new) = .set sec key value := by
  have fresh : ∀ c ∈ Text.trimStart left, isSeparator c = false :=
    fun c hc => first c ((List.dropWhile_sublist _).mem hc)
  obtain ⟨c, tail, stem⟩ : ∃ c tail, Text.trimStart left ++ [sep] = c :: tail :=
    List.exists_cons_of_ne_nil (by simp)
  have line (right : Text) : Line.ofText (left ++ sep :: right) =
      if c = '#' ∨ c = ';' then .comment
      else .content ((left ++ [sep]).head?.any Text.isBlank)
        (Text.trimStart left ++ sep :: Text.trimEnd right) := by
    have head : (left ++ sep :: right).head? = (left ++ [sep]).head? := by cases left <;> rfl
    rw [Line.ofText, Text.trim_append_cons (not_blank_of_isSeparator separator),
      List.append_cons (Text.trimStart left), stem, head]
    rfl
  rw [Place.action, line] at h
  refine ⟨Text.trim (Text.trimEnd new), ?_⟩
  rw [Place.action, line]
  by_cases comment : c = '#' ∨ c = ';'
  · rw [if_pos comment] at h
    cases h
  · rw [if_neg comment] at h ⊢
    generalize (left ++ [sep]).head?.any Text.isBlank = indented at h ⊢
    cases indented with
    | false => exact entry_of_entry_set fresh separator h _
    | true =>
        cases p with
        | outside => exact entry_of_entry_set fresh separator h _
        | inside sec openKey =>
            cases openKey with
            | none => exact entry_of_entry_set fresh separator h _
            | some key => cases h

end

section

variable {text other : Text} {pre post : List Text} {left old new sec key value : Text} {sep : Char}
  {d : Document}

/-- With another value behind the separator the document differs in that option only. -/
theorem Document.ofText_edited (first : ∀ c ∈ left, isSeparator c = false)
    (separator : isSeparator sep = true)
    (lines : Text.lines text = pre ++ (left ++ sep :: old) :: post)
    (option : (Place.outside.afterLines pre).action (left ++ sep :: old) = .set sec key value)
    (lines' : Text.lines other = pre ++ (left ++ sep :: new) :: post) (ok : ofText text = .ok d) :
    ∃ e, ofText other = .ok e ∧ e.erase sec key = d.erase sec key := by
  obtain ⟨r, before⟩ := exists_of_ofText lines ok
  obtain ⟨value', option'⟩ := Place.action_of_action_set first separator option new
  rw [ofText_from_line lines before, option] at ok
  rw [ofText_from_line lines' before, option']
  let opened (v : Text) : Reader :=
    ⟨r.document.modify sec (·.set key ⟨v, 1 + pre.length⟩), .inside sec (some key)⟩
  change ((opened value).readLines _ post).map _ = _ at ok
  change ∃ e, ((opened value').readLines _ post).map _ = _ ∧ _
  have erased (v : Text) : (opened v).erase sec key =
      ⟨r.document.erase sec key, .inside sec (some key)⟩ :=
    congrArg (Reader.mk · _) (r.document.erase_modify_set sec key _)
  have alike := Reader.readLines_erase ((erased value).trans (erased value').symm)
    (1 + pre.length + 1) post
  cases read : (opened value).readLines (1 + pre.length + 1) post with
  | error e => rw [read] at ok; cases ok
  | ok last =>
      rw [read] at ok alike
      cases ok
      cases read' : (opened value').readLines (1 + pre.length + 1) post with
      | error e => rw [read'] at alike; cases alike
      | ok last' =>
          rw [read'] at alike
          exact ⟨_, rfl, congrArg Reader.document (Except.ok.inj alike).symm⟩

namespace Definition

/-- The value on an option's line can be any text, where the option describes no style
and no other option refers to it: the same scheme is read, or the same fault found at
the same line. -/
theorem read_unused (parsed : Document.ofText text = .ok d)
    (lines : Text.lines text = pre ++ (left ++ sep :: old) :: post)
    (first : ∀ c ∈ left, isSeparator c = false) (separator : isSeparator sep = true)
    (option : (Place.outside.afterLines pre).action (left ++ sep :: old) = .set sec key value)
    (unused : isReserved sec = true ∨ key ∉ styleKeys) (unreferred : d.Unreferred sec key)
    (lines' : Text.lines other = pre ++ (left ++ sep :: new) :: post) :
    read other = read text := by
  obtain ⟨e, parsed', same⟩ :=
    Document.ofText_edited first separator lines option lines' parsed
  have unreferred' : e.Unreferred sec key := by
    rw [← Document.unreferred_erase_iff, same]
    exact Document.unreferred_erase_iff.mpr unreferred
  have described : ofDocument e = ofDocument d := by
    rw [← ofDocument_erase unused unreferred', same, ofDocument_erase unused unreferred]
  rw [read, read, parsed, parsed']
  exact described

/-- An option that refers to itself on a line of its own becomes one with broken
references, in a file that describes a scheme and in one that does not. -/
theorem read_unused_note :
    let pre := ["[String]".toList]
    let left := "Note ".toList
    let old := " see $\x7bpalette:red\x7d".toList
    let new := "$\x7bnote\x7d $ $\x7bnowhere:x\x7d $\x7b".toList
    let post (bold : String) := ["  or $\x7bNOTE\x7d".toList, "color = $\x7bpalette:red\x7d".toList,
      bold.toList, "[palette]".toList, "red = #f00".toList]
    let text (bold : String) := Text.ofLines (pre ++ (left ++ ':' :: old) :: post bold)
    let other (bold : String) := Text.ofLines (pre ++ (left ++ ':' :: new) :: post bold)
    let s := Scheme.insert {} (Token.root.child "String".toList)
      { bold := some true, color := some ⟨0xFF, 0, 0⟩ }
    "note".toList ∉ styleKeys ∧ read (text "bold = yes") = .ok s ∧ read (other "bold = yes") = .ok s ∧
      read (other "bold = never") =
        .error (.malformed 5 (.notABoolean "String".toList "bold".toList "never".toList)) := by
  intro pre left old new post text other s
  have first : ∀ c ∈ left, isSeparator c = false := by simp [left, isSeparator]
  have option : (Place.outside.afterLines pre).action (left ++ ':' :: old) =
      .set "String".toList "note".toList "see $\x7bpalette:red\x7d".toList := rfl
  have unused : "note".toList ∉ styleKeys := by decide
  have lines : ∀ bold ∈ ["bold = yes", "bold = never"],
      Text.lines (text bold) = pre ++ (left ++ ':' :: old) :: post bold ∧
        Text.lines (other bold) = pre ++ (left ++ ':' :: new) :: post bold := by decide
  have unreferred : ∀ bold ∈ ["bold = yes", "bold = never"], (Document.ofText (text bold)).map
      (fun d => decide (d.Unreferred "String".toList "note".toList)) = .ok true := by decide +kernel
  have same : ∀ bold ∈ ["bold = yes", "bold = never"], read (other bold) = read (text bold) := by
    intro bold hb
    have apart := unreferred bold hb
    obtain ⟨before, after⟩ := lines bold hb
    cases parsed : Document.ofText (text bold) with
    | error e => rw [parsed] at apart; cases apart
    | ok d =>
        rw [parsed] at apart
        have apart : d.Unreferred "String".toList "note".toList :=
          of_decide_eq_true (Except.ok.inj apart)
        exact read_unused parsed before first rfl option (.inr unused) apart after
  have read_text : read (text "bold = yes") = .ok s := by decide +kernel
  refine ⟨unused, read_text, (same _ (by simp)).trans read_text, (same _ (by simp)).trans ?_⟩
  decide +kernel

end Definition
end
end ColorScheme
