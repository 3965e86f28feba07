import ColorScheme.Proofs.HeaderNames
import ColorScheme.Proofs.SectionStyles
import ColorScheme.Proofs.WrittenSections
import Mathlib.Logic.Equiv.Basic

/-!
The two spellings of the name of a section. A header that is the only one of its token
can be spelled either way. Headers that are spelled differently open different
sections, though, and of these only the last says what the style of the token is.
-/

namespace ColorScheme

/-- The full name of a token whose short one is given. -/
def fullSpelling (name : Text) : Text :=
  Token.rootName ++ '.' :: name

/-- The name is the short one of a token other than the root. -/
structure ShortName (name : Text) : Prop where
  shown : Definition.isReserved name = false
  other : name ≠ Token.rootName
  short : Text.after? (Token.rootName ++ ['.']) name = none

variable {name : Text}

theorem trim_fullSpelling (trimmed : Text.trim name = name) (ne : name ≠ []) :
    Text.trim (fullSpelling name) = fullSpelling name := by
  refine Text.trim_eq_self_iff.mpr ⟨fun c hc => ?_, fun c hc => ?_⟩
  · obtain rfl : 'T' = c := Option.some.inj hc
    decide
  · have last : (fullSpelling name).getLast? = name.getLast? := by
      rw [fullSpelling, List.getLast?_append, List.getLast?_cons,
        List.getLast?_eq_some_getLast ne]
      rfl
    exact (Text.trim_eq_self_iff.mp trimmed).2 c (last ▸ hc)

/-- Whether a name is one of the two spellings. -/
def spells (name other : Text) : Bool :=
  other = name || other = fullSpelling name

def respell (name : Text) : Text → Text :=
  Equiv.swap name (fullSpelling name)

theorem respell_injective : Function.Injective (respell name) :=
  Equiv.injective _

theorem respell_name : respell name name = fullSpelling name :=
  Equiv.swap_apply_left ..

theorem respell_fullSpelling : respell name (fullSpelling name) = name :=
  Equiv.swap_apply_right ..

theorem respell_of_not_spells {other : Text} (h : spells name other = false) :
    respell name other = other := by
  obtain ⟨short, full⟩ : other ≠ name ∧ other ≠ fullSpelling name := by simpa [spells] using h
  exact Equiv.swap_apply_of_ne_of_ne short full

theorem spells_cases (name other : Text) :
    spells name other = false ∨ other = name ∨ other = fullSpelling name := by
  cases h : spells name other with
  | false => exact .inl rfl
  | true => exact .inr (by simpa [spells] using h)

namespace ShortName

variable (h : ShortName name) (trimmed : Text.trim name = name) (ne : name ≠ [])

include h trimmed ne

theorem parse_fullSpelling (t : Token) :
    Token.parse (fullSpelling name) = .ok t ↔ Token.parse name = .ok t := by
  have full : ¬(fullSpelling name = [] ∨ fullSpelling name = Token.rootName) := by
    simp [fullSpelling]
  have short : ¬(name = [] ∨ name = Token.rootName) := not_or.mpr ⟨ne, h.other⟩
  have after : Text.after? (Token.rootName ++ ['.']) (fullSpelling name) = some name :=
    Text.after?_append (Token.rootName ++ ['.']) name
  rw [Token.parse, Token.parse, trim_fullSpelling trimmed ne, trimmed, if_neg full, if_neg short,
    after, h.short]
  dsimp only [Option.getD]
  cases Token.ofPath? name <;> simp

theorem parse_of_spells {other : Text} (spelled : spells name other = true) (t : Token) :
    Token.parse other = .ok t ↔ Token.parse name = .ok t := by
  obtain unlike | rfl | rfl := spells_cases name other
  · rw [unlike] at spelled
    cases spelled
  · rfl
  · exact h.parse_fullSpelling trimmed ne t

theorem parse_respell (other : Text) (t : Token) :
    Token.parse (respell name other) = .ok t ↔ Token.parse other = .ok t := by
  obtain unlike | rfl | rfl := spells_cases name other
  · rw [respell_of_not_spells unlike]
  · rw [respell_name, h.parse_fullSpelling trimmed ne]
  · rw [respell_fullSpelling, h.parse_fullSpelling trimmed ne]

end ShortName

/-- The reader after a header. -/
def Reader.opened (r : Reader) (name : Text) (number : Nat) : Reader :=
  ⟨r.document.addSection name number, .inside name none⟩

section

variable {text : Text} {pre post : List Text} {raw : Text}
  (lines : Text.lines text = pre ++ raw :: post)

include lines

theorem Document.ofText_from_line {r : Reader} (first : ({} : Reader).readLines 1 pre = .ok r) :
    ofText text = ((r.perform (1 + pre.length) ((Place.outside.afterLines pre).action raw)).bind
      fun next => next.readLines (1 + pre.length + 1) post).map (·.document) := by
  rw [ofText, lines, Reader.readLines_append, first]
  change (r.readLines (1 + pre.length) (raw :: post)).map _ = _
  rw [Reader.readLines_cons, Reader.place_readLines first]

theorem Document.ofText_from_header {r : Reader}
    (header : (Place.outside.afterLines pre).action raw = .openSection name)
    (first : ({} : Reader).readLines 1 pre = .ok r) (d : Document) : ofText text = .ok d ↔
      ∃ last, (r.opened name (1 + pre.length)).readLines (1 + pre.length + 1) post = .ok last ∧
        last.document = d := by
  have run : ofText text = ((r.opened name (1 + pre.length)).readLines (1 + pre.length + 1)
      post).map (·.document) := by
    rw [ofText_from_line lines first, header]
    rfl
  rw [run]
  cases (r.opened name (1 + pre.length)).readLines (1 + pre.length + 1) post <;>
    simp [Except.map]

theorem Document.exists_of_ofText {d : Document} (ok : ofText text = .ok d) :
    ∃ r, ({} : Reader).readLines 1 pre = .ok r := by
  obtain ⟨last, read, -⟩ := ofText_eq_ok_iff.mp ok
  rw [lines, Reader.readLines_append_eq_ok_iff] at read
  obtain ⟨r, first, -⟩ := read
  exact ⟨r, first⟩

end

section

variable {text other : Text} {pre post : List Text} {raw raw' : Text} {d : Document}
  (lines : Text.lines text = pre ++ raw :: post)
  (header : (Place.outside.afterLines pre).action raw = .openSection name)
  (lines' : Text.lines other = pre ++ raw' :: post)
  (header' : (Place.outside.afterLines pre).action raw' = .openSection (fullSpelling name))

include lines header lines' header'

/-- A header that is the only one of its token can be spelled the other way. -/
theorem Document.ofText_respelled
    (only : (Place.outside.headers (Text.lines text)).filter (spells name) = [name])
    (ok : ofText text = .ok d) : ofText other = .ok (d.rename (respell name)) := by
  obtain ⟨r, first⟩ := exists_of_ofText lines ok
  obtain ⟨before, after⟩ : (Place.outside.headers pre).filter (spells name) = [] ∧
      ((Place.inside name none).headers post).filter (spells name) = [] := by
    have own : spells name name = true := by simp [spells]
    rw [lines, Place.headers_append, Place.headers, header, List.filter_append] at only
    change _ ++ (name :: (Place.inside name none).headers post).filter (spells name) = _ at only
    rw [List.filter_cons_of_pos own, List.append_eq_singleton_iff] at only
    obtain ⟨before, rest⟩ | ⟨-, rest⟩ := only
    · exact ⟨before, (List.cons_eq_cons.mp rest).2⟩
    · cases rest
  have early : r.document.rename (respell name) = r.document := by
    refine rename_of_fixed fun s hs => respell_of_not_spells ?_
    obtain ⟨t, ht, -⟩ | there := Reader.name_of_readLines first s hs
    · cases ht
    · simpa using List.filter_eq_nil_iff.mp before s.name there
  have late : ∀ other ∈ (Place.inside name none).headers post, respell name other = other := by
    intro other there
    exact respell_of_not_spells (by simpa using List.filter_eq_nil_iff.mp after other there)
  have opened : (r.opened name (1 + pre.length)).rename (respell name) =
      r.opened (fullSpelling name) (1 + pre.length) := by
    rw [Reader.rename, Reader.opened, rename_addSection respell_injective, early, respell_name]
    exact congrArg (fun sec => Reader.mk _ (.inside sec none)) respell_name
  obtain ⟨last, read, rfl⟩ := (ofText_from_header lines header first d).mp ok
  refine (ofText_from_header lines' header' first _).mpr ⟨last.rename (respell name), ?_, rfl⟩
  rw [← opened, Reader.readLines_rename respell_injective late, read]
  rfl

/-- However the header is spelled, the same is read of all other sections. -/
theorem Document.ofText_without_respelled (ok : ofText text = .ok d) :
    ∃ e, ofText other = .ok e ∧ e.without (spells name) = d.without (spells name) := by
  obtain ⟨r, first⟩ := exists_of_ofText lines ok
  have short : spells name name = true := by simp [spells]
  have full : spells name (fullSpelling name) = true := by simp [spells]
  have opened : (r.opened name (1 + pre.length)).without (spells name) name =
      (r.opened (fullSpelling name) (1 + pre.length)).without (spells name) name := by
    rw [Reader.without, Reader.opened, without_addSection_hidden short, Reader.without,
      Reader.opened, without_addSection_hidden full]
    change Reader.mk _ (.inside (blurred (spells name) name name) none) =
      Reader.mk _ (.inside (blurred (spells name) name (fullSpelling name)) none)
    rw [blurred, blurred, short, full]
    rfl
  obtain ⟨last, read, rfl⟩ := (ofText_from_header lines header first d).mp ok
  have alike := Reader.readLines_alike short opened (1 + pre.length + 1) post
  rw [read] at alike
  cases read' : (r.opened (fullSpelling name) (1 + pre.length)).readLines (1 + pre.length + 1)
      post with
  | error e => rw [read'] at alike; cases alike
  | ok last' =>
      rw [read'] at alike
      have there := (ofText_from_header lines' header' first _).mpr ⟨last', read', rfl⟩
      exact ⟨last'.document, there, congrArg Reader.document (Except.ok.inj alike).symm⟩

end

namespace Definition

theorem isReserved_fullSpelling (name : Text) : isReserved (fullSpelling name) = false := by
  have first : (fullSpelling name).head? = some 'T' := rfl
  rw [isReserved, first]
  decide +kernel

theorem sectionToken_eq_ok_iff {s : Section} {t : Token} :
    sectionToken s = .ok t ↔ Token.parse s.name = .ok t := by
  rw [sectionToken]
  cases Token.parse s.name <;> simp

variable {d e : Document} {s : Scheme}

/-- No value of the document refers to a section under one of the two spellings. -/
def Unnamed (name : Text) (d : Document) : Prop :=
  ∀ other ∈ d.sectionsNamed, spells name other = false

theorem agree_rename (unnamed : Unnamed name d) :
    d.Agree (d.rename (respell name)) fun a b => b = respell name a where
  raws := by
    rintro a _ rfl key
    rw [Document.raw?, Document.raw?, Document.find?_rename respell_injective]
    cases d.find? a <;> rfl
  closed other there := (respell_of_not_spells (unnamed other there)).symm

theorem agree_without (unnamed : Unnamed name d)
    (same : e.without (spells name) = d.without (spells name)) :
    d.Agree e fun a b => a = b ∧ spells name a = false where
  raws := by
    rintro a _ ⟨rfl, shown⟩ key
    rw [Document.raw?, Document.raw?, ← Document.find?_without shown d, ← same,
      Document.find?_without shown]
  closed other there := ⟨rfl, unnamed other there⟩

theorem isReserved_respell (h : ShortName name) (other : Text) :
    isReserved (respell name other) = isReserved other := by
  obtain unlike | rfl | rfl := spells_cases name other
  · rw [respell_of_not_spells unlike]
  · rw [respell_name, isReserved_fullSpelling, h.shown]
  · rw [respell_fullSpelling, isReserved_fullSpelling, h.shown]

section

variable (h : ShortName name) (trimmed : Text.trim name = name) (ne : name ≠ [])
  (unnamed : Unnamed name d)

include h trimmed ne

/-- Of what the sections of the token add, other tokens have nothing. -/
theorem filter_sectionStyle? {t : Token} (others : Token.parse name ≠ .ok t) (d : Document) :
    (d.sections.filterMap (sectionStyle? d)).filter (·.1 = t) =
      ((d.without (spells name)).sections.filterMap (sectionStyle? d)).filter (·.1 = t) := by
  rw [Document.without, List.filterMap_filter, List.filter_filterMap, List.filter_filterMap]
  refine List.filterMap_congr fun sec _ => ?_
  cases spelled : spells name sec.name with
  | false => rfl
  | true =>
      cases added : sectionStyle? d sec with
      | none => rfl
      | some entry =>
          have named : Token.parse name = .ok entry.1 := by
            rw [← h.parse_of_spells trimmed ne spelled, ← sectionToken_eq_ok_iff]
            exact (sectionStyle?_eq_some.mp added).2.1
          have other : entry.1 ≠ t := fun e => others (e ▸ named)
          simp [other]

include unnamed

theorem ofDocument_respelled (ok : ofDocument d = .ok s) :
    ofDocument (d.rename (respell name)) = .ok s := by
  obtain ⟨readable, rfl⟩ := ofDocument_eq_ok_iff.mp ok
  have each (sec : Section) (there : sec ∈ d.sections) :
      Readable (d.rename (respell name)) (sec.rename (respell name)) ∧
        sectionStyle? (d.rename (respell name)) (sec.rename (respell name)) =
          sectionStyle? d sec := by
    refine (readable sec there).of_agree (agree_rename unnamed) rfl
      (isReserved_respell h sec.name) fun t named => ?_
    rw [sectionToken_eq_ok_iff] at named ⊢
    exact (h.parse_respell trimmed ne sec.name t).mpr named
  refine ofDocument_eq_ok_iff.mpr ⟨?_, congrArg (Scheme.insertAll {}) ?_⟩
  · exact List.forall_mem_map.mpr fun sec there => (each sec there).1
  · rw [Document.rename, List.filterMap_map]
    exact List.filterMap_congr fun sec there => (each sec there).2.symm

/-- If two documents differ in the sections of the token only, these decide whether
the second is accepted, and other tokens have the same styles. -/
theorem ofDocument_of_without (same : e.without (spells name) = d.without (spells name))
    (ok : ofDocument d = .ok s) :
    ((∃ r, ofDocument e = .ok r) ↔
      ∀ sec ∈ e.sections, spells name sec.name = true → Readable e sec) ∧
    ∀ r, ofDocument e = .ok r → ∀ t, Token.parse name ≠ .ok t → r.get? t = s.get? t := by
  obtain ⟨readable, rfl⟩ := ofDocument_eq_ok_iff.mp ok
  have each (sec : Section) (there : sec ∈ (d.without (spells name)).sections) :
      Readable e sec ∧ sectionStyle? e sec = sectionStyle? d sec := by
    obtain ⟨there, shown⟩ := List.mem_filter.mp there
    have unspelled : spells name sec.name = false := by simpa using shown
    exact (readable sec there).of_agree (agree_without unnamed same) ⟨rfl, unspelled⟩ rfl
      fun _ => id
  refine ⟨⟨?_, ?_⟩, ?_⟩
  · rintro ⟨r, ok⟩ sec there -
    exact (ofDocument_eq_ok_iff.mp ok).1 sec there
  · intro spelled
    refine ⟨_, ofDocument_eq_ok_iff.mpr ⟨fun sec there => ?_, rfl⟩⟩
    cases hs : spells name sec.name with
    | true => exact spelled sec there hs
    | false =>
        have shown : sec ∈ (e.without (spells name)).sections :=
          List.mem_filter.mpr ⟨there, by simp [hs]⟩
        exact (each sec (same ▸ shown)).1
  · intro r ok t others
    rw [(ofDocument_eq_ok_iff.mp ok).2]
    refine Scheme.get?_insertAll_congr ?_ {}
    rw [filter_sectionStyle? h trimmed ne others, filter_sectionStyle? h trimmed ne others, same]
    exact congrArg (List.filter _) (List.filterMap_congr fun sec there => (each sec there).2)

end

/-- The short name in a header can be spelled in full, where no value refers to a
section of the token and the token has no other header. Where it has another, the
file may no longer be accepted, since the sections are read one by one; if it is, then
only the token itself may have come to another style. -/
theorem read_respelled {text other : Text} {pre post : List Text} {raw : Text}
    (ok : read text = .ok s) (lines : Text.lines text = pre ++ raw :: post)
    (header : (Place.outside.afterLines pre).action raw = .openSection name)
    (short : ShortName name) (unnamed : ∀ d, Document.ofText text = .ok d → Unnamed name d)
    (respelled : Text.lines other = pre ++ ('[' :: fullSpelling name ++ [']']) :: post) :
    ((Place.outside.headers (Text.lines text)).filter (spells name) = [name] →
      read other = .ok s) ∧
    ∃ e, Document.ofText other = .ok e ∧
      ((∃ r, read other = .ok r) ↔
        ∀ sec ∈ e.sections, spells name sec.name = true → Readable e sec) ∧
      ∀ r, read other = .ok r → ∀ t, Token.parse name ≠ .ok t → r.get? t = s.get? t := by
  obtain ⟨trimmed, ne⟩ := Place.trim_of_action header
  have header' : (Place.outside.afterLines pre).action ('[' :: fullSpelling name ++ [']']) =
      .openSection (fullSpelling name) :=
    Place.action_sectionHeader _ (by simp [fullSpelling, Token.rootName])
      (trim_fullSpelling trimmed ne)
  cases parsed : Document.ofText text with
  | error e => rw [read, parsed] at ok; cases ok
  | ok d =>
      have described : ofDocument d = .ok s := by rwa [read, parsed] at ok
      have read_of {e : Document} (h : Document.ofText other = .ok e) :
          read other = ofDocument e := by
        rw [read, h]
        rfl
      refine ⟨fun only => ?_, ?_⟩
      · rw [read_of (Document.ofText_respelled lines header respelled header' only parsed)]
        exact ofDocument_respelled short trimmed ne (unnamed d parsed) described
      · obtain ⟨e, parsed', same⟩ :=
          Document.ofText_without_respelled lines header respelled header' parsed
        rw [read_of parsed']
        exact ⟨e, parsed', ofDocument_of_without short trimmed ne (unnamed d parsed) same described⟩

/-- The only header of a token, in a file whose references name other sections. -/
theorem read_respelled_palette :
    let name := "String".toList
    let pre := ["[palette]".toList, "red = #f00".toList, []]
    let post := ["color = $\x7bpalette:red\x7d".toList, "[Name]".toList, "bold = 1".toList]
    let text := Text.ofLines (pre ++ "  [ String ]".toList :: post)
    let other := Text.ofLines (pre ++ "[Token.String]".toList :: post)
    let s := (Scheme.insert {} (Token.root.child name) { color := some ⟨0xFF, 0, 0⟩ }).insert
      (Token.root.child "Name".toList) { bold := some true }
    read text = .ok s ∧ (Document.ofText text).map (·.sectionsNamed) = .ok ["palette".toList] ∧
      (Place.outside.headers (Text.lines text)).filter (spells name) = [name] ∧
      read other = .ok s := by
  intro name pre post text other s
  have ok : read text = .ok s := by decide +kernel
  have named : (Document.ofText text).map (·.sectionsNamed) = .ok ["palette".toList] := by
    decide +kernel
  have only : (Place.outside.headers (Text.lines text)).filter (spells name) = [name] := by
    decide +kernel
  have unnamed : ∀ d, Document.ofText text = .ok d → Unnamed name d := by
    intro d parsed
    rw [parsed] at named
    have palette : d.sectionsNamed = ["palette".toList] := Except.ok.inj named
    rw [Unnamed, palette]
    decide
  have lines : Text.lines text = pre ++ "  [ String ]".toList :: post := by decide
  have header : (Place.outside.afterLines pre).action "  [ String ]".toList =
      .openSection name := rfl
  have short : ShortName name := ⟨by decide +kernel, by decide, by decide⟩
  have respelled : Text.lines other = pre ++ ('[' :: fullSpelling name ++ [']']) :: post := by decide
  obtain ⟨same, -⟩ := read_respelled ok lines header short unnamed respelled
  exact ⟨ok, named, only, same only⟩

/-- A header that opens a section again opens another one when it is spelled in full:
what the first says of the style is lost, and what it holds for the second to refer
to is out of reach. -/
theorem read_respelled_reopened :
    let name := "String".toList
    let string := Token.root.child name
    let text (first second : String) :=
      Text.ofLines ["[String]".toList, first.toList, "[String]".toList, second.toList]
    let other (first second : String) :=
      Text.ofLines ["[String]".toList, first.toList, "[Token.String]".toList, second.toList]
    read (text "color = #f00" "bold = yes") =
        .ok (Scheme.insert {} string { bold := some true, color := some ⟨0xFF, 0, 0⟩ }) ∧
      read (other "color = #f00" "bold = yes") =
        .ok (Scheme.insert {} string { bold := some true }) ∧
      read (text "red = #f00" "color = $\x7bred\x7d") =
        .ok (Scheme.insert {} string { color := some ⟨0xFF, 0, 0⟩ }) ∧
      read (other "red = #f00" "color = $\x7bred\x7d") =
        .error (.malformed 4 (.unknownReference "red".toList)) := by
  decide +kernel

end Definition
end ColorScheme
