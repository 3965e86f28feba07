import ColorScheme.Proofs.SchemeContents
import ColorScheme.Proofs.SectionNames
import ColorScheme.Proofs.TokenNames
import ColorScheme.Proofs.WrittenStyles

/-!
Which schemes come back from their definition files: those with canonical tokens
only, since every token that is read is canonical. The two colors of the page
are not written, so they come back as the standard ones.
-/

namespace ColorScheme.Definition

theorem canonical_of_sectionToken {s : Section} {t : Token} (line : '\n' ∉ s.name)
    (ok : sectionToken s = .ok t) : t.Canonical := by
  rw [sectionToken] at ok
  split at ok
  · next parsed =>
      cases ok
      exact Token.canonical_of_parse parsed line
  · cases ok

/-- A section adds nothing, if its name is reserved, or the style that it shows. -/
theorem readSection_cases {d : Document} {scheme next : Scheme} {s : Section}
    (ok : readSection d scheme s = .ok next) :
    (isReserved s.name = true ∧ next = scheme) ∨
      ∃ token style, isReserved s.name = false ∧ sectionToken s = .ok token ∧
        readStyle d s.name = .ok style ∧ next = scheme.insert token style := by
  rw [readSection] at ok
  cases reserved : isReserved s.name with
  | true =>
      rw [reserved] at ok
      cases ok
      exact .inl ⟨rfl, rfl⟩
  | false =>
      rw [reserved] at ok
      cases named : sectionToken s with
      | error e => rw [named] at ok; cases ok
      | ok token =>
          cases described : readStyle d s.name with
          | error e => rw [named, described] at ok; cases ok
          | ok style =>
              rw [named, described] at ok
              cases ok
              exact .inr ⟨token, style, rfl, rfl, rfl, rfl⟩

theorem canonical_of_readSection {d : Document} {scheme next : Scheme} {s : Section}
    (line : '\n' ∉ s.name) (h : ∀ t ∈ scheme.styles.keys, t.Canonical)
    (ok : readSection d scheme s = .ok next) : ∀ t ∈ next.styles.keys, t.Canonical := by
  obtain ⟨-, rfl⟩ | ⟨token, style, -, named, -, rfl⟩ := readSection_cases ok
  · exact h
  · intro t ht
    obtain ⟨_, found⟩ := SortedTable.mem_keys_iff.mp ht
    change (scheme.insert token style).get? t = _ at found
    rw [Scheme.get?_insert] at found
    split at found
    · next same => exact same ▸ canonical_of_sectionToken line named
    · exact h t (SortedTable.mem_keys_iff.mpr ⟨_, found⟩)

theorem exists_of_read {text : Text} {s : Scheme} (ok : read text = .ok s) :
    ∃ d, Document.ofText text = .ok d ∧ ofDocument d = .ok s := by
  rw [read] at ok
  cases parsed : Document.ofText text with
  | error e => rw [parsed] at ok; cases ok
  | ok d => rw [parsed] at ok; exact ⟨d, rfl, ok⟩

theorem canonical_of_read {text : Text} {scheme : Scheme} (ok : read text = .ok scheme) :
    ∀ t ∈ scheme.styles.keys, t.Canonical := by
  obtain ⟨d, parsed, described⟩ := exists_of_read ok
  refine foldlM_keeps (P := fun r => ∀ t ∈ r.styles.keys, t.Canonical) ?_ ?_ described
  · intro s hs _ _ h step
    exact canonical_of_readSection (Document.namesOnLines_of_ofText parsed s hs) h step
  · simp [SortedTable.keys, SortedTable.empty]

def written (e : Token × Style) : WrittenSection :=
  ⟨e.1.fullName, (styleOptions e.2).map .oneLine⟩

@[simp] theorem entries_written (e : Token × Style) : (written e).entries = styleOptions e.2 := by
  simp [written, WrittenSection.entries, Function.comp_def]

theorem write_eq (s : Scheme) :
    write s = WrittenSection.fileText [[]] ((sortedEntries s).map written) := by
  have lines (e : Token × Style) : sectionLines e.1 e.2 = (written e).lines := by
    rw [sectionLines, styleLines_eq, WrittenSection.lines, written, List.flatMap_map]
    simp [WrittenOption.lines, WrittenOption.oneLine, List.map_eq_flatMap]
  rw [write, WrittenSection.fileText, List.map_map]
  simp only [lines, Function.comp_def]

theorem writable_written {e : Token × Style} (h : e.1.Canonical) : (written e).Writable :=
  writable_styleOptions e.2 (by simp [Token.fullName, Token.rootName]) h.findable.trim_fullName
    h.lineFeed_not_mem_fullName

theorem readSection_of_shown {d : Document} {e : Token × Style} {s : Section}
    (h : e.1.Canonical) (named : s.name = e.1.fullName)
    (shown : ∀ key, (d.raw? e.1.fullName key).map (·.text) =
      (styleOptions e.2).lookup (Text.lowercase key)) (scheme : Scheme) :
    readSection d scheme s = .ok (scheme.insert e.1 e.2) := by
  have kept : isReserved e.1.fullName = false := by
    rw [isReserved, e.1.head?_fullName]
    decide +kernel
  rw [readSection, sectionToken, named, kept, h.findable.parse_fullName, readStyle_of_shown shown]
  rfl

theorem foldlM_readAll {d : Document} {entries : List (Token × Style)}
    (h : ∀ e ∈ entries, ∀ s : Section, s.name = e.1.fullName → ∀ scheme : Scheme,
      readSection d scheme s = .ok (scheme.insert e.1 e.2)) (gap number : Nat) (scheme : Scheme) :
    (WrittenSection.readAll gap number (entries.map written)).foldlM (readSection d) scheme =
      .ok (scheme.insertAll entries) := by
  induction entries generalizing number scheme with
  | nil => rfl
  | cons e entries ih =>
      rw [List.map_cons, WrittenSection.readAll, List.foldlM_cons,
        h e (by simp) _ ((written e).name_read number)]
      exact ih (fun e he => h e (by simp [he])) _ _

theorem sortedEntries_perm (s : Scheme) : (sortedEntries s).Perm s.styles.entries :=
  List.mergeSort_perm ..

theorem nodup_fullNames {s : Scheme} (h : ∀ t ∈ s.styles.keys, t.Dotless) :
    ((sortedEntries s).map fun e => e.1.fullName).Nodup := by
  have names : (s.styles.keys.map Token.fullName).Nodup :=
    s.styles.keys_nodup.map_on fun t ht u hu => Token.injOn_fullName (h t ht) (h u hu)
  rw [SortedTable.keys, List.map_map] at names
  exact ((sortedEntries_perm s).map _).nodup_iff.mpr names

/-- A scheme of canonical tokens is read back, but for the colors of its
page. -/
theorem read_write {s : Scheme} (full : s.StylesSetSomething)
    (canonical : ∀ t ∈ s.styles.keys, t.Canonical) :
    read (write s) = .ok { styles := s.styles } := by
  have perm := sortedEntries_perm s
  have tokens : ∀ e ∈ sortedEntries s, e.1.Canonical := fun e he =>
    canonical e.1 (List.mem_map_of_mem (perm.mem_iff.mp he))
  -- No section is opened twice, since distinct tokens have distinct full names.
  have distinct : (((sortedEntries s).map written).map (·.name)).Nodup := by
    rw [List.map_map]
    exact nodup_fullNames fun t ht name hn => ((canonical t ht).names name hn).2.1
  have writable : ∀ w ∈ (sortedEntries s).map written, w.Writable := by
    simp only [List.forall_mem_map]
    exact fun e he => writable_written (tokens e he)
  have blank : ∀ l ∈ ([[]] : List Text), Text.trim l = [] ∧ '\n' ∉ l := by decide
  have parsed := WrittenSection.ofText_fileText blank writable distinct
  have shown : ∀ e ∈ sortedEntries s, ((sortedEntries s).map written).find?
      (·.name = e.1.fullName) = some (written e) := fun e he =>
    find?_of_key distinct (List.mem_map_of_mem he)
  have styles : ofDocument ⟨WrittenSection.readAll 1 1 ((sortedEntries s).map written)⟩ =
      .ok (Scheme.insertAll {} (sortedEntries s)) := by
    refine foldlM_readAll (fun e he _ named => ?_) 1 1 {}
    refine readSection_of_shown (tokens e he) named fun key => ?_
    rw [WrittenSection.text_raw?_readAll writable, shown e he, Option.bind_some, entries_written]
  rw [read, write_eq, parsed]
  change ofDocument ⟨WrittenSection.readAll 1 1 _⟩ = _
  rw [styles, Scheme.insertAll_eq rfl perm full]

/-- The styles of a scheme come back from its definition file exactly when all
its tokens are canonical. Then the colors of the page come back as the standard
ones, whatever they were. -/
theorem read_write_iff (s : Scheme) (full : s.StylesSetSomething) :
    ((∃ r, read (write s) = .ok r ∧ r.styles = s.styles) ↔ ∀ t ∈ s.styles.keys, t.Canonical) ∧
    ∀ r, read (write s) = .ok r → r.styles = s.styles →
      r.background = .white ∧ r.highlight = .paleYellow ∧
        (r = s ↔ s.background = .white ∧ s.highlight = .paleYellow) := by
  have canonical {r : Scheme} (ok : read (write s) = .ok r) (same : r.styles = s.styles) :
      ∀ t ∈ s.styles.keys, t.Canonical := same ▸ canonical_of_read ok
  refine ⟨⟨fun ⟨r, ok, same⟩ => canonical ok same, fun h => ⟨_, read_write full h, rfl⟩⟩, ?_⟩
  intro r ok same
  have back := read_write full (canonical ok same)
  obtain rfl : r = { styles := s.styles } := Except.ok.inj (ok.symm.trans back)
  refine ⟨rfl, rfl, ?_⟩
  rw [Scheme.ext_iff]
  simp [eq_comm]

theorem read_write_brackets :
    let s := Scheme.insert { background := .paleYellow } (Token.root.child "] # $".toList)
      { color := some .white, inherit := false }
    s.StylesSetSomething ∧ (∀ t ∈ s.styles.keys, t.Canonical) ∧
      ∃ r, read (write s) = .ok r ∧ r.styles = s.styles ∧ r.background = .white ∧ r ≠ s := by
  intro s
  have full : s.StylesSetSomething := by decide
  have canonical : ∀ t ∈ s.styles.keys, t.Canonical := by decide
  obtain ⟨back, page⟩ := read_write_iff s full
  obtain ⟨r, ok, same⟩ := back.2 canonical
  obtain ⟨background, -, whole⟩ := page r ok same
  exact ⟨full, canonical, r, ok, same, background, fun e => absurd (whole.1 e).1 (by decide)⟩

end ColorScheme.Definition
