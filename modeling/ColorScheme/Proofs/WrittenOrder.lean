import ColorScheme.Proofs.ByteOrder
import ColorScheme.Proofs.DefinitionRoundTrip

/-!
The order of the sections in a definition file. They stand in the order of the full
names, while a scheme holds its tokens in the order of their paths. A dot in a full name
stands where a name on the path ends, so that the two orders are one where no character
of a name is below the dot.
-/

namespace ColorScheme

/-- Of two texts the smaller stays so, whatever follows them, if what follows it begins
with a dot and the greater holds characters above the dot only. -/
theorem Text.append_lt_append {x y s : Text} (less : x < y) (above : ∀ c ∈ y, '.' < c)
    (dot : ∀ c ∈ s.head?, c = '.') (t : Text) : x ++ s < y ++ t := by
  induction x generalizing y with
  | nil =>
      obtain ⟨d, y, rfl⟩ := List.exists_cons_of_ne_nil (fun none : y = [] => by cases none; cases less)
      cases s with
      | nil => exact List.nil_lt_cons ..
      | cons c s =>
          -- The smaller text ends here, and the dot behind it meets a greater character.
          obtain rfl := dot c rfl
          exact List.cons_lt_cons_iff.mpr (.inl (above d (List.mem_cons_self ..)))
  | cons c x ih =>
      cases y with
      | nil => cases less
      | cons d y =>
          have above' : ∀ c ∈ y, '.' < c := fun c hc => above c (List.mem_cons_of_mem _ hc)
          obtain first | ⟨same, rest⟩ := List.cons_lt_cons_iff.mp less
          · exact List.cons_lt_cons_iff.mpr (.inl first)
          · exact List.cons_lt_cons_iff.mpr (.inr ⟨same, ih rest above'⟩)

namespace Token

/-- The names on the path hold no dot and no character below it. -/
structure AboveDot (t : Token) : Prop where
  dotless : t.Dotless
  least : ∀ name ∈ t.segments, ∀ c ∈ name, '.' ≤ c

instance (t : Token) : Decidable t.AboveDot :=
  decidable_of_iff ((∀ name ∈ t.segments, '.' ∉ name) ∧
      ∀ name ∈ t.segments, name.all fun c => '.' ≤ c)
    ⟨fun h => ⟨h.1, by simpa using h.2⟩, fun h => ⟨h.dotless, by simpa using h.least⟩⟩

theorem AboveDot.dot_lt {t : Token} (h : t.AboveDot) :
    ∀ name ∈ t.segments, ∀ c ∈ name, '.' < c := by
  intro name hn c hc
  refine Std.lt_of_le_of_ne (h.least name hn c hc) ?_
  rintro rfl
  exact h.dotless name hn hc

theorem flatMap_dot_lt {names others : List Text} (less : names < others)
    (above : ∀ name ∈ others, ∀ c ∈ name, '.' < c) :
    (names.flatMap fun name => '.' :: name) < others.flatMap fun name => '.' :: name := by
  induction names generalizing others with
  | nil =>
      cases others with
      | nil => cases less
      | cons other others => exact List.nil_lt_cons ..
  | cons name names ih =>
      cases others with
      | nil => cases less
      | cons other others =>
          obtain ⟨here, there⟩ := List.forall_mem_cons.mp above
          rw [List.flatMap_cons, List.flatMap_cons, List.cons_append, List.cons_append]
          refine List.cons_lt_cons_iff.mpr (.inr ⟨rfl, ?_⟩)
          obtain first | ⟨rfl, rest⟩ := List.cons_lt_cons_iff.mp less
          · refine Text.append_lt_append first here ?_ _
            cases names <;> simp
          · exact List.append_left_lt (ih rest there)

variable {t u : Token}

theorem fullName_lt_fullName (hu : u.AboveDot) (less : t < u) : t.fullName < u.fullName :=
  List.append_left_lt (flatMap_dot_lt less hu.dot_lt)

theorem lt_iff_fullName (ht : t.AboveDot) (hu : u.AboveDot) : t < u ↔ t.fullName < u.fullName :=
  lt_iff_of_keeps (fullName_lt_fullName hu) (fullName_lt_fullName ht)

theorem lt_iff_bytes_segments :
    t < u ↔ t.segments.map Text.bytes < u.segments.map Text.bytes := by
  have keeps {t u : Token} (less : t < u) :
      t.segments.map Text.bytes < u.segments.map Text.bytes :=
    List.map_lt (fun _ _ => Text.bytes_lt_bytes) less
  exact lt_iff_of_keeps (f := fun t : Token => t.segments.map Text.bytes) keeps keeps

end Token

namespace Definition

theorem of_mem_styleLines {s : Style} {l : Text} (h : l ∈ styleLines s) :
    ∃ key ∈ fieldKeys, ∃ value, Plain value ∧ l = optionLine key value := by
  rw [styleLines_eq] at h
  obtain ⟨o, ho, rfl⟩ := List.mem_map.mp h
  obtain ⟨key, plain⟩ := of_mem_styleOptions ho
  exact ⟨o.1, key, o.2, plain, rfl⟩

theorem head?_of_mem_styleLines {s : Style} {l : Text} (h : l ∈ styleLines s) :
    l.head? ≠ some '[' := by
  obtain ⟨key, hk, value, -, rfl⟩ := of_mem_styleLines h
  have writable := writable_of_mem_fieldKeys key hk
  obtain ⟨c, rest, rfl⟩ := List.exists_cons_of_ne_nil writable.ne_nil
  exact fun first => (writable.lead c rfl).2.2 (Option.some.inj first)

theorem lineFeed_not_mem_styleLines {s : Style} {l : Text} (h : l ∈ styleLines s) : '\n' ∉ l := by
  obtain ⟨key, hk, value, plain, rfl⟩ := of_mem_styleLines h
  have writable := writable_of_mem_fieldKeys key hk
  have solid : '\n' ∉ key := fun m => (writable.solid _ m).2.2 rfl
  simp [optionLine, solid, plain.lineFeed_not_mem]

def header (t : Token) : Text :=
  '[' :: t.fullName ++ [']']

theorem lineFeed_not_mem_header {t : Token} (h : ∀ name ∈ t.segments, '\n' ∉ name) :
    '\n' ∉ header t := by
  simp [header, Token.fullName_on_line h]

def isHeader (l : Text) : Bool :=
  l.head? = some '['

theorem filter_sectionLines (e : Token × Style) :
    (sectionLines e.1 e.2).filter isHeader = [header e.1] := by
  have options : (styleLines e.2).filter isHeader = [] := by
    rw [List.filter_eq_nil_iff]
    intro l hl
    simpa [isHeader] using head?_of_mem_styleLines hl
  rw [sectionLines, List.filter_cons_of_pos rfl, options]
  rfl

theorem filter_isHeader_intercalate (entries : List (Token × Style)) :
    ([[]].intercalate (entries.map fun e => sectionLines e.1 e.2)).filter isHeader =
      entries.map fun e => header e.1 := by
  cases entries with
  | nil => rfl
  | cons e entries =>
      have others : ((entries.map fun e => sectionLines e.1 e.2).flatMap ([[]] ++ ·)).filter
          isHeader = entries.map fun e => header e.1 := by
        rw [List.flatMap_map, List.filter_flatMap, List.map_eq_flatMap]
        congr 1
        funext e
        exact filter_sectionLines e
      rw [List.map_cons, intercalate_cons_eq, List.filter_append, filter_sectionLines, others]
      rfl

variable {s : Scheme}

theorem lines_write (lineFree : ∀ t ∈ s.styles.keys, ∀ name ∈ t.segments, '\n' ∉ name) :
    Text.lines (write s) =
      [[]].intercalate ((sortedEntries s).map fun e => sectionLines e.1 e.2) := by
  refine Text.lines_ofLines _ fun l hl => ?_
  obtain hl | ⟨ls, hls, hl⟩ := mem_intercalate hl
  · obtain rfl := List.mem_singleton.mp hl
    exact List.not_mem_nil
  · obtain ⟨⟨t, style⟩, he, rfl⟩ := List.mem_map.mp hls
    obtain rfl | hl := List.mem_cons.mp hl
    · have stored : t ∈ s.styles.keys :=
        List.mem_map_of_mem ((sortedEntries_perm s).mem_iff.mp he)
      exact lineFeed_not_mem_header (lineFree t stored)
    · exact lineFeed_not_mem_styleLines hl

theorem sortedEntries_ascending (dotless : ∀ t ∈ s.styles.keys, t.Dotless) :
    (sortedEntries s).Pairwise fun a b => a.1.fullName < b.1.fullName := by
  have sorted : (sortedEntries s).Pairwise fun a b => a.1.fullName ≤ b.1.fullName := by
    refine (List.pairwise_mergeSort ?_ ?_ s.styles.entries).imp of_decide_eq_true
    · intro a b c h k
      exact decide_eq_true (Std.le_trans (of_decide_eq_true h) (of_decide_eq_true k))
    · intro a b
      simpa using Std.le_total
  have distinct := List.pairwise_map.mp (nodup_fullNames dotless)
  exact sorted.imp₂ (fun _ _ => Std.lt_of_le_of_ne) distinct

/-- The order of the full names is that of the tokens, where no name holds a character
below the dot. -/
theorem sortedEntries_of_aboveDot (above : ∀ t ∈ s.styles.keys, t.AboveDot) :
    sortedEntries s = s.styles.entries := by
  have ascending : s.styles.entries.Pairwise fun a b => a.1.fullName < b.1.fullName := by
    refine s.styles.ascending.imp_of_mem fun ha hb less => ?_
    exact Token.fullName_lt_fullName (above _ (List.mem_map_of_mem hb)) less
  refine (sortedEntries_perm s).eq_of_pairwise ?_
    (sortedEntries_ascending fun t ht => (above t ht).dotless) ascending
  intro a b _ _ less greater
  exact absurd (Std.lt_trans less greater) Std.lt_irrefl

/-- Where no name on a path holds a dot or a line feed, a definition file has one section for
each token with a style, and their headers are in strictly ascending order of the bytes of
the full names. Tokens are in the order of their paths, name by name; for those whose names
hold no character below a dot this is the order of their full names, and then the sections
stand in the order of the tokens. -/
theorem write_orders_sections :
    (∀ s : Scheme, (∀ t ∈ s.styles.keys, t.Dotless ∧ ∀ name ∈ t.segments, '\n' ∉ name) →
      ∃ entries : List (Token × Style), entries.Perm s.styles.entries ∧
        Text.lines (write s) = [[]].intercalate (entries.map fun e => sectionLines e.1 e.2) ∧
        (Text.lines (write s)).filter isHeader = entries.map (fun e => header e.1) ∧
        (entries.map fun e => Text.bytes e.1.fullName).Pairwise (· < ·) ∧
        ((∀ t ∈ s.styles.keys, t.AboveDot) → entries = s.styles.entries)) ∧
    ∀ t u : Token, (t < u ↔ t.segments.map Text.bytes < u.segments.map Text.bytes) ∧
      (t.AboveDot → u.AboveDot → (t < u ↔ Text.bytes t.fullName < Text.bytes u.fullName)) := by
  refine ⟨fun s h => ⟨sortedEntries s, sortedEntries_perm s, ?_, ?_, ?_, ?_⟩, fun t u => ⟨?_, ?_⟩⟩
  · exact lines_write fun t ht => (h t ht).2
  · rw [lines_write fun t ht => (h t ht).2, filter_isHeader_intercalate]
  · refine List.pairwise_map.mpr ((sortedEntries_ascending fun t ht => (h t ht).1).imp ?_)
    exact Text.bytes_lt_bytes
  · exact sortedEntries_of_aboveDot
  · exact Token.lt_iff_bytes_segments
  · exact fun ht hu => (Token.lt_iff_fullName ht hu).trans Text.lt_iff_bytes

/-- A hyphen is below the dot: of `A.B` and `A-` the first is the smaller token and has the
greater full name. -/
theorem write_orders_sections_hyphen :
    let t : Token := ⟨["A".toList, "B".toList]⟩
    let u : Token := ⟨["A-".toList]⟩
    let v : Token := ⟨[[], "é".toList]⟩
    let s : Scheme := (Scheme.insert {} t { bold := some true }).insert u { bold := some true }
    let r : Scheme := (Scheme.insert {} t { bold := some true }).insert v { bold := some true }
    (∀ t ∈ s.styles.keys, t.Dotless ∧ ∀ name ∈ t.segments, '\n' ∉ name) ∧
      (∃ entries : List (Token × Style), entries.Perm s.styles.entries ∧
        (Text.lines (write s)).filter isHeader = entries.map (fun e => header e.1) ∧
        entries ≠ s.styles.entries) ∧
      t < u ∧ (∀ t ∈ r.styles.keys, t.AboveDot ∧ ∀ name ∈ t.segments, '\n' ∉ name) ∧
      (Text.lines (write r)).filter isHeader = [header v, header t] ∧
      t.AboveDot ∧ v.AboveDot ∧ Text.bytes v.fullName < Text.bytes t.fullName := by
  intro t u v s r
  obtain ⟨written, ordered⟩ := write_orders_sections
  have lines : ∀ t ∈ s.styles.keys, t.Dotless ∧ ∀ name ∈ t.segments, '\n' ∉ name := by
    unfold Token.Dotless
    decide
  have above : ∀ t ∈ r.styles.keys, t.AboveDot ∧ ∀ name ∈ t.segments, '\n' ∉ name := by decide
  obtain ⟨entries, perm, -, headers, ascending, -⟩ := written s lines
  obtain ⟨entries', -, -, headers', -, same⟩ :=
    written r fun t ht => ⟨(above t ht).1.dotless, (above t ht).2⟩
  have ht : t.AboveDot := by decide
  have hv : v.AboveDot := by decide
  refine ⟨lines, ⟨entries, perm, headers, ?_⟩, by decide, above, ?_, ht, hv, ?_⟩
  · rintro rfl
    exact absurd ascending (by decide +kernel)
  · rw [headers', same fun t ht => (above t ht).1]
    rfl
  · exact ((ordered v t).2 hv ht).mp (by decide)

end Definition
end ColorScheme
