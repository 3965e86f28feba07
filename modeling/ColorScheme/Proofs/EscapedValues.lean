import ColorScheme.Proofs.Expansion
import ColorScheme.Proofs.WrittenSections

/-!
Any values can be put into a document, if each dollar sign in them is doubled. That
changes neither end of a line, so a reader of lines makes the same of it, and it
leaves nothing that could be taken for a reference.
-/

namespace ColorScheme

namespace Text

def escapeDollars (s : Text) : Text :=
  s.flatMap fun c => if c = '$' then ['$', '$'] else [c]

theorem escapeDollars_append (s t : Text) :
    escapeDollars (s ++ t) = escapeDollars s ++ escapeDollars t :=
  List.flatMap_append

theorem escapeDollars_cons_of_ne {c : Char} (h : c ≠ '$') (s : Text) :
    escapeDollars (c :: s) = c :: escapeDollars s := by
  simp [escapeDollars, h]

theorem escapeDollars_cons_dollar (s : Text) :
    escapeDollars ('$' :: s) = '$' :: '$' :: escapeDollars s := rfl

@[simp] theorem head?_escapeDollars (s : Text) : (escapeDollars s).head? = s.head? := by
  cases s with
  | nil => rfl
  | cons c s =>
      by_cases h : c = '$'
      · rw [h, escapeDollars_cons_dollar]
        rfl
      · rw [escapeDollars_cons_of_ne h]
        rfl

@[simp] theorem getLast?_escapeDollars (s : Text) :
    (escapeDollars s).getLast? = s.getLast? := by
  induction s using List.reverseRecOn with
  | nil => rfl
  | append_singleton s c _ =>
      rw [escapeDollars_append]
      by_cases h : c = '$' <;> simp [escapeDollars, h]

@[simp] theorem escapeDollars_eq_nil_iff {s : Text} : escapeDollars s = [] ↔ s = [] := by
  rw [← List.head?_eq_none_iff, head?_escapeDollars, List.head?_eq_none_iff]

@[simp] theorem mem_escapeDollars_iff {c : Char} {s : Text} : c ∈ escapeDollars s ↔ c ∈ s := by
  rw [escapeDollars, List.mem_flatMap]
  constructor
  · rintro ⟨d, hd, hc⟩
    split at hc
    · next dollar =>
        obtain rfl : c = '$' := by simpa using hc
        exact dollar ▸ hd
    · obtain rfl : c = d := by simpa using hc
      exact hd
  · exact fun hc => ⟨c, hc, by split <;> simp_all⟩

theorem trim_escapeDollars {s : Text} (h : trim s = s) :
    trim (escapeDollars s) = escapeDollars s := by
  rw [trim_eq_self_iff] at h ⊢
  rwa [head?_escapeDollars, getLast?_escapeDollars]

theorem escapeDollars_intercalate {c : Char} (h : c ≠ '$') (l : Text) (ls : List Text) :
    escapeDollars ([c].intercalate (l :: ls)) =
      [c].intercalate (escapeDollars l :: ls.map escapeDollars) := by
  have separator (m : Text) : escapeDollars ([c] ++ m) = [c] ++ escapeDollars m :=
    escapeDollars_cons_of_ne h m
  have others : escapeDollars (ls.flatMap ([c] ++ ·)) =
      ls.flatMap fun m => [c] ++ escapeDollars m :=
    List.flatMap_assoc.trans (List.flatMap_congr fun m _ => separator m)
  rw [intercalate_cons_eq, intercalate_cons_eq, escapeDollars_append, others, List.flatMap_map]

end Text

open Text (escapeDollars)

theorem expands_escapeDollars (d : Document) (depth : Nat) (sec s : Text) :
    Expands d depth sec (escapeDollars s) s := by
  induction s with
  | nil => exact .done
  | cons c s ih =>
      by_cases h : c = '$'
      · exact h ▸ .dollar ih
      · rw [Text.escapeDollars_cons_of_ne h]
        exact .plain h ih

namespace WrittenOption

/-- The option to write so that this one is read. -/
def escaped (o : WrittenOption) : WrittenOption :=
  { key := o.key, first := escapeDollars o.first, more := o.more.map escapeDollars }

theorem entry_escaped (o : WrittenOption) : o.escaped.entry = (o.key, escapeDollars o.text) := by
  rw [entry, text, text, Text.escapeDollars_intercalate (by decide)]
  rfl

theorem Writable.escaped {o : WrittenOption} (h : o.Writable) : o.escaped.Writable where
  key := h.key
  solid := by
    have solid (l : Text) (hl : l ∈ o.first :: o.more) :
        Text.trim (escapeDollars l) = escapeDollars l ∧ '\n' ∉ escapeDollars l := by
      obtain ⟨trimmed, line⟩ := h.solid l hl
      exact ⟨Text.trim_escapeDollars trimmed, by simpa using line⟩
    change ∀ l ∈ (o.first :: o.more).map escapeDollars, _
    simpa only [List.forall_mem_map] using solid
  lead := by
    simpa [WrittenOption.escaped] using h.lead

end WrittenOption

namespace WrittenSection

def escaped (w : WrittenSection) : WrittenSection :=
  { name := w.name, options := w.options.map (·.escaped) }

theorem entries_escaped (w : WrittenSection) :
    w.escaped.entries = w.entries.map fun e => (e.1, escapeDollars e.2) := by
  rw [entries, entries, escaped, List.map_map, List.map_map]
  exact List.map_congr_left fun o _ => o.entry_escaped

theorem Writable.escaped {w : WrittenSection} (h : w.Writable) : w.escaped.Writable where
  name_ne_nil := h.name_ne_nil
  name_trimmed := h.name_trimmed
  name_line := h.name_line
  distinct := by
    rw [WrittenSection.escaped, List.map_map]
    exact h.distinct
  options := by
    simp only [WrittenSection.escaped, List.forall_mem_map]
    exact fun o ho => (h.options o ho).escaped

theorem writable_map_escaped {ws : List WrittenSection} (h : ∀ w ∈ ws, w.Writable) :
    ∀ w ∈ ws.map (·.escaped), w.Writable := by
  simp only [List.forall_mem_map]
  exact fun w hw => (h w hw).escaped

theorem sections_readAll (ws : List WrittenSection) (number : Nat) :
    (readAll 0 number (ws.map (·.escaped))).map (fun s => (s.name, s.line)) =
      ws.mapIdx fun i w => (w.name, number + ((ws.take i).flatMap (·.escaped.lines)).length) := by
  induction ws generalizing number with
  | nil => rfl
  | cons w ws ih =>
      rw [List.map_cons, readAll, List.map_cons, ih, List.mapIdx_cons]
      simp [Nat.add_assoc, escaped]

/-- What a file of escaped sections gives back. -/
theorem value_readAll {ws : List WrittenSection} (writable : ∀ w ∈ ws, w.Writable)
    (gap number : Nat) (sec key : Text) :
    (Document.mk (readAll gap number (ws.map (·.escaped)))).value sec key =
      .ok ((ws.find? (·.name = sec)).bind (·.entries.lookup (Text.lowercase key))) := by
  have same : (ws.map (·.escaped)).find? (·.name = sec) =
      (ws.find? (·.name = sec)).map (·.escaped) :=
    List.find?_map ..
  refine Document.value_of_shown (f := escapeDollars) ?_
    fun t _ => expands_escapeDollars _ _ _ t
  rw [text_raw?_readAll (writable_map_escaped writable), same]
  cases ws.find? (·.name = sec) with
  | none => rfl
  | some w =>
      change w.escaped.entries.lookup _ = (w.entries.lookup _).map escapeDollars
      rw [entries_escaped, lookup_map_snd]

/-- Sections of any content come back from their text in their order, and each of
their values as it is, if its dollar signs are doubled in the text. Nothing else is
found there. -/
theorem exists_ofText_escaped {ws : List WrittenSection} (writable : ∀ w ∈ ws, w.Writable)
    (distinct : (ws.map (·.name)).Nodup) :
    ∃ d, Document.ofText (Text.ofLines (ws.flatMap (·.escaped.lines))) = .ok d ∧
      d.sections.map (fun s => (s.name, s.line)) =
        ws.mapIdx (fun i w => (w.name, 1 + ((ws.take i).flatMap (·.escaped.lines)).length)) ∧
      (∀ w ∈ ws, ∀ o ∈ w.options, ∀ key, Text.lowercase key = o.key →
        d.value w.name key = .ok (some (['\n'].intercalate (o.first :: o.more)))) ∧
      ∀ sec key, (∀ w ∈ ws, w.name = sec → ∀ o ∈ w.options, o.key ≠ Text.lowercase key) →
        d.value sec key = .ok none := by
  have names : ((ws.map (·.escaped)).map (·.name)).Nodup := by
    rw [List.map_map]
    exact distinct
  have read : Document.ofText (fileText [] (ws.map (·.escaped))) =
      .ok ⟨readAll 0 1 (ws.map (·.escaped))⟩ :=
    ofText_fileText (by simp) (writable_map_escaped writable) names
  rw [fileText_nil, List.flatMap_map] at read
  refine ⟨_, read, sections_readAll ws 1, ?_, ?_⟩
  · intro w hw o ho key lower
    have found : ws.find? (·.name = w.name) = some w := find?_of_key distinct hw
    rw [value_readAll writable, found, Option.bind_some, lower, (writable w hw).lookup_entries ho]
    rfl
  · intro sec key absent
    rw [value_readAll writable]
    cases found : ws.find? (·.name = sec) with
    | none => rfl
    | some w =>
        have there : w ∈ ws := List.mem_of_find?_eq_some found
        have same : w.name = sec := by simpa using List.find?_some found
        rw [Option.bind_some, lookup_eq_none_of_not_mem]
        simpa [entries, WrittenOption.entry] using absent w there same

theorem exists_ofText_escaped_look_alikes :
    let ws : List WrittenSection :=
      [⟨"] [".toList, [⟨"price".toList, [], ["[x]".toList, "k = $$ $\x7bx\x7d".toList]⟩]⟩,
        ⟨"x".toList, [⟨"a b".toList, "; $#".toList, []⟩]⟩]
    (∀ w ∈ ws, w.Writable) ∧ (ws.map (·.name)).Nodup ∧
      ∃ d, Document.ofText
          "[] []\nprice = \n [x]\n k = $$$$ $$\x7bx\x7d\n[x]\na b = ; $$#\n".toList = .ok d ∧
        d.sections.map (fun s => (s.name, s.line)) = [("] [".toList, 1), ("x".toList, 5)] ∧
        d.value "] [".toList "Price".toList = .ok (some "\n[x]\nk = $$ $\x7bx\x7d".toList) ∧
        d.value "x".toList "price".toList = .ok none := by
  intro ws
  have writable : ∀ w ∈ ws, w.Writable := by decide
  have distinct : (ws.map (·.name)).Nodup := by decide
  have text : Text.ofLines (ws.flatMap (·.escaped.lines)) =
      "[] []\nprice = \n [x]\n k = $$$$ $$\x7bx\x7d\n[x]\na b = ; $$#\n".toList := by decide
  obtain ⟨d, read, sections, listed, unlisted⟩ := exists_ofText_escaped writable distinct
  refine ⟨writable, distinct, d, text ▸ read, sections, ?_, unlisted _ _ (by decide)⟩
  exact listed _ (List.mem_cons_self ..) _ (List.mem_cons_self ..) _ (by decide)

end WrittenSection
end ColorScheme
