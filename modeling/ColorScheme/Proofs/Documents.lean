import ColorScheme.Document

/-!
What is found in a document after each of the changes that reading makes.
-/

namespace ColorScheme

namespace Document

theorem name_of_find? {d : Document} {name : Text} {s : Section} (h : d.find? name = some s) :
    s.name = name := by
  simpa using List.find?_some h

theorem find?_append (d : Document) (ss : List Section) (name : Text) :
    (Document.mk (d.sections ++ ss)).find? name =
      (d.find? name).or ((Document.mk ss).find? name) := by
  simp [find?, List.find?_append]

theorem find?_map (d : Document) {f : Section → Section} (keep : ∀ s, (f s).name = s.name)
    (name : Text) : (Document.mk (d.sections.map f)).find? name = (d.find? name).map f := by
  simp only [find?, List.find?_map, Function.comp_def, keep]

theorem find?_filter {d : Document} {p : Section → Bool} {name : Text}
    (kept : ∀ s : Section, s.name = name → p s = true) :
    (Document.mk (d.sections.filter p)).find? name = d.find? name := by
  rw [find?, find?, List.find?_filter]
  congr 1
  funext s
  by_cases hs : s.name = name <;> simp [hs, kept s]

theorem addSection_of_found {d : Document} {name : Text} {s : Section}
    (h : d.find? name = some s) (line : Nat) : d.addSection name line = d := by
  rw [addSection, h]

theorem addSection_of_absent {d : Document} {name : Text} (h : d.find? name = none) (line : Nat) :
    d.addSection name line = ⟨d.sections ++ [{ name := name, line := line }]⟩ := by
  rw [addSection, h]

theorem find?_addSection (d : Document) (name other : Text) (line : Nat) :
    (d.addSection name line).find? other =
      (d.find? other).or (if name = other then some { name := name, line := line } else none) := by
  cases found : d.find? name with
  | some s =>
      rw [addSection_of_found found]
      by_cases h : name = other
      · subst h; simp [found]
      · simp [h]
  | none =>
      rw [addSection_of_absent found, find?_append]
      congr 1
      by_cases h : name = other <;> simp [find?, h]

theorem find?_modify (d : Document) {f : Section → Section} (keep : ∀ s, (f s).name = s.name)
    (name other : Text) : (d.modify name f).find? other =
      (d.find? other).map fun s => if s.name = name then f s else s :=
  d.find?_map (fun s => by split <;> simp [keep]) other

theorem find?_modify_self {d : Document} {f : Section → Section} (keep : ∀ s, (f s).name = s.name)
    {name : Text} {s : Section} (found : d.find? name = some s) :
    (d.modify name f).find? name = some (f s) := by
  rw [find?_modify d keep, found]
  simp [name_of_find? found]

/-- A section that has just been opened is the one that changes. -/
theorem modify_last {d : Document} {s : Section} (fresh : d.find? s.name = none)
    (f : Section → Section) :
    (Document.mk (d.sections ++ [s])).modify s.name f = ⟨d.sections ++ [f s]⟩ := by
  have others : ∀ t ∈ d.sections, t.name ≠ s.name := by simpa [find?] using fresh
  have kept : d.sections.map (fun t => if t.name = s.name then f t else t) = d.sections :=
    calc d.sections.map (fun t => if t.name = s.name then f t else t)
      _ = d.sections.map id := List.map_congr_left fun t ht => if_neg (others t ht)
      _ = d.sections := List.map_id _
  simp [modify, kept]

end Document

namespace Section

@[simp] theorem name_set (s : Section) (key : Text) (value : RawValue) :
    (s.set key value).name = s.name := rfl

theorem options_set (s : Section) (key other : Text) (value : RawValue) :
    (s.set key value).options.get? other =
      if other = key then some value else s.options.get? other :=
  SortedTable.get?_insert ..

theorem continueOption_eq {s : Section} {key : Text} {value : RawValue}
    (h : s.options.get? key = some value) (line : Text) :
    s.continueOption key line = s.set key { value with text := value.text ++ '\n' :: line } := by
  rw [continueOption, h]

@[simp] theorem name_continueOption (s : Section) (key line : Text) :
    (s.continueOption key line).name = s.name := by
  rw [continueOption]
  split <;> rfl

end Section

end ColorScheme
