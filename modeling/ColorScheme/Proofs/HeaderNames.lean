import ColorScheme.Proofs.SectionNames
import Mathlib.Logic.Function.Basic

/-!
What the names of sections mean to a reader. Where a line stands does not depend on
how its section is called, so a run under other names does the same to sections of
other names; and what is read of some sections does not depend on how the lines
are divided among the others.
-/

namespace ColorScheme

namespace LineAction

/-- The same asked of a section with another name. A header keeps its own. -/
def rename (f : Text → Text) : LineAction → LineAction
  | .extend sec key line => .extend (f sec) key line
  | .set sec key value => .set (f sec) key value
  | act => act

def header? : LineAction → Option Text
  | .openSection name => some name
  | _ => none

end LineAction

namespace Place

def rename (f : Text → Text) : Place → Place
  | .outside => .outside
  | .inside sec openKey => .inside (f sec) openKey

/-- The place after a line that asks for something. -/
def next (p : Place) : LineAction → Place
  | .closeOption => p.closeOption
  | .openSection name => .inside name none
  | .set sec key _ => .inside sec (some key)
  | _ => p

def afterLines (p : Place) (ls : List Text) : Place :=
  ls.foldl (fun p raw => p.next (p.action raw)) p

/-- The names in the headers among some lines. -/
def headers (p : Place) : List Text → List Text
  | [] => []
  | raw :: ls => (p.action raw).header?.toList ++ (p.next (p.action raw)).headers ls

theorem headers_append (p : Place) (ls ms : List Text) :
    p.headers (ls ++ ms) = p.headers ls ++ (p.afterLines ls).headers ms := by
  induction ls generalizing p with
  | nil => rfl
  | cons raw ls ih =>
      rw [List.cons_append, headers, headers, ih, List.append_assoc]
      rfl

theorem action_rename (f : Text → Text) (p : Place) (raw : Text) :
    (p.rename f).action raw = (p.action raw).rename f := by
  have entry (text : Text) : (p.rename f).entry text = (p.entry text).rename f := by
    rw [entry.eq_def, entry.eq_def]
    cases Text.after? ['['] text with
    | some rest =>
        dsimp only
        cases headerName? rest <;> rfl
    | none =>
        cases p with
        | outside => rfl
        | inside sec openKey =>
            dsimp only [rename]
            cases optionOfText? text <;> rfl
  rw [action, action]
  cases Line.ofText raw with
  | blank | comment => rfl
  | content indented text =>
      cases indented with
      | false => exact entry text
      | true =>
          cases p with
          | outside => exact entry text
          | inside sec openKey =>
              cases openKey with
              | none => exact entry text
              | some key => rfl

end Place

/-- The names with one more, if it is not among them. -/
def addName (names : List Text) (name : Text) : List Text :=
  if name ∈ names then names else names ++ [name]

theorem mem_foldl_addName {names start : List Text} {name : Text} :
    name ∈ names.foldl addName start ↔ name ∈ start ∨ name ∈ names := by
  induction names generalizing start with
  | nil => simp
  | cons first names ih =>
      have once : name ∈ addName start first ↔ name ∈ start ∨ name = first := by
        rw [addName]
        split
        · next there => exact ⟨.inl, fun h => h.elim id fun e => e ▸ there⟩
        · simp
      rw [List.foldl_cons, ih, once, List.mem_cons, or_assoc]

namespace Document

/-- The names of the sections, in their order. -/
def names (d : Document) : List Text :=
  d.sections.map (·.name)

@[simp] theorem names_modify {f : Section → Section} (keep : ∀ s, (f s).name = s.name)
    (d : Document) (name : Text) : (d.modify name f).names = d.names := by
  rw [names, names, modify, List.map_map]
  refine List.map_congr_left fun s _ => ?_
  rw [Function.comp_apply]
  split <;> simp [keep]

theorem names_addSection (d : Document) (name : Text) (line : Nat) :
    (d.addSection name line).names = addName d.names name := by
  rw [addName]
  cases found : d.find? name with
  | some s =>
      have there : name ∈ d.names :=
        List.mem_map.mpr ⟨s, List.mem_of_find?_eq_some found, name_of_find? found⟩
      rw [addSection_of_found found, if_pos there]
  | none =>
      have absent : name ∉ d.names := by
        simpa [names, find?, List.find?_eq_none] using found
      rw [addSection_of_absent found, if_neg absent]
      simp [names]

end Document

namespace Reader

theorem place_perform {r next : Reader} {number : Nat} {act : LineAction}
    (ok : r.perform number act = .ok next) : next.place = r.place.next act := by
  cases act <;> cases ok <;> rfl

theorem place_readLines {r next : Reader} {number : Nat} {ls : List Text}
    (ok : r.readLines number ls = .ok next) : next.place = r.place.afterLines ls := by
  induction ls generalizing r number with
  | nil => cases ok; rfl
  | cons raw ls ih =>
      rw [readLines_cons] at ok
      cases first : r.perform number (r.place.action raw) with
      | error e => rw [first] at ok; cases ok
      | ok after =>
          rw [first] at ok
          rw [ih ok, place_perform first]
          rfl

theorem names_perform {r next : Reader} {number : Nat} {act : LineAction}
    (ok : r.perform number act = .ok next) :
    next.document.names = act.header?.toList.foldl addName r.document.names := by
  cases act with
  | closeOption | pass => cases ok; rfl
  | extend sec key line => cases ok; exact Document.names_modify (by simp) ..
  | set sec key value => cases ok; exact Document.names_modify (by simp) ..
  | openSection name => cases ok; exact Document.names_addSection ..
  | refuse fault => cases ok

/-- The headers say which sections there are. -/
theorem names_readLines {r next : Reader} {number : Nat} {ls : List Text}
    (ok : r.readLines number ls = .ok next) :
    next.document.names = (r.place.headers ls).foldl addName r.document.names := by
  induction ls generalizing r number with
  | nil => cases ok; rfl
  | cons raw ls ih =>
      rw [readLines_cons] at ok
      cases first : r.perform number (r.place.action raw) with
      | error e => rw [first] at ok; cases ok
      | ok after =>
          rw [first] at ok
          rw [ih ok, place_perform first, names_perform first, Place.headers, List.foldl_append]

/-- Each section goes back to a header. -/
theorem name_of_readLines {r next : Reader} {number : Nat} {ls : List Text}
    (ok : r.readLines number ls = .ok next) : ∀ s ∈ next.document.sections,
      (∃ t ∈ r.document.sections, t.name = s.name) ∨ s.name ∈ r.place.headers ls := by
  intro s hs
  have there : s.name ∈ next.document.names := List.mem_map_of_mem hs
  rw [names_readLines ok, mem_foldl_addName] at there
  exact there.imp_left List.mem_map.mp

/-- A line does the same to a reader and to what a map makes of it, where the map
goes along with the changes of a document. -/
theorem perform_mapped {F : Document → Document} {f : Text → Text} {r : Reader} {number : Nat}
    {act : LineAction}
    (opens : ∀ name, act.header? = some name → f name = name ∧
      F (r.document.addSection name number) = (F r.document).addSection name number)
    (continues : ∀ sec key line, F (r.document.modify sec (·.continueOption key line)) =
      (F r.document).modify (f sec) (·.continueOption key line))
    (sets : ∀ sec key value, F (r.document.modify sec (·.set key value)) =
      (F r.document).modify (f sec) (·.set key value)) :
    (Reader.mk (F r.document) (r.place.rename f)).perform number (act.rename f) =
      (r.perform number act).map fun next => ⟨F next.document, next.place.rename f⟩ := by
  cases act with
  | closeOption => cases hp : r.place <;> simp [perform, LineAction.rename, hp] <;> rfl
  | pass | refuse fault => rfl
  | openSection name =>
      obtain ⟨fixed, opened⟩ := opens name rfl
      simp only [perform, LineAction.rename, ← opened]
      change _ = Except.ok (Reader.mk _ (.inside (f name) none))
      rw [fixed]
  | extend sec key line =>
      simp only [perform, LineAction.rename, ← continues]
      rfl
  | set sec key value =>
      simp only [perform, LineAction.rename, ← sets]
      rfl

end Reader

/-! ### Renaming -/

def Section.rename (f : Text → Text) (s : Section) : Section :=
  { s with name := f s.name }

def Document.rename (f : Text → Text) (d : Document) : Document :=
  ⟨d.sections.map (.rename f)⟩

def Reader.rename (f : Text → Text) (r : Reader) : Reader :=
  ⟨r.document.rename f, r.place.rename f⟩

section Renaming

variable {f : Text → Text}

theorem Document.find?_rename (inj : Function.Injective f) (d : Document) (name : Text) :
    (d.rename f).find? (f name) = (d.find? name).map (.rename f) := by
  have names (s : Section) : (s.rename f).name = f s.name := rfl
  simp only [find?, rename, List.find?_map, Function.comp_def, names, inj.eq_iff]

theorem Document.rename_addSection (inj : Function.Injective f) (d : Document) (name : Text)
    (line : Nat) : (d.addSection name line).rename f = (d.rename f).addSection (f name) line := by
  rw [addSection, addSection, find?_rename inj]
  cases d.find? name with
  | some s => rfl
  | none => simp [rename, Section.rename]

theorem Document.rename_modify (inj : Function.Injective f) {g : Section → Section}
    (commute : ∀ s, (g s).rename f = g (s.rename f)) (d : Document) (name : Text) :
    (d.modify name g).rename f = (d.rename f).modify (f name) g := by
  have names (s : Section) : (s.rename f).name = f s.name := rfl
  simp only [rename, modify, List.map_map]
  congr 2
  funext s
  simp only [Function.comp_apply, apply_ite (Section.rename f), commute, names, inj.eq_iff]

theorem Document.rename_of_fixed {d : Document} (fixed : ∀ s ∈ d.sections, f s.name = s.name) :
    d.rename f = d := by
  have same : d.sections.map (.rename f) = d.sections.map id :=
    List.map_congr_left fun s hs => by rw [Section.rename, fixed s hs]; rfl
  rw [rename, same, List.map_id]

theorem Section.rename_continueOption (s : Section) (key line : Text) :
    (s.continueOption key line).rename f = (s.rename f).continueOption key line := by
  have found : (s.rename f).options.get? key = s.options.get? key := rfl
  cases h : s.options.get? key with
  | none => simp only [continueOption, h, found]
  | some value =>
      rw [h] at found
      rw [continueOption_eq h, continueOption_eq found]
      rfl

namespace Reader

theorem perform_rename (inj : Function.Injective f) {act : LineAction}
    (fixed : ∀ name, act.header? = some name → f name = name) (r : Reader) (number : Nat) :
    (r.rename f).perform number (act.rename f) = (r.perform number act).map (.rename f) := by
  refine perform_mapped (F := Document.rename f) ?_ ?_ ?_
  · intro name header
    have opened := r.document.rename_addSection inj name number
    rw [fixed name header] at opened
    exact ⟨fixed name header, opened⟩
  · exact fun sec key line =>
      r.document.rename_modify inj (fun s => s.rename_continueOption key line) sec
  · exact fun sec key value =>
      r.document.rename_modify inj (g := (·.set key value)) (fun _ => rfl) sec

/-- Lines whose headers keep their names do the same to sections of other names. -/
theorem readLines_rename (inj : Function.Injective f) {r : Reader} {ls : List Text}
    (fixed : ∀ name ∈ r.place.headers ls, f name = name) (number : Nat) :
    (r.rename f).readLines number ls = (r.readLines number ls).map (.rename f) := by
  induction ls generalizing r number with
  | nil => rfl
  | cons raw ls ih =>
      rw [Place.headers, List.forall_mem_append] at fixed
      obtain ⟨now, later⟩ := fixed
      have same : (r.rename f).place.action raw = (r.place.action raw).rename f :=
        r.place.action_rename f raw
      rw [readLines_cons, readLines_cons, same, perform_rename inj (by simpa using now)]
      cases first : r.perform number (r.place.action raw) with
      | error e => rfl
      | ok after => exact ih (by rwa [place_perform first]) (number + 1)

end Reader
end Renaming

/-! ### Leaving out -/

/-- The sections that are not hidden. -/
def Document.without (hidden : Text → Bool) (d : Document) : Document :=
  ⟨d.sections.filter fun s => !hidden s.name⟩

/-- All hidden names taken for one of them. -/
def blurred (hidden : Text → Bool) (mark name : Text) : Text :=
  if hidden name then mark else name

/-- What a reader holds of the sections that are not hidden. In a hidden section
it is not told apart in which. -/
def Reader.without (hidden : Text → Bool) (mark : Text) (r : Reader) : Reader :=
  ⟨r.document.without hidden, r.place.rename (blurred hidden mark)⟩

section Hiding

variable {hidden : Text → Bool} {mark : Text}

theorem Document.find?_without {name : Text} (shown : hidden name = false) (d : Document) :
    (d.without hidden).find? name = d.find? name :=
  find?_filter fun s hs => by simp [hs, shown]

theorem Document.without_addSection_hidden {name : Text} (h : hidden name = true) (d : Document)
    (line : Nat) : (d.addSection name line).without hidden = d.without hidden := by
  cases found : d.find? name with
  | some s => rw [addSection_of_found found]
  | none => simp [addSection_of_absent found, without, h]

theorem Document.without_addSection_shown {name : Text} (h : hidden name = false) (d : Document)
    (line : Nat) :
    (d.addSection name line).without hidden = (d.without hidden).addSection name line := by
  have same := find?_without h d
  cases found : d.find? name with
  | some s => rw [addSection_of_found found, addSection_of_found (same.trans found)]
  | none =>
      rw [addSection_of_absent found, addSection_of_absent (same.trans found)]
      simp [without, h]

/-- What changes in a hidden section is not seen. -/
theorem Document.without_modify (marked : hidden mark = true) {g : Section → Section}
    (keep : ∀ s, (g s).name = s.name) (d : Document) (name : Text) :
    (d.modify name g).without hidden = (d.without hidden).modify (blurred hidden mark name) g := by
  have names (s : Section) : (if s.name = name then g s else s).name = s.name := by
    split <;> simp [keep]
  simp only [without, modify, List.filter_map, Function.comp_def, names]
  congr 1
  refine List.map_congr_left fun s hs => ?_
  have shown : hidden s.name = false := by simpa using (List.mem_filter.mp hs).2
  have same : s.name = blurred hidden mark name ↔ s.name = name := by
    rw [blurred]
    split
    · next h =>
        have other : s.name ≠ name := fun e => absurd h (by simp [← e, shown])
        have unmarked : s.name ≠ mark := fun e => absurd marked (by simp [← e, shown])
        exact iff_of_false unmarked other
    · rfl
  simp only [same]

namespace Reader

theorem perform_without (marked : hidden mark = true) {r : Reader} {act : LineAction}
    (shown : ∀ name, act.header? = some name → hidden name = false) (number : Nat) :
    (r.without hidden mark).perform number (act.rename (blurred hidden mark)) =
      (r.perform number act).map (·.without hidden mark) := by
  refine perform_mapped (F := Document.without hidden) ?_ ?_ ?_
  · intro name header
    refine ⟨?_, r.document.without_addSection_shown (shown name header) number⟩
    rw [blurred, shown name header]
    rfl
  · exact fun sec key line =>
      r.document.without_modify marked (g := (·.continueOption key line)) (by simp) sec
  · exact fun sec key value =>
      r.document.without_modify marked (g := (·.set key value)) (by simp) sec

theorem without_openSection {name : Text} (h : hidden name = true)
    (r : Reader) (number : Nat) :
    (r.perform number (.openSection name)).map (·.without hidden mark) =
      .ok ⟨r.document.without hidden, .inside mark none⟩ := by
  have same := r.document.without_addSection_hidden h number
  change Except.ok (Reader.mk ((r.document.addSection name number).without hidden)
    (.inside (blurred hidden mark name) none)) = _
  rw [same, blurred, if_pos h]

/-- Readers that cannot be told apart stay so. -/
theorem perform_alike (marked : hidden mark = true) {r q : Reader}
    (alike : r.without hidden mark = q.without hidden mark) (number : Nat) (raw : Text) :
    (r.perform number (r.place.action raw)).map (·.without hidden mark) =
      (q.perform number (q.place.action raw)).map (·.without hidden mark) := by
  have acts : (r.place.action raw).rename (blurred hidden mark) =
      (q.place.action raw).rename (blurred hidden mark) := by
    rw [← Place.action_rename, ← Place.action_rename]
    exact congrArg (·.place.action raw) alike
  have headers (act : LineAction) : (act.rename (blurred hidden mark)).header? = act.header? := by
    cases act <;> rfl
  have header : (r.place.action raw).header? = (q.place.action raw).header? := by
    rw [← headers, acts, headers]
  by_cases h : ∃ name, (r.place.action raw).header? = some name ∧ hidden name = true
  · obtain ⟨name, hr, h⟩ := h
    have opens {act : LineAction} (ha : act.header? = some name) : act = .openSection name := by
      cases act <;> cases ha
      rfl
    rw [opens hr, opens (header.symm.trans hr), without_openSection h, without_openSection h]
    exact congrArg (fun r => Except.ok (Reader.mk r.document _)) alike
  · have shown : ∀ name, (r.place.action raw).header? = some name → hidden name = false :=
      fun name hn => by simpa using fun ht => h ⟨name, hn, ht⟩
    rw [← perform_without marked shown, ← perform_without marked (header ▸ shown), acts, alike]

theorem readLines_alike (marked : hidden mark = true) {r q : Reader}
    (alike : r.without hidden mark = q.without hidden mark) (number : Nat) (ls : List Text) :
    (r.readLines number ls).map (·.without hidden mark) =
      (q.readLines number ls).map (·.without hidden mark) :=
  readLines_alike_of_step (fun number raw alike => perform_alike marked alike number raw) alike
    number ls

end Reader
end Hiding

end ColorScheme
