import ColorScheme.Proofs.LowercaseForms
import ColorScheme.Proofs.Tables
import ColorScheme.Registry
import Mathlib.Data.List.Induction

/-!
What a registry holds. Formats are added as long as their names differ; the first with
the name of an earlier one ends it, and both are named in the error. A format that is held
is looked up under the lowercase of what is asked for, which need not be the name it has.
-/

namespace ColorScheme

/-- The formats up to `second` have different names, but for `first`, which has its name. -/
structure FirstCollision (formats : List Format) (first second : Format) : Prop where
  same : first.name = second.name
  split : ∃ before between after, formats = before ++ first :: between ++ second :: after ∧
    ((before ++ first :: between).map (·.name)).Nodup

theorem FirstCollision.append {formats : List Format} {first second : Format}
    (h : FirstCollision formats first second) (more : List Format) :
    FirstCollision (formats ++ more) first second := by
  obtain ⟨before, between, after, rfl, distinct⟩ := h.split
  exact ⟨h.same, before, between, after ++ more, by simp, distinct⟩

theorem exists_firstCollision {formats : List Format}
    (h : ¬ (formats.map (·.name)).Nodup) : ∃ first second, FirstCollision formats first second := by
  -- From the end: the last format collides, unless one before it does already.
  induction formats using List.reverseRecOn with
  | nil => exact absurd .nil h
  | append_singleton formats f ih =>
      by_cases distinct : (formats.map (·.name)).Nodup
      · have taken : f.name ∈ formats.map (·.name) := by
          by_contra fresh
          refine h ?_
          rw [List.map_append, List.nodup_append']
          exact ⟨distinct, by simp, by simpa using fresh⟩
        obtain ⟨first, there, same⟩ := List.mem_map.mp taken
        obtain ⟨before, between, rfl⟩ := List.append_of_mem there
        exact ⟨first, f, same, before, between, [], rfl, distinct⟩
      · obtain ⟨first, second, collide⟩ := ih distinct
        exact ⟨first, second, collide.append [f]⟩

namespace Registry

/-- The registry holds the formats, each under its name, and nothing else. -/
structure Holds (r : Registry) (formats : List Format) : Prop where
  distinct : (formats.map (·.name)).Nodup
  found : ∀ name f, r.formats.get? name = some f ↔ f ∈ formats ∧ f.name = name

theorem holds_start : Holds {} [] where
  distinct := .nil
  found := by simp

namespace Holds

variable {r : Registry} {held formats : List Format}

theorem get?_eq_none_iff (h : r.Holds held) {name : Text} :
    r.formats.get? name = none ↔ name ∉ held.map (·.name) := by
  simp [Option.eq_none_iff_forall_ne_some, h.found]

theorem add_fresh (h : r.Holds held) {f : Format} (fresh : f.name ∉ held.map (·.name)) :
    ∃ next, r.add f = .ok next ∧ next.Holds (held ++ [f]) := by
  refine ⟨⟨r.formats.insert f.name f⟩, ?_, ?_, ?_⟩
  · rw [add, h.get?_eq_none_iff.mpr fresh]
  · rw [List.map_append, List.nodup_append']
    exact ⟨h.distinct, by simp, by simpa using fresh⟩
  · intro name g
    rw [SortedTable.get?_insert, List.mem_append, List.mem_singleton]
    split
    · next same =>
        subst same
        have other : ¬ (g ∈ held ∧ g.name = f.name) := by
          rintro ⟨there, same⟩
          exact fresh (same ▸ List.mem_map_of_mem there)
        rw [or_and_right, or_iff_right other, Option.some.injEq]
        exact ⟨fun e => ⟨e.symm, e ▸ rfl⟩, fun e => e.1.symm⟩
    · next ne =>
        have other : ¬ (g = f ∧ g.name = name) := by
          rintro ⟨rfl, same⟩
          exact ne same.symm
        rw [h.found, or_and_right, or_iff_left other]

theorem add_taken (h : r.Holds held) {first second : Format} (there : first ∈ held)
    (same : first.name = second.name) :
    r.add second = .error (.duplicateFormat first.typeName second.typeName) := by
  rw [add, (h.found second.name first).mpr ⟨there, same⟩]

/-- Formats with new names are all added. -/
theorem foldlM_add (h : r.Holds held) (distinct : ((held ++ formats).map (·.name)).Nodup) :
    ∃ last, formats.foldlM add r = .ok last ∧ last.Holds (held ++ formats) := by
  induction formats generalizing r held with
  | nil => exact ⟨r, rfl, by rwa [List.append_nil]⟩
  | cons f formats ih =>
      rw [List.append_cons] at distinct ⊢
      have fresh : f.name ∉ held.map (·.name) := by
        have first := distinct.sublist ((List.sublist_append_left _ formats).map _)
        rw [List.map_append, List.nodup_append'] at first
        simpa using first.2.2
      obtain ⟨next, added, holds⟩ := h.add_fresh fresh
      obtain ⟨last, rest, holds⟩ := ih holds distinct
      refine ⟨last, ?_, holds⟩
      rw [List.foldlM_cons, added]
      exact rest

theorem entries_perm (h : r.Holds formats) :
    r.formats.entries.Perm (formats.map fun f => (f.name, f)) := by
  have names : ((formats.map fun f => (f.name, f)).map (·.1)).Nodup := by
    rw [List.map_map]
    exact h.distinct
  refine (List.perm_ext_iff_of_nodup r.formats.keys_nodup.of_map names.of_map).mpr ?_
  rintro ⟨name, f⟩
  rw [SortedTable.mem_entries_iff, h.found]
  constructor
  · rintro ⟨there, rfl⟩
    exact List.mem_map.mpr ⟨f, there, rfl⟩
  · intro there
    obtain ⟨g, hg, same⟩ := List.mem_map.mp there
    cases same
    exact ⟨hg, rfl⟩

theorem names_perm (h : r.Holds formats) : r.names.Perm (formats.map (·.name)) := by
  have keys := h.entries_perm.map (·.1)
  rwa [List.map_map] at keys

end Holds

theorem holds_of_ofList {formats : List Format} (distinct : (formats.map (·.name)).Nodup) :
    ∃ r, ofList formats = .ok r ∧ r.Holds formats :=
  holds_start.foldlM_add distinct

/-- The first format whose name is taken is reported with the one that has taken it, and
nothing is registered. -/
theorem ofList_of_collision {formats : List Format} {first second : Format}
    (h : FirstCollision formats first second) :
    ofList formats = .error (.duplicateFormat first.typeName second.typeName) := by
  obtain ⟨before, between, after, rfl, distinct⟩ := h.split
  obtain ⟨r, added, holds⟩ := holds_of_ofList distinct
  rw [ofList] at added ⊢
  rw [List.foldlM_append, added]
  change (after.cons second).foldlM add r = _
  rw [List.foldlM_cons, holds.add_taken (by simp) h.same]
  rfl

theorem Holds.of_ofList {formats : List Format} {r : Registry} (ok : ofList formats = .ok r) :
    r.Holds formats := by
  by_cases distinct : (formats.map (·.name)).Nodup
  · obtain ⟨r', ok', holds⟩ := holds_of_ofList distinct
    obtain rfl : r' = r := Except.ok.inj (ok'.symm.trans ok)
    exact holds
  · obtain ⟨first, second, collide⟩ := exists_firstCollision distinct
    rw [ofList_of_collision collide] at ok
    cases ok

theorem ofList_of_distinct {formats : List Format} (distinct : (formats.map (·.name)).Nodup) :
    ∃ r, ofList formats = .ok r ∧
      ∀ name, r.get? name = formats.find? fun f => f.name = Text.lowercase name := by
  obtain ⟨r, ok, holds⟩ := holds_of_ofList distinct
  refine ⟨r, ok, fun name => Option.ext fun f => ?_⟩
  rw [get?, holds.found]
  constructor
  · rintro ⟨there, same⟩
    rw [← same]
    exact find?_of_key distinct there
  · intro found
    exact ⟨List.mem_of_find?_eq_some found, by simpa using List.find?_some found⟩

/-! ### Collisions -/

/-- Formats are registered exactly if no two of them have one name. Then each is held under
its name and nothing else is, and the names are listed in order. Otherwise the first
format whose name is taken is reported, with the one that took it. -/
theorem ofList_finds_collisions (formats : List Format) :
    ((∃ r, ofList formats = .ok r) ↔ (formats.map (·.name)).Nodup) ∧
    (∀ r, ofList formats = .ok r →
      r.formats.entries.Perm (formats.map fun f => (f.name, f)) ∧
      r.names.Pairwise (· < ·) ∧ r.names.Perm (formats.map (·.name)) ∧
      r.size = formats.length) ∧
    ∀ e, ofList formats = .error e ↔ ∃ first second, FirstCollision formats first second ∧
      e = .duplicateFormat first.typeName second.typeName := by
  refine ⟨⟨fun ⟨r, ok⟩ => (Holds.of_ofList ok).distinct, fun distinct => ?_⟩, ?_, ?_⟩
  · obtain ⟨r, ok, -⟩ := holds_of_ofList distinct
    exact ⟨r, ok⟩
  · intro r ok
    have holds := Holds.of_ofList ok
    refine ⟨holds.entries_perm, List.pairwise_map.mpr r.formats.ascending, holds.names_perm, ?_⟩
    have count := holds.entries_perm.length_eq
    rwa [List.length_map] at count
  · intro e
    constructor
    · intro failed
      have repeated : ¬ (formats.map (·.name)).Nodup := by
        intro distinct
        obtain ⟨r, ok, -⟩ := holds_of_ofList distinct
        rw [ok] at failed
        cases failed
      obtain ⟨first, second, collide⟩ := exists_firstCollision repeated
      refine ⟨first, second, collide, ?_⟩
      rw [ofList_of_collision collide] at failed
      exact (Except.error.inj failed).symm
    · rintro ⟨first, second, collide, rfl⟩
      exact ofList_of_collision collide

/-- Of several collisions the one that is complete first is reported. -/
theorem ofList_finds_collisions_nested :
    let vim : Format := { typeName := "a::Vim".toList }
    let page : Format := { typeName := "a::Page".toList }
    let other : Format := { typeName := "b::PAGE".toList }
    (∃ r, ofList [vim, page] = .ok r ∧ r.names.Perm [vim.name, page.name] ∧ r.size = 2) ∧
      ofList [vim, page, other, vim] =
        .error (.duplicateFormat "a::Page".toList "b::PAGE".toList) := by
  intro vim page other
  have distinct : ([vim, page].map (·.name)).Nodup := by decide +kernel
  obtain ⟨accepted, held, -⟩ := ofList_finds_collisions [vim, page]
  obtain ⟨r, ok⟩ := accepted.mpr distinct
  obtain ⟨-, -, names, size⟩ := held r ok
  refine ⟨⟨r, ok, names, size⟩, ((ofList_finds_collisions _).2.2 _).mpr ⟨page, other, ?_, rfl⟩⟩
  exact ⟨by decide +kernel, [vim], [], [vim], rfl, distinct⟩

/-! ### Names to ask by -/

theorem require_of_get? {r : Registry} {name : Text} {f : Format} (h : r.get? name = some f) :
    r.require name = .ok f := by
  rw [require, h]

theorem lowercase_canonicalName (typeName : Text) :
    Text.lowercase (canonicalName typeName) = canonicalName typeName :=
  Text.lowercase_lowercase _

/-- A format is found by the names whose lowercase is its own name. So what is registered
under a name in lowercase is found by it, as is each format that is named for its type,
and what is registered under any other name is found by no name at all. All names by which
a format is found have one lowercase, and no other format is found by these. -/
theorem get?_reaches_lowercase {formats : List Format} {r : Registry}
    (accepted : ofList formats = .ok r) :
    (∀ name ∈ r.names, ∃ f ∈ formats, f.name = name ∧
      (Text.lowercase name = name → r.get? name = some f ∧ r.require name = .ok f) ∧
      (Text.lowercase name ≠ name → ∀ asked, r.get? asked ≠ some f) ∧
      (name = canonicalName f.typeName → Text.lowercase name = name)) ∧
    ∀ name f, r.get? name = some f →
      ∀ asked, r.get? asked = some f ↔ Text.lowercase asked = Text.lowercase name := by
  have holds := Holds.of_ofList accepted
  have reached (name : Text) (f : Format) :
      r.get? name = some f ↔ f ∈ formats ∧ f.name = Text.lowercase name := holds.found _ _
  refine ⟨fun name there => ?_, fun name f found asked => ?_⟩
  · obtain ⟨f, hf, rfl⟩ := List.mem_map.mp (holds.names_perm.mem_iff.mp there)
    refine ⟨f, hf, rfl, fun lower => ?_, fun upper asked found => ?_, fun named => ?_⟩
    · have found : r.get? f.name = some f := (reached f.name f).mpr ⟨hf, lower.symm⟩
      exact ⟨found, require_of_get? found⟩
    · have same := ((reached asked f).mp found).2
      rw [same] at upper
      exact upper (Text.lowercase_lowercase asked)
    · rw [named]
      exact lowercase_canonicalName f.typeName
  · obtain ⟨hf, same⟩ := (reached name f).mp found
    rw [reached, same]
    exact ⟨fun h => h.2.symm, fun h => ⟨hf, h.symm⟩⟩

/-- Of two names that differ in case only the one in lowercase leads to its format. -/
theorem get?_reaches_lowercase_unreachable :
    let plain : Format := { typeName := "a::Page".toList }
    let loud : Format := { typeName := "b::Page".toList, name := "Page".toList }
    ∃ r, ofList [loud, plain] = .ok r ∧ r.require "page".toList = .ok plain ∧
      r.get? "PAGE".toList = some plain ∧ ∀ asked, r.get? asked ≠ some loud := by
  intro plain loud
  have own : plain.name = "page".toList := by decide +kernel
  have apart : loud.name ≠ plain.name := by decide +kernel
  have distinct : ([loud, plain].map (·.name)).Nodup := by decide +kernel
  obtain ⟨r, ok, holds⟩ := holds_of_ofList distinct
  obtain ⟨found, one⟩ := get?_reaches_lowercase ok
  have listed (f : Format) (h : f ∈ [loud, plain]) : f.name ∈ r.names :=
    holds.names_perm.mem_iff.mpr (List.mem_map_of_mem h)
  obtain ⟨f, hf, named, reached, -, -⟩ := found plain.name (listed plain (by simp))
  obtain ⟨g, hg, loudly, -, missed, -⟩ := found loud.name (listed loud (by simp))
  obtain rfl : f = plain := by
    obtain rfl | hf := List.mem_cons.mp hf
    · exact absurd named apart
    · exact List.mem_singleton.mp hf
  obtain rfl : g = loud := by
    obtain rfl | hg := List.mem_cons.mp hg
    · rfl
    · rw [List.mem_singleton.mp hg] at loudly
      exact absurd loudly.symm apart
  have lower := reached (by decide +kernel)
  rw [own] at lower
  refine ⟨r, ok, lower.2, (one _ plain lower.1 _).mpr (by decide), missed (by decide +kernel)⟩

/-- A name that is listed need not find anything. -/
theorem listed_name_not_found :
    let f : Format := { typeName := "a::B".toList, name := "B".toList }
    ∃ r, ofList [f] = .ok r ∧ r.names = ["B".toList] ∧ r.get? "B".toList = none ∧
      r.require "B".toList = .error (.unknownFormat "B".toList) :=
  ⟨_, rfl, rfl, rfl, rfl⟩

end Registry
end ColorScheme
