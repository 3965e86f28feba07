import ColorScheme.Scheme
import Mathlib.Data.List.Induction
import Mathlib.Data.List.Infix

/-!
The style in effect for a token: the one at the longest initial part of its path
that has a style of its own, and the empty style where no part has one. A token
is the root or a child of another, so a path is followed from its end.
-/

namespace ColorScheme

namespace Token

@[elab_as_elim]
theorem childRec {motive : Token → Prop} (root : motive root)
    (child : ∀ t name, motive t → motive (t.child name)) (t : Token) : motive t := by
  obtain ⟨segments⟩ := t
  induction segments using List.reverseRecOn with
  | nil => exact root
  | append_singleton segments name ih => exact child ⟨segments⟩ name ih

theorem ancestors_child (t : Token) (name : Text) :
    (t.child name).ancestors = t.child name :: t.ancestors := by
  have shorter : ∀ n ∈ (List.range (t.segments.length + 1)).reverse,
      Token.mk ((t.segments ++ [name]).take n) = ⟨t.segments.take n⟩ := by
    intro n hn
    rw [List.take_append_of_le_length]
    simpa [Nat.lt_succ_iff] using hn
  simp only [ancestors, child, List.length_append, List.length_singleton]
  rw [List.range_succ, List.reverse_concat, List.map_cons, List.map_congr_left shorter,
    List.take_of_length_le (by simp)]

end Token

namespace StyleTable

variable {styles : StyleTable} {t : Token}

theorem resolve_root (styles : StyleTable) :
    styles.resolve .root = (styles.get? .root).getD .empty := by
  rw [resolve, show Token.root.ancestors = [Token.root] from rfl, List.findSome?_singleton]

theorem resolve_child (styles : StyleTable) (t : Token) (name : Text) :
    styles.resolve (t.child name) = (styles.get? (t.child name)).getD (styles.resolve t) := by
  rw [resolve, Token.ancestors_child, List.findSome?_cons]
  cases styles.get? (t.child name) <;> rfl

/-- No longer part of the token's path than `path` has a style of its own, and
`path` has this one. -/
structure Governs (styles : StyleTable) (t : Token) (path : List Text) (style : Style) : Prop where
  part : path <+: t.segments
  own : styles.get? ⟨path⟩ = some style
  longest : ∀ longer, longer <+: t.segments → path.length < longer.length →
    styles.get? ⟨longer⟩ = none

/-- No part of the token's path has a style of its own, not even the root. -/
def Ungoverned (styles : StyleTable) (t : Token) : Prop :=
  ∀ path, path <+: t.segments → styles.get? ⟨path⟩ = none

instance (styles : StyleTable) (t : Token) (path : List Text) (style : Style) :
    Decidable (styles.Governs t path style) :=
  decidable_of_iff (path <+: t.segments ∧ styles.get? ⟨path⟩ = some style ∧
      ∀ longer ∈ t.segments.inits, path.length < longer.length → styles.get? ⟨longer⟩ = none)
    ⟨fun ⟨part, own, longest⟩ => ⟨part, own, fun p hp => longest p ((List.mem_inits ..).mpr hp)⟩,
      fun h => ⟨h.part, h.own, fun p hp => h.longest p ((List.mem_inits ..).mp hp)⟩⟩

instance (styles : StyleTable) (t : Token) : Decidable (styles.Ungoverned t) :=
  decidable_of_iff (∀ path ∈ t.segments.inits, styles.get? ⟨path⟩ = none)
    ⟨fun h p hp => h p ((List.mem_inits ..).mpr hp), fun h p hp => h p ((List.mem_inits ..).mp hp)⟩

theorem Governs.length_le {p q : List Text} {x y : Style} (hp : styles.Governs t p x)
    (hq : styles.Governs t q y) : q.length ≤ p.length := by
  by_contra longer
  have absent := hp.longest q hq.part (Nat.lt_of_not_le longer)
  rw [hq.own] at absent
  cases absent

theorem Governs.unique {p q : List Text} {x y : Style} (hp : styles.Governs t p x)
    (hq : styles.Governs t q y) : p = q ∧ x = y := by
  have part : p <+: q := List.prefix_of_prefix_length_le hp.part hq.part (hq.length_le hp)
  obtain rfl := part.eq_of_length_le (hp.length_le hq)
  exact ⟨rfl, Option.some.inj (hp.own.symm.trans hq.own)⟩

theorem Ungoverned.not_governs {path : List Text} {style : Style} (h : styles.Ungoverned t) :
    ¬ styles.Governs t path style := by
  intro governs
  have absent := h path governs.part
  rw [governs.own] at absent
  cases absent

theorem Governs.of_own {style : Style} (own : styles.get? t = some style) :
    styles.Governs t t.segments style :=
  ⟨List.prefix_refl _, own, fun _ part longer => absurd part.length_le (Nat.not_le.mpr longer)⟩

theorem Governs.child {name : Text} {path : List Text} {style : Style}
    (absent : styles.get? (t.child name) = none) (h : styles.Governs t path style) :
    styles.Governs (t.child name) path style := by
  refine ⟨h.part.trans (List.prefix_append ..), h.own, fun longer part lt => ?_⟩
  obtain rfl | part := List.prefix_concat_iff.mp part
  · exact absent
  · exact h.longest longer part lt

theorem Ungoverned.child {name : Text} (absent : styles.get? (t.child name) = none)
    (h : styles.Ungoverned t) : styles.Ungoverned (t.child name) := by
  intro path part
  obtain rfl | part := List.prefix_concat_iff.mp part
  · exact absent
  · exact h path part

/-- Resolution finds the governing style, and nothing where there is none. -/
theorem resolve_cases (styles : StyleTable) (t : Token) :
    (∃ path, styles.Governs t path (styles.resolve t)) ∨
      styles.Ungoverned t ∧ styles.resolve t = .empty := by
  induction t using Token.childRec with
  | root =>
      rw [resolve_root]
      cases own : styles.get? .root with
      | some style => exact .inl ⟨_, .of_own own⟩
      | none =>
          refine .inr ⟨fun path part => ?_, rfl⟩
          obtain rfl := List.prefix_nil.mp part
          exact own
  | child t name ih =>
      rw [resolve_child]
      cases own : styles.get? (t.child name) with
      | some style => exact .inl ⟨_, .of_own own⟩
      | none =>
          obtain ⟨path, governs⟩ | ⟨none, empty⟩ := ih
          · exact .inl ⟨path, governs.child own⟩
          · exact .inr ⟨none.child own, empty⟩

theorem Governs.resolve_eq {path : List Text} {style : Style} (h : styles.Governs t path style) :
    styles.resolve t = style := by
  obtain ⟨other, governs⟩ | ⟨none, -⟩ := resolve_cases styles t
  · exact (governs.unique h).2
  · exact absurd h none.not_governs

/-- Resolution of a token sees nothing of a table but the styles along its path. -/
theorem resolve_congr {styles other : StyleTable}
    (same : ∀ path, path <+: t.segments → styles.get? ⟨path⟩ = other.get? ⟨path⟩) :
    styles.resolve t = other.resolve t := by
  induction t using Token.childRec with
  | root =>
      have own : styles.get? .root = other.get? .root := same [] (List.prefix_refl _)
      rw [resolve_root, resolve_root, own]
  | child t name ih =>
      have own : styles.get? (t.child name) = other.get? (t.child name) :=
        same _ (List.prefix_refl _)
      have shorter := ih fun path part => same path (part.trans (List.prefix_append ..))
      rw [resolve_child, resolve_child, shorter, own]

/-- Styles that are each changed within a relation resolve to related styles. -/
theorem resolve_map {R : Style → Style → Prop} {f : Style → Style} (related : ∀ x, R (f x) x)
    (empty : R .empty .empty) (styles : StyleTable) (t : Token) :
    R (resolve (styles.map f) t) (styles.resolve t) := by
  induction t using Token.childRec with
  | root =>
      rw [resolve_root, resolve_root, SortedTable.get?_map]
      cases styles.get? .root with
      | none => exact empty
      | some style => exact related style
  | child t name ih =>
      rw [resolve_child, resolve_child, SortedTable.get?_map]
      cases styles.get? (t.child name) with
      | none => exact ih
      | some style => exact related style

end StyleTable
end ColorScheme
