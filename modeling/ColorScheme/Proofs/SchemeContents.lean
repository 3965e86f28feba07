import ColorScheme.Scheme
import ColorScheme.Proofs.Sequences
import ColorScheme.Proofs.Tables

/-!
What a scheme holds after a run of insertions: for each token the style that
came last, unless it sets nothing. A scheme filled with the entries of a table,
in whatever order, holds that table.
-/

namespace ColorScheme

attribute [ext] Scheme

namespace Scheme

def insertAll (s : Scheme) (entries : List (Token × Style)) : Scheme :=
  entries.foldl (fun s e => s.insert e.1 e.2) s

@[simp] theorem background_insertAll (s : Scheme) (l : List (Token × Style)) :
    (s.insertAll l).background = s.background := by
  induction l generalizing s with
  | nil => rfl
  | cons e l ih => exact ih (s.insert e.1 e.2)

@[simp] theorem highlight_insertAll (s : Scheme) (l : List (Token × Style)) :
    (s.insertAll l).highlight = s.highlight := by
  induction l generalizing s with
  | nil => rfl
  | cons e l ih => exact ih (s.insert e.1 e.2)

/-- The last insertion for a token decides what it holds. -/
theorem get?_insertAll (s : Scheme) (l : List (Token × Style)) (t : Token) :
    (s.insertAll l).get? t = (l.reverse.lookup t).elim (s.get? t)
      fun style => if style = .empty then none else some style := by
  induction l generalizing s with
  | nil => rfl
  | cons e l ih =>
      change ((s.insert e.1 e.2).insertAll l).get? t = _
      rw [ih, List.reverse_cons, List.lookup_append, lookup_cons_eq, get?_insert]
      cases l.reverse.lookup t with
      | some style => rfl
      | none => by_cases h : t = e.1 <;> simp [h]

/-- Only the insertions for a token decide what it holds. -/
theorem get?_insertAll_congr {l m : List (Token × Style)} {t : Token}
    (same : l.filter (·.1 = t) = m.filter (·.1 = t)) (s : Scheme) :
    (s.insertAll l).get? t = (s.insertAll m).get? t := by
  have last : l.reverse.lookup t = m.reverse.lookup t :=
    calc l.reverse.lookup t
      _ = (l.filter (·.1 = t)).reverse.lookup t := by
          rw [← List.filter_reverse, lookup_filter_key]
      _ = (m.filter (·.1 = t)).reverse.lookup t := by rw [same]
      _ = m.reverse.lookup t := by rw [← List.filter_reverse, lookup_filter_key]
  rw [get?_insertAll, get?_insertAll, last]

theorem insertAll_eq {s : Scheme} {table : StyleTable} {l : List (Token × Style)}
    (fresh : s.styles = .empty) (p : l.Perm table.entries)
    (full : ∀ e ∈ table.entries, e.2 ≠ .empty) : s.insertAll l = { s with styles := table } := by
  have styles : (s.insertAll l).styles = table := by
    apply SortedTable.ext_get?
    intro t
    have found : l.reverse.lookup t = table.get? t :=
      lookup_perm (l.reverse_perm.trans p) table.keys_nodup t
    change (s.insertAll l).get? t = _
    rw [get?_insertAll, found]
    cases h : table.get? t with
    | none => simp [get?, fresh]
    | some style => simp [full _ (SortedTable.mem_entries_iff.mpr h)]
  exact Scheme.ext (by simp) (by simp) styles

theorem stylesSetSomething_iff {s : Scheme} :
    s.StylesSetSomething ↔ ∀ t, s.get? t ≠ some .empty := by
  constructor
  · intro h t found
    exact h _ (SortedTable.mem_entries_iff.mpr found) rfl
  · rintro h ⟨t, style⟩ he rfl
    exact h t (SortedTable.mem_entries_iff.mp he)

theorem StylesSetSomething.insert {s : Scheme} (h : s.StylesSetSomething) (t : Token)
    (style : Style) : (s.insert t style).StylesSetSomething := by
  rw [stylesSetSomething_iff] at h ⊢
  intro u
  rw [get?_insert]
  split
  · split
    · simp
    · next sets => simpa using sets
  · exact h u

end Scheme
end ColorScheme
