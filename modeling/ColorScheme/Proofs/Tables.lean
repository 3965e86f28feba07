import ColorScheme.SortedTable
import Mathlib.Data.List.Nodup

/-!
Look-ups determine tables. In an association list with distinct keys the order
of the entries has no say, and a sorted table is fixed by what its look-ups
find. The union of two tables prefers the second.
-/

namespace ColorScheme

section Association

variable {κ α : Type} [BEq κ] [LawfulBEq κ] [DecidableEq κ]

theorem lookup_eq_some_iff_mem {l : List (κ × α)} (distinct : (l.map (·.1)).Nodup) {k : κ}
    {v : α} : l.lookup k = some v ↔ (k, v) ∈ l := by
  induction l with
  | nil => simp
  | cons e rest ih =>
      obtain ⟨fresh, tail⟩ := List.nodup_cons.mp distinct
      rw [lookup_cons_eq]
      by_cases hk : k = e.1
      · have absent : (k, v) ∉ rest := fun m => fresh (List.mem_map.mpr ⟨_, m, hk⟩)
        rw [if_pos hk, List.mem_cons, or_iff_left absent, Prod.ext_iff]
        simp [hk, eq_comm]
      · rw [if_neg hk, ih tail, List.mem_cons, Prod.ext_iff]
        simp [hk]

theorem lookup_perm {l m : List (κ × α)} (p : l.Perm m) (distinct : (m.map (·.1)).Nodup)
    (k : κ) : l.lookup k = m.lookup k := by
  have distinct' : (l.map (·.1)).Nodup := (p.map _).nodup_iff.mpr distinct
  apply Option.ext
  intro v
  rw [lookup_eq_some_iff_mem distinct', lookup_eq_some_iff_mem distinct, p.mem_iff]

omit [BEq κ] [LawfulBEq κ] [DecidableEq κ] in
theorem keys_filterMap_snd (l : List (κ × Option α)) :
    ((l.filterMap fun e => e.2.map (e.1, ·)).map (·.1)).Sublist (l.map (·.1)) := by
  induction l with
  | nil => simp
  | cons e rest ih =>
      cases he : e.2 with
      | none =>
          rw [List.filterMap_cons_none (by simp [he])]
          exact ih.cons e.1
      | some v =>
          rw [List.filterMap_cons_some (b := (e.1, v)) (by simp [he])]
          exact ih.cons_cons e.1

omit [DecidableEq κ] in
theorem lookup_eq_none_of_not_mem {l : List (κ × α)} {k : κ} (h : k ∉ l.map (·.1)) :
    l.lookup k = none := by
  rw [List.lookup_eq_none_iff]
  intro e he
  simpa using fun eq : k = e.1 => h (eq ▸ List.mem_map_of_mem he)

/-- Leaving out the keys without a value loses no value. -/
theorem lookup_filterMap_snd {l : List (κ × Option α)} (distinct : (l.map (·.1)).Nodup) (k : κ) :
    (l.filterMap fun e => e.2.map (e.1, ·)).lookup k = (l.lookup k).join := by
  induction l with
  | nil => rfl
  | cons e rest ih =>
      obtain ⟨fresh, tail⟩ := List.nodup_cons.mp distinct
      rw [lookup_cons_eq]
      cases he : e.2 with
      | none =>
          rw [List.filterMap_cons_none (by simp [he]), ih tail]
          by_cases hk : k = e.1
          · rw [if_pos hk, lookup_eq_none_of_not_mem (hk ▸ fresh)]
            rfl
          · rw [if_neg hk]
      | some v =>
          rw [List.filterMap_cons_some (b := (e.1, v)) (by simp [he]), lookup_cons_eq, ih tail]
          by_cases hk : k = e.1 <;> simp [hk]

theorem lookup_filter_key (l : List (κ × α)) (k : κ) :
    (l.filter (·.1 = k)).lookup k = l.lookup k := by
  induction l with
  | nil => rfl
  | cons e rest ih =>
      by_cases h : e.1 = k
      · rw [List.filter_cons_of_pos (by simpa using h), lookup_cons_eq, lookup_cons_eq, ih]
      · rw [List.filter_cons_of_neg (by simpa using h), lookup_cons_eq, if_neg (Ne.symm h), ih]

omit [DecidableEq κ] in
theorem lookup_reverse_eq_none {l : List (κ × α)} {k : κ} (h : ∀ e ∈ l, e.1 ≠ k) :
    l.reverse.lookup k = none := by
  apply lookup_eq_none_of_not_mem
  rw [List.map_reverse, List.mem_reverse, List.mem_map]
  rintro ⟨e, he, rfl⟩
  exact h e he rfl

/-- Of the entries for a key the last is found first from the end. -/
theorem lookup_reverse_of_last {before after : List (κ × α)} {k : κ} {v : α}
    (last : ∀ e ∈ after, e.1 ≠ k) : (before ++ (k, v) :: after).reverse.lookup k = some v := by
  rw [List.reverse_append, List.reverse_cons, List.append_assoc, List.lookup_append,
    lookup_reverse_eq_none last, Option.none_or, List.singleton_append, lookup_cons_eq, if_pos rfl]

omit [BEq κ] [LawfulBEq κ] in
theorem find?_of_key {l : List α} {key : α → κ} (distinct : (l.map key).Nodup) {a : α}
    (h : a ∈ l) : l.find? (fun b => key b = key a) = some a := by
  cases found : l.find? (fun b => key b = key a) with
  | none =>
      rw [List.find?_eq_none] at found
      exact absurd (decide_eq_true rfl) (found a h)
  | some b =>
      have there : b ∈ l := List.mem_of_find?_eq_some found
      have same : key b = key a := by simpa using List.find?_some found
      rw [List.inj_on_of_nodup_map distinct there h same]

omit [BEq κ] [LawfulBEq κ] in
/-- Of the entries only the one with the key is passed through. -/
theorem flatMap_of_key {β : Type} {l : List (κ × α)} (distinct : (l.map (·.1)).Nodup) {e : κ × α}
    (h : e ∈ l) (f : κ × α → List β) :
    (l.flatMap fun d => if d.1 = e.1 then f d else []) = f e := by
  induction l with
  | nil => cases h
  | cons d rest ih =>
      obtain ⟨fresh, tail⟩ := List.nodup_cons.mp distinct
      rw [List.flatMap_cons]
      obtain rfl | h := List.mem_cons.mp h
      · have others : (rest.flatMap fun d => if d.1 = e.1 then f d else []) = [] := by
          rw [List.flatMap_eq_nil_iff]
          exact fun d hd => if_neg fun same => fresh (List.mem_map.mpr ⟨d, hd, same⟩)
        rw [if_pos rfl, others, List.append_nil]
      · have other : d.1 ≠ e.1 := fun same => fresh (List.mem_map.mpr ⟨e, h, same.symm⟩)
        rw [if_neg other, List.nil_append, ih tail h]

end Association

namespace SortedTable

variable {κ α : Type} [LT κ] [LE κ] [Std.LawfulOrderLT κ]

theorem keys_nodup (t : SortedTable κ α) : (t.entries.map (·.1)).Nodup := by
  refine List.pairwise_map.mpr (t.ascending.imp ?_)
  intro a b lt eq
  exact Std.lt_irrefl (eq ▸ lt)

variable [DecidableEq κ]

theorem mem_entries_iff {t : SortedTable κ α} {k : κ} {v : α} :
    (k, v) ∈ t.entries ↔ t.get? k = some v :=
  (lookup_eq_some_iff_mem t.keys_nodup).symm

theorem mem_keys_iff {t : SortedTable κ α} {k : κ} : k ∈ t.keys ↔ ∃ v, t.get? k = some v := by
  simp [keys, ← mem_entries_iff]

variable [Std.IsLinearOrder κ]

theorem ext_get? {t u : SortedTable κ α} (h : ∀ k, t.get? k = u.get? k) : t = u := by
  have p : t.entries.Perm u.entries := by
    refine (List.perm_ext_iff_of_nodup t.keys_nodup.of_map u.keys_nodup.of_map).2 ?_
    rintro ⟨k, v⟩
    rw [mem_entries_iff, mem_entries_iff, h]
  refine SortedTable.ext (p.eq_of_pairwise ?_ t.ascending u.ascending)
  intro a b _ _ lt gt
  exact absurd (Std.lt_trans lt gt) Std.lt_irrefl

variable [DecidableLT κ]

/-- The entries of both tables, those of the second where both have a key. -/
def union (t u : SortedTable κ α) : SortedTable κ α :=
  u.entries.foldl (fun t e => t.insert e.1 e.2) t

theorem map_insert {β : Type} (f : α → β) (t : SortedTable κ α) (k : κ) (v : α) :
    (t.insert k v).map f = (t.map f).insert k (f v) := by
  apply ext_get?
  intro j
  rw [get?_map, get?_insert, get?_insert, get?_map]
  split <;> rfl

theorem get?_foldl_insert (l : List (κ × α)) (t : SortedTable κ α) (k : κ) :
    (l.foldl (fun t e => t.insert e.1 e.2) t).get? k = (l.reverse.lookup k).or (t.get? k) := by
  induction l generalizing t with
  | nil => simp
  | cons e rest ih =>
      rw [List.foldl_cons, ih, get?_insert, List.reverse_cons, List.lookup_append, Option.or_assoc]
      congr 1
      rw [lookup_cons_eq]
      split <;> simp

theorem get?_union (t u : SortedTable κ α) (k : κ) :
    (t.union u).get? k = (u.get? k).or (t.get? k) := by
  rw [union, get?_foldl_insert, lookup_perm u.entries.reverse_perm u.keys_nodup]
  rfl

theorem ofList_entries (t : SortedTable κ α) : ofList t.entries = t := by
  apply ext_get?
  intro k
  rw [ofList, ← union, get?_union, get?_empty, Option.or_none]

end SortedTable
end ColorScheme
