/-!
Finite tables with their entries in ascending order of the keys. The order is
part of the type, so a table is determined by what look-ups find in it. Each
operation has one equation that says what a look-up finds after it.
-/

namespace ColorScheme

/-- Entries with strictly ascending keys. -/
structure SortedTable (κ α : Type) [LT κ] where
  entries : List (κ × α)
  ascending : entries.Pairwise fun a b => a.1 < b.1

theorem lookup_cons_eq {κ α : Type} [BEq κ] [LawfulBEq κ] [DecidableEq κ] (k : κ) (e : κ × α)
    (l : List (κ × α)) : (e :: l).lookup k = if k = e.1 then some e.2 else l.lookup k := by
  rw [List.lookup_cons]
  by_cases h : k = e.1
  · simp [h]
  · simp [h, beq_eq_false_iff_ne.2 h]

theorem lookup_map_snd {κ α β : Type} [BEq κ] [LawfulBEq κ] [DecidableEq κ] (f : α → β)
    (l : List (κ × α)) (k : κ) :
    (l.map fun e => (e.1, f e.2)).lookup k = (l.lookup k).map f := by
  induction l with
  | nil => rfl
  | cons e rest ih =>
      rw [List.map_cons, lookup_cons_eq, ih, lookup_cons_eq]
      split <;> rfl

namespace SortedTable

section Basic

variable {κ α β : Type} [LT κ]

@[ext] theorem ext {t u : SortedTable κ α} (h : t.entries = u.entries) : t = u := by
  cases t; cases u; simp_all

instance [DecidableEq κ] [DecidableEq α] : DecidableEq (SortedTable κ α) := fun t u =>
  decidable_of_iff (t.entries = u.entries) ⟨ext, congrArg entries⟩

def empty : SortedTable κ α := ⟨[], .nil⟩

instance : Inhabited (SortedTable κ α) := ⟨empty⟩

def keys (t : SortedTable κ α) : List κ :=
  t.entries.map (·.1)

def size (t : SortedTable κ α) : Nat :=
  t.entries.length

def isEmpty (t : SortedTable κ α) : Bool :=
  t.entries.isEmpty

/-- The same keys with other values. -/
def map (f : α → β) (t : SortedTable κ α) : SortedTable κ β :=
  ⟨t.entries.map fun e => (e.1, f e.2), t.ascending.map _ fun _ _ h => h⟩

variable [DecidableEq κ]

def get? (t : SortedTable κ α) (k : κ) : Option α :=
  t.entries.lookup k

def erase (t : SortedTable κ α) (k : κ) : SortedTable κ α :=
  ⟨t.entries.filter (·.1 ≠ k), t.ascending.filter _⟩

@[simp] theorem get?_empty (k : κ) : (empty : SortedTable κ α).get? k = none := rfl

theorem get?_erase (t : SortedTable κ α) (k j : κ) :
    (t.erase k).get? j = if j = k then none else t.get? j := by
  simp only [get?, erase]
  induction t.entries with
  | nil => simp
  | cons e rest ih =>
      by_cases he : e.1 = k
      · rw [List.filter_cons_of_neg (by simp [he]), ih, lookup_cons_eq]
        split <;> simp_all
      · rw [List.filter_cons_of_pos (by simp [he]), lookup_cons_eq, ih, lookup_cons_eq]
        split <;> split <;> simp_all

theorem get?_map (f : α → β) (t : SortedTable κ α) (k : κ) :
    (t.map f).get? k = (t.get? k).map f :=
  lookup_map_snd f t.entries k

end Basic

section Insertion

variable {κ α : Type} [LT κ] [DecidableLT κ] [DecidableEq κ]

/-- Puts an entry at its place; an entry with the same key gives way. -/
def insertEntry (k : κ) (v : α) : List (κ × α) → List (κ × α)
  | [] => [(k, v)]
  | e :: rest =>
      if k < e.1 then (k, v) :: e :: rest
      else if k = e.1 then (k, v) :: rest
      else e :: insertEntry k v rest

theorem mem_insertEntry {k : κ} {v : α} {l : List (κ × α)} {e : κ × α}
    (h : e ∈ insertEntry k v l) : e = (k, v) ∨ e ∈ l := by
  induction l with
  | nil => simpa [insertEntry] using h
  | cons d rest ih =>
      simp only [insertEntry] at h
      split at h
      · simpa using h
      · split at h
        · rcases List.mem_cons.1 h with rfl | h
          · exact .inl rfl
          · exact .inr (by simp [h])
        · rcases List.mem_cons.1 h with rfl | h
          · exact .inr (by simp)
          · exact (ih h).imp_right fun m => by simp [m]

theorem lookup_insertEntry (k j : κ) (v : α) (l : List (κ × α)) :
    (insertEntry k v l).lookup j = if j = k then some v else l.lookup j := by
  induction l with
  | nil => simp [insertEntry, lookup_cons_eq]
  | cons e rest ih =>
      simp only [insertEntry]
      split
      · rw [lookup_cons_eq]
      · split
        · next eq =>
            rw [lookup_cons_eq, lookup_cons_eq, ← eq]
            split <;> simp_all
        · next ne =>
            rw [lookup_cons_eq, ih, lookup_cons_eq]
            split <;> split <;> simp_all

variable [LE κ] [Std.IsLinearOrder κ] [Std.LawfulOrderLT κ]

theorem pairwise_insertEntry (k : κ) (v : α) {l : List (κ × α)}
    (h : l.Pairwise fun a b => a.1 < b.1) :
    (insertEntry k v l).Pairwise fun a b => a.1 < b.1 := by
  induction l with
  | nil => simp [insertEntry]
  | cons e rest ih =>
      obtain ⟨below, tail⟩ := List.pairwise_cons.1 h
      simp only [insertEntry]
      split
      · next lt =>
          refine List.pairwise_cons.2 ⟨fun b hb => ?_, h⟩
          rcases List.mem_cons.1 hb with rfl | hb
          · exact lt
          · exact Std.lt_trans lt (below b hb)
      · next nlt =>
          split
          · next eq =>
              subst eq
              exact List.pairwise_cons.2 ⟨below, tail⟩
          · next ne =>
              have gt : e.1 < k := Std.lt_of_le_of_ne (Std.not_lt.1 nlt) (Ne.symm ne)
              refine List.pairwise_cons.2 ⟨fun b hb => ?_, ih tail⟩
              rcases mem_insertEntry hb with rfl | hb
              · exact gt
              · exact below b hb

def insert (t : SortedTable κ α) (k : κ) (v : α) : SortedTable κ α :=
  ⟨insertEntry k v t.entries, pairwise_insertEntry k v t.ascending⟩

/-- The table of the given entries; of two with one key the later stays. -/
def ofList (l : List (κ × α)) : SortedTable κ α :=
  l.foldl (fun t e => t.insert e.1 e.2) empty

theorem get?_insert (t : SortedTable κ α) (k j : κ) (v : α) :
    (t.insert k v).get? j = if j = k then some v else t.get? j :=
  lookup_insertEntry k j v t.entries

end Insertion

end SortedTable
end ColorScheme
