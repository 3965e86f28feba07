import ColorScheme.Proofs.LineActions
import ColorScheme.Proofs.TextCuts

/-!
The names of sections in a document that was read. Each is part of one line, so
none holds a line feed, whatever else it holds.
-/

namespace ColorScheme

theorem eq_trim_of_content {raw text : Text} {indented : Bool}
    (h : Line.ofText raw = .content indented text) : text = Text.trim raw := by
  rw [Line.ofText] at h
  split at h
  · cases h
  · next whole =>
      split at h
      · cases h
      · cases h
        exact whole.symm

theorem headerName?_eq_some {rest name : Text} (h : headerName? rest = some name) :
    name = Text.trim rest.dropLast ∧ name ≠ [] := by
  rw [headerName?] at h
  split at h
  · dsimp only at h
    split at h
    · cases h
    · next ne =>
        cases h
        exact ⟨rfl, ne⟩
  · cases h

namespace Place

theorem header_of_entry {p : Place} {text name : Text} (h : p.entry text = .openSection name) :
    ∃ rest, text = '[' :: rest ∧ headerName? rest = some name := by
  rw [entry.eq_def] at h
  split at h
  · next rest inside =>
      split at h
      · next found =>
          cases h
          exact ⟨rest, Text.eq_append_of_after? inside, found⟩
      · cases h
  · split at h
    · cases h
    · split at h <;> cases h

theorem header_of_action {p : Place} {raw name : Text} (h : p.action raw = .openSection name) :
    ∃ rest, Text.trim raw = '[' :: rest ∧ headerName? rest = some name := by
  rw [action] at h
  split at h
  · cases h
  · cases h
  · next content =>
      split at h
      · cases h
      · rw [← eq_trim_of_content content]
        exact header_of_entry h

theorem sublist_of_action {p : Place} {raw name : Text} (h : p.action raw = .openSection name) :
    name.Sublist raw := by
  obtain ⟨rest, whole, found⟩ := header_of_action h
  have inner : name.Sublist rest := (headerName?_eq_some found).1 ▸
    (Text.trim_sublist _).trans (List.dropLast_sublist _)
  exact (inner.trans (List.sublist_cons_self ..)).trans (whole ▸ Text.trim_sublist raw)

theorem trim_of_action {p : Place} {raw name : Text} (h : p.action raw = .openSection name) :
    Text.trim name = name ∧ name ≠ [] := by
  obtain ⟨rest, -, found⟩ := header_of_action h
  obtain ⟨rfl, ne⟩ := headerName?_eq_some found
  exact ⟨Text.trim_trim _, ne⟩

end Place

namespace Document

def NamesOnLines (d : Document) : Prop :=
  ∀ s ∈ d.sections, '\n' ∉ s.name

theorem NamesOnLines.addSection {d : Document} (h : d.NamesOnLines) {name : Text}
    (line : '\n' ∉ name) (number : Nat) : (d.addSection name number).NamesOnLines := by
  cases found : d.find? name with
  | some s => rwa [addSection_of_found found]
  | none =>
      rw [addSection_of_absent found]
      intro s hs
      obtain hs | hs := List.mem_append.mp hs
      · exact h s hs
      · rw [List.mem_singleton.mp hs]
        exact line

theorem NamesOnLines.modify {d : Document} (h : d.NamesOnLines) {f : Section → Section}
    (keep : ∀ s, (f s).name = s.name) (name : Text) : (d.modify name f).NamesOnLines := by
  intro s hs
  obtain ⟨t, ht, rfl⟩ := List.mem_map.mp hs
  have same : (if t.name = name then f t else t).name = t.name := by split <;> simp [keep]
  rw [same]
  exact h t ht

end Document

namespace Reader

theorem namesOnLines_step {r next : Reader} {number : Nat} {raw : Text}
    (h : r.document.NamesOnLines) (line : '\n' ∉ raw) (ok : r.step number raw = .ok next) :
    next.document.NamesOnLines := by
  rw [step_eq_perform] at ok
  cases act : r.place.action raw with
  | closeOption | pass => rw [act] at ok; cases ok; exact h
  | extend sec key text => rw [act] at ok; cases ok; exact h.modify (by simp) sec
  | openSection name =>
      rw [act] at ok
      cases ok
      exact h.addSection (fun m => line ((Place.sublist_of_action act).mem m)) number
  | set sec key value => rw [act] at ok; cases ok; exact h.modify (by simp) sec
  | refuse fault => rw [act] at ok; cases ok

end Reader

theorem Document.namesOnLines_of_ofText {text : Text} {d : Document} (ok : ofText text = .ok d) :
    d.NamesOnLines := by
  obtain ⟨last, read, rfl⟩ := ofText_eq_ok_iff.mp ok
  refine Reader.readLines_keeps (P := fun r => r.document.NamesOnLines) ?_ ?_ read
  · intro raw hraw _ _ _ h step
    exact Reader.namesOnLines_step h (Text.lineFeed_not_mem_of_mem_lines hraw) step
  · simp [NamesOnLines]

end ColorScheme
