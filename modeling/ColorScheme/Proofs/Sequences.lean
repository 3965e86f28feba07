import Mathlib.Data.List.Forall2

/-!
Steps that can fail, taken for one element of a list after another. All of them succeed or
the first that fails gives the error, and what each of them keeps is kept in the end. When
errors are told in other words, the results stay.
-/

namespace ColorScheme

variable {α β ε : Type}

theorem exists_forall₂_iff {R : α → β → Prop} {l : List α} :
    (∃ bs, List.Forall₂ R l bs) ↔ ∀ a ∈ l, ∃ b, R a b := by
  induction l with
  | nil => exact iff_of_true ⟨[], .nil⟩ (by simp)
  | cons a l ih =>
      rw [List.forall_mem_cons, ← ih]
      constructor
      · rintro ⟨_, _ | ⟨first, rest⟩⟩
        exact ⟨⟨_, first⟩, _, rest⟩
      · rintro ⟨⟨b, first⟩, bs, rest⟩
        exact ⟨b :: bs, .cons first rest⟩

theorem mapM_eq_some_iff {f : α → Option β} {l : List α} {bs : List β} :
    l.mapM f = some bs ↔ List.Forall₂ (fun a b => f a = some b) l bs := by
  induction l generalizing bs with
  | nil => cases bs <;> simp
  | cons a l ih =>
      rw [List.mapM_cons, List.forall₂_cons_left_iff]
      simp only [← ih]
      cases f a with
      | none => simp
      | some b => cases l.mapM f <;> simp [eq_comm]

variable {f : α → Except ε β}

theorem mapM_eq_ok_iff {l : List α} {bs : List β} :
    l.mapM f = .ok bs ↔ List.Forall₂ (fun a b => f a = .ok b) l bs := by
  induction l generalizing bs with
  | nil => cases bs <;> simp [pure, Except.pure]
  | cons a l ih =>
      rw [List.mapM_cons, List.forall₂_cons_left_iff]
      simp only [← ih]
      cases f a with
      | error e => simp [bind, Except.bind]
      | ok b => cases l.mapM f <;> simp [bind, Except.bind, pure, Except.pure, eq_comm]

theorem exists_mapM_iff {l : List α} :
    (∃ bs, l.mapM f = .ok bs) ↔ ∀ a ∈ l, ∃ b, f a = .ok b := by
  simp only [mapM_eq_ok_iff, exists_forall₂_iff]

/-- The error of a sequence is that of its first part with one. -/
theorem exists_first_error {l : List α} {e : ε} (failed : l.mapM f = .error e) :
    ∃ before a after, l = before ++ a :: after ∧ (∀ b ∈ before, ∃ c, f b = .ok c) ∧
      f a = .error e := by
  induction l with
  | nil => cases failed
  | cons a l ih =>
      rw [List.mapM_cons] at failed
      cases first : f a with
      | error e' =>
          rw [first] at failed
          cases failed
          exact ⟨[], a, l, rfl, by simp, first⟩
      | ok b =>
          rw [first] at failed
          have rest : l.mapM f = .error e := by
            cases rest : l.mapM f with
            | error e' => rw [rest] at failed; cases failed; rfl
            | ok bs => rw [rest] at failed; cases failed
          obtain ⟨before, x, after, rfl, fine, bad⟩ := ih rest
          exact ⟨a :: before, x, after, rfl, List.forall_mem_cons.mpr ⟨⟨b, first⟩, fine⟩, bad⟩

theorem mapM_congr_left {g : α → Except ε β} {l : List α}
    (h : ∀ a ∈ l, f a = g a) : l.mapM f = l.mapM g := by
  induction l with
  | nil => rfl
  | cons a l ih =>
      rw [List.mapM_cons, List.mapM_cons, h a (by simp), ih fun b hb => h b (by simp [hb])]

/-- What every step of a fold keeps, the fold keeps. -/
theorem foldlM_keeps {σ : Type} {P : σ → Prop} {f : σ → α → Except ε σ} {l : List α}
    (step_keeps : ∀ a ∈ l, ∀ {s next : σ}, P s → f s a = .ok next → P next)
    {s next : σ} (h : P s) (ok : l.foldlM f s = .ok next) : P next := by
  induction l generalizing s with
  | nil => cases ok; exact h
  | cons a l ih =>
      rw [List.foldlM_cons] at ok
      cases first : f s a with
      | error e => rw [first] at ok; cases ok
      | ok after =>
          rw [first] at ok
          have kept := step_keeps a (by simp) h first
          exact ih (fun b hb => step_keeps b (by simp [hb])) kept ok

section

variable {σ ε' : Type} (h : ε → ε')

theorem mapError_eq_ok_iff {x : Except ε α} {a : α} : x.mapError h = .ok a ↔ x = .ok a := by
  cases x <;> simp [Except.mapError]

theorem mapError_bind (x : Except ε α) (f : α → Except ε β) :
    (x >>= f).mapError h = x.mapError h >>= fun a => (f a).mapError h := by
  cases x <;> rfl

theorem mapError_map (x : Except ε α) (g : α → β) :
    (x.map g).mapError h = (x.mapError h).map g := by
  cases x <;> rfl

theorem mapM_mapError (f : α → Except ε β) (l : List α) :
    (l.mapM f).mapError h = l.mapM fun a => (f a).mapError h := by
  induction l with
  | nil => rfl
  | cons a l ih =>
      simp only [List.mapM_cons, mapError_bind, ih]
      rfl

theorem foldlM_mapError (f : σ → α → Except ε σ) (l : List α) (s : σ) :
    (l.foldlM f s).mapError h = l.foldlM (fun s a => (f s a).mapError h) s := by
  induction l generalizing s with
  | nil => rfl
  | cons a l ih => simp only [List.foldlM_cons, mapError_bind, ih]

end

end ColorScheme
