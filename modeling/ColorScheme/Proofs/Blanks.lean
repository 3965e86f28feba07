import ColorScheme.Text.Blank
import Mathlib.Data.List.DropRight

/-!
Trimming and words. A text is its own trimming when neither of its ends is
blank, trimming keeps whatever two ends that are not blank enclose, and words
with one space between them are read back.
-/

namespace ColorScheme.Text

theorem trimEnd_eq_rdropWhile (s : Text) : trimEnd s = s.rdropWhile isBlank := by
  have concat (s : Text) (c : Char) :
      trimEnd (s ++ [c]) = if isBlank c then trimEnd s else s ++ [c] := by
    induction s with
    | nil => simp [trimEnd]
    | cons d s ih =>
        rw [List.cons_append, trimEnd, ih]
        by_cases h : isBlank c
        · simp only [h, if_true, trimEnd]
        · simp only [h, Bool.false_eq_true, if_false]
          cases s <;> rfl
  induction s using List.reverseRecOn with
  | nil => rfl
  | append_singleton s c ih => rw [concat, ih, List.rdropWhile_concat]

theorem trimEnd_append (a b : Text) :
    trimEnd (a ++ b) = if trimEnd b = [] then trimEnd a else a ++ trimEnd b := by
  induction b using List.reverseRecOn with
  | nil => simp [trimEnd]
  | append_singleton b c ih =>
      simp only [trimEnd_eq_rdropWhile, ← List.append_assoc, List.rdropWhile_concat] at ih ⊢
      by_cases h : isBlank c <;> simp [h, ih]

theorem trimStart_eq_self {s : Text} (h : ∀ c, s.head? = some c → isBlank c = false) :
    trimStart s = s := by
  cases s with
  | nil => rfl
  | cons c s => simp [trimStart, h c rfl]

theorem trimEnd_eq_self {s : Text} (h : ∀ c, s.getLast? = some c → isBlank c = false) :
    trimEnd s = s := by
  rw [trimEnd_eq_rdropWhile, List.rdropWhile_eq_self_iff]
  intro ne
  simp [h _ (List.getLast?_eq_some_getLast ne)]

theorem not_blank_of_head?_trimStart {s : Text} {c : Char}
    (h : (trimStart s).head? = some c) : isBlank c = false := by
  have := List.head?_dropWhile_not isBlank s
  simpa [show (s.dropWhile isBlank).head? = some c from h] using this

theorem not_blank_of_getLast?_trimEnd {s : Text} {c : Char}
    (h : (trimEnd s).getLast? = some c) : isBlank c = false := by
  rw [trimEnd_eq_rdropWhile] at h
  have ne : s.rdropWhile isBlank ≠ [] := by rintro e; simp [e] at h
  have last := List.rdropWhile_last_not isBlank s ne
  rw [List.getLast?_eq_some_getLast ne, Option.some.injEq] at h
  simpa [h] using last

theorem trimEnd_sublist (s : Text) : (trimEnd s).Sublist s := by
  rw [trimEnd_eq_rdropWhile]
  exact (List.rdropWhile_prefix isBlank s).sublist

theorem trim_sublist (s : Text) : (trim s).Sublist s :=
  (trimEnd_sublist _).trans (List.dropWhile_sublist _)

theorem trim_eq_self_iff {s : Text} :
    trim s = s ↔ (∀ c, s.head? = some c → isBlank c = false) ∧
      ∀ c, s.getLast? = some c → isBlank c = false := by
  constructor
  · intro h
    have start : trimStart s = s := by
      refine (List.dropWhile_sublist _).eq_of_length_le ?_
      calc s.length = (trim s).length := by rw [h]
        _ ≤ (trimStart s).length := (trimEnd_sublist _).length_le
    refine ⟨fun c hc => not_blank_of_head?_trimStart (start.symm ▸ hc), fun c hc => ?_⟩
    rw [← h] at hc
    exact not_blank_of_getLast?_trimEnd hc
  · rintro ⟨first, last⟩
    rw [trim, trimStart_eq_self first, trimEnd_eq_self last]

theorem not_blank_of_getLast?_trim {s : Text} {c : Char} (h : (trim s).getLast? = some c) :
    isBlank c = false :=
  not_blank_of_getLast?_trimEnd h

theorem trim_trim (s : Text) : trim (trim s) = trim s := by
  refine trim_eq_self_iff.mpr ⟨fun c hc => ?_, fun c => not_blank_of_getLast?_trim⟩
  obtain ⟨rest, whole⟩ : trim s <+: trimStart s := by
    rw [trim, trimEnd_eq_rdropWhile]
    exact List.rdropWhile_prefix ..
  apply not_blank_of_head?_trimStart (s := s)
  rw [← whole, List.head?_append, hc, Option.some_or]

theorem trim_cons_blank {c : Char} (h : isBlank c = true) (s : Text) :
    trim (c :: s) = trim s := by
  simp [trim, trimStart, h]

theorem trim_cons_of_not_blank {c : Char} (h : isBlank c = false) (s : Text) :
    trim (c :: s) = c :: trimEnd s := by
  rw [trim, trimStart_eq_self (by simp [h]), trimEnd, h]
  cases trimEnd s <;> rfl

theorem trim_append_blank {c : Char} (h : isBlank c = true) (s : Text) :
    trim (s ++ [c]) = trim s := by
  rw [trim, trimStart, List.dropWhile_append]
  split
  · next e => simp only [trim, trimStart, List.isEmpty_iff.mp e, List.dropWhile, h]
  · rw [trimEnd_append]
    simp [trimEnd, h, trim, trimStart]

theorem trim_eq_nil_iff {s : Text} : trim s = [] ↔ ∀ c ∈ s, isBlank c = true := by
  rw [trim, trimEnd_eq_rdropWhile, List.rdropWhile_eq_nil_iff, trimStart]
  constructor
  · intro h c hc
    rw [← List.takeWhile_append_dropWhile (p := isBlank) (l := s), List.mem_append] at hc
    exact hc.elim List.mem_takeWhile_imp (h c)
  · intro h c hc
    exact h c ((List.dropWhile_sublist _).mem hc)

theorem words_eq_nil {s : Text} (h : trim s = []) : words s = [] := by
  have blank := trim_eq_nil_iff.mp h
  clear h
  induction s with
  | nil => rfl
  | cons c s ih =>
      rw [← List.nil_append (c :: s), words_append_blank _ _ (blank c (by simp)),
        ih fun d hd => blank d (by simp [hd]), words_nil, List.append_nil]

theorem words_intercalate (ws : List Text)
    (h : ∀ w ∈ ws, w ≠ [] ∧ ∀ c ∈ w, isBlank c = false) :
    words ([' '].intercalate ws) = ws := by
  induction ws with
  | nil => rfl
  | cons w ws ih =>
      obtain ⟨ne, solid⟩ := h w (by simp)
      have rest := ih fun v hv => h v (by simp [hv])
      cases ws with
      | nil => simpa using words_eq_singleton ne solid
      | cons v ws =>
          rw [List.intercalate_cons_cons, List.append_assoc, List.singleton_append,
            words_append_blank _ _ (by decide), words_eq_singleton ne solid, rest,
            List.singleton_append]

end ColorScheme.Text
