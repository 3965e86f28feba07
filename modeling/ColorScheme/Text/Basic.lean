/-!
Text as a list of characters, with the cuts the rest of the library is made of:
the lines of a text, the part after a fixed beginning, and the two sides of a
first separator. Splitting at every separator and joining again are
`List.splitOn` and `List.intercalate`.
-/

namespace ColorScheme

abbrev Text := List Char

/-- Of two texts the one with the smaller character at their first difference is
the smaller. -/
instance : LE Text := List.instLE

instance : DecidableLE Text := fun a b => List.decidableLE a b

instance : LawfulBEq Text := inferInstanceAs (LawfulBEq (List Char))

instance : Std.IsLinearOrder Text :=
  inferInstanceAs (@Std.IsLinearOrder (List Char) List.instLE)

instance : Std.LawfulOrderLT Text :=
  inferInstanceAs (@Std.LawfulOrderLT (List Char) _ List.instLE)

/-- What holds of each character below a bound is checked one number after another. -/
theorem forall_char_lt {p : Char → Prop} {bound : Nat} (each : ∀ n < bound, p (Char.ofNat n))
    {c : Char} (h : c.toNat < bound) : p c := by
  have known := each c.toNat h
  rwa [Char.ofNat_toNat] at known

namespace Text

/-- The lines of a text. A line feed ends a line, so nothing follows the last
one unless characters do. -/
def lines : Text → List Text
  | [] => []
  | c :: s =>
      if c = '\n' then [] :: lines s
      else match lines s with
        | [] => [[c]]
        | line :: rest => (c :: line) :: rest

/-- The text of the given lines, a line feed after each. -/
def ofLines (ls : List Text) : Text :=
  ls.flatMap (· ++ ['\n'])

/-- What follows `lead` in a text that begins with it. -/
def after? : Text → Text → Option Text
  | [], s => some s
  | _ :: _, [] => none
  | l :: lead, c :: s => if l = c then after? lead s else none

/-- The two sides of the first character that satisfies `p`. -/
def cut? (p : Char → Bool) : Text → Option (Text × Text)
  | [] => none
  | c :: s =>
      if p c then some ([], s)
      else (cut? p s).map fun (left, right) => (c :: left, right)

@[simp] theorem lines_nil : lines [] = [] := rfl

@[simp] theorem lines_cons_lineFeed (s : Text) : lines ('\n' :: s) = [] :: lines s := by
  simp [lines]

/-- A first line that holds no line feed is read off in front of the others. -/
theorem lines_append_lineFeed (l s : Text) (h : '\n' ∉ l) :
    lines (l ++ '\n' :: s) = l :: lines s := by
  induction l with
  | nil => simp
  | cons c l ih =>
      have hc : ¬ c = '\n' := fun e => h (by simp [e])
      have hl : '\n' ∉ l := fun m => h (by simp [m])
      simp [lines, hc, ih hl]

theorem lines_ofLines (ls : List Text) (h : ∀ l ∈ ls, '\n' ∉ l) :
    lines (ofLines ls) = ls := by
  induction ls with
  | nil => rfl
  | cons l ls ih =>
      have hl : '\n' ∉ l := h l (by simp)
      have := ih fun m hm => h m (by simp [hm])
      simp only [ofLines, List.flatMap_cons, List.append_assoc] at this ⊢
      rw [List.singleton_append, lines_append_lineFeed l _ hl, this]

@[simp] theorem after?_append (lead s : Text) : after? lead (lead ++ s) = some s := by
  induction lead with
  | nil => rfl
  | cons l lead ih => simp [after?, ih]

theorem eq_append_of_after? {lead s rest : Text} (h : after? lead s = some rest) :
    s = lead ++ rest := by
  induction lead generalizing s with
  | nil => simpa [after?] using h
  | cons l lead ih =>
      cases s with
      | nil => simp [after?] at h
      | cons c s =>
          simp only [after?] at h
          split at h
          · next e => subst e; rw [ih h]; rfl
          · simp at h

end Text
end ColorScheme
