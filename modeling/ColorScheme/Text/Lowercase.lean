import ColorScheme.Text.Letters

/-!
Lowercase of a text under the full Unicode mapping. One letter can become two,
and a capital sigma has a final form that its neighbours decide.
-/

namespace ColorScheme.Text

def isLowercase (c : Char) : Bool :=
  lowercaseLetters.has c

/-- The lowercase of one character, where its neighbours have no say. -/
def lowercaseChar (c : Char) : Text :=
  let n := c.toNat
  if n < 0x80 then [c.toLower]
  else if n = 0x130 then ['i', Char.ofNat 0x307]
  else
    match lowercaseImages.find? fun (first, last, step, _) =>
        decide (first ≤ n) && decide (n ≤ last) && (n - first) % step == 0 with
    | some (first, _, _, image) => [Char.ofNat (image + (n - first))]
    | none => [c]

/-- Whether the first character that is not passed over is cased. -/
def meetsCased (s : Text) : Bool :=
  match s.dropWhile caseIgnorable.has with
  | c :: _ => casedLetters.has c
  | [] => false

/-- The lowercase of a text that stands after `before`, which is kept in
reverse. A capital sigma at the end of a word takes its final form. -/
def lowercaseAfter (before : Text) : Text → Text
  | [] => []
  | c :: s =>
      (if c = 'Σ' then [if meetsCased before && !meetsCased s then 'ς' else 'σ']
        else lowercaseChar c) ++ lowercaseAfter (c :: before) s

def lowercase (s : Text) : Text :=
  lowercaseAfter [] s

@[simp] theorem lowercase_nil : lowercase [] = [] := rfl

/-- Letters of ASCII are lowered one by one. -/
theorem lowercase_of_ascii (s : Text) (h : ∀ c ∈ s, c.toNat < 0x80) :
    lowercase s = s.map Char.toLower := by
  suffices ∀ before, lowercaseAfter before s = s.map Char.toLower from this []
  induction s with
  | nil => intro; rfl
  | cons c s ih =>
      intro before
      have hc : c.toNat < 0x80 := h c (by simp)
      have ne : ¬ c = 'Σ' := by
        rintro rfl
        exact absurd hc (by decide)
      simp [lowercaseAfter, ne, lowercaseChar, hc, ih fun d hd => h d (by simp [hd])]

end ColorScheme.Text
