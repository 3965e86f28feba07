import ColorScheme.Text.Lowercase

/-!
The lowercase of a text is its own lowercase. No letter is the image of one and has an
image itself, which is read off the table run against run, and the two small sigmas are
left as they are wherever they stand.
-/

namespace ColorScheme.Text

/-- The character stays as it is wherever it stands. -/
structure Settled (c : Char) : Prop where
  ne_sigma : c ≠ 'Σ'
  same : lowercaseChar c = [c]

instance (c : Char) : Decidable (Settled c) :=
  decidable_of_iff (c ≠ 'Σ' ∧ lowercaseChar c = [c]) ⟨fun h => ⟨h.1, h.2⟩, fun h => ⟨h.1, h.2⟩⟩

theorem lowercaseAfter_of_settled {s : Text} (h : ∀ c ∈ s, Settled c) (before : Text) :
    lowercaseAfter before s = s := by
  induction s generalizing before with
  | nil => rfl
  | cons c s ih =>
      obtain ⟨first, rest⟩ := List.forall_mem_cons.mp h
      rw [lowercaseAfter, if_neg first.ne_sigma, first.same, ih rest, List.singleton_append]

/-! ### The table of images -/

/-- A run of the table: first letter, last letter, step, and image of the first. -/
abbrev ImageRun := Nat × Nat × Nat × Nat

namespace ImageRun

/-- Whether the run has a letter with the number. -/
def has (n : Nat) (run : ImageRun) : Bool :=
  decide (run.1 ≤ n) && decide (n ≤ run.2.1) && (n - run.1) % run.2.2.1 == 0

/-- The number of the image of a letter of the run. -/
def image (n : Nat) (run : ImageRun) : Nat :=
  run.2.2.2 + (n - run.1)

def lastImage (run : ImageRun) : Nat :=
  run.2.2.2 + (run.2.1 - run.1)

/-- The images are characters beyond ASCII, none of them the dotted capital letter, or the
run is the Kelvin sign alone. -/
def imagesFit (run : ImageRun) : Bool :=
  Nat.blt 0x7F run.2.2.2 && Nat.blt run.lastImage 0x130 ||
    Nat.blt 0x130 run.2.2.2 && Nat.blt run.lastImage 0xD800 ||
    Nat.blt 0xDFFF run.2.2.2 && Nat.blt run.lastImage 0x110000 ||
    Nat.beq run.1 run.2.1 && Nat.beq run.2.2.2 0x6B

/-- The images of a run and the letters of another lie in different ranges or alternate
within one. -/
def apart (run other : ImageRun) : Bool :=
  Nat.blt other.2.1 run.2.2.2 || Nat.blt run.lastImage other.1 ||
    Nat.beq other.2.2.1 2 && Nat.beq ((run.2.2.2 + other.1) % 2) 1 &&
      (Nat.beq run.2.2.1 2 || Nat.beq run.1 run.2.1)

theorem all_imagesFit : lowercaseImages.all imagesFit = true := by
  decide +kernel

theorem all_apart : (lowercaseImages.all fun run => lowercaseImages.all (apart run)) = true := by
  decide +kernel

variable {run other : ImageRun} {n : Nat}

theorem has_iff : has n run = true ↔ run.1 ≤ n ∧ n ≤ run.2.1 ∧ (n - run.1) % run.2.2.1 = 0 := by
  simp [has, and_assoc]

theorem not_has_image (h : apart run other = true) (there : has n run = true) :
    has (run.image n) other = false := by
  obtain ⟨least, most, step⟩ := has_iff.mp there
  rw [Bool.eq_false_iff, ne_eq, has_iff, image]
  rintro ⟨least', most', step'⟩
  simp only [apart, lastImage, Bool.or_eq_true, Bool.and_eq_true, Nat.blt_eq, Nat.beq_eq] at h
  obtain (below | above) | ⟨⟨even, odd⟩, two | single⟩ := h
  · omega
  · omega
  · rw [two] at step
    rw [even] at step'
    omega
  · rw [even] at step'
    omega

theorem image_fits (fit : imagesFit run = true) (there : has n run = true) :
    run.image n = 0x6B ∨ 0x80 ≤ run.image n ∧ run.image n ≠ 0x130 ∧ (run.image n).isValidChar := by
  obtain ⟨least, most, -⟩ := has_iff.mp there
  unfold image
  simp only [imagesFit, lastImage, Bool.or_eq_true, Bool.and_eq_true, Nat.blt_eq, Nat.beq_eq] at fit
  obtain ((⟨low, high⟩ | ⟨low, high⟩) | ⟨low, high⟩) | ⟨single, kelvin⟩ := fit
  · exact .inr ⟨by omega, by omega, .inl (by omega)⟩
  · exact .inr ⟨by omega, by omega, .inl (by omega)⟩
  · exact .inr ⟨by omega, by omega, .inr ⟨by omega, by omega⟩⟩
  · exact .inl (by omega)

end ImageRun

theorem lowercaseChar_eq (c : Char) : lowercaseChar c =
    if c.toNat < 0x80 then [c.toLower]
    else if c.toNat = 0x130 then ['i', Char.ofNat 0x307]
    else match lowercaseImages.find? (ImageRun.has c.toNat) with
      | some (first, _, _, image) => [Char.ofNat (image + (c.toNat - first))]
      | none => [c] := rfl

theorem settled_of_no_image {c : Char} (wide : 0x80 ≤ c.toNat) (dotless : c.toNat ≠ 0x130)
    (none : lowercaseImages.find? (ImageRun.has c.toNat) = none) : Settled c := by
  refine ⟨?_, ?_⟩
  · rintro rfl
    exact absurd none (by decide +kernel)
  · rw [lowercaseChar_eq, if_neg (by omega), if_neg dotless, none]

/-- The image of a letter has no image. -/
theorem settled_of_image {run : ImageRun} {n : Nat} (there : run ∈ lowercaseImages)
    (letter : run.has n = true) : Settled (Char.ofNat (run.image n)) := by
  obtain kelvin | ⟨wide, dotless, valid⟩ :=
    ImageRun.image_fits (List.all_eq_true.mp ImageRun.all_imagesFit run there) letter
  · rw [kelvin]
    decide
  · have number : (Char.ofNat (run.image n)).toNat = run.image n := by
      rw [Char.ofNat, dif_pos valid]
      rfl
    refine settled_of_no_image (by omega) (by omega) ?_
    rw [number, List.find?_eq_none]
    intro other hother
    have apart := List.all_eq_true.mp (List.all_eq_true.mp ImageRun.all_apart run there) other hother
    rw [ImageRun.not_has_image apart letter]
    exact Bool.false_ne_true

/-- What a character is lowered to is not lowered further. -/
theorem settled_of_mem_lowercaseChar {c d : Char} (h : d ∈ lowercaseChar c) : Settled d := by
  rw [lowercaseChar_eq] at h
  split at h
  · next ascii =>
      rw [List.mem_singleton.mp h]
      exact forall_char_lt (p := fun c => Settled c.toLower) (by decide +kernel) ascii
  · next wide =>
      split at h
      · obtain rfl | h := List.mem_cons.mp h
        · decide
        · rw [List.mem_singleton.mp h]
          exact settled_of_no_image (by decide) (by decide) (by decide +kernel)
      · next dotless =>
          split at h
          · next found =>
              rw [List.mem_singleton.mp h]
              exact settled_of_image (List.mem_of_find?_eq_some found) (List.find?_some found)
          · next none =>
              rw [List.mem_singleton.mp h]
              exact settled_of_no_image (by omega) dotless none

theorem settled_of_mem_lowercaseAfter {before s : Text} {d : Char}
    (h : d ∈ lowercaseAfter before s) : Settled d := by
  induction s generalizing before with
  | nil => cases h
  | cons c s ih =>
      obtain own | later := List.mem_append.mp h
      · split at own
        · rw [List.mem_singleton.mp own]
          split <;> decide +kernel
        · exact settled_of_mem_lowercaseChar own
      · exact ih later

theorem lowercase_lowercase (s : Text) : lowercase (lowercase s) = lowercase s :=
  lowercaseAfter_of_settled (fun _ h => settled_of_mem_lowercaseAfter h) []

end ColorScheme.Text
