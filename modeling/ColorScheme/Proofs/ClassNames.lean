import ColorScheme.StyleModule
import ColorScheme.Proofs.TextCuts
import Mathlib.Data.List.Forall2

/-!
The names of the classes in style modules. A class is named after the words of its scheme's
name, which are the maximal runs of ASCII letters and digits in it. Whatever the name of the
scheme, that of its class is an identifier.
-/

namespace ColorScheme.StyleModule

theorem toNat_lt_of_alphanumeric {c : Char} (h : isAsciiAlphanumeric c = true) : c.toNat < 128 := by
  simp only [isAsciiAlphanumeric, isAsciiLetter, isAsciiDigit, Bool.or_eq_true, Bool.and_eq_true,
    decide_eq_true_eq] at h
  have digit : c ≤ '9' → c.toNat ≤ 57 := id
  have capital : c ≤ 'Z' → c.toNat ≤ 90 := id
  have letter : c ≤ 'z' → c.toNat ≤ 122 := id
  obtain (⟨-, h⟩ | ⟨-, h⟩) | ⟨-, h⟩ := h
  · have := letter h; omega
  · have := capital h; omega
  · have := digit h; omega

theorem alphanumeric_toUpper {c : Char} (h : isAsciiAlphanumeric c = true) :
    isAsciiAlphanumeric c.toUpper = true :=
  forall_char_lt (p := fun c => isAsciiAlphanumeric c = true → isAsciiAlphanumeric c.toUpper = true)
    (by decide) (toNat_lt_of_alphanumeric h) h

theorem toUpper_toLower {c : Char} (h : isAsciiAlphanumeric c = true) :
    c.toLower.toUpper = c.toUpper :=
  forall_char_lt (p := fun c => c.toLower.toUpper = c.toUpper) (by decide)
    (toNat_lt_of_alphanumeric h)

/-! ### The words of a name -/

/-- The words of a text in their order: its maximal runs of ASCII letters and digits. -/
inductive Words : Text → List Text → Prop
  | nil : Words [] []
  | separator {c s ws} : isAsciiAlphanumeric c = false → Words s ws → Words (c :: s) ws
  | word {w s ws} : w ≠ [] → (∀ c ∈ w, isAsciiAlphanumeric c = true) →
      (∀ c, s.head? = some c → isAsciiAlphanumeric c = false) → Words s ws →
      Words (w ++ s) (w :: ws)

def capitalized : Text → Text
  | [] => []
  | c :: s => c.toUpper :: s

/-- The pieces of a text between other characters, as far as there is something in them. -/
def pieces (s : Text) : List Text :=
  (s.splitOnP fun c => !isAsciiAlphanumeric c).filter fun w => !w.isEmpty

theorem pieces_cons_separator {c : Char} (h : isAsciiAlphanumeric c = false) (s : Text) :
    pieces (c :: s) = pieces s := by
  simp [pieces, List.splitOnP_cons_eq_if_modifyHead, h]

theorem pieces_append_word {w s : Text} (ne : w ≠ []) (word : ∀ c ∈ w, isAsciiAlphanumeric c = true)
    (ends : ∀ c, s.head? = some c → isAsciiAlphanumeric c = false) :
    pieces (w ++ s) = w :: pieces s := by
  have single : pieces w = [w] := by
    have whole : w.splitOnP (fun c => !isAsciiAlphanumeric c) = [w] :=
      List.splitOnP_eq_singleton fun c hc => by simp [word c hc]
    simp [pieces, whole, ne]
  cases s with
  | nil => simpa [pieces] using single
  | cons c s =>
      have separator := ends c rfl
      rw [pieces_cons_separator separator, ← List.singleton_append (l := pieces s), ← single]
      simp [pieces, List.splitOnP_append_cons, separator]

namespace Words

theorem pieces_eq {s : Text} {ws : List Text} (h : Words s ws) : pieces s = ws := by
  induction h with
  | nil => rfl
  | separator separator _ ih => rw [pieces_cons_separator separator, ih]
  | word ne word ends _ ih => rw [pieces_append_word ne word ends, ih]

theorem alphanumeric {s : Text} {ws : List Text} (h : Words s ws) :
    ∀ w ∈ ws, ∀ c ∈ w, isAsciiAlphanumeric c = true := by
  induction h with
  | nil => simp
  | separator _ _ ih => exact ih
  | word _ word _ _ ih => exact List.forall_mem_cons.mpr ⟨word, ih⟩

/-- A character in front separates, begins a word or joins the first. -/
theorem exists_cons {s : Text} {ws : List Text} (h : Words s ws) (c : Char) :
    ∃ vs, Words (c :: s) vs := by
  cases hc : isAsciiAlphanumeric c with
  | false => exact ⟨ws, h.separator hc⟩
  | true =>
      have one : ∀ d ∈ [c], isAsciiAlphanumeric d = true := by simpa using hc
      cases h with
      | nil => exact ⟨[[c]], .word (by simp) one (by simp) .nil⟩
      | separator hd h =>
          exact ⟨[c] :: ws, .word (by simp) one (by simpa using hd) (.separator hd h)⟩
      | @word w s ws ne word ends h =>
          exact ⟨(c :: w) :: ws, .word (by simp) (List.forall_mem_cons.mpr ⟨hc, word⟩) ends h⟩

end Words

theorem exists_words (s : Text) : ∃ ws, Words s ws := by
  induction s with
  | nil => exact ⟨[], .nil⟩
  | cons c s ih =>
      obtain ⟨ws, h⟩ := ih
      exact h.exists_cons c

theorem words_iff {s : Text} {ws : List Text} : Words s ws ↔ pieces s = ws := by
  constructor
  · exact Words.pieces_eq
  · rintro rfl
    obtain ⟨ws, h⟩ := exists_words s
    rwa [h.pieces_eq]

/-! ### The name of a class -/

theorem capitalWords_eq (name : Text) : capitalWords name = (pieces name).map capitalized := by
  rw [capitalWords, pieces]
  induction name.splitOnP fun c => !isAsciiAlphanumeric c with
  | nil => rfl
  | cons w ws ih => cases w <;> simp [ih, capitalized]

theorem alphanumeric_capitalized {w : Text} (h : ∀ c ∈ w, isAsciiAlphanumeric c = true) :
    ∀ c ∈ capitalized w, isAsciiAlphanumeric c = true := by
  cases w with
  | nil => exact h
  | cons c w =>
      rw [List.forall_mem_cons] at h
      exact List.forall_mem_cons.mpr ⟨alphanumeric_toUpper h.1, h.2⟩

/-- A name cannot begin with the text. -/
def Unfit (stem : Text) : Prop :=
  stem = [] ∨ ∃ c rest, stem = c :: rest ∧ isAsciiDigit c = true

theorem unfit_iff {stem : Text} : Unfit stem ↔ stem.head?.all isAsciiDigit = true := by
  cases stem <;> simp [Unfit]

theorem className_of_unfit {name : Text} {ws : List Text} (h : Words name ws)
    (unfit : Unfit (ws.flatMap capitalized)) :
    className name = "Generated".toList ++ ws.flatMap capitalized ++ "Style".toList := by
  have stem : (capitalWords name).flatten = ws.flatMap capitalized := by
    rw [capitalWords_eq, h.pieces_eq, List.flatMap_def]
  rw [className, stem, if_pos (unfit_iff.mp unfit)]

theorem className_of_fit {name : Text} {ws : List Text} (h : Words name ws)
    (fit : ¬ Unfit (ws.flatMap capitalized)) :
    className name = ws.flatMap capitalized ++ "Style".toList := by
  have stem : (capitalWords name).flatten = ws.flatMap capitalized := by
    rw [capitalWords_eq, h.pieces_eq, List.flatMap_def]
  rw [className, stem, if_neg fun unfit => fit (unfit_iff.mpr unfit)]
  rfl

/-- The text is an identifier of letters and digits for a class of styles. -/
structure IsClassName (s : Text) : Prop where
  begins : ∃ c rest, s = c :: rest ∧ isAsciiDigit c = false
  alphanumeric : ∀ c ∈ s, isAsciiAlphanumeric c = true
  ends : "Style".toList <:+ s

theorem isClassName_className (name : Text) : IsClassName (className name) := by
  obtain ⟨ws, h⟩ := exists_words name
  have generated : ∀ c ∈ "Generated".toList, isAsciiAlphanumeric c = true :=
    List.all_eq_true.mp (by decide)
  have style : ∀ c ∈ "Style".toList, isAsciiAlphanumeric c = true :=
    List.all_eq_true.mp (by decide)
  have stem : ∀ c ∈ ws.flatMap capitalized, isAsciiAlphanumeric c = true := by
    intro c hc
    obtain ⟨w, hw, hc⟩ := List.mem_flatMap.mp hc
    exact alphanumeric_capitalized (h.alphanumeric w hw) c hc
  by_cases fit : Unfit (ws.flatMap capitalized)
  · rw [className_of_unfit h fit]
    refine ⟨⟨'G', _, rfl, rfl⟩, ?_, List.suffix_append ..⟩
    simp only [List.forall_mem_append]
    exact ⟨⟨generated, stem⟩, style⟩
  · rw [className_of_fit h fit]
    refine ⟨?_, List.forall_mem_append.mpr ⟨stem, style⟩, List.suffix_append ..⟩
    cases letters : ws.flatMap capitalized with
    | nil => exact absurd (.inl letters) fit
    | cons c rest =>
        refine ⟨c, _, rfl, ?_⟩
        cases digit : isAsciiDigit c with
        | false => rfl
        | true => exact absurd (.inr ⟨c, rest, letters, digit⟩) fit

theorem alphanumeric_className (name : Text) :
    ∀ c ∈ className name, isAsciiAlphanumeric c = true :=
  (isClassName_className name).alphanumeric

/-- The words differ at most in the case of their first letters. -/
def SameWord (v w : Text) : Prop :=
  ∃ c d rest, v = c :: rest ∧ w = d :: rest ∧ c.toLower = d.toLower

theorem SameWord.capitalized_eq {v w : Text} (h : SameWord v w)
    (hv : ∀ c ∈ v, isAsciiAlphanumeric c = true) (hw : ∀ c ∈ w, isAsciiAlphanumeric c = true) :
    capitalized v = capitalized w := by
  obtain ⟨c, d, rest, rfl, rfl, same⟩ := h
  rw [List.forall_mem_cons] at hv hw
  rw [capitalized, capitalized, ← toUpper_toLower hv.1, ← toUpper_toLower hw.1, same]

theorem className_congr {name other : Text} {ws vs : List Text} (h : Words name ws)
    (k : Words other vs) (same : List.Forall₂ SameWord ws vs) : className name = className other := by
  have stem : ws.flatMap capitalized = vs.flatMap capitalized := by
    have hw := h.alphanumeric
    have hv := k.alphanumeric
    clear h k
    induction same with
    | nil => rfl
    | cons first _ ih =>
        rw [List.forall_mem_cons] at hw hv
        rw [List.flatMap_cons, List.flatMap_cons, first.capitalized_eq hw.1 hv.1, ih hw.2 hv.2]
  by_cases fit : Unfit (ws.flatMap capitalized)
  · rw [className_of_unfit h fit, className_of_unfit k (stem ▸ fit), stem]
  · rw [className_of_fit h fit, className_of_fit k (stem ▸ fit), stem]

/-- The name of a class is always an identifier. It is made of the words of the scheme's name,
which every name has in one way only, each with a capital in front, and has a word before
them where a name could not begin with these. So names with the same words, but for the case
of their first letters, give the same class. -/
theorem className_of_words :
    (∀ name, ∃! ws, Words name ws) ∧
    (∀ name, IsClassName (className name) ∧ isIdentifier (className name) = true) ∧
    (∀ name ws, Words name ws →
      (Unfit (ws.flatMap capitalized) →
        className name = "Generated".toList ++ ws.flatMap capitalized ++ "Style".toList) ∧
      (¬ Unfit (ws.flatMap capitalized) →
        className name = ws.flatMap capitalized ++ "Style".toList)) ∧
    ∀ name other ws vs, Words name ws → Words other vs → List.Forall₂ SameWord ws vs →
      className name = className other := by
  refine ⟨fun name => ?_, fun name => ⟨isClassName_className name, ?_⟩,
    fun name ws h => ⟨className_of_unfit h, className_of_fit h⟩, fun _ _ _ _ => className_congr⟩
  · exact ⟨pieces name, words_iff.mpr rfl, fun ws h => (words_iff.mp h).symm⟩
  · obtain ⟨⟨c, rest, whole, digit⟩, word, -⟩ := isClassName_className name
    rw [whole] at word ⊢
    rw [List.forall_mem_cons] at word
    have letter : isAsciiLetter c = true := by simpa [isAsciiAlphanumeric, digit] using word.1
    simp only [isIdentifier, letter, Bool.true_or, Bool.true_and, List.all_eq_true]
    exact fun d hd => by rw [word.2 d hd, Bool.true_or]

/-- Letters beyond ASCII separate, a word can begin with a digit, and a name can have no words. -/
theorem className_of_words_separated :
    className "solar-flare\u00E9dark".toList = className "_Solar--flare.Dark".toList ∧
      className "solar-flare\u00E9dark".toList = "SolarFlareDarkStyle".toList ∧
      className "9 lives".toList = "Generated9LivesStyle".toList ∧
      className "\u00E9\n".toList = "GeneratedStyle".toList := by
  obtain ⟨-, -, named, alike⟩ := className_of_words
  have solar : Words "solar-flare\u00E9dark".toList
      ["solar".toList, "flare".toList, "dark".toList] := words_iff.mpr (by decide)
  have other : Words "_Solar--flare.Dark".toList
      ["Solar".toList, "flare".toList, "Dark".toList] := words_iff.mpr (by decide)
  have nine : Words "9 lives".toList ["9".toList, "lives".toList] := words_iff.mpr (by decide)
  have none : Words "\u00E9\n".toList [] := words_iff.mpr (by decide)
  refine ⟨alike _ _ _ _ solar other ?_, (named _ _ solar).2 ?_, (named _ _ nine).1 ?_,
    (named _ _ none).1 (.inl rfl)⟩
  · exact .cons ⟨'s', 'S', _, rfl, rfl, by decide⟩ (.cons ⟨'f', 'f', _, rfl, rfl, rfl⟩
      (.cons ⟨'d', 'D', _, rfl, rfl, by decide⟩ .nil))
  · exact fun unfit => absurd (unfit_iff.mp unfit) (by decide)
  · exact .inr ⟨'9', _, rfl, by decide⟩

end ColorScheme.StyleModule
