import ColorScheme.Document.Value
import ColorScheme.Proofs.Sequences
import ColorScheme.Proofs.TextCuts

/-!
What the value of an option stands for, as a relation on texts that knows
nothing of how values are computed, and the proof that exactly the expansions
of bounded depth are found. A value is read from left to right in one of six
ways; `Scan` keeps the induction over them in one place.
-/

namespace ColorScheme

/-- Within section `sec` a text stands for another, with references that nest
at most `depth` deep. -/
inductive Expands (d : Document) : (depth : Nat) → (sec : Text) → Text → Text → Prop
  | done {depth sec} : Expands d depth sec [] []
  | plain {depth sec c s out} : c ≠ '$' → Expands d depth sec s out →
      Expands d depth sec (c :: s) (c :: out)
  | dollar {depth sec s out} : Expands d depth sec s out →
      Expands d depth sec ('$' :: '$' :: s) ('$' :: out)
  | own {depth sec key target value s out} : ':' ∉ key → '}' ∉ key →
      d.raw? sec key = some target → Expands d depth sec target.text value →
      Expands d (depth + 1) sec s out →
      Expands d (depth + 1) sec ('$' :: '{' :: (key ++ '}' :: s)) (value ++ out)
  | named {depth sec other key target value s out} : ':' ∉ other → '}' ∉ other → '}' ∉ key →
      d.raw? other key = some target → Expands d depth other target.text value →
      Expands d (depth + 1) sec s out →
      Expands d (depth + 1) sec ('$' :: '{' :: (other ++ ':' :: key ++ '}' :: s)) (value ++ out)

theorem Expands.of_no_dollar {d : Document} {depth : Nat} {sec s : Text} (h : '$' ∉ s) :
    Expands d depth sec s s := by
  induction s with
  | nil => exact .done
  | cons c s ih => exact .plain (fun e => h (by simp [e])) (ih fun m => h (by simp [m]))

/-- The ways to go on reading a value. -/
inductive Scan : Text → Prop
  | empty : Scan []
  | plain {c s} : c ≠ '$' → Scan s → Scan (c :: s)
  | dollar {s} : Scan s → Scan ('$' :: '$' :: s)
  | reference {written s} : '}' ∉ written → Scan s → Scan ('$' :: '{' :: (written ++ '}' :: s))
  | unterminated {s} : '}' ∉ s → Scan ('$' :: '{' :: s)
  | stray {s} : s.head? ≠ some '$' → s.head? ≠ some '{' → Scan ('$' :: s)

theorem scan (s : Text) : Scan s := by
  match s with
  | [] => exact .empty
  | [c] =>
      by_cases hd : c = '$'
      · exact hd ▸ .stray (by simp) (by simp)
      · exact .plain hd .empty
  | c :: b :: s =>
      by_cases hd : c = '$'
      · subst hd
        by_cases twice : b = '$'
        · exact twice ▸ .dollar (scan s)
        · by_cases brace : b = '{'
          · subst brace
            by_cases closed : '}' ∈ s
            · obtain ⟨written, rest, rfl, fresh⟩ := List.eq_append_cons_of_mem closed
              exact .reference fresh (scan rest)
            · exact .unterminated closed
          · exact .stray (by simpa using twice) (by simpa using brace)
      · exact .plain hd (scan (b :: s))
termination_by s.length
decreasing_by all_goals simp_all <;> omega

namespace Piece

theorem ofText_plain {c : Char} (h : c ≠ '$') (s : Text) :
    ofText (c :: s) = literal c :: ofText s := by
  simp [ofText, ofTextIn, h]

theorem ofText_dollar (s : Text) : ofText ('$' :: '$' :: s) = literal '$' :: ofText s := rfl

theorem ofTextIn_written {written : Text} (h : '}' ∉ written) (read s : Text) :
    ofTextIn (some read) (written ++ '}' :: s) =
      reference (read.reverse ++ written) :: ofText s := by
  induction written generalizing read with
  | nil => simp [ofTextIn, ofText]
  | cons c written ih =>
      have hc : c ≠ '}' := fun e => h (by simp [e])
      have rest := ih (fun m => h (by simp [m])) (c :: read)
      rw [List.cons_append, ofTextIn, rest]
      · simp
      · exact hc

theorem ofText_reference {written : Text} (h : '}' ∉ written) (s : Text) :
    ofText ('$' :: '{' :: (written ++ '}' :: s)) = reference written :: ofText s :=
  ofTextIn_written h [] s

theorem ofTextIn_unterminated {s : Text} (h : '}' ∉ s) (read : Text) :
    ofTextIn (some read) s = [unterminated] := by
  induction s generalizing read with
  | nil => rfl
  | cons c s ih =>
      have hc : c ≠ '}' := fun e => h (by simp [e])
      rw [ofTextIn, ih fun m => h (by simp [m])]
      exact hc

theorem ofText_unterminated {s : Text} (h : '}' ∉ s) :
    ofText ('$' :: '{' :: s) = [unterminated] :=
  ofTextIn_unterminated h []

theorem ofText_stray {s : Text} (dollar : s.head? ≠ some '$') (brace : s.head? ≠ some '{') :
    ofText ('$' :: s) = [stray] := by
  cases s with
  | nil => rfl
  | cons c s =>
      have hd : c ≠ '$' := by simpa using dollar
      have hb : c ≠ '{' := by simpa using brace
      simp [ofText, ofTextIn, hd, hb]

end Piece

theorem referenceTarget_own {written : Text} (h : ':' ∉ written) (sec : Text) :
    referenceTarget sec written = (sec, written) := by
  rw [referenceTarget, Text.cut?_eq_none]
  · rfl
  · intro c hc
    simpa using fun e : c = ':' => h (e ▸ hc)

theorem referenceTarget_named {other : Text} (h : ':' ∉ other) (sec key : Text) :
    referenceTarget sec (other ++ ':' :: key) = (other, key) := by
  rw [referenceTarget, Text.cut?_char h]
  rfl

/-- The two kinds of reference are one for a reader that splits what is written
between the braces. -/
theorem Expands.reference {d : Document} {depth : Nat} {sec written value s out : Text}
    {target : RawValue} (closed : '}' ∉ written)
    (found : d.raw? (referenceTarget sec written).1 (referenceTarget sec written).2 = some target)
    (inner : Expands d depth (referenceTarget sec written).1 target.text value)
    (rest : Expands d (depth + 1) sec s out) :
    Expands d (depth + 1) sec ('$' :: '{' :: (written ++ '}' :: s)) (value ++ out) := by
  by_cases colon : ':' ∈ written
  · obtain ⟨other, key, rfl, fresh⟩ := List.eq_append_cons_of_mem colon
    rw [referenceTarget_named fresh] at found inner
    obtain ⟨hother, hkey⟩ : '}' ∉ other ∧ '}' ∉ key := by simpa using closed
    exact .named fresh hother hkey found inner rest
  · rw [referenceTarget_own colon] at found inner
    exact .own colon closed found inner rest

namespace Document

def pieceValue (d : Document) (levels : Nat) (sec : Text) (raw : RawValue) :
    Piece → Except Error Text
  | .literal c => .ok [c]
  | .stray => .error (.malformed raw.line (.strayDollar raw.text))
  | .unterminated => .error (.malformed raw.line (.unterminatedReference raw.text))
  | .reference written =>
      match d.raw? (referenceTarget sec written).1 (referenceTarget sec written).2 with
      | some target => d.expand levels (referenceTarget sec written).1 target
      | none => .error (.malformed raw.line (.unknownReference written))

def restValue (d : Document) (levels : Nat) (sec : Text) (raw : RawValue) (s : Text) :
    Except Error Text :=
  ((Piece.ofText s).mapM (d.pieceValue levels sec raw)).map List.flatten

theorem expand_succ (d : Document) (levels : Nat) (sec : Text) (raw : RawValue) :
    d.expand (levels + 1) sec raw = d.restValue levels sec raw raw.text := by
  have collect (f : Piece → Except Error Text) (h : f = d.pieceValue levels sec raw) :
      (do return (← (Piece.ofText raw.text).mapM f).flatten) =
        d.restValue levels sec raw raw.text := by
    rw [h, restValue]
    cases (Piece.ofText raw.text).mapM (d.pieceValue levels sec raw) <;> rfl
  exact collect _ (funext fun piece => by cases piece <;> rfl)

theorem restValue_of_piece {d : Document} {levels : Nat} {sec : Text} {raw : RawValue}
    {s rest : Text} {piece : Piece} (h : Piece.ofText s = piece :: Piece.ofText rest) :
    d.restValue levels sec raw s = do
      let value ← d.pieceValue levels sec raw piece
      let out ← d.restValue levels sec raw rest
      return value ++ out := by
  rw [restValue, h, List.mapM_cons, restValue]
  cases d.pieceValue levels sec raw piece with
  | error e => rfl
  | ok value => cases (Piece.ofText rest).mapM (d.pieceValue levels sec raw) <;> rfl

theorem exists_of_restValue_eq_ok {d : Document} {levels : Nat} {sec : Text} {raw : RawValue}
    {s rest out : Text} {piece : Piece} (h : Piece.ofText s = piece :: Piece.ofText rest)
    (ok : d.restValue levels sec raw s = .ok out) :
    ∃ value tail, d.pieceValue levels sec raw piece = .ok value ∧
      d.restValue levels sec raw rest = .ok tail ∧ out = value ++ tail := by
  rw [restValue_of_piece h] at ok
  cases hv : d.pieceValue levels sec raw piece with
  | error e => rw [hv] at ok; cases ok
  | ok value =>
      cases ht : d.restValue levels sec raw rest with
      | error e => rw [hv, ht] at ok; cases ok
      | ok tail => rw [hv, ht] at ok; exact ⟨value, tail, rfl, rfl, (Except.ok.inj ok).symm⟩

theorem restValue_fault {d : Document} {levels : Nat} {sec : Text} {raw : RawValue} {s : Text}
    {piece : Piece} {e : Error} (h : Piece.ofText s = [piece])
    (bad : d.pieceValue levels sec raw piece = .error e) :
    d.restValue levels sec raw s = .error e := by
  rw [restValue, h, List.mapM_cons, bad]
  rfl

theorem pieceValue_own {d : Document} {levels : Nat} {sec key : Text} {raw target : RawValue}
    (h : ':' ∉ key) (found : d.raw? sec key = some target) :
    d.pieceValue levels sec raw (.reference key) = d.expand levels sec target := by
  simp only [pieceValue, referenceTarget_own h, found]

theorem pieceValue_named {d : Document} {levels : Nat} {sec other key : Text}
    {raw target : RawValue} (h : ':' ∉ other) (found : d.raw? other key = some target) :
    d.pieceValue levels sec raw (.reference (other ++ ':' :: key)) =
      d.expand levels other target := by
  simp only [pieceValue, referenceTarget_named h, found]

theorem restValue_of_expands {d : Document} {depth : Nat} {sec s out : Text}
    (h : Expands d depth sec s out) (raw : RawValue) : d.restValue depth sec raw s = .ok out := by
  induction h generalizing raw with
  | done => rfl
  | plain hc _ ih => rw [restValue_of_piece (Piece.ofText_plain hc _), ih]; rfl
  | dollar _ ih => rw [restValue_of_piece (Piece.ofText_dollar _), ih]; rfl
  | own hk hb found _ _ ihv ih =>
      rw [restValue_of_piece (Piece.ofText_reference hb _), pieceValue_own hk found, expand_succ,
        ihv, ih]
      rfl
  | named hk ho hb found _ _ ihv ih =>
      rw [restValue_of_piece (Piece.ofText_reference (by simp [ho, hb]) _),
        pieceValue_named hk found, expand_succ, ihv, ih]
      rfl

theorem exists_of_reference_eq_ok {d : Document} {levels : Nat} {sec written value : Text}
    {raw : RawValue} (ok : d.pieceValue levels sec raw (.reference written) = .ok value) :
    ∃ target, d.raw? (referenceTarget sec written).1 (referenceTarget sec written).2 = some target ∧
      d.expand levels (referenceTarget sec written).1 target = .ok value := by
  simp only [pieceValue] at ok
  split at ok
  · next target found => exact ⟨target, found, ok⟩
  · cases ok

theorem exists_of_expand_eq_ok {d : Document} {levels : Nat} {sec out : Text} {raw : RawValue}
    (ok : d.expand levels sec raw = .ok out) :
    ∃ depth, levels = depth + 1 ∧ d.restValue depth sec raw raw.text = .ok out := by
  cases levels with
  | zero => cases ok
  | succ depth => exact ⟨depth, rfl, expand_succ d depth sec raw ▸ ok⟩

theorem expands_of_restValue {d : Document} {levels : Nat} {sec : Text} {raw : RawValue}
    {s out : Text} (ok : d.restValue levels sec raw s = .ok out) : Expands d levels sec s out := by
  -- What a reference leads to has fewer levels, what follows it has as many.
  induction levels using Nat.strongRecOn generalizing sec raw s out with
  | _ levels deeper =>
      induction scan s generalizing out with
      | empty =>
          obtain rfl : [] = out := Except.ok.inj ok
          exact .done
      | plain hc _ ih =>
          obtain ⟨_, tail, hv, ht, rfl⟩ := exists_of_restValue_eq_ok (Piece.ofText_plain hc _) ok
          cases hv
          exact .plain hc (ih ht)
      | dollar _ ih =>
          obtain ⟨_, tail, hv, ht, rfl⟩ := exists_of_restValue_eq_ok (Piece.ofText_dollar _) ok
          cases hv
          exact .dollar (ih ht)
      | @reference written s hb _ ih =>
          obtain ⟨value, tail, hv, ht, rfl⟩ :=
            exists_of_restValue_eq_ok (Piece.ofText_reference hb _) ok
          obtain ⟨target, found, hx⟩ := exists_of_reference_eq_ok hv
          obtain ⟨depth, rfl, hx⟩ := exists_of_expand_eq_ok hx
          exact .reference hb found (deeper depth (Nat.lt_succ_self _) hx) (ih ht)
      | unterminated hb => cases (restValue_fault (Piece.ofText_unterminated hb) rfl).symm.trans ok
      | stray hd hb => cases (restValue_fault (Piece.ofText_stray hd hb) rfl).symm.trans ok

/-- With `depth + 1` levels exactly the expansions to that depth are found. -/
theorem expand_eq_ok_iff {d : Document} {depth : Nat} {sec out : Text} {raw : RawValue} :
    d.expand (depth + 1) sec raw = .ok out ↔ Expands d depth sec raw.text out := by
  rw [expand_succ]
  exact ⟨expands_of_restValue, fun h => restValue_of_expands h raw⟩

/-- If the text that an option shows stands for another, that is its value. -/
theorem value_of_shown {d : Document} {sec key : Text} {f : Text → Text} {out : Option Text}
    (shown : (d.raw? sec key).map (·.text) = out.map f)
    (expands : ∀ t, out = some t → Expands d maxDepth sec (f t) t) :
    d.value sec key = .ok out := by
  rw [value]
  cases found : d.raw? sec key with
  | none =>
      rw [found] at shown
      cases out with
      | none => rfl
      | some t => cases shown
  | some raw =>
      rw [found] at shown
      cases out with
      | none => cases shown
      | some t =>
          have text : raw.text = f t := Option.some.inj shown
          have whole : d.expand (maxDepth + 1) sec raw = .ok t :=
            expand_eq_ok_iff.mpr (text ▸ expands t rfl)
          dsimp only
          rw [whole]
          rfl

theorem pieceValue_total {d : Document} {levels : Nat}
    (deeper : ∀ sec raw, (∃ out, d.expand levels sec raw = .ok out) ∨
      ∃ line fault, d.expand levels sec raw = .error (.malformed line fault))
    (sec : Text) (raw : RawValue) (piece : Piece) :
    (∃ out, d.pieceValue levels sec raw piece = .ok out) ∨
      ∃ line fault, d.pieceValue levels sec raw piece = .error (.malformed line fault) := by
  cases piece with
  | literal c => exact .inl ⟨_, rfl⟩
  | stray | unterminated => exact .inr ⟨_, _, rfl⟩
  | reference written =>
      simp only [pieceValue]
      cases d.raw? (referenceTarget sec written).1 (referenceTarget sec written).2 with
      | none => exact .inr ⟨_, _, rfl⟩
      | some target => exact deeper _ target

theorem expand_total (d : Document) (levels : Nat) (sec : Text) (raw : RawValue) :
    (∃ out, d.expand levels sec raw = .ok out) ∨
      ∃ line fault, d.expand levels sec raw = .error (.malformed line fault) := by
  induction levels generalizing sec raw with
  | zero => exact .inr ⟨_, _, rfl⟩
  | succ levels ih =>
      rw [expand_succ, restValue]
      cases run : (Piece.ofText raw.text).mapM (d.pieceValue levels sec raw) with
      | ok values => exact .inl ⟨_, rfl⟩
      | error e =>
          obtain ⟨-, piece, -, -, -, bad⟩ := exists_first_error run
          obtain ⟨value, ok⟩ | ⟨line, fault, named⟩ := pieceValue_total ih sec raw piece
          · rw [bad] at ok
            cases ok
          · rw [bad] at named
            cases named
            exact .inr ⟨line, fault, rfl⟩

end Document
end ColorScheme
