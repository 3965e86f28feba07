import ColorScheme.Proofs.References

/-!
Values put in for references. What an option stands for is its text with what each
option that it refers to stands for by itself, as it is and not read again. Each option
can be asked for by itself as long as its own references are not too deep, so the text
can be filled in, but not be asked for, where one of them goes as deep as is allowed.
-/

namespace ColorScheme

/-- Within section `sec` a text becomes another when each reference gives way to the value
of its option. What is put in is not read again. -/
inductive Substitutes (d : Document) (sec : Text) : Text → Text → Prop
  | done : Substitutes d sec [] []
  | plain {c s out} : c ≠ '$' → Substitutes d sec s out → Substitutes d sec (c :: s) (c :: out)
  | dollar {s out} : Substitutes d sec s out → Substitutes d sec ('$' :: '$' :: s) ('$' :: out)
  | own {key value s out} : ':' ∉ key → '}' ∉ key → d.value sec key = .ok (some value) →
      Substitutes d sec s out → Substitutes d sec ('$' :: '{' :: (key ++ '}' :: s)) (value ++ out)
  | named {other key value s out} : ':' ∉ other → '}' ∉ other → '}' ∉ key →
      d.value other key = .ok (some value) → Substitutes d sec s out →
      Substitutes d sec ('$' :: '{' :: (other ++ ':' :: key ++ '}' :: s)) (value ++ out)

namespace Expands

variable {d : Document} {n m : Nat} {sec s out other : Text}

theorem mono (h : Expands d n sec s out) (le : n ≤ m) : Expands d m sec s out := by
  induction h generalizing m with
  | done => exact .done
  | plain hc _ ih => exact .plain hc (ih le)
  | dollar _ ih => exact .dollar (ih le)
  | own colon brace found _ _ ihv ih =>
      obtain ⟨m, rfl⟩ : ∃ k, m = k + 1 := ⟨m - 1, by omega⟩
      exact .own colon brace found (ihv (by omega)) (ih le)
  | named colon brace brace' found _ _ ihv ih =>
      obtain ⟨m, rfl⟩ : ∃ k, m = k + 1 := ⟨m - 1, by omega⟩
      exact .named colon brace brace' found (ihv (by omega)) (ih le)

theorem unique (h : Expands d n sec s out) (k : Expands d m sec s other) : out = other := by
  have first := Document.restValue_of_expands (h.mono (Nat.le_max_left n m)) ⟨[], 0⟩
  have second := Document.restValue_of_expands (k.mono (Nat.le_max_right n m)) ⟨[], 0⟩
  exact Except.ok.inj (first.symm.trans second)

end Expands

namespace Document

/-! ### How deep references nest -/

/-- References lead on from an option for so many steps. -/
inductive Leads (d : Document) : Nat → Text × Text → Prop
  | here {option} : Leads d 0 option
  | step {n option other} : d.Refers option other → Leads d n other → Leads d (n + 1) option

/-- References below an option nest to this depth and no further. -/
def NestsExactly (d : Document) (n : Nat) (option : Text × Text) : Prop :=
  d.Leads n option ∧ ¬ d.Leads (n + 1) option

variable {d : Document} {n m : Nat} {option : Text × Text} {sec s out : Text}

theorem Expandable.mono (h : d.Expandable n option) (le : n ≤ m) : d.Expandable m option := by
  obtain ⟨raw, out, found, expands⟩ := h
  exact ⟨raw, out, found, expands.mono le⟩

theorem Expandable.not_leads (h : d.Expandable n option) : ¬ d.Leads (n + 1) option := by
  induction n generalizing option with
  | zero =>
      rintro (_ | ⟨refers, -⟩)
      obtain ⟨k, lt, -⟩ := expandable_of_transGen (.single refers) h
      omega
  | succ n ih =>
      rintro (_ | ⟨refers, on⟩)
      obtain ⟨k, lt, below⟩ := expandable_of_transGen (.single refers) h
      exact ih (below.mono (by omega)) on

/-- An expansion needs no more levels than the options that are referred to. -/
theorem expands_of_mentions (h : Expands d m sec s out)
    (below : ∀ option, Mentions sec s option → ∃ k < n, d.Expandable k option) :
    Expands d n sec s out := by
  have inner {key value : Text} {sec : Text} {target : RawValue} {depth : Nat}
      (found : d.raw? sec key = some target) (expands : Expands d depth sec target.text value)
      (shallow : ∃ k < n, d.Expandable k (sec, Text.lowercase key)) :
      ∃ k, n = k + 1 ∧ Expands d k sec target.text value := by
    obtain ⟨k, lt, raw, other, found', expands'⟩ := shallow
    obtain rfl : target = raw := Option.some.inj (found.symm.trans found')
    obtain rfl := expands.unique expands'
    exact ⟨n - 1, by omega, expands'.mono (by omega)⟩
  induction h with
  | done => exact .done
  | plain hc _ ih => exact .plain hc (ih fun option m => below option (.plain hc m))
  | dollar _ ih => exact .dollar (ih fun option m => below option (.dollar m))
  | own colon brace found expands _ _ ih =>
      obtain ⟨k, rfl, value⟩ := inner found expands (below _ (.own colon brace))
      exact .own colon brace found value (ih fun option m => below option (.reference brace m))
  | named colon brace brace' found expands _ _ ih =>
      obtain ⟨k, rfl, value⟩ := inner found expands (below _ (.named colon brace brace'))
      refine .named colon brace brace' found value (ih fun option m => below option ?_)
      exact .reference (by simp [brace, brace']) m

theorem Expandable.exists_refers (h : d.Expandable m option) (deeper : ¬ d.Expandable n option) :
    ∃ other, d.Refers option other ∧ (∃ k, d.Expandable k other) ∧
      ¬ ∃ k < n, d.Expandable k other := by
  obtain ⟨raw, out, found, expands⟩ := h
  have some_deep : ∃ other, Mentions option.1 raw.text other ∧ ¬ ∃ k < n, d.Expandable k other :=
    Classical.byContradiction fun none_deep =>
      deeper ⟨raw, out, found, expands_of_mentions expands fun other mention =>
        Classical.byContradiction fun deep => none_deep ⟨other, mention, deep⟩⟩
  obtain ⟨other, mention, deep⟩ := some_deep
  obtain ⟨k, -, below⟩ := expands.expandable_of_mentions mention
  exact ⟨other, ⟨raw, found, mention⟩, ⟨k, below⟩, deep⟩

/-- Where the expansion of an option needs more levels, references lead on for as many steps. -/
theorem Expandable.leads (h : d.Expandable m option) (deeper : ¬ d.Expandable n option) :
    d.Leads (n + 1) option := by
  induction n generalizing option m with
  | zero =>
      obtain ⟨other, refers, -, -⟩ := h.exists_refers deeper
      exact .step refers .here
  | succ n ih =>
      obtain ⟨other, refers, ⟨k, below⟩, deep⟩ := h.exists_refers deeper
      exact .step refers (ih below fun shallow => deep ⟨n, Nat.lt_succ_self n, shallow⟩)

/-! ### Asking for an option -/

theorem value_of_raw? {key : Text} {raw : RawValue} (found : d.raw? sec key = some raw) :
    d.value sec key = (d.restValue maxDepth sec raw raw.text).map some := by
  simp only [value, found, ← expand_succ]

theorem value_eq_some_iff {key : Text} : d.value sec key = .ok (some out) ↔
    ∃ raw, d.raw? sec key = some raw ∧ Expands d maxDepth sec raw.text out := by
  cases found : d.raw? sec key with
  | none => simp [value, found]
  | some raw =>
      rw [value_of_raw? found]
      constructor
      · intro h
        cases ok : d.restValue maxDepth sec raw raw.text with
        | error e => rw [ok] at h; cases h
        | ok value =>
            rw [ok] at h
            cases h
            exact ⟨raw, rfl, expands_of_restValue ok⟩
      · rintro ⟨_, ⟨⟩, expands⟩
        rw [restValue_of_expands expands]
        rfl

/-- A computation gives a text, or it stops where references nest too deeply. -/
def GivesOrTooDeep (result : Except Error Text) (out : Text) : Prop :=
  result = .ok out ∨ ∃ line, result = .error (.malformed line .nestedTooDeeply)

theorem restValue_join {raw : RawValue} {piece : Piece} {rest value tail : Text}
    (whole : Piece.ofText s = piece :: Piece.ofText rest)
    (first : GivesOrTooDeep (d.pieceValue n sec raw piece) value)
    (later : GivesOrTooDeep (d.restValue n sec raw rest) tail) :
    GivesOrTooDeep (d.restValue n sec raw s) (value ++ tail) := by
  rw [restValue_of_piece whole]
  obtain first | ⟨line, first⟩ := first
  · obtain later | ⟨line, later⟩ := later
    · exact .inl (by rw [first, later]; rfl)
    · exact .inr ⟨line, by rw [first, later]; rfl⟩
  · exact .inr ⟨line, by rw [first]; rfl⟩

theorem expand_givesOrTooDeep {target : RawValue} {value : Text}
    (h : ∀ n, GivesOrTooDeep (d.restValue n sec target target.text) value) (n : Nat) :
    GivesOrTooDeep (d.expand n sec target) value := by
  cases n with
  | zero => exact .inr ⟨target.line, rfl⟩
  | succ n => rw [expand_succ]; exact h n

/-- Where an expansion would need more levels, nothing else goes wrong first. -/
theorem restValue_givesOrTooDeep (h : Expands d m sec s out) (n : Nat) (raw : RawValue) :
    GivesOrTooDeep (d.restValue n sec raw s) out := by
  induction h generalizing n raw with
  | done => exact .inl rfl
  | plain hc _ ih => exact restValue_join (Piece.ofText_plain hc _) (.inl rfl) (ih n raw)
  | dollar _ ih => exact restValue_join (Piece.ofText_dollar _) (.inl rfl) (ih n raw)
  | @own _ _ _ target _ _ _ colon brace found _ _ ihv ih =>
      refine restValue_join (Piece.ofText_reference brace _) ?_ (ih n raw)
      rw [pieceValue_own colon found]
      exact expand_givesOrTooDeep (fun n => ihv n target) n
  | @named _ _ _ _ target _ _ _ colon brace brace' found _ _ ihv ih =>
      refine restValue_join (Piece.ofText_reference (by simp [brace, brace']) _) ?_ (ih n raw)
      rw [pieceValue_named colon found]
      exact expand_givesOrTooDeep (fun n => ihv n target) n

/-- A piece of a value that can be filled in: a reference can be if its option can be
asked for. -/
def HasValue (d : Document) (sec : Text) : Piece → Prop
  | .literal _ => True
  | .stray | .unterminated => False
  | .reference written => ∃ value, d.value (referenceTarget sec written).1
      (referenceTarget sec written).2 = .ok (some value)

/-- One of the options that an option refers to has references as deep as is allowed. -/
def RefersTooDeep (d : Document) (option : Text × Text) : Prop :=
  ∃ other, d.Refers option other ∧ d.NestsExactly maxDepth other

end Document

namespace Substitutes

variable {d : Document} {sec s out : Text}

theorem reference {written value : Text} (closed : '}' ∉ written)
    (has : d.value (referenceTarget sec written).1 (referenceTarget sec written).2 =
      .ok (some value))
    (rest : Substitutes d sec s out) :
    Substitutes d sec ('$' :: '{' :: (written ++ '}' :: s)) (value ++ out) := by
  by_cases colon : ':' ∈ written
  · obtain ⟨other, key, rfl, fresh⟩ := List.eq_append_cons_of_mem colon
    rw [referenceTarget_named fresh] at has
    obtain ⟨hother, hkey⟩ : '}' ∉ other ∧ '}' ∉ key := by simpa using closed
    exact .named fresh hother hkey has rest
  · rw [referenceTarget_own colon] at has
    exact .own colon closed has rest

theorem of_expands {n : Nat} (h : Expands d n sec s out) (le : n ≤ Document.maxDepth) :
    Substitutes d sec s out := by
  induction h with
  | done => exact .done
  | plain hc _ ih => exact .plain hc (ih le)
  | dollar _ ih => exact .dollar (ih le)
  | own colon brace found inner _ _ ih =>
      have has := Document.value_eq_some_iff.mpr ⟨_, found, inner.mono (by omega)⟩
      exact .own colon brace has (ih le)
  | named colon brace brace' found inner _ _ ih =>
      have has := Document.value_eq_some_iff.mpr ⟨_, found, inner.mono (by omega)⟩
      exact .named colon brace brace' has (ih le)

theorem expands (h : Substitutes d sec s out) : Expands d (Document.maxDepth + 1) sec s out := by
  induction h with
  | done => exact .done
  | plain hc _ ih => exact .plain hc ih
  | dollar _ ih => exact .dollar ih
  | own colon brace has _ ih =>
      obtain ⟨raw, found, inner⟩ := Document.value_eq_some_iff.mp has
      exact .own colon brace found inner ih
  | named colon brace brace' has _ ih =>
      obtain ⟨raw, found, inner⟩ := Document.value_eq_some_iff.mp has
      exact .named colon brace brace' found inner ih

theorem exists_of_hasValue (h : ∀ piece ∈ Piece.ofText s, d.HasValue sec piece) :
    ∃ out, Substitutes d sec s out := by
  induction scan s with
  | empty => exact ⟨[], .done⟩
  | plain hc _ ih =>
      rw [Piece.ofText_plain hc, List.forall_mem_cons] at h
      obtain ⟨out, rest⟩ := ih h.2
      exact ⟨_, .plain hc rest⟩
  | dollar _ ih =>
      rw [Piece.ofText_dollar, List.forall_mem_cons] at h
      obtain ⟨out, rest⟩ := ih h.2
      exact ⟨_, .dollar rest⟩
  | reference closed _ ih =>
      rw [Piece.ofText_reference closed, List.forall_mem_cons] at h
      obtain ⟨⟨value, has⟩, later⟩ := h
      obtain ⟨out, rest⟩ := ih later
      exact ⟨_, reference closed has rest⟩
  | unterminated closed =>
      rw [Piece.ofText_unterminated closed] at h
      exact (h .unterminated (List.mem_singleton_self _)).elim
  | stray hd hb =>
      rw [Piece.ofText_stray hd hb] at h
      exact (h .stray (List.mem_singleton_self _)).elim

theorem value_eq {key : Text} {raw : RawValue} (h : Substitutes d sec raw.text out)
    (found : d.raw? sec key = some raw)
    (shallow : ¬ d.RefersTooDeep (sec, Text.lowercase key)) :
    d.value sec key = .ok (some out) := by
  refine Document.value_eq_some_iff.mpr ⟨raw, found, ?_⟩
  refine Document.expands_of_mentions h.expands fun other mention =>
    ⟨Document.maxDepth - 1, by decide, ?_⟩
  obtain ⟨k, lt, expandable⟩ := h.expands.expandable_of_mentions mention
  have whole : d.Expandable Document.maxDepth other := expandable.mono (Nat.le_of_lt_succ lt)
  -- By itself the option can be asked for, so its references go at most as deep as is allowed.
  refine Classical.byContradiction fun deep => shallow ⟨other, ⟨raw, found, mention⟩, ?_⟩
  exact ⟨whole.leads deep, whole.not_leads⟩

end Substitutes

namespace Document

variable {d : Document} {sec key out : Text}

theorem not_refersTooDeep_of_value (h : d.value sec key = .ok (some out)) :
    ¬ d.RefersTooDeep (sec, Text.lowercase key) := by
  obtain ⟨raw, found, expands⟩ := value_eq_some_iff.mp h
  rintro ⟨other, ⟨raw', found', mention⟩, leads, -⟩
  obtain rfl : raw = raw' := Option.some.inj (found.symm.trans found')
  obtain ⟨k, lt, shallow⟩ := expands.expandable_of_mentions mention
  have whole : d.Expandable (maxDepth - 1) other := shallow.mono (Nat.le_sub_one_of_lt lt)
  exact whole.not_leads leads

/-- An option has a value where its references can be filled in with the values of
their options, unless one of those has references as deep as is allowed; the value is
the text with those values in place of the references. In that one case asking fails
for the depth. -/
theorem value_substitutes (d : Document) (sec key : Text) :
    match d.raw? sec key with
    | none => d.value sec key = .ok none
    | some raw =>
        (∀ out, d.value sec key = .ok (some out) ↔
          Substitutes d sec raw.text out ∧ ¬ d.RefersTooDeep (sec, Text.lowercase key)) ∧
        ((∀ piece ∈ Piece.ofText raw.text, d.HasValue sec piece) →
          (¬ d.RefersTooDeep (sec, Text.lowercase key) → ∃ out, d.value sec key = .ok (some out)) ∧
          (d.RefersTooDeep (sec, Text.lowercase key) →
            ∃ line, d.value sec key = .error (.malformed line .nestedTooDeeply))) := by
  cases found : d.raw? sec key with
  | none => simp only [value, found]
  | some raw =>
      refine ⟨fun out => ⟨fun h => ⟨?_, not_refersTooDeep_of_value h⟩, ?_⟩, fun pieces => ?_⟩
      · obtain ⟨raw', found', expands⟩ := value_eq_some_iff.mp h
        obtain rfl : raw = raw' := Option.some.inj (found.symm.trans found')
        exact .of_expands expands (Nat.le_refl _)
      · rintro ⟨h, shallow⟩
        exact h.value_eq found shallow
      · obtain ⟨out, h⟩ := Substitutes.exists_of_hasValue pieces
        refine ⟨fun shallow => ⟨out, h.value_eq found shallow⟩, fun deep => ?_⟩
        rw [value_of_raw? found]
        obtain ok | ⟨line, err⟩ := restValue_givesOrTooDeep h.expands maxDepth raw
        · have given : d.value sec key = .ok (some out) := by rw [value_of_raw? found, ok]; rfl
          exact absurd deep (not_refersTooDeep_of_value given)
        · exact ⟨line, by rw [err]; rfl⟩

/-- The options from `a` to `l` refer each to the one before it, and `n` stands for what
would be a reference if it were read again. -/
def chained : Document :=
  let link (key before : Char) : Text × RawValue := ([key], ⟨['$', '{', before, '}'], 3⟩)
  let options : SortedTable Text RawValue := .ofList
    [(['a'], ⟨['x'], 2⟩), link 'b' 'a', link 'c' 'b', link 'd' 'c', link 'e' 'd', link 'f' 'e',
      link 'g' 'f', link 'h' 'g', link 'i' 'h', link 'j' 'i', link 'k' 'j', link 'l' 'k',
      (['m'], ⟨"$$".toList, 4⟩), (['n'], ⟨"$\x7bm\x7d\x7ba\x7d".toList, 5⟩)]
  ⟨[⟨['s'], 1, options⟩]⟩

theorem value_substitutes_chained :
    Substitutes chained ['s'] "$\x7bm\x7d\x7ba\x7d".toList "$\x7ba\x7d".toList ∧
      chained.value ['s'] ['k'] = .ok (some ['x']) ∧ chained.RefersTooDeep (['s'], ['l']) ∧
      ∃ line, chained.value ['s'] ['l'] = .error (.malformed line .nestedTooDeeply) := by
  have shown : chained.raw? ['s'] ['n'] = some ⟨"$\x7bm\x7d\x7ba\x7d".toList, 5⟩ := by
    decide +kernel
  have linked : chained.raw? ['s'] ['l'] = some ⟨"$\x7bk\x7d".toList, 3⟩ := by decide +kernel
  have whole : chained.value ['s'] ['n'] = .ok (some "$\x7ba\x7d".toList) := rfl
  have last : chained.value ['s'] ['k'] = .ok (some ['x']) := rfl
  have fails : chained.value ['s'] ['l'] = .error (.malformed 2 .nestedTooDeeply) := rfl
  have plain := value_substitutes chained ['s'] ['n']
  have chain := value_substitutes chained ['s'] ['l']
  rw [shown] at plain
  rw [linked] at chain
  have pieces : ∀ piece ∈ Piece.ofText "$\x7bk\x7d".toList, chained.HasValue ['s'] piece := by
    rintro piece (_ | ⟨_, ⟨⟩⟩)
    exact ⟨['x'], last⟩
  have deep : chained.RefersTooDeep (['s'], Text.lowercase ['l']) :=
    Classical.byContradiction fun shallow => by
      obtain ⟨out, given⟩ := (chain.2 pieces).1 shallow
      cases fails.symm.trans given
  exact ⟨((plain.1 _).1 whole).1, last, deep, (chain.2 pieces).2 deep⟩

end Document
end ColorScheme
