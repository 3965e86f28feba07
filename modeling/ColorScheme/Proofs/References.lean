import ColorScheme.Proofs.Expansion
import Mathlib.Logic.Relation

/-!
The graph of references between options. An option that can be expanded refers
only to options that can be expanded with one level less, so a cycle has no
expansion at any depth, and a chain of single references is followed as far as
the depth allows.
-/

namespace ColorScheme

/-- The options that a value of section `sec` is seen to refer to when it is
read from left to right. Keys are as options keep them. -/
inductive Mentions (sec : Text) : Text → Text × Text → Prop
  | own {key s} : ':' ∉ key → '}' ∉ key →
      Mentions sec ('$' :: '{' :: (key ++ '}' :: s)) (sec, Text.lowercase key)
  | named {other key s} : ':' ∉ other → '}' ∉ other → '}' ∉ key →
      Mentions sec ('$' :: '{' :: (other ++ ':' :: key ++ '}' :: s)) (other, Text.lowercase key)
  | plain {c s option} : c ≠ '$' → Mentions sec s option → Mentions sec (c :: s) option
  | dollar {s option} : Mentions sec s option → Mentions sec ('$' :: '$' :: s) option
  | reference {written s option} : '}' ∉ written → Mentions sec s option →
      Mentions sec ('$' :: '{' :: (written ++ '}' :: s)) option

namespace Document

def option? (d : Document) (option : Text × Text) : Option RawValue :=
  (d.find? option.1).bind (·.options.get? option.2)

def Refers (d : Document) (option other : Text × Text) : Prop :=
  ∃ raw, d.option? option = some raw ∧ Mentions option.1 raw.text other

/-- References lead from an option to one that they lead back to. -/
def ReachesCycle (d : Document) (option : Text × Text) : Prop :=
  ∃ other, Relation.ReflTransGen d.Refers option other ∧ Relation.TransGen d.Refers other other

def Expandable (d : Document) (depth : Nat) (option : Text × Text) : Prop :=
  ∃ raw out, d.option? option = some raw ∧ Expands d depth option.1 raw.text out

end Document

/-- A value and the text at the end of the `n` references that lead from it,
each of them the whole value of an option. -/
inductive Chain (d : Document) : (n : Nat) → (sec : Text) → Text → Text → Prop
  | plain {sec s} : '$' ∉ s → Chain d 0 sec s s
  | own {n sec key target out} : ':' ∉ key → '}' ∉ key → d.raw? sec key = some target →
      Chain d n sec target.text out → Chain d (n + 1) sec ('$' :: '{' :: (key ++ ['}'])) out
  | named {n sec other key target out} : ':' ∉ other → '}' ∉ other → '}' ∉ key →
      d.raw? other key = some target → Chain d n other target.text out →
      Chain d (n + 1) sec ('$' :: '{' :: (other ++ ':' :: key ++ ['}'])) out

namespace Expands

variable {d : Document} {depth : Nat} {sec : Text}

theorem of_reference {written s out : Text} (closed : '}' ∉ written)
    (h : Expands d depth sec ('$' :: '{' :: (written ++ '}' :: s)) out) :
    ∃ n target value tail, depth = n + 1 ∧
      d.raw? (referenceTarget sec written).1 (referenceTarget sec written).2 = some target ∧
      Expands d n (referenceTarget sec written).1 target.text value ∧
      Expands d depth sec s tail ∧ out = value ++ tail := by
  have ok := Document.restValue_of_expands h ⟨[], 0⟩
  obtain ⟨value, tail, hv, ht, rfl⟩ :=
    Document.exists_of_restValue_eq_ok (Piece.ofText_reference closed s) ok
  obtain ⟨target, found, hx⟩ := Document.exists_of_reference_eq_ok hv
  obtain ⟨n, rfl, hx⟩ := Document.exists_of_expand_eq_ok hx
  exact ⟨n, target, value, tail, rfl, found, Document.expands_of_restValue hx,
    Document.expands_of_restValue ht, rfl⟩

theorem expandable_of_mentions {s out : Text} {option : Text × Text}
    (h : Expands d depth sec s out) (m : Mentions sec s option) :
    ∃ n < depth, d.Expandable n option := by
  induction m generalizing out with
  | own colon brace =>
      obtain ⟨n, target, value, _, rfl, found, inner, -⟩ := of_reference brace h
      rw [referenceTarget_own colon] at found inner
      exact ⟨n, Nat.lt_succ_self n, target, value, found, inner⟩
  | named colon other key =>
      obtain ⟨n, target, value, _, rfl, found, inner, -⟩ := of_reference (by simp [other, key]) h
      rw [referenceTarget_named colon] at found inner
      exact ⟨n, Nat.lt_succ_self n, target, value, found, inner⟩
  | plain hc _ ih =>
      cases h with
      | plain _ rest => exact ih rest
      | dollar | own | named => exact absurd rfl hc
  | dollar _ ih =>
      cases h with
      | plain hd => exact absurd rfl hd
      | dollar rest => exact ih rest
  | reference closed _ ih =>
      obtain ⟨_, _, _, _, -, -, -, rest, -⟩ := of_reference closed h
      exact ih rest

end Expands

namespace Document

variable {d : Document} {option other : Text × Text}

theorem expandable_of_transGen (h : Relation.TransGen d.Refers option other) {depth : Nat}
    (e : d.Expandable depth option) : ∃ n < depth, d.Expandable n other := by
  have step {a b : Text × Text} {k : Nat} (r : d.Refers a b) (e : d.Expandable k a) :
      ∃ n < k, d.Expandable n b := by
    obtain ⟨raw, found, mention⟩ := r
    obtain ⟨raw', out, found', expands⟩ := e
    obtain rfl : raw = raw' := Option.some.inj (found.symm.trans found')
    exact expands.expandable_of_mentions mention
  induction h with
  | single r => exact step r e
  | tail _ r ih =>
      obtain ⟨k, hk, e⟩ := ih
      obtain ⟨n, hn, e⟩ := step r e
      exact ⟨n, by omega, e⟩

/-- Each turn around a cycle would take a level, so there is no last turn. -/
theorem not_expandable_of_cycle (cycle : Relation.TransGen d.Refers option option) (depth : Nat) :
    ¬ d.Expandable depth option := by
  induction depth using Nat.strongRecOn with
  | _ depth ih =>
      intro e
      obtain ⟨n, hn, e⟩ := expandable_of_transGen cycle e
      exact ih n hn e

theorem ReachesCycle.not_expandable (h : d.ReachesCycle option) (depth : Nat) :
    ¬ d.Expandable depth option := by
  obtain ⟨other, reach, cycle⟩ := h
  intro e
  obtain rfl | reach := Relation.reflTransGen_iff_eq_or_transGen.1 reach
  · exact not_expandable_of_cycle cycle depth e
  · obtain ⟨n, -, e⟩ := expandable_of_transGen reach e
    exact not_expandable_of_cycle cycle n e

end Document

namespace Chain

variable {d : Document} {sec out : Text}

theorem expands_single {written : Text} {target : RawValue} (closed : '}' ∉ written)
    (found : d.raw? (referenceTarget sec written).1 (referenceTarget sec written).2 = some target)
    (depth : Nat) : Expands d depth sec ('$' :: '{' :: (written ++ ['}'])) out ↔
      ∃ n, depth = n + 1 ∧ Expands d n (referenceTarget sec written).1 target.text out := by
  constructor
  · intro h
    obtain ⟨n, target', value, tail, rfl, found', inner, rest, rfl⟩ := h.of_reference closed
    obtain rfl : target' = target := Option.some.inj (found'.symm.trans found)
    cases rest
    exact ⟨n, rfl, by simpa using inner⟩
  · rintro ⟨n, rfl, inner⟩
    simpa using Expands.reference closed found inner .done

theorem expands_iff {n : Nat} {s : Text} (h : Chain d n sec s out) {depth : Nat} :
    Expands d depth sec s out ↔ n ≤ depth := by
  have longer {n depth : Nat} {within : Nat → Prop} (ih : ∀ {m}, within m ↔ n ≤ m) :
      (∃ m, depth = m + 1 ∧ within m) ↔ n + 1 ≤ depth := by
    constructor
    · rintro ⟨m, rfl, inner⟩
      exact Nat.succ_le_succ (ih.1 inner)
    · intro le
      exact ⟨depth - 1, by omega, ih.2 (by omega)⟩
  induction h generalizing depth with
  | plain hs => exact iff_of_true (.of_no_dollar hs) (Nat.zero_le _)
  | @own _ sec key target _ colon brace found _ ih =>
      have named := referenceTarget_own colon sec
      rw [expands_single brace (by rw [named]; exact found), named]
      exact longer ih
  | @named _ sec other key target _ colon hother hkey found _ ih =>
      have named := referenceTarget_named colon sec key
      rw [expands_single (by simp [hother, hkey]) (by rw [named]; exact found), named]
      exact longer ih

end Chain

/-- Asking for an option gives nothing if there is none, the expansion of its
value if there is one with references at most ten deep, and otherwise an error at
a line. No expansion is found past a cycle, and a chain of references is
followed for ten steps. -/
theorem Document.value_iff_expands (d : Document) (sec key : Text) :
    match d.raw? sec key with
    | none => d.value sec key = .ok none
    | some raw =>
        (∀ out, d.value sec key = .ok (some out) ↔ Expands d 10 sec raw.text out) ∧
        ((∃ out, Expands d 10 sec raw.text out) ∨
          ∃ line fault, d.value sec key = .error (.malformed line fault)) ∧
        (d.ReachesCycle (sec, Text.lowercase key) → ∀ out, d.value sec key ≠ .ok (some out)) ∧
        ∀ n out, Chain d n sec raw.text out → (d.value sec key = .ok (some out) ↔ n ≤ 10) := by
  cases found : d.raw? sec key with
  | none => simp only [value, found]
  | some raw =>
      have value_eq : d.value sec key = (d.expand (10 + 1) sec raw).map some := by
        simp only [value, found]
        rfl
      have ok (out : Text) : d.value sec key = .ok (some out) ↔ Expands d 10 sec raw.text out := by
        rw [value_eq, ← expand_eq_ok_iff]
        cases d.expand (10 + 1) sec raw <;> simp [Except.map]
      refine ⟨ok, ?_, ?_, ?_⟩
      · obtain ⟨out, h⟩ | ⟨line, fault, h⟩ := d.expand_total (10 + 1) sec raw
        · exact .inl ⟨out, expand_eq_ok_iff.mp h⟩
        · exact .inr ⟨line, fault, by rw [value_eq, h]; rfl⟩
      · intro cycle out h
        exact cycle.not_expandable 10 ⟨raw, out, found, (ok out).1 h⟩
      · intro n out chain
        rw [ok, chain.expands_iff]

/-- Options `a` and `b` refer to each other, and `c` to a plain one. -/
theorem Document.value_of_cycle_and_chain :
    let options : SortedTable Text RawValue := .ofList
      [(['a'], ⟨"$\x7bs:B\x7d".toList, 2⟩), (['b'], ⟨"$\x7ba\x7d".toList, 3⟩),
        (['c'], ⟨"$\x7bd\x7d".toList, 4⟩), (['d'], ⟨"plain".toList, 5⟩)]
    let d : Document := ⟨[⟨['s'], 1, options⟩]⟩
    (∀ out, d.value ['s'] ['A'] ≠ .ok (some out)) ∧
      d.value ['s'] ['c'] = .ok (some "plain".toList) := by
  intro options d
  have there : d.Refers (['s'], ['a']) (['s'], ['b']) := ⟨_, rfl, .named
    (by decide : ':' ∉ ['s']) (by decide : '}' ∉ ['s']) (by decide : '}' ∉ ['B'])⟩
  have back : d.Refers (['s'], ['b']) (['s'], ['a']) := ⟨_, rfl, .own
    (by decide : ':' ∉ ['a']) (by decide : '}' ∉ ['a'])⟩
  have chain : Chain d 1 ['s'] "$\x7bd\x7d".toList "plain".toList := .own
    (by decide : ':' ∉ ['d']) (by decide : '}' ∉ ['d']) rfl (.plain (by decide))
  have looped := value_iff_expands d ['s'] ['A']
  have straight := value_iff_expands d ['s'] ['c']
  refine ⟨looped.2.2.1 ⟨_, .refl, .tail (.single there) back⟩, ?_⟩
  exact (straight.2.2.2 1 _ chain).mpr (by decide)

end ColorScheme
