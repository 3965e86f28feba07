import ColorScheme.Proofs.DefinitionNormalForm

/-!
Runs of insertions, and the schemes that can be come by at all. A run leaves for
each token the style that was set last, so calls for different tokens can change
places; and wherever a scheme comes from, each of its styles sets something.
-/

namespace ColorScheme

namespace Source

/-- What a source gives, if it remembers no scheme, is a page with some entries
inserted. -/
theorem toScheme_keeps {P : Scheme → Prop} {source : Source} {s : Scheme}
    (origin : ∀ o, source.origin = some o → P o)
    (start : ∀ background highlight, P { background, highlight })
    (insert_keeps : ∀ scheme token style, P scheme → P (scheme.insert token style))
    (ok : source.toScheme = .ok s) : P s := by
  cases remembered : source.origin with
  | some scheme =>
      rw [toScheme, remembered] at ok
      obtain rfl : scheme = s := Except.ok.inj ok
      exact origin scheme remembered
  | none =>
      rw [toScheme, remembered] at ok
      cases background : Color.normalize (some source.background) with
      | error e => rw [background] at ok; cases ok
      | ok b =>
          cases highlight : Color.normalize (some source.highlight) with
          | error e => rw [background, highlight] at ok; cases ok
          | ok h =>
              rw [background, highlight] at ok
              refine foldlM_keeps (P := P) ?_ (start _ _) ok
              rintro ⟨token, words⟩ _ scheme next kept step
              dsimp only at step
              split at step
              · cases step
                exact kept
              · cases parsed : Style.parse words with
                | error e => rw [parsed] at step; cases step
                | ok style =>
                    rw [parsed] at step
                    cases step
                    exact insert_keeps scheme token style kept

end Source

namespace Scheme

/-- The schemes that can be come by: a new one, one with other colors of the page
or another entry, one that was read, and one that a source gives, which remembers
no scheme or one that could be come by. -/
inductive Obtainable : Scheme → Prop
  | new : Obtainable {}
  | page {s : Scheme} (background highlight : Color) : Obtainable s →
      Obtainable { s with background, highlight }
  | insert {s : Scheme} (t : Token) (style : Style) : Obtainable s → Obtainable (s.insert t style)
  | read {text : Text} {s : Scheme} : Definition.read text = .ok s → Obtainable s
  | convert {source : Source} {s : Scheme} :
      (∀ origin, source.origin = some origin → Obtainable origin) → source.toScheme = .ok s →
      Obtainable s

theorem Obtainable.stylesSetSomething {s : Scheme} (h : s.Obtainable) : s.StylesSetSomething := by
  induction h with
  | new => exact fun _ he => nomatch he
  | page _ _ _ ih => exact ih
  | insert t style _ ih => exact ih.insert t style
  | read ok => exact (Definition.expressible_of_read ok).full
  | convert _ ok ih =>
      exact Source.toScheme_keeps ih (fun _ _ _ he => nomatch he)
        (fun _ t style h => h.insert t style) ok

theorem obtainable_insertAll {s : Scheme} (h : s.Obtainable) (calls : List (Token × Style)) :
    (s.insertAll calls).Obtainable := by
  induction calls generalizing s with
  | nil => exact h
  | cons call calls ih => exact ih (h.insert call.1 call.2)

/-- Calls for different tokens can change places. -/
theorem insertAll_congr {calls other : List (Token × Style)}
    (same : ∀ t, calls.filter (·.1 = t) = other.filter (·.1 = t)) (s : Scheme) :
    s.insertAll calls = s.insertAll other := by
  have styles : (s.insertAll calls).styles = (s.insertAll other).styles := by
    apply SortedTable.ext_get?
    intro t
    exact get?_insertAll_congr (same t) s
  exact Scheme.ext (by simp) (by simp) styles

/-- After a run of insertions each token has the style that was set last for it,
unless that sets nothing, and no other token has one. The order of calls for
different tokens has no say. However a scheme is come by, none of its styles sets
nothing. -/
theorem insertAll_holds_last (calls : List (Token × Style)) :
    (insertAll {} calls).StylesSetSomething ∧
    (insertAll {} calls).styles.keys.Pairwise (· < ·) ∧
    (∀ t, (∀ e ∈ calls, e.1 ≠ t) → (insertAll {} calls).get? t = none) ∧
    (∀ before t style after, calls = before ++ (t, style) :: after → (∀ e ∈ after, e.1 ≠ t) →
      (insertAll {} calls).get? t = if style = .empty then none else some style) ∧
    (∀ other, (∀ t, other.filter (·.1 = t) = calls.filter (·.1 = t)) →
      insertAll {} other = insertAll {} calls) ∧
    ∀ s : Scheme, s.Obtainable → s.StylesSetSomething := by
  refine ⟨(obtainable_insertAll .new calls).stylesSetSomething, ?_, ?_, ?_,
    fun other same => insertAll_congr same {}, fun s h => h.stylesSetSomething⟩
  · exact List.pairwise_map.mpr (insertAll {} calls).styles.ascending
  · intro t absent
    rw [get?_insertAll, lookup_reverse_eq_none absent]
    rfl
  · rintro before t style after rfl last
    rw [get?_insertAll, lookup_reverse_of_last last]
    rfl

/-- A style that is set and then unset is gone, whatever is set in between; and a
source that remembers the scheme gives it back, whatever else it says. -/
theorem insertAll_holds_last_removed :
    let string := Token.root.child "String".toList
    let name := Token.root.child "Name".toList
    let bold : Style := { bold := some true }
    let calls := [(string, bold), (name, .empty), (string, .empty), (name, bold)]
    let other := [(name, .empty), (name, bold), (string, bold), (string, .empty)]
    let s := insertAll {} calls
    s.get? string = none ∧ s.get? name = some bold ∧ s.get? .root = none ∧
      insertAll {} other = s ∧
      ({ s.toSource with background := "white".toList } : Source).toScheme = .ok s ∧
      s.StylesSetSomething := by
  intro string name bold calls other s
  obtain ⟨-, -, untouched, last, reordered, obtained⟩ := insertAll_holds_last calls
  have separate : ∀ e ∈ [(name, bold)], e.1 ≠ string := by decide
  have same (t : Token) : other.filter (·.1 = t) = calls.filter (·.1 = t) := by
    by_cases hs : string = t
    · exact hs ▸ (by decide)
    · by_cases hn : name = t
      · exact hn ▸ (by decide)
      · simp [other, calls, hs, hn]
  have remembered : ({ s.toSource with background := "white".toList } : Source).toScheme = .ok s :=
    rfl
  have made : s.Obtainable := obtainable_insertAll .new calls
  refine ⟨last [(string, bold), (name, .empty)] string .empty [(name, bold)] rfl separate,
    last [(string, bold), (name, .empty), (string, .empty)] name bold [] rfl (by simp),
    untouched .root (by decide), reordered other same, remembered, obtained s ?_⟩
  refine .convert (fun origin same => ?_) remembered
  obtain rfl : s = origin := Option.some.inj same
  exact made

end Scheme
end ColorScheme
