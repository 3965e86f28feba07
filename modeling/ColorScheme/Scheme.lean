import ColorScheme.SortedTable
import ColorScheme.Style
import ColorScheme.Token

/-!
A color scheme: two colors for the page and a style for some of the tokens. A
token without a style of its own takes the whole style of its nearest ancestor
that has one; styles are never merged along the path. A style that sets nothing
is not kept, so that it cannot hide an ancestor's.
-/

namespace ColorScheme

/-- The styles that tokens have of their own. -/
abbrev StyleTable := SortedTable Token Style

def StyleTable.resolve (styles : StyleTable) (t : Token) : Style :=
  (t.ancestors.findSome? styles.get?).getD .empty

structure Scheme where
  background : Color := .white
  highlight : Color := .paleYellow
  styles : StyleTable := .empty
  deriving DecidableEq

namespace Scheme

/-- Sets the style of a token; a style that sets nothing removes it. -/
def insert (s : Scheme) (t : Token) (style : Style) : Scheme :=
  { s with
    styles := if style.isEmpty then s.styles.erase t else s.styles.insert t style }

def get? (s : Scheme) (t : Token) : Option Style :=
  s.styles.get? t

def resolve (s : Scheme) (t : Token) : Style :=
  s.styles.resolve t

def StylesSetSomething (s : Scheme) : Prop :=
  ∀ e ∈ s.styles.entries, e.2 ≠ .empty

instance (s : Scheme) : Decidable s.StylesSetSomething :=
  inferInstanceAs (Decidable (∀ e ∈ s.styles.entries, e.2 ≠ .empty))

theorem get?_insert (s : Scheme) (t u : Token) (style : Style) :
    (s.insert t style).get? u =
      if u = t then (if style = .empty then none else some style) else s.get? u := by
  by_cases h : style = .empty <;>
    simp [insert, get?, Style.isEmpty, h, SortedTable.get?_erase, SortedTable.get?_insert]

end Scheme
end ColorScheme
