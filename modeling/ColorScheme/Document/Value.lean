import ColorScheme.Document
import ColorScheme.Error
import ColorScheme.Text.Blank

/-!
The values of options once their references are replaced. A dollar sign and a
key in braces stand for an option of the section that holds them; with a section
and a colon before the key they stand for an option of that section; two dollar
signs stand for one. References may nest to a fixed depth, so one that leads
back to itself is an error. What a reference stands for is not searched for
references again.
-/

namespace ColorScheme

/-- A part of a value as written. -/
inductive Piece where
  | literal (c : Char)
  | reference (written : Text)
  /-- A dollar sign with nothing proper after it. -/
  | stray
  /-- A reference without an end. -/
  | unterminated
  deriving DecidableEq

namespace Piece

/-- The pieces of a text, read from within the reference that `open?` holds in
reverse, if any. -/
def ofTextIn : Option Text → Text → List Piece
  | some _, [] => [unterminated]
  | some ref, '}' :: s => reference ref.reverse :: ofTextIn none s
  | some ref, c :: s => ofTextIn (some (c :: ref)) s
  | none, [] => []
  | none, '$' :: '$' :: s => literal '$' :: ofTextIn none s
  | none, '$' :: '{' :: s => ofTextIn (some []) s
  | none, '$' :: _ => [stray]
  | none, c :: s => literal c :: ofTextIn none s

/-- The pieces of a text. Nothing is read after a fault. -/
def ofText (s : Text) : List Piece :=
  ofTextIn none s

end Piece

/-- The section and key that a reference within `sec` names. -/
def referenceTarget (sec written : Text) : Text × Text :=
  (Text.cut? (· = ':') written).getD (sec, written)

namespace Document

/-- References nest at most so deep below the option that is asked for. -/
def maxDepth : Nat := 10

/-- The value of an option of section `sec` with its references replaced, when
values may still nest `levels` deep, this one counted. -/
def expand (d : Document) : Nat → Text → RawValue → Except Error Text
  | 0, _, raw => .error (.malformed raw.line .nestedTooDeeply)
  | levels + 1, sec, raw => do
      let parts ← (Piece.ofText raw.text).mapM fun
        | .literal c => .ok [c]
        | .stray => .error (.malformed raw.line (.strayDollar raw.text))
        | .unterminated => .error (.malformed raw.line (.unterminatedReference raw.text))
        | .reference written =>
            let (sec, key) := referenceTarget sec written
            match d.raw? sec key with
            | some target => d.expand levels sec target
            | none => .error (.malformed raw.line (.unknownReference written))
      return parts.flatten

def value (d : Document) (sec key : Text) : Except Error (Option Text) :=
  match d.raw? sec key with
  | some raw => (d.expand (maxDepth + 1) sec raw).map some
  | none => .ok none

end Document

/-- The truth value that a text names, in any case. -/
def truthValue? (s : Text) : Option Bool :=
  let word := Text.lowercase (Text.trim s)
  if word ∈ ["1", "yes", "true", "on"].map String.toList then some true
  else if word ∈ ["0", "no", "false", "off"].map String.toList then some false
  else none

namespace Document

def flag (d : Document) (sec key : Text) : Except Error (Option Bool) :=
  match d.raw? sec key with
  | none => .ok none
  | some raw => do
      let value ← d.expand (maxDepth + 1) sec raw
      match truthValue? value with
      | some b => return some b
      | none => .error (.malformed raw.line (.notABoolean sec key value))

end Document
end ColorScheme
