import ColorScheme.Document
import ColorScheme.Error
import ColorScheme.Text.Blank

/-!
Reading a document line by line. A line in brackets opens a section, and a line
with `=` or `:` sets an option of it. An indented line continues the option
before it, unless a blank line or a header lies between; a comment does not
come between them. A section opened again is the same section, and an option
set again takes the later value.
-/

namespace ColorScheme

/-- A line by itself, before its neighbours are considered. -/
inductive Line where
  | blank
  | comment
  | content (indented : Bool) (text : Text)
  deriving DecidableEq

def Line.ofText (raw : Text) : Line :=
  match Text.trim raw with
  | [] => blank
  | c :: text =>
      if c = '#' ∨ c = ';' then comment
      else content (raw.head?.any Text.isBlank) (c :: text)

/-- The name inside the brackets of a header, whose first bracket is taken
off. -/
def headerName? (rest : Text) : Option Text :=
  if rest.getLast? = some ']' then
    let name := Text.trim rest.dropLast
    if name = [] then none else some name
  else none

/-- The name of an option, in lowercase, and its value. The first of the two
separators counts. -/
def optionOfText? (text : Text) : Option (Text × Text) :=
  match Text.cut? (fun c => c = '=' || c = ':') text with
  | some (left, right) =>
      let key := Text.trim left
      if key = [] then none else some (Text.lowercase key, Text.trim right)
  | none => none

/-- Where the next line falls. -/
inductive Place where
  | outside
  /-- In a section, perhaps after an option that can be continued. -/
  | inside (sec : Text) (openKey : Option Text)
  deriving DecidableEq

namespace Place

def closeOption : Place → Place
  | outside => outside
  | inside sec _ => inside sec none

end Place

/-- The document read so far, and the place of the next line. -/
structure Reader where
  document : Document := {}
  place : Place := .outside
  deriving DecidableEq

namespace Reader

/-- Takes a header or an option at a numbered line. -/
def enter (r : Reader) (number : Nat) : Text → Except Error Reader
  | '[' :: rest =>
      match headerName? rest with
      | some name => .ok ⟨r.document.addSection name number, .inside name none⟩
      | none => .error (.malformed number (.badHeader ('[' :: rest)))
  | text =>
      match r.place with
      | .outside => .error (.malformed number .optionOutsideSection)
      | .inside sec _ =>
          match optionOfText? text with
          | some (key, value) =>
              .ok ⟨r.document.modify sec (·.set key ⟨value, number⟩), .inside sec (some key)⟩
          | none => .error (.malformed number (.notAnOption text))

def step (r : Reader) (number : Nat) (raw : Text) : Except Error Reader :=
  match Line.ofText raw with
  | .blank => .ok { r with place := r.place.closeOption }
  | .comment => .ok r
  | .content indented text =>
      match indented, r.place with
      | true, .inside sec (some key) =>
          .ok { r with document := r.document.modify sec (·.continueOption key text) }
      | _, _ => r.enter number text

/-- Takes lines, the first of them with the given number. -/
def readLines (r : Reader) (number : Nat) : List Text → Except Error Reader
  | [] => .ok r
  | raw :: rest =>
      match r.step number raw with
      | .ok next => next.readLines (number + 1) rest
      | .error e => .error e

end Reader

def Document.ofText (text : Text) : Except Error Document :=
  (Reader.readLines {} 1 (Text.lines text)).map (·.document)

end ColorScheme
