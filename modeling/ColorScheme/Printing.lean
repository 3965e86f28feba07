import ColorScheme.Error

/-!
Printing that can fail on the way. What has been printed before an error stays
printed, and nothing is printed after it.
-/

namespace ColorScheme

/-- What is printed, and the result or the error at the end of it. -/
structure Printing (α : Type) where
  printed : Text := []
  result : Except Error α

namespace Printing

variable {α β : Type}

instance : Monad Printing where
  pure a := { result := .ok a }
  bind x f :=
    match x.result with
    | .ok a =>
        let rest := f a
        { rest with printed := x.printed ++ rest.printed }
    | .error e => { printed := x.printed, result := .error e }

/-- A step that prints nothing. -/
def ofExcept (x : Except Error α) : Printing α :=
  { result := x }

def emit (s : Text) : Printing Unit :=
  { printed := s, result := .ok () }

def emitLines (ls : List Text) : Printing Unit :=
  emit (Text.ofLines ls)

/-- All that is printed, unless there is an error. -/
def collect (x : Printing Unit) : Except Error Text :=
  x.result.map fun _ => x.printed

@[simp] theorem ofExcept_ok_bind (a : α) (f : α → Printing β) : ofExcept (.ok a) >>= f = f a :=
  rfl

theorem emit_bind_emit (s t : Text) : (emit s >>= fun _ => emit t) = emit (s ++ t) := rfl

end Printing
end ColorScheme
