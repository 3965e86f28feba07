import ColorScheme.Error

/-!
What is found where a file is looked for, and the text it holds.
-/

namespace ColorScheme

instance bytesDecidableEq : DecidableEq ByteArray := ByteArray.instDecidableEq

inductive File where
  | missing
  | directory
  | content (bytes : ByteArray)
  deriving DecidableEq

def textOfBytes (bytes : ByteArray) : Except Error Text :=
  match String.fromUTF8? bytes with
  | some s => .ok s.toList
  | none => .error (.file .notUtf8)

def File.text : File → Except Error Text
  | missing => .error (.file .missing)
  | directory => .error (.file .isDirectory)
  | content bytes => textOfBytes bytes

end ColorScheme
