import Embedder.Text.Quoted

/-!
# Writing JSON text

The compact form: no blanks, and in strings only quotes, backslashes and control characters are
escaped.
-/

namespace Embedder.Json

/-- One character of a written string. -/
def writtenChar (c : Char) : List Char :=
  match c with
  | '"' => ['\\', '"']
  | '\\' => ['\\', '\\']
  | '\x08' => ['\\', 'b']
  | '\x0c' => ['\\', 'f']
  | '\n' => ['\\', 'n']
  | '\r' => ['\\', 'r']
  | '\t' => ['\\', 't']
  | c =>
    if c < ' ' then
      ['\\', 'u', '0', '0', Nat.digitChar (c.toNat / 16), Nat.digitChar (c.toNat % 16)]
    else [c]

/-- A string between its quotes. -/
def writtenString (s : String) : List Char := '"' :: s.toList.flatMap writtenChar ++ ['"']

/-- The elements of a list or the members of an object, with commas between them. -/
def joined : List (List Char) → List Char
  | [] => []
  | [x] => x
  | x :: y :: xs => x ++ ',' :: joined (y :: xs)

/-- A list of written elements. -/
def writtenList (xs : List (List Char)) : List Char := '[' :: joined xs ++ [']']

/-- A word for a truth value. -/
def writtenBool (b : Bool) : List Char := (if b then "true" else "false").toList

/-- A member of an object. -/
def writtenMember (name : String) (value : List Char) : List Char :=
  writtenString name ++ ':' :: value

/-- An object of written members. -/
def writtenObject (members : List (List Char)) : List Char :=
  '\x7b' :: joined members ++ ['\x7d']

end Embedder.Json
