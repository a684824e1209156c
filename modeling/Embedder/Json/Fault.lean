import Embedder.Text.Quoted
import Embedder.Number.Shortest

/-!
# Faults in JSON text

Why a text is not the JSON that was wanted, and where. A `Mark` is a place in the text, given by
what follows it, so that a reader can make one without knowing the whole; `Located.message` counts
its line and column, in bytes, from the whole text.
-/

namespace Embedder.Json

/-- The kind of value that stands in a text, for saying that it is not the wanted kind. -/
inductive Found where
  | null
  | boolean (b : Bool)
  | integer (i : Int)
  | float (d : Double)
  | string (s : String)
  | list
  | object
  deriving DecidableEq, Repr

/-- Floats in messages are positional from a hundred-thousandth up to sixteen digits, and exponents
are as short as can be. -/
def floatStyle : DecimalStyle := ⟨-5, 15, 1, "NaN", "inf"⟩

/-- The description of a found value. -/
def Found.text : Found → String
  | .null => "null"
  | .boolean b => "boolean `" ++ (if b then "true" else "false") ++ "`"
  | .integer i => s!"integer `{i}`"
  | .float d => "floating point `" ++ floatStyle.text d ++ "`"
  | .string s => "string " ++ Text.quoted s
  | .list => "sequence"
  | .object => "map"

/-- What is wrong with a text. -/
inductive Fault where
  | endInList
  | endInObject
  | endInString
  | endInValue
  | expectedColon
  | expectedListCommaOrEnd
  | expectedObjectCommaOrEnd
  | expectedIdent
  | expectedValue
  | invalidEscape
  | invalidNumber
  | numberOutOfRange
  | controlCharacter
  | keyMustBeString
  | loneSurrogate
  | trailingComma
  | trailingCharacters
  | endOfHexEscape
  | wrongType (found : Found) (expected : String)
  | duplicateField (name : String)
  deriving DecidableEq, Repr

/-- The wording of a fault. -/
def Fault.text : Fault → String
  | .endInList => "EOF while parsing a list"
  | .endInObject => "EOF while parsing an object"
  | .endInString => "EOF while parsing a string"
  | .endInValue => "EOF while parsing a value"
  | .expectedColon => "expected `:`"
  | .expectedListCommaOrEnd => "expected `,` or `]`"
  | .expectedObjectCommaOrEnd => "expected `,` or `\x7d`"
  | .expectedIdent => "expected ident"
  | .expectedValue => "expected value"
  | .invalidEscape => "invalid escape"
  | .invalidNumber => "invalid number"
  | .numberOutOfRange => "number out of range"
  | .controlCharacter => "control character (\\u0000-\\u001F) found while parsing a string"
  | .keyMustBeString => "key must be a string"
  | .loneSurrogate => "lone leading surrogate in hex escape"
  | .trailingComma => "trailing comma"
  | .trailingCharacters => "trailing characters"
  | .endOfHexEscape => "unexpected end of hex escape"
  | .wrongType found expected => "invalid type: " ++ found.text ++ ", expected " ++ expected
  | .duplicateField name => "duplicate field `" ++ name ++ "`"

/-- A fault at a place: `extra` bytes into `rest`, what remained to be read. -/
structure Located where
  fault : Fault
  rest : List Char
  extra : Nat
  deriving DecidableEq, Repr

/-- The number of bytes of a text. -/
def byteLength (s : List Char) : Nat := s.foldr (fun c n => c.utf8Size + n) 0

/-- The line and the column of the place `index` bytes into a text: `offset` bytes lie before the
characters still to be seen, and line `line` starts at byte `start`. -/
def placeFrom (index line start : Nat) : Nat → List Char → Nat × Nat
  | _, [] => (line, index - start)
  | offset, c :: s =>
    let next := offset + c.utf8Size
    if index < next then (line, index - start)
    else if c = '\n' then placeFrom index (line + 1) next next s
    else placeFrom index line start next s

/-- The line and the column, in bytes, of the place `index` bytes into a text. -/
def place (whole : List Char) (index : Nat) : Nat × Nat := placeFrom index 1 0 0 whole

/-- The wording of a located fault in a text. -/
def Located.message (l : Located) (whole : List Char) : String :=
  let total := byteLength whole
  let (line, column) := place whole (min total (total - byteLength l.rest + l.extra))
  s!"{l.fault.text} at line {line} column {column}"

/-- A fault at the place where `rest` begins. -/
def Fault.before (f : Fault) (rest : List Char) : Located := ⟨f, rest, 0⟩

/-- A fault at the first byte of `rest`. -/
def Fault.on (f : Fault) (rest : List Char) : Located := ⟨f, rest, 1⟩

end Embedder.Json
