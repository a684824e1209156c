import Embedder.Json.Printer
import Embedder.Json.Reader

/-!
# Values as they are laid out

A well-formed text is the text of a value that is laid out: a tree that has, besides what the value
is, every choice its author had, such as the blanks between two tokens, the escapes in a string and
the digits of a number. Blanks, digits and pieces of strings carry the proof that they are some, so
every tree has a well-formed text.

What a string says is another matter. An escape of four digits can name one half of a character,
and such halves say something only in pairs (`said?`). A value is well-formed all the same, as
readers need not know what it says to pass over it.
-/

namespace Embedder.Json.Layout

/-! ## Tokens -/

/-- What may stand between two tokens. -/
structure Blanks where
  text : List Char
  blank : ∀ c ∈ text, isSpace c = true

/-- The number that four hexadecimal digits write. -/
def hexNumber? (a b c d : Char) : Option Nat :=
  match hexValue? a, hexValue? b, hexValue? c, hexValue? d with
  | some x, some y, some z, some w => some (((x * 16 + y) * 16 + z) * 16 + w)
  | _, _, _, _ => none

/-- A piece of a string: a character that stands for itself, an escape of one letter, or one of
four digits. -/
inductive Piece where
  | plain (c : Char) (h : c ≠ '"' ∧ c ≠ '\\' ∧ ¬c < ' ')
  | short (e c : Char) (h : shortEscape? e = some c)
  | hex (a b c d : Char) (n : Nat) (h : hexNumber? a b c d = some n)

/-- The text of a piece. -/
def Piece.text : Piece → List Char
  | .plain c _ => [c]
  | .short e _ _ => ['\\', e]
  | .hex a b c d _ _ => ['\\', 'u', a, b, c, d]

/-- The text of a string after its opening quote. -/
def closed (ps : List Piece) : List Char := ps.flatMap Piece.text ++ ['"']

/-- What a string says: nothing if the half of a character stands alone. -/
def said? : List Piece → Option (List Char)
  | [] => some []
  | .plain c _ :: ps => (said? ps).map (c :: ·)
  | .short _ c _ :: ps => (said? ps).map (c :: ·)
  | .hex _ _ _ _ n _ :: ps =>
    if isLowHalf n then none
    else if isHighHalf n then
      match ps with
      | .hex _ _ _ _ m _ :: ps =>
        if isLowHalf m then (said? ps).map (joinHalves n m :: ·) else none
      | _ => none
    else (said? ps).map (Char.ofNat n :: ·)

/-- Digits, at least one. -/
structure Digits where
  text : List Char
  nonempty : text ≠ []
  digit : ∀ c ∈ text, isDigit c = true

/-- The exponent of a number. -/
structure Exponent where
  letter : Char
  isLetter : letter = 'e' ∨ letter = 'E'
  sign : Option Char
  isSign : ∀ c ∈ sign, c = '+' ∨ c = '-'
  digits : Digits

/-- The text of an exponent, if there is one. -/
def exponentText : Option Exponent → List Char
  | none => []
  | some e => e.letter :: (e.sign.toList ++ e.digits.text)

/-- The text of a fraction, if there is one. -/
def fractionText : Option Digits → List Char
  | none => []
  | some ds => '.' :: ds.text

/-- A number. Only zero begins with a zero. -/
structure Numeral where
  negative : Bool
  whole : Digits
  noLeadingZero : ∀ ds, whole.text = '0' :: ds → ds = []
  fraction : Option Digits
  exponent : Option Exponent

/-- The text of a number after its sign. -/
def Numeral.magnitude (n : Numeral) : List Char :=
  n.whole.text ++ (fractionText n.fraction ++ exponentText n.exponent)

/-- The text of a number. -/
def Numeral.text (n : Numeral) : List Char := (if n.negative then ['-'] else []) ++ n.magnitude

/-! ## Values -/

/-- The character that opens a bracket. -/
def opener : Bracket → Char
  | .list => '['
  | .object => '\x7b'

/-- What stands before the value of an element: nothing in a list, a key and a colon in an
object. -/
inductive Lead : Bracket → Type where
  | item : Lead .list
  | member (before : Blanks) (key : List Piece) (after : Blanks) : Lead .object

/-- The text of what stands before a value. -/
def Lead.text {b : Bracket} : Lead b → List Char
  | .item => []
  | .member before key after => before.text ++ '"' :: (closed key ++ (after.text ++ [':']))

mutual

/-- A value. -/
inductive Value where
  | null
  | flag (b : Bool)
  | number (n : Numeral)
  | string (ps : List Piece)
  | empty (b : Bracket) (inside : Blanks)
  | filled (b : Bracket) (es : Elements b)

/-- The elements of a list or of an object, at least one. -/
inductive Elements : Bracket → Type where
  | last {b : Bracket} (lead : Lead b) (before : Blanks) (v : Value) (after : Blanks) : Elements b
  | more {b : Bracket} (lead : Lead b) (before : Blanks) (v : Value) (after : Blanks)
      (rest : Elements b) : Elements b

end

mutual

/-- The text of a value. -/
def Value.text : Value → List Char
  | .null => ['n', 'u', 'l', 'l']
  | .flag b => writtenBool b
  | .number n => n.text
  | .string ps => '"' :: closed ps
  | .empty b inside => opener b :: (inside.text ++ [b.closer])
  | .filled b es => opener b :: (es.text ++ [b.closer])

/-- The text of elements, with commas between them. -/
def Elements.text {b : Bracket} : Elements b → List Char
  | .last lead before v after => lead.text ++ (before.text ++ (v.text ++ after.text))
  | .more lead before v after rest =>
    lead.text ++ (before.text ++ (v.text ++ (after.text ++ ',' :: rest.text)))

end

/-! ## What values say -/

/-- A member of an object: its key and its value. -/
structure Member where
  key : List Piece
  value : Value

/-- The truth value that a value is. -/
def Value.flag? : Value → Option Bool
  | .flag b => some b
  | _ => none

/-- What a string says. -/
def Value.string? : Value → Option (List Char)
  | .string ps => said? ps
  | _ => none

/-- The values of the elements of a list. -/
def Elements.values : Elements .list → List Value
  | .last _ _ v _ => [v]
  | .more _ _ v _ rest => v :: rest.values

/-- The members of an object. -/
def Elements.members : Elements .object → List Member
  | .last (.member _ key _) _ v _ => [⟨key, v⟩]
  | .more (.member _ key _) _ v _ rest => ⟨key, v⟩ :: rest.members

/-- What the strings of a list say, if it is a list of strings that say something. -/
def Value.strings? : Value → Option (List (List Char))
  | .empty .list _ => some []
  | .filled .list es => es.values.mapM Value.string?
  | _ => none

/-- The members of a value that is an object. -/
def Value.members? : Value → Option (List Member)
  | .empty .object _ => some []
  | .filled .object es => some es.members
  | _ => none

end Embedder.Json.Layout
