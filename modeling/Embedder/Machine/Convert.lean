import Embedder.Text.Blank
import Embedder.Text.Digits
import Embedder.Machine.Operator

/-!
# Conversions

Objects as integers, floats, texts and bytes. A number in a text may be written with the digits of
any script, with single underscores between digits and with blanks around it.
-/

namespace Embedder.Machine

/-- Raise an exception of a class with a message that may hold surrogates. -/
def throwPoints {α : Type} (cls : Builtin) (message : Points) : Exec α := do
  let text ← newStr message
  throwWith cls [text]

/-! ## Numbers in texts -/

/-- The text in which digits and blanks of all scripts are those of ASCII. It ends, with a question
mark, at the first character that is no such thing; a text of ASCII alone stays as it is. -/
def asciiNumber (s : Points) : List Char :=
  let rec plain : Points → List Char
    | [] => []
    | n :: rest =>
      if n < 127 then Char.ofNat n :: plain rest
      else if Text.isBlank (Char.ofNat n) then ' ' :: plain rest
      else
        match Text.digitValue? n with
        | some d => Char.ofNat (0x30 + d) :: plain rest
        | none => ['?']
  if s.all (· < 128) then s.map Char.ofNat else plain s

/-- Whether a character is a blank of ASCII. -/
def isAsciiBlank (c : Char) : Bool := c == ' ' || (9 ≤ c.toNat && c.toNat ≤ 13)

/-- A sign in front of a number, and the rest. -/
def signOf : List Char → Bool × List Char
  | '-' :: rest => (true, rest)
  | '+' :: rest => (false, rest)
  | rest => (false, rest)

/-- The number that some digits spell. -/
def digitsValue (ds : List Char) : Nat := ds.foldl (fun n c => n * 10 + (c.toNat - 0x30)) 0

/-- Whether each underscore stands between two characters that `p` accepts; `before` says whether
the character before is one. -/
def underscoresFit (p : Char → Bool) : (before : Bool) → List Char → Bool
  | _, [] => true
  | before, '_' :: c :: rest => before && p c && underscoresFit p (p c) rest
  | _, ['_'] => false
  | _, c :: rest => underscoresFit p (p c) rest

/-- A text read as an integer. -/
inductive IntText where
  | value (i : Int)
  | tooLong (digits : Nat)
  | malformed

/-- The value of a character as a digit in a base: letters go on after nine. -/
def digitIn? (base : Nat) (c : Char) : Option Nat :=
  let value :=
    if c.isDigit then c.toNat - 0x30
    else if c.isAlpha then c.toLower.toNat - 0x61 + 10
    else base
  if value < base then some value else none

/-- The base that the mark in front of some digits names. -/
def markedBase? : List Char → Option Nat
  | '0' :: c :: _ =>
    match c.toLower with
    | 'x' => some 16
    | 'o' => some 8
    | 'b' => some 2
    | _ => none
  | _ => none

/-- The digits after the mark of a base. -/
def unmarked (cs : List Char) : List Char :=
  match cs.drop 2 with
  | '_' :: rest => rest
  | rest => rest

/-- Read a text as an integer in a base; in base zero it is marked, or decimal without a zero in
front. Whether it is too long is known before what follows the digits; in a base that is a power of
two it never is. -/
def readInt (base : Nat) (cs : List Char) : IntText :=
  let (negative, cs) := signOf (cs.dropWhile isAsciiBlank)
  let marked := (markedBase? cs).filter fun b => base = 0 ∨ base = b
  let inBase := marked.getD (if base = 0 then 10 else base)
  let isDigit (c : Char) : Bool := (digitIn? inBase c).isSome
  let cs := if marked.isSome then unmarked cs else cs
  let (body, rest) := cs.span fun c => isDigit c || c == '_'
  let digits := body.filterMap (digitIn? inBase)
  let n : Nat := digits.foldl (fun n d => n * inBase + d) 0
  if !underscoresFit isDigit false body then .malformed
  else if inBase ∉ [2, 4, 8, 16, 32] ∧ maxIntDigits < digits.length then .tooLong digits.length
  else if digits.isEmpty ∨ !rest.all isAsciiBlank then .malformed
  else if base = 0 ∧ marked = none ∧ cs.head? = some '0' ∧ n ≠ 0 then .malformed
  else .value (if negative then -(n : Int) else n)

/-- The integer that a text spells in a base; `shown` is how an error shows it. -/
def intFromText (base : Nat) (cs : List Char) (shown : Points) : Exec Obj :=
  match readInt base cs with
  | .value i => newInt i
  | .tooLong n =>
    throwNew .valueError (s!"Exceeds the limit ({maxIntDigits} digits) for integer string " ++
      s!"conversion: value has {n} digits; use sys.set_int_max_str_digits() to increase the limit")
  | .malformed =>
    throwPoints .valueError
      (pointsOf s!"invalid literal for int() with base {base}: " ++ shown.take 200)

/-- A decimal number with a power of ten, as the nearest float; infinite if it is too large. -/
def decimalDouble (digits : Nat) (exponent : Int) : Double :=
  let size := (toString digits).length
  let infinity := Double.ofSignBits false (2047 * 2 ^ 52)
  if digits = 0 ∨ exponent + size < -400 then Double.zero
  else if 400 < exponent + size then infinity
  else
    let r :=
      if 0 ≤ exponent then Double.ofRatio? (digits * 10 ^ exponent.toNat) 1
      else Double.ofRatio? digits (10 ^ (-exponent).toNat)
    r.getD infinity

/-- The exponent that stands in front of a text, a letter, a sign and digits, and what follows it;
zero where there is none. -/
def exponentBefore : List Char → Int × List Char
  | [] => (0, [])
  | c :: rest =>
    let (negative, after) := signOf rest
    let (ds, tail) := after.span Char.isDigit
    if (c == 'e' || c == 'E') && !ds.isEmpty then
      let n : Int := digitsValue ds
      (if negative then -n else n, tail)
    else (0, c :: rest)

/-- The words for floats that are no numbers or too large for one, the longer one first. -/
def floatWords : List (String × Double) :=
  [("infinity", ⟨0x7ff0000000000000⟩), ("inf", ⟨0x7ff0000000000000⟩),
    ("nan", ⟨0x7ff8000000000000⟩)]

/-- The float that stands in front of a text and is not negative, and what follows it. -/
def floatBefore? (cs : List Char) : Option (Double × List Char) :=
  let lower := cs.map Char.toLower
  match floatWords.find? fun (word, _) => word.toList.isPrefixOf lower with
  | some (word, d) => some (d, cs.drop word.length)
  | none =>
    let (whole, rest) := cs.span Char.isDigit
    let (part, rest) := match rest with
      | '.' :: rest => rest.span Char.isDigit
      | rest => ([], rest)
    if whole.isEmpty ∧ part.isEmpty then none
    else
      let (e, rest) := exponentBefore rest
      some (decimalDouble (digitsValue (whole ++ part)) (e - (part.length : Int)), rest)

/-- The float with a sign or without that stands in front of a text, and what follows it. -/
def signedFloatBefore? (cs : List Char) : Option (Double × List Char) :=
  let (negative, cs) := signOf cs
  (floatBefore? cs).map fun (d, rest) =>
    (if negative then ⟨d.bits ||| 0x8000000000000000⟩ else d, rest)

/-- A text without the blanks around it and without underscores, which all have to stand between
digits. -/
def numberText? (cs : List Char) : Option (List Char) :=
  let cs := ((cs.dropWhile isAsciiBlank).reverse.dropWhile isAsciiBlank).reverse
  if underscoresFit Char.isDigit false cs then some (cs.filter (· ≠ '_')) else none

/-- Read a text as a float. -/
def readDouble (cs : List Char) : Option Double := do
  match ← signedFloatBefore? (← numberText? cs) with
  | (d, []) => some d
  | _ => none

/-- What is between the parentheses around a text; a text without them as it is. -/
def insideParentheses? : List Char → Option (List Char)
  | '(' :: rest =>
    match rest.reverse with
    | ')' :: inner => some ((inner.dropWhile isAsciiBlank).reverse.dropWhile isAsciiBlank)
    | _ => none
  | cs => some cs

/-- The unit at the end of an imaginary part, after a number or a sign alone. -/
def imaginaryPart? (cs : List Char) : Option Double := do
  let isUnit (cs : List Char) : Bool := cs = ['j'] || cs = ['J']
  match signedFloatBefore? cs with
  | some (d, rest) => if isUnit rest then some d else none
  | none =>
    let (negative, rest) := signOf cs
    if isUnit rest then some (if negative then Double.negOne else Double.one) else none

/-- Read a text as a complex number, by its parts: a real one, an imaginary one, or both. -/
def readComplex (cs : List Char) : Option Complex := do
  let cs ← insideParentheses? (← numberText? cs)
  match signedFloatBefore? cs with
  | some (re, []) => some ⟨re, Double.zero⟩
  | some (re, c :: rest) =>
    if c = '+' ∨ c = '-' then do some ⟨re, ← imaginaryPart? (c :: rest)⟩
    else do some ⟨Double.zero, ← imaginaryPart? cs⟩
  | none => do some ⟨Double.zero, ← imaginaryPart? cs⟩

/-! ## Integers -/

/-- An integer as an object of the plain class. -/
def plainInt (r : Obj) (i : Int) : Exec Obj := do
  if (← classOf r) = Builtin.int.obj then newRef r else newInt i

/-- The integer that a special method gave. -/
def intResult (r : Obj) : Exec Obj :=
  holding r do
    match ← intValue? r with
    | some i => plainInt r i
    | none => do
      let t ← typeName r
      throwNew .typeError ("__int__ returned non-int (type " ++ clip 200 t ++ ")")

/-- The integer that an object without its fraction is. -/
def truncatedResult (r : Obj) : Exec Obj :=
  holding r do
    match ← intValue? r with
    | some i => plainInt r i
    | none =>
      if (← scriptedMember? r "__index__").isSome then do
        let i ← asIndex r
        newInt i
      else do
        let t ← typeName r
        throwNew .typeError ("__trunc__ returned non-Integral (type " ++ clip 200 t ++ ")")

/-- The integer that bytes spell in a base. -/
def intFromBytes (base : Nat) (bs : List UInt8) : Exec Obj :=
  intFromText base (bs.map fun b => Char.ofNat b.toNat) (pointsOf (quotedBytes (bs.take 200)))

/-- An integer from an object that no script says how to convert: floats lose their fraction, texts
are read. -/
def intByBirth (o : Obj) : Exec Obj := do
  match ← payloadOf o with
  | .int i => plainInt o i
  | .bool b => newInt (if b then 1 else 0)
  | .float d =>
    if d.isNaN then throwNew .valueError "cannot convert float NaN to integer"
    else
      match d.truncate with
      | some i => newInt i
      | none => throwNew .overflowError "cannot convert float infinity to integer"
  | .str s => intFromText 10 (asciiNumber s) (quotedPoints s)
  | .bytes bs => intFromBytes 10 bs
  | _ => do
    let t ← typeName o
    throwNew .typeError ("int() argument must be a string, a bytes-like object or a real " ++
      "number, not '" ++ clip 200 t ++ "'")

/-- An object as an integer by conversion. -/
def convertInt (o : Obj) : Exec Obj := do
  match ← callSpecial o "__int__" [] with
  | some r => intResult r
  | none =>
    if (← scriptedMember? o "__index__").isSome then do
      let i ← asIndex o
      newInt i
    else
      match ← callSpecial o "__trunc__" [] with
      | some r => truncatedResult r
      | none => intByBirth o

/-! ## Floats -/

/-- The error for a text that is no float. -/
def badFloat {α : Type} (shown : Points) : Exec α :=
  throwPoints .valueError (pointsOf "could not convert string to float: " ++ shown)

/-- An object as a float by conversion. -/
def convertFloat (o : Obj) : Exec Obj := do
  let c ← cellOf o
  match c.payload with
  | .float d => if c.cls = Builtin.float.obj then newRef o else newFloat d
  | .int i => do newFloat (← floatOfInt i)
  | .bool b => newFloat (if b then Double.one else Double.zero)
  | .str s =>
    match readDouble (asciiNumber s) with
    | some d => newFloat d
    | none => badFloat (quotedPoints s)
  | .bytes bs =>
    match readDouble (bs.map fun b => Char.ofNat b.toNat) with
    | some d => newFloat d
    | none => badFloat (pointsOf (quotedBytes bs))
  | _ => do
    let converts := (← scriptedMember? o "__float__").isSome ||
      (← scriptedMember? o "__index__").isSome
    if converts then do newFloat (← asFloat o)
    else do
      let t ← typeName o
      throwNew .typeError
        ("float() argument must be a string or a real number, not '" ++ clip 200 t ++ "'")

/-! ## Texts -/

/-- An object as a text. -/
def convertStr (o : Obj) : Exec Obj := do
  if (← classOf o) = Builtin.str.obj then newRef o
  else do
    let s ← innerStr o
    newStr s

/-! ## Bytes -/

/-- The most bytes that there can be together. -/
def byteLimit : Int := 2 ^ 63 - 34

/-- Bytes that are zero. -/
def zeroBytes (n : Int) : Exec Obj :=
  if n < 0 then throwNew .valueError "negative count"
  else if byteLimit < n then throwNew .overflowError "byte string is too large"
  else do
    reserve (n / 8)
    newBytes (List.replicate n.toNat 0)

/-- A byte from an object, for an object of a class of byte strings. -/
def byteOf (cls : Builtin) (o : Obj) : Exec UInt8 := do
  let i ← asIndex o
  if 0 ≤ i ∧ i < 256 then pure (UInt8.ofNat i.toNat)
  else
    let what := if cls = .bytearray then "byte" else "bytes"
    throwNew .valueError (what ++ " must be in range(0, 256)")

/-- The bytes of the items of an object, for an object of a class of byte strings. -/
def bytesOfItems (cls : Builtin) (o : Obj) : Exec Obj := do
  let c ← cellOf o
  let direct : Option (List Obj) :=
    match c.payload with
    | .list slots => if c.cls = Builtin.list.obj then some (slotItems slots) else none
    | .tuple slots => if c.cls = Builtin.tuple.obj then some (slotItems slots) else none
    | _ => none
  match direct with
  | some items => do
    let bs ← items.mapM (byteOf cls)
    newBytes bs
  | none => do
    let refuse : Exec Obj := do
      let t ← typeName o
      throwNew .typeError ("cannot convert '" ++ clip 200 t ++ "' object to " ++ cls.name)
    let it ← recover (some <$> iteratorOf o) (raisedIs .typeError) (pure none)
    match it with
    | none => refuse
    | some it =>
      holding it do
        reserve ((← lengthHint? o).getD 64)
        let bs ← forEachFrom it
          (fun (acc : Array UInt8) x => do pure (acc.push (← byteOf cls x))) walkFuel #[]
        newBytes bs.toList

/-- As many zero bytes as an object counts, or the bytes of its items. -/
def countedBytes (cls : Builtin) (o : Obj) : Exec Obj := do
  let counts := (← intValue? o).isSome || (← scriptedMember? o "__index__").isSome
  if counts then do
    match ← recover (some <$> asSize o .overflowError) (raisedIs .typeError) (pure none) with
    | some n => zeroBytes n
    | none => bytesOfItems cls o
  else bytesOfItems cls o

/-- Bytes from an object: a count of zeros, a copy, or the bytes of its items. -/
def convertBytes (o : Obj) : Exec Obj := do
  match ← callSpecial o "__bytes__" [] with
  | some r => do
    match ← payloadOf r with
    | .bytes _ => pure r
    | _ => do
      let t ← typeName r
      release r
      throwNew .typeError ("__bytes__ returned non-bytes (type " ++ clip 200 t ++ ")")
  | none =>
    match ← payloadOf o with
    | .bytes _ => newRef o
    | .str _ => throwNew .typeError "string argument without an encoding"
    | _ => countedBytes .bytes o

end Embedder.Machine
