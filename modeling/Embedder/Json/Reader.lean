import Embedder.Json.Fault

/-!
# Reading JSON tokens

Readers take a value off the front of a text and return what is left, which is never longer than
what they were given. `skipValue` passes over a value of any kind without building it: it keeps the
brackets it is inside of on a stack, so nesting has no limit.
-/

namespace Embedder.Json

/-- A value read off the front of `s`, and the rest of it. -/
structure Read (α : Type) (s : List Char) where
  value : α
  rest : List Char
  length_le : rest.length ≤ s.length

/-- The outcome of reading. -/
abbrev Reading (α : Type) (s : List Char) := Except Located (Read α s)

namespace Read

variable {α β : Type} {s t : List Char}

/-- The same for a longer text. -/
def widen (r : Read α s) (h : s.length ≤ t.length) : Read α t :=
  ⟨r.value, r.rest, Nat.le_trans r.length_le h⟩

/-- Nothing is read. -/
def nothing (s : List Char) : Read Unit s := ⟨(), s, Nat.le_refl _⟩

end Read

namespace Reading

variable {α β : Type} {s t : List Char}

/-- The same for a longer text. -/
def widen (h : s.length ≤ t.length) : Reading α s → Reading α t
  | .ok r => .ok (r.widen h)
  | .error e => .error e

/-- Reads on where the first reading stopped. -/
def andThen (x : Reading α s) (f : (r : Read α s) → Reading β r.rest) : Reading β s :=
  match x with
  | .error e => .error e
  | .ok r => (f r).widen r.length_le

/-- Changes the value read. -/
def map (f : α → β) : Reading α s → Reading β s
  | .error e => .error e
  | .ok r => .ok ⟨f r.value, r.rest, r.length_le⟩

end Reading

/-- Whether a character may stand between tokens. -/
def isSpace (c : Char) : Bool := c = ' ' || c = '\n' || c = '\t' || c = '\r'

theorem length_dropWhile_le (p : Char → Bool) (s : List Char) :
    (s.dropWhile p).length ≤ s.length := by
  induction s with
  | nil => exact Nat.le_refl _
  | cons c s ih =>
    rw [List.dropWhile_cons]
    split
    · exact Nat.le_succ_of_le ih
    · exact Nat.le_refl _

/-- The text from its first token on. -/
def skipSpace (s : List Char) : List Char := s.dropWhile isSpace

/-- The rest after a first token is shorter than the text. -/
theorem length_lt_of_skipSpace {s r : List Char} {c : Char} (h : skipSpace s = c :: r) :
    r.length < s.length := by
  have := length_dropWhile_le isSpace s
  rw [← skipSpace, h] at this
  exact this

theorem length_le_of_skipSpace {s r : List Char} {c : Char} (h : skipSpace s = c :: r) :
    r.length ≤ s.length :=
  Nat.le_of_lt (length_lt_of_skipSpace h)

/-- Reads the letters of a word that has begun. -/
def readWord : List Char → (s : List Char) → Reading Unit s
  | [], s => .ok (Read.nothing s)
  | _ :: _, [] => .error (Fault.endInValue.before [])
  | w :: ws, c :: s =>
    if c = w then (readWord ws s).widen (by simp)
    else .error (Fault.expectedIdent.on (c :: s))

/-! ## Strings -/

/-- The value of a hexadecimal digit. -/
def hexValue? (c : Char) : Option Nat :=
  if '0' ≤ c ∧ c ≤ '9' then some (c.toNat - '0'.toNat)
  else if 'a' ≤ c ∧ c ≤ 'f' then some (c.toNat - 'a'.toNat + 10)
  else if 'A' ≤ c ∧ c ≤ 'F' then some (c.toNat - 'A'.toNat + 10)
  else none

/-- The fault of a text that does not start with four hexadecimal digits. -/
def badHex (s : List Char) : Located :=
  if byteLength (s.take 4) < 4 then Fault.endInString.before []
  else ⟨.invalidEscape, s, 4⟩

/-- Reads four hexadecimal digits. -/
def readHex (s : List Char) : Reading Nat s :=
  match s with
  | a :: b :: c :: d :: r =>
    match hexValue? a, hexValue? b, hexValue? c, hexValue? d with
    | some x, some y, some z, some w =>
      .ok ⟨((x * 16 + y) * 16 + z) * 16 + w, r, by simp; omega⟩
    | _, _, _, _ => .error (badHex s)
  | _ => .error (badHex s)

/-- The first half of a character beyond the basic plane. -/
def isHighHalf (n : Nat) : Bool := 0xd800 ≤ n && n ≤ 0xdbff

/-- The second half of a character beyond the basic plane. -/
def isLowHalf (n : Nat) : Bool := 0xdc00 ≤ n && n ≤ 0xdfff

/-- The character made of two halves. -/
def joinHalves (high low : Nat) : Char :=
  Char.ofNat ((high - 0xd800) * 1024 + (low - 0xdc00) + 0x10000)

/-- Reads the escape of a second half, up to its digits. -/
def readHalfEscape (s : List Char) : Reading Unit s :=
  match s with
  | [] => .error (Fault.endInString.before [])
  | c :: r =>
    if c ≠ '\\' then .error (Fault.endOfHexEscape.on s)
    else
      match r with
      | [] => .error (Fault.endInString.before [])
      | d :: r' =>
        if d ≠ 'u' then .error (Fault.endOfHexEscape.on r) else .ok ⟨(), r', by simp; omega⟩

/-- Reads what follows the first half of a character. -/
def readLowHalf (high : Nat) (s : List Char) : Reading Char s :=
  (readHalfEscape s).andThen fun e =>
    (readHex e.rest).andThen fun low =>
      if isLowHalf low.value then .ok ⟨joinHalves high low.value, low.rest, Nat.le_refl _⟩
      else .error (Fault.loneSurrogate.before low.rest)

/-- The character that a one-letter escape stands for. -/
def shortEscape? (c : Char) : Option Char :=
  match c with
  | '"' => some '"'
  | '\\' => some '\\'
  | '/' => some '/'
  | 'b' => some '\x08'
  | 'f' => some '\x0c'
  | 'n' => some '\n'
  | 'r' => some '\r'
  | 't' => some '\t'
  | _ => none

/-- Reads an escape after its backslash. -/
def readEscape (s : List Char) : Reading Char s :=
  match s with
  | [] => .error (Fault.endInString.before [])
  | c :: r =>
    if c = 'u' then
      ((readHex r).andThen fun n =>
        if isLowHalf n.value then .error (Fault.loneSurrogate.before n.rest)
        else if isHighHalf n.value then readLowHalf n.value n.rest
        else .ok ⟨Char.ofNat n.value, n.rest, Nat.le_refl _⟩).widen (by simp)
    else
      match shortEscape? c with
      | some x => .ok ⟨x, r, by simp⟩
      | none => .error (Fault.invalidEscape.on s)

/-- Reads a string after its opening quote. -/
def readString (s : List Char) : Reading (List Char) s :=
  match s with
  | [] => .error (Fault.endInString.before [])
  | c :: r =>
    if c = '"' then .ok ⟨[], r, by simp⟩
    else if c = '\\' then
      ((readEscape r).andThen fun x => (readString x.rest).map (x.value :: ·)).widen (by simp)
    else if c < ' ' then .error (Fault.controlCharacter.before r)
    else ((readString r).map (c :: ·)).widen (by simp)
termination_by s.length
decreasing_by
  · have := x.length_le; simp; omega
  · simp

/-! ## Numbers -/

/-- A number as it is written. -/
inductive Number where
  | integer (i : Int)
  | float (d : Double)
  deriving DecidableEq, Repr

def Number.found : Number → Found
  | .integer i => .integer i
  | .float d => .float d

def isDigit (c : Char) : Bool := '0' ≤ c && c ≤ '9'

def digitValue (c : Char) : Nat := c.toNat - '0'.toNat

/-- The digits at the front of a text, and the rest. -/
def digits (s : List Char) : List Char × List Char := (s.takeWhile isDigit, s.dropWhile isDigit)

/-- The first number that does not fit a machine word. -/
def wordLimit : Nat := 2 ^ 64

/-- Extends a significand by digits until the next one would not fit; also the digits left. -/
def absorb (m : Nat) : List Char → Nat × List Char
  | [] => (m, [])
  | c :: cs =>
    if wordLimit ≤ m * 10 + digitValue c then (m, c :: cs)
    else absorb (m * 10 + digitValue c) cs

/-- `m · 10 ^ e`, in steps that each round once; `none` if it is too large. `fuel` bounds the steps
down: after three the product is zero. -/
def scale (fuel : Nat) (x : Double) (e : Int) : Option Double :=
  let power (n : Nat) : Double := (Double.ofInt? (10 ^ n)).getD Double.zero
  if e.natAbs ≤ 308 then
    if 0 ≤ e then
      let y := x.mul (power e.natAbs)
      if y.isInfinite then none else some y
    else some (x.div (power e.natAbs))
  else if x = Double.zero then some x
  else if 0 ≤ e then none
  else
    match fuel with
    | 0 => some Double.zero
    | fuel + 1 => scale fuel (x.div (power 308)) (e + 308)

/-- The float `± m · 10 ^ e`, if it is not too large. -/
def floatOf? (negative : Bool) (m : Nat) (e : Int) : Option Double :=
  (scale 16 ((Double.ofInt? m).getD Double.zero) e).map fun d =>
    if negative then ⟨d.bits ^^^ 0x8000000000000000⟩ else d

/-- The float `± m · 10 ^ e` before `rest`. -/
def floatBefore (negative : Bool) (m : Nat) (e : Int) (rest : List Char) :
    Except Located (Number × List Char) :=
  match floatOf? negative m e with
  | some d => .ok (.float d, rest)
  | none => .error (Fault.numberOutOfRange.before rest)

/-- The exponents that a 32-bit word holds. -/
def exponentLimit : Nat := 2 ^ 31

/-- Reads the digits of an exponent of the value `n` so far. A too large exponent ends the number:
it is zero or out of range. -/
def readExponentDigits (negative : Bool) (m : Nat) (e : Int) (down : Bool) :
    Nat → List Char → Except Located (Number × List Char)
  | n, [] => floatBefore negative m (if down then e - n else e + n) []
  | n, c :: s =>
    if isDigit c then
      if exponentLimit ≤ n * 10 + digitValue c then
        if m ≠ 0 ∧ !down then .error (Fault.numberOutOfRange.before s)
        else .ok (.float ⟨if negative then 0x8000000000000000 else 0⟩, s.dropWhile isDigit)
      else readExponentDigits negative m e down (n * 10 + digitValue c) s
    else floatBefore negative m (if down then e - n else e + n) (c :: s)

/-- Reads an exponent after its letter. -/
def readExponent (negative : Bool) (m : Nat) (e : Int) (s : List Char) :
    Except Located (Number × List Char) :=
  let down := s.head? = some '-'
  let s := match s with
    | '+' :: r => r
    | '-' :: r => r
    | _ => s
  match s with
  | [] => .error (Fault.endInValue.before [])
  | c :: r =>
    if isDigit c then readExponentDigits negative m e down (digitValue c) r
    else .error (Fault.invalidNumber.on s)

/-- Reads the fraction of a number after its point. -/
def readFraction (negative : Bool) (m : Nat) (e : Int) (s : List Char) :
    Except Located (Number × List Char) :=
  match digits s with
  | ([], []) => .error (Fault.endInValue.on [])
  | ([], r) => .error (Fault.invalidNumber.on r)
  | (ds, r) =>
    let (m', left) := absorb m ds
    let e' : Int := e - (ds.length - left.length : Nat)
    match r with
    | c :: r' => if c = 'e' ∨ c = 'E' then readExponent negative m' e' r'
        else floatBefore negative m' e' r
    | [] => floatBefore negative m' e' r

/-- Reads a number after its sign. -/
def readNumber (negative : Bool) (s : List Char) : Except Located (Number × List Char) :=
  match s with
  | [] => .error (Fault.endInValue.before [])
  | c :: r =>
    if !isDigit c then .error (Fault.invalidNumber.on s)
    else if c = '0' ∧ (r.head?.any isDigit) then .error (Fault.invalidNumber.on r)
    else
      let (ds, r) := digits s
      let (m, left) := absorb 0 ds
      let e : Int := (left.length : Nat)
      match r with
      | '.' :: r' => readFraction negative m e r'
      | 'e' :: r' => readExponent negative m e r'
      | 'E' :: r' => readExponent negative m e r'
      | _ =>
        if left ≠ [] then floatBefore negative m e r
        else if !negative then .ok (.integer m, r)
        else if m = 0 ∨ 2 ^ 63 < m then floatBefore true m 0 r
        else .ok (.integer (-(m : Int)), r)

/-! ## Passing over values -/

/-- Passes over digits. -/
def skipDigits (s : List Char) : Read Unit s :=
  ⟨(), s.dropWhile isDigit, length_dropWhile_le isDigit s⟩

/-- Passes over the digits of an exponent: at least one. -/
def skipExponentDigits (s : List Char) : Reading Unit s :=
  match s with
  | [] => .error (Fault.invalidNumber.before [])
  | c :: r =>
    if isDigit c then .ok ((skipDigits r).widen (by simp)) else .error (Fault.invalidNumber.on s)

/-- Passes over an exponent, if one begins. -/
def skipExponent (s : List Char) : Reading Unit s :=
  match s with
  | [] => .ok (Read.nothing [])
  | c :: r =>
    if c = 'e' ∨ c = 'E' then
      match r with
      | [] => (skipExponentDigits []).widen (by simp)
      | d :: r' =>
        if d = '+' ∨ d = '-' then (skipExponentDigits r').widen (by simp; omega)
        else (skipExponentDigits (d :: r')).widen (by simp)
    else .ok (Read.nothing _)

/-- Passes over a fraction and an exponent, if they begin. -/
def skipFraction (s : List Char) : Reading Unit s :=
  match s with
  | [] => .ok (Read.nothing [])
  | c :: r =>
    if c = '.' then
      if r.head?.any isDigit then
        ((skipExponent (skipDigits r).rest).widen (skipDigits r).length_le).widen (by simp)
      else .error (Fault.invalidNumber.on r)
    else skipExponent (c :: r)

/-- Passes over a number after its sign. -/
def skipNumber (s : List Char) : Reading Unit s :=
  match s with
  | [] => .error (Fault.invalidNumber.before [])
  | c :: r =>
    if !isDigit c then .error (Fault.invalidNumber.on s)
    else if c = '0' then
      if r.head?.any isDigit then .error (Fault.invalidNumber.on r)
      else (skipFraction r).widen (by simp)
    else ((skipFraction (skipDigits r).rest).widen (skipDigits r).length_le).widen (by simp)

/-- Passes over an escape after its backslash. It need not name a character. -/
def skipEscape (s : List Char) : Reading Unit s :=
  match s with
  | [] => .error (Fault.endInString.before [])
  | c :: r =>
    if c = 'u' then ((readHex r).map fun _ => ()).widen (by simp)
    else if (shortEscape? c).isSome then .ok ⟨(), r, by simp⟩
    else .error (Fault.invalidEscape.on s)

/-- Passes over a string after its opening quote. -/
def skipString (s : List Char) : Reading Unit s :=
  match s with
  | [] => .error (Fault.endInString.before [])
  | c :: r =>
    if c = '"' then .ok ⟨(), r, by simp⟩
    else if c = '\\' then ((skipEscape r).andThen fun x => skipString x.rest).widen (by simp)
    else if c < ' ' then .error (Fault.controlCharacter.before s)
    else (skipString r).widen (by simp)
termination_by s.length
decreasing_by
  · have := x.length_le; simp; omega
  · simp

/-- The kinds of brackets. -/
inductive Bracket where
  | list
  | object
  deriving DecidableEq, Repr

/-- The character that closes a bracket. -/
def Bracket.closer : Bracket → Char
  | .list => ']'
  | .object => '\x7d'

/-- The fault of a text that ends inside a bracket. -/
def Bracket.unclosed : Bracket → Fault
  | .list => .endInList
  | .object => .endInObject

/-- The fault of an element that is followed by neither a comma nor the end. -/
def Bracket.expectedCommaOrEnd : Bracket → Fault
  | .list => .expectedListCommaOrEnd
  | .object => .expectedObjectCommaOrEnd

/-- Reads the colon after a key. -/
def readColon (s : List Char) : Reading Unit s :=
  match h : skipSpace s with
  | [] => .error (Fault.endInObject.on [])
  | c :: r =>
    if c = ':' then .ok ⟨(), r, length_le_of_skipSpace h⟩
    else .error (Fault.expectedColon.on (c :: r))

/-- Passes over what stands before an element: nothing in a list, a key and its colon in an
object. -/
def skipKey (b : Bracket) (s : List Char) : Reading Unit s :=
  match b with
  | .list => .ok (Read.nothing s)
  | .object =>
    match h : skipSpace s with
    | [] => .error (Fault.endInObject.on [])
    | c :: r =>
      if c = '"' then
        ((skipString r).andThen fun k => readColon k.rest).widen
          (length_le_of_skipSpace h)
      else .error (Fault.keyMustBeString.on (c :: r))

/-- Passes over a value without parts: a word, a number or a string. -/
def skipAtom (s : List Char) : Reading Unit s :=
  match s with
  | [] => .error (Fault.endInValue.on [])
  | c :: r =>
    if c = 'n' then (readWord ['u', 'l', 'l'] r).widen (by simp)
    else if c = 't' then (readWord ['r', 'u', 'e'] r).widen (by simp)
    else if c = 'f' then (readWord ['a', 'l', 's', 'e'] r).widen (by simp)
    else if c = '"' then (skipString r).widen (by simp)
    else if c = '-' then (skipNumber r).widen (by simp)
    else if isDigit c then skipNumber (c :: r)
    else .error (Fault.expectedValue.on (c :: r))

mutual

/-- Passes over one value, which stands inside the brackets `stack`, the innermost first, and over
what remains of them. -/
def skipValue (stack : List Bracket) (s : List Char) : Reading Unit s :=
  match h : skipSpace s with
  | [] => .error (Fault.endInValue.on [])
  | c :: r =>
    have hr := length_lt_of_skipSpace h
    if c = '[' then (skipInside .list stack r).widen (Nat.le_of_lt hr)
    else if c = '\x7b' then (skipInside .object stack r).widen (Nat.le_of_lt hr)
    else Reading.widen (s := c :: r) hr ((skipAtom (c :: r)).andThen fun a => skipRest stack a.rest)
termination_by (s.length, 1)
decreasing_by
  · exact Prod.Lex.left _ _ hr
  · exact Prod.Lex.left _ _ hr
  · have := a.length_le
    rcases Nat.lt_or_eq_of_le (Nat.le_trans this hr) with h | h
    · exact Prod.Lex.left _ _ h
    · rw [h]; exact Prod.Lex.right _ (by decide)

/-- Passes over a list or an object after its opening bracket, and over what remains of the
brackets it stands inside of. -/
def skipInside (b : Bracket) (stack : List Bracket) (s : List Char) : Reading Unit s :=
  match h : skipSpace s with
  | [] => .error (b.unclosed.on [])
  | c :: r =>
    have hr := length_lt_of_skipSpace h
    if c = b.closer then (skipRest stack r).widen (Nat.le_of_lt hr)
    else skipElement b stack s
termination_by (s.length, 3)
decreasing_by
  · exact Prod.Lex.left _ _ hr
  · exact Prod.Lex.right _ (by decide)

/-- Passes over what remains of the brackets `stack` after an element of the innermost. -/
def skipRest (stack : List Bracket) (s : List Char) : Reading Unit s :=
  match stack with
  | [] => .ok (Read.nothing s)
  | b :: stack =>
    match h : skipSpace s with
    | [] => .error (b.unclosed.on [])
    | c :: r =>
      have hr := length_lt_of_skipSpace h
      if c = ',' then (skipElement b stack r).widen (Nat.le_of_lt hr)
      else if c = b.closer then (skipRest stack r).widen (Nat.le_of_lt hr)
      else .error (b.expectedCommaOrEnd.on (c :: r))
termination_by (s.length, 0)
decreasing_by
  · exact Prod.Lex.left _ _ hr
  · exact Prod.Lex.left _ _ hr

/-- Passes over an element of a bracket, and over what remains of the bracket and of those around
it. -/
def skipElement (b : Bracket) (stack : List Bracket) (s : List Char) : Reading Unit s :=
  (skipKey b s).andThen fun k => skipValue (b :: stack) k.rest
termination_by (s.length, 2)
decreasing_by
  have := k.length_le
  rcases Nat.lt_or_eq_of_le this with h | h
  · exact Prod.Lex.left _ _ h
  · rw [h]; exact Prod.Lex.right _ (by decide)

end

end Embedder.Json
