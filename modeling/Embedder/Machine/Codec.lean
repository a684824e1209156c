import Embedder.Machine.Members
import Embedder.Machine.Text
import Embedder.Text.Name

/-!
# Codecs

How texts become bytes and bytes become texts. A codec has names; what it cannot code is an error
or, where a handler for errors says so, something else in its place.
-/

namespace Embedder.Machine

/-- The order of the bytes of a unit. -/
inductive ByteOrder where
  | little
  | big
  deriving DecidableEq, Repr

/-- The bytes of a number of a width. -/
def ByteOrder.bytes (order : ByteOrder) (width n : Nat) : List UInt8 :=
  let rising := (List.range width).map fun i => (n / 256 ^ i).toUInt8
  match order with
  | .little => rising
  | .big => rising.reverse

/-- The number that bytes stand for. -/
def ByteOrder.number (order : ByteOrder) (bs : List UInt8) : Nat :=
  let falling := match order with
    | .little => bs.reverse
    | .big => bs
  falling.foldl (fun n b => n * 256 + b.toNat) 0

/-- A way of coding texts as bytes. Where units have more than one byte, a codec without an order
puts a mark in front that shows it. -/
inductive Codec where
  | utf8 (marked : Bool)
  | utf16 (order : Option ByteOrder)
  | utf32 (order : Option ByteOrder)
  | ascii
  | latin1
  deriving DecidableEq, Repr

/-- What is done about a part that cannot be coded. -/
inductive CodingHandler where
  | strict
  | ignore
  | replace
  | backslash
  /-- A character stands as a reference to its number. -/
  | reference
  /-- A character stands as its name. -/
  | named
  /-- Bytes that are no text stand in a text as surrogates. -/
  | escape
  /-- Surrogates are coded as if they were characters. -/
  | pass
  deriving DecidableEq, Repr

/-- The name of a codec in a plain form: lower-case letters and digits, with a low line for anything
between them; `gap` says that something else was read. -/
def plainName (gap : Bool) (done : List Char) : List Char → String
  | [] => String.ofList done.reverse
  | c :: rest =>
    if c.isAlphanum || c = '.' then
      let done := if gap && !done.isEmpty then '_' :: done else done
      plainName false (c.toLower :: done) rest
    else plainName true done rest

namespace Codec

/-- The addition to the name of a codec for an order. -/
def orderName : Option ByteOrder → String
  | none => ""
  | some .little => "-le"
  | some .big => "-be"

/-- The name that errors give to a codec. -/
def name : Codec → String
  | .utf8 _ => "utf-8"
  | .utf16 order => "utf-16" ++ orderName order
  | .utf32 order => "utf-32" ++ orderName order
  | .ascii => "ascii"
  | .latin1 => "latin-1"

/-- The names of the codecs in plain form. -/
def names : List (Codec × List String) := [
  (.utf8 false, words "utf_8 utf8 u8 utf utf8_ucs2 utf8_ucs4 cp65001"),
  (.utf8 true, words "utf_8_sig"),
  (.utf16 none, words "utf_16 utf16 u16"),
  (.utf16 (some .little), words "utf_16_le utf_16le unicodelittleunmarked"),
  (.utf16 (some .big), words "utf_16_be utf_16be unicodebigunmarked"),
  (.utf32 none, words "utf_32 utf32 u32"),
  (.utf32 (some .little), words "utf_32_le utf_32le"),
  (.utf32 (some .big), words "utf_32_be utf_32be"),
  (.ascii, words ("ascii us_ascii 646 us ansi_x3.4_1968 ansi_x3_4_1968 ansi_x3.4_1986 cp367 " ++
    "csascii ibm367 iso646_us iso_646.irv_1991 iso_ir_6")),
  (.latin1, words ("latin_1 latin1 iso_8859_1 iso8859_1 l1 latin 8859 cp819 iso8859 csisolatin1 " ++
    "ibm819 iso_8859_1_1987 iso_ir_100"))]

/-- The codec of a name. -/
def ofName? (name : String) : Option Codec :=
  let key := plainName false [] name.toList
  (names.find? fun e => key ∈ e.2).map (·.1)

/-- The names, in plain form, of the codecs that do not turn texts into bytes. -/
def otherNames : List String :=
  words ("base64_codec base64 base_64 bz2_codec bz2 hex_codec hex quopri_codec quopri " ++
    "quoted_printable quotedprintable rot_13 rot13 uu_codec uu zlib_codec zip zlib")

/-- Why a codec does not take a character. -/
def refusal : Codec → String
  | .ascii => "ordinal not in range(128)"
  | .latin1 => "ordinal not in range(256)"
  | _ => "surrogates not allowed"

/-- The bytes of a number that stands for a character, or for half of one. -/
def spell (c : Codec) (n : Nat) : List UInt8 :=
  match c with
  | .utf8 _ =>
    if isSurrogate n then
      [0xe0 + (n / 4096).toUInt8, 0x80 + (n / 64 % 64).toUInt8, 0x80 + (n % 64).toUInt8]
    else Utf8.bytes (hostText [n])
  | .utf16 order =>
    let order := order.getD .little
    if n < 0x10000 then order.bytes 2 n
    else
      order.bytes 2 (0xd800 + (n - 0x10000) / 0x400) ++ order.bytes 2 (0xdc00 + n % 0x400)
  | .utf32 order => (order.getD .little).bytes 4 n
  | .ascii | .latin1 => [n.toUInt8]

/-- Whether a codec takes a character. -/
def takes (c : Codec) (n : Nat) : Bool :=
  match c with
  | .ascii => n < 0x80
  | .latin1 => n < 0x100
  | _ => !isSurrogate n

/-- Whether a codec codes all of Unicode. -/
def isUniversal : Codec → Bool
  | .ascii | .latin1 => false
  | _ => true

/-- The number of bytes in a unit. -/
def unit : Codec → Nat
  | .utf16 _ => 2
  | .utf32 _ => 4
  | _ => 1

/-- The bytes in front of a text. -/
def mark : Codec → List UInt8
  | .utf8 true => [0xef, 0xbb, 0xbf]
  | .utf16 none => [0xff, 0xfe]
  | .utf32 none => [0xff, 0xfe, 0, 0]
  | _ => []

end Codec

/-- The handler of a name. -/
def codingHandler (name : Option Obj) : Exec CodingHandler := do
  match name with
  | none => pure .strict
  | some o => do
    let name ← contentsOf o
    match name with
    | "strict" => pure .strict
    | "ignore" => pure .ignore
    | "replace" => pure .replace
    | "backslashreplace" => pure .backslash
    | "xmlcharrefreplace" => pure .reference
    | "namereplace" => pure .named
    | "surrogateescape" => pure .escape
    | "surrogatepass" => pure .pass
    | _ => throwNew .lookupError ("unknown error handler name '" ++ name ++ "'")

/-- The names, in plain form, of the codecs that are at hand without a search for them. -/
def Codec.wellKnown : List String :=
  words "utf8 utf_8 utf16 utf_16 utf32 utf_32 ascii us_ascii latin1 latin_1 iso_8859_1 iso8859_1"

/-- Run a program in the name of a codec that was searched for: an exception that holds nothing but
a text is the cause of another one, which names the codec. -/
def inCodec {α : Type} (job name : String) (x : Exec α) : Exec α := do
  match ← Exec.outcome x with
  | .ok a => pure a
  | .error r => do
    let cls ← builtinOf r.value
    if cls = .lookupError ∨ cls = .typeError then do
      let told ← innerStr r.value
      let text ← newStr (pointsOf (job ++ " with '" ++ name ++ "' codec failed (" ++ cls.name ++
        ": ") ++ told ++ pointsOf ")")
      let args ← newTupleOf [text]
      let e ← alloc cls.obj (.error ⟨args, [], some r.value, none, []⟩) []
      throw ⟨e, []⟩
    else throw r

/-- Run a program with the codec that an object names. `job` is what the codec is to do, `verb` the
function that does the same with any codec. -/
def withCodec {α : Type} (job verb : String) (o : Obj) (x : Codec → Exec α) : Exec α := do
  let name ← contentsOf o
  let key := plainName false [] name.toList
  match Codec.ofName? name with
  | some c => if key ∈ Codec.wellKnown then x c else inCodec job name (x c)
  | none =>
    if key ∈ Codec.otherNames then
      throwNew .lookupError ("'" ++ name ++ "' is not a text encoding; use codecs." ++ verb ++
        "() to handle arbitrary codecs")
    else throwNew .lookupError ("unknown encoding: " ++ name)

/-! ## From texts to bytes -/

/-- The number of characters at the front of a text that an error reports together. Codecs with
larger units report each alone. -/
def Codec.refused (c : Codec) (s : Points) : Nat :=
  if c.unit = 1 then (s.takeWhile fun n => !c.takes n).length else 1

/-- The bytes that a handler has for the first character of a text, or nothing where it refuses. -/
def CodingHandler.spell (h : CodingHandler) (c : Codec) (n : Nat) : Option (List UInt8) :=
  let plain (s : String) : List UInt8 := s.toList.flatMap fun d => c.spell d.toNat
  match h with
  | .strict => none
  | .ignore => some []
  | .replace => some (plain "?")
  | .backslash => some (plain (String.ofList (escapedPoint n)))
  | .reference => some (plain s!"&#{n};")
  | .named =>
    match Text.characterName? n with
    | some name => some (plain ("\\N\x7b" ++ name ++ "\x7d"))
    | none => some (plain (String.ofList (escapedPoint n)))
  | .escape => if c.unit = 1 ∧ 0xdc80 ≤ n ∧ n ≤ 0xdcff then some [(n - 0xdc00).toUInt8] else none
  | .pass => if c.isUniversal then some (c.spell n) else none

/-- The bytes of a text from the character with an index on, after those of the text before it. The
handler is asked for only when there is something to handle. -/
def encodeFrom (c : Codec) (handler : Option Obj) (o : Obj) :
    (i : Nat) → (done : Array UInt8) → Points → Exec (Array UInt8)
  | _, done, [] => pure done
  | i, done, n :: rest => do
    if c.takes n then encodeFrom c handler o (i + 1) (done ++ c.spell n) rest
    else do
      match (← codingHandler handler).spell c n with
      | some bs => encodeFrom c handler o (i + 1) (done ++ bs) rest
      | none => throwCoding .unicodeEncodeError c.name o i (i + c.refused (n :: rest)) c.refusal

/-- The bytes of a text object. -/
def encodeText (encoding : Obj) (handler : Option Obj) (o : Obj) (s : Points) : Exec Obj := do
  withCodec "encoding" "encode" encoding fun c => do
    let bs ← encodeFrom c handler o 0 c.mark.toArray s
    newBytes bs.toList

/-! ## From bytes to texts -/

/-- A character, or a number of bytes that are none and why. -/
abbrev Decoded := Except (Nat × String) Nat

namespace Codec

/-- What stands at the front of two-byte units. -/
def frontOfPairs (order : ByteOrder) (bs : List UInt8) : Decoded × List UInt8 :=
  let first := order.number (bs.take 2)
  let rest := bs.drop 2
  let second := order.number (rest.take 2)
  if bs.length < 2 then (.error (bs.length, "truncated data"), [])
  else if !isSurrogate first then (.ok first, rest)
  else if 0xdc00 ≤ first then (.error (2, "illegal encoding"), rest)
  else if rest.length < 2 then (.error (bs.length, "unexpected end of data"), [])
  else if 0xdc00 ≤ second ∧ second ≤ 0xdfff then
    (.ok (0x10000 + (first - 0xd800) * 0x400 + (second - 0xdc00)), rest.drop 2)
  else (.error (2, "illegal UTF-16 surrogate"), rest)

/-- What stands at the front of four-byte units. -/
def frontOfQuads (order : ByteOrder) (bs : List UInt8) : Decoded × List UInt8 :=
  let n := order.number (bs.take 4)
  let rest := bs.drop 4
  if bs.length < 4 then (.error (bs.length, "truncated data"), [])
  else if isSurrogate n then
    (.error (4, "code point in surrogate code point range"), rest)
  else if 0x110000 ≤ n then (.error (4, "code point not in range(0x110000)"), rest)
  else (.ok n, rest)

/-- What stands at the front of bytes, and the bytes after it. -/
def front (c : Codec) (b : UInt8) (rest : List UInt8) : Decoded × List UInt8 :=
  match c with
  | .latin1 => (.ok b.toNat, rest)
  | .ascii => (if b < 0x80 then .ok b.toNat else .error (1, c.refusal), rest)
  | .utf16 order => frontOfPairs (order.getD .little) (b :: rest)
  | .utf32 order => frontOfQuads (order.getD .little) (b :: rest)
  | .utf8 _ =>
    match Utf8.next b rest with
    | .char d rest => (.ok d.toNat, rest)
    | .bad n rest =>
      let starts := 0xc2 ≤ b && b ≤ 0xf4
      (.error (n, if starts then "invalid continuation byte" else "invalid start byte"), rest)
    | .cut => (.error (rest.length + 1, "unexpected end of data"), [])

/-- The codec with the order that a mark in front shows, and the number of bytes of the mark. -/
def marked (c : Codec) (bs : List UInt8) : Codec × Nat :=
  match c, bs with
  | .utf8 true, 0xef :: 0xbb :: 0xbf :: _ => (.utf8 true, 3)
  | .utf16 none, 0xff :: 0xfe :: _ => (.utf16 (some .little), 2)
  | .utf16 none, 0xfe :: 0xff :: _ => (.utf16 (some .big), 2)
  | .utf16 none, _ => (.utf16 (some .little), 0)
  | .utf32 none, 0xff :: 0xfe :: 0 :: 0 :: _ => (.utf32 (some .little), 4)
  | .utf32 none, 0 :: 0 :: 0xfe :: 0xff :: _ => (.utf32 (some .big), 4)
  | .utf32 none, _ => (.utf32 (some .little), 0)
  | c, _ => (c, 0)

/-- The surrogate at the front of bytes, if there is one, and the number of its bytes. -/
def surrogateFront? (c : Codec) (bs : List UInt8) : Option (Nat × Nat) :=
  let found (n size : Nat) : Option (Nat × Nat) :=
    if size ≤ bs.length ∧ isSurrogate n then some (n, size) else none
  match c with
  | .utf8 _ =>
    match bs with
    | 0xed :: b₁ :: b₂ :: _ =>
      if Utf8.isContinuation b₁ && Utf8.isContinuation b₂ then
        found ((0xd * 64 + Utf8.payload b₁) * 64 + Utf8.payload b₂) 3
      else none
    | _ => none
  | .utf16 order => found ((order.getD .little).number (bs.take 2)) 2
  | .utf32 order => found ((order.getD .little).number (bs.take 4)) 4
  | _ => none

end Codec

/-- What a handler has for bytes at the front that are no character, `bad` of them, and the number
of bytes that it takes; or nothing where it refuses. -/
def CodingHandler.read (h : CodingHandler) (c : Codec) (bad : Nat) (bs : List UInt8) :
    Option (Points × Nat) :=
  match h with
  | .ignore => some ([], bad)
  | .replace => some ([0xfffd], bad)
  | .backslash =>
    some ((bs.take bad).flatMap fun b => pointsOf ("\\x" ++ String.ofList (hexOf 2 b.toNat)), bad)
  | .escape =>
    let escaped := (bs.take (min bad 4)).takeWhile (0x80 ≤ ·)
    if escaped.isEmpty then none
    else some (escaped.map fun b => 0xdc00 + b.toNat, escaped.length)
  | .pass => (c.surrogateFront? bs).map fun (n, size) => ([n], size)
  | _ => none

/-- The text of bytes from the byte with an index on, after the text before it; `fuel` bounds the
number of bytes. -/
def decodeFrom (c : Codec) (handler : Option Obj) (o : Obj) :
    (fuel i : Nat) → (done : Array Nat) → List UInt8 → Exec (Array Nat)
  | 0, _, done, _ => pure done
  | _, _, done, [] => pure done
  | fuel + 1, i, done, b :: rest => do
    let (found, after) := c.front b rest
    match found with
    | .ok n =>
      decodeFrom c handler o fuel (i + (rest.length + 1 - after.length)) (done.push n) after
    | .error (bad, reason) => do
      let h ← codingHandler handler
      if h = .reference ∨ h = .named then
        throwNew .typeError "don't know how to handle UnicodeDecodeError in error callback"
      match h.read c bad (b :: rest) with
      | some (points, size) =>
        decodeFrom c handler o fuel (i + size) (done ++ points) ((b :: rest).drop size)
      | none => throwCoding .unicodeDecodeError c.name o i (i + bad) reason

/-- The text of bytes as an object. Without bytes nobody asks for the codec. -/
def decodeBytes (encoding : Obj) (handler : Option Obj) (o : Obj) (bs : List UInt8) : Exec Obj := do
  if bs.isEmpty then pure emptyStr
  else
    withCodec "decoding" "decode" encoding fun codec => do
      let (c, skipped) := codec.marked bs
      let rest := bs.drop skipped
      let decode (o : Obj) (first : Nat) : Exec Obj := do
        let s ← decodeFrom c handler o bs.length first #[] rest
        newStr s.toList
      if c.unit = 1 ∧ skipped ≠ 0 then do
        let part ← newBytes rest
        holding part (decode part 0)
      else decode o skipped

end Embedder.Machine
