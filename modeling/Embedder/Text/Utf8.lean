/-!
# UTF-8 read from bytes

`Utf8.next` takes the first character off a byte string, or says how many bytes at its front belong
to no character. Built on it are `Utf8.fault?`, which says where a byte string stops being UTF-8 and
how, and `Utf8.lossy`, which replaces each such run of bytes by one replacement character. Text that
is UTF-8 throughout is `Utf8.text?`.
-/

namespace Embedder.Utf8

/-- What stands at the front of a byte string that is not empty. -/
inductive Front where
  /-- One character, and the bytes after it. -/
  | char (c : Char) (rest : List UInt8)
  /-- Some bytes (one to three) that belong to no character, and the bytes after them. -/
  | bad (length : Nat) (rest : List UInt8)
  /-- The byte string ends inside a character. -/
  | cut
  deriving Repr

/-- Whether a byte continues a character. -/
def isContinuation (b : UInt8) : Bool := 0x80 ≤ b && b ≤ 0xbf

/-- The six bits that a continuing byte carries. -/
def payload (b : UInt8) : Nat := b.toNat % 64

/-- The bytes that may follow a first byte `b` of a character of three or more bytes: shorter
spellings, surrogates and numbers beyond the last code point are ruled out by the second byte. -/
def secondOk (b second : UInt8) : Bool :=
  if b == 0xe0 then 0xa0 ≤ second && second ≤ 0xbf
  else if b == 0xed then 0x80 ≤ second && second ≤ 0x9f
  else if b == 0xf0 then 0x90 ≤ second && second ≤ 0xbf
  else if b == 0xf4 then 0x80 ≤ second && second ≤ 0x8f
  else isContinuation second

/-- The character that starts with the byte `b`, or the extent of the fault there. -/
def next (b : UInt8) (rest : List UInt8) : Front :=
  if b < 0x80 then .char (Char.ofNat b.toNat) rest
  else if 0xc2 ≤ b && b ≤ 0xdf then
    match rest with
    | [] => .cut
    | b₁ :: r =>
      if isContinuation b₁ then .char (Char.ofNat ((b.toNat % 32) * 64 + payload b₁)) r
      else .bad 1 rest
  else if 0xe0 ≤ b && b ≤ 0xef then
    match rest with
    | [] => .cut
    | b₁ :: r₁ =>
      if secondOk b b₁ then
        match r₁ with
        | [] => .cut
        | b₂ :: r =>
          if isContinuation b₂ then
            .char (Char.ofNat (((b.toNat % 16) * 64 + payload b₁) * 64 + payload b₂)) r
          else .bad 2 r₁
      else .bad 1 rest
  else if 0xf0 ≤ b && b ≤ 0xf4 then
    match rest with
    | [] => .cut
    | b₁ :: r₁ =>
      if secondOk b b₁ then
        match r₁ with
        | [] => .cut
        | b₂ :: r₂ =>
          if isContinuation b₂ then
            match r₂ with
            | [] => .cut
            | b₃ :: r =>
              if isContinuation b₃ then
                .char (Char.ofNat
                  ((((b.toNat % 8) * 64 + payload b₁) * 64 + payload b₂) * 64 + payload b₃)) r
              else .bad 3 r₂
          else .bad 2 r₁
      else .bad 1 rest
  else .bad 1 rest

/-- Where a byte string stops being UTF-8: the number of good bytes before the fault, and how many
bytes the fault spans, or `none` if the bytes end inside a character. -/
structure Fault where
  validUpTo : Nat
  badLength : Option Nat
  deriving DecidableEq, Repr

/-- The wording of a fault. -/
def Fault.message (f : Fault) : String :=
  match f.badLength with
  | some n => s!"invalid utf-8 sequence of {n} bytes from index {f.validUpTo}"
  | none => s!"incomplete utf-8 byte sequence from index {f.validUpTo}"

/-- The first fault of `bytes`, which stand `offset` bytes into the whole; `fuel` bounds the number
of characters. -/
def faultFrom : Nat → Nat → List UInt8 → Option Fault
  | 0, _, _ => none
  | _, _, [] => none
  | fuel + 1, offset, b :: rest =>
    match next b rest with
    | .char _ r => faultFrom fuel (offset + ((b :: rest).length - r.length)) r
    | .bad n _ => some ⟨offset, some n⟩
    | .cut => some ⟨offset, none⟩

/-- The first fault of a byte string, if it is not UTF-8. -/
def fault? (bytes : List UInt8) : Option Fault := faultFrom bytes.length 0 bytes

/-- The characters of `bytes`, with one replacement character for each fault; `fuel` bounds their
number. -/
def lossyFrom : Nat → List UInt8 → List Char
  | 0, _ => []
  | _, [] => []
  | fuel + 1, b :: rest =>
    match next b rest with
    | .char c r => c :: lossyFrom fuel r
    | .bad _ r => '\ufffd' :: lossyFrom fuel r
    | .cut => ['\ufffd']

/-- The text of a byte string, each fault replaced by one replacement character. -/
def lossy (bytes : List UInt8) : String := String.ofList (lossyFrom bytes.length bytes)

/-- The text of a byte string that is UTF-8 throughout. -/
def text? (bytes : List UInt8) : Option String := String.fromUTF8? bytes.toByteArray

/-- The bytes of a text. -/
def bytes (s : String) : List UInt8 := s.toUTF8.data.toList

/-- Reading back the bytes of a text gives the text. -/
theorem text?_bytes (s : String) : text? (bytes s) = some s := by
  have h : (bytes s).toByteArray = s.toByteArray := by
    apply ByteArray.ext
    rw [List.data_toByteArray]
    simp [bytes]
  simp only [text?, h, String.fromUTF8?, dif_pos s.isValidUTF8]
  rfl

/-- The text of a byte string has those bytes. -/
theorem bytes_of_text? {bs : List UInt8} {t : String} (ht : text? bs = some t) : bytes t = bs := by
  unfold text? String.fromUTF8? at ht
  split at ht
  next hvalid =>
    cases ht
    show bs.toByteArray.data.toList = bs
    rw [List.data_toByteArray]
  next => cases ht

end Embedder.Utf8
