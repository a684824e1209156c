import Embedder.Text.Utf8

/-!
# Strings from C callers

A C caller passes a pointer to bytes that end with a NUL, or a null pointer. The bridge wants text.
-/

namespace Embedder

/-- An argument of a C caller: the bytes before the first NUL, or `none` for a null pointer. -/
structure CString where
  bytes? : Option (List UInt8)
  deriving DecidableEq, Repr

namespace CString

/-- The null pointer. -/
def null : CString := ⟨none⟩

/-- What a C callee sees of some bytes in memory. -/
def ofMemory (bytes : List UInt8) : CString := ⟨some (bytes.takeWhile (· ≠ 0))⟩

/-- Why an argument is no text. -/
inductive Fault where
  | nullPointer
  | notUtf8 (fault : Utf8.Fault)
  deriving DecidableEq, Repr

/-- The wording of a fault. -/
def Fault.message : Fault → String
  | .nullPointer => "Null string pointer"
  | .notUtf8 f => "Invalid UTF-8: " ++ f.message

/-- The text of an argument. -/
def text (s : CString) : Except Fault String :=
  match s.bytes? with
  | none => .error .nullPointer
  | some bytes =>
    match Utf8.text? bytes with
    | some t => .ok t
    | none => .error (.notUtf8 ((Utf8.fault? bytes).getD ⟨0, none⟩))

end CString

end Embedder
