import Embedder.Exception
import Embedder.Text.Quoted

/-!
# What a host can ask of an object

Attributes, length, text and containers, on handles. Each call that fails takes its exception, so
that nothing is pending afterwards.
-/

namespace Embedder.Handle

open Exception

variable {σ α : Type} (G : Guest σ)

/-- A host text as a C string can hold it: one without a NUL. -/
def cText (s : String) : Except ExceptionReport String :=
  if '\x00' ∈ s.toList then .error (ExceptionReport.embeddedNul (Text.quoted s)) else .ok s

/-- The same as an attempt. -/
def withoutNul (s : String) : Attempt σ ExceptionReport String := ExceptT.mk (pure (cText s))

/-- An attribute of an object. -/
def getAttr (h : Handle) (name : String) : Attempt σ ExceptionReport Handle := do
  let name ← withoutNul name
  requestNew G "PyObject_GetAttrString" (G.getAttr h.obj name)

/-- The length of an object. -/
def length (h : Handle) : Attempt σ ExceptionReport Nat :=
  request G "PyObject_Size" (G.length h.obj)

def isEmpty (h : Handle) : Attempt σ ExceptionReport Bool := do
  let n ← h.length G
  pure (n == 0)

def isCallable (h : Handle) : Bridge σ Bool := Bridge.inspect (G.isCallable h.obj)

/-- The contents of a text object. -/
def contents (h : Handle) : Attempt σ ExceptionReport String :=
  request G "PyUnicode_AsUTF8AndSize" (G.text h.obj)

/-- The text of an object. -/
def str (h : Handle) : Attempt σ ExceptionReport String := do
  let s ← requestNew G "PyObject_Str" (G.str h.obj)
  s.within G (s.contents G)

/-- The number of references to an object, for diagnostics. -/
def refcount (h : Handle) : Bridge σ Int := Bridge.inspect (G.refcount h.obj)

/-- A machine word as the signed number that containers take for a length or an index. -/
def signed (n : UInt64) : Int := n.toInt64.toInt

/-- A list whose slots are all still to be filled. -/
def newList (n : UInt64) : Attempt σ ExceptionReport Handle :=
  requestNew G "PyList_New" (G.newList (signed n))

/-- A tuple whose slots are all still to be filled. -/
def newTuple (n : UInt64) : Attempt σ ExceptionReport Handle :=
  requestNew G "PyTuple_New" (G.newTuple (signed n))

/-- Fill a slot of a list. The item's handle ends, also on failure. -/
def setListItem (h : Handle) (index : UInt64) (item : Handle) : Attempt σ ExceptionReport Unit := do
  let o ← item.steal G
  request G "PyList_SetItem" (G.setListItem h.obj (signed index) o)

/-- Fill a slot of a tuple. The item's handle ends, also on failure. -/
def setTupleItem (h : Handle) (index : UInt64) (item : Handle) :
    Attempt σ ExceptionReport Unit := do
  let o ← item.steal G
  request G "PyTuple_SetItem" (G.setTupleItem h.obj (signed index) o)

/-- Append to a list. The item's handle stays. -/
def append (h : Handle) (item : Handle) : Attempt σ ExceptionReport Unit :=
  request G "PyList_Append" (G.append h.obj item.obj)

/-- A new text object. -/
def newText (s : String) : Attempt σ ExceptionReport Handle := do
  let s ← withoutNul s
  requestNew G "PyUnicode_FromString" (G.newText s)

end Embedder.Handle
