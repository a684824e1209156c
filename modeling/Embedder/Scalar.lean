import Embedder.Handle.Object

/-!
# Numbers across the boundary

An `Encoder` turns values of the host into objects and a `Decoder` turns objects into values. The
decoders for numbers see the interpreter's convention: minus one stands for a failure if an
exception is pending, and for itself if none is.
-/

namespace Embedder

/-- How values of a host type become objects. -/
structure Encoder (σ α : Type) where
  kind : ElementKind
  encode : α → Attempt σ ExceptionReport Handle

/-- How objects become values of a host type. -/
structure Decoder (σ β : Type) where
  kind : ElementKind
  decode : Handle → Attempt σ ExceptionReport β

namespace Scalar

open Exception

variable {σ : Type} (G : Guest σ)

def encodeFloat : Encoder σ Double :=
  ⟨.float64, fun x => requestNew G "PyFloat_FromDouble" (G.ofFloat x)⟩

def encodeInt : Encoder σ Int64 :=
  ⟨.int64, fun n => requestNew G "PyLong_FromLongLong" (G.ofInt n)⟩

def encodeBool : Encoder σ Bool :=
  ⟨.bool, fun b => requestNew G "PyBool_FromLong" (G.ofBool b)⟩

/-- The class name of an object, as the object and its class tell it. -/
def toldClassName (h : Handle) : Attempt σ ExceptionReport String := do
  let cls ← h.getAttr G "__class__"
  let name ← cls.within G (cls.getAttr G "__name__")
  name.within G (name.str G)

/-- The class name of an object, or a substitute if it cannot be told. -/
def classNameOr (substitute : String) (h : Handle) : Bridge σ String := do
  match ← (toldClassName G h).run with
  | .ok s => pure s
  | .error _ => pure substitute

/-- The class name of an object, or `object` if it cannot be told. -/
def className (h : Handle) : Bridge σ String := classNameOr G "object" h

/-- The report for an object of the wrong kind. -/
def wrongKind (h : Handle) (expected : String) : Bridge σ ExceptionReport := do
  let found ← className G h
  pure ⟨"TypeError", "expected " ++ expected ++ ", found '" ++ found ++ "'", none⟩

/-- A number from a call that gives `sentinel` on failure. -/
def checked {β : Type} [DecidableEq β] (sentinel : β) (context : String) (f : σ → Outcome σ β) :
    Attempt σ ExceptionReport β := ExceptT.mk do
  let value := (← ask G f).getD sentinel
  if value = sentinel then
    if ← isPending then do
      let r ← fetch G context
      pure (.error r)
    else pure (.ok value)
  else pure (.ok value)

/-- Floats, integers, and what converts itself to a float. -/
def decodeFloat : Decoder σ Double :=
  ⟨.float64, fun h => checked G Double.negOne "PyFloat_AsDouble" (G.toFloat h.obj)⟩

/-- Integers, and what converts itself to one as an index; floats are refused, not cut off. -/
def decodeInt : Decoder σ Int64 :=
  ⟨.int64, fun h => ExceptT.mk do
    if ← Bridge.inspect (G.isFloat h.obj) then do
      let r ← wrongKind G h "int"
      pure (.error r)
    else (checked G (-1) "PyLong_AsLongLong" (G.toInt h.obj)).run⟩

/-- The two truth values and nothing else. -/
def decodeBool : Decoder σ Bool :=
  ⟨.bool, fun h => ExceptT.mk do
    if h.obj = G.trueObj then pure (.ok true)
    else if h.obj = G.falseObj then pure (.ok false)
    else do
      let r ← wrongKind G h "bool"
      pure (.error r)⟩

end Scalar

end Embedder
