import Embedder.Module

/-!
# Calling resolved functions

A call borrows its arguments: whoever made them releases them, however the call turns out.
-/

namespace Embedder.CallableHandle

open Exception

variable {σ : Type} (G : Guest σ)

/-- Call with a tuple of arguments, or with none. -/
def invoke (c : CallableHandle) (args : Option Handle) : Attempt σ Failure Handle := ExceptT.mk do
  match ← (requestNew G "PyObject_CallObject" (G.call c.handle.obj (args.map (·.obj)))).run with
  | .ok h => pure (.ok h)
  | .error cause => do
    Bridge.debug "call raised" [.plain "function" c.qualifiedName, .plain "error" cause.headline]
    pure (.error (.raised cause))

/-- Place references of their own to some objects in a tuple from `index` on. -/
def fillTuple (tuple : Handle) : Nat → List Handle → Attempt σ ExceptionReport Unit
  | _, [] => pure ()
  | index, a :: as => do
    let copy ← (a.clone G : Bridge σ Handle)
    tuple.setTupleItem G (UInt64.ofNat index) copy
    fillTuple tuple (index + 1) as

/-- Call with some objects. -/
def invokeWith (c : CallableHandle) (args : List Handle) : Attempt σ Failure Handle := do
  let tuple ← (Handle.newTuple G (UInt64.ofNat args.length)).mapError .raised
  tuple.within G do
    (fillTuple G tuple 0 args).mapError .raised
    c.invoke G (some tuple)

/-- Call with one object. -/
def invokeOne (c : CallableHandle) (arg : Handle) : Attempt σ Failure Handle :=
  c.invokeWith G [arg]

end Embedder.CallableHandle
