import Embedder.Handle.Object

/-!
# Walks over iterables

A walk yields owned handles from an iterable's iterator, by calling the `__next__` that it looked up
once. It cannot be started over, and after its end or its first failure it runs no more Python code.
-/

namespace Embedder

/-- A walk in progress. -/
structure Walk where
  /-- The bound `__next__`, which keeps the iterator alive. -/
  next : Handle
  done : Bool
  deriving DecidableEq, Repr

/-- One step of a walk. -/
inductive Walk.Step where
  | item (h : Handle)
  | failed (r : ExceptionReport)
  | finished

namespace Walk

open Exception

variable {σ : Type} (G : Guest σ)

/-- Begin a walk. -/
def start (iterable : Handle) : Attempt σ ExceptionReport Walk := do
  let iterator ← requestNew G "PyObject_GetIter" (G.iterator iterable.obj)
  iterator.within G do
    let next ← iterator.getAttr G "__next__"
    pure ⟨next, false⟩

/-- Go one step further. -/
def step (w : Walk) : Bridge σ (Step × Walk) := do
  if w.done then pure (.finished, w)
  else
    match ← ask G (G.call w.next.obj none) with
    | some o => do
      let h ← Handle.ofNew o
      pure (.item h, w)
    | none => do
      if ← takeStop G then pure (.finished, { w with done := true })
      else do
        let r ← fetch G "__next__"
        pure (.failed r, { w with done := true })

/-- End a walk. -/
def drop (w : Walk) : Bridge σ Unit := w.next.drop G

end Walk

end Embedder
