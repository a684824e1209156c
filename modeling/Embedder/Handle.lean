import Embedder.Host

/-!
# Handles

A handle is an object together with the knowledge of whether the host owns a reference to it. An
owned handle is released exactly once, when its scope ends (`owning`) or by `drop`; a borrowed one
never is. A reference that a call takes over is handed to it by `steal`, which ends the handle.

`Host.live` counts the owned handles.
-/

namespace Embedder

/-- Whether a handle holds a reference of its own. -/
inductive Ownership where
  | owned
  | borrowed
  deriving DecidableEq, Repr

/-- The name of an ownership. -/
def Ownership.name : Ownership → String
  | .owned => "Owned"
  | .borrowed => "Borrowed"

/-- An object at the host's side. -/
structure Handle where
  obj : Obj
  ownership : Ownership
  deriving DecidableEq, Repr

namespace Handle

variable {σ α ε : Type} (G : Guest σ)

/-- Count handles that came into being, or ended. -/
def count (n : Int) : Bridge σ Unit := modify fun s => { s with live := s.live + n }

/-- A handle that takes over a new reference. -/
def ofNew (o : Obj) : Bridge σ Handle := do
  count 1
  pure ⟨o, .owned⟩

/-- A handle on an object that someone else keeps alive. -/
def ofBorrowed (o : Obj) : Handle := ⟨o, .borrowed⟩

/-- A handle with a reference of its own to an object that someone else keeps alive. -/
def ofShared (o : Obj) : Bridge σ Handle := do
  Bridge.alter (G.retain o)
  count 1
  pure ⟨o, .owned⟩

/-- A second, owned handle on the same object. -/
def clone (h : Handle) : Bridge σ Handle := ofShared G h.obj

/-- An owned handle on the same object; an owned one is itself. -/
def promote (h : Handle) : Bridge σ Handle :=
  match h.ownership with
  | .owned => pure h
  | .borrowed => ofShared G h.obj

/-- End the handle and pass its reference on; a borrowed one gets a reference first. -/
def steal (h : Handle) : Bridge σ Obj := do
  let owned ← h.promote G
  count (-1)
  pure owned.obj

/-- End the handle. -/
def drop (h : Handle) : Bridge σ Unit := do
  match h.ownership with
  | .owned => do
    Bridge.act (G.release h.obj)
    count (-1)
  | .borrowed => pure ()

/-- Run a program that uses a handle, and end the handle after it, however it turned out. -/
def owning (h : Handle) (body : Bridge σ α) : Bridge σ α := do
  let r ← body
  h.drop G
  pure r

/-- The same for a program that may fail. -/
def within (h : Handle) (body : Attempt σ ε α) : Attempt σ ε α := ExceptT.mk (h.owning G body.run)

/-- End a handle, if there is one. -/
def dropAll : List Handle → Bridge σ Unit
  | [] => pure ()
  | h :: hs => do
    h.drop G
    dropAll hs

end Handle

end Embedder
