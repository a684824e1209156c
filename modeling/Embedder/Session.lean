import Embedder.Handle

/-!
# Sessions

Python code runs only inside a session, and a session is entered only while the interpreter runs;
one that wants a certain generation is refused by any other. At its beginning, references that were
queued for release are released if they are of the running generation, and forgotten if not.

A binding's reference ends in one of three ways (`disposal`), by what the lifecycle is at that
moment.
-/

namespace Embedder

/-- What becomes of a reference whose owner went away. -/
inductive Disposal where
  /-- It is released now. -/
  | release
  /-- The lifecycle is busy: it is queued. -/
  | postpone
  /-- The interpreter it belongs to is gone: it is forgotten. -/
  | forget
  deriving DecidableEq, Repr

/-- The disposal of a reference of a generation; `current` is the stage and the generation of the
lifecycle, or `none` while it is busy. -/
def disposal (current : Option (Stage × Nat)) (generation : Nat) : Disposal :=
  match current with
  | none => .postpone
  | some (.running, g) => if g = generation then .release else .forget
  | some _ => .forget

namespace Session

variable {σ α : Type} (G : Guest σ)

/-- Release a queued reference if it is of a generation, and forget it if not. -/
def settleOne (busy : Bool) (generation : Nat) (k : Kept) : Bridge σ Unit :=
  if k.generation = generation then Bridge.act (G.releaseKept busy k) else pure ()

/-- The same for many, first in, first out. -/
def settle (busy : Bool) (generation : Nat) : List Kept → Bridge σ Unit
  | [] => pure ()
  | k :: rest => do
    settleOne G busy generation k
    settle busy generation rest

/-- Empty the queue. -/
def settleWaiting (busy : Bool) (generation : Nat) : Bridge σ Unit := do
  let waiting := (← get).waiting
  modify fun h => { h with waiting := [] }
  settle G busy generation waiting

/-- Run a program in a session of the running interpreter, which must be of the generation
`expected` if one is given. -/
def enterAs (expected : Option Nat) (body : Nat → Attempt σ Failure α) : Attempt σ Failure α := do
  let life := (← get).lifecycle
  if life.stage = .running ∧ expected.all (· = life.generation) then do
    (settleWaiting G false life.generation : Bridge σ Unit)
    body life.generation
  else throw .notRunning

/-- Run a program in a session of the running interpreter. -/
def enter (body : Attempt σ Failure α) : Attempt σ Failure α := enterAs G none fun _ => body

end Session

/-- End a binding while the lifecycle is busy or not. -/
def Binding.drop {σ : Type} (G : Guest σ) (busy : Bool) (b : Binding) : Bridge σ Unit := do
  let life := (← get).lifecycle
  match disposal (if busy then none else some (life.stage, life.generation)) b.generation with
  | .release => Bridge.act (G.releaseKept false b.kept)
  | .postpone => Bridge.postpone b.kept
  | .forget => Bridge.forget b.generation

end Embedder
