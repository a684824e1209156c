import Embedder.Scenario.Number
import Embedder.Walk

/-!
# What the steps of a scenario answer

A `Value` is what a request gave, in the terms of the host. `describe` says of an object what a
scenario wants to know of it.
-/

namespace Embedder.Scenario

/-- What a scenario is told of an object. -/
structure Description where
  className : String
  text : Except ExceptionReport String

/-- One step of a walk. -/
inductive Item where
  | described (d : Description)
  | failed (r : ExceptionReport)
  | finished

/-- What a request gave. -/
inductive Value where
  | nothing
  | flag (b : Bool)
  | count (n : Int)
  | text (s : String)
  | stage (s : Stage)
  | numbers (ns : List Number)
  | number (n : Number)
  /-- A number, or why the object is none. -/
  | scalar (r : Except ExceptionReport Number)
  /-- The added entries of the search path, if it is a list. -/
  | path (entries : Option (List String))
  /-- The search path could not be read. -/
  | pathRefused (f : Failure)
  | function (moduleName name : String)
  | report (r : Option ExceptionReport)
  | description (d : Description)
  /-- The steps of a walk, and the live handles at its end. -/
  | walk (items : List Item) (live : Int)
  | notWalkable (r : ExceptionReport)
  /-- A binding left the registry while it was held, and was then called. -/
  | removedThenCalled (removed : Except Failure Unit) (called : Except Failure (List Int64))
  /-- The interpreter stopped while a binding was held, which was then called. -/
  | stoppedThenCalled (stopped : Except Failure Unit) (called : Except Failure (List Int64))
  /-- A handle was stored; modules and callables have names. -/
  | held (o : Ownership) (name : Option String)
  /-- A reference outside the handles was stored. -/
  | detached
  | ownership (o : Ownership)

/-- How a request turned out. -/
inductive Reply where
  | value (v : Value)
  | failed (f : Failure)
  /-- It named a slot with nothing in it. -/
  | noSlot

/-- The reply for how an attempt turned out. -/
def Reply.ofExcept : Except Failure Value → Reply
  | .ok v => .value v
  | .error f => .failed f

variable {σ : Type} (G : Guest σ)

/-- Run an attempt and reply with how it turned out. -/
def replyTo (x : Attempt σ Failure Value) : Bridge σ Reply := do
  let r ← x.run
  pure (Reply.ofExcept r)

/-- Describe an object. One whose class cannot be told has the empty name for it. -/
def describe (h : Handle) : Bridge σ Description := do
  let name ← Scalar.classNameOr G "" h
  let text ← (h.str G).run
  pure ⟨name, text⟩

end Embedder.Scenario
