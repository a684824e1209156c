import Embedder.Number.Double

/-!
# The embedded interpreter, as the bridge sees it

A `Guest σ` is a Python interpreter whose whole state is a `σ`. It offers the calls that an
embedding host makes: each runs to its end, changes the state, and answers with a value, with a
raised exception, or with a failure that left no exception behind (`Reply`). Nothing is assumed of
the Python code behind a call, so whatever is proved of the bridge for every guest holds for every
Python program.

References are counted by the guest. A call hands out a new reference (`new`), lends one
(`borrowed`) or takes one over (`stolen`); each field says which.
-/

namespace Embedder

/-- A Python object, by identity. -/
structure Obj where
  id : Nat
  deriving DecidableEq, Repr

/-- An exception on its way to the host: its class, its value and its traceback, each with a
reference of its own. -/
structure Pending where
  kind : Obj
  value : Option Obj
  trace : Option Obj
  deriving DecidableEq, Repr

/-- The answer to a call that can fail. -/
inductive Reply (α : Type) where
  | value (a : α)
  | raised (p : Pending)
  /-- The call failed and no exception says why. -/
  | failed

/-- A reference that is kept beyond the session it was taken in. It belongs to the interpreter of
its generation. -/
structure Kept where
  obj : Obj
  generation : Nat
  deriving DecidableEq, Repr

/-- What Python code did to bindings of the host while a call ran. -/
inductive Notice where
  /-- A binding was dropped while the lifecycle was busy: its reference waits for release. -/
  | deferred (k : Kept)
  /-- A binding was dropped whose interpreter is gone: its reference is forgotten. -/
  | leaked (generation : Nat)
  deriving DecidableEq, Repr

/-- What a call gives, the state after it, and what it did to bindings of the host. -/
structure Effect (σ α : Type) where
  value : α
  world : σ
  notices : List Notice

/-- The effect of a call that can fail. -/
abbrev Outcome (σ α : Type) := Effect σ (Reply α)

/-- A Python interpreter with state `σ`. -/
structure Guest (σ : Type) where
  /-- Whether the interpreter is up, whoever brought it up. -/
  isUp : σ → Bool
  /-- Bring the interpreter up as the given generation. -/
  boot : Nat → σ → σ
  /-- Take the interpreter down; false if buffered output could not be written. -/
  shutdown : σ → Effect σ Bool
  /-- One more reference to an object. -/
  retain : Obj → σ → σ
  /-- One reference less; the last one ends the object. -/
  release : Obj → σ → Effect σ Unit
  /-- The same for a reference that was kept, while the lifecycle is busy or not. -/
  releaseKept : (busy : Bool) → Kept → σ → Effect σ Unit
  /-- The number of references to an object. -/
  refcount : Obj → σ → Int
  /-- Import a module (new). -/
  importModule : String → σ → Outcome σ Obj
  /-- The module that the module table has under a name; where it has none, a fresh empty module
  takes the place (borrowed). -/
  addModule : String → σ → Outcome σ Obj
  /-- The namespace of a module (borrowed). -/
  namespaceOf : Obj → σ → Outcome σ Obj
  /-- The value of a name in a namespace (borrowed). -/
  lookup : Obj → String → σ → Option Obj
  isCallable : Obj → σ → Bool
  /-- An attribute of an object (new). -/
  getAttr : Obj → String → σ → Outcome σ Obj
  /-- The length of an object. -/
  length : Obj → σ → Outcome σ Nat
  /-- The text of an object, as an object (new). -/
  str : Obj → σ → Outcome σ Obj
  /-- The contents of a text object. -/
  text : Obj → σ → Outcome σ String
  /-- A text object (new). -/
  newText : String → σ → Outcome σ Obj
  /-- Put texts together with a separator between them (new). -/
  joinTexts : Obj → Obj → σ → Outcome σ Obj
  /-- A list with empty slots (new). -/
  newList : Int → σ → Outcome σ Obj
  /-- A tuple with empty slots (new). -/
  newTuple : Int → σ → Outcome σ Obj
  /-- Fill a slot of a list; the item is stolen, also on failure. -/
  setListItem : Obj → Int → Obj → σ → Outcome σ Unit
  /-- Fill a slot of a tuple; the item is stolen, also on failure. -/
  setTupleItem : Obj → Int → Obj → σ → Outcome σ Unit
  /-- Append to a list, which takes a reference of its own. -/
  append : Obj → Obj → σ → Outcome σ Unit
  /-- Numbers as objects (new). -/
  ofFloat : Double → σ → Outcome σ Obj
  ofInt : Int64 → σ → Outcome σ Obj
  ofBool : Bool → σ → Outcome σ Obj
  /-- The two truth values. -/
  trueObj : Obj
  falseObj : Obj
  isFloat : Obj → σ → Bool
  /-- Objects as numbers. -/
  toFloat : Obj → σ → Outcome σ Double
  toInt : Obj → σ → Outcome σ Int64
  /-- An iterator over an object (new). -/
  iterator : Obj → σ → Outcome σ Obj
  /-- Call an object with a tuple of arguments, or with none (new). -/
  call : Obj → Option Obj → σ → Outcome σ Obj
  /-- The module search path (borrowed). -/
  searchPath : σ → Option Obj
  /-- Give a pending exception an instance of its class for a value; the references move. -/
  normalize : Pending → σ → Effect σ Pending
  /-- Whether a pending exception says that an iterator has ended. -/
  isStopIteration : Pending → σ → Bool
  /-- Print a pending exception; its references are stolen. The status if this ended the
  process. -/
  print : Pending → σ → Effect σ (Option Nat)

end Embedder
