import Embedder.CString
import Embedder.Config.Environment
import Embedder.Config.Json
import Embedder.Interpreter

/-!
# The C interface

Each operation checks its pointers, then does what its counterpart for typed callers does, and
answers with a status: zero, or the negative code of the failure, whose text is then the last error
of the thread. Nothing is written through an out-pointer unless the status is zero.
-/

namespace Embedder.CInterface

variable {σ α : Type} (G : Guest σ)

/-- The status of an operation, and what it wrote through its out-pointers. -/
structure Answer (α : Type) where
  status : Int
  out : Option α
  deriving DecidableEq, Repr

/-- Run an operation and translate how it turned out. -/
def answer (thread : ThreadId) (body : Attempt σ Failure α) : Bridge σ (Answer α) := do
  modify fun h => { h with lastErrors := h.lastErrors.clear thread }
  match ← body.run with
  | .ok a => pure ⟨0, some a⟩
  | .error f => do
    modify fun h => { h with lastErrors := h.lastErrors.set thread f.detailed }
    pure ⟨f.code, none⟩

/-- A text argument; `what` names it in messages. -/
def argText (what : String) (s : CString) : Except Failure String :=
  match s.text with
  | .ok t => .ok t
  | .error f => .error (.invalidArgument (what ++ ": " ++ f.message))

/-- An array argument: a pointer, which may be null, and a length. -/
structure ValuesArg where
  pointer : Option (List Double)
  length : Nat
  deriving DecidableEq, Repr

/-- The values of an array argument. A length of zero goes with any pointer. -/
def argValues (v : ValuesArg) : Except Failure (List Double) :=
  if v.length = 0 then .ok []
  else
    match v.pointer with
    | none => .error (.invalidArgument "values: null pointer with non-zero length")
    | some xs => .ok (xs.take v.length)

/-- Which out-pointers of a call are not null. -/
structure OutputArg where
  values : Bool
  length : Bool
  deriving DecidableEq, Repr

/-- The fault of a null out-pointer. -/
def nullOutput : Failure := .invalidArgument "null output pointer"

/-- All out-pointers of a call must be there. -/
def argOutput (o : OutputArg) : Except Failure Unit :=
  if o.values ∧ o.length then .ok () else .error nullOutput

/-- A check as part of an operation. -/
def check (x : Except Failure α) : Attempt σ Failure α := ExceptT.mk (pure x)

/-- Start with the configuration in environment variables. -/
def start (thread : ThreadId) (e : Environment) : Bridge σ (Answer Unit) :=
  answer thread (Interpreter.start G thread (Config.ofEnvironment e))

/-- Start with a configuration in JSON. -/
def startWithConfig (thread : ThreadId) (json : CString) : Bridge σ (Answer Unit) :=
  answer thread do
    let text ← check (argText "config" json)
    let config ← check (Config.ofJson? text)
    Interpreter.start G thread config

/-- Release all bindings and stop. -/
def stop (thread : ThreadId) : Bridge σ (Answer Unit) := answer thread (Interpreter.stop G thread)

/-- The number of a stage. -/
def stageNumber : Stage → Int
  | .uninitialized => 0
  | .running => 1
  | .finalized => 2

/-- The stage of the lifecycle, as a number. -/
def state : Bridge σ Int := do pure (stageNumber (← Interpreter.stage))

/-- Append a directory to the module search path. -/
def appendPath (thread : ThreadId) (path : CString) : Bridge σ (Answer Unit) :=
  answer thread do
    let text ← check (argText "path" path)
    Interpreter.appendPath G (SearchPath.ofText text)

/-- Install a log: one if it was installed, zero if there was one. -/
def initLog (verbosity : Int) : Bridge σ Int := do
  if ← Interpreter.installLog (Log.Level.ofVerbosity verbosity) then pure 1 else pure 0

/-- Call a function by name with floats and read integers. -/
def callFunction (thread : ThreadId) (moduleName function : CString) (values : ValuesArg)
    (output : OutputArg) : Bridge σ (Answer (List Int64)) :=
  answer thread do
    let m ← check (argText "module" moduleName)
    let f ← check (argText "function" function)
    let xs ← check (argValues values)
    check (argOutput output)
    Embedder.callFunction G (Scalar.encodeFloat G) (Scalar.decodeInt G) m f xs

/-- Bind a function under a new id. -/
def bind (thread : ThreadId) (moduleName function : CString) (output : Bool) :
    Bridge σ (Answer Int) :=
  answer thread do
    let m ← check (argText "module" moduleName)
    let f ← check (argText "function" function)
    check (if output then .ok () else .error nullOutput)
    let b ← Binding.bind G m f
    Registry.insert G b

/-- Call a bound function with floats and read integers. -/
def callBound (thread : ThreadId) (id : Int) (values : ValuesArg) (output : OutputArg) :
    Bridge σ (Answer (List Int64)) :=
  answer thread do
    let xs ← check (argValues values)
    check (argOutput output)
    let t ← Registry.find id
    ExceptT.mk do
      let r ← (t.call G (Scalar.encodeFloat G) (Scalar.decodeInt G) xs).run
      t.drop G false
      pure r

/-- Drop the binding with an id. -/
def unbind (thread : ThreadId) (id : Int) : Bridge σ (Answer Unit) :=
  answer thread do
    let t ← Registry.remove id
    (t.drop G false : Bridge σ Unit)

/-- The number of bindings, or a negative code. -/
def bindingCount (thread : ThreadId) : Bridge σ Int := do
  modify fun h => { h with lastErrors := h.lastErrors.clear thread }
  match ← (Registry.size : Attempt σ Failure Nat).run with
  | .ok n => pure n
  | .error f => do
    modify fun h => { h with lastErrors := h.lastErrors.set thread f.message }
    pure f.code

/-- The number of owned handles. -/
def liveHandles : Bridge σ Int := do pure (← get).live

/-- The last error of a thread. -/
def lastError (thread : ThreadId) : Bridge σ (Option String) := do
  pure ((← get).lastErrors.get thread)

/-- Forget the last error of a thread. -/
def clearLastError (thread : ThreadId) : Bridge σ Unit :=
  modify fun h => { h with lastErrors := h.lastErrors.clear thread }

end Embedder.CInterface
