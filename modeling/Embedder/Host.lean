import Embedder.Guest
import Embedder.Failure
import Embedder.LastError
import Embedder.Log

/-!
# The state of a host and programs over it

`Host σ` is everything the bridge keeps for a process: the guest's state, the pending exception, the
count of live handles, the lifecycle, the registry of bindings, references that wait for release,
the last errors and the log. A `Bridge σ α` is a program over it. It may end the process; an
`Attempt` may also fail with an error, which leaves the state as it is then.
-/

namespace Embedder

/-- The stages of an interpreter's life. -/
inductive Stage where
  | uninitialized
  | running
  | finalized
  deriving DecidableEq, Repr

/-- Where the interpreter stands in its life. -/
structure Lifecycle where
  stage : Stage
  /-- The number of successful starts. -/
  generation : Nat
  /-- The thread that started the running interpreter. -/
  starter : Option ThreadId
  deriving DecidableEq, Repr

/-- A function resolved once and called many times. It holds a reference to the callable, which
belongs to the interpreter of its generation. -/
structure Binding where
  moduleName : String
  function : String
  callable : Obj
  generation : Nat
  deriving DecidableEq, Repr

/-- The reference that a binding holds. -/
def Binding.kept (b : Binding) : Kept := ⟨b.callable, b.generation⟩

/-- A binding with several owners. -/
structure Share where
  binding : Binding
  owners : Nat
  deriving DecidableEq, Repr

/-- A claim on a shared binding: it is one of its owners. -/
structure Ticket where
  serial : Nat
  deriving DecidableEq, Repr

/-- Bindings by id. Ids count up from one. -/
structure Registry where
  entries : List (Int × Ticket)
  nextId : Int
  deriving DecidableEq, Repr

/-- The registry of a fresh interpreter. -/
def Registry.empty : Registry := ⟨[], 1⟩

/-- What the bridge keeps for a process. -/
structure Books where
  /-- The exception that the last call left, if it was not taken yet. -/
  pending : Option Pending
  /-- The number of owned handles. -/
  live : Int
  /-- Whether exceptions are also printed. -/
  printing : Bool
  lifecycle : Lifecycle
  registry : Option Registry
  /-- Shared bindings by serial number. -/
  shares : List (Nat × Share)
  nextSerial : Nat
  /-- References to release at the next session or stop. -/
  waiting : List Kept
  lastErrors : LastErrors
  /-- The level of the installed log, if one is installed. -/
  logLevel : Option Log.Level
  /-- All records, the oldest first. -/
  log : List Log.Record

/-- The state of a process that embeds an interpreter with state `σ`. -/
structure Host (σ : Type) extends Books where
  world : σ

/-- A process that has not started an interpreter. -/
def Host.fresh {σ : Type} (world : σ) : Host σ where
  world := world
  pending := none
  live := 0
  printing := false
  lifecycle := ⟨.uninitialized, 0, none⟩
  registry := none
  shares := []
  nextSerial := 0
  waiting := []
  lastErrors := LastErrors.empty
  logLevel := none
  log := []

/-- The process ended with a status. -/
structure Exit where
  status : Nat
  deriving DecidableEq, Repr

/-- A program over the state of a host. -/
abbrev Bridge (σ : Type) := StateT (Host σ) (Except Exit)

/-- A program that may fail. -/
abbrev Attempt (σ ε : Type) := ExceptT ε (Bridge σ)

namespace Bridge

variable {σ α ε : Type}

/-- End the process. -/
def exit (status : Nat) : Bridge σ α := fun _ => .error ⟨status⟩

/-- Report something. -/
def record (r : Log.Record) : Bridge σ Unit := modify fun h => { h with log := h.log ++ [r] }

def debug (message : String) (fields : List Log.Field) : Bridge σ Unit :=
  record ⟨.debug, message, fields⟩

def info (message : String) (fields : List Log.Field) : Bridge σ Unit :=
  record ⟨.info, message, fields⟩

def warn (message : String) : Bridge σ Unit := record ⟨.warn, message, []⟩

def warnIf (b : Bool) (message : String) : Bridge σ Unit := if b then warn message else pure ()

/-- Queue a reference for release at the next session or stop. -/
def postpone (k : Kept) : Bridge σ Unit := do
  modify fun h => { h with waiting := h.waiting ++ [k] }
  debug "lifecycle lock busy; deferred a reference release" [.count "generation" k.generation]

/-- Forget a reference whose interpreter is gone. -/
def forget (generation : Nat) : Bridge σ Unit :=
  debug "leaked a reference that outlived its interpreter" [.count "generation" generation]

/-- Take note of what Python code did to a binding. -/
def heed : Notice → Bridge σ Unit
  | .deferred k => postpone k
  | .leaked generation => forget generation

/-- Let the guest act. -/
def act (f : σ → Effect σ α) : Bridge σ α := fun ⟨books, world⟩ =>
  let e := f world
  let answer : Bridge σ α := do
    e.notices.forM heed
    pure e.value
  answer ⟨books, e.world⟩

/-- Change the guest's state. -/
def alter (f : σ → σ) : Bridge σ Unit := modify fun ⟨books, world⟩ => ⟨books, f world⟩

/-- Look at the guest's state. -/
def inspect (f : σ → α) : Bridge σ α := do pure (f (← get).world)

end Bridge

/-- The attempt with another error. -/
def Attempt.mapError {σ ε ε' α : Type} (f : ε → ε') (x : Attempt σ ε α) : Attempt σ ε' α :=
  ExceptT.mk do
    match ← x.run with
    | .ok a => pure (.ok a)
    | .error e => pure (.error (f e))

end Embedder
