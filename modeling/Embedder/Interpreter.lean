import Embedder.Config
import Embedder.Registry

/-!
# Starting and stopping the interpreter

The lifecycle goes from uninitialized to running to finalized, and from there to running again only
if the configuration allows it. Each successful start is a new generation with an empty registry.
A start with a bad search path fails, but the interpreter runs.
-/

namespace Embedder.Interpreter

open Exception

variable {σ : Type} (G : Guest σ)

/-- The stage of the lifecycle. -/
def stage : Bridge σ Stage := do pure (← get).lifecycle.stage

/-- Whether exceptions are also printed. -/
def setPrinting (enabled : Bool) : Bridge σ Unit := modify fun h => { h with printing := enabled }

/-- Append a directory to the module search path of the running interpreter. -/
def appendPath (path : SearchPath) : Attempt σ Failure Unit := do
  match path.text? with
  | none => throw (.invalidArgument ("search path is not valid UTF-8: " ++ path.display))
  | some text =>
    Session.enter G do
      match G.searchPath (← get).world with
      | none => do
        let r ← (fetch G "sys.path" : Bridge σ ExceptionReport)
        throw (.raised r)
      | some list => do
        let entry ← (Handle.newText G text).mapError .raised
        entry.within G do
          ((Handle.ofBorrowed list).append G entry).mapError .raised
          (Bridge.debug "appended module search path" [.quoted "path" text] : Bridge σ Unit)

/-- Append directories in order, up to the first that fails. -/
def appendPaths : List SearchPath → Attempt σ Failure Unit
  | [] => pure ()
  | p :: ps => do
    appendPath G p
    appendPaths ps

/-- Why a start is refused, in order of precedence. -/
def startRefusal (config : Config) (host : Host σ) : Option Failure :=
  match host.lifecycle.stage with
  | .running => some .alreadyRunning
  | .finalized => if config.allowRestart then none else some .restartRefused
  | .uninitialized => none

/-- The warning that goes with a refused start. -/
def refusalWarning : Failure → String
  | .alreadyRunning => "start() called while the interpreter is running"
  | _ => "refusing to re-initialize a finalized interpreter"

/-- The state of a host right after its interpreter came up. -/
def started (thread : ThreadId) (config : Config) (h : Host σ) : Host σ :=
  { h with
    lifecycle := ⟨.running, h.lifecycle.generation + 1, some thread⟩
    printing := config.printTracebacks
    registry := some Registry.empty }

/-- Bring the interpreter up. -/
def launch (thread : ThreadId) (config : Config) : Attempt σ Failure Unit := do
  let h ← get
  match startRefusal config h with
  | some f => do
    (Bridge.warn (refusalWarning f) : Bridge σ Unit)
    throw f
  | none =>
    if G.isUp h.world then
      throw (.initializationFailed "interpreter was initialized outside the bridge")
    else do
      let generation := h.lifecycle.generation + 1
      (Bridge.alter (G.boot generation) : Bridge σ Unit)
      if G.isUp (← get).world then do
        modify (started thread config)
        (Bridge.info "Python interpreter started"
          [.count "generation" generation, .quoted "built_against" "@PY"] : Bridge σ Unit)
      else
        throw (.initializationFailed "Py_InitializeEx did not initialize the interpreter")

/-- Bring the interpreter up and append the search paths of the configuration. -/
def start (thread : ThreadId) (config : Config) : Attempt σ Failure Unit := do
  launch G thread config
  appendPaths G config.searchPaths

/-- Let go of all references that the bridge keeps. -/
def letGoOfAll (generation : Nat) : Bridge σ Unit := do
  Registry.destroy G
  Session.settleWaiting G true generation

/-- Take the interpreter down. -/
def finalize (life : Lifecycle) (thread : ThreadId) : Bridge σ Unit := do
  modify fun h => { h with lifecycle := { h.lifecycle with starter := none } }
  Bridge.warnIf (life.starter ≠ some thread)
    "finalizing the interpreter from a thread other than the one that started it"
  let flushed ← Bridge.act G.shutdown
  modify fun h => { h with lifecycle := { h.lifecycle with stage := .finalized } }
  Bridge.warnIf (!flushed) "Py_FinalizeEx reported an error while flushing buffered data"
  Bridge.info "Python interpreter finalized" [.count "generation" life.generation]

/-- Release what the bridge holds and take the interpreter down. -/
def stop (thread : ThreadId) : Attempt σ Failure Unit := do
  let life := (← get).lifecycle
  if life.stage ≠ .running then throw .notRunning
  else do
    (letGoOfAll G life.generation : Bridge σ Unit)
    (finalize G life thread : Bridge σ Unit)

/-- Install a log, unless one is installed already. -/
def installLog (level : Log.Level) : Bridge σ Bool := do
  match (← get).logLevel with
  | some _ => pure false
  | none => do
    modify fun h => { h with logLevel := some level }
    pure true

end Embedder.Interpreter
