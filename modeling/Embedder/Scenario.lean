import Embedder.Scenario.HandleStep
import Embedder.Scenario.InterfaceCall
import Embedder.Scenario.Request

/-!
# Scenarios

A scenario begins with a process at a stage of its life, performs steps and records of each what can
be seen from outside: the answer, the live handles, the log, the error stream and the notes of
Python code. At its end the bindings that are left are dropped, and the interpreter is stopped if it
runs.

Python code can end the process. Then nothing is recorded but the status.
-/

namespace Embedder.Scenario

open Machine

/-- A step of a scenario. -/
inductive Step where
  | request (r : Request)
  | setup (s : Setup)
  | handles (steps : List HandleStep)
  | interface (c : InterfaceCall)

/-- What a step answered. -/
inductive Answer where
  | reply (r : Reply)
  | handles (rs : List HandleReply)
  | interface (v : InterfaceValue) (lastError : Option String)

/-- What can be seen after a step. -/
structure Observation where
  answer : Answer
  live : Int
  /-- Whether an exception is left pending. -/
  pending : Bool
  log : String
  errors : String
  notes : List String

/-- What can be seen at the end. -/
structure Closing where
  stage : Stage
  live : Int
  notes : List String

/-- Where a scenario begins. -/
inductive Beginning where
  | uninitialized
  /-- After a start and a stop. -/
  | finalized
  /-- Started again, with a search path. -/
  | running (path : SearchPath)

/-- Perform a step. -/
def Step.perform : Step → Bridge World Answer
  | .request r => do
    let reply ← r.run
    pure (.reply reply)
  | .setup s => do
    match ← s.run.run with
    | .ok () => pure (.reply (.value .nothing))
    | .error f => pure (.reply (.failed f))
  | .handles steps => do
    match ← (HandleStep.session steps).run with
    | .ok rs => pure (.handles rs)
    | .error f => pure (.reply (.failed f))
  | .interface c => do
    let (v, e) ← c.run python mainThread
    pure (.interface v e)

/-- Forget what was seen so far. -/
def forgetSeen : Bridge World Unit :=
  modify fun h =>
    { h with log := [], world := { h.world with notes := [], errors := "" } }

/-- Perform a step and record what can be seen after it. -/
def Step.run (s : Step) : Bridge World Observation := do
  forgetSeen
  let answer ← s.perform
  let h ← get
  pure {
    answer := answer
    live := h.live
    pending := h.pending.isSome
    log := String.join ((Log.shown h.logLevel h.log).map Log.Record.line)
    errors := h.world.errors
    notes := h.world.notes }

/-- Drop the bindings in some slots. -/
def dropSlots : List String → Bridge World Unit
  | [] => pure ()
  | name :: names => do
    let _ ← dropBinding name
    dropSlots names

/-- Come to an end: drop the bindings that are left, in the order of their names, and stop. -/
def close : Bridge World Closing := do
  forgetSeen
  let stage ← Interpreter.stage
  let names ← Bridge.inspect fun w => w.slots.map (·.1)
  dropSlots (names.mergeSort fun a b => !(decide (b < a)))
  if stage = .running then do
    let _ ← (Interpreter.stop python mainThread).run
    pure ()
  let h ← get
  pure ⟨stage, h.live, h.world.notes⟩

/-- A process that has been started and stopped. -/
def finalizedHost : Host World :=
  { Host.fresh World.down with lifecycle := ⟨.finalized, 1, none⟩ }

/-- The configuration of a start that is allowed again. -/
def againConfig (path : SearchPath) : Config :=
  (Config.default.withRestart true).withSearchPath path

/-- Come to the beginning of a scenario. -/
def Beginning.prepare : Beginning → Bridge World Unit
  | .running path => do
    let _ ← (Interpreter.start python mainThread (againConfig path)).run
    pure ()
  | _ => pure ()

/-- The process at the beginning of a scenario, before anything is done to prepare it. -/
def Beginning.host : Beginning → Host World
  | .uninitialized => Host.fresh World.down
  | _ => finalizedHost

/-- Perform a scenario: what each step showed, and the end; or the status of a process that
ended. -/
def run (b : Beginning) (steps : List Step) : Except Exit (List Observation × Closing) := do
  let program : Bridge World (List Observation × Closing) := do
    b.prepare
    let seen ← steps.mapM Step.run
    let closing ← close
    pure (seen, closing)
  let (r, _) ← program.run b.host
  pure r

end Embedder.Scenario
