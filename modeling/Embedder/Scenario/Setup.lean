import Embedder.Exception
import Embedder.Machine.Interpreter
import Embedder.Session

/-!
# Preparing the Python side

The steps of a scenario that change the interpreter behind the bridge: its modules, its search path,
its traceback formatter, its standard output. What they report to the log is not shown.
-/

namespace Embedder.Scenario

open Machine

/-- A change to the Python side. -/
inductive Setup where
  /-- Put a new module with some attributes into the module table. -/
  | newModule (name : String) (attrNames : List String) (attrs : List Spec)
  | setAttr (moduleName attr : String) (value : Spec)
  | eraseAttr (moduleName attr : String)
  /-- Put any object into the module table. -/
  | putModule (name : String) (value : Spec)
  | dropModule (name : String)
  | setSearchPath (value : Spec)
  | eraseSearchPath
  | setFormatter (value : Spec)
  | eraseFormatter
  | setOutput (value : Spec)

namespace Setup

/-- Run a program on the module under a name of the module table. -/
def withModule (name : String) (f : Obj → Exec Unit) : Exec Unit := do
  match (← get).modules.lookup name with
  | none => do
    let key ← newText name
    throwWith .keyError [key]
  | some m => f m

/-- Give an object an attribute that a script describes. -/
def assign (name : String) (value : Spec) (o : Obj) : Exec Unit := do
  let v ← build name value
  storeAttr o name v

/-- Take an attribute from an object. -/
def erase (name : String) (o : Obj) : Exec Unit := do
  let _ ← Machine.eraseAttr o name

/-- The program of a change. -/
def program : Setup → Exec Unit
  | .newModule name attrNames attrs => do
    let m ← Machine.newModule name
    let values ← buildNamed attrNames attrs
    values.forM fun e => storeAttr m e.1 e.2
    Machine.putModule name m
  | .setAttr moduleName attr value => withModule moduleName (assign attr value)
  | .eraseAttr moduleName attr => withModule moduleName (erase attr)
  | .putModule name value => do
    let v ← build "fn" value
    Machine.putModule name v
  | .dropModule name => do
    let _ ← Machine.dropModule name
  | .setSearchPath value => do assign "path" value (← get).system
  | .eraseSearchPath => do erase "path" (← get).system
  | .setFormatter value => do assign "format_tb" value (← get).formatter
  | .eraseFormatter => do erase "format_tb" (← get).formatter
  | .setOutput value => do assign "stdout" value (← get).system

end Setup

/-- Run a program and forget what it reported to the log. -/
def unlogged {σ α : Type} (x : Bridge σ α) : Bridge σ α := do
  let log := (← get).log
  let r ← x
  modify fun h => { h with log := log }
  pure r

/-- Make an object from a script. -/
def makeObject (s : Spec) : Attempt World ExceptionReport Handle :=
  ExceptT.mk (unlogged (Exception.requestNew python "make" (build "fn" s).outcomeFor).run)

/-- Apply a change to the running interpreter. -/
def Setup.run (s : Setup) : Attempt World Failure Unit :=
  Session.enter python
    (ExceptT.mk (unlogged
      ((Exception.request python "setup" s.program.outcomeFor).mapError Failure.raised).run))

end Embedder.Scenario
