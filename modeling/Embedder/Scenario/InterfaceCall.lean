import Embedder.CInterface

/-!
# Calls of a C caller

What a caller of the C interface can ask, from any thread and of any guest. Each call answers with a
status and with the last error that the calling thread reads afterwards.
-/

namespace Embedder.Scenario

/-- A call of the C interface. -/
inductive InterfaceCall where
  | start (e : Environment)
  | startWithConfig (json : CString)
  | stop
  | state
  | appendPath (path : CString)
  | initLog (verbosity : Int)
  | callFunction (moduleName function : CString) (values : CInterface.ValuesArg)
      (output : CInterface.OutputArg)
  /-- `output` says whether there is a place for the id. -/
  | bind (moduleName function : CString) (output : Bool)
  | callBound (id : Int) (values : CInterface.ValuesArg) (output : CInterface.OutputArg)
  | unbind (id : Int)
  | bindingCount
  | liveHandles
  | lastError
  | clearLastError
  /-- Store a last error, as the bridge does when a call fails. -/
  | setLastError (text : String)

/-- What a call of the C interface gave. -/
inductive InterfaceValue where
  | status (code : Int)
  /-- An id, if one was written. -/
  | id (code : Int) (id : Option Int)
  /-- A result, if one was written. -/
  | result (code : Int) (values : Option (List Int64))
  | nothing

namespace InterfaceCall

open CInterface

variable {σ : Type} (G : Guest σ) (thread : ThreadId)

/-- The status of a call without a result. -/
def statusOf (x : Bridge σ (Answer Unit)) : Bridge σ InterfaceValue := do
  let a ← x
  pure (.status a.status)

/-- A plain number as a status. -/
def numberOf (x : Bridge σ Int) : Bridge σ InterfaceValue := do
  let n ← x
  pure (.status n)

/-- The result of a call. -/
def resultOf (x : Bridge σ (Answer (List Int64))) : Bridge σ InterfaceValue := do
  let a ← x
  pure (.result a.status a.out)

/-- Perform a call. -/
def perform : InterfaceCall → Bridge σ InterfaceValue
  | .start e => statusOf (CInterface.start G thread e)
  | .startWithConfig json => statusOf (CInterface.startWithConfig G thread json)
  | .stop => statusOf (CInterface.stop G thread)
  | .state => numberOf CInterface.state
  | .appendPath path => statusOf (CInterface.appendPath G thread path)
  | .initLog verbosity => numberOf (CInterface.initLog verbosity)
  | .callFunction moduleName function values output =>
    resultOf (CInterface.callFunction G thread moduleName function values output)
  | .bind moduleName function output => do
    let a ← CInterface.bind G thread moduleName function output
    pure (.id a.status a.out)
  | .callBound id values output =>
    resultOf (CInterface.callBound G thread id values output)
  | .unbind id => statusOf (CInterface.unbind G thread id)
  | .bindingCount => numberOf (CInterface.bindingCount thread)
  | .liveHandles => numberOf CInterface.liveHandles
  | .lastError => pure .nothing
  | .clearLastError => do
    CInterface.clearLastError thread
    pure .nothing
  | .setLastError text => do
    modify fun h => { h with lastErrors := h.lastErrors.set thread text }
    pure .nothing

/-- Perform a call and read the last error. -/
def run (c : InterfaceCall) : Bridge σ (InterfaceValue × Option String) := do
  let v ← c.perform G thread
  let e ← CInterface.lastError thread
  pure (v, e)

end InterfaceCall

end Embedder.Scenario
