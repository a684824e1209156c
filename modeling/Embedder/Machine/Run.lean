import Embedder.Machine.Build

/-!
# Running scripts

What the actions of a script do when their function is called or their generator is resumed.
-/

namespace Embedder.Machine

mutual

/-- The action that a body performs now, and the body for the next call: a sequence goes one step on
and stays at its last action. -/
def stepAction : Action → Action × Action
  | .sequence actions => stepFirst actions
  | a => (a, a)

/-- The same for a sequence. -/
def stepFirst : List Action → Action × Action
  | [] => (.give .none, .sequence [])
  | [a] =>
    let (now, next) := stepAction a
    (now, .sequence [next])
  | a :: b :: rest => ((stepAction a).1, .sequence (b :: rest))

end

/-- Drop a binding of the host, as its owner would: the reference is released while its interpreter
runs, queued while the lifecycle is busy, and otherwise forgotten. A binding that is being called
lives on until the call ends. -/
def dropSlot (name : String) : Exec Unit := do
  let w ← get
  match w.slots.lookup name with
  | none => pure ()
  | some s => do
    modify fun w => { w with slots := w.slots.filter fun e => e.1 ≠ name }
    if !s.inCall then
      if w.busy then
        modify fun w => { w with notices := w.notices ++ [.deferred ⟨s.callable, s.generation⟩] }
      else if s.generation = w.generation then release s.callable
      else modify fun w => { w with notices := w.notices ++ [.leaked s.generation] }

/-- Perform an action with some arguments. -/
def runAction (args : List Obj) : Action → Exec Obj
  | .give s => build "fn" s
  | .raise e => do
    let o ← buildError e
    let v ← raisable o
    throwAgain v
  | .echo i =>
    match args[i]? with
    | some o => newRef o
    | none => throwNew .indexError "tuple index out of range"
  | .argCount => do
    let n ← newInt args.length
    newListOf [n]
  | .note text => do
    modify fun w => { w with notes := w.notes ++ [text] }
    pure noneObj
  | .dropSlot slot => do
    dropSlot slot
    pure noneObj
  | .sequence _ => pure noneObj

/-- Call a scripted function. -/
def runScript (f : Obj) (name qualifiedName : String) (body : Action) (args : List Obj) :
    Exec Obj := do
  let (now, next) := stepAction body
  setPayload f (.function name qualifiedName (.script next))
  Exec.thenAlways (inFrame (scriptFrame name) (runAction args now)) (leaveCall args)

end Embedder.Machine
