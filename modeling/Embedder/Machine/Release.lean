import Embedder.Machine.World

/-!
# Releasing references

An object whose last reference goes is finalized by its `__del__`, if it has one, and then lets go
of what it refers to: its attributes first, then its parts, a list or tuple from the end. What ends
on the way ends at once, up to a depth; beyond it objects wait until the first one is gone, and then
end in turn, the last first.
-/

namespace Embedder.Machine

/-- The objects in the slots of a container. -/
def slotItems (slots : Array (Option Obj)) : List Obj := slots.toList.filterMap id

/-- The references that the rest of a generator holds. -/
def Remaining.references : Remaining → List Obj
  | .elements a _ _ _ source => source :: a.values.map (·.2)
  | .statements a _ => a.values.map (·.2)
  | _ => []

/-- The references that a payload holds, in the order in which they are released. -/
def Payload.references : Payload → List Obj
  | .list slots => (slotItems slots).reverse
  | .tuple slots => (slotItems slots).reverse
  | .set table => table.places.toList.filterMap fun e => e.map (·.key)
  | .dict items => items.flatMap fun e => [e.key, e.value]
  | .cursor source _ => source.toList
  | .letters source _ => source.toList
  | .countdown source _ => source.toList
  | .enumeration source _ last => [source, last]
  | .zipped sources last => sources.reverse ++ [last]
  | .mapped f sources => sources.reverse ++ [f]
  | .filtered test source => [test, source]
  | .calls rest => (rest.toList).flatMap fun (f, last) => [f, last]
  | .generator rest _ => rest.references
  | .bound _ _ self => [self]
  | .descriptor owner _ _ => [owner]
  | .method f s => [f, s]
  | .error info => info.fields.map (·.2) ++ info.args :: info.cause.toList ++ info.context.toList
  | .property getter => [getter]
  | .slice start stop step => [step, start, stop]
  | .unbound target => [target]
  | .above top seen => top :: (seen.toList).flatMap fun (o, c) => [o, c]
  | .cls info => info.members.map (·.2) ++ info.shownName.toList ++ [info.base]
  | _ => []

/-- The references that a cell holds, in the order in which they are released. An exception lets go
of what it has beside its arguments first. -/
def Cell.references (c : Cell) : List Obj :=
  let own := c.attrs.map (·.2) ++ c.space.toList
  let kept := c.kept.map (·.2)
  match c.payload with
  | .error info =>
    info.fields.map (·.2) ++ own ++ kept ++ info.args :: info.cause.toList ++
      info.context.toList ++ [c.cls]
  | p => own ++ kept ++ p.references ++ [c.cls]

/-- The number of references that one release may release. -/
def releaseFuel : Nat := 2 ^ 40

/-- Call back into Python code with some objects. -/
def callObj (f : Obj) (args : List Obj) : Exec Obj := fun e => e.call f args

/-- A special method as it is found for an object: what is called, a new reference, and what stands
before the arguments. -/
structure Special where
  callee : Obj
  front : List Obj

/-- The special method that a member of an object's class makes: a function takes the object before
its arguments, a property is asked for its value, anything else is called as it is. -/
def specialFrom (o m : Obj) : Exec Special := do
  match ← payloadOf m with
  | .function .. => do pure ⟨← newRef m, [o]⟩
  | .property getter => do pure ⟨← callObj getter [o], []⟩
  | _ => do pure ⟨← newRef m, []⟩

/-- Call a special method with nothing more. What it raises is reported; what it gives or raises is
given back with the method, for their references to be released. -/
def Special.runReporting (s : Special) : Exec (List Obj) := do
  match ← Exec.outcome (callObj s.callee s.front) with
  | .ok v => pure [v, s.callee]
  | .error r => do
    let _ ← Exec.outcome fun e => e.report s.callee r
    pure [r.value, s.callee]

/-- Run the finalizer of an object, of whose class it is a member. One that is not to be had is
passed over in silence. What is left over is given back, for its references to be released. -/
def runFinalizer (o finalizer : Obj) : Exec (List Obj) := do
  editCell o fun c => { c with finalized := true }
  match ← Exec.outcome (specialFrom o finalizer) with
  | .ok s => s.runReporting
  | .error r => pure [r.value]

/-! ## The end of objects -/

/-- A step of a release. -/
inductive ReleaseStep where
  /-- Release a reference. -/
  | drop (o : Obj)
  /-- The last reference to an object is gone: finalize it. -/
  | finish (o : Obj)
  /-- Let an object go that is finalized, unless its finalizer passed it on. -/
  | dissolve (o : Obj)
  /-- Let a namespace go with its values. -/
  | dropSpace (values : List Obj)
  /-- Something that counts for the depth is gone. -/
  | leave
  /-- See to the objects that wait. -/
  | attend

/-- The number of objects that can end inside each other. -/
def releaseDepth : Nat := 50

/-- Whether exceptions of a built-in class end without regard to the depth: those that have data of
their own beside a key or an argument. -/
def Builtin.endsAtOnce (c : Builtin) : Bool :=
  [Builtin.stopIteration, .systemExit, .baseExceptionGroup, .importError, .osError, .nameError,
    .attributeError, .syntaxError, .memoryError, .unicodeEncodeError, .unicodeDecodeError,
    .unicodeTranslateError].any c.isSubclass

/-- Whether the end of an object counts for the depth: that of containers, of exceptions, of
tracebacks, of methods from birth and of all objects of scripted classes does. -/
def World.countsDepth (w : World) (c : Cell) : Bool :=
  match w.classView c.cls with
  | .builtin b =>
    match b with
    | .list | .tuple | .dict | .set | .frozenset | .builtinFunction | .methodWrapper
    | .traceback => true
    | b => b.isException && !b.endsAtOnce
  | _ => true

/-- Let an object wait for its end until all that it is a part of has ended. -/
def postpone (o : Obj) : Exec Unit := modify fun w => { w with waiting := o :: w.waiting }

/-- What an object releases when it goes. Modules, functions and exceptions have a namespace of
their own from the start, plain objects have it only when it was asked for. -/
def Cell.lastSteps (c : Cell) : List ReleaseStep :=
  let own := c.attrs.map (·.2)
  let kept := c.kept.map fun e => ReleaseStep.drop e.2
  let space := c.space.toList.map ReleaseStep.drop
  let spaced := if own.isEmpty then space else .dropSpace own :: space
  match c.payload with
  | .error info =>
    info.fields.map (fun e => .drop e.2) ++ spaced ++ kept ++
      (info.args :: info.cause.toList ++ info.context.toList ++ [c.cls]).map .drop
  | .moduleNamed _ | .function .. => spaced ++ kept ++ (c.payload.references ++ [c.cls]).map .drop
  | p => own.map .drop ++ space ++ kept ++ (p.references ++ [c.cls]).map .drop

/-- The last steps of an object: its finalizer runs first, if it has one that did not run so far. -/
def endOf (o : Obj) : Exec (List ReleaseStep) := do
  let w ← get
  let c := w.cell o
  match if c.finalized then none else w.member? c.cls "__del__" with
  | some finalizer => do
    let results ← runFinalizer o finalizer
    pure (results.map .drop ++ [.dissolve o])
  | none => pure [.dissolve o]

/-- Something that counts for the depth ends by some steps; at the greatest depth it waits. -/
def atDepth (steps : Exec (List ReleaseStep)) (waits : Exec Unit) : Exec (List ReleaseStep) := do
  let w ← get
  if w.depth < releaseDepth then do
    set { w with depth := w.depth + 1 }
    let s ← steps
    pure (s ++ [.leave])
  else do
    waits
    pure []

/-- Take a step of a release; what is to be done before all others. -/
def ReleaseStep.take : ReleaseStep → Exec (List ReleaseStep)
  | drop o => do
    let c ← cellOf o
    if c.immortal ∨ c.refs = 0 then pure []
    else if 1 < c.refs then do
      editCell o fun c => { c with refs := c.refs - 1 }
      pure []
    else pure [finish o]
  | finish o => do
    let w ← get
    if w.countsDepth (w.cell o) then atDepth (endOf o) (postpone o) else endOf o
  | dissolve o => do
    let c ← cellOf o
    if 1 < c.refs then do
      editCell o fun c => { c with refs := c.refs - 1 }
      pure []
    else do
      editCell o fun c =>
        { c with refs := 0, payload := .plain, attrs := [], space := none, kept := [] }
      pure c.lastSteps
  | dropSpace values =>
    atDepth (pure (values.map drop)) do postpone (← newListOf values.reverse)
  | leave => do
    let w ← get
    if w.depth = 1 ∧ w.waiting ≠ [] then pure [attend]
    else do
      set { w with depth := w.depth - 1 }
      pure []
  | attend => do
    let w ← get
    match w.waiting with
    | [] => pure [leave]
    | o :: others => do
      set { w with waiting := others }
      pure [finish o, attend]

/-- Take the steps of a release, and those that come of them, at most `fuel`. -/
def takeSteps : (fuel : Nat) → List ReleaseStep → Exec Unit
  | 0, _ => pure ()
  | _, [] => pure ()
  | fuel + 1, step :: rest => do
    let first ← step.take
    takeSteps fuel (first ++ rest)

/-- Release some references in order. -/
def releaseList (os : List Obj) : Exec Unit := takeSteps releaseFuel (os.map .drop)

/-- What becomes of the arguments of a call that is over: they are let go together, which at the
greatest depth has to wait. -/
def leaveCall (args : List Obj) : Exec Unit := do
  if (← get).depth = releaseDepth ∧ args ≠ [] then do
    args.forM incref
    postpone (← newTupleOf args)

/-- Release one reference. -/
def release (o : Obj) : Exec Unit := releaseList [o]

/-- Run a program with an object, and release the object after it. -/
def holding {α : Type} (o : Obj) (x : Exec α) : Exec α := Exec.thenAlways x (release o)

/-- Run a program with some objects, and release them after it. -/
def holdingAll {α : Type} (os : List Obj) (x : Exec α) : Exec α :=
  Exec.thenAlways x (releaseList os)

/-- Run a program; if it raises an exception that `p` accepts, release that and go on otherwise. -/
def recover {α : Type} (x : Exec α) (p : Raised → Exec Bool) (y : Exec α) : Exec α := do
  match ← Exec.outcome x with
  | .ok a => pure a
  | .error r =>
    if ← p r then do
      release r.value
      y
    else throw r

/-- What is made of an object when it is asked for under a name, and kept from then on. -/
def keptAs (o : Obj) (name : String) (x : Exec Obj) : Exec Obj := do
  match (← cellOf o).kept.lookup name with
  | some v => newRef v
  | none => do
    let v ← x
    incref v
    editCell o fun c => { c with kept := c.kept ++ [(name, v)] }
    pure v

/-- Whether what was raised is an exception of a built-in class. -/
def raisedIs (c : Builtin) (r : Raised) : Exec Bool := do
  let w ← get
  pure (w.isSubclass (w.cell r.value).cls c.obj)

end Embedder.Machine
