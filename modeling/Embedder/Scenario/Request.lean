import Embedder.Interpreter
import Embedder.Scenario.Reply
import Embedder.Scenario.Setup

/-!
# Requests of a typed caller

The steps of a scenario that use the bridge as a program in the host's language does. Bindings that
a scenario makes are kept in slots of the world, where Python code can drop them too.
-/

namespace Embedder.Scenario

open Machine

/-- An exception to leave pending: a class and a value. -/
structure Raising where
  kind : Spec
  value : Option Spec

/-- A request to the bridge. -/
inductive Request where
  | start (config : Config) (thread : ThreadId)
  | stop (thread : ThreadId)
  | stage
  /-- Bring the interpreter up behind the bridge's back. -/
  | startOutside
  | appendPath (p : SearchPath)
  /-- The entries that the search path has beyond the standard ones. -/
  | searchPath
  | setPrinting (enabled : Bool)
  | installLog (level : Log.Level)
  /-- Free a result that is a null pointer. -/
  | freeNull
  | call (moduleName function : String) (args : Numbers) (result : ElementKind)
  | bind (slot moduleName function : String)
  | callBound (slot : String) (args : Numbers) (result : ElementKind)
  | dropBinding (slot : String)
  /-- The references to a function of a module. -/
  | refcount (moduleName function : String)
  /-- Numbers to a list and back. -/
  | roundTrip (args : Numbers) (result : ElementKind)
  /-- The same with a host type that refuses negative values. -/
  | picky (values : List Double)
  | fromList (object : Spec) (result : ElementKind)
  | scalar (object : Spec) (result : ElementKind)
  /-- Go some steps along an object. -/
  | iterate (object : Spec) (times : Nat)
  | drain (raising : Option Raising)
  | fetch (context : String) (raising : Option Raising)
  | registrySize
  | registryFind (id : Int)
  | registryRemove (id : Int)
  | registryInsert (moduleName function : String)
  /-- Hold a binding, remove its id, call it. -/
  | removeAndCall (id : Int) (values : List Double)
  /-- Hold a binding, stop the interpreter, call it. -/
  | stopAndCall (id : Int) (values : List Double)

/-! ## Bindings in slots -/

/-- The binding in a slot. -/
def Binding.ofSlot (s : Slot) : Binding := ⟨s.moduleName, s.function, s.callable, s.generation⟩

/-- The slot for a binding that is not being called. -/
def slotOf (b : Binding) : Slot := ⟨b.moduleName, b.function, b.callable, b.generation, false⟩

/-- The contents of a slot. -/
def findSlot (name : String) : Bridge World (Option Slot) :=
  Bridge.inspect fun w => w.slots.lookup name

/-- Empty a slot without ending what it holds. -/
def clearSlot (name : String) : Bridge World Unit :=
  Bridge.alter fun w => { w with slots := w.slots.filter fun e => e.1 ≠ name }

/-- Fill a slot. -/
def fillSlot (name : String) (s : Slot) : Bridge World Unit :=
  Bridge.alter fun w =>
    { w with slots := (w.slots.filter fun e => e.1 ≠ name) ++ [(name, s)] }

/-- Drop the binding in a slot; whether there was one. -/
def dropBinding (name : String) : Bridge World Bool := do
  match ← findSlot name with
  | none => pure false
  | some s => do
    clearSlot name
    (Binding.ofSlot s).drop python false
    pure true

/-- Bind a function and put the binding into a slot, in place of what was there. -/
def bindSlot (name moduleName function : String) : Attempt World Failure Value := do
  let b ← Binding.bind python moduleName function
  let replace : Bridge World Unit := do
    let old ← findSlot name
    fillSlot name (slotOf b)
    match old with
    | none => pure ()
    | some s => (Binding.ofSlot s).drop python false
  replace
  pure (.function b.moduleName b.function)

/-- Call the binding in a slot. If the slot is emptied meanwhile, the binding ends with the call. -/
def callSlot (name : String) (args : Numbers) (result : ElementKind) : Bridge World Reply := do
  match ← findSlot name with
  | none => pure .noSlot
  | some s => do
    fillSlot name { s with inCall := true }
    let b := Binding.ofSlot s
    let r ← replyTo do
      .numbers <$> b.callAs python (encoder python args.kind) (decoder python result) args.values
    match ← findSlot name with
    | some s => fillSlot name { s with inCall := false }
    | none => b.drop python false
    pure r

/-! ## Single requests -/

/-- The entries of a search path beyond the standard ones; none if it is no list. -/
def addedEntries (w : World) : Option (List Obj) :=
  match (w.attr? w.system "path").map fun o => (w.cell o).payload with
  | some (.list slots) => some ((slotItems slots).drop standardPaths.length)
  | _ => none

/-- The text of an object that someone else keeps alive, or the empty text if it has none. -/
def textOrEmpty (o : Obj) : Bridge World String := do
  match ← ((Handle.ofBorrowed o).str python).run with
  | .ok s => pure s
  | .error _ => pure ""

/-- The texts of the added entries of the search path. -/
def addedTexts : Bridge World (Option (List String)) := do
  match ← Bridge.inspect addedEntries with
  | none => pure none
  | some entries => some <$> entries.mapM textOrEmpty

/-- The added entries of the search path. -/
def readPath : Bridge World Reply := do
  let read : Attempt World Failure (Option (List String)) := Session.enter python addedTexts
  match ← read.run with
  | .ok entries => pure (.value (.path entries))
  | .error f => pure (.value (.pathRefused f))

/-- Use an object from a script in a session. -/
def withObject {α : Type} (s : Spec) (body : Handle → Attempt World Failure α) :
    Attempt World Failure α :=
  Session.enter python do
    let h ← (makeObject s).mapError Failure.raised
    h.within python (body h)

/-- Some steps of a walk, each described and released. -/
def walkSteps : Nat → Walk → Bridge World (List Item × Walk)
  | 0, w => pure ([], w)
  | n + 1, w => do
    let (step, w) ← w.step python
    let item ← match step with
      | .finished => pure Item.finished
      | .failed r => pure (Item.failed r)
      | .item h => .described <$> h.owning python (describe python h)
    let (items, w) ← walkSteps n w
    pure (item :: items, w)

/-- Walk along an object, whose own handle ends when the walk begins. -/
def walkAlong (times : Nat) (h : Handle) : Bridge World Value := do
  match ← h.owning python (Walk.start python h).run with
  | .error r => pure (.notWalkable r)
  | .ok w => do
    let (items, w) ← walkSteps times w
    let live := (← get).live
    w.drop python
    pure (.walk items live)

/-- Leave an exception pending. -/
def raise (r : Raising) : Attempt World Failure Unit := do
  let kind ← (makeObject r.kind).mapError Failure.raised
  kind.within python do
    let value ← r.value.mapM fun s => (makeObject s).mapError Failure.raised
    let work : Bridge World Unit := do
      let p ← Bridge.act fun w =>
        (partsFor kind.obj (value.map (·.obj))).effectFor ⟨kind.obj, none, none⟩ w
      Exception.raise python p
      Handle.dropAll python value.toList
    work

/-- Use what a session's own exception leaves. -/
def afterRaising (r : Option Raising) (body : Bridge World Value) : Attempt World Failure Value :=
  Session.enter python do
    match r with
    | none => pure ()
    | some r => raise r
    body

/-- What a ticket's binding is. -/
def nameTicket (t : Ticket) : Bridge World Value := do
  let share ← t.share?
  t.drop python false
  match share with
  | none => pure .nothing
  | some s => pure (.function s.binding.moduleName s.binding.function)

/-- Do something while a binding of the registry is held, then call it. -/
def holdAndCall (id : Int) (values : List Double) (body : Attempt World Failure Unit)
    (value : Except Failure Unit → Except Failure (List Int64) → Value) :
    Attempt World Failure Value := do
  let t ← Registry.find id
  let work : Bridge World Value := do
    let first ← body.run
    let called ← (t.call python (Scalar.encodeFloat python) (Scalar.decodeInt python) values).run
    t.drop python false
    pure (value first called)
  work

namespace Request

/-- Perform a request. -/
def run : Request → Bridge World Reply
  | .start config thread => replyTo do
    Interpreter.start python thread config
    pure .nothing
  | .stop thread => replyTo do
    Interpreter.stop python thread
    pure .nothing
  | .stage => do
    let s ← Interpreter.stage
    pure (.value (.stage s))
  | .startOutside => do
    Bridge.alter fun w => if w.up then w else w.boot 0
    pure (.value .nothing)
  | .appendPath p => replyTo do
    Interpreter.appendPath python p
    pure .nothing
  | .searchPath => readPath
  | .setPrinting enabled => do
    Interpreter.setPrinting enabled
    pure (.value .nothing)
  | .installLog level => do
    let b ← Interpreter.installLog level
    pure (.value (.flag b))
  | .freeNull => pure (.value .nothing)
  | .call moduleName function args result => replyTo do
    .numbers <$> callFunction python (encoder python args.kind) (decoder python result)
      moduleName function args.values
  | .bind slot moduleName function => replyTo (bindSlot slot moduleName function)
  | .callBound slot args result => callSlot slot args result
  | .dropBinding slot => do
    let b ← Scenario.dropBinding slot
    pure (.value (.flag b))
  | .refcount moduleName function => replyTo <|
    Session.enter python do
      let m ← ModuleHandle.importAs python moduleName
      let c ← m.resolveCallable python function
      .count <$> (c.handle.refcount python : Bridge World Int)
  | .roundTrip args result => replyTo <|
    Session.enter python do
      let list ← Sequence.toList python (encoder python args.kind) args.values
      .numbers <$> list.within python (Sequence.fromList python (decoder python result) list)
  | .picky values => replyTo <|
    Session.enter python do
      let list ← Sequence.toList python (pickyEncoder python) values
      .numbers <$> list.within python (Sequence.fromList python (decoder python .float64) list)
  | .fromList object result => replyTo <|
    withObject object fun h =>
      .numbers <$> Sequence.fromList python (decoder python result) h
  | .scalar object result => replyTo <|
    withObject object fun h => do
      let r ← (((decoder python result).decode h).run : Bridge World _)
      pure (.scalar r)
  | .iterate object times => replyTo <|
    Session.enter python do
      let h ← (makeObject object).mapError Failure.raised
      (walkAlong times h : Bridge World Value)
  | .drain raising => replyTo <| afterRaising raising do
    let r ← Exception.drain python
    pure (.report r)
  | .fetch context raising => replyTo <| afterRaising raising do
    let r ← Exception.fetch python context
    pure (.report (some r))
  | .registrySize => replyTo do
    (fun n : Nat => .count n) <$> (Registry.size : Attempt World Failure Nat)
  | .registryFind id => replyTo do
    let t ← Registry.find id
    (nameTicket t : Bridge World Value)
  | .registryRemove id => replyTo do
    let t ← Registry.remove id
    (nameTicket t : Bridge World Value)
  | .registryInsert moduleName function => replyTo do
    let b ← Binding.bind python moduleName function
    .count <$> Registry.insert python b
  | .removeAndCall id values => replyTo <|
    holdAndCall id values
      (do
        let t ← Registry.remove id
        (t.drop python false : Bridge World Unit))
      .removedThenCalled
  | .stopAndCall id values => replyTo <|
    holdAndCall id values (Interpreter.stop python mainThread) .stoppedThenCalled

end Request

end Embedder.Scenario
