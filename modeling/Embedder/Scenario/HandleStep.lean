import Embedder.Invoke
import Embedder.Scenario.Reply
import Embedder.Scenario.Setup
import Embedder.Sequence

/-!
# Scenarios on handles

Handles live in named slots during one session. A step either makes a handle and stores it
(`Making`) or asks something of handles in slots (`Asking`). Some steps take what a slot holds. When
the session ends, all slots are released in the order of their names.
-/

namespace Embedder.Scenario

open Machine

/-- What a slot holds. -/
inductive Held where
  | handle (h : Handle)
  | moduleHandle (m : ModuleHandle)
  | callable (c : CallableHandle)
  /-- A reference that is not counted among the handles. -/
  | reference (o : Obj)
  deriving DecidableEq, Repr

namespace Held

/-- The handle in a slot. -/
def toHandle : Held → Handle
  | .handle h => h
  | .moduleHandle m => m.handle
  | .callable c => c.handle
  | .reference o => Handle.ofBorrowed o

/-- Release what a slot holds. -/
def drop : Held → Bridge World Unit
  | .reference o => Bridge.act (python.release o)
  | h => h.toHandle.drop python

/-- What a step that stores this answers. -/
def value : Held → Value
  | .handle h => .held h.ownership none
  | .moduleHandle m => .held m.handle.ownership (some m.name)
  | .callable c => .held c.handle.ownership (some c.qualifiedName)
  | .reference _ => .detached

end Held

/-- The slots of a session, by name. -/
structure Slots where
  entries : List (String × Held)
  deriving DecidableEq, Repr

namespace Slots

def empty : Slots := ⟨[]⟩

def find? (s : Slots) (name : String) : Option Held := s.entries.lookup name

/-- The slots without one. -/
def erase (s : Slots) (name : String) : Slots := ⟨s.entries.filter fun e => e.1 ≠ name⟩

/-- The slots with one filled anew. -/
def insert (s : Slots) (name : String) (h : Held) : Slots :=
  ⟨(s.erase name).entries ++ [(name, h)]⟩

/-- The contents in the order of the names. -/
def inOrder (s : Slots) : List Held :=
  (s.entries.mergeSort fun a b => !(decide (b.1 < a.1))).map (·.2)

end Slots

/-- A step that makes a handle. -/
inductive Making where
  | object (s : Spec)
  | text (s : String)
  | list (length : UInt64)
  | tuple (length : UInt64)
  | numbers (ns : Numbers)
  | attr (on name : String)
  | clone (on : String)
  | borrow (on : String)
  /-- Takes the slot. -/
  | promote (on : String)
  /-- Make a reference outside the handles. Takes the slot. -/
  | detach (on : String)
  /-- Make a handle from a reference outside the handles. -/
  | attach (on : String)
  /-- Make a handle from nothing, as after a failed call. -/
  | null (context : String)
  | imported (name : String)
  /-- Look an imported module up. Takes the slot. -/
  | moduleOf (on name : String)
  | moduleNamed (name : String)
  | callable (on name : String)
  | result (on : String) (args : List String)
  /-- Call with a tuple, or with nothing. -/
  | resultWith (on : String) (tuple : Option String)

/-- A step that asks something of handles. -/
inductive Asking where
  /-- Takes the slot of the item. -/
  | setListItem (on : String) (index : UInt64) (item : String)
  /-- Takes the slot of the item. -/
  | setTupleItem (on : String) (index : UInt64) (item : String)
  | append (on item : String)
  | length (on : String)
  | isEmpty (on : String)
  | isCallable (on : String)
  | str (on : String)
  | ownership (on : String)
  | refcount (on : String)
  | same (on item : String)
  /-- Takes the slot. -/
  | steal (on : String)
  /-- Takes the slot. -/
  | drop (on : String)
  | scalar (on : String) (kind : ElementKind)
  | numbers (on : String) (kind : ElementKind)
  | describe (on : String)

/-- A step on handles. -/
inductive HandleStep where
  | make (m : Making) (slot : String)
  | ask (a : Asking)

/-- Why a step on handles failed. -/
inductive Refusal where
  | noSlot
  | failed (f : Failure)

/-- The reply for a refusal. -/
def Refusal.reply : Refusal → Reply
  | .noSlot => .noSlot
  | .failed f => .failed f

/-- What a slot holds, which must be something. -/
def Slots.get (s : Slots) (name : String) : Attempt World Refusal Held :=
  ExceptT.mk (pure (match s.find? name with
    | none => .error .noSlot
    | some h => .ok h))

/-- The handle in a slot. -/
def Slots.getHandle (s : Slots) (name : String) : Attempt World Refusal Handle :=
  Held.toHandle <$> s.get name

/-- A failure of the bridge as a refusal. -/
def orFail {α : Type} (x : Attempt World Failure α) : Attempt World Refusal α :=
  x.mapError .failed

/-- An exception as a refusal. -/
def orRaise {α : Type} (x : Attempt World ExceptionReport α) : Attempt World Refusal α :=
  x.mapError fun r => .failed (.raised r)

namespace Making

/-- The slot that a step takes. -/
def taken : Making → Option String
  | .promote on | .detach on | .moduleOf on _ => some on
  | _ => none

/-- Make the handle of a step. -/
def perform (s : Slots) : Making → Attempt World Refusal Held
  | .object spec => .handle <$> orRaise (makeObject spec)
  | .text t => .handle <$> orRaise (Handle.newText python t)
  | .list n => .handle <$> orRaise (Handle.newList python n)
  | .tuple n => .handle <$> orRaise (Handle.newTuple python n)
  | .numbers ns =>
    .handle <$> orFail (Sequence.toList python (encoder python ns.kind) ns.values)
  | .attr on name => do
    let h ← s.getHandle on
    .handle <$> orRaise (h.getAttr python name)
  | .clone on => do
    let h ← s.getHandle on
    .handle <$> (h.clone python : Bridge World Handle)
  | .borrow on => do
    let h ← s.getHandle on
    pure (.handle (Handle.ofBorrowed h.obj))
  | .promote on => do
    match ← s.get on with
    | .callable c => do
      let h ← (c.handle.promote python : Bridge World Handle)
      pure (.callable { c with handle := h })
    | held => .handle <$> (held.toHandle.promote python : Bridge World Handle)
  | .detach on => do
    let h ← s.getHandle on
    .reference <$> (h.steal python : Bridge World Obj)
  | .attach on => do
    let h ← s.getHandle on
    .handle <$> (Handle.ofShared python h.obj : Bridge World Handle)
  | .null context => do
    let r ← (Exception.fetch python context : Bridge World ExceptionReport)
    throw (.failed (.raised r))
  | .imported name => .handle <$> orFail (ModuleHandle.resolve python name)
  | .moduleOf on name => do
    let h ← s.getHandle on
    .moduleHandle <$> orFail (ModuleHandle.bind python h name)
  | .moduleNamed name => .moduleHandle <$> orFail (ModuleHandle.importAs python name)
  | .callable on name => do
    match ← s.get on with
    | .moduleHandle m => .callable <$> orFail (m.resolveCallable python name)
    | _ => throw .noSlot
  | .result on args => do
    match ← s.get on with
    | .callable c => do
      let handles ← args.mapM s.getHandle
      .handle <$> orFail (match handles with
        | [h] => c.invokeOne python h
        | hs => c.invokeWith python hs)
    | _ => throw .noSlot
  | .resultWith on slot => do
    match ← s.get on with
    | .callable c => do
      let args ← slot.mapM s.getHandle
      .handle <$> orFail (c.invoke python args)
    | _ => throw .noSlot

end Making

namespace Asking

/-- The slot that a step takes. -/
def taken : Asking → Option String
  | .setListItem _ _ item | .setTupleItem _ _ item => some item
  | .steal on | .drop on => some on
  | _ => none

/-- The answer of a step. -/
def perform (s : Slots) : Asking → Attempt World Refusal Value
  | .setListItem on index item => do
    let h ← s.getHandle on
    let i ← s.getHandle item
    orRaise (h.setListItem python index i)
    pure .nothing
  | .setTupleItem on index item => do
    let h ← s.getHandle on
    let i ← s.getHandle item
    orRaise (h.setTupleItem python index i)
    pure .nothing
  | .append on item => do
    let h ← s.getHandle on
    let i ← s.getHandle item
    orRaise (h.append python i)
    pure .nothing
  | .length on => do
    let h ← s.getHandle on
    (fun n : Nat => .count n) <$> orRaise (h.length python)
  | .isEmpty on => do
    let h ← s.getHandle on
    .flag <$> orRaise (h.isEmpty python)
  | .isCallable on => do
    let h ← s.getHandle on
    .flag <$> (h.isCallable python : Bridge World Bool)
  | .str on => do
    let h ← s.getHandle on
    .text <$> orRaise (h.str python)
  | .ownership on => do
    let h ← s.getHandle on
    pure (.ownership h.ownership)
  | .refcount on => do
    let h ← s.getHandle on
    .count <$> (h.refcount python : Bridge World Int)
  | .same on item => do
    let h ← s.getHandle on
    let i ← s.getHandle item
    pure (.flag (h.obj = i.obj))
  | .steal on => do
    let h ← s.getHandle on
    let o ← (h.steal python : Bridge World Obj)
    let live := (← get).live
    (Bridge.act (python.release o) : Bridge World Unit)
    pure (.count live)
  | .drop on =>
    match s.find? on with
    | none => pure (.flag false)
    | some held => do
      (held.drop : Bridge World Unit)
      pure (.flag true)
  | .scalar on kind => do
    let h ← s.getHandle on
    .number <$> orRaise ((decoder python kind).decode h)
  | .numbers on kind => do
    let h ← s.getHandle on
    .numbers <$> orFail (Sequence.fromList python (decoder python kind) h)
  | .describe on => do
    let h ← s.getHandle on
    .description <$> (Scenario.describe python h : Bridge World Description)

end Asking

/-- The answer of a step on handles, with the live handles after it. -/
structure HandleReply where
  reply : Reply
  live : Int

namespace HandleStep

/-- Take a slot, if one is to be taken. -/
def without (s : Slots) : Option String → Slots
  | none => s
  | some name => s.erase name

/-- Store something in a slot, after releasing what was there. -/
def store (s : Slots) (name : String) (h : Held) : Bridge World Slots := do
  match s.find? name with
  | none => pure ()
  | some old => old.drop
  pure (s.insert name h)

/-- Run one step. -/
def run (s : Slots) : HandleStep → Bridge World (HandleReply × Slots)
  | .make m slot => do
    match ← (m.perform s).run with
    | .error e => do
      let live := (← get).live
      pure (⟨e.reply, live⟩, without s m.taken)
    | .ok h => do
      let s ← store (without s m.taken) slot h
      let live := (← get).live
      pure (⟨.value h.value, live⟩, s)
  | .ask a => do
    let r ← (a.perform s).run
    let live := (← get).live
    let reply := match r with
      | .ok v => Reply.value v
      | .error e => e.reply
    pure (⟨reply, live⟩, without s a.taken)

/-- Run steps in order. -/
def runAll : Slots → List HandleStep → Bridge World (List HandleReply × Slots)
  | s, [] => pure ([], s)
  | s, step :: steps => do
    let (reply, s) ← step.run s
    let (replies, s) ← runAll s steps
    pure (reply :: replies, s)

/-- Run steps in one session and release the slots at its end. -/
def session (steps : List HandleStep) : Attempt World Failure (List HandleReply) :=
  Session.enter python do
    let work : Bridge World (List HandleReply) := do
      let (replies, s) ← runAll Slots.empty steps
      s.inOrder.forM Held.drop
      pure replies
    work

end HandleStep

end Embedder.Scenario
