import Embedder.Scenario.InterfaceCall
import Embedder.Scenario.Number

/-!
# Processes that embed the interpreter

A process is a host state together with what its program has in hand: the bindings and the tickets
that the bridge gave it. It goes on by operations of the bridge, in any order, with any arguments
and from any thread; between two of them, code outside the bridge may change the interpreter as it
likes (`Step`). Inside a session a program has handles and walks in hand, and goes on by tasks.

The history of a process is what a host could have noted down of its operations: that a start got
past initialization, that a binding was made, that an id was handed out or revoked.
-/

namespace Embedder

open Scenario

variable {σ α : Type} (G : Guest σ)

/-- If the program returns, what it gives is as said. A program that does not return ended the
process. -/
def Ends (x : Except Exit α) (P : α → Prop) : Prop := ∀ a, x = .ok a → P a

/-! ## Inside a session -/

/-- What a program has in hand inside a session. -/
structure Desk where
  handles : List Handle
  walks : List Walk

namespace Desk

def empty : Desk := ⟨[], []⟩

/-- The desk with a handle, if there is one. -/
def take {ε : Type} (d : Desk) : Except ε Handle → Desk
  | .ok h => { d with handles := d.handles ++ [h] }
  | .error _ => d

/-- End all that lies on a desk. -/
def clear (d : Desk) : Bridge σ Unit := do
  Handle.dropAll G d.handles
  Handle.dropAll G (d.walks.map (·.next))

end Desk

/-- What a program does inside a session. An object that a task is about need not be on the desk. -/
inductive Task where
  | toList (args : Numbers)
  /-- Make a list of values of a type that refuses some of them. -/
  | toPickyList (values : List Double)
  | fromList (seq : Obj) (result : ElementKind)
  | encode (n : Number)
  | decode (o : Obj) (result : ElementKind)
  /-- Begin a walk. -/
  | walk (iterable : Obj)
  /-- Go one step further in a walk, and keep the item. -/
  | next (i : Nat)
  | endWalk (i : Nat)
  | drop (i : Nat)
  /-- Take the exception that something left, if it left one. -/
  | drain (left : Option Pending)
  | fetch (context : String) (left : Option Pending)

namespace Task

/-- Leave an exception, if there is one. -/
def leave : Option Pending → Bridge σ Unit
  | none => pure ()
  | some p => Exception.raise G p

/-- Perform a task. -/
def perform : Task → Desk → Bridge σ Desk
  | .toList args, d => do
    let r ← (Sequence.toList G (encoder G args.kind) args.values).run
    pure (d.take r)
  | .toPickyList values, d => do
    let r ← (Sequence.toList G (pickyEncoder G) values).run
    pure (d.take r)
  | .fromList seq result, d => do
    let _ ← (Sequence.fromList G (decoder G result) (Handle.ofBorrowed seq)).run
    pure d
  | .encode n, d => do
    let r ← (n.encode G).run
    pure (d.take r)
  | .decode o result, d => do
    let _ ← ((decoder G result).decode (Handle.ofBorrowed o)).run
    pure d
  | .walk iterable, d => do
    match ← (Walk.start G (Handle.ofBorrowed iterable)).run with
    | .ok w => pure { d with walks := d.walks ++ [w] }
    | .error _ => pure d
  | .next i, d =>
    match d.walks[i]? with
    | none => pure d
    | some w => do
      match ← w.step G with
      | (.item h, w) => pure ⟨d.handles ++ [h], d.walks.set i w⟩
      | (.failed _, w) => pure { d with walks := d.walks.set i w }
      | (.finished, w) => pure { d with walks := d.walks.set i w }
  | .endWalk i, d =>
    match d.walks[i]? with
    | none => pure d
    | some w => do
      w.drop G
      pure { d with walks := d.walks.eraseIdx i }
  | .drop i, d =>
    match d.handles[i]? with
    | none => pure d
    | some h => do
      h.drop G
      pure { d with handles := d.handles.eraseIdx i }
  | .drain left, d => do
    leave G left
    let _ ← Exception.drain G
    pure d
  | .fetch context left, d => do
    leave G left
    let _ ← Exception.fetch G context
    pure d

/-- Perform tasks one after the other. -/
def performAll : List Task → Desk → Bridge σ Desk
  | [], d => pure d
  | t :: rest, d => do
    let d ← t.perform G d
    performAll rest d

/-- A session in which tasks are performed; what is left on the desk ends with it. -/
def session (tasks : List Task) : Attempt σ Failure Unit :=
  Session.enter G do
    let d ← (performAll G tasks Desk.empty : Bridge σ Desk)
    (d.clear G : Bridge σ Unit)

end Task

/-! ## Operations -/

/-- What the program of a host has in hand between two operations. -/
structure Caller where
  bindings : List Binding
  tickets : List Ticket

/-- What a host could have noted down of an operation. -/
inductive Event where
  /-- A start got past initialization. -/
  | started
  /-- A binding was made. It holds the reference. -/
  | bound (k : Kept)
  /-- An id was handed out by the registry of a generation. -/
  | issued (generation : Nat) (id : Int)
  /-- An id was taken back. -/
  | revoked (generation : Nat) (id : Int)
  deriving DecidableEq, Repr

/-- An operation of the bridge. Bindings and tickets are named by their places in hand. -/
inductive Operation where
  /-- The part of a start that brings the interpreter up. -/
  | launch (thread : ThreadId) (config : Config)
  | start (thread : ThreadId) (config : Config)
  | stop (thread : ThreadId)
  | appendPath (path : SearchPath)
  | setPrinting (enabled : Bool)
  | installLog (level : Log.Level)
  | callFunction (moduleName function : String) (args : Numbers) (result : ElementKind)
  | bind (moduleName function : String)
  | callBinding (i : Nat) (args : Numbers) (result : ElementKind)
  /-- Drop a binding, while another thread is in the middle of a start or a stop or not. -/
  | dropBinding (busy : Bool) (i : Nat)
  | insert (i : Nat)
  | find (id : Int)
  | remove (id : Int)
  | size
  | callTicket (i : Nat) (args : Numbers) (result : ElementKind)
  | cloneTicket (i : Nat)
  | dropTicket (busy : Bool) (i : Nat)
  | session (tasks : List Task)

/-- Whether a start with this configuration gets past initialization. -/
def Interpreter.launches (config : Config) (h : Host σ) : Bool :=
  (startRefusal config h).isNone && !G.isUp h.world &&
    G.isUp (G.boot (h.lifecycle.generation + 1) h.world)

/-- The configuration with which a call of the C interface starts the interpreter, if it does. -/
def Scenario.InterfaceCall.config? : InterfaceCall → Option Config
  | .start e => some (Config.ofEnvironment e)
  | .startWithConfig json => (CInterface.argText "config" json >>= Config.ofJson?).toOption
  | _ => none

/-- What can be read off the answer to a call of the C interface. -/
def Scenario.InterfaceCall.events (generation : Nat) :
    InterfaceCall → InterfaceValue → List Event
  | .bind .., .id _ (some id) => [.issued generation id]
  | .unbind id, .status code => if code = 0 then [.revoked generation id] else []
  | _, _ => []

namespace Operation

/-- The note on a start. -/
def startEvents (launched : Bool) : List Event := if launched then [.started] else []

/-- The current generation. -/
def generation : Bridge σ Nat := do pure (← get).lifecycle.generation

theorem generation_ok {g : Nat} {h h' : Host σ}
    (hg : (generation : Bridge σ Nat).run h = .ok (g, h')) :
    g = h.lifecycle.generation ∧ h' = h := by
  cases hg
  exact ⟨rfl, rfl⟩

/-- Perform an operation. -/
def perform : Operation → Caller → Bridge σ (Caller × List Event)
  | .launch thread config, c => do
    let launched := Interpreter.launches G config (← get)
    let _ ← (Interpreter.launch G thread config).run
    pure (c, startEvents launched)
  | .start thread config, c => do
    let launched := Interpreter.launches G config (← get)
    let _ ← (Interpreter.start G thread config).run
    pure (c, startEvents launched)
  | .stop thread, c => do
    let _ ← (Interpreter.stop G thread).run
    pure (c, [])
  | .appendPath path, c => do
    let _ ← (Interpreter.appendPath G path).run
    pure (c, [])
  | .setPrinting enabled, c => do
    Interpreter.setPrinting enabled
    pure (c, [])
  | .installLog level, c => do
    let _ ← Interpreter.installLog level
    pure (c, [])
  | .callFunction moduleName function args result, c => do
    let _ ← (Embedder.callFunction G (encoder G args.kind) (decoder G result) moduleName function
      args.values).run
    pure (c, [])
  | .bind moduleName function, c => do
    match ← (Binding.bind G moduleName function).run with
    | .ok b => pure ({ c with bindings := c.bindings ++ [b] }, [.bound b.kept])
    | .error _ => pure (c, [])
  | .callBinding i args result, c =>
    match c.bindings[i]? with
    | none => pure (c, [])
    | some b => do
      let _ ← (b.callAs G (encoder G args.kind) (decoder G result) args.values).run
      pure (c, [])
  | .dropBinding busy i, c =>
    match c.bindings[i]? with
    | none => pure (c, [])
    | some b => do
      b.drop G busy
      pure ({ c with bindings := c.bindings.eraseIdx i }, [])
  | .insert i, c =>
    match c.bindings[i]? with
    | none => pure (c, [])
    | some b => do
      let c := { c with bindings := c.bindings.eraseIdx i }
      match ← (Registry.insert G b).run with
      | .ok id => pure (c, [.issued (← generation) id])
      | .error _ => pure (c, [])
  | .find id, c => do
    match ← (Registry.find id : Attempt σ Failure Ticket).run with
    | .ok t => pure ({ c with tickets := c.tickets ++ [t] }, [])
    | .error _ => pure (c, [])
  | .remove id, c => do
    match ← (Registry.remove id : Attempt σ Failure Ticket).run with
    | .ok t => pure ({ c with tickets := c.tickets ++ [t] }, [.revoked (← generation) id])
    | .error _ => pure (c, [])
  | .size, c => do
    let _ ← (Registry.size : Attempt σ Failure Nat).run
    pure (c, [])
  | .callTicket i args result, c =>
    match c.tickets[i]? with
    | none => pure (c, [])
    | some t => do
      let _ ← (t.call G (encoder G args.kind) (decoder G result) args.values).run
      pure (c, [])
  | .cloneTicket i, c =>
    match c.tickets[i]? with
    | none => pure (c, [])
    | some t => do
      let t ← t.clone
      pure ({ c with tickets := c.tickets ++ [t] }, [])
  | .dropTicket busy i, c =>
    match c.tickets[i]? with
    | none => pure (c, [])
    | some t => do
      t.drop G busy
      pure ({ c with tickets := c.tickets.eraseIdx i }, [])
  | .session tasks, c => do
    let _ ← (Task.session G tasks).run
    pure (c, [])

end Operation

/-! ## Runs -/

/-- One step of a process. -/
inductive Step (σ : Type) where
  | perform (op : Operation)
  /-- A thread calls the C interface. -/
  | interface (thread : ThreadId) (call : InterfaceCall)
  /-- Code outside the bridge changes the interpreter. -/
  | outside (f : σ → σ)

/-- A process: its host, what its program has in hand, and its history, the oldest event first. -/
structure Process (σ : Type) where
  host : Host σ
  caller : Caller
  history : List Event

namespace Process

/-- A process that has not used the bridge. -/
def fresh (world : σ) : Process σ := ⟨Host.fresh world, ⟨[], []⟩, []⟩

/-- Take one step. -/
def step : Step σ → Process σ → Except Exit (Process σ)
  | .perform op, p => do
    let ((caller, events), host) ← (op.perform G p.caller).run p.host
    pure ⟨host, caller, p.history ++ events⟩
  | .interface thread call, p => do
    let launched := call.config?.any (Interpreter.launches G · p.host)
    let (v, host) ← (call.perform G thread).run p.host
    let events := Operation.startEvents launched ++ call.events host.lifecycle.generation v
    pure ⟨host, p.caller, p.history ++ events⟩
  | .outside f, p => .ok { p with host := { p.host with world := f p.host.world } }

/-- Take steps one after the other. -/
def run : List (Step σ) → Process σ → Except Exit (Process σ)
  | [], p => .ok p
  | s :: rest, p => do
    let p ← step G s p
    run rest p

variable {G} {p p' : Process σ}

theorem step_perform_ok {op : Operation} (hs : p.step G (.perform op) = .ok p') :
    ∃ events, (op.perform G p.caller).run p.host = .ok ((p'.caller, events), p'.host) ∧
      p'.history = p.history ++ events := by
  change (op.perform G p.caller).run p.host >>= (fun r => .ok ⟨r.2, r.1.1, p.history ++ r.1.2⟩) =
    Except.ok p' at hs
  cases hop : (op.perform G p.caller).run p.host with
  | error e =>
    rw [hop] at hs
    cases hs
  | ok r =>
    rw [hop] at hs
    cases hs
    exact ⟨r.1.2, rfl, rfl⟩

theorem step_interface_ok {thread : ThreadId} {call : InterfaceCall}
    (hs : p.step G (.interface thread call) = .ok p') :
    ∃ v, (call.perform G thread).run p.host = .ok (v, p'.host) ∧
      p'.history = p.history ++ (Operation.startEvents
        (call.config?.any (Interpreter.launches G · p.host)) ++
        call.events p'.host.lifecycle.generation v) := by
  change (call.perform G thread).run p.host >>= (fun r => .ok ⟨r.2, p.caller, p.history ++
    (Operation.startEvents (call.config?.any (Interpreter.launches G · p.host)) ++
      call.events r.2.lifecycle.generation r.1)⟩) = Except.ok p' at hs
  cases hcall : (call.perform G thread).run p.host with
  | error e =>
    rw [hcall] at hs
    cases hs
  | ok r =>
    rw [hcall] at hs
    cases hs
    exact ⟨r.1, rfl, rfl⟩

/-- A run begins with its first step. -/
theorem run_cons_ok {s : Step σ} {rest : List (Step σ)} (hr : p.run G (s :: rest) = .ok p') :
    ∃ p₁, p.step G s = .ok p₁ ∧ p₁.run G rest = .ok p' := by
  change p.step G s >>= (fun p₁ => run G rest p₁) = .ok p' at hr
  cases hs : p.step G s with
  | error e =>
    rw [hs] at hr
    cases hr
  | ok p₁ =>
    rw [hs] at hr
    exact ⟨p₁, rfl, hr⟩

theorem run_append (ys : List (Step σ)) : ∀ (xs : List (Step σ)) (p : Process σ),
    p.run G (xs ++ ys) = p.run G xs >>= run G ys := by
  intro xs
  induction xs with
  | nil => intro p; rfl
  | cons s rest ih =>
    intro p
    simp only [List.cons_append, run, bind_assoc, ih]

theorem run_append_ok {xs ys : List (Step σ)} (hr : p.run G (xs ++ ys) = .ok p') :
    ∃ q, p.run G xs = .ok q ∧ q.run G ys = .ok p' := by
  rw [run_append] at hr
  cases hx : p.run G xs with
  | error e =>
    rw [hx] at hr
    cases hr
  | ok q =>
    rw [hx] at hr
    exact ⟨q, rfl, hr⟩

theorem run_append_of_ok {xs ys : List (Step σ)} {q : Process σ} (hx : p.run G xs = .ok q)
    (hy : q.run G ys = .ok p') : p.run G (xs ++ ys) = .ok p' := by
  rw [run_append, hx]
  exact hy

/-- What every step keeps, a run keeps. -/
theorem run_preserves {P : Process σ → Prop}
    (hstep : ∀ {s p p'}, P p → p.step G s = .ok p' → P p') :
    ∀ {steps : List (Step σ)} {p p' : Process σ}, P p → p.run G steps = .ok p' → P p' := by
  intro steps
  induction steps with
  | nil =>
    intro p p' hp hr
    cases hr
    exact hp
  | cons s rest ih =>
    intro p p' hp hr
    obtain ⟨p₁, hs, hrest⟩ := run_cons_ok hr
    exact ih (hstep hp hs) hrest

end Process

end Embedder
