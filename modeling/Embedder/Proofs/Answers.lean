import Embedder.Proofs.Process
import Embedder.Proofs.Run

/-!
# What operations answer

An `Operation` goes on with what its caller has in hand and forgets what the bridge answered. Here
an operation is told in two parts: the program that gives the answer (`Operation.answer`), and how
the caller goes on after it (`Caller.after`). The same is done for the tasks inside a session. The
two parts make up the operation (`Operation.perform_eq`), so what is shown of a run with its answers
is shown of the run.

`Process.trace` is a run with the answer of each step.
-/

namespace Embedder

open Scenario

variable {σ α β : Type} (G : Guest σ)

/-! ## Inside a session -/

/-- What a task tells. -/
inductive Told where
  /-- There is nothing to tell, or nothing in the place that the task names. -/
  | nothing
  | list (r : Except Failure Handle)
  | numbers (r : Except Failure (List Number))
  | object (r : Except ExceptionReport Handle)
  | number (r : Except ExceptionReport Number)
  | walk (r : Except ExceptionReport Walk)
  | step (s : Walk.Step) (w : Walk)
  | drained (r : Option ExceptionReport)
  | fetched (r : ExceptionReport)

namespace Task

/-- What a task tells of what lies on a desk. -/
def answer : Task → Desk → Bridge σ Told
  | .toList args, _ => do
    let r ← (Sequence.toList G (encoder G args.kind) args.values).run
    pure (.list r)
  | .toPickyList values, _ => do
    let r ← (Sequence.toList G (pickyEncoder G) values).run
    pure (.list r)
  | .fromList seq result, _ => do
    let r ← (Sequence.fromList G (decoder G result) (Handle.ofBorrowed seq)).run
    pure (.numbers r)
  | .encode n, _ => do
    let r ← (n.encode G).run
    pure (.object r)
  | .decode o result, _ => do
    let r ← ((decoder G result).decode (Handle.ofBorrowed o)).run
    pure (.number r)
  | .walk iterable, _ => do
    let r ← (Walk.start G (Handle.ofBorrowed iterable)).run
    pure (.walk r)
  | .next i, d =>
    match d.walks[i]? with
    | none => pure .nothing
    | some w => do
      let (s, w) ← w.step G
      pure (.step s w)
  | .endWalk i, d =>
    match d.walks[i]? with
    | none => pure .nothing
    | some w => do
      w.drop G
      pure .nothing
  | .drop i, d =>
    match d.handles[i]? with
    | none => pure .nothing
    | some h => do
      h.drop G
      pure .nothing
  | .drain left, _ => do
    leave G left
    let r ← Exception.drain G
    pure (.drained r)
  | .fetch context left, _ => do
    leave G left
    let r ← Exception.fetch G context
    pure (.fetched r)

end Task

/-- The desk after a task told something. -/
def Desk.after (d : Desk) : Task → Told → Desk
  | .toList _, .list r => d.take r
  | .toPickyList _, .list r => d.take r
  | .encode _, .object r => d.take r
  | .walk _, .walk (.ok w) => { d with walks := d.walks ++ [w] }
  | .next i, .step (.item h) w => ⟨d.handles ++ [h], d.walks.set i w⟩
  | .next i, .step _ w => { d with walks := d.walks.set i w }
  | .endWalk i, _ => { d with walks := d.walks.eraseIdx i }
  | .drop i, _ => { d with handles := d.handles.eraseIdx i }
  | _, _ => d

namespace Task

/-- A task is its answer and what becomes of the desk. -/
theorem perform_eq (t : Task) (d : Desk) :
    t.perform G d = (do let a ← t.answer G d; pure (d.after t a)) := by
  cases t with
  | walk iterable =>
    simp only [perform, answer, bind_assoc, pure_bind]
    congr 1
    funext r
    cases r <;> rfl
  | next i =>
    simp only [perform, answer]
    cases d.walks[i]? with
    | none => rfl
    | some w =>
      simp only [bind_assoc]
      congr 1
      funext r
      obtain ⟨s, w⟩ := r
      cases s <;> rfl
  | endWalk i =>
    simp only [perform, answer]
    cases hw : d.walks[i]? with
    | none =>
      rw [pure_bind, Desk.after, List.eraseIdx_of_length_le (List.getElem?_eq_none_iff.mp hw)]
    | some w => simp only [bind_assoc, pure_bind, Desk.after]
  | drop i =>
    simp only [perform, answer]
    cases hh : d.handles[i]? with
    | none =>
      rw [pure_bind, Desk.after, List.eraseIdx_of_length_le (List.getElem?_eq_none_iff.mp hh)]
    | some h => simp only [bind_assoc, pure_bind, Desk.after]
  | _ => simp only [perform, answer, bind_assoc, pure_bind, Desk.after]

/-- What tasks tell one after the other, and the desk they leave. -/
def answerAll : List Task → Desk → Bridge σ (List Told × Desk)
  | [], d => pure ([], d)
  | t :: rest, d => do
    let a ← t.answer G d
    let (as, d) ← answerAll rest (d.after t a)
    pure (a :: as, d)

theorem performAll_eq : ∀ (ts : List Task) (d : Desk),
    performAll G ts d = (do let r ← answerAll G ts d; pure r.2) := by
  intro ts
  induction ts with
  | nil => intro d; rfl
  | cons t ts ih =>
    intro d
    simp only [performAll, answerAll, perform_eq, ih, bind_assoc, pure_bind]

/-- A session in which tasks are performed, with what they tell. -/
def sessionAnswers (tasks : List Task) : Attempt σ Failure (List Told) :=
  Session.enter G do
    let (as, d) ← (answerAll G tasks Desk.empty : Bridge σ (List Told × Desk))
    (d.clear G : Bridge σ Unit)
    pure as

theorem session_eq (tasks : List Task) :
    session G tasks = (do let _ ← sessionAnswers G tasks; pure ()) := by
  unfold session sessionAnswers Session.enter Session.enterAs
  rw [bind_assoc]
  refine bind_congr fun h => ?_
  dsimp only
  split
  next =>
    simp only [bind_assoc, pure_bind, performAll_eq, liftM_bind, liftM_pure, bind_pure_unit]
  next => rfl

end Task

/-! ## Operations -/

/-- What the bridge answers to an operation. -/
inductive Answer where
  /-- There is nothing to answer, or nothing in the place that the operation names. -/
  | nothing
  | done (r : Except Failure Unit)
  | installed (b : Bool)
  | numbers (r : Except Failure (List Number))
  | binding (r : Except Failure Binding)
  | id (r : Except Failure Int) (generation : Nat)
  | ticket (r : Except Failure Ticket)
  | removed (r : Except Failure Ticket) (generation : Nat)
  | size (r : Except Failure Nat)
  | told (r : Except Failure (List Told))

namespace Operation

/-- What the bridge answers to an operation of a caller. -/
def answer : Operation → Caller → Bridge σ Answer
  | .launch thread config, _ => do
    let r ← (Interpreter.launch G thread config).run
    pure (.done r)
  | .start thread config, _ => do
    let r ← (Interpreter.start G thread config).run
    pure (.done r)
  | .stop thread, _ => do
    let r ← (Interpreter.stop G thread).run
    pure (.done r)
  | .appendPath path, _ => do
    let r ← (Interpreter.appendPath G path).run
    pure (.done r)
  | .setPrinting enabled, _ => do
    Interpreter.setPrinting enabled
    pure .nothing
  | .installLog level, _ => do
    let b ← Interpreter.installLog level
    pure (.installed b)
  | .callFunction moduleName function args result, _ => do
    let r ← (Embedder.callFunction G (encoder G args.kind) (decoder G result) moduleName function
      args.values).run
    pure (.numbers r)
  | .bind moduleName function, _ => do
    let r ← (Binding.bind G moduleName function).run
    pure (.binding r)
  | .callBinding i args result, c =>
    match c.bindings[i]? with
    | none => pure .nothing
    | some b => do
      let r ← (b.callAs G (encoder G args.kind) (decoder G result) args.values).run
      pure (.numbers r)
  | .dropBinding busy i, c =>
    match c.bindings[i]? with
    | none => pure .nothing
    | some b => do
      b.drop G busy
      pure .nothing
  | .insert i, c =>
    match c.bindings[i]? with
    | none => pure .nothing
    | some b => do
      let r ← (Registry.insert G b).run
      pure (.id r (← generation))
  | .find id, _ => do
    let r ← (Registry.find id : Attempt σ Failure Ticket).run
    pure (.ticket r)
  | .remove id, _ => do
    let r ← (Registry.remove id : Attempt σ Failure Ticket).run
    pure (.removed r (← generation))
  | .size, _ => do
    let r ← (Registry.size : Attempt σ Failure Nat).run
    pure (.size r)
  | .callTicket i args result, c =>
    match c.tickets[i]? with
    | none => pure .nothing
    | some t => do
      let r ← (t.call G (encoder G args.kind) (decoder G result) args.values).run
      pure (.numbers r)
  | .cloneTicket i, c =>
    match c.tickets[i]? with
    | none => pure .nothing
    | some t => do
      let t ← t.clone
      pure (.ticket (.ok t))
  | .dropTicket busy i, c =>
    match c.tickets[i]? with
    | none => pure .nothing
    | some t => do
      t.drop G busy
      pure .nothing
  | .session tasks, _ => do
    let r ← (Task.sessionAnswers G tasks).run
    pure (.told r)

/-- Whether an operation brings the interpreter up. -/
def launches (h : Host σ) : Operation → Bool
  | .launch _ config => Interpreter.launches G config h
  | .start _ config => Interpreter.launches G config h
  | _ => false

/-- What a host could have noted down of an operation and its answer. -/
def events (launched : Bool) : Operation → Answer → List Event
  | .launch .., _ => startEvents launched
  | .start .., _ => startEvents launched
  | .bind .., .binding (.ok b) => [.bound b.kept]
  | .insert _, .id (.ok id) generation => [.issued generation id]
  | .remove id, .removed (.ok _) generation => [.revoked generation id]
  | _, _ => []

end Operation

/-- What a caller has in hand after an answer. -/
def Caller.after (c : Caller) : Operation → Answer → Caller
  | .bind .., .binding (.ok b) => { c with bindings := c.bindings ++ [b] }
  | .dropBinding _ i, _ => { c with bindings := c.bindings.eraseIdx i }
  | .insert i, _ => { c with bindings := c.bindings.eraseIdx i }
  | .find _, .ticket (.ok t) => { c with tickets := c.tickets ++ [t] }
  | .remove _, .removed (.ok t) _ => { c with tickets := c.tickets ++ [t] }
  | .cloneTicket _, .ticket (.ok t) => { c with tickets := c.tickets ++ [t] }
  | .dropTicket _ i, _ => { c with tickets := c.tickets.eraseIdx i }
  | _, _ => c

namespace Operation

/-- A look at the host that is not used may be left out. -/
theorem get_bind_const (x : Bridge σ α) : (get >>= fun _ => x) = x := rfl

/-- What is not in hand cannot be put away. -/
theorem eraseIdx_of_none {l : List α} {i : Nat} (hi : l[i]? = none) : l.eraseIdx i = l :=
  List.eraseIdx_of_length_le (List.getElem?_eq_none_iff.mp hi)

/-- An operation is its answer, what becomes of its caller, and what is noted down. -/
theorem perform_eq (op : Operation) (c : Caller) : op.perform G c = (do
    let launched := op.launches G (← get)
    let a ← op.answer G c
    pure (c.after op a, op.events launched a)) := by
  cases op with
  | launch thread config =>
    simp only [perform, answer, launches, Caller.after, events, bind_assoc, pure_bind]
  | start thread config =>
    simp only [perform, answer, launches, Caller.after, events, bind_assoc, pure_bind]
  | bind moduleName function =>
    simp only [perform, answer, launches, get_bind_const, bind_assoc, pure_bind]
    congr 1
    funext r
    cases r <;> rfl
  | insert i =>
    simp only [perform, answer, launches, get_bind_const]
    cases hb : c.bindings[i]? with
    | none => simp only [pure_bind, Caller.after, eraseIdx_of_none hb, events]
    | some b =>
      simp only [bind_assoc, pure_bind]
      congr 1
      funext r
      cases r <;> rfl
  | find id =>
    simp only [perform, answer, launches, get_bind_const, bind_assoc, pure_bind]
    congr 1
    funext r
    cases r <;> rfl
  | remove id =>
    simp only [perform, answer, launches, get_bind_const, bind_assoc, pure_bind]
    congr 1
    funext r
    cases r <;> rfl
  | dropBinding busy i =>
    simp only [perform, answer, launches, get_bind_const]
    cases hb : c.bindings[i]? with
    | none => simp only [pure_bind, Caller.after, eraseIdx_of_none hb, events]
    | some b => simp only [bind_assoc, pure_bind, Caller.after, events]
  | dropTicket busy i =>
    simp only [perform, answer, launches, get_bind_const]
    cases ht : c.tickets[i]? with
    | none => simp only [pure_bind, Caller.after, eraseIdx_of_none ht, events]
    | some t => simp only [bind_assoc, pure_bind, Caller.after, events]
  | callBinding i args result =>
    simp only [perform, answer, launches, get_bind_const]
    cases c.bindings[i]? with
    | none => rfl
    | some b => simp only [bind_assoc, pure_bind, Caller.after, events]
  | callTicket i args result =>
    simp only [perform, answer, launches, get_bind_const]
    cases c.tickets[i]? with
    | none => rfl
    | some t => simp only [bind_assoc, pure_bind, Caller.after, events]
  | cloneTicket i =>
    simp only [perform, answer, launches, get_bind_const]
    cases c.tickets[i]? with
    | none => rfl
    | some t => simp only [bind_assoc, pure_bind, Caller.after, events]
  | session tasks =>
    simp only [perform, answer, launches, get_bind_const, Task.session_eq, ExceptT.run_bind,
      bind_assoc, pure_bind]
    congr 1
    funext r
    cases r <;> rfl
  | _ => simp only [perform, answer, get_bind_const, bind_assoc, pure_bind, Caller.after, events]

end Operation

/-! ## Runs -/

/-- What a step answers to whoever took it. -/
inductive StepAnswer where
  | operation (a : Answer)
  /-- What a call of the C interface gave, and the last error that its thread reads then. -/
  | interface (v : InterfaceValue) (lastError : Option String)
  | outside

/-- A step of a run with what it answered and where it led. -/
structure Entry (σ : Type) where
  step : Step σ
  answer : StepAnswer
  after : Process σ

namespace Process

/-- Take one step, and keep what it answers. -/
def tell : Step σ → Process σ → Except Exit (StepAnswer × Process σ)
  | .perform op, p => do
    let (a, host) ← (op.answer G p.caller).run p.host
    let events := op.events (op.launches G p.host) a
    pure (.operation a, ⟨host, p.caller.after op a, p.history ++ events⟩)
  | .interface thread call, p => do
    let launched := call.config?.any (Interpreter.launches G · p.host)
    let ((v, e), host) ← (call.run G thread).run p.host
    let events := Operation.startEvents launched ++ call.events host.lifecycle.generation v
    pure (.interface v e, ⟨host, p.caller, p.history ++ events⟩)
  | .outside f, p => .ok (.outside, { p with host := { p.host with world := f p.host.world } })

/-- A step is what it answers and where it leads. -/
theorem step_eq (s : Step σ) (p : Process σ) : p.step G s = Prod.snd <$> p.tell G s := by
  cases s with
  | perform op =>
    simp only [step, tell, op.perform_eq]
    rw [Bridge.run_get_bind, StateT.run_bind]
    cases (op.answer G p.caller).run p.host <;> rfl
  | interface thread call =>
    simp only [step, tell, InterfaceCall.run, StateT.run_bind]
    cases (call.perform G thread).run p.host <;> rfl
  | outside f => rfl

section

variable {G} {p p' : Process σ}

theorem tell_perform_ok {op : Operation} {a : StepAnswer}
    (hp : p.tell G (.perform op) = .ok (a, p')) :
    ∃ x, (op.answer G p.caller).run p.host = .ok (x, p'.host) ∧ a = .operation x ∧
      p'.caller = p.caller.after op x ∧
      p'.history = p.history ++ op.events (op.launches G p.host) x := by
  simp only [tell] at hp
  cases hop : (op.answer G p.caller).run p.host with
  | error e =>
    rw [hop] at hp
    cases hp
  | ok r =>
    rw [hop] at hp
    cases hp
    exact ⟨r.1, rfl, rfl, rfl, rfl⟩

theorem tell_interface_ok {thread : ThreadId} {call : InterfaceCall} {a : StepAnswer}
    (hp : p.tell G (.interface thread call) = .ok (a, p')) :
    ∃ v e, (call.run G thread).run p.host = .ok ((v, e), p'.host) ∧ a = .interface v e ∧
      p'.caller = p.caller ∧ p'.history = p.history ++ (Operation.startEvents
        (call.config?.any (Interpreter.launches G · p.host)) ++
        call.events p'.host.lifecycle.generation v) := by
  simp only [tell] at hp
  cases hcall : (call.run G thread).run p.host with
  | error e =>
    rw [hcall] at hp
    cases hp
  | ok r =>
    rw [hcall] at hp
    cases hp
    exact ⟨r.1.1, r.1.2, rfl, rfl, rfl, rfl⟩

theorem step_of_tell {s : Step σ} {a : StepAnswer} (hp : p.tell G s = .ok (a, p')) :
    p.step G s = .ok p' := by
  rw [step_eq, hp]
  rfl

theorem tell_of_step {s : Step σ} (hs : p.step G s = .ok p') : ∃ a, p.tell G s = .ok (a, p') := by
  rw [step_eq] at hs
  cases htell : p.tell G s with
  | error e =>
    rw [htell] at hs
    cases hs
  | ok r =>
    rw [htell] at hs
    cases hs
    exact ⟨r.1, rfl⟩

end

/-- Take steps one after the other, and keep what each answers. -/
def trace : List (Step σ) → Process σ → Except Exit (List (Entry σ))
  | [], _ => .ok []
  | s :: rest, p => do
    let (a, p) ← tell G s p
    let entries ← trace rest p
    pure (⟨s, a, p⟩ :: entries)

section

variable {G} {p p' : Process σ} {s : Step σ} {a : StepAnswer} {rest : List (Step σ)}

theorem trace_cons (hp : p.tell G s = .ok (a, p')) (rest : List (Step σ)) :
    p.trace G (s :: rest) = List.cons ⟨s, a, p'⟩ <$> p'.trace G rest := by
  simp only [trace, hp]
  show (trace G rest p' >>= fun entries => _) = _
  cases trace G rest p' <;> rfl

theorem trace_cons_error {e : Exit} (hp : p.tell G s = .error e) (rest : List (Step σ)) :
    p.trace G (s :: rest) = .error e := by
  simp only [trace, hp]
  rfl

/-- A trace begins with its first step. -/
theorem trace_cons_ok {entries : List (Entry σ)} (ht : p.trace G (s :: rest) = .ok entries) :
    ∃ a p' later, p.tell G s = .ok (a, p') ∧ p'.trace G rest = .ok later ∧
      entries = ⟨s, a, p'⟩ :: later := by
  cases hs : p.tell G s with
  | error e =>
    rw [trace_cons_error hs] at ht
    cases ht
  | ok r =>
    rw [trace_cons hs] at ht
    cases hrest : r.2.trace G rest with
    | error e =>
      rw [hrest] at ht
      cases ht
    | ok later =>
      rw [hrest] at ht
      cases ht
      exact ⟨r.1, r.2, later, rfl, hrest, rfl⟩

end

/-- Where a run ends whose steps are these. -/
def last : Process σ → List (Entry σ) → Process σ
  | p, [] => p
  | _, e :: rest => last e.after rest

/-- A run ends where the last of its steps led. -/
theorem run_eq : ∀ (steps : List (Step σ)) (p : Process σ),
    p.run G steps = last p <$> p.trace G steps := by
  intro steps
  induction steps with
  | nil => intro p; rfl
  | cons s rest ih =>
    intro p
    simp only [run, trace, step_eq]
    cases tell G s p with
    | error e => rfl
    | ok r =>
      show run G rest r.2 = _
      rw [ih]
      show last r.2 <$> trace G rest r.2 = last p <$> (trace G rest r.2 >>= fun entries => _)
      cases trace G rest r.2 <;> rfl

end Process

end Embedder
