import Embedder.Proofs.Answers
import Embedder.Proofs.Trait.Books

/-!
# Tasks and operations, under any trait

A lawful trait is one of every task inside a session. A custodial one is one of every operation but
a start, a stop and the switch of printing (`Operation.Ordinary`), with what it answers; a clerical
one of all. A call of the C interface goes by the last errors as well (`Reporting`).
-/

namespace Embedder

open Exception Scenario

variable {σ α : Type} {G : Guest σ} {P : Trait σ} [P.Composes]

/-- What a program gives may be wrapped. -/
theorem Bridge.Has.map {β : Type} {x : Bridge σ α} (hx : x.Has P) (f : α → β) :
    (x >>= fun a => Pure.pure (f a)).Has P :=
  hx.bind fun a => Bridge.Has.pure (f a)

/-! ## Numbers of any kind -/

theorem Scenario.Number.encode_has (hP : P.Lawful G) (n : Number) : (n.encode G).Has P := by
  cases n with
  | float d => exact Scalar.encodeFloat_has hP d
  | int n => exact Scalar.encodeInt_has hP n
  | bool b => exact Scalar.encodeBool_has hP b

theorem Scenario.encoder_has (hP : P.Lawful G) (kind : ElementKind) : (encoder G kind).Has P :=
  fun n => n.encode_has hP

theorem Attempt.Has.map {ε β : Type} {x : Attempt σ ε α} (hx : x.Has P) (f : α → β) :
    (f <$> x).Has P := by
  rw [map_eq_pure_bind]
  exact hx.bind fun a => Attempt.Has.pure (f a)

theorem Scenario.decoder_has (hP : P.Lawful G) (kind : ElementKind) : (decoder G kind).Has P := by
  intro h
  cases kind with
  | float64 => exact (Scalar.decodeFloat_has hP h).map _
  | int64 => exact (Scalar.decodeInt_has hP h).map _
  | bool => exact (Scalar.decodeBool_has hP h).map _

theorem Scenario.pickyEncoder_has (hP : P.Lawful G) : (pickyEncoder G).Has P := by
  intro d
  show Attempt.Has P (if _ then _ else _)
  split
  next => exact Attempt.Has.throw _
  next => exact Scalar.encodeFloat_has hP d

/-! ## Tasks -/

theorem Handle.dropAll_has (hP : P.Steady G) : ∀ hs : List Handle, (dropAll G hs).Has P := by
  intro hs
  induction hs with
  | nil => exact Bridge.Has.pure ()
  | cons h hs ih => exact (drop_has hP h).bind fun _ => ih

namespace Task

theorem leave_has (hP : P.Steady G) (left : Option Pending) : (leave G left).Has P := by
  cases left with
  | none => exact Bridge.Has.pure ()
  | some p => exact raise_has hP p

theorem answer_has (hP : P.Lawful G) (t : Task) (d : Desk) : (t.answer G d).Has P := by
  have hsteady := hP.toSteady
  cases t with
  | toList args =>
    exact Bridge.Has.map (Sequence.toList_has hP (encoder_has hP args.kind) args.values) _
  | toPickyList values =>
    exact Bridge.Has.map (Sequence.toList_has hP (pickyEncoder_has hP) values) _
  | fromList seq result =>
    exact Bridge.Has.map (Sequence.fromList_has hP (decoder_has hP result) _) _
  | encode n => exact Bridge.Has.map (n.encode_has hP) _
  | decode o result => exact Bridge.Has.map (decoder_has hP result _) _
  | walk iterable => exact Bridge.Has.map (Walk.start_has hP _) _
  | next i =>
    simp only [answer]
    cases d.walks[i]? with
    | none => exact Bridge.Has.pure _
    | some w => exact (Walk.step_has hP w).map fun r => Told.step r.1 r.2
  | endWalk i =>
    simp only [answer]
    cases d.walks[i]? with
    | none => exact Bridge.Has.pure _
    | some w => exact (Handle.drop_has hsteady w.next).map _
  | drop i =>
    simp only [answer]
    cases d.handles[i]? with
    | none => exact Bridge.Has.pure _
    | some h => exact (Handle.drop_has hsteady h).map _
  | drain left => exact (leave_has hsteady left).bind fun _ => (drain_has hP).map _
  | fetch context left => exact (leave_has hsteady left).bind fun _ => (fetch_has hP).map _

theorem answerAll_has (hP : P.Lawful G) :
    ∀ (ts : List Task) (d : Desk), (answerAll G ts d).Has P := by
  intro ts
  induction ts with
  | nil => intro d; exact Bridge.Has.pure _
  | cons t ts ih =>
    intro d
    exact (answer_has hP t d).bind fun a => (ih _).map fun r => (a :: r.1, r.2)

theorem sessionAnswers_has (hP : P.Sessional G) (ts : List Task) :
    (sessionAnswers G ts).Has P := by
  have hsteady := hP.toSteady
  refine Session.enter_has hP ?_
  refine Attempt.Has.bind (Attempt.Has.lift (answerAll_has hP.toLawful ts _)) fun r => ?_
  have cleared : (r.2.clear G).Has P :=
    (Handle.dropAll_has hsteady _).bind fun _ => Handle.dropAll_has hsteady _
  exact (Attempt.Has.lift cleared).bind fun _ => Attempt.Has.pure _

end Task

/-! ## Operations -/

namespace Operation

/-- Whether an operation leaves it to others to bring the interpreter up and down and to switch
printing. -/
def Ordinary : Operation → Prop
  | .launch .. => False
  | .start .. => False
  | .stop _ => False
  | .setPrinting _ => False
  | _ => True

theorem generation_has (hP : P.Custodial G) : (generation : Bridge σ Nat).Has P :=
  hP.lifecycle (fun h k hs => by rw [hs]) fun _ => Bridge.Has.pure _

theorem answer_has_of_ordinary (hP : P.Custodial G) {op : Operation} (hop : op.Ordinary) (c : Caller) :
    (op.answer G c).Has P := by
  have hs := hP.sessional
  have hl := hP.toLawful
  cases op with
  | launch thread config => exact hop.elim
  | start thread config => exact hop.elim
  | setPrinting enabled => exact hop.elim
  | stop thread => exact hop.elim
  | appendPath path => exact Bridge.Has.map (Interpreter.appendPath_has hs path) _
  | installLog level => exact (Interpreter.installLog_has hP level).map _
  | callFunction moduleName function args result =>
    exact Bridge.Has.map (callFunction_has hs (encoder_has hl _) (decoder_has hl _) _ _ _) _
  | bind moduleName function => exact Bridge.Has.map (Binding.bind_has hs moduleName function) _
  | callBinding i args result =>
    simp only [answer]
    cases c.bindings[i]? with
    | none => exact Bridge.Has.pure _
    | some b =>
      exact Bridge.Has.map (Binding.callAs_has hs (encoder_has hl _) (decoder_has hl _) b _) _
  | dropBinding busy i =>
    simp only [answer]
    cases c.bindings[i]? with
    | none => exact Bridge.Has.pure _
    | some b => exact (Binding.drop_has hP busy b).map _
  | insert i =>
    simp only [answer]
    cases c.bindings[i]? with
    | none => exact Bridge.Has.pure _
    | some b => exact Bridge.Has.bind (Registry.insert_has hP b) fun _ => (generation_has hP).map _
  | find id => exact Bridge.Has.map (Registry.find_has hP id) _
  | remove id => exact Bridge.Has.bind (Registry.remove_has hP id) fun _ => (generation_has hP).map _
  | size => exact Bridge.Has.map (Registry.size_has hP) _
  | callTicket i args result =>
    simp only [answer]
    cases c.tickets[i]? with
    | none => exact Bridge.Has.pure _
    | some t => exact Bridge.Has.map (t.call_has hP (encoder_has hl _) (decoder_has hl _) _) _
  | cloneTicket i =>
    simp only [answer]
    cases c.tickets[i]? with
    | none => exact Bridge.Has.pure _
    | some t => exact (t.clone_has hP).map _
  | dropTicket busy i =>
    simp only [answer]
    cases c.tickets[i]? with
    | none => exact Bridge.Has.pure _
    | some t => exact (t.drop_has hP busy).map _
  | session tasks => exact Bridge.Has.map (Task.sessionAnswers_has hs tasks) _

theorem answer_has (hP : P.Clerical G) (op : Operation) (c : Caller) : (op.answer G c).Has P := by
  cases op with
  | launch thread config => exact Bridge.Has.map (Interpreter.launch_has hP thread config) _
  | start thread config => exact Bridge.Has.map (Interpreter.start_has hP thread config) _
  | stop thread => exact Bridge.Has.map (Interpreter.stop_has hP.toClosing thread) _
  | setPrinting enabled => exact (hP.printing enabled).map _
  | _ =>
    refine answer_has_of_ordinary hP.toCustodial ?_ c
    trivial

end Operation

/-! ## The C interface -/

/-- A trait of programs that go by the last errors and the count of handles, and set last errors. -/
structure Trait.Reporting (P : Trait σ) : Prop where
  errors : P.Reads fun h k => h.lastErrors = k.lastErrors
  setErrors : ∀ f : LastErrors → LastErrors,
    (modify fun h => { h with lastErrors := f h.lastErrors } : Bridge σ Unit).Has P
  live : P.Reads fun h k => h.live = k.live

namespace CInterface

variable {thread : ThreadId}

theorem answer_has (hr : P.Reporting) {body : Attempt σ Failure α} (hbody : body.Has P) :
    (answer thread body).Has P := by
  unfold answer
  refine (hr.setErrors fun e => e.clear thread).bind fun _ => ?_
  refine Bridge.Has.bind hbody fun r => ?_
  cases r with
  | ok a => exact Bridge.Has.pure _
  | error f => exact (hr.setErrors fun e => e.set thread f.detailed).map _

theorem callBound_has (hP : P.Custodial G) (hr : P.Reporting) (id : Int) (values : ValuesArg)
    (output : OutputArg) : (callBound G thread id values output).Has P := by
  have hl := hP.toLawful
  refine answer_has hr ?_
  refine (check_has (argValues values)).bind fun xs => (check_has (argOutput output)).bind fun _ => ?_
  refine (Registry.find_has hP id).bind fun t => ?_
  have called := t.call_has hP (Scalar.encodeFloat_has hl) (Scalar.decodeInt_has hl) xs
  exact Bridge.Has.bind called fun r => (t.drop_has hP false).bind fun _ => Bridge.Has.pure r

theorem bindingCount_has (hP : P.Custodial G) (hr : P.Reporting) :
    (bindingCount thread : Bridge σ Int).Has P := by
  refine (hr.setErrors fun e => e.clear thread).bind fun _ => ?_
  refine Bridge.Has.bind (Registry.size_has hP) fun r => ?_
  cases r with
  | ok n => exact Bridge.Has.pure _
  | error f => exact (hr.setErrors fun e => e.set thread f.message).map _

theorem liveHandles_has (hr : P.Reporting) : (liveHandles : Bridge σ Int).Has P :=
  hr.live (fun h k hs => by rw [hs]) fun _ => Bridge.Has.pure _

theorem lastError_has (hr : P.Reporting) : (lastError thread : Bridge σ (Option String)).Has P :=
  hr.errors (fun h k hs => by rw [hs]) fun _ => Bridge.Has.pure _

end CInterface

namespace Scenario.InterfaceCall

open CInterface

variable {thread : ThreadId}

/-- Whether a call leaves it to others to bring the interpreter up and down. -/
def Ordinary : InterfaceCall → Prop
  | .start _ => False
  | .startWithConfig _ => False
  | .stop => False
  | _ => True

theorem perform_has_of_ordinary (hP : P.Custodial G) (hr : P.Reporting) {call : InterfaceCall}
    (hcall : call.Ordinary) : (call.perform G thread).Has P := by
  have hs := hP.sessional
  have hl := hP.toLawful
  cases call with
  | start e => exact hcall.elim
  | startWithConfig json => exact hcall.elim
  | stop => exact hcall.elim
  | state =>
    have told : (Interpreter.stage : Bridge σ Stage).Has P :=
      hP.lifecycle (fun h k hs => by rw [hs]) fun _ => Bridge.Has.pure _
    exact (told.map _).map _
  | appendPath path =>
    refine (answer_has hr ?_).map _
    exact (check_has _).bind fun text => Interpreter.appendPath_has hs _
  | initLog verbosity =>
    refine ((Interpreter.installLog_has hP _).bind fun b => ?_).map _
    split
    next => exact Bridge.Has.pure _
    next => exact Bridge.Has.pure _
  | callFunction moduleName function values output =>
    refine (answer_has hr ?_).map fun a => InterfaceValue.result a.status a.out
    refine (check_has _).bind fun m => (check_has _).bind fun f => ?_
    refine (check_has _).bind fun xs => (check_has _).bind fun _ => ?_
    exact callFunction_has hs (Scalar.encodeFloat_has hl) (Scalar.decodeInt_has hl) m f xs
  | bind moduleName function output =>
    refine (answer_has hr ?_).map fun a => InterfaceValue.id a.status a.out
    refine (check_has _).bind fun m => (check_has _).bind fun f => (check_has _).bind fun _ => ?_
    exact (Binding.bind_has hs m f).bind fun b => Registry.insert_has hP b
  | callBound id values output =>
    exact (callBound_has hP hr id values output).map fun a => InterfaceValue.result a.status a.out
  | unbind id =>
    refine (answer_has hr ?_).map _
    exact (Registry.remove_has hP id).bind fun t => Attempt.Has.lift (t.drop_has hP false)
  | bindingCount => exact (bindingCount_has hP hr).map _
  | liveHandles => exact (liveHandles_has hr).map _
  | lastError => exact Bridge.Has.pure _
  | clearLastError => exact (hr.setErrors fun e => e.clear thread).map _
  | setLastError text => exact (hr.setErrors fun e => e.set thread text).map _

theorem perform_has (hP : P.Clerical G) (hr : P.Reporting) (call : InterfaceCall) :
    (call.perform G thread).Has P := by
  cases call with
  | start e => exact (answer_has hr (Interpreter.start_has hP thread _)).map _
  | startWithConfig json =>
    refine (answer_has hr ?_).map _
    refine (check_has _).bind fun text => (check_has _).bind fun config => ?_
    exact Interpreter.start_has hP thread config
  | stop => exact (answer_has hr (Interpreter.stop_has hP.toClosing thread)).map _
  | _ => exact perform_has_of_ordinary hP.toCustodial hr trivial

/-- What a call gives, with the last error that is read then. -/
theorem run_has (hr : P.Reporting) {call : InterfaceCall} (hcall : (call.perform G thread).Has P) :
    (call.run G thread).Has P :=
  hcall.bind fun v => (lastError_has hr).map fun e => (v, e)

end Scenario.InterfaceCall

end Embedder
