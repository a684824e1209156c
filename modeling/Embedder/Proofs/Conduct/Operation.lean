import Embedder.Proofs.Conduct.Books
import Embedder.Proofs.Process
import Mathlib.Algebra.BigOperators.Group.List.Basic

/-!
# Tasks and operations, under any conduct

Every task inside a session keeps to a lawful conduct, and leaves behind what it puts on the desk;
every operation of a process keeps to a clerical one, and leaves nothing behind. These two lemmas
are all that a statement about tasks or operations in any order needs to know of them.
-/

namespace Embedder

open Exception Scenario

variable {σ α : Type} {G : Guest σ} {R : Conduct σ} {w : Scale} {v : Kept → Int}
  {allowed : Bool → Prop}

/-! ## Numbers of any kind -/

theorem Scenario.Number.encode_weighed (hR : R.WeighsRequests w G) (n : Number) :
    (n.encode G).Obeys R w.stake 0 := by
  cases n with
  | float d => exact requestNew_weighed _ hR (.ofFloat d)
  | int n => exact requestNew_weighed _ hR (.ofInt n)
  | bool b => exact requestNew_weighed _ hR (.ofBool b)

theorem Scenario.encoder_weighed (kind : ElementKind) : (encoder G kind).Weighed G :=
  fun _ _ hR n => n.encode_weighed hR

theorem Scenario.encoder_lawful (kind : ElementKind) : (encoder G kind).Lawful G :=
  (encoder_weighed kind).lawful

/-- A decoded value may be wrapped. -/
theorem Attempt.Obeys.map {ε β : Type} {x : Attempt σ ε α} {f : α → β} (hR : R.Composes)
    (hx : x.Obeys R (fun _ => 0) 0) : (f <$> x).Obeys R (fun _ => 0) 0 := by
  rw [map_eq_pure_bind]
  exact hx.seq hR fun a => Attempt.Obeys.pure hR rfl

theorem Scenario.decoder_weighed (kind : ElementKind) : (decoder G kind).Weighed G := by
  intro w R hR h
  cases kind with
  | float64 => exact (Scalar.decodeFloat_weighed w R hR h).map hR.toComposes
  | int64 => exact (Scalar.decodeInt_weighed w R hR h).map hR.toComposes
  | bool => exact (Scalar.decodeBool_weighed w R hR h).map hR.toComposes

theorem Scenario.decoder_lawful (kind : ElementKind) : (decoder G kind).Lawful G :=
  (decoder_weighed kind).lawful

theorem Scenario.pickyEncoder_weighed {w : Scale} (hR : R.WeighsRequests w G) (d : Double) :
    ((pickyEncoder G).encode d).Obeys R w.stake 0 := by
  show Attempt.Obeys R (if _ then _ else _) _ _
  split
  next => exact Attempt.Obeys.throw hR.toComposes
  next => exact requestNew_weighed _ hR (.ofFloat d)

theorem Scenario.pickyEncoder_lawful : (pickyEncoder G).Lawful G :=
  fun _ hR d => (pickyEncoder_weighed hR.weighs d).congr Scale.handles_stake rfl

/-! ## Tasks -/

/-- The owned handles on a desk. -/
def Desk.stake (d : Desk) : Int :=
  (d.handles.map Handle.stake).sum + (d.walks.map (·.next.stake)).sum

/-- The sum over a list with another element in one place. -/
theorem sum_map_set (f : α → Int) (b : α) {l : List α} {i : Nat} {a : α} (ha : l[i]? = some a) :
    ((l.set i b).map f).sum = (l.map f).sum - f a + f b := by
  obtain ⟨hi, rfl⟩ := List.getElem?_eq_some_iff.mp ha
  have hbefore := ((List.getElem_cons_eraseIdx_perm hi).map f).sum_eq
  have hafter := ((List.set_perm_cons_eraseIdx hi b).map f).sum_eq
  rw [List.map_cons, List.sum_cons] at hbefore hafter
  omega

/-- The sum over a list without one element. -/
theorem sum_map_eraseIdx (f : α → Int) {l : List α} {i : Nat} {a : α} (ha : l[i]? = some a) :
    ((l.eraseIdx i).map f).sum = (l.map f).sum - f a := by
  obtain ⟨hi, rfl⟩ := List.getElem?_eq_some_iff.mp ha
  have hbefore := ((List.getElem_cons_eraseIdx_perm hi).map f).sum_eq
  rw [List.map_cons, List.sum_cons] at hbefore
  omega

namespace Desk

@[simp] theorem stake_empty : empty.stake = 0 := rfl

theorem stake_take {ε : Type} (d : Desk) (r : Except ε Handle) :
    (d.take r).stake = d.stake + leaves Handle.stake 0 r := by
  cases r with
  | ok h =>
    simp only [take, stake, leaves, List.map_append, List.sum_append, List.map_cons, List.map_nil,
      List.sum_cons, List.sum_nil]
    omega
  | error e => exact (Int.add_zero d.stake).symm

theorem clear_obeys (hR : R.Calm G) (d : Desk) : (d.clear G).Obeys R fun _ => -d.stake := by
  unfold clear
  refine (Handle.dropAll_obeys hR d.handles).bind hR.toComposes fun _ => ?_
  refine (Handle.dropAll_obeys hR (d.walks.map (·.next))).congr fun _ => ?_
  rw [List.map_map, stake]
  show -(d.walks.map (·.next.stake)).sum = _
  omega

end Desk

namespace Task

theorem leave_drain_obeys (hR : R.Lawful G) (left : Option Pending) :
    (leave G left >>= fun _ => Exception.drain G).Obeys R fun _ => 0 := by
  cases left with
  | none =>
    have nothing : (leave G none).Obeys R fun _ => 0 := Bridge.Obeys.pure hR.toComposes rfl
    exact nothing.seq hR.toComposes fun _ => hR.drain
  | some p => exact hR.drainRaised p

theorem taken_obeys {ε : Type} (hR : R.Composes) (d : Desk) {x : Attempt σ ε Handle}
    (hx : x.Obeys R Handle.stake 0) :
    (x.run >>= fun r => pure (d.take r) : Bridge σ Desk).Obeys R fun d' => d'.stake - d.stake := by
  refine Bridge.Obeys.bind hR hx fun r => Bridge.Obeys.pure hR ?_
  rw [Desk.stake_take]
  omega

/-- What is read off an object leaves the desk as it is. -/
theorem read_obeys {ε : Type} (hR : R.Composes) (d : Desk) {x : Attempt σ ε α}
    (hx : x.Obeys R (fun _ => 0) 0) :
    (x.run >>= fun _ => pure d : Bridge σ Desk).Obeys R fun d' => d'.stake - d.stake := by
  refine Bridge.Obeys.bind hR hx fun r => Bridge.Obeys.pure hR ?_
  cases r with
  | ok a => simp [leaves]
  | error e => simp [leaves]

theorem next_obeys (hR : R.Lawful G) (i : Nat) (d : Desk) :
    (perform G (.next i) d).Obeys R fun d' => d'.stake - d.stake := by
  simp only [perform]
  split
  next => exact Bridge.Obeys.pure hR.toComposes (Int.sub_self _)
  next w hw =>
    refine (hR.step w).bind hR.toComposes fun r => ?_
    obtain ⟨step, w'⟩ := r
    -- the walk after the step takes the place of the walk before it
    have hset := sum_map_set (fun w : Walk => w.next.stake) w' hw
    cases step with
    | item h =>
      refine Bridge.Obeys.pure hR.toComposes ?_
      simp only [Desk.stake, Walk.stepStake, Walk.Step.stake, hset, List.map_append,
        List.sum_append, List.map_cons, List.map_nil, List.sum_cons, List.sum_nil]
      omega
    | failed r =>
      refine Bridge.Obeys.pure hR.toComposes ?_
      simp only [Desk.stake, Walk.stepStake, Walk.Step.stake, hset]
      omega
    | finished =>
      refine Bridge.Obeys.pure hR.toComposes ?_
      simp only [Desk.stake, Walk.stepStake, Walk.Step.stake, hset]
      omega

/-- A task leaves behind what it puts on the desk. -/
theorem perform_obeys (hR : R.Lawful G) (t : Task) (d : Desk) :
    (t.perform G d).Obeys R fun d' => d'.stake - d.stake := by
  cases t with
  | toList args =>
    exact taken_obeys hR.toComposes d
      (Sequence.toList_lawful hR (encoder_lawful args.kind) args.values)
  | toPickyList values =>
    exact taken_obeys hR.toComposes d (Sequence.toList_lawful hR pickyEncoder_lawful values)
  | fromList seq result =>
    exact read_obeys hR.toComposes d
      (Sequence.fromList_lawful hR (decoder_lawful result) (Handle.ofBorrowed seq))
  | encode n =>
    exact taken_obeys hR.toComposes d (encoder_lawful (G := G) .float64 R hR n)
  | decode o result =>
    exact read_obeys hR.toComposes d (decoder_lawful result R hR (Handle.ofBorrowed o))
  | walk iterable =>
    simp only [perform]
    refine Bridge.Obeys.bind hR.toComposes (Walk.start_lawful hR (Handle.ofBorrowed iterable))
      fun r => ?_
    cases r with
    | ok w =>
      refine Bridge.Obeys.pure hR.toComposes ?_
      simp only [Desk.stake, leaves, List.map_append, List.sum_append, List.map_cons,
        List.map_nil, List.sum_cons, List.sum_nil]
      omega
    | error e => exact Bridge.Obeys.pure hR.toComposes (by simp [leaves])
  | next i => exact next_obeys hR i d
  | endWalk i =>
    simp only [perform]
    split
    next => exact Bridge.Obeys.pure hR.toComposes (Int.sub_self _)
    next w hw =>
      refine (Walk.drop_obeys hR.toCalm w).bind hR.toComposes fun _ => ?_
      refine Bridge.Obeys.pure hR.toComposes ?_
      simp only [Desk.stake]
      rw [sum_map_eraseIdx _ hw]
      omega
  | drop i =>
    simp only [perform]
    split
    next => exact Bridge.Obeys.pure hR.toComposes (Int.sub_self _)
    next h hh =>
      refine (Handle.drop_obeys hR.toCalm h).bind hR.toComposes fun _ => ?_
      refine Bridge.Obeys.pure hR.toComposes ?_
      simp only [Desk.stake]
      rw [sum_map_eraseIdx _ hh]
      omega
  | drain left =>
    simp only [perform]
    rw [← bind_assoc]
    refine (leave_drain_obeys hR left).seq hR.toComposes fun r => ?_
    exact Bridge.Obeys.pure hR.toComposes (Int.sub_self _)
  | fetch context left =>
    simp only [perform, Exception.fetch]
    rw [← bind_assoc, ← bind_assoc]
    refine Bridge.Obeys.seq hR.toComposes ?_ fun r => ?_
    · refine (leave_drain_obeys hR left).seq hR.toComposes fun r => ?_
      cases r with
      | none => exact Bridge.Obeys.pure hR.toComposes rfl
      | some r => exact Bridge.Obeys.pure hR.toComposes rfl
    · exact Bridge.Obeys.pure hR.toComposes (Int.sub_self _)

theorem performAll_obeys (hR : R.Lawful G) :
    ∀ (ts : List Task) (d : Desk), (performAll G ts d).Obeys R fun d' => d'.stake - d.stake := by
  intro ts
  induction ts with
  | nil => intro d; exact Bridge.Obeys.pure hR.toComposes (Int.sub_self _)
  | cons t ts ih =>
    intro d
    unfold performAll
    refine (perform_obeys hR t d).bind hR.toComposes fun d₁ => ?_
    exact (ih d₁).congr fun d₂ => by omega

/-- A session leaves nothing behind, whatever is left on its desk. -/
theorem session_obeys (hR : R.Sessional G) (ts : List Task) :
    (session G ts).Obeys R (fun _ => 0) 0 := by
  refine Session.enter_sessional hR ?_
  have performed := Attempt.Obeys.lift (ε := Failure) (e := 0) hR.toComposes
    (performAll_obeys hR.toLawful ts Desk.empty)
  refine performed.bind hR.toComposes fun d => ?_
  have cleared := Attempt.Obeys.lift (ε := Failure) (e := -d.stake) hR.toComposes
    (Desk.clear_obeys hR.toCalm d)
  exact cleared.congr (fun _ => by simp) (by simp)

end Task

/-! ## Operations -/

namespace Scenario.InterfaceCall

theorem statusOf_obeys (hR : R.Composes) {x : Bridge σ (CInterface.Answer Unit)}
    (hx : x.Obeys R fun _ => 0) : (statusOf x).Obeys R fun _ => 0 :=
  hx.seq hR fun _ => Bridge.Obeys.pure hR rfl

theorem numberOf_obeys (hR : R.Composes) {x : Bridge σ Int} (hx : x.Obeys R fun _ => 0) :
    (numberOf x).Obeys R fun _ => 0 :=
  hx.seq hR fun _ => Bridge.Obeys.pure hR rfl

theorem resultOf_obeys (hR : R.Composes) {x : Bridge σ (CInterface.Answer (List Int64))}
    (hx : x.Obeys R fun _ => 0) : (resultOf x).Obeys R fun _ => 0 :=
  hx.seq hR fun _ => Bridge.Obeys.pure hR rfl

/-- Whether a call leaves the lifecycle and the registry to others. -/
def Aside : InterfaceCall → Prop
  | .start _ => False
  | .startWithConfig _ => False
  | .stop => False
  | .bind .. => False
  | .unbind _ => False
  | _ => True

theorem perform_aside (hR : R.WeighsBooks w v allowed G) (thread : ThreadId)
    {call : InterfaceCall} (hcall : call.Aside) : (call.perform G thread).Obeys R fun _ => 0 := by
  have hc := hR.toComposes
  cases call with
  | start e => exact hcall.elim
  | startWithConfig json => exact hcall.elim
  | stop => exact hcall.elim
  | state =>
    exact numberOf_obeys hc (Bridge.Obeys.get fun _ => Bridge.Obeys.pure hc rfl)
  | appendPath path => exact statusOf_obeys hc (CInterface.appendPath_weighed thread hR path)
  | initLog verbosity => exact numberOf_obeys hc (CInterface.initLog_weighed hR verbosity)
  | callFunction moduleName function values output =>
    exact resultOf_obeys hc
      (CInterface.callFunction_weighed thread hR moduleName function values output)
  | bind moduleName function output => exact hcall.elim
  | callBound id values output =>
    exact resultOf_obeys hc (CInterface.callBound_weighed thread hR id values output)
  | unbind id => exact hcall.elim
  | bindingCount => exact numberOf_obeys hc (CInterface.bindingCount_weighed thread hR)
  | liveHandles =>
    exact numberOf_obeys hc (Bridge.Obeys.get fun _ => Bridge.Obeys.pure hc rfl)
  | lastError => exact Bridge.Obeys.pure hc rfl
  | clearLastError =>
    exact (hR.modify fun _ => rfl).seq hc fun _ => Bridge.Obeys.pure hc rfl
  | setLastError text =>
    exact (hR.modify fun _ => rfl).seq hc fun _ => Bridge.Obeys.pure hc rfl

/-- A call that does not stop the interpreter leaves nothing behind, if a start does not. -/
theorem perform_weighed (hR : R.WeighsRegistry w v allowed G) (thread : ThreadId)
    (hstart : ∀ config, (Interpreter.start G thread config).Obeys R (fun _ => 0) 0)
    {call : InterfaceCall} (hcall : call ≠ .stop) :
    (call.perform G thread).Obeys R fun _ => 0 := by
  have hc := hR.toComposes
  have hbooks := hR.toWeighsBooks
  cases call with
  | start e =>
    exact statusOf_obeys hc (CInterface.answer_weighed hbooks thread (hstart (Config.ofEnvironment e)))
  | startWithConfig json =>
    exact statusOf_obeys hc (CInterface.startWithConfig_weighed thread hbooks hstart json)
  | stop => exact absurd rfl hcall
  | bind moduleName function output =>
    refine (CInterface.bind_weighed thread hR moduleName function output).seq hc fun a => ?_
    exact Bridge.Obeys.pure hc rfl
  | unbind id => exact statusOf_obeys hc (CInterface.unbind_weighed thread hR id)
  | _ => exact perform_aside hbooks thread trivial

/-- A call of the C interface leaves nothing behind. -/
theorem perform_obeys (hR : R.Clerical G) (thread : ThreadId) (call : InterfaceCall) :
    (call.perform G thread).Obeys R fun _ => 0 := by
  by_cases hcall : call = .stop
  · subst hcall
    have stopped := Interpreter.stop_obeys hR thread
    exact statusOf_obeys hR.toComposes (CInterface.answer_weighed hR.toCustodial.weighs thread stopped)
  · exact perform_weighed hR.weighs thread (Interpreter.start_obeys hR thread) hcall

end Scenario.InterfaceCall

namespace Caller

/-- What the bindings in hand weigh. -/
def weight (v : Kept → Int) (c : Caller) : Int := (c.bindings.map fun b => v b.kept).sum

theorem weight_zero (c : Caller) : c.weight (fun _ => 0) = 0 := by
  unfold weight
  induction c.bindings with
  | nil => rfl
  | cons b bs ih =>
    rw [List.map_cons, List.sum_cons, ih]
    rfl

theorem weight_append {c : Caller} (b : Binding) :
    weight v { c with bindings := c.bindings ++ [b] } = c.weight v + v b.kept := by
  unfold weight
  rw [List.map_append, List.sum_append, List.map_singleton, List.sum_singleton]

theorem weight_eraseIdx {c : Caller} {i : Nat} {b : Binding} (hb : c.bindings[i]? = some b) :
    weight v { c with bindings := c.bindings.eraseIdx i } = c.weight v - v b.kept :=
  sum_map_eraseIdx (fun b : Binding => v b.kept) hb

end Caller

namespace Operation

theorem generation_obeys (hR : R.Composes) : (generation : Bridge σ Nat).Obeys R fun _ => 0 :=
  Bridge.Obeys.get fun _ => Bridge.Obeys.pure hR rfl

/-- What an operation leaves behind is not changed by what is noted down of it. -/
theorem noted_obeys {ε β : Type} (hR : R.Composes) {x : Attempt σ ε α} {y : Bridge σ β}
    {n : β → Int} (hx : x.Obeys R (fun _ => 0) 0) (hy : y.Obeys R n) :
    (x.run >>= fun _ => y).Obeys R n := by
  refine Bridge.Obeys.bind hR hx fun r => hy.congr fun b => ?_
  cases r with
  | ok a => exact (Int.sub_zero _).symm
  | error e => exact (Int.sub_zero _).symm

/-- An operation that adds no binding to those in hand. -/
theorem pure_weighed (hR : R.Composes) {c c' : Caller} (events : List Event)
    (hsame : c'.bindings = c.bindings) : (pure (c', events) : Bridge σ (Caller × List Event)).Obeys R
      fun r => r.1.weight v - c.weight v := by
  refine Bridge.Obeys.pure hR ?_
  unfold Caller.weight
  rw [hsame, Int.sub_self]

/-- Whether an operation leaves the lifecycle and the registry to others. -/
def Aside : Operation → Prop
  | .launch .. => False
  | .start .. => False
  | .stop _ => False
  | .insert _ => False
  | .remove _ => False
  | _ => True

/-- Whether an operation drops something while the lifecycle is busy. -/
def busy : Operation → Bool
  | .dropBinding busy _ => busy
  | .dropTicket busy _ => busy
  | _ => false

/-- What an operation adds to the bindings in hand is what it leaves behind. -/
theorem perform_aside (hR : R.WeighsBooks w v allowed G) {op : Operation} (hop : op.Aside)
    (hbusy : allowed op.busy)
    (hsession : ∀ tasks, op = .session tasks → (Task.session G tasks).Obeys R (fun _ => 0) 0)
    (c : Caller) : (op.perform G c).Obeys R fun r => r.1.weight v - c.weight v := by
  have hc := hR.toComposes
  have hs := hR.toWeighsSessions
  have hrequests := hR.toWeighsRequests
  cases op with
  | launch thread config => exact hop.elim
  | start thread config => exact hop.elim
  | stop thread => exact hop.elim
  | appendPath path =>
    exact noted_obeys hc (Interpreter.appendPath_weighed hs path) (pure_weighed hc _ rfl)
  | setPrinting enabled =>
    exact (Interpreter.setPrinting_weighed hR enabled).seq hc fun _ => pure_weighed hc _ rfl
  | installLog level =>
    exact (Interpreter.installLog_weighed hR level).seq hc fun _ => pure_weighed hc _ rfl
  | callFunction moduleName function args result =>
    exact noted_obeys hc (callFunction_weighed hs (encoder_weighed args.kind w R hrequests)
      (decoder_weighed result w R hrequests) moduleName function args.values) (pure_weighed hc _ rfl)
  | bind moduleName function =>
    simp only [perform]
    refine Bridge.Obeys.bind hc (hR.bind moduleName function) fun r => ?_
    cases r with
    | ok b =>
      refine Bridge.Obeys.pure hc ?_
      rw [Caller.weight_append, leaves]
      omega
    | error f => exact (pure_weighed hc _ rfl).congr fun _ => (Int.sub_zero _).symm
  | callBinding i args result =>
    simp only [perform]
    split
    next => exact pure_weighed hc _ rfl
    next b _ =>
      exact noted_obeys hc (Binding.callAs_weighed hs (encoder_weighed args.kind w R hrequests)
        (decoder_weighed result w R hrequests) b args.values) (pure_weighed hc _ rfl)
  | dropBinding busy i =>
    simp only [perform]
    split
    next => exact pure_weighed hc _ rfl
    next b hb =>
      refine (hR.drop hbusy b).bind hc fun _ => Bridge.Obeys.pure hc ?_
      rw [Caller.weight_eraseIdx hb]
      omega
  | insert i => exact hop.elim
  | find id =>
    simp only [perform]
    refine Bridge.Obeys.bind hc (Registry.find_weighed hR id) fun r => ?_
    cases r with
    | ok t => exact (pure_weighed hc _ rfl).congr fun _ => (Int.sub_zero _).symm
    | error f => exact (pure_weighed hc _ rfl).congr fun _ => (Int.sub_zero _).symm
  | remove id => exact hop.elim
  | size => exact noted_obeys hc (Registry.size_obeys hc) (pure_weighed hc _ rfl)
  | callTicket i args result =>
    simp only [perform]
    split
    next => exact pure_weighed hc _ rfl
    next t _ =>
      exact noted_obeys hc (Ticket.call_weighed hs (encoder_weighed args.kind w R hrequests)
        (decoder_weighed result w R hrequests) t args.values) (pure_weighed hc _ rfl)
  | cloneTicket i =>
    simp only [perform]
    split
    next => exact pure_weighed hc _ rfl
    next t _ => exact (Ticket.clone_weighed hR t).seq hc fun _ => pure_weighed hc _ rfl
  | dropTicket busy i =>
    simp only [perform]
    split
    next => exact pure_weighed hc _ rfl
    next t _ =>
      exact (Ticket.drop_weighed hR hbusy t).seq hc fun _ => pure_weighed hc _ rfl
  | session tasks => exact noted_obeys hc (hsession tasks rfl) (pure_weighed hc _ rfl)

/-- The same for every operation but a stop, if it holds of those that are named. -/
theorem perform_weighed (hR : R.WeighsRegistry w v allowed G) {op : Operation}
    (hop : ∀ thread, op ≠ .stop thread) (hbusy : allowed op.busy)
    (hlaunch : ∀ thread config, (Interpreter.launch G thread config).Obeys R (fun _ => 0) 0)
    (hstart : ∀ thread config, (Interpreter.start G thread config).Obeys R (fun _ => 0) 0)
    (hsession : ∀ tasks, op = .session tasks → (Task.session G tasks).Obeys R (fun _ => 0) 0)
    (c : Caller) : (op.perform G c).Obeys R fun r => r.1.weight v - c.weight v := by
  have hc := hR.toComposes
  cases op with
  | launch thread config =>
    exact Bridge.Obeys.get fun s => noted_obeys hc (hlaunch thread config) (pure_weighed hc _ rfl)
  | start thread config =>
    exact Bridge.Obeys.get fun s => noted_obeys hc (hstart thread config) (pure_weighed hc _ rfl)
  | stop thread => exact absurd rfl (hop thread)
  | insert i =>
    simp only [perform]
    split
    next => exact pure_weighed hc _ rfl
    next b hb =>
      have hweight := Caller.weight_eraseIdx (v := v) hb
      refine Bridge.Obeys.bind hc (Registry.insert_weighed hR b) fun r => ?_
      cases r with
      | ok id =>
        refine (generation_obeys hc).seq hc fun g => Bridge.Obeys.pure hc ?_
        simp only [leaves, hweight]
        omega
      | error f =>
        refine Bridge.Obeys.pure hc ?_
        simp only [leaves, hweight]
        omega
  | remove id =>
    simp only [perform]
    refine Bridge.Obeys.bind hc (Registry.remove_weighed hR id) fun r => ?_
    cases r with
    | ok t =>
      refine (generation_obeys hc).seq hc fun g => ?_
      exact (pure_weighed hc _ rfl).congr fun _ => (Int.sub_zero _).symm
    | error f => exact (pure_weighed hc _ rfl).congr fun _ => (Int.sub_zero _).symm
  | _ =>
    -- all others leave the lifecycle and the entries of the registry alone
    refine perform_aside hR.toWeighsBooks ?_ hbusy hsession c
    trivial

theorem perform_custodial (hR : R.Custodial G) {op : Operation} (hop : op.Aside) (c : Caller) :
    (op.perform G c).Obeys R fun _ => 0 := by
  refine (perform_aside hR.weighs hop trivial
    (fun tasks _ => Task.session_obeys hR.sessional tasks) c).congr fun r => ?_
  rw [Caller.weight_zero, Caller.weight_zero, Int.sub_self]

/-- An operation leaves nothing behind. -/
theorem perform_obeys (hR : R.Clerical G) (op : Operation) (c : Caller) :
    (op.perform G c).Obeys R fun _ => 0 := by
  by_cases hop : ∃ thread, op = .stop thread
  · obtain ⟨thread, rfl⟩ := hop
    exact noted_obeys hR.toComposes (Interpreter.stop_obeys hR thread)
      (Bridge.Obeys.pure hR.toComposes rfl)
  · refine (perform_weighed hR.weighs (fun thread heq => hop ⟨thread, heq⟩) trivial
      (Interpreter.launch_obeys hR) (Interpreter.start_obeys hR)
      (fun tasks _ => Task.session_obeys hR.sessional tasks) c).congr fun r => ?_
    rw [Caller.weight_zero, Caller.weight_zero, Int.sub_self]

end Operation

end Embedder
