import Embedder.Proofs.Balance
import Embedder.Proofs.FatalFailures
import Embedder.Proofs.Trait.Operation
import Embedder.Proofs.Willing

/-!
# The last error and the latest call

A thread reads the message of a failed call from a slot of its own. Most calls of the C interface
write that slot: they empty it, and fill it again if they fail. Three answer without a look at it,
the stage, the log and the count of handles, and so does the reading itself (`Records`). What a
thread reads is thus the outcome of its latest call that records (`Latest`). It is the outcome of
its latest call of all exactly if that one records or the slot was empty before.

What the failure of a call is, is told by the typed operation that the call stands for
(`failure?`), which knows nothing of slots.
-/

namespace Embedder

open Scenario CInterface

variable {σ α : Type} {G : Guest σ} {thread : ThreadId} {h h' : Host σ}

/-! ## Writing a slot -/

namespace LastErrors

/-- The slots after one of them was written. -/
def write (e : LastErrors) (thread : ThreadId) (message : Option String) : LastErrors :=
  ⟨fun t => if t = thread then message else e.slot t⟩

variable (e : LastErrors) (message : Option String)

@[simp] theorem get_write_self : (e.write thread message).get thread = message := if_pos rfl

@[simp] theorem get_write_of_ne {t : ThreadId} (hne : t ≠ thread) :
    (e.write thread message).get t = e.get t := if_neg hne

theorem clear_eq_write : e.clear thread = e.write thread none := rfl

theorem set_eq_write (m : String) : e.set thread m = e.write thread (some (escapeNul m)) := by
  simp only [set, write, cString?_escapeNul]

theorem set_clear (m : String) :
    (e.clear thread).set thread m = e.write thread (some (escapeNul m)) := by
  rw [set_eq_write, clear_eq_write]
  refine congrArg LastErrors.mk (funext fun t => ?_)
  by_cases ht : t = thread
  · simp only [write, if_pos ht]
  · simp only [write, if_neg ht]

end LastErrors

/-! ## What a call is to tell -/

/-- The failure of an attempt from a host, if it returns with one. -/
def Attempt.failure? (x : Attempt σ Failure α) (h : Host σ) : Option Failure :=
  match x.run.run h with
  | .ok (.error f, _) => some f
  | _ => none

namespace Scenario

namespace InterfaceCall

/-- Whether a call writes the slot of its thread. -/
def Records : InterfaceCall → Bool
  | .state | .initLog _ | .liveHandles | .lastError => false
  | _ => true

variable (G) (thread)

/-- The failure of what a call stands for, done on a host whose slots do not matter. -/
def failure? (h : Host σ) : InterfaceCall → Option Failure
  | .start e => (Interpreter.start G thread (Config.ofEnvironment e)).failure? h
  | .startWithConfig json => (check (configChecks json) >>= Interpreter.start G thread).failure? h
  | .stop => (Interpreter.stop G thread).failure? h
  | .appendPath path => (check (pathChecks path) >>= Interpreter.appendPath G).failure? h
  | .callFunction moduleName function values output =>
    (check (callChecks moduleName function values output) >>= fun x =>
      Embedder.callFunction G (Scalar.encodeFloat G) (Scalar.decodeInt G) x.1 x.2.1 x.2.2).failure? h
  | .bind moduleName function output =>
    (check (bindChecks moduleName function output) >>= fun x =>
      Registry.bindNew G x.1 x.2).failure? h
  | .callBound id values output =>
    (check (callBoundChecks values output) >>=
      Registry.findAndCall G (Scalar.encodeFloat G) (Scalar.decodeInt G) id).failure? h
  | .unbind id => (Registry.removeAndDrop G id).failure? h
  | .bindingCount => (Registry.size : Attempt σ Failure Nat).failure? h
  | .state | .initLog _ | .liveHandles | .lastError | .clearLastError | .setLastError _ => none

/-- The text of a failure. The count of bindings leaves the traceback out. -/
def message (f : Failure) : InterfaceCall → String
  | .bindingCount => f.message
  | _ => f.detailed

/-- What a thread is to read after a call, going by that call alone. -/
def own (h : Host σ) : InterfaceCall → Option String
  | .setLastError text => some (LastErrors.escapeNul text)
  | call => (call.failure? G thread h).map fun f => LastErrors.escapeNul (call.message f)

/-- What a call answers, and what becomes of the slots. -/
structure Tells (call : InterfaceCall) (h : Host σ) (v : InterfaceValue) (h' : Host σ) : Prop where
  failed : ∀ f, call.failure? G thread h = some f → v.code = f.code ∧ v.code < 0
  succeeded : call.failure? G thread h = none → 0 ≤ v.code
  slots : h'.lastErrors =
    if call.Records then h.lastErrors.write thread (call.own G thread h) else h.lastErrors

/-- What the thread reads right after a call is about that call: the text of its failure after a
negative status, and nothing after any other. -/
structure Honest (call : InterfaceCall) (h : Host σ) (v : InterfaceValue) (read : Option String) :
    Prop where
  sign : read.isSome ↔ v.code < 0
  text : ∀ m, read = some m → ∃ f, call.failure? G thread h = some f ∧ v.code = f.code ∧
    m = LastErrors.escapeNul (call.message f)

end InterfaceCall

end Scenario

/-! ## One call -/

theorem Registry.size_run_of_open {r : Registry} (hr : h.registry = some r) :
    (size : Attempt σ Failure Nat).run.run h = .ok (.ok r.entries.length, h) :=
  whileOpen_run_of_open hr

/-- Whatever the body of an answer is, its failure is told and written, and nothing else is. -/
theorem CInterface.answer_tells {body : Attempt σ Failure α} {a : CInterface.Answer α}
    (hbody : ∀ e, body.Even (Slots e)) (hr : (answer thread body).run h = .ok (a, h')) :
    (a.status = (body.failure? h).elim 0 Failure.code) ∧
    h'.lastErrors = h.lastErrors.write thread
      ((body.failure? h).map fun f => LastErrors.escapeNul f.detailed) := by
  have hkept : ∀ {r h₁}, body.run.run h = .ok (r, h₁) → h₁.lastErrors = h.lastErrors :=
    lastErrors_of_even hbody
  -- the body runs on slots of which one is empty, and turns out as on any others
  have halike := hbody (h.lastErrors.clear thread) h _ rfl
  rw [answer_run] at hr
  unfold Attempt.failure?
  generalize body.run.run h = x at halike hkept
  generalize body.run.run { h with lastErrors := h.lastErrors.clear thread } = y at halike hr
  cases halike with
  | ended e => cases hr
  | @returned r h₁ _ hs =>
    have herrors : h₁.lastErrors = h.lastErrors := hkept rfl
    rw [show _ = _ from hs] at hr
    cases r with
    | ok a =>
      cases hr
      exact ⟨rfl, rfl⟩
    | error f =>
      cases hr
      exact ⟨rfl, LastErrors.set_clear _ _⟩

theorem CInterface.bindingCount_run_of_closed (hreg : h.registry = none) :
    (bindingCount thread : Bridge σ Int).run h = .ok (Failure.notRunning.code,
      { h with lastErrors :=
          h.lastErrors.write thread (some (LastErrors.escapeNul Failure.notRunning.message)) }) := by
  have hsize : Registry.size.Barred { h with lastErrors := h.lastErrors.clear thread } :=
    Registry.size_barred hreg
  unfold bindingCount
  rw [Bridge.run_modify_bind, Bridge.run_bind hsize, ← LastErrors.set_clear]
  rfl

theorem CInterface.bindingCount_run_of_open {r : Registry} (hreg : h.registry = some r) :
    (bindingCount thread : Bridge σ Int).run h =
      .ok (r.entries.length, { h with lastErrors := h.lastErrors.write thread none }) := by
  have hsize := Registry.size_run_of_open (h := { h with lastErrors := h.lastErrors.clear thread }) hreg
  unfold bindingCount
  rw [Bridge.run_modify_bind, Bridge.run_bind hsize]
  rfl

namespace Scenario.InterfaceCall

variable {call : InterfaceCall} {v : InterfaceValue}

/-- A call that answers for a body tells how the body turned out. -/
theorem tells_of_answer {body : Attempt σ Failure α} {f : CInterface.Answer α → InterfaceValue}
    (hbody : ∀ e, body.Even (Embedder.Slots e)) (hcode : ∀ a, (f a).code = a.status)
    (hfailure : call.failure? G thread h = body.failure? h)
    (hown : call.own G thread h =
      (body.failure? h).map fun g => LastErrors.escapeNul g.detailed)
    (hrecords : call.Records = true)
    (hr : (answer thread body >>= fun a => pure (f a)).run h = .ok (v, h')) :
    call.Tells G thread h v h' := by
  obtain ⟨a, h₁, hanswer, hdone⟩ := Bridge.bind_ok hr
  obtain ⟨rfl, rfl⟩ := Bridge.pure_ok hdone
  obtain ⟨hstatus, hslots⟩ := answer_tells hbody hanswer
  refine ⟨fun g hg => ?_, fun hnone => ?_, ?_⟩
  · rw [hfailure] at hg
    rw [hcode, hstatus, hg]
    exact ⟨rfl, g.code_neg⟩
  · rw [hfailure] at hnone
    rw [hcode, hstatus, hnone]
    exact Int.le_refl 0
  · rw [if_pos hrecords, hown, hslots]

/-- The count of bindings fails exactly if there is no registry. -/
theorem bindingCount_tells
    (hr : (InterfaceCall.bindingCount.perform G thread).run h = .ok (v, h')) :
    InterfaceCall.bindingCount.Tells G thread h v h' := by
  obtain ⟨n, h₁, hcount, hdone⟩ := Bridge.bind_ok hr
  obtain ⟨rfl, rfl⟩ := Bridge.pure_ok hdone
  cases hreg : h.registry with
  | none =>
    have hfailure : InterfaceCall.bindingCount.failure? G thread h = some .notRunning := by
      simp only [failure?, Attempt.failure?, show _ = _ from Registry.size_barred hreg]
    rw [bindingCount_run_of_closed hreg] at hcount
    cases hcount
    refine ⟨fun f hf => ?_, fun hnone => ?_, ?_⟩
    · rw [hfailure] at hf
      cases hf
      exact ⟨rfl, Failure.notRunning.code_neg⟩
    · rw [hfailure] at hnone
      cases hnone
    · simp only [own, hfailure]
      rfl
  | some r =>
    have hfailure : InterfaceCall.bindingCount.failure? G thread h = none := by
      simp only [failure?, Attempt.failure?, Registry.size_run_of_open hreg]
    rw [bindingCount_run_of_open hreg] at hcount
    cases hcount
    refine ⟨fun f hf => ?_, fun _ => Int.natCast_nonneg _, ?_⟩
    · rw [hfailure] at hf
      cases hf
    · simp only [own, hfailure]
      rfl

theorem initLog_even {S : Likeness σ} (hS : S.Clerical G) (verbosity : Int) :
    (CInterface.initLog verbosity : Bridge σ Int).Even S := by
  refine Bridge.Even.bind (Interpreter.installLog_has hS.trait.toCustodial _) fun b => ?_
  split
  next => exact Bridge.Even.pure 1
  next => exact Bridge.Even.pure 0

/-- A call that cannot fail and does not look at the slots. -/
theorem tells_of_quiet (hfailure : call.failure? G thread h = none)
    (hquiet : call.Records = false) (hcode : 0 ≤ v.code) (hslots : h'.lastErrors = h.lastErrors) :
    call.Tells G thread h v h' := by
  refine ⟨fun f hf => ?_, fun _ => hcode, ?_⟩
  · rw [hfailure] at hf
    cases hf
  · rw [if_neg (by rw [hquiet]; exact Bool.false_ne_true)]
    exact hslots

/-- Whatever a call is, it tells of itself or of nothing. -/
theorem perform_tells (hlive : 0 ≤ h.live) (hr : (call.perform G thread).run h = .ok (v, h')) :
    call.Tells G thread h v h' := by
  have hS := slots_clerical G
  cases call with
  | start e =>
    exact tells_of_answer (fun e' => Interpreter.start_even (hS e') thread _) (fun _ => rfl) rfl rfl
      rfl hr
  | startWithConfig json =>
    change (CInterface.startWithConfig G thread json >>= _).run h = _ at hr
    rw [startWithConfig_eq] at hr
    exact tells_of_answer (fun e => (check_even _).bind (Interpreter.start_even (hS e) thread))
      (fun _ => rfl) rfl rfl rfl hr
  | stop =>
    exact tells_of_answer (fun e => Interpreter.stop_even (hS e) thread) (fun _ => rfl) rfl rfl rfl
      hr
  | state =>
    have hcode := state_nonneg hr
    cases hr
    exact tells_of_quiet rfl rfl hcode rfl
  | appendPath path =>
    change (CInterface.appendPath G thread path >>= _).run h = _ at hr
    rw [appendPath_eq] at hr
    exact tells_of_answer
      (fun e => (check_even _).bind (Interpreter.appendPath_even (hS e).sessional))
      (fun _ => rfl) rfl rfl rfl hr
  | initLog verbosity =>
    have heven : ∀ e, (numberOf (CInterface.initLog verbosity)).Even
        (Embedder.Slots e : Likeness σ) :=
      fun e => (initLog_even (hS e) verbosity).bind fun n => Bridge.Even.pure _
    exact tells_of_quiet rfl rfl (initLog_nonneg hr) (lastErrors_of_even heven hr)
  | callFunction moduleName function values output =>
    change (CInterface.callFunction G thread moduleName function values output >>= _).run h = _ at hr
    rw [callFunction_eq] at hr
    exact tells_of_answer (fun e => (check_even _).bind fun x => callFunction_even (hS e).sessional
      Scalar.encodeFloat_even Scalar.decodeInt_even x.1 x.2.1 x.2.2) (fun _ => rfl) rfl rfl rfl hr
  | bind moduleName function output =>
    change (CInterface.bind G thread moduleName function output >>= _).run h = _ at hr
    rw [bind_eq] at hr
    exact tells_of_answer (fun e => (check_even _).bind fun x => Registry.bindNew_even G (hS e) x.1 x.2)
      (fun _ => rfl) rfl rfl rfl hr
  | callBound id values output =>
    change (CInterface.callBound G thread id values output >>= _).run h = _ at hr
    rw [callBound_eq] at hr
    exact tells_of_answer (fun e => (check_even _).bind fun xs => Registry.findAndCall_even G (hS e)
      Scalar.encodeFloat_even Scalar.decodeInt_even id xs) (fun _ => rfl) rfl rfl rfl hr
  | unbind id =>
    exact tells_of_answer (fun e => Registry.removeAndDrop_even G (hS e) id) (fun _ => rfl) rfl rfl
      rfl hr
  | bindingCount => exact bindingCount_tells hr
  | liveHandles =>
    cases hr
    exact tells_of_quiet rfl rfl hlive rfl
  | lastError =>
    cases hr
    exact tells_of_quiet rfl rfl (Int.le_refl 0) rfl
  | clearLastError =>
    cases hr
    exact ⟨fun _ => nofun, fun _ => Int.le_refl 0, rfl⟩
  | setLastError text =>
    cases hr
    exact ⟨fun _ => nofun, fun _ => Int.le_refl 0, LastErrors.set_eq_write _ _⟩

theorem own_eq (hown : ∀ text, call ≠ .setLastError text) : call.own G thread h =
    (call.failure? G thread h).map fun f => LastErrors.escapeNul (call.message f) := by
  cases call with
  | setLastError text => exact absurd rfl (hown text)
  | _ => rfl

theorem failure?_of_quiet (hquiet : ¬ call.Records = true) : call.failure? G thread h = none := by
  cases call with
  | state => rfl
  | initLog verbosity => rfl
  | liveHandles => rfl
  | lastError => rfl
  | _ => exact absurd rfl hquiet

/-- A call that does not record leaves the text of an earlier one, if there is one. -/
theorem Tells.honest_iff (ht : call.Tells G thread h v h')
    (hown : ∀ text, call ≠ .setLastError text) :
    call.Honest G thread h v (h'.lastErrors.get thread) ↔
      call.Records ∨ h.lastErrors.get thread = none := by
  have hnothing : call.failure? G thread h = none → h'.lastErrors.get thread = none →
      call.Honest G thread h v (h'.lastErrors.get thread) := by
    intro hnone hread
    have hcode := ht.succeeded hnone
    rw [hread]
    exact ⟨⟨nofun, fun hneg => absurd hneg (by omega)⟩, nofun⟩
  by_cases hrecords : call.Records = true
  · refine iff_of_true ?_ (.inl hrecords)
    have hread : h'.lastErrors.get thread =
        (call.failure? G thread h).map fun f => LastErrors.escapeNul (call.message f) := by
      rw [ht.slots, if_pos hrecords, LastErrors.get_write_self, own_eq hown]
    cases hf : call.failure? G thread h with
    | none =>
      rw [hf] at hread
      exact hnothing hf hread
    | some f =>
      obtain ⟨hcode, hneg⟩ := ht.failed f hf
      rw [hread, hf]
      refine ⟨iff_of_true rfl hneg, ?_⟩
      rintro _ ⟨⟩
      exact ⟨f, hf, hcode, rfl⟩
  · -- what was in the slot is still there, and is not about a call that never fails
    have hkept : h'.lastErrors = h.lastErrors := by rw [ht.slots, if_neg hrecords]
    constructor
    · intro honest
      right
      cases hread : h.lastErrors.get thread with
      | none => rfl
      | some m =>
        obtain ⟨f, hf, -⟩ := honest.text m (by rw [hkept, hread])
        rw [failure?_of_quiet hrecords] at hf
        cases hf
    · rintro (habs | hempty)
      · exact absurd habs hrecords
      · exact hnothing (failure?_of_quiet hrecords) (by rw [hkept, hempty])

end Scenario.InterfaceCall

/-! ## Runs -/

/-- The call with which a step writes the slot of a thread, if it does. -/
def Step.recorded (thread : ThreadId) : Step σ → Option InterfaceCall
  | .interface t call => if t = thread ∧ call.Records then some call else none
  | _ => none

namespace Process

/-- What a thread reads after the steps of a run: what its latest call that recorded was to tell, or
what was there at first. -/
inductive Latest (G : Guest σ) (thread : ThreadId) (p : Process σ) (entries : List (Entry σ)) :
    Option String → Prop where
  | untouched (hnone : ∀ e ∈ entries, e.step.recorded thread = none) :
      Latest G thread p entries (p.host.lastErrors.get thread)
  | call (before : List (Entry σ)) (e : Entry σ) (after : List (Entry σ)) (call : InterfaceCall)
      (hentries : entries = before ++ e :: after) (hcall : e.step.recorded thread = some call)
      (hafter : ∀ x ∈ after, x.step.recorded thread = none) :
      Latest G thread p entries (call.own G thread (p.last before).host)

variable {p p' : Process σ} {s : Step σ} {a : StepAnswer}

theorem live_of_step (hs : p.step G s = .ok p') : p'.host.live = p.host.live := by
  have hlive : p'.host.live = p.host.live + 0 := (step_balanced hs).2
  omega

/-- A step writes the slot of a thread with the outcome of the call that it records, or leaves the
slot alone. -/
theorem tell_slot (hlive : 0 ≤ p.host.live) (hs : p.tell G s = .ok (a, p')) (thread : ThreadId) :
    p'.host.lastErrors.get thread =
      (s.recorded thread).elim (p.host.lastErrors.get thread) (InterfaceCall.own G thread p.host) := by
  cases s with
  | perform op =>
    obtain ⟨x, hop, -⟩ := tell_perform_ok hs
    rw [lastErrors_of_even (fun e => op.answer_has (slots_clerical G e).trait p.caller) hop]
    rfl
  | interface t call =>
    obtain ⟨v, e, hrun, -⟩ := tell_interface_ok hs
    obtain ⟨w, h₁, hcall, hread⟩ := Bridge.bind_ok hrun
    cases hread
    have hslots := (InterfaceCall.perform_tells hlive hcall).slots
    rw [hslots]
    by_cases hrecords : call.Records = true
    · rw [if_pos hrecords]
      by_cases ht : t = thread
      · subst ht
        simp [Step.recorded, hrecords]
      · simp [Step.recorded, ht, Ne.symm ht]
    · simp [Step.recorded, hrecords]
  | outside f =>
    cases hs
    rfl

theorem latest_of_trace (thread : ThreadId) : ∀ {steps : List (Step σ)} {p : Process σ}
    {entries : List (Entry σ)}, 0 ≤ p.host.live → p.trace G steps = .ok entries →
      Latest G thread p entries ((p.last entries).host.lastErrors.get thread) := by
  intro steps
  induction steps with
  | nil =>
    intro p entries _ hr
    cases hr
    exact .untouched fun e he => absurd he List.not_mem_nil
  | cons s rest ih =>
    intro p entries hlive hr
    obtain ⟨a, q, later, hs, hrest, rfl⟩ := trace_cons_ok hr
    have hlater : 0 ≤ q.host.live := by
      rw [live_of_step (step_of_tell hs)]
      exact hlive
    have hslot := tell_slot hlive hs thread
    have hlatest := ih hlater hrest
    change Latest G thread p _ ((q.last later).host.lastErrors.get thread)
    generalize (q.last later).host.lastErrors.get thread = m at hlatest
    cases hlatest with
    | call before e after call hentries hcall hafter =>
      exact .call (⟨s, a, q⟩ :: before) e after call (congrArg _ hentries) hcall hafter
    | untouched hnone =>
      -- the step is the last that may have written
      rw [hslot]
      cases hrecorded : s.recorded thread with
      | some call => exact .call [] ⟨s, a, q⟩ later call rfl hrecorded hnone
      | none => exact .untouched (List.forall_mem_cons.mpr ⟨hrecorded, hnone⟩)

/-- **The last error is of the latest call that records.** After any steps of a process, from any
threads, a thread reads what its own latest call that records was to tell, and nothing of another
thread. A further call answers with the status of its own failure, and writes no slot but that of
its thread, and that one only if it records. What is read right after it is thus about that call
(`Honest`) exactly if the call records or there was nothing to read before. -/
theorem last_error_laws (G : Guest σ) (world : σ) (steps : List (Step σ)) :
    Ends ((fresh world).trace G steps) fun entries =>
      let p := (fresh world).last entries
      (∀ thread, Latest G thread (fresh world) entries (p.host.lastErrors.get thread)) ∧
      ∀ (thread : ThreadId) (call : InterfaceCall), Ends ((call.run G thread).run p.host) fun r =>
        call.Tells G thread p.host r.1.1 r.2 ∧ r.1.2 = r.2.lastErrors.get thread ∧
        ((∀ text, call ≠ .setLastError text) →
          (call.Honest G thread p.host r.1.1 r.1.2 ↔
            call.Records ∨ p.host.lastErrors.get thread = none)) := by
  intro entries hr
  have hrun : (fresh world).run G steps = .ok ((fresh world).last entries) := by
    rw [run_eq, hr]
    rfl
  -- the count of handles is told as it is, so it must not look like an error
  have hlive : ((fresh world).last entries).host.live = 0 :=
    run_preserves (P := fun q => q.host.live = 0) (fun hq hs => (live_of_step hs).trans hq) rfl hrun
  refine ⟨fun thread => latest_of_trace thread (Int.le_refl 0) hr, fun thread call r hcall => ?_⟩
  obtain ⟨⟨v, read⟩, h'⟩ := r
  obtain ⟨w, h₁, hperform, hread⟩ := Bridge.bind_ok hcall
  cases hread
  have htells := InterfaceCall.perform_tells (by omega) hperform
  exact ⟨htells, rfl, htells.honest_iff⟩

/-- What calls of one thread answer, each with the last error read after it. -/
def answersTo (calls : List InterfaceCall) : Except Exit (List StepAnswer) :=
  (fun entries => entries.map (·.answer)) <$>
    (fresh false).trace willing (calls.map (.interface mainThread ·))

/-- The stage, the log and the count of handles are told without a failure, and the text of the call
before them is still there. The count of bindings takes it away. -/
theorem stale_last_error :
    answersTo [.start ⟨none, none, none⟩, .unbind 5, .state, .initLog 0, .liveHandles,
      .bindingCount] =
    .ok [.interface (.status 0) none,
      .interface (.status (-11)) (some "Invalid binding id: 5"),
      .interface (.status 1) (some "Invalid binding id: 5"),
      .interface (.status 1) (some "Invalid binding id: 5"),
      .interface (.status 0) (some "Invalid binding id: 5"),
      .interface (.status 0) none] := by
  rfl

end Process

end Embedder
