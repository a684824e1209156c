import Embedder.Proofs.Printing
import Embedder.Proofs.Survival
import Embedder.Proofs.Transfers

/-!
# Printing does not change what a process does

Two programs that differ only in what they say about printing, be it in the configuration of a start
or by switching it at any time (`Process.ButPrinting`), run step by step alike from processes that
differ only in printing (`Process.Abreast`): each step answers the same, and leaves the same behind,
but for the text that was printed. The one exception is an exception that ends the process when it
is printed.

The induction is on the two programs. What one step keeps is `Abreast`; a switch of printing keeps
it on either side alone.
-/

namespace Embedder

open Scenario

variable {σ α β : Type} {G : Guest σ} {same : σ → σ → Prop} {h k : Host σ}

/-! ## Calls that start the interpreter -/

namespace Scenario.InterfaceCall

variable {thread : ThreadId} {call : InterfaceCall} {x : Except Failure Config}

/-- What a call of the C interface makes of its argument, if it is one to start the interpreter. -/
def request? : InterfaceCall → Option (Except Failure Config)
  | .start e => some (.ok (Config.ofEnvironment e))
  | .startWithConfig json => some (CInterface.configChecks json)
  | _ => none

theorem config?_of_request (hx : call.request? = some x) : call.config? = x.toOption := by
  cases call <;> simp only [request?, Option.some.injEq, reduceCtorEq] at hx <;> subst hx <;> rfl

theorem events_of_request (hx : call.request? = some x) (g : Nat) (v : InterfaceValue) :
    call.events g v = [] := by
  cases call <;> simp only [request?, reduceCtorEq] at hx <;> rfl

theorem perform_of_request (hx : call.request? = some x) : call.perform G thread =
    statusOf (CInterface.answer thread (CInterface.check x >>= Interpreter.start G thread)) := by
  cases call <;> simp only [request?, Option.some.injEq, reduceCtorEq] at hx <;> subst hx
  case start e => rfl
  case startWithConfig json =>
    show statusOf (CInterface.startWithConfig G thread json) = _
    rw [CInterface.startWithConfig_eq]

end Scenario.InterfaceCall

/-- Configurations that are checked alike but for printing are started with alike. -/
theorem CInterface.start_concurs (hG : G.PrintsAside same) (hs : UpToPrinting same h k)
    (thread : ThreadId) (x : Except Failure Config) (b : Bool) :
    Concur (UpToPrinting same)
      ((answer thread (check x >>= Interpreter.start G thread)).run h)
      ((answer thread (check (x.map fun c => c.withPrintTracebacks b) >>=
        Interpreter.start G thread)).run k) := by
  have hr : (Trait.concurring (UpToPrinting same)).Reporting := Trait.concurring_reporting
  unfold answer
  refine Concur.bind (hr.setErrors (fun e => e.clear thread) h k hs) fun _ h k hs => ?_
  refine Concur.bind (α := Except Failure Unit) ?_ fun r h k hs => ?_
  · cases x with
    | error f => exact .returned (Except.error f) hs
    | ok config => exact Interpreter.start_concurs hG hs b
  · cases r with
    | ok u => exact .returned _ hs
    | error f => exact (hr.setErrors fun e => e.set thread f.detailed).map _ h k hs

/-! ## One step -/

/-- Whether a step switches printing and does nothing else. -/
def Step.isSwitch : Step σ → Bool
  | .perform (.setPrinting _) => true
  | _ => false

/-- Steps of two programs that differ at most in what they say about printing. What code outside the
bridge does must not hang on the text that was printed. -/
inductive Step.Counterpart (same : σ → σ → Prop) : Step σ → Step σ → Prop where
  | launch (thread : ThreadId) (config : Config) (b : Bool) :
    Counterpart same (.perform (.launch thread config))
      (.perform (.launch thread (config.withPrintTracebacks b)))
  | start (thread : ThreadId) (config : Config) (b : Bool) :
    Counterpart same (.perform (.start thread config))
      (.perform (.start thread (config.withPrintTracebacks b)))
  | perform (op : Operation) (hop : ∀ b, op ≠ .setPrinting b) :
    Counterpart same (.perform op) (.perform op)
  | interfaceStart (thread : ThreadId) {c d : InterfaceCall} {x : Except Failure Config} (b : Bool)
    (hc : c.request? = some x) (hd : d.request? = some (x.map fun c => c.withPrintTracebacks b)) :
    Counterpart same (.interface thread c) (.interface thread d)
  | interface (thread : ThreadId) (call : InterfaceCall) :
    Counterpart same (.interface thread call) (.interface thread call)
  | outside (f : σ → σ) (hf : ∀ {w v}, same w v → same (f w) (f v)) :
    Counterpart same (.outside f) (.outside f)

theorem Step.Counterpart.not_switch {s t : Step σ} (hst : s.Counterpart same t) :
    s.isSwitch = false ∧ t.isSwitch = false := by
  cases hst with
  | perform op hop => cases op <;> simp_all [isSwitch]
  | _ => exact ⟨rfl, rfl⟩

namespace Process

variable {p p' q q' : Process σ} {s t : Step σ}

/-- Processes that differ at most in whether they print and in what was printed. -/
structure Abreast (same : σ → σ → Prop) (p q : Process σ) : Prop where
  host : UpToPrinting same p.host q.host
  caller : p.caller = q.caller
  history : p.history = q.history

/-- The process with printing on or off. -/
def withPrinting (b : Bool) (p : Process σ) : Process σ :=
  { p with host := { p.host with printing := b } }

theorem Abreast.switch (hpq : Abreast same p q) (b : Bool) : Abreast same (p.withPrinting b) q :=
  ⟨⟨hpq.host.books, hpq.host.world⟩, hpq.caller, hpq.history⟩

theorem Abreast.switchRight (hpq : Abreast same p q) (b : Bool) :
    Abreast same p (q.withPrinting b) :=
  ⟨⟨hpq.host.books, hpq.host.world⟩, hpq.caller, hpq.history⟩

theorem Abreast.refl (hG : G.PrintsAside same) (p : Process σ) : Abreast same p p :=
  ⟨⟨rfl, hG.equivalence.refl _⟩, rfl, rfl⟩

/-- Operations that answer alike and whose answers are taken alike keep processes abreast. -/
theorem tell_perform_abreast {op op' : Operation} {a b : StepAnswer} (hpq : Abreast same p q)
    (hanswer : ∀ c, Concur (UpToPrinting same) ((op.answer G c).run p.host)
      ((op'.answer G c).run q.host))
    (hafter : ∀ x, p.caller.after op x = p.caller.after op' x)
    (hevents : ∀ x, op.events (op.launches G p.host) x = op'.events (op'.launches G q.host) x)
    (hp : p.tell G (.perform op) = .ok (a, p')) (hq : q.tell G (.perform op') = .ok (b, q')) :
    a = b ∧ Abreast same p' q' := by
  obtain ⟨x, hx, rfl, hcaller, hhistory⟩ := tell_perform_ok hp
  obtain ⟨y, hy, rfl, hcaller', hhistory'⟩ := tell_perform_ok hq
  have hxy := hanswer p.caller
  rw [hx, hpq.caller, hy] at hxy
  cases hxy with
  | returned _ hs =>
    refine ⟨rfl, hs, ?_, ?_⟩
    · rw [hcaller, hcaller', hafter, hpq.caller]
    · rw [hhistory, hhistory', hevents, hpq.history]

theorem tell_interface_abreast {thread : ThreadId} {c d : InterfaceCall} {a b : StepAnswer}
    (hpq : Abreast same p q)
    (hrun : Concur (UpToPrinting same) ((c.run G thread).run p.host) ((d.run G thread).run q.host))
    (hconfig : c.config?.any (Interpreter.launches G · p.host) =
      d.config?.any (Interpreter.launches G · q.host))
    (hevents : ∀ g v, c.events g v = d.events g v)
    (hp : p.tell G (.interface thread c) = .ok (a, p'))
    (hq : q.tell G (.interface thread d) = .ok (b, q')) :
    a = b ∧ Abreast same p' q' := by
  obtain ⟨v, e, hv, rfl, hcaller, hhistory⟩ := tell_interface_ok hp
  obtain ⟨v', e', hv', rfl, hcaller', hhistory'⟩ := tell_interface_ok hq
  rw [hv, hv'] at hrun
  cases hrun with
  | returned _ hs =>
    refine ⟨rfl, hs, ?_, ?_⟩
    · rw [hcaller, hcaller', hpq.caller]
    · rw [hhistory, hhistory', hconfig, hevents, hs.lifecycle, hpq.history]

/-- Counterparts answer the same and keep processes abreast, if both return. -/
theorem tell_abreast (hG : G.PrintsAside same) (hst : s.Counterpart same t)
    (hpq : Abreast same p q) {a b : StepAnswer} (hp : p.tell G s = .ok (a, p'))
    (hq : q.tell G t = .ok (b, q')) : a = b ∧ Abreast same p' q' := by
  have hP := Trait.concurring_clerical hG
  have hr : (Trait.concurring (UpToPrinting same)).Reporting := Trait.concurring_reporting
  have hs := hpq.host
  cases hst with
  | launch thread config on =>
    refine tell_perform_abreast hpq ?_ ?_ ?_ hp hq
    · intro _
      exact (Interpreter.launch_concurs hG hs on).bind fun r _ _ hs => .returned (Answer.done r) hs
    · exact fun _ => rfl
    · intro _
      exact congrArg Operation.startEvents (Interpreter.launches_eq hG hs on).symm
  | start thread config on =>
    refine tell_perform_abreast hpq ?_ ?_ ?_ hp hq
    · intro _
      exact (Interpreter.start_concurs hG hs on).bind fun r _ _ hs => .returned (Answer.done r) hs
    · exact fun _ => rfl
    · intro _
      exact congrArg Operation.startEvents (Interpreter.launches_eq hG hs on).symm
  | perform op hop =>
    refine tell_perform_abreast hpq (fun c => op.answer_has hP c _ _ hs) (fun _ => rfl) (fun x => ?_)
      hp hq
    have hlaunches : op.launches G p.host = op.launches G q.host := by
      cases op with
      | launch thread config => exact (Interpreter.launches_eq hG hs config.printTracebacks).symm
      | start thread config => exact (Interpreter.launches_eq hG hs config.printTracebacks).symm
      | _ => rfl
    rw [hlaunches]
  | @interfaceStart thread c d x on hc hd =>
    refine tell_interface_abreast hpq ?_ ?_ (fun g v => ?_) hp hq
    · unfold InterfaceCall.run
      rw [InterfaceCall.perform_of_request hc, InterfaceCall.perform_of_request hd]
      refine Concur.bind (Concur.bind (CInterface.start_concurs hG hs thread x on)
        fun a _ _ hs => .returned _ hs) fun v h k hs => ?_
      exact ((CInterface.lastError_has hr).map fun e => (v, e)) h k hs
    · rw [InterfaceCall.config?_of_request hc, InterfaceCall.config?_of_request hd]
      cases x with
      | error f => rfl
      | ok config => exact (Interpreter.launches_eq hG hs on).symm
    · rw [InterfaceCall.events_of_request hc, InterfaceCall.events_of_request hd]
  | interface thread call =>
    refine tell_interface_abreast hpq
      (InterfaceCall.run_has hr (call.perform_has hP hr) _ _ hs) ?_ (fun _ _ => rfl) hp hq
    cases call.config? with
    | none => rfl
    | some config => exact (Interpreter.launches_eq hG hs config.printTracebacks).symm
  | outside f hf =>
    cases hp
    cases hq
    exact ⟨rfl, ⟨hs.books, hf hs.world⟩, hpq.caller, hpq.history⟩

/-! ## Runs -/

/-- Two programs that are the same but for what they say about printing. -/
inductive ButPrinting (same : σ → σ → Prop) : List (Step σ) → List (Step σ) → Prop where
  | done : ButPrinting same [] []
  | step {s t : Step σ} {ss ts : List (Step σ)} (hst : s.Counterpart same t)
    (rest : ButPrinting same ss ts) : ButPrinting same (s :: ss) (t :: ts)
  | switch (b : Bool) {ss ts : List (Step σ)} (rest : ButPrinting same ss ts) :
    ButPrinting same (.perform (.setPrinting b) :: ss) ts
  | switchRight (b : Bool) {ss ts : List (Step σ)} (rest : ButPrinting same ss ts) :
    ButPrinting same ss (.perform (.setPrinting b) :: ts)

/-- Two steps answered the same, and what they left behind differs at most in whether the processes
print and in what was printed. -/
structure Matches (G : Guest σ) (same : σ → σ → Prop) (e d : Entry σ) : Prop where
  answer : e.answer = d.answer
  books : e.after.host.toBooks.unprinted = d.after.host.toBooks.unprinted
  refcount : ∀ o, G.refcount o e.after.host.world = G.refcount o d.after.host.world
  world : same e.after.host.world d.after.host.world
  caller : e.after.caller = d.after.caller
  history : e.after.history = d.after.history

theorem Abreast.matches (hG : G.PrintsAside same) (hpq : Abreast same p q) (a : StepAnswer) :
    Matches G same ⟨s, a, p⟩ ⟨t, a, q⟩ :=
  ⟨rfl, hpq.host.books, fun o => hG.refcount o hpq.host.world, hpq.host.world, hpq.caller,
    hpq.history⟩

/-- The steps of a run that do more than switch printing. -/
def deeds (entries : List (Entry σ)) : List (Entry σ) := entries.filter fun e => !e.step.isSwitch

/-- Two runs match step by step, unless printing an exception ended one of the two. -/
inductive Parallel (G : Guest σ) (same : σ → σ → Prop) :
    Except Exit (List (Entry σ)) → Except Exit (List (Entry σ)) → Prop where
  | returned {es ds : List (Entry σ)} (all : List.Forall₂ (Matches G same) (deeds es) (deeds ds)) :
    Parallel G same (.ok es) (.ok ds)
  | printed {p : Pending} {w : σ} {status : Nat} (y : Except Exit (List (Entry σ)))
    (ended : (G.print p w).value = some status) : Parallel G same (.error ⟨status⟩) y
  | printedRight {p : Pending} {w : σ} {status : Nat} (x : Except Exit (List (Entry σ)))
    (ended : (G.print p w).value = some status) : Parallel G same x (.error ⟨status⟩)

/-- A step that does not return was ended by the printer. -/
theorem tell_error {e : Exit} (hp : p.tell G s = .error e) :
    ∃ q w, (G.print q w).value = some e.status := by
  have hstep := step_eq G s p
  rw [hp] at hstep
  rcases step_outlives G s p with ⟨p', hok, -⟩ | ⟨q, w, status, herror, -, hended⟩
  · rw [hok] at hstep
    cases hstep
  · rw [herror] at hstep
    cases hstep
    exact ⟨q, w, hended⟩

/-- A step before two runs, on both sides. -/
theorem Parallel.cons {x y : Except Exit (List (Entry σ))} {e d : Entry σ}
    (hed : Matches G same e d) (he : e.step.isSwitch = false) (hd : d.step.isSwitch = false)
    (hxy : Parallel G same x y) : Parallel G same (List.cons e <$> x) (List.cons d <$> y) := by
  cases hxy with
  | printed _ ended => exact .printed _ ended
  | printedRight _ ended => exact .printedRight _ ended
  | returned all =>
    refine .returned ?_
    simp only [deeds, List.filter_cons, he, hd, Bool.not_false, if_true]
    exact .cons hed all

/-- A switch of printing before the first of two runs. -/
theorem Parallel.consSwitch {x y : Except Exit (List (Entry σ))} {e : Entry σ}
    (he : e.step.isSwitch = true) (hxy : Parallel G same x y) :
    Parallel G same (List.cons e <$> x) y := by
  cases hxy with
  | printed _ ended => exact .printed _ ended
  | printedRight _ ended => exact .printedRight _ ended
  | returned all =>
    refine .returned ?_
    simp only [deeds, List.filter_cons, he, Bool.not_true, Bool.false_eq_true, if_false]
    exact all

theorem Parallel.consSwitchRight {x y : Except Exit (List (Entry σ))} {d : Entry σ}
    (hd : d.step.isSwitch = true) (hxy : Parallel G same x y) :
    Parallel G same x (List.cons d <$> y) := by
  cases hxy with
  | printed _ ended => exact .printed _ ended
  | printedRight _ ended => exact .printedRight _ ended
  | returned all =>
    refine .returned ?_
    simp only [deeds, List.filter_cons, hd, Bool.not_true, Bool.false_eq_true, if_false]
    exact all

variable {ss ts : List (Step σ)}

theorem tell_switch (b : Bool) (p : Process σ) : p.tell G (.perform (.setPrinting b)) =
    .ok (.operation .nothing, p.withPrinting b) := by
  show Except.ok (_, (⟨_, p.caller, p.history ++ []⟩ : Process σ)) = _
  rw [List.append_nil]
  rfl

/-- Programs that are the same but for printing run in parallel. -/
theorem trace_parallel (hG : G.PrintsAside same)
    (hsteps : ButPrinting same ss ts) : ∀ {p q : Process σ}, Abreast same p q →
      Parallel G same (p.trace G ss) (q.trace G ts) := by
  induction hsteps with
  | done => exact fun _ => .returned .nil
  | @step s t ss ts hst _ ih =>
    intro p q hpq
    cases hp : p.tell G s with
    | error e =>
      obtain ⟨_, _, ended⟩ := tell_error hp
      rw [trace_cons_error hp]
      exact .printed _ ended
    | ok r =>
      cases hq : q.tell G t with
      | error e =>
        obtain ⟨_, _, ended⟩ := tell_error hq
        rw [trace_cons_error hq]
        exact .printedRight _ ended
      | ok u =>
        obtain ⟨a, p'⟩ := r
        obtain ⟨b, q'⟩ := u
        obtain ⟨rfl, hpq'⟩ := tell_abreast hG hst hpq hp hq
        rw [trace_cons hp, trace_cons hq]
        exact (ih hpq').cons (hpq'.matches hG a) hst.not_switch.1 hst.not_switch.2
  | switch b _ ih =>
    intro p q hpq
    rw [trace_cons (tell_switch b p)]
    exact (ih (hpq.switch b)).consSwitch rfl
  | switchRight b _ ih =>
    intro p q hpq
    rw [trace_cons (tell_switch b q)]
    exact (ih (hpq.switchRight b)).consSwitchRight rfl

theorem run_returns_iff : (∃ p', p.run G ss = .ok p') ↔ ∃ es, p.trace G ss = .ok es := by
  rw [run_eq]
  cases p.trace G ss with
  | error e => exact ⟨fun ⟨_, hr⟩ => (by cases hr), fun ⟨_, hr⟩ => by cases hr⟩
  | ok es => exact ⟨fun _ => ⟨es, rfl⟩, fun _ => ⟨_, rfl⟩⟩

/-- **Printing does not change what a process does.** Let two programs be the same but for what they
say about printing, and let them begin in one state, with printing on or off. If the printer uses up
what it is given and writes a text, then they run step by step alike: the same answers, errors and
last errors, the same books, references and bindings in hand, unless printing an exception ended one
of the two processes. The one that never prints runs to its end. -/
theorem printing_laws (hG : G.PrintsAside same) (hsteps : ButPrinting same ss ts) (p : Process σ)
    (a b : Bool) :
    Parallel G same ((p.withPrinting a).trace G ss) ((p.withPrinting b).trace G ts) ∧
    (b = false → (∀ t ∈ ts, t.Silent) → ∃ ds, (p.withPrinting b).trace G ts = .ok ds) :=
  ⟨trace_parallel hG hsteps (((Abreast.refl hG p).switch a).switchRight b),
    fun hb hsilent => run_returns_iff.mp (run_silent G hb hsilent)⟩

end Process

/-! ## A guest that prints -/

/-- The guest with a printer that keeps what it was given to print and gives up the references. -/
def Guest.printer (G : Guest σ) : Guest (Noted σ (List Pending)) :=
  { G.noting fun _ printed => printed with
    print := fun p w =>
      let e := G.releaseAll p.refs w.inner
      ⟨none, ⟨e.world, w.notes ++ [p]⟩, e.notices⟩ }

namespace Guest

/-- States that are the same but for what the printer keeps. -/
def SameInside (w v : Noted σ (List Pending)) : Prop := w.inner = v.inner

theorem releaseAll_retainAll (hG : ∀ o w, G.release o (G.retain o w) = ⟨(), w, []⟩) :
    ∀ (os : List Obj) (w : σ), G.releaseAll os (G.retainAll os w) = ⟨(), w, []⟩ := by
  intro os
  induction os with
  | nil => intro w; rfl
  | cons o os ih =>
    intro w
    have hrest : G.releaseAll os (G.retainAll (o :: os) w) = ⟨(), G.retain o w, []⟩ := ih _
    unfold releaseAll
    simp only [hrest, hG, List.append_nil]

theorem printer_retainAll (G : Guest σ) : ∀ (os : List Obj) (w : Noted σ (List Pending)),
    G.printer.retainAll os w = ⟨G.retainAll os w.inner, w.notes⟩ := by
  intro os
  induction os with
  | nil => intro w; rfl
  | cons o os ih => exact fun w => ih _

theorem noted_sameInside {note : List Transfer → List Pending → List Pending} (f : σ → Effect σ α)
    (passed : α → List Transfer) {w v : Noted σ (List Pending)} (hs : SameInside w v) :
    (Noted.act note f passed w).SameUpTo SameInside (Noted.act note f passed v) := by
  obtain ⟨inner, notes⟩ := w
  obtain ⟨inner', notes'⟩ := v
  obtain rfl : inner = inner' := hs
  exact ⟨rfl, rfl, rfl⟩

theorem printer_printsAside (hG : ∀ o w, G.release o (G.retain o w) = ⟨(), w, []⟩) :
    G.printer.PrintsAside SameInside where
  equivalence := ⟨fun _ => rfl, Eq.symm, Eq.trans⟩
  look hf w v hs := by
    have hinner : w.inner = v.inner := hs
    cases hf <;> simp only [printer, noting, hinner]
  isUp hs := congrArg G.isUp hs
  refcount o _ _ hs := congrArg (G.refcount o) hs
  retain o _ _ hs := congrArg (G.retain o) hs
  boot n _ _ hs := congrArg (G.boot n) hs
  act hf w v hs := by
    cases hf with
    | print p =>
      obtain ⟨inner, notes⟩ := w
      obtain ⟨inner', notes'⟩ := v
      obtain rfl : inner = inner' := hs
      exact ⟨rfl, rfl, rfl⟩
    | release o => exact noted_sameInside (G.release o) (fun _ => [.ended o]) hs
    | normalize p =>
      exact noted_sameInside (G.normalize p) (fun q => p.refs.map .gave ++ q.refs.map .took) hs
    | _ => exact noted_sameInside _ _ hs
  shutdown hs := noted_sameInside G.shutdown (fun _ => []) hs
  releaseKept busy k _ _ hs := noted_sameInside (G.releaseKept busy k) (fun _ => [.ended k.obj]) hs
  print p w _ := by
    rw [printer_retainAll]
    have hback := releaseAll_retainAll hG p.refs w.inner
    exact ⟨congrArg Effect.notices hback, congrArg Effect.world hback⟩

end Guest

/-- A guest whose modules raise and whose objects have as many references as the bridge holds. -/
def counting : Guest (Noted Bool (Obj → Int)) :=
  { Process.raising.noting fun ts count o => count o + Transfer.net ts o with
    refcount := fun o w => w.notes o }

theorem counting_release_retain (o : Obj) (w : Noted Bool (Obj → Int)) :
    counting.release o (counting.retain o w) = ⟨(), w, []⟩ := by
  have hnotes : (fun x => w.notes x + Transfer.net [.made o] x + Transfer.net [.ended o] x) =
      w.notes := by
    funext x
    simp [Transfer.net, Transfer.gain]
  show (⟨(), ⟨w.inner, fun x => w.notes x + Transfer.net [.made o] x + Transfer.net [.ended o] x⟩, []⟩ :
    Effect (Noted Bool (Obj → Int)) Unit) = _
  rw [hnotes]

namespace Process

/-- Two failing calls, with printing on for the first. -/
def printsFirst : List (Step (Noted (Noted Bool (Obj → Int)) (List Pending))) :=
  [.perform (.start mainThread (Config.default.withPrintTracebacks true)),
    .perform (.callFunction "absent" "f" (Numbers.ofFloats []) .float64),
    .perform (.setPrinting false),
    .perform (.callFunction "absent" "f" (Numbers.ofFloats []) .float64)]

/-- The same calls, with printing off. -/
def printsNothing : List (Step (Noted (Noted Bool (Obj → Int)) (List Pending))) :=
  [.perform (.start mainThread (Config.default.withPrintTracebacks false)),
    .perform (.callFunction "absent" "f" (Numbers.ofFloats []) .float64),
    .perform (.callFunction "absent" "f" (Numbers.ofFloats []) .float64)]

/-- How many exceptions were printed when a run has come to its end. -/
def countPrinted (r : Except Exit (Process (Noted σ (List Pending)))) : Option Nat :=
  r.toOption.map fun p => p.host.world.notes.length

theorem printsFirst_butPrinting : ButPrinting Guest.SameInside printsFirst printsNothing :=
  .step (.start mainThread (Config.default.withPrintTracebacks true) false)
    (.step (.perform _ fun _ h => by cases h)
      (.switch false (.step (.perform _ fun _ h => by cases h) .done)))

/-- One of two runs prints, and they are alike in all else. -/
theorem counting_printing_laws :
    countPrinted ((fresh ⟨⟨false, fun _ => 0⟩, []⟩).run counting.printer printsFirst) = some 1 ∧
    countPrinted ((fresh ⟨⟨false, fun _ => 0⟩, []⟩).run counting.printer printsNothing) = some 0 ∧
    counting.printer.PrintsAside Guest.SameInside ∧
    ButPrinting Guest.SameInside printsFirst printsNothing ∧
    Parallel counting.printer Guest.SameInside
      (((fresh ⟨⟨false, fun _ => 0⟩, []⟩).withPrinting false).trace counting.printer printsFirst)
      (((fresh ⟨⟨false, fun _ => 0⟩, []⟩).withPrinting false).trace counting.printer
        printsNothing) ∧
    ∃ ds, ((fresh ⟨⟨false, fun _ => 0⟩, []⟩).withPrinting false).trace counting.printer
      printsNothing = .ok ds := by
  have hG := Guest.printer_printsAside counting_release_retain
  have hlaws := printing_laws hG printsFirst_butPrinting (fresh ⟨⟨false, fun _ => 0⟩, []⟩) false false
  refine ⟨by decide +kernel, by decide +kernel, hG, printsFirst_butPrinting, hlaws.1,
    hlaws.2 rfl fun t ht => ?_⟩
  simp only [printsNothing, List.mem_cons, List.not_mem_nil, or_false] at ht
  rcases ht with rfl | rfl | rfl
  · rfl
  · trivial
  · trivial

end Process

end Embedder
