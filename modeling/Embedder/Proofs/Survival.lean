import Embedder.Proofs.InterfaceRefinement
import Embedder.Proofs.Moves
import Embedder.Proofs.Raises
import Embedder.Proofs.Trait.Operation
import Embedder.Proofs.Willing

/-!
# The host survives what Python code raises, unless it is printed

Whatever Python code raises, a program of the bridge returns: what was raised is taken, described
and reported. There is one way out. While printing is on, an exception that was taken is handed to
the interpreter's own printer as well, and for some exceptions the printer ends the process. So a
process ends only by printing an exception while printing is on (`Outlives`), and a program that
never turns printing on runs to its end (`survival_laws`).

That programs survive is a trait (`Trait.surviving`). It keeps a view of what stands in the books as
well: inside a session all of it stays, in any operation but a start and a stop the lifecycle.
-/

namespace Embedder

open Scenario

variable {σ τ α β : Type} {G : Guest σ} {view : Standing → τ} {h h' : Host σ}

/-! ## Surviving -/

/-- How a program turns out that leaves printing, and a view of the books, as they are: it returns,
or printing ended the process. -/
inductive Survives (G : Guest σ) (view : Standing → τ) (h : Host σ) {α : Type} :
    Except Exit (α × Host σ) → Prop where
  | returned (a : α) {h' : Host σ} (printing : h'.printing = h.printing)
      (same : view h'.standing = view h.standing) : Survives G view h (.ok (a, h'))
  | printed {p : Pending} {w : σ} {status : Nat} (on : h.printing = true)
      (ended : (G.print p w).value = some status) : Survives G view h (.error ⟨status⟩)

theorem Survives.bind {x : Bridge σ α} {f : α → Bridge σ β} (hx : Survives G view h (x.run h))
    (hf : ∀ a k, k.printing = h.printing → Survives G view k ((f a).run k)) :
    Survives G view h ((x >>= f).run h) := by
  rw [StateT.run_bind]
  generalize x.run h = r at hx
  cases hx with
  | printed on ended => exact .printed on ended
  | @returned a k printing same =>
    have hrest := hf a k printing
    show Survives G view h ((f a).run k)
    generalize (f a).run k = s at hrest
    cases hrest with
    | printed on ended => exact .printed (printing ▸ on) ended
    | returned b printing' same' => exact .returned b (printing'.trans printing) (same'.trans same)

/-- The trait of programs that survive, and leave a view of the books as it is. -/
def Trait.surviving (G : Guest σ) (view : Standing → τ) : Trait σ :=
  fun _ x => ∀ h, Survives G view h (x.run h)

instance : (Trait.surviving G view).Composes where
  pure a := fun _ => .returned a rfl rfl
  bind hx hf := fun h => (hx h).bind fun a k _ => hf a k

namespace Trait

theorem surviving_reads (r : Host σ → Host σ → Prop) : (surviving G view).Reads r :=
  fun _ hp h => hp h h

theorem surviving_act (f : σ → Effect σ α) : (Bridge.act f).Has (surviving G view) := by
  intro h
  rw [Bridge.act_run]
  exact .returned _ rfl rfl

theorem surviving_steady (G : Guest σ) (view : Standing → τ) : (surviving G view).Steady G where
  pending := surviving_reads _
  look := surviving_reads _
  count _ _ := .returned () rfl rfl
  record _ _ := .returned () rfl rfl
  leave _ _ := .returned () rfl rfl
  retain _ _ := .returned () rfl rfl
  act _ := surviving_act _

/-- Only while printing is on does an exception reach the printer. -/
theorem surviving_lawful (G : Guest σ) (view : Standing → τ) : (surviving G view).Lawful G where
  toSteady := surviving_steady G view
  printIfWanted kind value trace := by
    have hP := surviving_steady G view
    intro h
    show Survives G view h ((if h.printing then _ else _ : Bridge σ Unit).run h)
    split
    next on =>
      unfold Exception.print
      refine Survives.bind (Exception.copyRef_has hP kind h) fun k h₁ hk => ?_
      refine Survives.bind (Exception.copyRef?_has hP value h₁) fun v h₂ hv => ?_
      refine Survives.bind (Exception.copyRef?_has hP trace h₂) fun t h₃ ht => ?_
      rw [Bridge.run_bind (Bridge.act_run _ _)]
      cases hended : (G.print ⟨k, v, t⟩ h₃.world).value with
      | none => exact .returned () rfl rfl
      | some status => exact .printed (by rw [ht, hv, hk]; exact on) hended
    next => exact .returned () rfl rfl

theorem surviving_sessional (G : Guest σ) (view : Standing → τ) :
    (surviving G view).Sessional G where
  toLawful := surviving_lawful G view
  queue := surviving_reads _
  empty _ := .returned () rfl rfl
  releaseKept _ _ := surviving_act _

/-- Between a start and a stop the lifecycle stays, whatever else is filed. -/
theorem surviving_custodial (G : Guest σ) : (surviving G Standing.lifecycle).Custodial G where
  toLawful := surviving_lawful G _
  records := surviving_reads _
  file _ hg h := .returned () rfl (hg h.records)
  releaseKept _ _ := surviving_act _

theorem surviving_closing (G : Guest σ) : (surviving G fun _ => ()).Closing G where
  toLawful := surviving_lawful G _
  records := surviving_reads _
  file _ _ _ := .returned () rfl rfl
  releaseKept _ _ := surviving_act _
  move _ _ := .returned () rfl rfl
  shutdown := surviving_act _

theorem surviving_reporting (G : Guest σ) (hview : ∀ s e, view { s with lastErrors := e } = view s) :
    (surviving G view).Reporting where
  errors := surviving_reads _
  setErrors _ h := .returned () rfl (hview h.standing _)
  live := surviving_reads _

end Trait

/-! ## Operations -/

/-- How an operation turns out that leaves printing on or off: it returns, or printing ended the
process. -/
inductive Outlives (G : Guest σ) (on : Bool) {α : Type} : Except Exit (α × Host σ) → Prop where
  | returned (a : α) {h' : Host σ} (printing : h'.printing = on) : Outlives G on (.ok (a, h'))
  | printed {p : Pending} {w : σ} {status : Nat} (hon : on = true)
      (ended : (G.print p w).value = some status) : Outlives G on (.error ⟨status⟩)

namespace Outlives

variable {on : Bool}

theorem of_survives {x : Except Exit (α × Host σ)} (hx : Survives G view h x) :
    Outlives G h.printing x := by
  cases hx with
  | returned a printing _ => exact .returned a printing
  | printed hon ended => exact .printed hon ended

/-- What is made of an answer does not matter, as long as printing is left alone. -/
theorem bind {x : Bridge σ α} {f : α → Bridge σ β} (hx : Outlives G on (x.run h))
    (hf : ∀ a k, ∃ b k', (f a).run k = .ok (b, k') ∧ k'.printing = k.printing) :
    Outlives G on ((x >>= f).run h) := by
  rw [StateT.run_bind]
  generalize x.run h = r at hx
  cases hx with
  | printed hon ended => exact .printed hon ended
  | @returned a k printing =>
    obtain ⟨b, k', hrun, hk⟩ := hf a k
    show Outlives G on ((f a).run k)
    rw [hrun]
    exact .returned b (hk.trans printing)

theorem map {x : Bridge σ α} (hx : Outlives G on (x.run h)) (f : α → β) :
    Outlives G on ((x >>= fun a => pure (f a) : Bridge σ β).run h) :=
  hx.bind fun a k => ⟨f a, k, rfl, rfl⟩

end Outlives

/-- Whether exceptions are printed while the interpreter is asked to come up with a configuration,
and afterwards. -/
def Interpreter.printing (G : Guest σ) (config : Config) (h : Host σ) : Bool :=
  if launches G config h then config.printTracebacks else h.printing

namespace Interpreter

variable {thread : ThreadId} {config : Config}

theorem launch_outlives (G : Guest σ) (thread : ThreadId) (config : Config) (h : Host σ) :
    Outlives G (printing G config h) ((launch G thread config).run.run h) := by
  unfold printing
  cases hl : launches G config h with
  | true =>
    rw [launch_run_of_launches thread hl, if_pos rfl]
    exact .returned _ rfl
  | false =>
    obtain ⟨f, h', hrun, hstand⟩ := launch_run_of_not_launches thread hl
    rw [hrun, if_neg Bool.false_ne_true]
    exact .returned _ (congrArg Standing.printing hstand)

/-- The search paths are appended under the printing that the configuration asks for. -/
theorem start_outlives (G : Guest σ) (thread : ThreadId) (config : Config) (h : Host σ) :
    Outlives G (printing G config h) ((start G thread config).run.run h) := by
  unfold printing
  cases hl : launches G config h with
  | true =>
    rw [start_run_of_launches hl, if_pos rfl]
    exact .of_survives (appendPaths_has (Trait.surviving_sessional G fun _ => ()) config.searchPaths
      (launched G thread config h))
  | false =>
    obtain ⟨f, h', hrun, hstand⟩ := launch_run_of_not_launches thread hl
    rw [start_run_of_launch_error hrun, if_neg Bool.false_ne_true]
    exact .returned _ (congrArg Standing.printing hstand)

theorem stop_survives (G : Guest σ) (thread : ThreadId) :
    (stop G thread).Has (Trait.surviving G fun _ => ()) :=
  stop_has (Trait.surviving_closing G) thread

end Interpreter

namespace Operation

/-- An operation survives if its answer does. -/
theorem perform_survives {op : Operation} {c : Caller}
    (hop : (op.answer G c).Has (Trait.surviving G view)) :
    (op.perform G c).Has (Trait.surviving G view) := by
  rw [perform_eq]
  refine Trait.surviving_reads (· = ·) (fun h k hk => by rw [hk]) fun h => ?_
  exact hop.map fun a => (c.after op a, op.events (op.launches G h) a)

theorem ordinary_survives {op : Operation} (hop : op.Ordinary) (c : Caller) :
    (op.perform G c).Has (Trait.surviving G Standing.lifecycle) :=
  perform_survives (answer_has_of_ordinary (Trait.surviving_custodial G) hop c)

/-- Whether exceptions are printed during an operation that begins at a host, and afterwards. -/
def printing (G : Guest σ) (h : Host σ) : Operation → Bool
  | .launch _ config => Interpreter.printing G config h
  | .start _ config => Interpreter.printing G config h
  | .setPrinting enabled => enabled
  | _ => h.printing

theorem perform_outlives (G : Guest σ) (op : Operation) (c : Caller) (h : Host σ) :
    Outlives G (op.printing G h) ((op.perform G c).run h) := by
  cases op with
  | launch thread config =>
    simp only [perform]
    rw [Bridge.run_get_bind]
    exact (Interpreter.launch_outlives G thread config h).map _
  | start thread config =>
    simp only [perform]
    rw [Bridge.run_get_bind]
    exact (Interpreter.start_outlives G thread config h).map _
  | stop thread =>
    exact .of_survives (perform_survives (Bridge.Has.map (Interpreter.stop_survives G thread) _) h)
  | setPrinting enabled => exact .returned _ rfl
  | _ =>
    refine .of_survives (ordinary_survives ?_ c h)
    trivial

end Operation

namespace Scenario.InterfaceCall

open CInterface

variable {thread : ThreadId}

theorem ordinary_survives {call : InterfaceCall} (hcall : call.Ordinary) :
    (call.perform G thread).Has (Trait.surviving G Standing.lifecycle) :=
  perform_has_of_ordinary (Trait.surviving_custodial G)
    (Trait.surviving_reporting G fun _ _ => rfl) hcall

/-- Whether exceptions are printed during a call that begins at a host, and afterwards. -/
def printing (G : Guest σ) (h : Host σ) (call : InterfaceCall) : Bool :=
  match call.config? with
  | some config => Interpreter.printing G config h
  | none => h.printing

/-- Last errors have nothing to do with printing. -/
theorem answer_outlives {on : Bool} {body : Attempt σ Failure α}
    (hbody : Outlives G on (body.run.run { h with lastErrors := h.lastErrors.clear thread })) :
    Outlives G on ((answer thread body).run h) := by
  unfold answer
  rw [Bridge.run_modify_bind]
  refine Outlives.bind hbody fun r k => ?_
  cases r with
  | ok a => exact ⟨_, _, rfl, rfl⟩
  | error f => exact ⟨_, _, rfl, rfl⟩

theorem perform_outlives (G : Guest σ) (thread : ThreadId) (call : InterfaceCall) (h : Host σ) :
    Outlives G (call.printing G h) ((call.perform G thread).run h) := by
  cases call with
  | start e => exact (answer_outlives (Interpreter.start_outlives G thread _ _)).map _
  | startWithConfig json =>
    show Outlives G _ ((statusOf (CInterface.startWithConfig G thread json)).run h)
    rw [startWithConfig_eq]
    refine (answer_outlives ?_).map _
    have hconfig : (InterfaceCall.startWithConfig json).config? =
      (configChecks json).toOption := rfl
    unfold printing
    rw [hconfig]
    cases hchecks : configChecks json with
    | error f =>
      rw [check_bind_of_error rfl]
      exact .returned _ rfl
    | ok config =>
      rw [check_bind_of_ok rfl]
      exact Interpreter.start_outlives G thread config
        { h with lastErrors := h.lastErrors.clear thread }
  | stop =>
    have stopped : (answer thread (Interpreter.stop G thread)).Has (Trait.surviving G fun _ => ()) :=
      CInterface.answer_has (Trait.surviving_reporting G fun _ _ => rfl)
        (Interpreter.stop_survives G thread)
    exact .of_survives (stopped.map _ h)
  | _ =>
    refine .of_survives (ordinary_survives ?_ h)
    trivial

end Scenario.InterfaceCall

/-! ## Steps and runs -/

namespace Step

/-- Whether exceptions are printed during a step, and afterwards. -/
def printing (G : Guest σ) (h : Host σ) : Step σ → Bool
  | .perform op => op.printing G h
  | .interface _ call => call.printing G h
  | .outside _ => h.printing

/-- Whether a step leaves it to others to bring the interpreter up and down and to switch printing.
-/
def Ordinary : Step σ → Prop
  | .perform op => op.Ordinary
  | .interface _ call => call.Ordinary
  | .outside _ => True

/-- A step that does not turn printing on. -/
def Silent : Step σ → Prop
  | .perform (.launch _ config) => config.printTracebacks = false
  | .perform (.start _ config) => config.printTracebacks = false
  | .perform (.setPrinting enabled) => enabled = false
  | .interface _ call => ∀ config, call.config? = some config → config.printTracebacks = false
  | _ => True

theorem printing_of_silent {s : Step σ} (hs : s.Silent) (hoff : h.printing = false) :
    s.printing G h = false := by
  have started : ∀ {config : Config}, config.printTracebacks = false →
      Interpreter.printing G config h = false := by
    intro config hconfig
    unfold Interpreter.printing
    rw [hconfig, hoff, ite_self]
  cases s with
  | perform op =>
    cases op with
    | launch thread config => exact started hs
    | start thread config => exact started hs
    | setPrinting enabled => exact hs
    | _ => exact hoff
  | interface thread call =>
    simp only [printing, InterfaceCall.printing]
    cases hconfig : call.config? with
    | none => exact hoff
    | some config => exact started (hs config hconfig)
  | outside f => exact hoff

end Step

namespace Process

variable {p p' : Process σ} {s : Step σ}

/-- A step goes on, with printing as it is set then, or printing an exception ended the process. -/
theorem step_outlives (G : Guest σ) (s : Step σ) (p : Process σ) :
    (∃ p', p.step G s = .ok p' ∧ p'.host.printing = s.printing G p.host) ∨
    ∃ q w status, p.step G s = .error ⟨status⟩ ∧ s.printing G p.host = true ∧
      (G.print q w).value = some status := by
  cases s with
  | perform op =>
    have hop := op.perform_outlives G p.caller p.host
    simp only [step]
    generalize (op.perform G p.caller).run p.host = r at hop
    cases hop with
    | returned a printing => exact .inl ⟨_, rfl, printing⟩
    | printed hon ended => exact .inr ⟨_, _, _, rfl, hon, ended⟩
  | interface thread call =>
    have hcall := call.perform_outlives G thread p.host
    simp only [step]
    generalize (call.perform G thread).run p.host = r at hcall
    cases hcall with
    | returned a printing => exact .inl ⟨_, rfl, printing⟩
    | printed hon ended => exact .inr ⟨_, _, _, rfl, hon, ended⟩
  | outside f => exact .inl ⟨_, rfl, rfl⟩

/-- An ordinary step leaves the lifecycle as it is. -/
theorem step_lifecycle (hs : s.Ordinary) (hr : p.step G s = .ok p') :
    p'.host.lifecycle = p.host.lifecycle := by
  have kept : ∀ {α : Type} {x : Bridge σ α} {a : α}, x.Has (Trait.surviving G Standing.lifecycle) →
      x.run p.host = .ok (a, p'.host) → p'.host.lifecycle = p.host.lifecycle := by
    intro α x a hx hrun
    have hsurvives := hx p.host
    rw [hrun] at hsurvives
    cases hsurvives with
    | returned _ _ same => exact same
  cases s with
  | perform op =>
    obtain ⟨events, hop, -⟩ := step_perform_ok hr
    exact kept (op.ordinary_survives hs p.caller) hop
  | interface thread call =>
    obtain ⟨v, hcall, -⟩ := step_interface_ok hr
    exact kept (InterfaceCall.ordinary_survives hs) hcall
  | outside f =>
    cases hr
    rfl

/-- A program that never turns printing on runs to its end. -/
theorem run_silent (G : Guest σ) : ∀ {steps : List (Step σ)} {p : Process σ},
    p.host.printing = false → (∀ s ∈ steps, s.Silent) → ∃ p', p.run G steps = .ok p' := by
  intro steps
  induction steps with
  | nil => intro p _ _; exact ⟨p, rfl⟩
  | cons s rest ih =>
    intro p hoff hsilent
    have hnot := Step.printing_of_silent (G := G) (hsilent s (List.mem_cons_self ..)) hoff
    rcases step_outlives G s p with ⟨p₁, hstep, hprinting⟩ | ⟨_, _, _, -, hon, -⟩
    · obtain ⟨p', hrun⟩ := ih (hprinting.trans hnot) fun t ht => hsilent t (List.mem_cons_of_mem _ ht)
      refine ⟨p', ?_⟩
      simp only [run, hstep]
      exact hrun
    · rw [hnot] at hon
      cases hon

/-- **A process ends only by printing an exception.** Whatever Python code raises, in every state: a
step of a process goes on, unless printing is on during it and the printer of the interpreter ended
the process, with the status that it then has; an ordinary step leaves the lifecycle as it is; and
what was raised comes back in the failure of the step that it was raised in. So a program that never
turns printing on runs to its end. -/
theorem survival_laws (G : Guest σ) (p : Process σ) (s : Step σ) :
    ((∃ p', p.step G s = .ok p' ∧ p'.host.printing = s.printing G p.host) ∨
      ∃ q w status, p.step G s = .error ⟨status⟩ ∧ s.printing G p.host = true ∧
        (G.print q w).value = some status) ∧
    (s.Ordinary → Ends (p.step G s) fun p' => p'.host.lifecycle = p.host.lifecycle) ∧
    (∀ q, ComesBack G q p.host) ∧
    (p.host.printing = false → ∀ steps : List (Step σ), (∀ s ∈ steps, s.Silent) →
      ∃ p', p.run G steps = .ok p') :=
  ⟨step_outlives G s p, fun hs _ hr => step_lifecycle hs hr, fun q => comesBack G q p.host,
    fun hoff _ hsilent => run_silent G hoff hsilent⟩

/-- A guest whose modules raise. -/
def raising : Guest Bool :=
  { willing with importModule := fun _ up => ⟨.raised ⟨willingObj, none, none⟩, up, []⟩ }

/-- The same, where the printer takes what they raise for the end of the process. -/
def leaving : Guest Bool := { raising with print := fun _ up => ⟨some 3, up, []⟩ }

/-- The status with which a run ended the process, if it did. -/
def exitStatus (r : Except Exit (Process σ)) : Option Nat :=
  match r with
  | .ok _ => none
  | .error e => some e.status

/-- An import that raises is reported to the host while printing is off, and ends the process while
it is on. -/
theorem ends_by_printing :
    exitStatus ((fresh false).run leaving [.perform (.start mainThread Config.default),
      .perform (.callFunction "exits" "f" (Numbers.ofFloats []) .float64)]) = none ∧
    exitStatus ((fresh false).run leaving [.perform (.start mainThread Config.default),
      .perform (.setPrinting true),
      .perform (.callFunction "exits" "f" (Numbers.ofFloats []) .float64)]) = some 3 := by
  decide +kernel

end Process

end Embedder
