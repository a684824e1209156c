import Embedder.Proofs.InterfaceRefinement
import Embedder.Proofs.Shelves

/-!
# The gates of a session

What needs the interpreter comes to one of two gates: sessions look at the lifecycle, the registry's
operations at whether there is a registry. In every reachable state the two agree (`Host.Gated`), so
while the interpreter does not run, every such operation is refused and changes nothing (`Shut`). An
argument check of the C interface may come first, and then the refusal is for the argument.
-/

namespace Embedder

open Scenario

variable {σ α β : Type} {G : Guest σ} {h h' : Host σ} {thread : ThreadId} {config : Config}

/-- The gates agree, and the shelf is orderly. -/
structure Host.Gated (h : Host σ) : Prop where
  gates : h.lifecycle.stage = .running ↔ h.registry.isSome
  shelf : h.shelf.Orderly

theorem Host.Gated.tell (hg : h.Gated) (e : LastErrors) : Host.Gated { h with lastErrors := e } :=
  ⟨hg.gates, hg.shelf⟩

theorem Host.Gated.closed (hg : h.Gated) (hs : h.lifecycle.stage ≠ .running) :
    h.registry = none := by
  rw [← Option.not_isSome_iff_eq_none, ← hg.gates]
  exact hs

theorem Process.run_gated {world : σ} {steps : List (Step σ)} {p : Process σ}
    (hr : (Process.fresh world).run G steps = .ok p) : p.host.Gated where
  gates := (Process.run_sound (Process.fresh_sound world) hr).lifecycle.registry
  shelf := Process.run_orderly (Process.fresh_orderly world) hr

/-! ## While the gates are shut -/

/-- The operation is refused because no interpreter runs, and changes nothing. -/
def Attempt.Barred (x : Attempt σ Failure α) (h : Host σ) : Prop :=
  x.run.run h = .ok (.error .notRunning, h)

theorem Attempt.Barred.bind {x : Attempt σ Failure α} (hx : x.Barred h)
    (f : α → Attempt σ Failure β) : (x >>= f).Barred h :=
  run_bind_of_error hx

theorem Session.enterAs_barred (hs : h.lifecycle.stage ≠ .running) (expected : Option Nat)
    (body : Nat → Attempt σ Failure α) : (enterAs G expected body).Barred h :=
  enterAs_run_of_not_open fun hopen => hs hopen.1

theorem callFunction_barred (hs : h.lifecycle.stage ≠ .running) (E : Encoder σ α)
    (D : Decoder σ β) (moduleName function : String) (args : List α) :
    (callFunction G E D moduleName function args).Barred h := by
  unfold callFunction Session.enter
  exact Session.enterAs_barred hs none _

theorem Binding.bind_barred (hs : h.lifecycle.stage ≠ .running) (moduleName function : String) :
    (bind G moduleName function).Barred h :=
  Session.enterAs_barred hs none _

theorem Binding.callAs_barred (hs : h.lifecycle.stage ≠ .running) (E : Encoder σ α)
    (D : Decoder σ β) (b : Binding) (args : List α) : (b.callAs G E D args).Barred h :=
  Session.enterAs_barred hs _ _

theorem Interpreter.appendPath_barred (hs : h.lifecycle.stage ≠ .running) {path : SearchPath}
    (htext : path.text?.isSome) : (appendPath G path).Barred h := by
  obtain ⟨text, htext⟩ := Option.isSome_iff_exists.mp htext
  unfold appendPath
  rw [htext]
  exact Session.enterAs_barred hs none _

/-- A path that is no text is refused before the gate. -/
theorem Interpreter.appendPath_run_of_not_text {path : SearchPath} (htext : path.text? = none) :
    (appendPath G path).run.run h =
      .ok (.error (.invalidArgument ("search path is not valid UTF-8: " ++ path.display)), h) := by
  unfold appendPath
  rw [htext]
  rfl

theorem Ticket.call_barred (hs : h.lifecycle.stage ≠ .running) (E : Encoder σ α)
    (D : Decoder σ β) (t : Ticket) (args : List α) : (t.call G E D args).Barred h := by
  unfold Ticket.call Attempt.Barred
  rw [Attempt.run_lift_bind (Ticket.share?_run t h)]
  cases h.shares.lookup t.serial with
  | none => rfl
  | some s => exact Binding.callAs_barred hs E D s.binding args

theorem disposal_eq_forget {life : Lifecycle} {generation : Nat}
    (hgone : ¬(life.stage = .running ∧ life.generation = generation)) :
    disposal (some (life.stage, life.generation)) generation = .forget := by
  unfold disposal
  split
  next heq => cases heq
  next g heq =>
    obtain ⟨hstage, hgeneration⟩ := Prod.mk.inj (Option.some.inj heq)
    rw [if_neg fun hsame => hgone ⟨hstage, hgeneration.trans hsame⟩]
  next => rfl

/-- A binding that goes while its interpreter does not run is forgotten. -/
theorem Binding.drop_run_of_gone {b : Binding}
    (hgone : ¬(h.lifecycle.stage = .running ∧ h.lifecycle.generation = b.generation)) :
    (b.drop G false).run h =
      .ok ((), { h with log := h.log ++ [Notice.report (.leaked b.generation)] }) := by
  unfold Binding.drop
  rw [Bridge.run_get_bind]
  dsimp only
  rw [if_neg Bool.false_ne_true, disposal_eq_forget hgone]
  rfl

theorem Binding.drop_run_of_not_running (hs : h.lifecycle.stage ≠ .running) (b : Binding) :
    (b.drop G false).run h =
      .ok ((), { h with log := h.log ++ [Notice.report (.leaked b.generation)] }) :=
  drop_run_of_gone fun hruns => hs hruns.1

/-- A binding that goes while the lifecycle is busy is queued. -/
theorem Binding.drop_run_of_busy (b : Binding) :
    (b.drop G true).run h = .ok ((), { h with
      waiting := h.waiting ++ [b.kept]
      log := h.log ++ [Notice.report (.deferred b.kept)] }) :=
  rfl

theorem Registry.insert_run_of_closed (hr : h.registry = none) (b : Binding) :
    (insert G b).run.run h =
      (b.drop G false >>= fun _ => pure (.error .notRunning) : Bridge σ _).run h := by
  show (get >>= _ : Bridge σ _).run h = _
  rw [Bridge.run_get_bind, hr]

theorem Registry.find_barred (hr : h.registry = none) (id : Int) : (find id).Barred h :=
  whileOpen_run_of_closed hr

theorem Registry.remove_barred (hr : h.registry = none) (id : Int) : (remove id).Barred h :=
  whileOpen_run_of_closed hr

theorem Registry.size_barred (hr : h.registry = none) : size.Barred h :=
  whileOpen_run_of_closed hr

namespace CInterface

/-- The check refuses arguments only as such. -/
def Refusing (checks : Except Failure β) : Prop :=
  ∀ f, checks = .error f → ∃ text, f = .invalidArgument text

namespace Refusing

theorem pure (b : β) : Refusing (pure b) := by
  intro f hf
  cases hf

theorem bind {x : Except Failure α} {f : α → Except Failure β} (hx : Refusing x)
    (hf : ∀ a, Refusing (f a)) : Refusing (x >>= f) := by
  intro g hg
  cases hxr : x with
  | error e =>
    rw [hxr] at hg
    cases hg
    exact hx _ hxr
  | ok a =>
    rw [hxr] at hg
    exact hf a g hg

theorem argText (what : String) (s : CString) : Refusing (argText what s) := by
  intro f hf
  unfold CInterface.argText at hf
  split at hf
  next => cases hf
  next => cases hf; exact ⟨_, rfl⟩

theorem argValues (v : ValuesArg) : Refusing (argValues v) := by
  intro f hf
  unfold CInterface.argValues at hf
  split at hf
  next => cases hf
  next =>
    split at hf
    next => cases hf; exact ⟨_, rfl⟩
    next => cases hf

theorem argOutput (o : OutputArg) : Refusing (argOutput o) := by
  intro f hf
  unfold CInterface.argOutput at hf
  split at hf
  next => cases hf
  next => cases hf; exact ⟨_, rfl⟩

theorem argPointer (given : Bool) : Refusing (argPointer given) := by
  intro f hf
  cases given with
  | true => cases hf
  | false => cases hf; exact ⟨_, rfl⟩

theorem pathChecks (path : CString) : Refusing (pathChecks path) :=
  (argText _ _).bind fun _ => pure _

theorem callChecks (moduleName function : CString) (values : ValuesArg) (output : OutputArg) :
    Refusing (callChecks moduleName function values output) :=
  (argText _ _).bind fun _ => (argText _ _).bind fun _ => (argValues _).bind fun _ =>
    (argOutput _).bind fun _ => pure _

theorem bindChecks (moduleName function : CString) (output : Bool) :
    Refusing (bindChecks moduleName function output) :=
  (argText _ _).bind fun _ => (argText _ _).bind fun _ => (argPointer _).bind fun _ => pure _

theorem callBoundChecks (values : ValuesArg) (output : OutputArg) :
    Refusing (callBoundChecks values output) :=
  (argValues _).bind fun _ => (argOutput _).bind fun _ => pure _

end Refusing

/-- A call of the C interface is refused: for an argument that fails its check, or else because no
interpreter runs. It changes the last error of its thread and nothing else. -/
def Barred (thread : ThreadId) (checks : Except Failure β)
    (call : Bridge σ (Answer α)) (h : Host σ) : Prop :=
  RefusedCall call thread h fun f =>
    (f = .notRunning ∧ ∃ b, checks = .ok b) ∨
    (checks = .error f ∧ ∃ text, f = .invalidArgument text)

theorem answer_barred {checks : Except Failure β} (hchecks : Refusing checks)
    {counterpart : β → Attempt σ Failure α}
    (hbarred : ∀ b, checks = .ok b →
      (counterpart b).Barred { h with lastErrors := h.lastErrors.clear thread }) :
    Barred thread checks (answer thread (check checks >>= counterpart)) h := by
  cases hc : checks with
  | error f =>
    refine ⟨f, .inr ⟨rfl, hchecks f hc⟩, answer_run_of_error (check_bind_of_error rfl)⟩
  | ok b =>
    refine ⟨.notRunning, .inl ⟨rfl, b, rfl⟩, answer_run_of_error ?_⟩
    rw [check_bind_of_ok rfl]
    exact hbarred b hc

theorem pathChecks_ok {path : CString} {p : SearchPath} (hp : pathChecks path = .ok p) :
    p.text?.isSome := by
  unfold pathChecks at hp
  cases htext : argText "path" path with
  | error f =>
    rw [htext] at hp
    cases hp
  | ok text =>
    rw [htext] at hp
    cases hp
    rw [SearchPath.text?_ofText]
    rfl

end CInterface

/-- While no interpreter runs, what needs one is refused, and nothing else happens than that a
binding which was handed over is forgotten. -/
structure Shut (G : Guest σ) (h : Host σ) : Prop where
  session : ∀ {α : Type} (expected : Option Nat) (body : Nat → Attempt σ Failure α),
    (Session.enterAs G expected body).Barred h
  appendPath : ∀ path, path.text?.isSome → (Interpreter.appendPath G path).Barred h
  /-- A path that is no text is refused before the gate. -/
  appendNoText : ∀ path, path.text? = none → (Interpreter.appendPath G path).run.run h =
    .ok (.error (.invalidArgument ("search path is not valid UTF-8: " ++ path.display)), h)
  callFunction : ∀ {α β : Type} (E : Encoder σ α) (D : Decoder σ β) moduleName function args,
    (callFunction G E D moduleName function args).Barred h
  bind : ∀ moduleName function, (Binding.bind G moduleName function).Barred h
  callAs : ∀ {α β : Type} (E : Encoder σ α) (D : Decoder σ β) (b : Binding) args,
    (b.callAs G E D args).Barred h
  callTicket : ∀ {α β : Type} (E : Encoder σ α) (D : Decoder σ β) (t : Ticket) args,
    (t.call G E D args).Barred h
  insert : ∀ b, (Registry.insert G b).run.run h = .ok (.error .notRunning,
    { h with log := h.log ++ [Notice.report (.leaked b.generation)] })
  find : ∀ id, (Registry.find id).Barred h
  remove : ∀ id, (Registry.remove id).Barred h
  size : Registry.size.Barred h
  interfaceAppendPath : ∀ thread path,
    CInterface.Barred thread (CInterface.pathChecks path) (CInterface.appendPath G thread path) h
  interfaceCallFunction : ∀ thread moduleName function values output,
    CInterface.Barred thread (CInterface.callChecks moduleName function values output)
      (CInterface.callFunction G thread moduleName function values output) h
  interfaceBind : ∀ thread moduleName function output,
    CInterface.Barred thread (CInterface.bindChecks moduleName function output)
      (CInterface.bind G thread moduleName function output) h
  interfaceCallBound : ∀ thread id values output,
    CInterface.Barred thread (CInterface.callBoundChecks values output)
      (CInterface.callBound G thread id values output) h
  interfaceUnbind : ∀ thread id,
    CInterface.Barred thread (.ok ()) (CInterface.unbind G thread id) h
  interfaceCount : ∀ thread, (CInterface.bindingCount thread).run h =
    .ok (Failure.notRunning.code, { h with
      lastErrors := (h.lastErrors.clear thread).set thread Failure.notRunning.message })

/-- The gates are shut while the interpreter does not run. -/
theorem Host.Gated.shut (hg : h.Gated) (hs : h.lifecycle.stage ≠ .running) : Shut G h := by
  have hr := hg.closed hs
  -- what the C interface does about the last error comes near neither gate
  let cleared (thread : ThreadId) : Host σ := { h with lastErrors := h.lastErrors.clear thread }
  have hs' : ∀ thread, (cleared thread).lifecycle.stage ≠ .running := fun _ => hs
  have hr' : ∀ thread, (cleared thread).registry = none := fun _ => hr
  constructor
  case session => exact fun expected body => Session.enterAs_barred hs expected body
  case appendPath => exact fun path htext => Interpreter.appendPath_barred hs htext
  case appendNoText => exact fun path htext => Interpreter.appendPath_run_of_not_text htext
  case callFunction => exact fun E D m f args => callFunction_barred hs E D m f args
  case bind => exact fun m f => Binding.bind_barred hs m f
  case callAs => exact fun E D b args => Binding.callAs_barred hs E D b args
  case callTicket => exact fun E D t args => Ticket.call_barred hs E D t args
  case insert =>
    intro b
    rw [Registry.insert_run_of_closed hr, Bridge.run_bind (Binding.drop_run_of_not_running hs b)]
    rfl
  case find => exact Registry.find_barred hr
  case remove => exact Registry.remove_barred hr
  case size => exact Registry.size_barred hr
  case interfaceAppendPath =>
    intro thread path
    rw [CInterface.appendPath_eq]
    exact CInterface.answer_barred (.pathChecks path) fun p hp =>
      Interpreter.appendPath_barred (hs' thread) (CInterface.pathChecks_ok hp)
  case interfaceCallFunction =>
    intro thread m f values output
    rw [CInterface.callFunction_eq]
    exact CInterface.answer_barred (.callChecks m f values output) fun x _ =>
      callFunction_barred (hs' thread) _ _ x.1 x.2.1 x.2.2
  case interfaceBind =>
    intro thread m f output
    rw [CInterface.bind_eq]
    exact CInterface.answer_barred (.bindChecks m f output) fun x _ =>
      (Binding.bind_barred (hs' thread) x.1 x.2).bind _
  case interfaceCallBound =>
    intro thread id values output
    rw [CInterface.callBound_eq]
    exact CInterface.answer_barred (.callBoundChecks values output) fun xs _ =>
      (Registry.find_barred (hr' thread) id).bind _
  case interfaceUnbind =>
    intro thread id
    exact CInterface.answer_barred (.pure ()) fun _ _ =>
      (Registry.remove_barred (hr' thread) id).bind _
  case interfaceCount =>
    intro thread
    unfold CInterface.bindingCount
    rw [Bridge.run_modify_bind, Bridge.run_bind (Registry.size_barred (hr' thread))]
    rfl

end Embedder
