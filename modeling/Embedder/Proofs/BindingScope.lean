import Embedder.Proofs.Owners.Programs
import Embedder.Proofs.RegisteredCalls

/-!
# The scope of a binding

A binding serves the interpreter in which it was made, and no other. While that interpreter runs, a
call goes to the object that was found when the binding was made, whatever the names of the module
stand for by then and whatever the registry holds. From its stop on each call is refused at the
gate, without any Python code, and generations only go up, so it is refused for good
(`Process.binding_laws`).

That holds for a binding in hand and for one that is shared: a ticket in hand finds the binding that
it was handed out for, since serial numbers are not used twice and a record lives as long as its
owners.
-/

namespace Embedder

open Scenario

variable {σ α β : Type} {G : Guest σ} {h h' : Host σ} {b : Binding}

/-- The interpreter of a generation runs. -/
def Lifecycle.Runs (l : Lifecycle) (generation : Nat) : Prop :=
  l.stage = .running ∧ l.generation = generation

theorem Session.open_iff_runs {generation : Nat} {life : Lifecycle} :
    Open (some generation) life ↔ life.Runs generation := by
  unfold Open Lifecycle.Runs
  simp only [Option.all_some, decide_eq_true_eq, eq_comm (a := generation)]

/-! ## Names that are bound anew -/

/-- The interpreter with other values under the names of its modules. -/
def Guest.rebound (G : Guest σ) (find : Obj → String → σ → Option Obj) : Guest σ :=
  { G with lookup := find }

section

variable (find : Obj → String → σ → Option Obj)

theorem Session.settle_rebound (busy : Bool) (generation : Nat) : ∀ ks : List Kept,
    settle (G.rebound find) busy generation ks = settle G busy generation ks := by
  intro ks
  induction ks with
  | nil => rfl
  | cons k rest ih =>
    unfold settle
    rw [ih]
    rfl

theorem Session.settleWaiting_rebound (busy : Bool) (generation : Nat) :
    settleWaiting (G.rebound find) busy generation = settleWaiting G busy generation := by
  unfold settleWaiting
  simp only [settle_rebound]

theorem Sequence.fill_rebound (E : Encoder σ α) (list : Handle) :
    ∀ (values : List α) (index : Nat),
      fill (G.rebound find) E list index values = fill G E list index values := by
  intro values
  induction values with
  | nil => intro index; rfl
  | cons a as ih =>
    intro index
    unfold fill
    simp only [ih]
    rfl

theorem Sequence.toList_rebound (E : Encoder σ α) (values : List α) :
    toList (G.rebound find) E values = toList G E values := by
  unfold toList
  simp only [fill_rebound]
  rfl

theorem Sequence.readItems_rebound (D : Decoder σ β) (expected : Nat) :
    ∀ (count index : Nat) (w : Walk), readItems (G.rebound find) D expected count index w =
      readItems G D expected count index w := by
  intro count
  induction count with
  | zero => intro index w; rfl
  | succ count ih =>
    intro index w
    unfold readItems
    simp only [ih]
    rfl

theorem Sequence.fromList_rebound (D : Decoder σ β) (seq : Handle) :
    fromList (G.rebound find) D seq = fromList G D seq := by
  unfold fromList
  simp only [readItems_rebound]
  rfl

theorem CallableHandle.callWith_rebound (E : Encoder σ α) (D : Decoder σ β) (c : CallableHandle)
    (args : List α) : c.callWith (G.rebound find) E D args = c.callWith G E D args := by
  unfold callWith
  simp only [Sequence.toList_rebound, Sequence.fromList_rebound]
  rfl

/-- A call of a binding looks no name up. -/
theorem Binding.callAs_rebound (E : Encoder σ α) (D : Decoder σ β) (b : Binding) (args : List α) :
    b.callAs (G.rebound find) E D args = b.callAs G E D args := by
  unfold callAs Session.enterAs
  simp only [CallableHandle.callWith_rebound, Session.settleWaiting_rebound]
  rfl

end

/-! ## Calls of one binding -/

/-- The ticket is on the binding. -/
def Ticket.On (t : Ticket) (b : Binding) (h : Host σ) : Prop :=
  ∃ s, h.shares.lookup t.serial = some s ∧ s.binding = b

theorem Ticket.On.call_run {t : Ticket} (ht : t.On b h) (E : Encoder σ α) (D : Decoder σ β)
    (args : List α) : (t.call G E D args).run.run h = (b.callAs G E D args).run.run h := by
  obtain ⟨s, hs, rfl⟩ := ht
  exact call_run_of_known E D args hs

namespace Binding

/-- Call the object that a binding holds. -/
def callObject (G : Guest σ) (E : Encoder σ α) (D : Decoder σ β) (b : Binding) (args : List α) :
    Attempt σ Failure (List β) := do
  let h ← (Handle.ofShared G b.callable : Bridge σ Handle)
  h.within G (CallableHandle.callWith G E D ⟨b.moduleName, b.function, h⟩ args)

/-- How calls of a binding turn out where its interpreter runs. -/
structure Serves (G : Guest σ) (b : Binding) (h : Host σ) : Prop where
  /-- What waits for release is released, and then the object is called. -/
  calls : ∀ {α β : Type} (E : Encoder σ α) (D : Decoder σ β) (args : List α),
    (b.callAs G E D args).run.run h = (Session.settleWaiting G false b.generation >>= fun _ =>
      (b.callObject G E D args).run).run h
  /-- A call that fails got past the gate. -/
  fails : ∀ {α β : Type} (E : Encoder σ α) (D : Decoder σ β) (args : List α) f h',
    (b.callAs G E D args).run.run h = .ok (.error f, h') → f.OfCall
  /-- It does not matter what stands under the names of the modules. -/
  rebound : ∀ {α β : Type} (E : Encoder σ α) (D : Decoder σ β) (args : List α) find,
    (b.callAs (G.rebound find) E D args).run.run h = (b.callAs G E D args).run.run h
  /-- Nor does it matter what stands in the registry. -/
  unfiled : ∀ {α β : Type} {E : Encoder σ α} {D : Decoder σ β}, E.Even G → D.Even G →
    ∀ (args : List α) registry shares nextSerial,
      Alike (Filed h.standing { h.standing with
          registry := registry, shares := shares, nextSerial := nextSerial })
        ((b.callAs G E D args).run.run h)
        ((b.callAs G E D args).run.run { h with
          registry := registry, shares := shares, nextSerial := nextSerial })
  /-- A call through a ticket is a call of the binding. -/
  ticket : ∀ {t : Ticket}, t.On b h → ∀ {α β : Type} (E : Encoder σ α) (D : Decoder σ β)
    (args : List α), (t.call G E D args).run.run h = (b.callAs G E D args).run.run h

/-- Every call of the binding is refused, and nothing changes. -/
structure Refuses (G : Guest σ) (b : Binding) (h : Host σ) : Prop where
  itself : ∀ {α β : Type} (E : Encoder σ α) (D : Decoder σ β) (args : List α),
    (b.callAs G E D args).Barred h
  ticket : ∀ {t : Ticket}, t.On b h → ∀ {α β : Type} (E : Encoder σ α) (D : Decoder σ β)
    (args : List α), (t.call G E D args).Barred h

theorem serves (G : Guest σ) (hb : h.lifecycle.Runs b.generation) : b.Serves G h := by
  have hopen : Session.Open (some b.generation) h.lifecycle := Session.open_iff_runs.mpr hb
  constructor
  case calls =>
    intro α β E D args
    unfold callAs
    rw [Session.enterAs_run_of_open hopen, hb.2]
    rfl
  case fails =>
    intro α β E D args f h' hr
    unfold callAs at hr
    rw [Session.enterAs_run_of_open hopen] at hr
    obtain ⟨u, h₁, -, hbody⟩ := Bridge.bind_ok hr
    obtain ⟨o, h₂, -, hcall⟩ := Attempt.bind_cases hbody |>.resolve_left fun ⟨e, _, hlift⟩ => by
      obtain ⟨_, he, -⟩ := Attempt.lift_ok hlift
      cases he
    exact Attempt.Fails.within o (CallableHandle.callWith_fails E D _ args) h₂ _ h' hcall f rfl
  case rebound => exact fun E D args find => by rw [callAs_rebound]
  case unfiled =>
    intro α β E D hE hD args registry shares nextSerial
    have hsessional : Likeness.Sessional G (Filed h.standing { h.standing with
      registry := registry, shares := shares, nextSerial := nextSerial }) :=
      Filed.sessional G rfl rfl
    exact callAs_even hsessional hE hD b args h _ ((Filed.self h).file registry shares nextSerial)
  case ticket => exact fun ht _ _ E D args => ht.call_run E D args

theorem refuses (G : Guest σ) (hb : ¬h.lifecycle.Runs b.generation) : b.Refuses G h := by
  have hclosed : ¬Session.Open (some b.generation) h.lifecycle :=
    fun hopen => hb (Session.open_iff_runs.mp hopen)
  have barred : ∀ {α β : Type} (E : Encoder σ α) (D : Decoder σ β) (args : List α),
      (b.callAs G E D args).Barred h :=
    fun E D args => Session.enterAs_run_of_not_open hclosed
  refine ⟨barred, fun ht α β E D args => ?_⟩
  show (Ticket.call G E D _ args).run.run h = _
  rw [ht.call_run]
  exact barred E D args

/-! ## The object of a binding -/

/-- The interpreter of the binding runs, and in a session the module's function is its object. -/
structure ResolvedAt (G : Guest σ) (b : Binding) (h : Host σ) : Prop where
  runs : h.lifecycle.Runs b.generation
  found : ∃ e h₁ h₂, (Session.settleWaiting G false b.generation).run { h with lastErrors := e } =
      .ok ((), h₁) ∧
    (findFunction G b.moduleName b.function).run.run h₁ =
      .ok (.ok ⟨b.moduleName, b.function, Handle.ofBorrowed b.callable⟩, h₂) ∧
    G.isCallable b.callable h₂.world = true

/-- What a bind makes is resolved where it is made. -/
theorem MadeAt.resolved (hb : b.MadeAt G h) : b.ResolvedAt G h := by
  obtain ⟨moduleName, function, e, h', hr⟩ := hb
  obtain ⟨hrunning, -, hgeneration⟩ := bind_ok hr
  refine ⟨⟨hrunning, hgeneration.symm⟩, ?_⟩
  rw [bind_eq, Session.enterAs_run_of_open ⟨hrunning, rfl⟩] at hr
  obtain ⟨u, h₁, hsettle, hbody⟩ := Bridge.bind_ok hr
  obtain ⟨c, h₂, hfind, hkeep⟩ := Attempt.bind_ok hbody
  obtain ⟨o, rfl, hcallable⟩ := findFunction_ok hfind
  cases hkeep
  exact ⟨e, h₁, h₂, hsettle, hfind, hcallable⟩

end Binding

/-! ## Records keep their bindings -/

/-- Serial numbers go up, and a record that is still there has its binding still. -/
structure Shelf.Keeps (f f' : Shelf) : Prop where
  serials : f.nextSerial ≤ f'.nextSerial
  binding : ∀ {n s'}, n < f.nextSerial → f'.shares.lookup n = some s' →
    ∃ s, f.shares.lookup n = some s ∧ s.binding = s'.binding

namespace Shelf

variable {f f₁ f' : Shelf}

theorem Keeps.refl (f : Shelf) : Keeps f f := ⟨Nat.le_refl _, fun _ hs => ⟨_, hs, rfl⟩⟩

theorem Keeps.of_same (hserials : f'.nextSerial = f.nextSerial) (hshares : f'.shares = f.shares) :
    Keeps f f' := by
  refine ⟨Nat.le_of_eq hserials.symm, fun {n s'} _ hs => ⟨s', ?_, rfl⟩⟩
  rwa [hshares] at hs

theorem Keeps.trans (h₁ : Keeps f f₁) (h₂ : Keeps f₁ f') : Keeps f f' := by
  refine ⟨Nat.le_trans h₁.serials h₂.serials, fun hn hs => ?_⟩
  obtain ⟨s₁, hs₁, heq⟩ := h₂.binding (Nat.lt_of_lt_of_le hn h₁.serials) hs
  obtain ⟨s, hs, heq'⟩ := h₁.binding hn hs₁
  exact ⟨s, hs, heq'.trans heq⟩

theorem Changes.keeps (hc : Changes f f') : Keeps f f' := by
  cases hc with
  | turn life => exact Keeps.of_same rfl rfl
  | opened => exact Keeps.of_same rfl rfl
  | closed => exact Keeps.of_same rfl rfl
  | @shared serial owners s hs howners =>
    refine ⟨Nat.le_refl _, fun {n s'} hn hs' => ?_⟩
    by_cases heq : n = serial
    · subst heq
      change (Shares.set n _ f.shares).lookup n = some s' at hs'
      rw [Shares.lookup_set_self hs] at hs'
      cases hs'
      exact ⟨s, hs, rfl⟩
    · change (Shares.set serial _ f.shares).lookup n = some s' at hs'
      rw [Shares.lookup_set_of_ne heq] at hs'
      exact ⟨s', hs', rfl⟩
  | ended hs => exact ⟨Nat.le_refl _, fun _ hs' => ⟨_, Shares.lookup_erase hs', rfl⟩⟩
  | inserted hr b =>
    refine ⟨Nat.le_succ _, fun {n s'} hn hs' => ⟨s', ?_, rfl⟩⟩
    have hne : (n == f.nextSerial) = false := by simpa using Nat.ne_of_lt hn
    rwa [List.lookup_append, List.lookup_cons, hne, List.lookup_nil, Option.or_none] at hs'
  | removed hr id => exact Keeps.of_same rfl rfl

end Shelf

/-! ## Stops -/

/-- The step is a stop. -/
def Step.Stops : Step σ → Prop
  | .perform (.stop _) => True
  | .interface _ .stop => True
  | _ => False

namespace Interpreter

variable {thread : ThreadId} {config : Config} {r : Except Failure Unit}

/-- An interpreter that runs is not started again. -/
theorem launch_lifecycle (hs : h.lifecycle.stage = .running)
    (hr : (launch G thread config).run.run h = .ok (r, h')) :
    h'.lifecycle = h.lifecycle ∧ ∃ f, r = .error f := by
  have hl : launches G config h = false :=
    Bool.eq_false_iff.mpr fun hl => launches_stage hl hs
  obtain ⟨f, h₁, hrun, hstand⟩ := launch_run_of_not_launches thread hl
  rw [hrun] at hr
  cases hr
  exact ⟨congrArg Standing.lifecycle hstand, f, rfl⟩

theorem start_lifecycle (hs : h.lifecycle.stage = .running)
    (hr : (start G thread config).run.run h = .ok (r, h')) : h'.lifecycle = h.lifecycle := by
  rcases Attempt.bind_cases hr with ⟨e, -, hlaunch⟩ | ⟨u, h₁, hlaunch, -⟩
  · exact (launch_lifecycle hs hlaunch).1
  · obtain ⟨-, f, hf⟩ := launch_lifecycle hs hlaunch
    cases hf

theorem stop_stage (hr : (stop G thread).run.run h = .ok (r, h')) :
    h'.lifecycle.stage ≠ .running := by
  have hlaw := stop_law G thread h
  by_cases hs : h.lifecycle.stage = .running
  · obtain ⟨h₁, hrun, hlife, -⟩ := hlaw.stopped hs
    rw [hrun] at hr
    cases hr
    rw [hlife]
    exact Stage.noConfusion
  · rw [hlaw.refused hs] at hr
    cases hr
    exact hs

end Interpreter

namespace Process

variable {p p' : Process σ} {s : Step σ}

/-- After a stop no interpreter runs. -/
theorem step_stops (hstops : s.Stops) (hs : p.step G s = .ok p') :
    p'.host.lifecycle.stage ≠ .running := by
  cases s with
  | perform op =>
    cases op with
    | stop thread =>
      obtain ⟨_, htell⟩ := tell_of_step hs
      obtain ⟨a, ha, -⟩ := tell_perform_ok htell
      obtain ⟨r, h₁, hstop, hp⟩ := Bridge.bind_ok ha
      obtain ⟨-, rfl⟩ := Bridge.pure_ok hp
      exact Interpreter.stop_stage hstop
    | _ => exact hstops.elim
  | interface thread call =>
    cases call with
    | stop =>
      obtain ⟨v, hcall, -⟩ := step_interface_ok hs
      obtain ⟨a, h₁, ha, hp⟩ := Bridge.bind_ok hcall
      obtain ⟨-, rfl⟩ := Bridge.pure_ok hp
      obtain ⟨r, h₂, hbody, hstation, -⟩ := CInterface.answer_ok ha
      rw [show p'.host.lifecycle = h₂.lifecycle from congrArg Station.lifecycle hstation]
      exact Interpreter.stop_stage hbody
    | _ => exact hstops.elim
  | outside f => exact hstops.elim

/-- Only a stop takes down an interpreter that runs, and nothing starts it anew. -/
theorem step_runs (hstops : ¬s.Stops) (hrunning : p.host.lifecycle.stage = .running)
    (hs : p.step G s = .ok p') : p'.host.lifecycle = p.host.lifecycle := by
  cases s with
  | perform op =>
    cases op with
    | launch thread config =>
      obtain ⟨_, htell⟩ := tell_of_step hs
      obtain ⟨a, ha, -⟩ := tell_perform_ok htell
      obtain ⟨r, h₁, hlaunch, hp⟩ := Bridge.bind_ok ha
      obtain ⟨-, rfl⟩ := Bridge.pure_ok hp
      exact (Interpreter.launch_lifecycle hrunning hlaunch).1
    | start thread config =>
      obtain ⟨_, htell⟩ := tell_of_step hs
      obtain ⟨a, ha, -⟩ := tell_perform_ok htell
      obtain ⟨r, h₁, hstart, hp⟩ := Bridge.bind_ok ha
      obtain ⟨-, rfl⟩ := Bridge.pure_ok hp
      exact Interpreter.start_lifecycle hrunning hstart
    | stop thread => exact (hstops trivial).elim
    | setPrinting enabled =>
      cases hs
      rfl
    | _ =>
      refine step_lifecycle ?_ hs
      trivial
  | interface thread call =>
    cases call with
    | start e =>
      obtain ⟨v, hcall, -⟩ := step_interface_ok hs
      obtain ⟨a, h₁, ha, hp⟩ := Bridge.bind_ok hcall
      obtain ⟨-, rfl⟩ := Bridge.pure_ok hp
      obtain ⟨r, h₂, hbody, hstation, -⟩ := CInterface.answer_ok ha
      rw [show p'.host.lifecycle = h₂.lifecycle from congrArg Station.lifecycle hstation]
      exact Interpreter.start_lifecycle
        (h := { p.host with lastErrors := p.host.lastErrors.clear thread }) hrunning hbody
    | startWithConfig json =>
      obtain ⟨v, hcall, -⟩ := step_interface_ok hs
      obtain ⟨a, h₁, ha, hp⟩ := Bridge.bind_ok hcall
      obtain ⟨-, rfl⟩ := Bridge.pure_ok hp
      rw [CInterface.startWithConfig_eq] at ha
      generalize CInterface.configChecks json = checks at ha
      obtain ⟨r, h₂, hbody, hstation, -⟩ := CInterface.answer_ok ha
      rw [show p'.host.lifecycle = h₂.lifecycle from congrArg Station.lifecycle hstation]
      rcases Attempt.bind_cases hbody with ⟨e, -, hcheck⟩ | ⟨config, h₃, hcheck, hstart⟩
      · cases hcheck
        rfl
      · cases hcheck
        exact Interpreter.start_lifecycle
          (h := { p.host with lastErrors := p.host.lastErrors.clear thread }) hrunning hstart
    | stop => exact (hstops trivial).elim
    | _ =>
      refine step_lifecycle ?_ hs
      trivial
  | outside f =>
    refine step_lifecycle ?_ hs
    trivial

/-- A generation that has begun runs after a step if it ran before, unless the step is a stop. -/
theorem step_runs_iff {generation : Nat} (hpast : generation ≤ p.host.lifecycle.generation)
    (hs : p.step G s = .ok p') : p'.host.lifecycle.Runs generation ↔
      p.host.lifecycle.Runs generation ∧ ¬s.Stops := by
  constructor
  · rintro ⟨hrunning, hgeneration⟩
    have hlater := (step_later hs).1
    have hle : p.host.lifecycle.generation ≤ p'.host.lifecycle.generation := hlater.generation
    have hsame : p.host.lifecycle.generation = generation := by omega
    refine ⟨⟨hlater.running ?_ hrunning, hsame⟩, fun hstops => step_stops hstops hs hrunning⟩
    exact hgeneration.trans hsame.symm
  · rintro ⟨⟨hrunning, hgeneration⟩, hstops⟩
    rw [step_runs hstops hrunning hs]
    exact ⟨hrunning, hgeneration⟩

/-- By induction on the run: it goes on running if it ran before, unless a step is a stop. -/
theorem run_runs_iff {generation : Nat} : ∀ {steps : List (Step σ)} {p : Process σ},
    generation ≤ p.host.lifecycle.generation → p.run G steps = .ok p' →
    (p'.host.lifecycle.Runs generation ↔
      p.host.lifecycle.Runs generation ∧ ∀ s ∈ steps, ¬s.Stops) := by
  intro steps
  induction steps with
  | nil =>
    intro p _ hr
    cases hr
    simp
  | cons s rest ih =>
    intro p hpast hr
    obtain ⟨p₁, hs, hrest⟩ := run_cons_ok hr
    have hle : p.host.lifecycle.generation ≤ p₁.host.lifecycle.generation :=
      (step_later hs).1.generation
    rw [ih (Nat.le_trans hpast hle) hrest, step_runs_iff hpast hs, List.forall_mem_cons, and_assoc]

/-! ## Whole runs -/

theorem run_keeps {steps : List (Step σ)} (hr : p.run G steps = .ok p') :
    p.host.shelf.Keeps p'.host.shelf := by
  refine run_preserves (P := fun q => p.host.shelf.Keeps q.host.shelf) ?_ (Shelf.Keeps.refl _) hr
  intro s q q' hq hs
  exact Shelf.Changes.preserves (P := fun f => p.host.shelf.Keeps f)
    (fun hchange hkeeps => hkeeps.trans hchange.keeps) (step_shelved hs) hq

/-- What a program has in hand, and what is shared. -/
def InReach (p : Process σ) (b : Binding) : Prop :=
  b ∈ p.caller.bindings ∨ ∃ t : Ticket, t.On b p.host

variable {B : Binding → Prop}

theorem Owns.of_inReach (hp : p.Owns B) (hb : p.InReach b) : B b := by
  rcases hb with hb | ⟨t, s, hs, rfl⟩
  · exact hp.held b hb
  · exact Shelf.Accounts.bindings hp.accounts (t.serial, s) (Shares.mem_of_lookup hs)

/-- A ticket in hand finds a binding. -/
theorem Owns.ticket (hp : p.Owns B) {t : Ticket} (ht : t ∈ p.caller.tickets) :
    ∃ b, t.On b p.host := by
  obtain ⟨s, hs⟩ := Shelf.Accounts.known hp.accounts (List.mem_append_right _ ht)
  exact ⟨s.binding, s, hs, rfl⟩

/-- A ticket that is in hand later is on the binding that it was on before. -/
theorem Owns.ticket_later (hp : p.Owns B) {C : Binding → Prop} (hp' : p'.Owns C)
    {steps : List (Step σ)} (hr : p.run G steps = .ok p') {t : Ticket} (hb : t.On b p.host)
    (ht : t ∈ p'.caller.tickets) : t.On b p'.host := by
  obtain ⟨s, hs, rfl⟩ := hb
  obtain ⟨b', s', hs', rfl⟩ := hp'.ticket ht
  have hserial : t.serial < p.host.nextSerial := by
    have hbelow := Shelf.Accounts.toOrderly hp.accounts |>.below
    exact hbelow _ (List.mem_map_of_mem (Shares.mem_of_lookup hs))
  obtain ⟨s₀, hs₀, heq⟩ := (run_keeps hr).binding hserial hs'
  rw [show p.host.shelf.shares = p.host.shares from rfl, hs] at hs₀
  cases hs₀
  exact ⟨s', hs', heq.symm⟩

/-- A binding that was made on a run is of a generation that has begun. -/
theorem MadeOn.generation_le {world : σ} {steps : List (Step σ)} {b : Binding}
    (hb : (fresh world).MadeOn G steps b) (hr : (fresh world).run G steps = .ok p) :
    b.generation ≤ p.host.lifecycle.generation := by
  obtain ⟨before, s, after, q, hsteps, hq, hmade⟩ := hb
  obtain ⟨q', hq', hrest⟩ := run_append_ok (hsteps ▸ hr)
  rw [hq] at hq'
  cases hq'
  rw [← hmade.resolved.runs.2]
  exact (run_later hrest).1.generation

/-- **A binding never reaches another interpreter.** At the end of a run every ticket in hand is on
a binding, and every binding in reach was made where a step of the run began: there its interpreter
ran, and the object that it holds was found under its name. Whatever comes next, that interpreter
runs exactly as long as no step is a stop, and a ticket in hand stays on its binding. While the
interpreter runs the binding is served, by the object that it holds; when it does not, the binding
is refused. -/
theorem binding_laws (G : Guest σ) (world : σ) (steps : List (Step σ)) :
    Ends ((fresh world).run G steps) fun p =>
      (∀ t ∈ p.caller.tickets, ∃ b, t.On b p.host) ∧
      ∀ b, p.InReach b →
        (∃ before s after q, steps = before ++ s :: after ∧
          (fresh world).run G before = .ok q ∧ b.ResolvedAt G q.host) ∧
        ∀ more : List (Step σ), Ends (p.run G more) fun p' =>
          (p'.host.lifecycle.Runs b.generation ↔
            p.host.lifecycle.Runs b.generation ∧ ∀ s ∈ more, ¬s.Stops) ∧
          (∀ t : Ticket, t.On b p.host → t ∈ p'.caller.tickets → t.On b p'.host) ∧
          (p'.host.lifecycle.Runs b.generation → b.Serves G p'.host) ∧
          (¬p'.host.lifecycle.Runs b.generation → b.Refuses G p'.host) := by
  intro p hr
  have howns := run_owners hr
  refine ⟨fun t ht => howns.ticket ht, fun b hb => ?_⟩
  have hmade := howns.of_inReach hb
  have hpast := hmade.generation_le hr
  obtain ⟨before, s, after, q, hsteps, hq, hresolved⟩ := hmade
  refine ⟨⟨before, s, after, q, hsteps, hq, hresolved.resolved⟩, fun more p' hmore => ?_⟩
  have howns' : p'.Owns ((fresh world).MadeOn G (steps ++ more)) :=
    run_owners (run_append_of_ok hr hmore)
  exact ⟨run_runs_iff hpast hmore, fun t hon ht => howns.ticket_later howns' hmore hon ht,
    fun hruns => b.serves G hruns, fun hruns => b.refuses G hruns⟩

end Process

end Embedder
