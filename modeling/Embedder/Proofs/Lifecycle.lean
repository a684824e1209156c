import Embedder.Machine.Interpreter
import Embedder.Proofs.Moves

/-!
# The lifecycle, over whole runs

The lifecycle, the thread that started the interpreter and the registry move together: in every
reachable state the interpreter runs exactly if its starter is known and exactly if there is a
registry, and the generation counts the starts that got past initialization (`LifecycleInv`). A
start is refused for one of three reasons, in a fixed order, and then nothing changes; any other
start leaves the interpreter running, also if it fails over a search path (`start_law`). A stop
succeeds exactly if the interpreter runs (`stop_law`).
-/

namespace Embedder

variable {σ α : Type} {G : Guest σ} {h h' : Host σ} {thread : ThreadId} {config : Config}

/-! ## What starts and stops do -/

/-- The failures by which a start is refused. -/
def Failure.refusesStart : Failure → Bool
  | .alreadyRunning => true
  | .restartRefused => true
  | .initializationFailed _ => true
  | _ => false

namespace Interpreter

/-- Appending a path does not fail as a refused start does. -/
theorem appendPath_fails (path : SearchPath) :
    (appendPath G path).Fails fun f => f.refusesStart = false := by
  have raised : ∀ r, (Failure.raised r).refusesStart = false := fun _ => rfl
  unfold appendPath
  cases path.text? with
  | none => exact Attempt.Fails.throw rfl
  | some text =>
    refine Attempt.Fails.get fun s => ?_
    dsimp only
    split
    next =>
      refine (Attempt.Fails.lift _).bind fun _ => Attempt.Fails.get fun s => ?_
      cases G.searchPath s.world with
      | none => exact (Attempt.Fails.lift _).bind fun r => Attempt.Fails.throw rfl
      | some list =>
        refine (Attempt.Fails.mapError raised).bind fun entry => ?_
        refine Attempt.Fails.within entry ?_
        exact (Attempt.Fails.mapError raised).bind fun _ => Attempt.Fails.lift _
    next => exact Attempt.Fails.throw rfl

theorem appendPaths_fails : ∀ paths : List SearchPath,
    (appendPaths G paths).Fails fun f => f.refusesStart = false := by
  intro paths
  induction paths with
  | nil => exact Attempt.Fails.pure ()
  | cons p ps ih =>
    unfold appendPaths
    exact (appendPath_fails p).bind fun _ => ih

/-- How a start turns out. Whatever refuses it changes nothing but the log; whatever goes wrong
after that, the interpreter runs. -/
structure StartLaw (G : Guest σ) (thread : ThreadId) (config : Config) (h : Host σ) : Prop where
  alreadyRunning : Ends ((start G thread config).run.run h) fun x =>
    (x.1 = .error .alreadyRunning ↔ h.lifecycle.stage = .running)
  restartRefused : Ends ((start G thread config).run.run h) fun x =>
    (x.1 = .error .restartRefused ↔
      h.lifecycle.stage = .finalized ∧ config.allowRestart = false)
  initializationFailed : Ends ((start G thread config).run.run h) fun x =>
    ((∃ m, x.1 = .error (.initializationFailed m)) ↔
      h.lifecycle.stage ≠ .running ∧
      ¬(h.lifecycle.stage = .finalized ∧ config.allowRestart = false) ∧ G.isUp h.world = true)
  refused : Ends ((start G thread config).run.run h) fun x =>
    ∀ f, x.1 = .error f → f.refusesStart = true → x.2 = { h with log := x.2.log }
  started : Ends ((start G thread config).run.run h) fun x =>
    (∀ f, x.1 = .error f → f.refusesStart = false) →
      x.2.lifecycle = ⟨.running, h.lifecycle.generation + 1, some thread⟩ ∧
      x.2.registry = some Registry.empty ∧ x.2.printing = config.printTracebacks
  /-- A refusal is always told: only a start that is not refused can end the process. -/
  told : h.lifecycle.stage = .running ∨
      (h.lifecycle.stage = .finalized ∧ config.allowRestart = false) ∨ G.isUp h.world = true →
    ∃ f h', (start G thread config).run.run h = .ok (.error f, h') ∧ f.refusesStart = true

/-- A start that is refused goes by the law. -/
theorem startLaw_of_refused {f : Failure} {log : List Log.Record}
    (hrun : (start G thread config).run.run h = .ok (.error f, { h with log := log }))
    (hf : f.refusesStart = true)
    (halready : f = .alreadyRunning ↔ h.lifecycle.stage = .running)
    (hrefused : f = .restartRefused ↔
      h.lifecycle.stage = .finalized ∧ config.allowRestart = false)
    (hfailed : (∃ m, f = .initializationFailed m) ↔
      h.lifecycle.stage ≠ .running ∧
      ¬(h.lifecycle.stage = .finalized ∧ config.allowRestart = false) ∧ G.isUp h.world = true) :
    StartLaw G thread config h := by
  constructor
  case alreadyRunning =>
    intro x hx
    rw [hrun] at hx
    cases hx
    rw [← halready]
    exact ⟨fun h => Except.error.inj h, fun h => congrArg Except.error h⟩
  case restartRefused =>
    intro x hx
    rw [hrun] at hx
    cases hx
    rw [← hrefused]
    exact ⟨fun h => Except.error.inj h, fun h => congrArg Except.error h⟩
  case initializationFailed =>
    intro x hx
    rw [hrun] at hx
    cases hx
    rw [← hfailed]
    exact ⟨fun ⟨m, h⟩ => ⟨m, Except.error.inj h⟩, fun ⟨m, h⟩ => ⟨m, congrArg Except.error h⟩⟩
  case refused =>
    intro x hx
    rw [hrun] at hx
    cases hx
    exact fun _ _ _ => rfl
  case started =>
    intro x hx hnone
    rw [hrun] at hx
    cases hx
    rw [hnone f rfl] at hf
    cases hf
  case told =>
    exact fun _ => ⟨f, _, hrun, hf⟩

/-- A start that is not refused leaves the interpreter running, whatever it answers. -/
theorem startLaw_of_launches (hl : launches G config h = true)
    (hrunning : h.lifecycle.stage ≠ .running)
    (hallowed : ¬(h.lifecycle.stage = .finalized ∧ config.allowRestart = false))
    (hdown : G.isUp h.world = false) : StartLaw G thread config h := by
  -- once it is up, only a search path can make the start fail
  have hfails : ∀ {x f}, (start G thread config).run.run h = .ok x → x.1 = .error f →
      f.refusesStart = false := by
    intro x f hx hf
    rw [start_run_of_launches hl] at hx
    exact appendPaths_fails config.searchPaths _ x.1 x.2 hx f hf
  have hup : ¬G.isUp h.world = true := by
    rw [hdown]
    exact Bool.false_ne_true
  constructor
  case alreadyRunning =>
    intro x hx
    refine ⟨fun hf => ?_, fun hs => absurd hs hrunning⟩
    cases hfails hx hf
  case restartRefused =>
    intro x hx
    refine ⟨fun hf => ?_, fun hs => absurd hs hallowed⟩
    cases hfails hx hf
  case initializationFailed =>
    intro x hx
    refine ⟨fun ⟨m, hf⟩ => ?_, fun hs => absurd hs.2.2 hup⟩
    cases hfails hx hf
  case refused =>
    intro x hx f hf href
    rw [hfails hx hf] at href
    cases href
  case started =>
    intro x hx _
    have hstand : x.2.standing = (launched G thread config h).standing := start_standing hl hx
    exact ⟨congrArg Standing.lifecycle hstand, congrArg Standing.registry hstand,
      congrArg Standing.printing hstand⟩
  case told =>
    rintro (hs | hs | hs)
    · exact absurd hs hrunning
    · exact absurd hs hallowed
    · exact absurd hs hup

/-- Every start goes by the law, from any state, if an interpreter that is told to come up does. -/
theorem start_law (hboot : G.isUp (booted G h).world = true) : StartLaw G thread config h := by
  cases hs : h.lifecycle.stage with
  | running =>
    have hf : startRefusal config h = some .alreadyRunning := by rw [startRefusal, hs]
    have hrun := start_run_of_launch_error (launch_run_of_refused (G := G) thread hf)
    exact startLaw_of_refused hrun rfl (by simp [hs]) (by simp [hs]) (by simp [hs])
  | finalized =>
    cases ha : config.allowRestart with
    | false =>
      have hf : startRefusal config h = some .restartRefused := by simp [startRefusal, hs, ha]
      have hrun := start_run_of_launch_error (launch_run_of_refused (G := G) thread hf)
      exact startLaw_of_refused hrun rfl (by simp [hs]) (by simp [hs, ha]) (by simp [hs, ha])
    | true =>
      have hf : startRefusal config h = none := by simp [startRefusal, hs, ha]
      cases hup : G.isUp h.world with
      | true =>
        have hrun := start_run_of_launch_error (launch_run_of_up thread hf hup)
        exact startLaw_of_refused hrun rfl (by simp [hs]) (by simp [hs, ha]) (by simp [hs, ha, hup])
      | false =>
        exact startLaw_of_launches (launches_iff.mpr ⟨hf, hup, hboot⟩) (by simp [hs])
          (by simp [ha]) hup
  | uninitialized =>
    have hf : startRefusal config h = none := by rw [startRefusal, hs]
    cases hup : G.isUp h.world with
    | true =>
      have hrun := start_run_of_launch_error (launch_run_of_up thread hf hup)
      exact startLaw_of_refused hrun rfl (by simp [hs]) (by simp [hs]) (by simp [hs, hup])
    | false =>
      exact startLaw_of_launches (launches_iff.mpr ⟨hf, hup, hboot⟩) (by simp [hs])
        (by simp [hs]) hup

/-- How a stop turns out. -/
structure StopLaw (G : Guest σ) (thread : ThreadId) (h : Host σ) : Prop where
  stopped : h.lifecycle.stage = .running → ∃ h', (stop G thread).run.run h = .ok (.ok (), h') ∧
    h'.lifecycle = ⟨.finalized, h.lifecycle.generation, none⟩ ∧ h'.registry = none
  refused : h.lifecycle.stage ≠ .running →
    (stop G thread).run.run h = .ok (.error .notRunning, h)

theorem stop_law (G : Guest σ) (thread : ThreadId) (h : Host σ) : StopLaw G thread h where
  stopped hs := by
    obtain ⟨h', hrun, hstation⟩ := stop_run_of_running G thread hs
    exact ⟨h', hrun, congrArg Station.lifecycle hstation, congrArg Station.registry hstation⟩
  refused hs := stop_run_of_not_running hs

end Interpreter

/-! ## The invariant -/

/-- The lifecycle, the starter and the registry go together, and the generation counts the starts
that were noted down. -/
structure LifecycleInv (s : Station) (history : List Event) : Prop where
  starter : s.lifecycle.stage = .running ↔ s.lifecycle.starter.isSome
  registry : s.lifecycle.stage = .running ↔ s.registry.isSome
  counted : s.lifecycle.generation = history.count .started
  begun : s.lifecycle.stage = .uninitialized ↔ s.lifecycle.generation = 0

theorem lifecycleInv_fresh (world : σ) : LifecycleInv (Host.fresh world).station [] where
  starter := by simp [Host.station, Host.standing, Standing.station, Host.fresh]
  registry := by simp [Host.station, Host.standing, Standing.station, Host.fresh]
  counted := rfl
  begun := by simp [Host.station, Host.standing, Standing.station, Host.fresh]

/-- Each of the six moves keeps the invariant. -/
theorem Moves.lifecycleInv {s s' : Station} {events history : List Event}
    (hm : Moves s events s') (hi : LifecycleInv s history) :
    LifecycleInv s' (history ++ events) := by
  have hcounted := hi.counted
  cases hm with
  | stay =>
    rw [List.append_nil]
    exact hi
  | start hs thread =>
    refine ⟨by simp, by simp, ?_, by simp⟩
    rw [List.count_append, ← hcounted]
    rfl
  | stop hs =>
    -- a stage that was running is not the first, so some start was counted
    have hbegun : s.lifecycle.generation ≠ 0 := by
      intro hzero
      rw [hi.begun.mpr hzero] at hs
      cases hs
    rw [List.append_nil]
    exact ⟨by simp, by simp, hcounted, by simp [hbegun]⟩
  | bind k =>
    refine ⟨hi.starter, hi.registry, ?_, hi.begun⟩
    rw [List.count_append, ← hcounted]
    rfl
  | issue hr t =>
    have hrunning := hi.registry.mpr (by rw [hr]; rfl)
    refine ⟨hi.starter, by simp [hrunning], ?_, hi.begun⟩
    rw [List.count_append, ← hcounted]
    rfl
  | revoke hr hid =>
    have hrunning := hi.registry.mpr (by rw [hr]; rfl)
    refine ⟨hi.starter, by simp [hrunning], ?_, hi.begun⟩
    rw [List.count_append, ← hcounted]
    rfl

namespace Process

theorem step_lifecycleInv {s : Step σ} {p p' : Process σ} (hs : p.step G s = .ok p')
    (hi : LifecycleInv p.host.station p.history) : LifecycleInv p'.host.station p'.history := by
  obtain ⟨events, hhistory, hmoves⟩ := step_moves hs
  rw [hhistory]
  exact hmoves.lifecycleInv hi

/-- **The lifecycle.** In every state that operations of the bridge can reach from any thread, also
with an interpreter that others bring up in between, the lifecycle, the saved starter and the
registry go together, the generation counts the starts that got past initialization, and every start
and stop goes by its law. -/
theorem lifecycle_laws (hboots : ∀ n w, G.isUp (G.boot n w) = true) (world : σ)
    (steps : List (Step σ)) :
    Ends ((fresh world).run G steps) fun p =>
      (p.host.lifecycle.stage = .running ↔ p.host.lifecycle.starter.isSome) ∧
      (p.host.lifecycle.stage = .running ↔ p.host.registry.isSome) ∧
      p.host.lifecycle.generation = p.history.count .started ∧
      (p.host.lifecycle.stage = .uninitialized ↔ p.history.count .started = 0) ∧
      (∀ thread config, Interpreter.StartLaw G thread config p.host) ∧
      (∀ thread, Interpreter.StopLaw G thread p.host) := by
  intro p hr
  have hi : LifecycleInv p.host.station p.history :=
    run_preserves (P := fun q => LifecycleInv q.host.station q.history)
      (fun hq hs => step_lifecycleInv hs hq) (lifecycleInv_fresh world) hr
  refine ⟨hi.starter, hi.registry, hi.counted, ?_, fun thread config => ?_, fun thread => ?_⟩
  · rw [← hi.counted]
    exact hi.begun
  · exact Interpreter.start_law (hboots _ _)
  · exact Interpreter.stop_law G thread p.host

/-- A process that starts the interpreter twice, stops it, and finds it taken by others. -/
theorem python_lifecycle_laws :
    (∀ n w, Machine.python.isUp (Machine.python.boot n w) = true) ∧
    Ends ((fresh Machine.World.down).run Machine.python
        [.perform (.start mainThread Config.default), .perform (.start 1 Config.default),
          .perform (.stop 1), .outside fun w => { w with up := true },
          .perform (.start mainThread (Config.default.withRestart true))]) fun p =>
      (p.host.lifecycle.stage = .running ↔ p.host.registry.isSome) ∧
      p.host.lifecycle.generation = p.history.count .started := by
  refine ⟨fun _ _ => rfl, fun p hr => ?_⟩
  have laws := lifecycle_laws (fun _ _ => rfl) Machine.World.down _ p hr
  exact ⟨laws.2.1, laws.2.2.1⟩

end Process

end Embedder
