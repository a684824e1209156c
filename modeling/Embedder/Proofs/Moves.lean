import Embedder.Proofs.Station

/-!
# What one operation does to the lifecycle and the registry

`Moves` lists all that one operation can do to the station of a host, with the note that the host
can take of it: bring the interpreter up, take it down, make a binding, put one under a fresh id,
take one out, or nothing. `perform_moves` shows the list to be complete, and every invariant of the
station over whole runs is then an induction over its six cases.
-/

namespace Embedder

open Scenario

variable {σ α : Type} {G : Guest σ} {h h' : Host σ} {thread : ThreadId} {config : Config}

/-- What one operation can do to the station of a host. -/
inductive Moves : Station → List Event → Station → Prop where
  | stay (s : Station) : Moves s [] s
  | start {s : Station} (hs : s.lifecycle.stage ≠ .running) (thread : ThreadId) :
    Moves s [.started]
      ⟨⟨.running, s.lifecycle.generation + 1, some thread⟩, some Registry.empty⟩
  | stop {s : Station} (hs : s.lifecycle.stage = .running) :
    Moves s [] ⟨⟨.finalized, s.lifecycle.generation, none⟩, none⟩
  /-- A binding that is made stays in the hand of the host. -/
  | bind (s : Station) (k : Kept) : Moves s [.bound k] s
  | issue {s : Station} {r : Registry} (hr : s.registry = some r) (t : Ticket) :
    Moves s [.issued s.lifecycle.generation r.nextId]
      ⟨s.lifecycle, some ⟨r.entries ++ [(r.nextId, t)], r.nextId + 1⟩⟩
  | revoke {s : Station} {r : Registry} {id : Int} {t : Ticket} (hr : s.registry = some r)
      (hid : r.entries.lookup id = some t) :
    Moves s [.revoked s.lifecycle.generation id]
      ⟨s.lifecycle, some ⟨r.entries.filter fun e => e.1 ≠ id, r.nextId⟩⟩

theorem Moves.of_eq {s s' : Station} (hs : s' = s) : Moves s [] s' := by
  subst hs
  exact Moves.stay s'

namespace Interpreter

theorem launches_stage (hl : launches G config h = true) : h.lifecycle.stage ≠ .running := by
  intro hs
  have hf := (launches_iff.mp hl).1
  unfold startRefusal at hf
  rw [hs] at hf
  cases hf

theorem launch_moves {r : Except Failure Unit}
    (hr : (launch G thread config).run.run h = .ok (r, h')) :
    Moves h.station (Operation.startEvents (launches G config h)) h'.station := by
  cases hl : launches G config h with
  | true =>
    rw [launch_run_of_launches thread hl] at hr
    cases hr
    exact Moves.start (s := h.station) (launches_stage hl) thread
  | false =>
    obtain ⟨f, h₁, hrun, hstand⟩ := launch_run_of_not_launches thread hl
    rw [hrun] at hr
    cases hr
    exact Moves.of_eq (congrArg Standing.station hstand)

theorem start_moves {r : Except Failure Unit}
    (hr : (start G thread config).run.run h = .ok (r, h')) :
    Moves h.station (Operation.startEvents (launches G config h)) h'.station := by
  cases hl : launches G config h with
  | true =>
    have hstand := start_standing hl hr
    have hstation : h'.station = (launched G thread config h).station :=
      congrArg Standing.station hstand
    rw [hstation]
    exact Moves.start (s := h.station) (launches_stage hl) thread
  | false =>
    obtain ⟨f, h₁, hrun, hstand⟩ := launch_run_of_not_launches thread hl
    rw [start_run_of_launch_error hrun] at hr
    cases hr
    exact Moves.of_eq (congrArg Standing.station hstand)

theorem stop_moves {r : Except Failure Unit} (hr : (stop G thread).run.run h = .ok (r, h')) :
    Moves h.station [] h'.station := by
  by_cases hs : h.lifecycle.stage = .running
  · obtain ⟨h₁, hrun, hstation⟩ := stop_run_of_running G thread hs
    rw [hrun] at hr
    cases hr
    rw [hstation]
    exact Moves.stop (s := h.station) hs
  · rw [stop_run_of_not_running hs] at hr
    cases hr
    exact Moves.stay h.station

end Interpreter

/-! ## The C interface -/

namespace CInterface

/-- The answer to a call is the result of its body, or a negative code. Of the host, it changes the
last error of the thread. -/
theorem answer_ok {body : Attempt σ Failure α} {a : Answer α}
    (ha : (answer thread body).run h = .ok (a, h')) :
    ∃ r h₁, body.run.run { h with lastErrors := h.lastErrors.clear thread } = .ok (r, h₁) ∧
      h'.station = h₁.station ∧ (∀ x, r = .ok x → a = ⟨0, some x⟩) ∧
      (∀ f, r = .error f → a = ⟨f.code, none⟩) := by
  unfold answer at ha
  rw [Bridge.run_modify_bind] at ha
  obtain ⟨r, h₁, hbody, hrest⟩ := Bridge.bind_ok (x := body.run) ha
  refine ⟨r, h₁, hbody, ?_⟩
  cases r with
  | ok x =>
    obtain ⟨rfl, rfl⟩ := Bridge.pure_ok hrest
    refine ⟨rfl, fun y hy => ?_, fun f hf => ?_⟩
    · cases hy
      rfl
    · cases hf
  | error f =>
    obtain ⟨rfl, rfl⟩ := Bridge.pure_ok hrest
    refine ⟨rfl, fun y hy => ?_, fun g hg => ?_⟩
    · cases hy
    · cases hg
      rfl

theorem check_bind_of_ok {β : Type} {x : Except Failure α} {a : α}
    {f : α → Attempt σ Failure β} (hx : x = .ok a) :
    (check x >>= f).run.run h = (f a).run.run h := by
  subst hx
  rfl

theorem check_bind_of_error {β : Type} {x : Except Failure α} {e : Failure}
    {f : α → Attempt σ Failure β} (hx : x = .error e) :
    (check x >>= f).run.run h = .ok (.error e, h) := by
  subst hx
  rfl

theorem startWithConfig_moves {json : CString} {a : Answer Unit}
    (ha : (startWithConfig G thread json).run h = .ok (a, h')) :
    Moves h.station (Operation.startEvents
      ((InterfaceCall.startWithConfig json).config?.any (Interpreter.launches G · h)))
      h'.station := by
  obtain ⟨r, h₁, hbody, hstation, -, -⟩ := answer_ok ha
  rw [hstation, show (InterfaceCall.startWithConfig json).config? =
    (argText "config" json >>= Config.ofJson?).toOption from rfl]
  cases htext : argText "config" json with
  | error e =>
    rw [check_bind_of_error htext] at hbody
    cases hbody
    exact Moves.stay _
  | ok text =>
    -- only with a configuration does the call come as far as a start
    rw [check_bind_of_ok htext] at hbody
    rw [show (Except.ok text >>= Config.ofJson?) = Config.ofJson? text from rfl]
    cases hconfig : Config.ofJson? text with
    | error e =>
      rw [check_bind_of_error hconfig] at hbody
      cases hbody
      exact Moves.stay _
    | ok config =>
      rw [check_bind_of_ok hconfig] at hbody
      have moved := Interpreter.start_moves hbody
      exact moved

/-- What comes first in an attempt may leave the station to what comes then. -/
theorem fixed_cases {β : Type} {x : Attempt σ Failure α} {f : α → Attempt σ Failure β}
    {r : Except Failure β} {n : α → Int} {e : Int}
    (hx : x.Obeys (Fixed Host.station) n e) (hr : (x >>= f).run.run h = .ok (r, h')) :
    ((∃ e, r = .error e) ∧ h'.station = h.station) ∨
    (∃ a h₁, h₁.station = h.station ∧ (f a).run.run h₁ = .ok (r, h')) := by
  rcases Attempt.bind_cases hr with ⟨e, rfl, hxr⟩ | ⟨a, h₁, hxr, hrest⟩
  · exact .inl ⟨⟨e, rfl⟩, hx _ _ _ hxr⟩
  · exact .inr ⟨a, h₁, hx _ _ _ hxr, hrest⟩

/-- The note on an attempt to get an id. -/
def idEvents (generation : Nat) : Option Int → List Event
  | some id => [.issued generation id]
  | none => []

theorem insert_moves {b : Binding} {x : Except Failure Int}
    (hx : (Registry.insert G b).run.run h = .ok (x, h')) :
    Moves h.station (idEvents h'.lifecycle.generation x.toOption) h'.station := by
  rcases Registry.insert_ok hx with ⟨r, hr, -, rfl, hstation⟩ | ⟨⟨f, rfl⟩, hstation⟩
  · have hlife : h'.lifecycle = h.lifecycle := congrArg Station.lifecycle hstation
    rw [hstation, hlife]
    exact Moves.issue (s := h.station) hr _
  · exact Moves.of_eq hstation

theorem out_eq {a : Answer α} {r : Except Failure α} (hok : ∀ x, r = .ok x → a = ⟨0, some x⟩)
    (herr : ∀ f, r = .error f → a = ⟨f.code, none⟩) : a.out = r.toOption := by
  cases r with
  | ok x =>
    rw [hok x rfl]
    rfl
  | error f =>
    rw [herr f rfl]
    rfl

/-- Whatever goes wrong before the binding is inserted, the station stays. -/
theorem bind_moves {moduleName function : CString} {output : Bool} {a : Answer Int}
    (ha : (bind G thread moduleName function output).run h = .ok (a, h')) :
    Moves h.station (idEvents h'.lifecycle.generation a.out) h'.station := by
  obtain ⟨r, h₁, hbody, hstation, hok, herr⟩ := answer_ok ha
  have hlife : h'.lifecycle = h₁.lifecycle := congrArg Station.lifecycle hstation
  rw [hstation, hlife, out_eq hok herr]
  -- three checks and the bind come before the insert, and each may be the last that happens
  have hc : (Fixed (Host.station (σ := σ))).Composes := fixed_composes _
  rcases fixed_cases (check_obeys hc _) hbody with ⟨⟨e, rfl⟩, hsame⟩ | ⟨m, h₂, hsame₂, hbody⟩
  · exact Moves.of_eq hsame
  rcases fixed_cases (check_obeys hc _) hbody with ⟨⟨e, rfl⟩, hsame⟩ | ⟨f, h₃, hsame₃, hbody⟩
  · exact Moves.of_eq (hsame.trans hsame₂)
  rcases fixed_cases (check_obeys hc _) hbody with ⟨⟨e, rfl⟩, hsame⟩ | ⟨_, h₄, hsame₄, hbody⟩
  · exact Moves.of_eq (hsame.trans (hsame₃.trans hsame₂))
  have hbind := Binding.bind_sessional (station_custodial G).sessional m f
  rcases fixed_cases hbind hbody with ⟨⟨e, rfl⟩, hsame⟩ | ⟨b, h₅, hsame₅, hbody⟩
  · exact Moves.of_eq (hsame.trans (hsame₄.trans (hsame₃.trans hsame₂)))
  have moved := insert_moves hbody
  rw [hsame₅, hsame₄, hsame₃, hsame₂] at moved
  exact moved

/-- The note on an attempt to take an id back. -/
def unbindEvents (generation : Nat) (id : Int) (status : Int) : List Event :=
  if status = 0 then [.revoked generation id] else []

theorem unbindEvents_code (generation : Nat) (id : Int) (f : Failure) :
    unbindEvents generation id f.code = [] := by
  have hneg := f.code_neg
  exact if_neg (by omega)

/-- The drop of what was taken out does not come near the station. -/
theorem unbind_moves {id : Int} {a : Answer Unit}
    (ha : (unbind G thread id).run h = .ok (a, h')) :
    Moves h.station (unbindEvents h'.lifecycle.generation id a.status) h'.station := by
  obtain ⟨r, h₁, hbody, hstation, hok, herr⟩ := answer_ok ha
  have hlife : h'.lifecycle = h₁.lifecycle := congrArg Station.lifecycle hstation
  rw [hstation, hlife]
  rcases Attempt.bind_cases hbody with ⟨f, rfl, hremove⟩ | ⟨t, h₂, hremove, hdrop⟩
  · rw [herr f rfl, unbindEvents_code]
    rcases Registry.remove_ok hremove with ⟨_, _, _, _, hne, _⟩ | ⟨_, rfl⟩
    · cases hne
    · exact Moves.stay _
  · obtain ⟨u, rfl, hdropped⟩ := Attempt.lift_ok hdrop
    have hsame : h₁.station = h₂.station :=
      Ticket.drop_obeys (station_custodial G) false t h₂ u h₁ hdropped
    rcases Registry.remove_ok hremove with ⟨reg, t', hr, hid, -, rfl⟩ | ⟨⟨f, hne⟩, _⟩
    · have hgen : h₁.lifecycle = h.lifecycle := congrArg Station.lifecycle hsame
      rw [hok u rfl, hsame, hgen]
      exact Moves.revoke (s := h.station) hr hid
    · cases hne

end CInterface

/-! ## Operations -/

theorem Scenario.InterfaceCall.events_of_aside {call : InterfaceCall} (hcall : call.Aside) :
    call.config? = none ∧ ∀ g v, call.events g v = [] := by
  cases call with
  | start e => exact hcall.elim
  | startWithConfig json => exact hcall.elim
  | stop => exact hcall.elim
  | bind moduleName function output => exact hcall.elim
  | unbind id => exact hcall.elim
  | _ => exact ⟨rfl, fun g v => by cases v <;> rfl⟩

/-- What can be read off a call of the C interface tells all that it did to the station. -/
theorem Scenario.InterfaceCall.perform_moves {call : InterfaceCall} {v : InterfaceValue}
    (hv : (call.perform G thread).run h = .ok (v, h')) :
    Moves h.station (Operation.startEvents (call.config?.any (Interpreter.launches G · h)) ++
      call.events h'.lifecycle.generation v) h'.station := by
  -- a call that touches neither the lifecycle nor the registry is told by what it does not change
  have stays : call.Aside → Moves h.station (Operation.startEvents
      (call.config?.any (Interpreter.launches G · h)) ++ call.events h'.lifecycle.generation v)
      h'.station := by
    intro hcall
    obtain ⟨hconfig, hevents⟩ := events_of_aside hcall
    have hsame := call.perform_aside (station_custodial G).weighs thread hcall h v h' hv
    rw [hconfig, hevents]
    exact Moves.of_eq hsame
  cases call with
  | start e =>
    obtain ⟨a, h₁, ha, hp⟩ := Bridge.bind_ok hv
    obtain ⟨rfl, rfl⟩ := Bridge.pure_ok hp
    obtain ⟨r, h₂, hbody, hstation, -, -⟩ := CInterface.answer_ok ha
    have moved := Interpreter.start_moves hbody
    rw [hstation]
    show Moves h.station (Operation.startEvents _ ++ []) h₂.station
    rw [List.append_nil]
    exact moved
  | startWithConfig json =>
    obtain ⟨a, h₁, ha, hp⟩ := Bridge.bind_ok hv
    obtain ⟨rfl, rfl⟩ := Bridge.pure_ok hp
    simpa [events] using CInterface.startWithConfig_moves ha
  | stop =>
    obtain ⟨a, h₁, ha, hp⟩ := Bridge.bind_ok hv
    obtain ⟨rfl, rfl⟩ := Bridge.pure_ok hp
    obtain ⟨r, h₂, hbody, hstation, -, -⟩ := CInterface.answer_ok ha
    have moved := Interpreter.stop_moves hbody
    rw [hstation]
    exact moved
  | bind moduleName function output =>
    obtain ⟨a, h₁, ha, hp⟩ := Bridge.bind_ok hv
    obtain ⟨rfl, rfl⟩ := Bridge.pure_ok hp
    have moved := CInterface.bind_moves ha
    cases hout : a.out with
    | none => simpa [config?, events, hout, Operation.startEvents, CInterface.idEvents] using moved
    | some id => simpa [config?, events, hout, Operation.startEvents, CInterface.idEvents] using moved
  | unbind id =>
    obtain ⟨a, h₁, ha, hp⟩ := Bridge.bind_ok hv
    obtain ⟨rfl, rfl⟩ := Bridge.pure_ok hp
    exact CInterface.unbind_moves ha
  | _ => exact stays trivial

namespace Operation

theorem insert_moves {i : Nat} {c c' : Caller} {events : List Event}
    (hop : (perform G (.insert i) c).run h = .ok ((c', events), h')) :
    Moves h.station events h'.station := by
  simp only [perform] at hop
  split at hop
  next =>
    obtain ⟨hc, rfl⟩ := Bridge.pure_ok hop
    cases hc
    exact Moves.stay _
  next b _ =>
    obtain ⟨x, h₁, hinsert, hrest⟩ := Bridge.bind_ok hop
    have moved := CInterface.insert_moves hinsert
    cases x with
    | ok id =>
      obtain ⟨g, h₂, hg, hp⟩ := Bridge.bind_ok hrest
      obtain ⟨rfl, rfl⟩ := generation_ok hg
      obtain ⟨hc, rfl⟩ := Bridge.pure_ok hp
      cases hc
      exact moved
    | error f =>
      obtain ⟨hc, rfl⟩ := Bridge.pure_ok hrest
      cases hc
      exact moved

theorem remove_moves {id : Int} {c c' : Caller} {events : List Event}
    (hop : (perform G (.remove id) c).run h = .ok ((c', events), h')) :
    Moves h.station events h'.station := by
  simp only [perform] at hop
  obtain ⟨x, h₁, hremove, hrest⟩ := Bridge.bind_ok hop
  rcases Registry.remove_ok hremove with ⟨r, t, hr, hid, rfl, rfl⟩ | ⟨⟨f, rfl⟩, rfl⟩
  · obtain ⟨g, h₂, hg, hp⟩ := Bridge.bind_ok hrest
    obtain ⟨rfl, rfl⟩ := generation_ok hg
    obtain ⟨hc, rfl⟩ := Bridge.pure_ok hp
    cases hc
    exact Moves.revoke (s := h.station) hr hid
  · obtain ⟨hc, rfl⟩ := Bridge.pure_ok hrest
    cases hc
    exact Moves.stay _

theorem bind_moves {moduleName function : String} {c c' : Caller} {events : List Event}
    (hop : (perform G (.bind moduleName function) c).run h = .ok ((c', events), h')) :
    Moves h.station events h'.station := by
  have haside : Aside (.bind moduleName function) := trivial
  have hstation : h'.station = h.station :=
    perform_custodial (station_custodial G) haside c h _ h' hop
  simp only [perform] at hop
  obtain ⟨r, h₁, -, hrest⟩ := Bridge.bind_ok hop
  rw [hstation]
  cases r with
  | ok b =>
    obtain ⟨hc, -⟩ := Bridge.pure_ok hrest
    cases hc
    exact Moves.bind _ b.kept
  | error f =>
    obtain ⟨hc, -⟩ := Bridge.pure_ok hrest
    cases hc
    exact Moves.stay _

/-- Nothing is noted down of any other operation that leaves the station to others. -/
theorem perform_yields_nothing {op : Operation} (haside : op.Aside)
    (hbind : ∀ moduleName function, op ≠ .bind moduleName function) (c : Caller) :
    (op.perform G c).Yields fun r => r.2 = [] := by
  have noted : ∀ {β : Type} (x : Bridge σ β) (c' : Caller),
      (x >>= fun _ => pure (c', ([] : List Event)) : Bridge σ (Caller × List Event)).Yields
        fun r => r.2 = [] := fun x c' => Bridge.Yields.after fun _ => Bridge.Yields.pure rfl
  cases op with
  | launch thread config => exact haside.elim
  | start thread config => exact haside.elim
  | stop thread => exact haside.elim
  | insert i => exact haside.elim
  | remove id => exact haside.elim
  | bind moduleName function => exact absurd rfl (hbind moduleName function)
  | callBinding i args result =>
    simp only [perform]
    split
    next => exact Bridge.Yields.pure rfl
    next => exact noted _ _
  | dropBinding busy i =>
    simp only [perform]
    split
    next => exact Bridge.Yields.pure rfl
    next => exact noted _ _
  | find id =>
    refine Bridge.Yields.after fun r => ?_
    cases r <;> exact Bridge.Yields.pure rfl
  | callTicket i args result =>
    simp only [perform]
    split
    next => exact Bridge.Yields.pure rfl
    next => exact noted _ _
  | cloneTicket i =>
    simp only [perform]
    split
    next => exact Bridge.Yields.pure rfl
    next => exact Bridge.Yields.after fun _ => Bridge.Yields.pure rfl
  | dropTicket busy i =>
    simp only [perform]
    split
    next => exact Bridge.Yields.pure rfl
    next => exact noted _ _
  | _ => exact noted _ _

theorem perform_moves {op : Operation} {c c' : Caller} {events : List Event}
    (hop : (op.perform G c).run h = .ok ((c', events), h')) :
    Moves h.station events h'.station := by
  cases op with
  | launch thread config =>
    obtain ⟨s, h₁, hget, hop⟩ := Bridge.bind_ok hop
    obtain ⟨r, h₂, hlaunch, hp⟩ := Bridge.bind_ok hop
    obtain ⟨hc, rfl⟩ := Bridge.pure_ok hp
    cases hget
    cases hc
    exact Interpreter.launch_moves hlaunch
  | start thread config =>
    obtain ⟨s, h₁, hget, hop⟩ := Bridge.bind_ok hop
    obtain ⟨r, h₂, hstart, hp⟩ := Bridge.bind_ok hop
    obtain ⟨hc, rfl⟩ := Bridge.pure_ok hp
    cases hget
    cases hc
    exact Interpreter.start_moves hstart
  | stop thread =>
    obtain ⟨r, h₁, hstop, hp⟩ := Bridge.bind_ok hop
    obtain ⟨hc, rfl⟩ := Bridge.pure_ok hp
    cases hc
    exact Interpreter.stop_moves hstop
  | bind moduleName function => exact bind_moves hop
  | insert i => exact insert_moves hop
  | remove id => exact remove_moves hop
  | _ =>
    have hstation : h'.station = h.station :=
      perform_custodial (station_custodial G) (by trivial) c h _ h' hop
    have hnothing : events = [] :=
      perform_yields_nothing (by trivial) (by rintro _ _ ⟨⟩) c h _ h' hop
    rw [hstation, hnothing]
    exact Moves.stay _

end Operation

/-- One step of a process is one move of its station. -/
theorem Process.step_moves {s : Step σ} {p p' : Process σ} (hs : p.step G s = .ok p') :
    ∃ events, p'.history = p.history ++ events ∧ Moves p.host.station events p'.host.station := by
  cases s with
  | perform op =>
    obtain ⟨events, hop, hhistory⟩ := step_perform_ok hs
    exact ⟨events, hhistory, Operation.perform_moves hop⟩
  | interface thread call =>
    obtain ⟨v, hcall, hhistory⟩ := step_interface_ok hs
    exact ⟨_, hhistory, call.perform_moves hcall⟩
  | outside f =>
    cases hs
    exact ⟨[], (List.append_nil _).symm, Moves.stay _⟩

end Embedder
