import Embedder.Binding
import Embedder.Proofs.Run

/-!
# What Python code raises comes back

A call of the guest that raises leaves its exception pending, and the bridge takes it at once: it is
normalized, and described by its own class and value (`ReportOf`). The report is part of the failure
that the step of the bridge gives back, and each kind of step has its kind of failure (`ComesBack`).
-/

namespace Embedder

open Exception

variable {σ α β : Type} {G : Guest σ} {h h' : Host σ} {p : Pending}

/-- From this host the attempt fails as said, if it returns. -/
def Attempt.FailsAt {ε : Type} (x : Attempt σ ε α) (h : Host σ) (Q : ε → Prop) : Prop :=
  ∀ y h', x.run.run h = .ok (y, h') → ∃ e, y = .error e ∧ Q e

namespace Attempt.FailsAt

variable {ε ε' : Type} {Q : ε → Prop} {x : Attempt σ ε α}

/-- What would come after a failure does not happen. -/
theorem bind {f : α → Attempt σ ε β} (hx : x.FailsAt h Q) : (x >>= f).FailsAt h Q := by
  intro y h' hr
  rcases Attempt.bind_cases hr with ⟨e, rfl, hxr⟩ | ⟨a, h₁, hxr, -⟩
  · obtain ⟨e', he, hQ⟩ := hx _ _ hxr
    cases he
    exact ⟨e, rfl, hQ⟩
  · obtain ⟨e, he, -⟩ := hx _ _ hxr
    cases he

theorem mapError {g : ε → ε'} (hx : x.FailsAt h Q) :
    (x.mapError g).FailsAt h fun e => ∃ r, e = g r ∧ Q r := by
  intro y h' hr
  obtain ⟨z, h₁, hxr, hlast⟩ := Bridge.bind_ok (x := x.run) hr
  obtain ⟨r, rfl, hQ⟩ := hx z h₁ hxr
  obtain ⟨rfl, -⟩ := Bridge.pure_ok hlast
  exact ⟨g r, rfl, r, rfl, hQ⟩

end Attempt.FailsAt

/-- A run of the program gave this. -/
def Bridge.Gives (x : Bridge σ α) (a : α) : Prop := ∃ h h', x.run h = .ok (a, h')

/-- A report of a pending exception: once it is normalized, the type name is what its class gives
for its name, the message what its value gives for its text. -/
def Exception.ReportOf (G : Guest σ) (p : Pending) (r : ExceptionReport) : Prop :=
  ∃ q name message,
    (∃ w, (G.normalize p w).value = q) ∧
    (silently G (textAttr G ⟨q.kind, .owned⟩ "__name__")).Gives name ∧
    (messageOf G (q.value.map (⟨·, .owned⟩))).Gives message ∧
    r.typeName = name.getD "Exception" ∧ r.message = message.getD ""

namespace Exception

variable {context : String}

theorem ofNew?_ok {o : Option Obj} {x : Option Handle}
    (hr : (ofNew? o : Bridge σ (Option Handle)).run h = .ok (x, h')) :
    x = o.map (⟨·, .owned⟩) := by
  cases o with
  | none =>
    obtain ⟨rfl, -⟩ := Bridge.pure_ok hr
    rfl
  | some o =>
    cases hr
    rfl

theorem owning_ok {x : Bridge σ α} {o : Handle} {a : α}
    (hr : (o.owning G x).run h = .ok (a, h')) : ∃ h₁, x.run h = .ok (a, h₁) := by
  obtain ⟨b, h₁, hx, hrest⟩ := Bridge.bind_ok hr
  obtain ⟨u, h₂, -, hp⟩ := Bridge.bind_ok hrest
  obtain ⟨rfl, -⟩ := Bridge.pure_ok hp
  exact ⟨h₁, hx⟩

theorem owning?_ok {x : Bridge σ α} {o : Option Handle} {a : α}
    (hr : (owning? G o x).run h = .ok (a, h')) : ∃ h₁, x.run h = .ok (a, h₁) := by
  cases o with
  | none => exact ⟨h', hr⟩
  | some o => exact owning_ok hr

/-- What is pending is what is described. -/
theorem drain_ok {x : Option ExceptionReport} (hp : h.pending = some p)
    (hr : (drain G).run h = .ok (x, h')) : ∃ r, x = some r ∧ ReportOf G p r := by
  unfold drain at hr
  rw [Bridge.run_get_bind, hp] at hr
  dsimp only at hr
  rw [Bridge.run_modify_bind] at hr
  obtain ⟨q, h₁, hnormal, hr⟩ := Bridge.bind_ok hr
  obtain ⟨hq, -⟩ := Bridge.act_ok hnormal
  obtain ⟨kind, h₂, hkind, hr⟩ := Bridge.bind_ok hr
  obtain ⟨value, h₃, hvalue, hr⟩ := Bridge.bind_ok hr
  obtain ⟨trace, h₄, htrace, hr⟩ := Bridge.bind_ok hr
  obtain ⟨r, h₅, hreport, hlast⟩ := Bridge.bind_ok hr
  obtain ⟨rfl, -⟩ := Bridge.pure_ok hlast
  obtain ⟨h₆, hreport⟩ := owning_ok hreport
  obtain ⟨h₇, hreport⟩ := owning?_ok hreport
  obtain ⟨h₈, hreport⟩ := owning?_ok hreport
  cases hkind
  have hvalue := ofNew?_ok hvalue
  unfold describe at hreport
  obtain ⟨name, k₁, hname, hreport⟩ := Bridge.bind_ok hreport
  obtain ⟨message, k₂, hmessage, hreport⟩ := Bridge.bind_ok hreport
  obtain ⟨traceback, k₃, -, hreport⟩ := Bridge.bind_ok hreport
  obtain ⟨_, k₄, -, hreport⟩ := Bridge.bind_ok hreport
  obtain ⟨_, k₅, -, hreport⟩ := Bridge.bind_ok hreport
  obtain ⟨_, k₆, -, hreport⟩ := Bridge.bind_ok hreport
  obtain ⟨rfl, -⟩ := Bridge.pure_ok hreport
  rw [hvalue] at hmessage
  exact ⟨_, rfl, q, name, message, ⟨_, hq.symm⟩, ⟨_, _, hname⟩, ⟨_, _, hmessage⟩, rfl, rfl⟩

theorem fetch_ok {r : ExceptionReport} (hp : h.pending = some p)
    (hr : (fetch G context).run h = .ok (r, h')) : ReportOf G p r := by
  obtain ⟨x, h₁, hdrain, hrest⟩ := Bridge.bind_ok hr
  obtain ⟨r', rfl, hreport⟩ := drain_ok hp hdrain
  obtain ⟨rfl, -⟩ := Bridge.pure_ok hrest
  exact hreport

/-- What a call raises is pending then. -/
theorem ask_ok_of_raised {f : σ → Outcome σ α} {x : Option α}
    (hf : (f h.world).value = .raised p) (hr : (ask G f).run h = .ok (x, h')) :
    x = none ∧ h'.pending = some p := by
  unfold ask at hr
  rw [Bridge.run_bind (Bridge.act_run _ _), hf] at hr
  obtain ⟨u, h₁, hraise, hlast⟩ := Bridge.bind_ok hr
  obtain ⟨v, h₂, -, hset⟩ := Bridge.bind_ok hraise
  obtain ⟨rfl, rfl⟩ := Bridge.pure_ok hlast
  cases hset
  exact ⟨rfl, rfl⟩

theorem request_failsAt {f : σ → Outcome σ α} (hf : (f h.world).value = .raised p) :
    (request G context f).FailsAt h (ReportOf G p) := by
  intro y h' hr
  obtain ⟨o, h₁, hask, hrest⟩ := Bridge.bind_ok (x := ask G f) hr
  obtain ⟨rfl, hp⟩ := ask_ok_of_raised hf hask
  obtain ⟨r, h₂, hfetch, hlast⟩ := Bridge.bind_ok hrest
  obtain ⟨rfl, -⟩ := Bridge.pure_ok hlast
  exact ⟨r, rfl, fetch_ok hp hfetch⟩

theorem requestNew_failsAt {f : σ → Outcome σ Obj} (hf : (f h.world).value = .raised p) :
    (requestNew G context f).FailsAt h (ReportOf G p) :=
  (request_failsAt hf).bind

theorem checked_failsAt [DecidableEq β] {sentinel : β} {f : σ → Outcome σ β}
    (hf : (f h.world).value = .raised p) :
    (Scalar.checked G sentinel context f).FailsAt h (ReportOf G p) := by
  intro y h' hr
  obtain ⟨o, h₁, hask, hrest⟩ := Bridge.bind_ok (x := ask G f) hr
  obtain ⟨rfl, hp⟩ := ask_ok_of_raised hf hask
  dsimp only [Option.getD_none] at hrest
  rw [if_pos rfl] at hrest
  unfold isPending at hrest
  rw [bind_assoc, Bridge.run_get_bind, pure_bind, hp] at hrest
  obtain ⟨r, h₂, hfetch, hlast⟩ := Bridge.bind_ok hrest
  obtain ⟨rfl, -⟩ := Bridge.pure_ok hlast
  exact ⟨r, rfl, fetch_ok hp hfetch⟩

end Exception

/-- What the bridge makes of an exception that Python code raises, by the step that it is raised in.
-/
structure ComesBack (G : Guest σ) (p : Pending) (h : Host σ) : Prop where
  imported : ∀ name : String, '\x00' ∉ name.toList →
    (G.importModule name h.world).value = .raised p →
    (ModuleHandle.resolve G name).FailsAt h fun f => ∃ r, f = .moduleNotFound name r ∧ ReportOf G p r
  called : ∀ (c : CallableHandle) (args : Option Handle),
    (G.call c.handle.obj (args.map (·.obj)) h.world).value = .raised p →
    (c.invoke G args).FailsAt h fun f => ∃ r, f = .raised r ∧ ReportOf G p r
  measured : ∀ {β : Type} (D : Decoder σ β) (seq : Handle),
    (G.length seq.obj h.world).value = .raised p →
    (Sequence.fromList G D seq).FailsAt h fun f =>
      ∃ r, f = .marshal (.notASequence r) ∧ ReportOf G p r
  iterated : ∀ o : Handle, (G.iterator o.obj h.world).value = .raised p →
    (Walk.start G o).FailsAt h (ReportOf G p)
  /-- An exception that does not say that the iterator has ended. -/
  stepped : ∀ w : Walk, w.done = false → (∀ v, G.isStopIteration p v = false) →
    (G.call w.next.obj none h.world).value = .raised p → ∀ x h', (w.step G).run h = .ok (x, h') →
    ∃ r, x = (.failed r, { w with done := true }) ∧ ReportOf G p r
  toFloat : ∀ o : Handle, (G.toFloat o.obj h.world).value = .raised p →
    ((Scalar.decodeFloat G).decode o).FailsAt h (ReportOf G p)
  toInt : ∀ o : Handle, G.isFloat o.obj h.world = false →
    (G.toInt o.obj h.world).value = .raised p →
    ((Scalar.decodeInt G).decode o).FailsAt h (ReportOf G p)

theorem resolve_failsAt {name : String} (hname : '\x00' ∉ name.toList)
    (hf : (G.importModule name h.world).value = .raised p) :
    (ModuleHandle.resolve G name).FailsAt h fun f =>
      ∃ r, f = .moduleNotFound name r ∧ ReportOf G p r := by
  intro y h' hr
  have hchecked : (ModuleHandle.checkedName name : Attempt σ Failure String).run.run h =
      .ok (.ok name, h) := by
    unfold ModuleHandle.checkedName Handle.withoutNul Handle.cText
    rw [if_neg hname]
    rfl
  unfold ModuleHandle.resolve at hr
  rw [Attempt.run_bind_of_ok hchecked] at hr
  obtain ⟨z, h₁, hnew, hrest⟩ := Bridge.bind_ok hr
  obtain ⟨r, rfl, hreport⟩ := requestNew_failsAt hf z h₁ hnew
  obtain ⟨u, h₂, -, hlast⟩ := Bridge.bind_ok hrest
  obtain ⟨rfl, -⟩ := Bridge.pure_ok hlast
  exact ⟨_, rfl, r, rfl, hreport⟩

theorem invoke_failsAt {c : CallableHandle} {args : Option Handle}
    (hf : (G.call c.handle.obj (args.map (·.obj)) h.world).value = .raised p) :
    (c.invoke G args).FailsAt h fun f => ∃ r, f = .raised r ∧ ReportOf G p r := by
  intro y h' hr
  obtain ⟨z, h₁, hnew, hrest⟩ := Bridge.bind_ok hr
  obtain ⟨r, rfl, hreport⟩ := requestNew_failsAt hf z h₁ hnew
  obtain ⟨u, h₂, -, hlast⟩ := Bridge.bind_ok hrest
  obtain ⟨rfl, -⟩ := Bridge.pure_ok hlast
  exact ⟨_, rfl, r, rfl, hreport⟩

theorem step_failed {w : Walk} (hdone : w.done = false)
    (hstop : ∀ v, G.isStopIteration p v = false)
    (hf : (G.call w.next.obj none h.world).value = .raised p) {x : Walk.Step × Walk}
    (hr : (w.step G).run h = .ok (x, h')) :
    ∃ r, x = (.failed r, { w with done := true }) ∧ ReportOf G p r := by
  unfold Walk.step at hr
  rw [hdone, if_neg Bool.false_ne_true] at hr
  obtain ⟨o, h₁, hask, hrest⟩ := Bridge.bind_ok hr
  obtain ⟨rfl, hp⟩ := ask_ok_of_raised hf hask
  have hgoes : (takeStop G).run h₁ = .ok (false, h₁) := by
    unfold takeStop Bridge.inspect
    rw [Bridge.run_get_bind, hp]
    dsimp only
    rw [bind_assoc, Bridge.run_get_bind, pure_bind, hstop]
    rfl
  dsimp only at hrest
  rw [Bridge.run_bind hgoes, if_neg Bool.false_ne_true] at hrest
  obtain ⟨r, h₂, hfetch, hlast⟩ := Bridge.bind_ok hrest
  obtain ⟨rfl, -⟩ := Bridge.pure_ok hlast
  exact ⟨r, rfl, fetch_ok hp hfetch⟩

theorem comesBack (G : Guest σ) (p : Pending) (h : Host σ) : ComesBack G p h where
  imported _ hname hf := resolve_failsAt hname hf
  called _ _ hf := invoke_failsAt hf
  measured _ _ hf := (request_failsAt hf).mapError.bind
  iterated _ hf := (requestNew_failsAt hf).bind
  stepped _ hdone hstop hf _ _ hr := step_failed hdone hstop hf hr
  toFloat _ hf := checked_failsAt hf
  toInt o hfloat hf := by
    intro y h' hr
    change (Bridge.inspect (G.isFloat o.obj) >>= _ : Bridge σ _).run h = _ at hr
    unfold Bridge.inspect at hr
    rw [bind_assoc, Bridge.run_get_bind, pure_bind, hfloat, if_neg Bool.false_ne_true] at hr
    exact checked_failsAt hf y h' hr

end Embedder
