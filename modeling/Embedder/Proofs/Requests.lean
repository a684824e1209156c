import Embedder.Proofs.Draining

/-!
# Requests

A request asks the guest for something that must be there. Where the guest raises, the exception is
taken at once, and its report is the error of the request; where it gives nothing, and no exception
either, a report is made up (`Host.requested`, `request_run`). Nothing is pending between two
requests, so one may follow the other as if each were an act of the guest (`Attempt.proceed`).
-/

namespace Embedder

variable {σ α β : Type} {G : Guest σ} {h k : Host σ}

theorem Bridge.run_bind_pure {x : Bridge σ α} {f : α → β} :
    (x >>= fun a => pure (f a)).run h = (x.run h).map fun y => (f y.1, y.2) := by
  rw [StateT.run_bind]
  cases x.run h with
  | error e => rfl
  | ok y => rfl

/-- What a handle is owned for happens with it, and then the handle ends. -/
theorem Handle.run_owning {x : Bridge σ α} {o : Obj} :
    (Handle.owning G ⟨o, .owned⟩ x).run h =
      (x.run h).map fun y => (y.1, (y.2.after (G.release o y.2.world)).hold (-1)) := by
  cases hx : x.run h with
  | error e => exact Exception.owning_exit hx
  | ok y =>
    obtain ⟨a, k⟩ := y
    rw [← Host.hold_zero (h := k)] at hx
    exact Handle.owning_run hx

/-! ## One attempt after another -/

namespace Attempt

variable {ε ε' γ : Type}

/-- More after an attempt that turned out so, unless it failed or ended the process. -/
def proceed (x : Except Exit (Except ε α × Host σ))
    (f : α → Host σ → Except Exit (Except ε β × Host σ)) : Except Exit (Except ε β × Host σ) :=
  match x with
  | .error e => .error e
  | .ok (.error c, k) => .ok (.error c, k)
  | .ok (.ok a, k) => f a k

/-- The same outcome with another error. -/
def failing (g : ε → ε') (x : Except Exit (Except ε α × Host σ)) :
    Except Exit (Except ε' α × Host σ) :=
  x.map fun y => (y.1.mapError g, y.2)

section Proceed

variable {x : Except Exit (Except ε α × Host σ)} {f : α → Host σ → Except Exit (Except ε β × Host σ)}

/-- What comes after an attempt matters only where the attempt leads. -/
theorem proceed_congr {f' : α → Host σ → Except Exit (Except ε β × Host σ)}
    (hf : ∀ a k, x = .ok (.ok a, k) → f a k = f' a k) : proceed x f = proceed x f' := by
  rcases x with e | ⟨c | a, k⟩
  · rfl
  · rfl
  · exact hf a k rfl

theorem proceed_assoc {g : β → Host σ → Except Exit (Except ε γ × Host σ)} :
    proceed (proceed x f) g = proceed x fun a k => proceed (f a k) g := by
  rcases x with e | ⟨c | a, k⟩ <;> rfl

/-- What holds wherever the first attempt leads, and then wherever the second one does. -/
theorem proceed_ends {P : Host σ → Prop} (hx : Ends x fun y => P y.2)
    (hf : ∀ a k, P k → Ends (f a k) fun y => P y.2) : Ends (proceed x f) fun y => P y.2 := by
  rcases x with e | ⟨c | a, k⟩
  · exact fun y hy => by cases hy
  · exact fun y hy => by cases hy; exact hx _ rfl
  · exact hf a k (hx _ rfl)

theorem failing_ok {g : ε → ε'} {a : α} (hr : failing g x = .ok (.ok a, k)) : x = .ok (.ok a, k) := by
  rcases x with e | ⟨c | a, k₁⟩
  · cases hr
  · cases hr
  · cases hr
    rfl

theorem failing_proceed {g : ε → ε'} :
    failing g (proceed x f) = proceed (failing g x) fun a k => failing g (f a k) := by
  rcases x with e | ⟨c | a, k⟩ <;> rfl

end Proceed

theorem run_bind {x : Attempt σ ε α} {f : α → Attempt σ ε β} :
    (x >>= f).run.run h = proceed (x.run.run h) fun a k => (f a).run.run k := by
  show (x.run >>= _).run h = _
  rw [StateT.run_bind]
  rcases x.run.run h with e | ⟨c | a, k⟩ <;> rfl

theorem run_mapError {x : Attempt σ ε α} {g : ε → ε'} :
    (x.mapError g).run.run h = failing g (x.run.run h) := by
  show (x.run >>= _).run h = _
  rw [StateT.run_bind]
  rcases x.run.run h with e | ⟨c | a, k⟩ <;> rfl

end Attempt

/-! ## Requests -/

/-- How a request turns out. -/
def Host.requested (G : Guest σ) (context : String) (f : σ → Outcome σ α) (h : Host σ) :
    Except Exit (Except ExceptionReport α × Host σ) :=
  let k := h.after (f h.world)
  match (f h.world).value with
  | .value a => .ok (.ok a, k)
  | .raised p => (k.taken G p).map fun x => (.error x.1, x.2)
  | .failed => .ok (.error (ExceptionReport.missing context), k)

namespace Exception

variable {context : String} {f : σ → Outcome σ α}

theorem fetch_run_of_some {p : Pending} (hp : h.pending = some p) :
    (fetch G context).run h = (h.pend none).taken G p := by
  rw [fetch_run, drain_run hp]
  cases (h.pend none).taken G p with
  | error e => rfl
  | ok x => rfl

theorem fetch_run_of_none (hp : h.pending = none) :
    (fetch G context).run h = .ok (ExceptionReport.missing context, h) := by
  rw [fetch_run, drain_run_of_none hp]
  rfl

theorem takeStop_run_of_none (hp : h.pending = none) : (takeStop G).run h = .ok (true, h) := by
  unfold takeStop
  rw [Bridge.run_get_bind, hp]
  rfl

theorem takeStop_run_of_some {p : Pending} (hp : h.pending = some p) :
    (takeStop G).run h =
      if G.isStopIteration p h.world then
        .ok (true, (h.pend none).after (G.releaseAll p.refs.reverse h.world))
      else .ok (false, h) := by
  have hlook : (Bridge.inspect (G.isStopIteration p)).run h =
      .ok (G.isStopIteration p h.world, h) := rfl
  unfold takeStop
  rw [Bridge.run_get_bind, hp]
  dsimp only
  rw [Bridge.run_bind hlook]
  cases G.isStopIteration p h.world with
  | false => rfl
  | true =>
    rw [if_pos rfl, if_pos rfl, Bridge.run_bind (clear_run _), hp]
    rfl

theorem request_run (hp : h.pending = none) :
    (request G context f).run.run h = h.requested G context f := by
  have hafter : (h.after (f h.world)).pending = none := hp
  unfold request Host.requested
  refine (Bridge.run_bind (ask_run f hp)).trans ?_
  cases (f h.world).value with
  | value a => exact congrArg (fun k => Except.ok (Except.ok a, k)) (Host.pend_self hafter)
  | failed =>
    show (fetch G context >>= fun r => pure (Except.error r)).run ((h.after _).pend none) = _
    rw [Host.pend_self hafter, Bridge.run_bind_pure, fetch_run_of_none hafter]
    rfl
  | raised p =>
    show (fetch G context >>= fun r => pure (Except.error r)).run ((h.after _).pend (some p)) = _
    rw [Bridge.run_bind_pure, fetch_run_of_some rfl]
    show Except.map _ (((h.after (f h.world)).pend none).taken G p) = _
    rw [Host.pend_self hafter]

/-- A request that is granted comes to the call alone. -/
theorem requested_of_value {a : α} (gave : (f h.world).value = .value a) :
    h.requested G context f = .ok (.ok a, h.after (f h.world)) := by
  unfold Host.requested
  rw [gave]

/-- A new handle counts. -/
theorem requestNew_run {g : σ → Outcome σ Obj} (hp : h.pending = none) :
    (requestNew G context g).run.run h =
      Attempt.proceed (h.requested G context g) fun o k => .ok (.ok ⟨o, .owned⟩, k.hold 1) := by
  unfold requestNew
  rw [Attempt.run_bind, request_run hp]
  rfl

/-- An exception that is taken is not pending any more. -/
theorem taken_pending {p : Pending} {r : ExceptionReport} {h' : Host σ} (hp : h.pending = none)
    (hr : h.taken G p = .ok (r, h')) : h'.pending = none := by
  obtain ⟨-, hpending, -⟩ := drained_ok hr
  exact hpending.trans hp

/-- The ways in which a request comes back. -/
inductive Requested (G : Guest σ) (context : String) (f : σ → Outcome σ α) (h : Host σ) :
    Except ExceptionReport α → Host σ → Prop where
  | value {a : α} (gave : (f h.world).value = .value a) :
      Requested G context f h (.ok a) (h.after (f h.world))
  | failed (gave : (f h.world).value = .failed) :
      Requested G context f h (.error (ExceptionReport.missing context)) (h.after (f h.world))
  | raised {p : Pending} {r : ExceptionReport} {h' : Host σ} (gave : (f h.world).value = .raised p)
      (taken : (h.after (f h.world)).taken G p = .ok (r, h')) :
      Requested G context f h (.error r) h'

theorem requested_ok {r : Except ExceptionReport α} {h' : Host σ}
    (hr : h.requested G context f = .ok (r, h')) : Requested G context f h r h' := by
  unfold Host.requested at hr
  cases hv : (f h.world).value with
  | value a =>
    simp only [hv] at hr
    cases hr
    exact .value hv
  | failed =>
    simp only [hv] at hr
    cases hr
    exact .failed hv
  | raised p =>
    simp only [hv] at hr
    obtain ⟨⟨c, k⟩, htaken, heq⟩ := map_ok hr
    cases heq
    exact .raised hv htaken

/-- Nothing is pending after a request, whatever came of it. -/
theorem requested_pending {r : Except ExceptionReport α} {h' : Host σ} (hp : h.pending = none)
    (hr : h.requested G context f = .ok (r, h')) : h'.pending = none := by
  cases requested_ok hr with
  | raised _ taken => exact taken_pending (h := h.after (f h.world)) hp taken
  | _ => exact hp

/-- No handle is left over from taking an exception. -/
theorem taken_live {p : Pending} {r : ExceptionReport} {h' : Host σ}
    (hr : h.taken G p = .ok (r, h')) : h'.live = h.live :=
  (drained_ok hr).2.2.1

/-- A request has no handles of its own. -/
theorem requested_live {r : Except ExceptionReport α} {h' : Host σ}
    (hr : h.requested G context f = .ok (r, h')) : h'.live = h.live := by
  cases requested_ok hr with
  | raised _ taken => exact taken_live (h := h.after (f h.world)) taken
  | _ => rfl

/-- The number of handles has no part in how an exception is taken. -/
theorem drained_hold {q : Pending} {n : Int} :
    (h.hold n).drained G q = (h.drained G q).map fun x => (x.1, x.2.hold n) := by
  cases hv : (G.printed h.printing q (G.describe q h.world).lines.world).value with
  | none =>
    rw [Host.drained_of_returned hv, Host.drained_of_returned (h := h.hold n) hv]
    simp only [Description.after, Host.hold_after, Host.hold_note]
    rfl
  | some status =>
    rw [Host.drained_of_ended hv, Host.drained_of_ended (h := h.hold n) hv]
    rfl

theorem taken_hold {p : Pending} {n : Int} :
    (h.hold n).taken G p = (h.taken G p).map fun x => (x.1, x.2.hold n) :=
  drained_hold (h := h.after (G.normalize p h.world))

theorem requested_hold {n : Int} :
    (h.hold n).requested G context f = (h.requested G context f).map fun x => (x.1, x.2.hold n) := by
  unfold Host.requested
  show (match (f h.world).value with
    | .value a => Except.ok (Except.ok a, (h.after (f h.world)).hold n)
    | .raised p => (((h.after (f h.world)).hold n).taken G p).map _
    | .failed => Except.ok (Except.error _, (h.after (f h.world)).hold n)) = _
  cases (f h.world).value with
  | value a => rfl
  | failed => rfl
  | raised p =>
    dsimp only
    rw [taken_hold]
    cases (h.after (f h.world)).taken G p with
    | error e => rfl
    | ok x => rfl

end Exception

end Embedder
