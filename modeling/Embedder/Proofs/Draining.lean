import Embedder.Proofs.Findings
import Embedder.Proofs.Survival

/-!
# Taking an exception

What `drain` makes of a pending exception, for every guest and every host. The exception is
normalized; the name of its class, the text of its value and the lines of its traceback are read one
after the other; and the report is put together from what could be read (`Description.report`). Then
it is printed, if that is wanted, and let go (`drain_run`).

Each part is read for itself: of a class without a name, a value that has no text or a traceback
that cannot be formatted, only that part of the report is replaced by something plainer.
-/

namespace Embedder

variable {σ α β : Type}

/-! ## Descriptions -/

/-- What is read to describe an exception, each part after the one before it. -/
structure Description (σ : Type) where
  name : Effect σ (Option String)
  message : Effect σ (Option String)
  lines : Effect σ (Option String)

/-- Read something of an object, if there is one. -/
def Effect.reading? (f : Obj → σ → Effect σ (Option α)) : Option Obj → σ → Effect σ (Option α)
  | none => still none
  | some o => f o

/-- Describe a normalized exception. -/
def Guest.describe (G : Guest σ) (q : Pending) (w : σ) : Description σ :=
  let name := G.readName q.kind w
  let message := Effect.reading? G.readText q.value name.world
  ⟨name, message, Effect.reading? G.readLines q.trace message.world⟩

namespace Description

variable (d : Description σ)

/-- The report of a description. What could not be read is replaced by something plainer. -/
def report : ExceptionReport :=
  ⟨d.name.value.getD "Exception", d.message.value.getD "",
    d.lines.value.map ("Traceback (most recent call last):\n" ++ ·)⟩

/-- The host after the parts were read. -/
def after (h : Host σ) : Host σ := ((h.after d.name).after d.message).after d.lines

theorem after_pending (h : Host σ) : (d.after h).pending = h.pending := rfl

end Description

/-- A report of a normalized exception, field by field: what plain calls of the guest give for it, or
something plainer. Each field is read at the state that the reading before it left, whatever came of
that one. -/
structure Guest.Describes (G : Guest σ) (q : Pending) (w : σ) (r : ExceptionReport) : Prop where
  typeName : r.typeName = ((G.nameOf q.kind).run' w).getD "Exception"
  message : r.message =
    (q.value.bind fun v => (G.textOf v).run' (G.describe q w).name.world).getD ""
  traceback : r.traceback =
    (q.trace.bind fun t => (G.linesOf t).run' (G.describe q w).message.world).map
      ("Traceback (most recent call last):\n" ++ ·)

theorem Guest.describe_report (G : Guest σ) (q : Pending) (w : σ) :
    G.Describes q w (G.describe q w).report := by
  obtain ⟨kind, value, trace⟩ := q
  refine ⟨congrArg (Option.getD · "Exception") (Tells.readName kind w), ?_, ?_⟩
  · cases value with
    | none => rfl
    | some v => exact congrArg (Option.getD · "") (Tells.readText v _)
  · cases trace with
    | none => rfl
    | some t => exact congrArg (Option.map _) (Tells.readLines t _)

/-- The record of an exception that was taken. -/
def ExceptionReport.record (r : ExceptionReport) : Log.Record :=
  ⟨.debug, "drained Python exception", [.plain "exception" r.typeName, .bare r.message]⟩

/-- Print an exception if that is wanted. -/
def Guest.printed (G : Guest σ) (on : Bool) (q : Pending) (w : σ) : Effect σ (Option Nat) :=
  if on then G.print q (G.retainAll q.refs w) else .still none w

/-- How taking a normalized exception turns out: the report, unless printing ended the process. -/
def Host.drained (G : Guest σ) (q : Pending) (h : Host σ) : Except Exit (ExceptionReport × Host σ) :=
  let d := G.describe q h.world
  let printed := G.printed h.printing q d.lines.world
  match printed.value with
  | some status => .error ⟨status⟩
  | none =>
    .ok (d.report,
      (((d.after h).after printed).note d.report.record).after (G.releaseAll q.refs printed.world))

section Drained

variable {G : Guest σ} {q : Pending} {h : Host σ}

theorem Host.drained_of_returned
    (hv : (G.printed h.printing q (G.describe q h.world).lines.world).value = none) :
    h.drained G q = .ok ((G.describe q h.world).report,
      ((((G.describe q h.world).after h).after
        (G.printed h.printing q (G.describe q h.world).lines.world)).note
          (G.describe q h.world).report.record).after
            (G.releaseAll q.refs
              (G.printed h.printing q (G.describe q h.world).lines.world).world)) := by
  unfold drained
  dsimp only
  rw [hv]

theorem Host.drained_of_ended {status : Nat}
    (hv : (G.printed h.printing q (G.describe q h.world).lines.world).value = some status) :
    h.drained G q = .error ⟨status⟩ := by
  unfold drained
  dsimp only
  rw [hv]

end Drained

/-- How taking an exception turns out. -/
def Host.taken (G : Guest σ) (p : Pending) (h : Host σ) : Except Exit (ExceptionReport × Host σ) :=
  (h.after (G.normalize p h.world)).drained G (G.normalize p h.world).value

namespace Exception

variable {G : Guest σ} {h h₁ : Host σ} {p : Pending}

theorem messageOf_run (value : Option Obj) (hp : h.pending = none) :
    (messageOf G (value.map (⟨·, .owned⟩))).run h =
      .ok ((Effect.reading? G.readText value h.world).value,
        h.after (Effect.reading? G.readText value h.world)) := by
  cases value with
  | none => exact congrArg (fun k => Except.ok (none, k)) Host.after_still.symm
  | some v => exact silently_run (Finds.withNew fun o => Finds.contents _) hp

theorem tracebackOf_run (trace : Option Obj) (hp : h.pending = none) :
    (tracebackOf G (trace.map (⟨·, .owned⟩))).run h =
      .ok ((Effect.reading? G.readLines trace h.world).value.map
          ("Traceback (most recent call last):\n" ++ ·),
        h.after (Effect.reading? G.readLines trace h.world)) := by
  cases trace with
  | none => exact congrArg (fun k => Except.ok (none, k)) Host.after_still.symm
  | some t => exact Bridge.run_bind (silently_run (traceLines_finds _) hp)

theorem printIfWanted_run (q : Pending) (h : Host σ) :
    (printIfWanted G ⟨q.kind, .owned⟩ (q.value.map (⟨·, .owned⟩))
        (q.trace.map (⟨·, .owned⟩))).run h =
      match (G.printed h.printing q h.world).value with
      | some status => .error ⟨status⟩
      | none => .ok ((), h.after (G.printed h.printing q h.world)) := by
  have hobj : ∀ o : Option Obj, (o.map fun o => (⟨o, .owned⟩ : Handle)).map (·.obj) = o := by
    intro o
    cases o <;> rfl
  unfold printIfWanted Guest.printed
  rw [Bridge.run_get_bind]
  cases hon : h.printing with
  | false => exact congrArg (fun k => Except.ok ((), k)) Host.after_still.symm
  | true =>
    rw [if_pos rfl, if_pos rfl]
    unfold print
    rw [Bridge.run_bind (copyRef_run ..), Bridge.run_bind (copyRef?_run ..),
      Bridge.run_bind (copyRef?_run ..), Bridge.run_bind (Bridge.act_run _ _), hobj, hobj,
      Guest.retainAll_refs]
    generalize (G.print _ _) = e
    cases e.value with
    | none => rfl
    | some status => rfl

theorem ofNew?_run (o : Option Obj) (h : Host σ) :
    (ofNew? o : Bridge σ _).run h = .ok (o.map (⟨·, .owned⟩), h.hold o.toList.length) := by
  cases o with
  | none => exact congrArg (fun k => Except.ok (none, k)) Host.hold_zero.symm
  | some o => rfl

theorem owning?_run {x : Bridge σ α} {a : α} {n : Int} {o : Option Obj}
    (hx : x.run h = .ok (a, h₁.hold n)) :
    (owning? G (o.map (⟨·, .owned⟩)) x).run h =
      .ok (a, (h₁.after (G.releaseAll o.toList h₁.world)).hold (n - o.toList.length)) := by
  cases o with
  | none =>
    refine hx.trans (congrArg (fun k => Except.ok (a, k)) ?_)
    rw [Option.toList_none, Guest.releaseAll_nil, Host.after_still]
    exact congrArg h₁.hold (Int.sub_zero n).symm
  | some o =>
    rw [Option.toList_some, Guest.releaseAll_cons, Host.after_andThen, Guest.releaseAll_nil,
      Host.after_still]
    exact Handle.owning_run hx

theorem owning_exit {x : Bridge σ α} {o : Handle} {e : Exit} (hx : x.run h = .error e) :
    (o.owning G x).run h = .error e := by
  unfold Handle.owning
  rw [StateT.run_bind, hx]
  rfl

theorem owning?_exit {x : Bridge σ α} {o : Option Handle} {e : Exit} (hx : x.run h = .error e) :
    (owning? G o x).run h = .error e := by
  cases o with
  | none => exact hx
  | some o => exact owning_exit hx

theorem describe_run (q : Pending) (hp : h.pending = none) :
    let d := G.describe q h.world
    let printed := G.printed h.printing q d.lines.world
    (describe G ⟨q.kind, .owned⟩ (q.value.map (⟨·, .owned⟩)) (q.trace.map (⟨·, .owned⟩))).run h =
      match printed.value with
      | some status => .error ⟨status⟩
      | none => .ok (d.report, ((d.after h).after printed).note d.report.record) := by
  intro d printed
  have hname : (silently G (textAttr G ⟨q.kind, .owned⟩ "__name__")).run h =
      .ok (d.name.value, h.after d.name) :=
    silently_run (Finds.withNew fun o => Finds.contents (G := G) ⟨o, .owned⟩) hp
  have hmessage : (messageOf G (q.value.map (⟨·, .owned⟩))).run (h.after d.name) =
      .ok (d.message.value, (h.after d.name).after d.message) :=
    messageOf_run q.value hp
  have hlines : (tracebackOf G (q.trace.map (⟨·, .owned⟩))).run ((h.after d.name).after d.message) =
      .ok (d.report.traceback, d.after h) :=
    tracebackOf_run q.trace hp
  have hprint : (printIfWanted G ⟨q.kind, .owned⟩ (q.value.map (⟨·, .owned⟩))
        (q.trace.map (⟨·, .owned⟩))).run (d.after h) =
      match printed.value with
      | some status => .error ⟨status⟩
      | none => .ok ((), (d.after h).after printed) :=
    printIfWanted_run q (d.after h)
  unfold describe
  rw [Bridge.run_bind hname, Bridge.run_bind hmessage, Bridge.run_bind hlines]
  cases hended : printed.value with
  | some status =>
    rw [hended] at hprint
    show (printIfWanted G _ _ _ >>= _).run _ = _
    rw [StateT.run_bind, hprint]
    rfl
  | none =>
    rw [hended] at hprint
    have hclear : (clear G).run ((d.after h).after printed) = .ok ((), (d.after h).after printed) :=
      clear_run_of_none (by rw [Host.after_pending, d.after_pending, hp])
    show (printIfWanted G _ _ _ >>= _).run _ = _
    rw [Bridge.run_bind hprint, Bridge.run_bind hclear]
    rfl

/-- The handles that are made on an exception end with its description. -/
theorem describe_owned (q : Pending) (h : Host σ) (hp : h.pending = none) :
    (do
      let kind ← Handle.ofNew q.kind
      let value ← ofNew? q.value
      let trace ← ofNew? q.trace
      kind.owning G (owning? G value (owning? G trace (describe G kind value trace)))).run h =
      h.drained G q := by
  let d := G.describe q h.world
  let printed := G.printed h.printing q d.lines.world
  let noted := ((d.after h).after printed).note d.report.record
  have hkind : (Handle.ofNew q.kind).run h = .ok (⟨q.kind, .owned⟩, h.hold 1) := rfl
  rw [Bridge.run_bind hkind, Bridge.run_bind (ofNew?_run _ _), Bridge.run_bind (ofNew?_run _ _)]
  simp only [Host.hold_hold]
  have hnoted : ∀ n : Int, ((d.after (h.hold n)).after printed).note d.report.record =
      noted.hold n := by
    intro n
    simp only [noted, Description.after, Host.hold_after, Host.hold_note]
  have hdescribe : (describe G ⟨q.kind, .owned⟩ (q.value.map (⟨·, .owned⟩))
      (q.trace.map (⟨·, .owned⟩))).run
        (h.hold (1 + q.value.toList.length + q.trace.toList.length)) =
      match printed.value with
      | some status => .error ⟨status⟩
      | none => .ok (d.report, noted.hold (1 + q.value.toList.length + q.trace.toList.length)) := by
    rw [← hnoted]
    exact describe_run q hp
  cases hended : printed.value with
  | some status =>
    rw [hended] at hdescribe
    rw [Host.drained_of_ended hended]
    exact owning_exit (owning?_exit (owning?_exit hdescribe))
  | none =>
    rw [hended] at hdescribe
    rw [Host.drained_of_returned hended]
    -- as many handles end as were made
    have hcount : (1 : Int) + q.value.toList.length + q.trace.toList.length -
        q.trace.toList.length - q.value.toList.length - 1 = 0 := by omega
    refine (Handle.owning_run (owning?_run (owning?_run hdescribe))).trans ?_
    rw [hcount, Host.hold_zero, Pending.refs, Guest.releaseAll_cons, Host.after_andThen,
      Guest.releaseAll_append, Host.after_andThen]
    rfl

/-- A pending exception is normalized, described and let go. -/
theorem drain_run (hp : h.pending = some p) :
    (drain G).run h = ((h.pend none).taken G p).map fun x => (some x.1, x.2) := by
  have howned := describe_owned (G := G) (G.normalize p h.world).value
    ((h.pend none).after (G.normalize p h.world)) rfl
  have htaken : (h.pend none).taken G p = _ := howned.symm
  rw [htaken]
  unfold drain
  rw [Bridge.run_get_bind, hp]
  dsimp only
  rw [Bridge.run_modify_bind]
  have hnormal : (Bridge.act (G.normalize p)).run (h.pend none) =
      .ok ((G.normalize p h.world).value, (h.pend none).after (G.normalize p h.world)) :=
    Bridge.act_run _ _
  show (Bridge.act (G.normalize p) >>= _).run (h.pend none) = _
  rw [Bridge.run_bind hnormal]
  -- the answer is wrapped when the handles have ended
  refine Eq.trans ?_ (StateT.run_map some _ _)
  simp only [map_bind, bind_pure_comp]

/-! ## The laws of draining -/

theorem drain_run_of_none (hp : h.pending = none) : (drain G).run h = .ok (none, h) := by
  unfold drain
  rw [Bridge.run_get_bind, hp]
  rfl

/-- How many exceptions were taken so far. -/
def drains (h : Host σ) : Nat := h.log.countP fun r => r.message = "drained Python exception"

theorem drains_after (h : Host σ) (e : Effect σ α) : drains (h.after e) = drains h := by
  have hreports : ∀ ns : List Notice, (ns.map Notice.report).countP (fun r : Log.Record =>
      r.message = "drained Python exception") = 0 := by
    intro ns
    rw [List.countP_map, List.countP_eq_zero]
    intro n _
    cases n <;> simp [Notice.report]
  show (h.log ++ e.notices.map Notice.report).countP _ = _
  rw [List.countP_append, hreports]
  rfl

theorem drains_note (h : Host σ) (r : ExceptionReport) : drains (h.note r.record) = drains h + 1 := by
  show (h.log ++ [r.record]).countP _ = _
  rw [List.countP_append]
  rfl

/-- A normalized exception that was taken is not pending, no handle is left of it, and no other one
was taken with it. -/
theorem drained_ok {q : Pending} {r : ExceptionReport} {h' : Host σ}
    (hr : h.drained G q = .ok (r, h')) :
    r = (G.describe q h.world).report ∧ h'.pending = h.pending ∧ h'.live = h.live ∧
      drains h' = drains h + 1 := by
  cases hv : (G.printed h.printing q (G.describe q h.world).lines.world).value with
  | some status =>
    rw [Host.drained_of_ended hv] at hr
    cases hr
  | none =>
    rw [Host.drained_of_returned hv] at hr
    cases hr
    simp [Description.after, drains_after, drains_note]

theorem drained_exit {q : Pending} {e : Exit} (hr : h.drained G q = .error e) :
    h.printing = true ∧ ∃ w, (G.print q w).value = some e.status := by
  cases hv : (G.printed h.printing q (G.describe q h.world).lines.world).value with
  | none =>
    rw [Host.drained_of_returned hv] at hr
    simp only [reduceCtorEq] at hr
  | some status =>
    rw [Host.drained_of_ended hv] at hr
    cases hr
    unfold Guest.printed at hv
    split at hv
    next hon => exact ⟨hon, _, hv⟩
    next => cases hv

theorem map_ok {ε : Type} {x : Except ε α} {f : α → β} {b : β} (hr : x.map f = .ok b) :
    ∃ a, x = .ok a ∧ f a = b := by
  cases x with
  | error e => cases hr
  | ok a =>
    cases hr
    exact ⟨a, rfl, rfl⟩

theorem drain_returned {x : Option ExceptionReport × Host σ} (hp : h.pending = some p)
    (hr : (drain G).run h = .ok x) :
    ∃ r, (h.pend none).taken G p = .ok (r, x.2) ∧ x.1 = some r := by
  rw [drain_run hp] at hr
  obtain ⟨⟨r, h'⟩, htaken, rfl⟩ := map_ok hr
  exact ⟨r, htaken, rfl⟩

theorem drain_ended {e : Exit} (hp : h.pending = some p) (hr : (drain G).run h = .error e) :
    (h.pend none).taken G p = .error e := by
  rw [drain_run hp] at hr
  generalize Host.taken G _ _ = outcome at hr ⊢
  cases outcome with
  | error e' =>
    cases hr
    rfl
  | ok y => cases hr

theorem fetch_run (context : String) :
    (fetch G context).run h = ((drain G).run h).map fun x =>
      (x.1.getD (ExceptionReport.missing context), x.2) := by
  unfold fetch
  rw [StateT.run_bind]
  cases (drain G).run h with
  | error e => rfl
  | ok x =>
    obtain ⟨r, k⟩ := x
    cases r with
    | none => rfl
    | some r => rfl

/-- **Taking an exception.** Nothing is taken, and nothing changes, just when nothing is pending.
What is pending is normalized, and described by what can be read of it: then one exception was
taken. In either case nothing is pending afterwards, and as many handles are alive as before. A
drain returns unless it printed the exception and this ended the process. A fetch is a drain that
makes up for an exception that is not there. -/
theorem drain_laws (G : Guest σ) (h : Host σ) :
    ((drain G).run h = .ok (none, h) ↔ h.pending = none) ∧
    (∀ p, h.pending = some p →
      let normal := G.normalize p h.world
      (drain G).run h = ((h.pend none).taken G p).map (fun x => (some x.1, x.2)) ∧
      (Ends ((drain G).run h) fun x =>
        (∃ r, x.1 = some r ∧ G.Describes normal.value normal.world r) ∧
        drains x.2 = drains h + 1) ∧
      ∀ e, (drain G).run h = .error e →
        h.printing = true ∧ ∃ w, (G.print normal.value w).value = some e.status) ∧
    (Ends ((drain G).run h) fun x => x.2.pending = none ∧ x.2.live = h.live) ∧
    (∀ context, (fetch G context).run h = ((drain G).run h).map fun x =>
      (x.1.getD ⟨"SystemError", context ++ " failed without setting an exception", none⟩, x.2)) := by
  cases hp : h.pending with
  | none =>
    have hrun := drain_run_of_none (G := G) hp
    refine ⟨by simp [hrun], fun p hsome => (by cases hsome), ?_, fun context => fetch_run context⟩
    intro x hx
    rw [hrun] at hx
    cases hx
    exact ⟨hp, rfl⟩
  | some p =>
    refine ⟨?_, fun p' hsome => ?_, ?_, fun context => fetch_run context⟩
    · -- what is taken is a report, so the answer is never that there is nothing
      refine ⟨fun hnone => ?_, fun hnone => by cases hnone⟩
      obtain ⟨r, hr, -⟩ := drain_ok hp hnone
      cases hr
    · cases hsome
      refine ⟨drain_run hp, fun x hx => ?_, fun e he => ?_⟩
      · obtain ⟨r, htaken, hr⟩ := drain_returned hp hx
        obtain ⟨rfl, -, -, hdrains⟩ := drained_ok htaken
        refine ⟨⟨_, hr, G.describe_report _ _⟩, hdrains.trans ?_⟩
        rw [drains_after]
        rfl
      · obtain ⟨hon, w, hw⟩ := drained_exit (drain_ended hp he)
        exact ⟨hon, w, hw⟩
    · intro x hx
      obtain ⟨r, htaken, -⟩ := drain_returned hp hx
      obtain ⟨-, hpending, hlive, -⟩ := drained_ok htaken
      exact ⟨hpending, hlive⟩

/-- A host of an interpreter that is up, with an exception that is pending. -/
def raisedHost (printing : Bool) : Host Bool :=
  { Host.fresh true with printing := printing, pending := some ⟨willingObj, some willingObj, none⟩ }

/-- An exception whose printing ends the process is taken while printing is off, and while it is on
its drain never returns: there is no report, and no state in which nothing is pending. -/
theorem drain_ends_process :
    ((drain Process.leaving).run (raisedHost false)).toOption.map (fun x => (x.1, x.2.pending)) =
      some (some ⟨"", "", none⟩, none) ∧
    (drain Process.leaving).run (raisedHost true) = .error ⟨3⟩ := by
  refine ⟨by decide +kernel, ?_⟩
  rw [drain_run rfl]
  rfl

end Exception

end Embedder
