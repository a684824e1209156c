import Embedder.Proofs.Printing

/-!
# What helpers find

The helpers that read the parts of an exception are programs over a host: they own handles for a
while, and an exception that a call of theirs raises is pending until it is cleared. None of this is
seen from outside. A helper `Finds` what an act of the guest finds, which says nothing of handles or
of what is pending, and with the exception cleared it is one act of the guest (`silently_run`). What
is found is what the calls of the guest give, one after the other, up to the first that gives
nothing (`Tells`).
-/

namespace Embedder

variable {σ α β : Type}

/-! ## One effect after another -/

namespace Effect

/-- Nothing happens. -/
def still (a : α) (w : σ) : Effect σ α := ⟨a, w, []⟩

/-- An effect, and another one at the state that it leaves. -/
def andThen (e : Effect σ α) (f : α → σ → Effect σ β) : Effect σ β :=
  let d := f e.value e.world
  ⟨d.value, d.world, e.notices ++ d.notices⟩

/-- An effect, and another one after it of which nothing is kept. -/
def thenDo (e : Effect σ α) (f : σ → Effect σ Unit) : Effect σ α :=
  { e.andThen fun _ => f with value := e.value }

theorem andThen_still {e : Effect σ α} : e.andThen still = e := by
  simp only [andThen, still, List.append_nil]

theorem andThen_assoc {γ : Type} {e : Effect σ α} {f : α → σ → Effect σ β}
    {g : β → σ → Effect σ γ} :
    (e.andThen f).andThen g = e.andThen fun a w => (f a w).andThen g := by
  simp only [andThen, List.append_assoc]

end Effect

namespace Host

variable {h : Host σ}

theorem after_still {a : α} : h.after (Effect.still a h.world) = h := after_of_quiet rfl

theorem after_andThen {e : Effect σ α} {f : α → σ → Effect σ β} :
    h.after (e.andThen f) = (h.after e).after (f e.value e.world) := by
  simp [after, Effect.andThen, deferredIn, List.append_assoc]

theorem after_thenDo {e : Effect σ α} {f : σ → Effect σ Unit} :
    h.after (e.thenDo f) = (h.after e).after (f e.world) :=
  after_andThen (f := fun _ => f)

/-- The host with another pending exception. -/
def pend (h : Host σ) (p : Option Pending) : Host σ := { h with pending := p }

/-- The host with so many handles more. -/
def hold (h : Host σ) (n : Int) : Host σ := { h with live := h.live + n }

/-- The host with one record more. -/
def note (h : Host σ) (r : Log.Record) : Host σ := { h with log := h.log ++ [r] }

@[simp]
theorem after_pending (e : Effect σ α) : (h.after e).pending = h.pending := rfl

@[simp]
theorem after_live (e : Effect σ α) : (h.after e).live = h.live := rfl

@[simp]
theorem note_pending (r : Log.Record) : (h.note r).pending = h.pending := rfl

@[simp]
theorem note_live (r : Log.Record) : (h.note r).live = h.live := rfl

theorem pend_self {p : Option Pending} (hp : h.pending = p) : h.pend p = h := by
  subst hp
  rfl

theorem hold_hold {m n : Int} : (h.hold m).hold n = h.hold (m + n) := by
  unfold hold
  rw [Int.add_assoc]

theorem hold_zero : h.hold 0 = h := by
  unfold hold
  rw [Int.add_zero]

theorem hold_after {n : Int} (e : Effect σ α) : (h.hold n).after e = (h.after e).hold n := rfl

theorem hold_note {n : Int} (r : Log.Record) : (h.hold n).note r = (h.note r).hold n := rfl

end Host

/-! ## What helpers find -/

/-- The answer, if there is one. -/
def Reply.answer? : Reply α → Option α
  | .value a => some a
  | _ => none

/-- The exception that comes with the answer, if there is one. -/
def Reply.left? : Reply α → Option Pending
  | .raised p => some p
  | _ => none

/-- What a helper found, if it found something, and the exception that it leaves. -/
abbrev Finding (σ α : Type) := Effect σ (Option α × Option Pending)

/-- More with an answer; without one, its exception is left. -/
def Reply.follow (body : α → σ → Finding σ β) : Reply α → σ → Finding σ β
  | .value a => body a
  | r => Effect.still (none, r.left?)

namespace Guest

theorem releaseAll_nil (G : Guest σ) (w : σ) : G.releaseAll [] w = .still () w := rfl

theorem releaseAll_cons (G : Guest σ) (o : Obj) (os : List Obj) (w : σ) :
    G.releaseAll (o :: os) w = (G.releaseAll os w).andThen fun _ v => G.release o v := rfl

theorem releaseAll_append (G : Guest σ) (os ps : List Obj) (w : σ) :
    G.releaseAll (os ++ ps) w = (G.releaseAll ps w).andThen fun _ => G.releaseAll os := by
  induction os with
  | nil => exact Effect.andThen_still.symm
  | cons o os ih =>
    rw [List.cons_append, releaseAll_cons, ih, Effect.andThen_assoc]
    rfl

/-- A call, and more with its answer. -/
def follow (f : σ → Outcome σ α) (body : α → σ → Finding σ β) (w : σ) : Finding σ β :=
  (f w).andThen (Reply.follow body)

section Follow

variable {f : σ → Outcome σ α} {body : α → σ → Finding σ β} {w : σ}

theorem follow_of_answer {a : α} (hf : (f w).value = .value a) :
    follow f body w = (f w).andThen fun _ => body a := by
  unfold follow Effect.andThen
  rw [hf]
  rfl

theorem follow_of_none (hf : (f w).value.answer? = none) :
    follow f body w = ⟨(none, (f w).value.left?), (f w).world, (f w).notices⟩ := by
  unfold follow Effect.andThen
  cases hr : (f w).value with
  | value a =>
    rw [hr] at hf
    cases hf
  | _ => simp [Reply.follow, Effect.still]

end Follow

variable (G : Guest σ)

/-- A call that gives a reference, which is released after it was used. -/
def withRef (f : σ → Outcome σ Obj) (body : Obj → σ → Finding σ β) : σ → Finding σ β :=
  follow f fun o w => (body o w).thenDo (G.release o)

/-- What was found; the exception that was left is let go. -/
def settled (e : Finding σ α) : Effect σ (Option α) :=
  { e.thenDo (G.releaseAll (e.value.2.elim [] fun p => p.refs.reverse)) with value := e.value.1 }

/-- The contents of a text object. -/
def contents (o : Obj) : σ → Finding σ String := follow (G.text o) fun s => .still (some s, none)

/-- Read the name of a class. -/
def readName (kind : Obj) (w : σ) : Effect σ (Option String) :=
  G.settled (G.withRef (G.getAttr kind "__name__") G.contents w)

/-- Read the text of an object. -/
def readText (value : Obj) (w : σ) : Effect σ (Option String) :=
  G.settled (G.withRef (G.str value) G.contents w)

/-- Find the lines of a traceback. -/
def traceLines (trace : Obj) : σ → Finding σ String :=
  G.withRef (G.importModule "traceback") fun m =>
    G.withRef (G.getAttr m "format_tb") fun format =>
      G.withRef (G.newTuple 1) fun args w =>
        follow (G.setTupleItem args 0 trace) (fun _ =>
          G.withRef (G.call format (some args)) fun lines =>
            G.withRef (G.newText "") fun separator =>
              G.withRef (G.joinTexts separator lines) G.contents) (G.retain trace w)

/-- Read the lines of a traceback. -/
def readLines (trace : Obj) (w : σ) : Effect σ (Option String) := G.settled (G.traceLines trace w)

end Guest

/-! ### Programs that find what a helper finds -/

theorem Handle.drop_owned_run {G : Guest σ} (o : Obj) (h : Host σ) :
    (Handle.drop G ⟨o, .owned⟩).run h = .ok ((), (h.after (G.release o h.world)).hold (-1)) :=
  Bridge.run_bind (Bridge.act_run _ _)

/-- A handle that ends counts no more, and its reference is released. -/
theorem Handle.owning_run {G : Guest σ} {h h₁ : Host σ} {x : Bridge σ α} {a : α} {n : Int} {o : Obj}
    (hx : x.run h = .ok (a, h₁.hold n)) :
    (Handle.owning G ⟨o, .owned⟩ x).run h =
      .ok (a, (h₁.after (G.release o h₁.world)).hold (n - 1)) := by
  unfold Handle.owning
  rw [Bridge.run_bind hx, Bridge.run_bind (Handle.drop_owned_run _ _), Int.sub_eq_add_neg,
    ← Host.hold_hold]
  rfl

namespace Exception

variable {G : Guest σ} {h h₁ : Host σ}

theorem release?_run (o : Option Obj) (h : Host σ) :
    (release? G o).run h = .ok ((), h.after (G.releaseAll o.toList h.world)) := by
  cases o with
  | none => exact congrArg (fun k => Except.ok ((), k)) Host.after_still.symm
  | some o =>
    rw [Option.toList_some, Guest.releaseAll_cons, Host.after_andThen, Guest.releaseAll_nil,
      Host.after_still]
    exact Bridge.act_run _ _

theorem releasePending_run (p : Pending) (h : Host σ) :
    (releasePending G p).run h = .ok ((), h.after (G.releaseAll p.refs.reverse h.world)) := by
  have hrefs : p.refs.reverse = p.trace.toList ++ (p.value.toList ++ [p.kind]) := by
    obtain ⟨kind, value, trace⟩ := p
    cases value <;> cases trace <;> rfl
  unfold releasePending
  rw [Bridge.run_bind (Bridge.act_run _ _), Bridge.run_bind (release?_run _ _), release?_run, hrefs,
    Guest.releaseAll_append, Host.after_andThen, Guest.releaseAll_append, Host.after_andThen]
  rfl

theorem clear_run (h : Host σ) :
    (clear G).run h = .ok ((), (h.after
      (G.releaseAll (h.pending.elim [] fun p => p.refs.reverse) h.world)).pend none) := by
  unfold clear
  rw [Bridge.run_get_bind]
  cases hp : h.pending with
  | none =>
    exact congrArg (fun k => Except.ok ((), k))
      (by rw [Option.elim, Guest.releaseAll_nil, Host.after_still, Host.pend_self hp])
  | some p =>
    dsimp only
    rw [Bridge.run_modify_bind, releasePending_run]
    rfl

theorem clear_run_of_none (hp : h.pending = none) : (clear G).run h = .ok ((), h) := by
  unfold clear
  rw [Bridge.run_get_bind, hp]
  rfl

theorem ask_run (f : σ → Outcome σ α) (hp : h.pending = none) :
    (ask G f).run h = .ok ((f h.world).value.answer?,
      (h.after (f h.world)).pend (f h.world).value.left?) := by
  unfold ask
  rw [Bridge.run_bind (Bridge.act_run f h)]
  have hafter : (h.after (f h.world)).pending = none := hp
  cases (f h.world).value with
  | value a => exact congrArg (fun k => Except.ok (some a, k)) (Host.pend_self hafter).symm
  | failed => exact congrArg (fun k => Except.ok (none, k)) (Host.pend_self hafter).symm
  | raised p =>
    show (raise G p >>= fun _ => pure none).run _ = _
    unfold raise
    rw [bind_assoc, Bridge.run_bind (clear_run_of_none hafter)]
    rfl

/-- The program gives what was found and leaves what was left, and the rest of the host is as after
an act of the guest. -/
def Finds (x : Bridge σ (Option α)) (y : σ → Finding σ α) : Prop :=
  ∀ h : Host σ, h.pending = none →
    x.run h = .ok ((y h.world).value.1, (h.after (y h.world)).pend (y h.world).value.2)

namespace Finds

/-- An ask that gets no answer is the end of it. -/
theorem follow {f : σ → Outcome σ α} {rest : Option α → Bridge σ (Option β)}
    {found : α → σ → Finding σ β} (hnone : rest none = pure none)
    (hsome : ∀ a, Finds (rest (some a)) (found a)) :
    Finds (ask G f >>= rest) (Guest.follow f found) := by
  intro h hp
  have hafter : (h.after (f h.world)).pending = none := hp
  rw [Bridge.run_bind (ask_run f hp)]
  cases hf : (f h.world).value with
  | value a =>
    rw [Guest.follow_of_answer hf, Host.after_andThen]
    show (rest (some a)).run ((h.after (f h.world)).pend none) = _
    rw [Host.pend_self hafter]
    exact hsome a _ hafter
  | _ =>
    rw [Guest.follow_of_none (by rw [hf]; rfl), hf]
    show (rest none).run _ = _
    rw [hnone]
    rfl

theorem contents (o : Handle) : Finds (contents G o) (G.contents o.obj) := by
  have hlast : Exception.contents G o = ask G (G.text o.obj) >>= pure := (bind_pure _).symm
  rw [hlast]
  refine follow rfl fun s h hp => ?_
  show Except.ok (some s, h) =
    .ok (some s, (h.after (Effect.still (some s, (none : Option Pending)) h.world)).pend none)
  rw [Host.after_still, Host.pend_self hp]

/-- A handle that is owned for a while leaves nothing but the release of its reference. -/
theorem withNew {f : σ → Outcome σ Obj} {body : Handle → Bridge σ (Option α)}
    {found : Obj → σ → Finding σ α} (hbody : ∀ o, Finds (body ⟨o, .owned⟩) (found o)) :
    Finds (withNew G f body) (G.withRef f found) := by
  refine follow rfl fun o h hp => ?_
  have hused : (body ⟨o, .owned⟩).run (h.hold 1) = .ok ((found o h.world).value.1,
      ((h.after (found o h.world)).pend (found o h.world).value.2).hold 1) :=
    hbody o (h.hold 1) hp
  refine (Handle.owning_run hused).trans ?_
  rw [Int.sub_self, Host.hold_zero, Host.after_thenDo]
  rfl

end Finds

theorem silently_run {x : Bridge σ (Option α)} {y : σ → Finding σ α} (hx : Finds x y)
    (hp : h.pending = none) :
    (silently G x).run h = .ok ((G.settled (y h.world)).value, h.after (G.settled (y h.world))) := by
  have hsettled : h.after (G.settled (y h.world)) = (h.after (y h.world)).after
      (G.releaseAll ((y h.world).value.2.elim [] fun p => p.refs.reverse) (y h.world).world) :=
    Host.after_thenDo
  have hpend : (h.after (G.settled (y h.world))).pend none = h.after (G.settled (y h.world)) :=
    Host.pend_self hp
  unfold silently
  rw [Bridge.run_bind (hx h hp), Bridge.run_bind (clear_run _), ← hpend, hsettled]
  rfl

theorem traceLines_finds (t : Handle) : Finds (traceLines G t) (G.traceLines t.obj) := by
  refine Finds.withNew fun m => Finds.withNew fun format => Finds.withNew fun args => ?_
  -- the second reference to the traceback is made for the tuple, which takes it over
  intro h hp
  refine (congrArg (StateT.run · h) (bind_assoc (t.clone G) (Handle.steal G) _).symm).trans ?_
  rw [Bridge.run_bind (x := t.clone G >>= Handle.steal G) (copyRef_run G t h)]
  refine Finds.follow ?_ (fun _ => ?_) { h with world := G.retain t.obj h.world } hp
  · rfl
  · refine Finds.withNew fun lines => Finds.withNew fun separator => ?_
    exact Finds.withNew fun joined => Finds.contents _

end Exception

/-! ## What the findings tell -/

/-- A call that must answer. -/
def asking (f : σ → Outcome σ α) : StateT σ Option α :=
  fun w => (f w).value.answer?.map (·, (f w).world)

namespace Guest

variable (G : Guest σ)

/-- The name of a class: the contents of its attribute `__name__`. -/
def nameOf (kind : Obj) : StateT σ Option String := do
  let name ← asking (G.getAttr kind "__name__")
  asking (G.text name)

/-- The text of an object: the contents of what the interpreter gives as its text. -/
def textOf (value : Obj) : StateT σ Option String := do
  let told ← asking (G.str value)
  asking (G.text told)

/-- The lines of a traceback: what the function `format_tb` of the module `traceback` gives for it,
joined to one text. -/
def linesOf (trace : Obj) : StateT σ Option String := do
  let m ← asking (G.importModule "traceback")
  let format ← asking (G.getAttr m "format_tb")
  let args ← asking (G.newTuple 1)
  modify (G.retain trace)
  asking (G.setTupleItem args 0 trace)
  let lines ← asking (G.call format (some args))
  let separator ← asking (G.newText "")
  let joined ← asking (G.joinTexts separator lines)
  asking (G.text joined)

end Guest

/-- What is found is what the calls give, one after the other. -/
def Tells (y : σ → Finding σ α) (c : StateT σ Option α) : Prop :=
  ∀ w, (y w).value.1 = c.run' w

namespace Tells

variable {G : Guest σ}

theorem follow {f : σ → Outcome σ α} {body : α → σ → Finding σ β} {c : α → StateT σ Option β}
    (hbody : ∀ a, Tells (body a) (c a)) : Tells (Guest.follow f body) (asking f >>= c) := by
  intro w
  cases hf : (f w).value with
  | value a =>
    have hrun : (asking f >>= c).run' w = (c a).run' (f w).world := by
      simp [asking, StateT.run', bind, StateT.bind, hf, Reply.answer?]
    rw [Guest.follow_of_answer hf, hrun]
    exact hbody a _
  | _ =>
    have hrun : (asking f >>= c).run' w = none := by
      simp [asking, StateT.run', bind, StateT.bind, hf, Reply.answer?]
    rw [Guest.follow_of_none (by rw [hf]; rfl), hrun]

theorem contents (o : Obj) : Tells (G.contents o) (asking (G.text o)) := by
  have hlast : asking (G.text o) = asking (G.text o) >>= pure := (bind_pure _).symm
  rw [hlast]
  exact follow fun s w => rfl

theorem withRef {f : σ → Outcome σ Obj} {body : Obj → σ → Finding σ α} {c : Obj → StateT σ Option α}
    (hbody : ∀ o, Tells (body o) (c o)) : Tells (G.withRef f body) (asking f >>= c) :=
  follow fun o w => hbody o w

theorem traceLines (t : Obj) : Tells (G.traceLines t) (G.linesOf t) := by
  refine withRef fun m => withRef fun format => withRef fun args w => ?_
  change _ = (asking (G.setTupleItem args 0 t) >>= fun _ => _).run' (G.retain t w)
  refine follow (fun _ => ?_) (G.retain t w)
  exact withRef fun lines => withRef fun separator => withRef fun joined => contents joined

theorem readName (kind : Obj) (w : σ) : (G.readName kind w).value = (G.nameOf kind).run' w :=
  withRef contents w

theorem readText (value : Obj) (w : σ) : (G.readText value w).value = (G.textOf value).run' w :=
  withRef contents w

theorem readLines (t : Obj) (w : σ) : (G.readLines t w).value = (G.linesOf t).run' w :=
  traceLines t w

end Tells

end Embedder
