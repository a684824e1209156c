import Embedder.Proofs.Conduct.Exception

/-!
# Traits: properties of programs that compose

Some properties of a program are properties of its steps: that it never ends the process, that it
turns out alike in two runs. Such a property (`Trait`) holds of what gives a value at once, and of
one program after another if it holds of both (`Composes`). One that also holds of the primitive
steps of the bridge (`Steady`, `Lawful`) holds of every program made of them.

As with conducts, each function of the bridge is looked at once, for all traits. What a program
reads off its host is a step as well: it may go by what related hosts agree in (`Reads`).
-/

namespace Embedder

variable {σ α β ε ε' : Type}

/-- A property of programs. -/
abbrev Trait (σ : Type) := (α : Type) → Bridge σ α → Prop

/-- The program has the property. -/
def Bridge.Has (P : Trait σ) (x : Bridge σ α) : Prop := P α x

/-- The same for an attempt. -/
def Attempt.Has (P : Trait σ) (x : Attempt σ ε α) : Prop := Bridge.Has P x.run

/-- A property that holds of programs made of programs that have it. -/
class Trait.Composes (P : Trait σ) : Prop where
  pure : ∀ {α : Type} (a : α), (pure a : Bridge σ α).Has P
  bind : ∀ {α β : Type} {x : Bridge σ α} {f : α → Bridge σ β}, x.Has P → (∀ a, (f a).Has P) →
    (x >>= f).Has P

/-- A program that goes by what hosts related by `r` agree in has the property if it has it whatever
it finds. -/
def Trait.Reads (P : Trait σ) (r : Host σ → Host σ → Prop) : Prop :=
  ∀ {α : Type} {f : Host σ → Bridge σ α}, (∀ h k, r h k → f h = f k) → (∀ h, (f h).Has P) →
    (get >>= f).Has P

/-- Who may go by little may go by more. -/
theorem Trait.Reads.mono {P : Trait σ} {r s : Host σ → Host σ → Prop} (hr : P.Reads r)
    (hrs : ∀ h k, r h k → s h k) : P.Reads s :=
  fun hf hp => hr (fun h k hk => hf h k (hrs h k hk)) hp

variable {G : Guest σ} {P : Trait σ} [P.Composes]

namespace Bridge.Has

variable {x : Bridge σ α} {f : α → Bridge σ β}

theorem pure (a : α) : (pure a : Bridge σ α).Has P := Trait.Composes.pure a

theorem bind (hx : x.Has P) (hf : ∀ a, (f a).Has P) : (x >>= f).Has P := Trait.Composes.bind hx hf

end Bridge.Has

namespace Attempt.Has

variable {x : Attempt σ ε α} {f : α → Attempt σ ε β}

theorem pure (a : α) : (pure a : Attempt σ ε α).Has P := Bridge.Has.pure (Except.ok a)

theorem throw (e : ε) : (throw e : Attempt σ ε α).Has P := Bridge.Has.pure (Except.error e)

theorem bind (hx : x.Has P) (hf : ∀ a, (f a).Has P) : (x >>= f).Has P := by
  refine Bridge.Has.bind hx fun r => ?_
  cases r with
  | ok a => exact hf a
  | error e => exact Bridge.Has.pure (Except.error e)

theorem lift {y : Bridge σ α} (hy : y.Has P) :
    Attempt.Has P (ExceptT.lift y : Attempt σ ε α) := by
  show Bridge.Has P (Except.ok <$> y)
  rw [map_eq_pure_bind]
  exact hy.bind fun a => Bridge.Has.pure (Except.ok a)

theorem mapError {g : ε → ε'} (hx : x.Has P) : (x.mapError g).Has P := by
  refine Bridge.Has.bind hx fun r => ?_
  cases r with
  | ok a => exact Bridge.Has.pure (Except.ok a)
  | error e => exact Bridge.Has.pure (Except.error (g e))

omit [P.Composes] in
/-- An attempt that goes by its host. -/
theorem get {r : Host σ → Host σ → Prop} {f : Host σ → Attempt σ ε α} (hr : P.Reads r)
    (hf : ∀ h k, r h k → f h = f k) (hp : ∀ h, (f h).Has P) : (get >>= f).Has P :=
  hr (f := fun h => (f h).run) (fun h k hk => congrArg ExceptT.run (hf h k hk)) hp

end Attempt.Has

/-! ## Traits of the steps of the bridge -/

/-- What the bridge looks up in a guest without letting it act. -/
inductive Guest.Look (G : Guest σ) : {α : Type} → (σ → α) → Prop where
  | lookup (space : Obj) (name : String) : G.Look (G.lookup space name)
  | isCallable (o : Obj) : G.Look (G.isCallable o)
  | isFloat (o : Obj) : G.Look (G.isFloat o)
  | searchPath : G.Look G.searchPath
  | isStopIteration (p : Pending) : G.Look (G.isStopIteration p)

/-- A trait of the primitive steps of the bridge. -/
structure Trait.Steady (G : Guest σ) (P : Trait σ) : Prop where
  pending : P.Reads fun h k => h.pending = k.pending
  look : P.Reads fun h k => ∀ {α : Type} {f : σ → α}, G.Look f → f h.world = f k.world
  count : ∀ n, (Handle.count n : Bridge σ Unit).Has P
  record : ∀ r, (Bridge.record r : Bridge σ Unit).Has P
  leave : ∀ p, (modify fun h => { h with pending := p } : Bridge σ Unit).Has P
  retain : ∀ o, (Bridge.alter (G.retain o)).Has P
  act : ∀ {α : Type} {f : σ → Effect σ α}, G.Act f → (Bridge.act f).Has P

/-- A trait that also printing has, if it is wanted. -/
structure Trait.Lawful (G : Guest σ) (P : Trait σ) : Prop extends P.Steady G where
  printIfWanted : ∀ kind value trace, (Exception.printIfWanted G kind value trace).Has P

theorem Bridge.inspect_has (hP : P.Steady G) {f : σ → α} (hf : G.Look f) :
    (Bridge.inspect f).Has P :=
  hP.look (fun h k hs => by rw [hs hf]) fun h => Bridge.Has.pure _

namespace Handle

theorem ofNew_has (hP : P.Steady G) (o : Obj) : (ofNew o : Bridge σ Handle).Has P := by
  unfold ofNew
  exact (hP.count 1).bind fun _ => Bridge.Has.pure _

theorem ofShared_has (hP : P.Steady G) (o : Obj) : (ofShared G o).Has P := by
  unfold ofShared
  exact (hP.retain o).bind fun _ => ofNew_has hP o

theorem clone_has (hP : P.Steady G) (h : Handle) : (h.clone G).Has P := ofShared_has hP h.obj

theorem promote_has (hP : P.Steady G) (h : Handle) : (h.promote G).Has P := by
  unfold promote
  split
  next => exact Bridge.Has.pure h
  next => exact ofShared_has hP h.obj

theorem steal_has (hP : P.Steady G) (h : Handle) : (h.steal G).Has P := by
  unfold steal
  refine (promote_has hP h).bind fun owned => ?_
  exact (hP.count (-1)).bind fun _ => Bridge.Has.pure _

theorem drop_has (hP : P.Steady G) (h : Handle) : (h.drop G).Has P := by
  unfold drop
  split
  next => exact (hP.act (.release h.obj)).bind fun _ => hP.count (-1)
  next => exact Bridge.Has.pure ()

theorem owning_has (hP : P.Steady G) (h : Handle) {body : Bridge σ α} (hbody : body.Has P) :
    (h.owning G body).Has P := by
  unfold owning
  exact hbody.bind fun r => (drop_has hP h).bind fun _ => Bridge.Has.pure r

theorem within_has (hP : P.Steady G) (h : Handle) {body : Attempt σ ε α} (hbody : body.Has P) :
    (h.within G body).Has P :=
  owning_has hP h hbody

end Handle

/-! ## Taking exceptions -/

namespace Exception

variable {context : String}

theorem release?_has (hP : P.Steady G) (o : Option Obj) : (release? G o).Has P := by
  cases o with
  | none => exact Bridge.Has.pure ()
  | some o => exact hP.act (.release o)

theorem releasePending_has (hP : P.Steady G) (p : Pending) : (releasePending G p).Has P := by
  unfold releasePending
  refine (hP.act (.release p.kind)).bind fun _ => ?_
  exact (release?_has hP p.value).bind fun _ => release?_has hP p.trace

theorem clear_has (hP : P.Steady G) : (clear G).Has P := by
  refine hP.pending (fun h k hs => by rw [hs]) fun h => ?_
  cases h.pending with
  | none => exact Bridge.Has.pure ()
  | some p => exact (hP.leave none).bind fun _ => releasePending_has hP p

theorem raise_has (hP : P.Steady G) (p : Pending) : (raise G p).Has P := by
  unfold raise
  exact (clear_has hP).bind fun _ => hP.leave (some p)

theorem ask_has (hP : P.Steady G) {f : σ → Outcome σ α} (hf : G.Act f) : (ask G f).Has P := by
  unfold ask
  refine (hP.act hf).bind fun reply => ?_
  cases reply with
  | value a => exact Bridge.Has.pure (some a)
  | raised p => exact (raise_has hP p).bind fun _ => Bridge.Has.pure none
  | failed => exact Bridge.Has.pure none

theorem isPending_has (hP : P.Steady G) : (isPending : Bridge σ Bool).Has P := by
  exact hP.pending (fun h k hs => by rw [hs]) fun h => Bridge.Has.pure _

theorem silently_has (hP : P.Steady G) {f : Bridge σ α} (hf : f.Has P) : (silently G f).Has P := by
  unfold silently
  exact hf.bind fun r => (clear_has hP).bind fun _ => Bridge.Has.pure r

theorem withNew_has (hP : P.Steady G) {f : σ → Outcome σ Obj} (hf : G.Act f)
    {body : Handle → Bridge σ (Option α)} (hbody : ∀ h, (body h).Has P) :
    (withNew G f body).Has P := by
  unfold withNew
  refine (ask_has hP hf).bind fun r => ?_
  cases r with
  | none => exact Bridge.Has.pure none
  | some o => exact (Handle.ofNew_has hP o).bind fun h => Handle.owning_has hP h (hbody h)

theorem contents_has (hP : P.Steady G) (h : Handle) : (contents G h).Has P :=
  ask_has hP (.text h.obj)

theorem textOf_has (hP : P.Steady G) (h : Handle) : (textOf G h).Has P :=
  withNew_has hP (.str h.obj) (contents_has hP)

theorem textAttr_has (hP : P.Steady G) (h : Handle) (name : String) :
    (textAttr G h name).Has P :=
  withNew_has hP (.getAttr h.obj name) (contents_has hP)

theorem traceLines_has (hP : P.Steady G) (trace : Handle) : (traceLines G trace).Has P := by
  unfold traceLines
  refine withNew_has hP (.importModule "traceback") fun moduleHandle => ?_
  refine withNew_has hP (.getAttr moduleHandle.obj "format_tb") fun format => ?_
  refine withNew_has hP (.newTuple 1) fun args => ?_
  refine (Handle.clone_has hP trace).bind fun copy => ?_
  refine (Handle.steal_has hP copy).bind fun o => ?_
  refine (ask_has hP (.setTupleItem args.obj 0 o)).bind fun placed => ?_
  cases placed with
  | none => exact Bridge.Has.pure none
  | some u =>
    refine withNew_has hP (.call format.obj (some args.obj)) fun lines => ?_
    refine withNew_has hP (.newText "") fun separator => ?_
    exact withNew_has hP (.joinTexts separator.obj lines.obj) (contents_has hP)

theorem formatTrace_has (hP : P.Steady G) (trace : Handle) : (formatTrace G trace).Has P := by
  unfold formatTrace
  exact (silently_has hP (traceLines_has hP trace)).bind fun _ => Bridge.Has.pure _

theorem copyRef_has (hP : P.Steady G) (h : Handle) : (copyRef G h).Has P := by
  unfold copyRef
  exact (Handle.clone_has hP h).bind fun copy => Handle.steal_has hP copy

theorem copyRef?_has (hP : P.Steady G) (h : Option Handle) : (copyRef? G h).Has P := by
  cases h with
  | none => exact Bridge.Has.pure none
  | some h => exact (copyRef_has hP h).bind fun o => Bridge.Has.pure (some o)

theorem ofNew?_has (hP : P.Steady G) (o : Option Obj) :
    (ofNew? o : Bridge σ (Option Handle)).Has P := by
  cases o with
  | none => exact Bridge.Has.pure none
  | some o => exact (Handle.ofNew_has hP o).bind fun h => Bridge.Has.pure (some h)

theorem owning?_has (hP : P.Steady G) (h : Option Handle) {body : Bridge σ α}
    (hbody : body.Has P) : (owning? G h body).Has P := by
  cases h with
  | none => exact hbody
  | some h => exact Handle.owning_has hP h hbody

theorem messageOf_has (hP : P.Steady G) (value : Option Handle) :
    (messageOf G value).Has P := by
  cases value with
  | none => exact Bridge.Has.pure none
  | some v => exact silently_has hP (textOf_has hP v)

theorem tracebackOf_has (hP : P.Steady G) (trace : Option Handle) :
    (tracebackOf G trace).Has P := by
  cases trace with
  | none => exact Bridge.Has.pure none
  | some t => exact formatTrace_has hP t

theorem describe_has (hP : P.Lawful G) (kind : Handle) (value trace : Option Handle) :
    (describe G kind value trace).Has P := by
  have hsteady := hP.toSteady
  unfold describe
  refine (silently_has hsteady (textAttr_has hsteady kind "__name__")).bind fun name => ?_
  refine (messageOf_has hsteady value).bind fun message => ?_
  refine (tracebackOf_has hsteady trace).bind fun traceback => ?_
  refine (hP.printIfWanted kind value trace).bind fun _ => ?_
  refine (clear_has hsteady).bind fun _ => ?_
  exact (hsteady.record _).bind fun _ => Bridge.Has.pure _

theorem drain_has (hP : P.Lawful G) : (drain G).Has P := by
  have hsteady := hP.toSteady
  refine hP.pending (fun h k hs => by rw [hs]) fun h => ?_
  cases h.pending with
  | none => exact Bridge.Has.pure none
  | some p =>
    refine (hsteady.leave none).bind fun _ => ?_
    refine (hP.act (.normalize p)).bind fun p => ?_
    refine (Handle.ofNew_has hsteady p.kind).bind fun kind => ?_
    refine (ofNew?_has hsteady p.value).bind fun value => ?_
    refine (ofNew?_has hsteady p.trace).bind fun trace => ?_
    have described := describe_has hP kind value trace
    have ended := Handle.owning_has hsteady kind
      (owning?_has hsteady value (owning?_has hsteady trace described))
    exact ended.bind fun report => Bridge.Has.pure (some report)

theorem fetch_has (hP : P.Lawful G) : (fetch G context).Has P := by
  unfold fetch
  refine (drain_has hP).bind fun r => ?_
  cases r with
  | none => exact Bridge.Has.pure _
  | some r => exact Bridge.Has.pure r

theorem takeStop_has (hP : P.Steady G) : (takeStop G).Has P := by
  refine hP.pending (fun h k hs => by rw [hs]) fun h => ?_
  cases h.pending with
  | none => exact Bridge.Has.pure true
  | some p =>
    refine (Bridge.inspect_has hP (.isStopIteration p)).bind fun stopped => ?_
    split
    next => exact (clear_has hP).bind fun _ => Bridge.Has.pure true
    next => exact Bridge.Has.pure false

theorem request_has (hP : P.Lawful G) {f : σ → Outcome σ α} (hf : G.Act f) :
    (request G context f).Has P := by
  refine Bridge.Has.bind (ask_has hP.toSteady hf) fun r => ?_
  cases r with
  | some a => exact Bridge.Has.pure _
  | none => exact (fetch_has hP).bind fun r => Bridge.Has.pure _

theorem requestNew_has (hP : P.Lawful G) {f : σ → Outcome σ Obj} (hf : G.Act f) :
    (requestNew G context f).Has P := by
  unfold requestNew
  exact (request_has hP hf).bind fun o => Attempt.Has.lift (Handle.ofNew_has hP.toSteady o)

theorem requestBorrowed_has (hP : P.Lawful G) {f : σ → Outcome σ Obj} (hf : G.Act f) :
    (requestBorrowed G context f).Has P := by
  unfold requestBorrowed
  exact (request_has hP hf).bind fun o => Attempt.Has.pure _

end Exception

end Embedder
