import Embedder.Exception
import Embedder.Proofs.Conduct

/-!
# Taking exceptions, under any conduct

Everything that the bridge lets a guest do inside a session is an `Act`. A conduct that admits acts
and does not mind what is pending (`Inert`) is kept by each program of the exception module, whose
handles balance: describing an exception, with its three parts and its Python code, leaves no handle
behind, and `request` leaves none on success or on failure.

References balance in the same way, if what the guest brings and takes with each call is weighed
(`Guest.Brings`) and what is pending is not (`Conduct.WeighsActs`).
-/

namespace Embedder

variable {σ α : Type} {G : Guest σ} {R : Conduct σ}

/-- What the bridge lets a guest do inside a session. -/
inductive Guest.Act (G : Guest σ) : {α : Type} → (σ → Effect σ α) → Prop where
  | release (o : Obj) : G.Act (G.release o)
  | normalize (p : Pending) : G.Act (G.normalize p)
  | print (p : Pending) : G.Act (G.print p)
  | importModule (name : String) : G.Act (G.importModule name)
  | addModule (name : String) : G.Act (G.addModule name)
  | namespaceOf (o : Obj) : G.Act (G.namespaceOf o)
  | getAttr (o : Obj) (name : String) : G.Act (G.getAttr o name)
  | length (o : Obj) : G.Act (G.length o)
  | str (o : Obj) : G.Act (G.str o)
  | text (o : Obj) : G.Act (G.text o)
  | newText (s : String) : G.Act (G.newText s)
  | joinTexts (separator texts : Obj) : G.Act (G.joinTexts separator texts)
  | newList (n : Int) : G.Act (G.newList n)
  | newTuple (n : Int) : G.Act (G.newTuple n)
  | setListItem (list : Obj) (i : Int) (item : Obj) : G.Act (G.setListItem list i item)
  | setTupleItem (tuple : Obj) (i : Int) (item : Obj) : G.Act (G.setTupleItem tuple i item)
  | append (list item : Obj) : G.Act (G.append list item)
  | ofFloat (d : Double) : G.Act (G.ofFloat d)
  | ofInt (n : Int64) : G.Act (G.ofInt n)
  | ofBool (b : Bool) : G.Act (G.ofBool b)
  | toFloat (o : Obj) : G.Act (G.toFloat o)
  | toInt (o : Obj) : G.Act (G.toInt o)
  | iterator (o : Obj) : G.Act (G.iterator o)
  | call (f : Obj) (args : Option Obj) : G.Act (G.call f args)

/-- A conduct that lets the guest act and does not mind what is pending. -/
structure Conduct.Inert (G : Guest σ) (R : Conduct σ) : Prop extends R.Calm G where
  leave : ∀ p h, R 0 h { h with pending := p }
  act : ∀ {α : Type} {f : σ → Effect σ α}, G.Act f → (Bridge.act f).Obeys R fun _ => 0

/-! ## What comes with an answer -/

/-- The objects that a pending exception holds references to. -/
def Pending.refs (p : Pending) : List Obj := p.kind :: (p.value.toList ++ p.trace.toList)

/-- What a call that can fail brings: `n a` with an answer `a`, and `e` without one. An item for a
slot goes away with both. -/
inductive Guest.Brings (G : Guest σ) (w : Scale) :
    {α : Type} → (σ → Outcome σ α) → (α → Int) → Int → Prop where
  | importModule (name : String) : G.Brings w (G.importModule name) w.ref 0
  | addModule (name : String) : G.Brings w (G.addModule name) (fun _ => 0) 0
  | namespaceOf (o : Obj) : G.Brings w (G.namespaceOf o) (fun _ => 0) 0
  | getAttr (o : Obj) (name : String) : G.Brings w (G.getAttr o name) w.ref 0
  | length (o : Obj) : G.Brings w (G.length o) (fun _ => 0) 0
  | str (o : Obj) : G.Brings w (G.str o) w.ref 0
  | text (o : Obj) : G.Brings w (G.text o) (fun _ => 0) 0
  | newText (s : String) : G.Brings w (G.newText s) w.ref 0
  | joinTexts (separator texts : Obj) : G.Brings w (G.joinTexts separator texts) w.ref 0
  | newList (n : Int) : G.Brings w (G.newList n) w.ref 0
  | newTuple (n : Int) : G.Brings w (G.newTuple n) w.ref 0
  | setListItem (list : Obj) (i : Int) (item : Obj) :
    G.Brings w (G.setListItem list i item) (fun _ => -w.ref item) (-w.ref item)
  | setTupleItem (tuple : Obj) (i : Int) (item : Obj) :
    G.Brings w (G.setTupleItem tuple i item) (fun _ => -w.ref item) (-w.ref item)
  | append (list item : Obj) : G.Brings w (G.append list item) (fun _ => 0) 0
  | ofFloat (d : Double) : G.Brings w (G.ofFloat d) w.ref 0
  | ofInt (n : Int64) : G.Brings w (G.ofInt n) w.ref 0
  | ofBool (b : Bool) : G.Brings w (G.ofBool b) w.ref 0
  | toFloat (o : Obj) : G.Brings w (G.toFloat o) (fun _ => 0) 0
  | toInt (o : Obj) : G.Brings w (G.toInt o) (fun _ => 0) 0
  | iterator (o : Obj) : G.Brings w (G.iterator o) w.ref 0
  | call (f : Obj) (args : Option Obj) : G.Brings w (G.call f args) w.ref 0

variable {w : Scale} {f : σ → Outcome σ α} {n : α → Int} {e : Int}

theorem Guest.Brings.act (hf : G.Brings w f n e) : G.Act f := by
  cases hf with
  | _ => constructor

/-- No call brings a handle. -/
theorem Guest.Brings.of_handles (hf : G.Brings Scale.handles f n e) : (∀ a, n a = 0) ∧ e = 0 := by
  cases hf with
  | _ => exact ⟨fun _ => rfl, rfl⟩

/-- The weight of an answer: what it brings, and an exception with its references. -/
def Reply.weight (w : Scale) (n : α → Int) (e : Int) : Reply α → Int
  | .value a => n a
  | .raised p => e + w.refs p.refs
  | .failed => e

namespace Scale

@[simp] theorem handles_refs (os : List Obj) : handles.refs os = 0 := by
  induction os with
  | nil => rfl
  | cons o os ih => rw [refs_cons, ih, handles_ref, Int.add_zero]

/-- The weight of a handle that may be missing. -/
def stake? (w : Scale) : Option Handle → Int
  | none => 0
  | some h => w.stake h

theorem refs_pending (p : Pending) :
    w.refs p.refs = w.ref p.kind + w.refs p.value.toList + w.refs p.trace.toList := by
  rw [Pending.refs, refs_cons, refs_append]
  omega

end Scale

/-- A conduct that weighs what the bridge has in hand, while the guest acts. What is pending is not
in hand. -/
structure Conduct.WeighsActs (w : Scale) (G : Guest σ) (R : Conduct σ) : Prop
    extends R.Weighs w G where
  act : ∀ {α : Type} {f : σ → Outcome σ α} {n : α → Int} {e : Int}, G.Brings w f n e →
    (Bridge.act f).Obeys R (Reply.weight w n e)
  normalize : ∀ p, (Bridge.act (G.normalize p)).Obeys R fun q => w.refs q.refs - w.refs p.refs
  print : ∀ p, (Bridge.act (G.print p)).Obeys R fun _ => -w.refs p.refs
  take : ∀ {h p}, h.pending = some p → R (w.refs p.refs) h { h with pending := none }
  clear : (Exception.clear G).Obeys R fun _ => 0
  raise : ∀ p, (Exception.raise G p).Obeys R fun _ => -w.refs p.refs

namespace Exception

theorem release?_weighed (hR : R.Weighs w G) (o : Option Obj) :
    (release? G o).Obeys R fun _ => -w.refs o.toList := by
  cases o with
  | none => exact Bridge.Obeys.pure hR.toComposes rfl
  | some o => exact (hR.release o).congr fun _ => by simp

theorem releasePending_weighed (hR : R.Weighs w G) (p : Pending) :
    (releasePending G p).Obeys R fun _ => -w.refs p.refs := by
  unfold releasePending
  refine (hR.release p.kind).bind hR.toComposes fun _ => ?_
  refine (release?_weighed hR p.value).bind hR.toComposes fun _ => ?_
  refine (release?_weighed hR p.trace).congr fun _ => ?_
  rw [Scale.refs_pending]
  omega

theorem releasePending_obeys (hR : R.Calm G) (p : Pending) :
    (releasePending G p).Obeys R fun _ => 0 :=
  (releasePending_weighed hR.weighs p).congr fun _ => by simp

theorem clear_obeys (hR : R.Inert G) : (clear G).Obeys R fun _ => 0 := by
  unfold clear
  refine Bridge.Obeys.get fun s => ?_
  cases s.pending with
  | none => exact Bridge.Obeys.pure hR.toComposes rfl
  | some p =>
    refine (Bridge.Obeys.modify (hR.leave none)).seq hR.toComposes fun _ => ?_
    exact releasePending_obeys hR.toCalm p

theorem raise_obeys (hR : R.Inert G) (p : Pending) : (raise G p).Obeys R fun _ => 0 := by
  unfold raise
  refine (clear_obeys hR).seq hR.toComposes fun _ => ?_
  exact Bridge.Obeys.modify (hR.leave (some p))

end Exception

open Exception in
/-- A conduct that does not mind what is pending weighs handles only. -/
theorem Conduct.Inert.weighsActs (hR : R.Inert G) : R.WeighsActs Scale.handles G where
  toWeighs := hR.toCalm.weighs
  act hf := by
    obtain ⟨hn, he⟩ := hf.of_handles
    refine (hR.act hf.act).congr fun r => ?_
    cases r with
    | value a => exact (hn a).symm
    | raised p => simp [Reply.weight, he]
    | failed => exact he.symm
  normalize p := (hR.act (.normalize p)).congr fun _ => by simp
  print p := (hR.act (.print p)).congr fun _ => by simp
  take _ := by
    rw [Scale.handles_refs]
    exact hR.leave none _
  clear := clear_obeys hR
  raise p := (raise_obeys hR p).congr fun _ => by simp

namespace Exception

variable {context : String}

/-! ## On a scale -/

/-- What the guest gives is in hand; what it raised is pending. -/
theorem ask_weighed (hR : R.WeighsActs w G) (hf : (Bridge.act f).Obeys R (Reply.weight w n e)) :
    (ask G f).Obeys R fun r => r.elim e n := by
  unfold ask
  refine hf.bind hR.toComposes fun reply => ?_
  cases reply with
  | value a => exact Bridge.Obeys.pure hR.toComposes (Int.sub_self _)
  | raised p =>
    refine (hR.raise p).bind hR.toComposes fun _ => ?_
    refine Bridge.Obeys.pure hR.toComposes ?_
    simp only [Reply.weight, Option.elim]
    omega
  | failed => exact Bridge.Obeys.pure hR.toComposes (Int.sub_self _)

theorem silently_weighed (hR : R.WeighsActs w G) {x : Bridge σ α} (hx : x.Obeys R n) :
    (silently G x).Obeys R n := by
  unfold silently
  refine hx.bind hR.toComposes fun r => ?_
  refine hR.clear.seq hR.toComposes fun _ => ?_
  exact Bridge.Obeys.pure hR.toComposes (Int.sub_self _)

/-- What a helper asks for ends with the scope in which it is used. -/
theorem withNew_weighed (hR : R.WeighsActs w G) {f : σ → Outcome σ Obj} (hf : G.Brings w f w.ref 0)
    {body : Handle → Bridge σ (Option α)} (hbody : ∀ h, (body h).Obeys R fun _ => 0) :
    (withNew G f body).Obeys R fun _ => 0 := by
  unfold withNew
  refine (ask_weighed hR (hR.act hf)).bind hR.toComposes fun r => ?_
  cases r with
  | none => exact Bridge.Obeys.pure hR.toComposes rfl
  | some o =>
    refine (Handle.ofNew_weighed hR.toWeighs o).bind hR.toComposes fun h => ?_
    refine (Handle.owning_weighed hR.toWeighs h (hbody h)).congr fun _ => ?_
    simp only [Option.elim]
    omega

theorem contents_weighed (hR : R.WeighsActs w G) (h : Handle) :
    (contents G h).Obeys R fun _ => 0 := by
  refine (ask_weighed hR (hR.act (.text h.obj))).congr fun r => ?_
  cases r with
  | none => rfl
  | some s => rfl

theorem textOf_weighed (hR : R.WeighsActs w G) (h : Handle) : (textOf G h).Obeys R fun _ => 0 :=
  withNew_weighed hR (.str h.obj) (contents_weighed hR)

theorem textAttr_weighed (hR : R.WeighsActs w G) (h : Handle) (name : String) :
    (textAttr G h name).Obeys R fun _ => 0 :=
  withNew_weighed hR (.getAttr h.obj name) (contents_weighed hR)

/-- The copy ends and its reference is in hand. -/
theorem copyRef_weighed (hR : R.WeighsActs w G) (h : Handle) : (copyRef G h).Obeys R w.ref := by
  unfold copyRef
  refine (Handle.clone_weighed hR.toWeighs h).bind hR.toComposes fun copy => ?_
  exact Handle.steal_weighed hR.toWeighs copy

theorem copyRef?_weighed (hR : R.WeighsActs w G) (h : Option Handle) :
    (copyRef? G h).Obeys R fun o => w.refs o.toList := by
  cases h with
  | none => exact Bridge.Obeys.pure hR.toComposes rfl
  | some h =>
    refine (copyRef_weighed hR h).bind hR.toComposes fun o => ?_
    exact Bridge.Obeys.pure hR.toComposes (by simp)

theorem traceLines_weighed (hR : R.WeighsActs w G) (trace : Handle) :
    (traceLines G trace).Obeys R fun _ => 0 := by
  unfold traceLines
  refine withNew_weighed hR (.importModule "traceback") fun moduleHandle => ?_
  refine withNew_weighed hR (.getAttr moduleHandle.obj "format_tb") fun format => ?_
  refine withNew_weighed hR (.newTuple 1) fun args => ?_
  refine (Handle.clone_weighed hR.toWeighs trace).bind hR.toComposes fun copy => ?_
  refine (Handle.steal_weighed hR.toWeighs copy).bind hR.toComposes fun o => ?_
  -- the reference of the copy goes to the tuple, or with its refusal
  refine (ask_weighed hR (hR.act (.setTupleItem args.obj 0 o))).bind hR.toComposes fun placed => ?_
  cases placed with
  | none => exact Bridge.Obeys.pure hR.toComposes (by simp only [Option.elim]; omega)
  | some u =>
    refine Bridge.Obeys.congr (m := fun _ => 0) ?_ fun _ => by simp only [Option.elim]; omega
    refine withNew_weighed hR (.call format.obj (some args.obj)) fun lines => ?_
    refine withNew_weighed hR (.newText "") fun separator => ?_
    exact withNew_weighed hR (.joinTexts separator.obj lines.obj) (contents_weighed hR)

theorem formatTrace_weighed (hR : R.WeighsActs w G) (trace : Handle) :
    (formatTrace G trace).Obeys R fun _ => 0 := by
  unfold formatTrace
  refine (silently_weighed hR (traceLines_weighed hR trace)).seq hR.toComposes fun lines => ?_
  exact Bridge.Obeys.pure hR.toComposes rfl

/-- Printing may end the process; if it does not, it leaves nothing behind. -/
theorem print_weighed (hR : R.WeighsActs w G) (kind : Handle) (value trace : Option Handle) :
    (print G kind value trace).Obeys R fun _ => 0 := by
  unfold print
  refine (copyRef_weighed hR kind).bind hR.toComposes fun k => ?_
  refine (copyRef?_weighed hR value).bind hR.toComposes fun v => ?_
  refine (copyRef?_weighed hR trace).bind hR.toComposes fun t => ?_
  refine (hR.print ⟨k, v, t⟩).bind hR.toComposes fun status => ?_
  simp only [Scale.refs_pending]
  cases status with
  | none => exact Bridge.Obeys.pure hR.toComposes (by omega)
  | some status => exact Bridge.Obeys.exit status

theorem ofNew?_weighed (hR : R.WeighsActs w G) (o : Option Obj) :
    (ofNew? o : Bridge σ (Option Handle)).Obeys R fun h => w.stake? h - w.refs o.toList := by
  cases o with
  | none => exact Bridge.Obeys.pure hR.toComposes rfl
  | some o =>
    refine (Handle.ofNew_weighed hR.toWeighs o).bind hR.toComposes fun h => ?_
    exact Bridge.Obeys.pure hR.toComposes (by simp [Scale.stake?])

theorem owning?_weighed (hR : R.WeighsActs w G) (h : Option Handle) {body : Bridge σ α}
    (hbody : body.Obeys R n) : (owning? G h body).Obeys R fun a => n a - w.stake? h := by
  cases h with
  | none => exact hbody.congr fun a => (Int.sub_zero _).symm
  | some h => exact Handle.owning_weighed hR.toWeighs h hbody

theorem messageOf_weighed (hR : R.WeighsActs w G) (value : Option Handle) :
    (messageOf G value).Obeys R fun _ => 0 := by
  cases value with
  | none => exact Bridge.Obeys.pure hR.toComposes rfl
  | some v => exact silently_weighed hR (textOf_weighed hR v)

theorem tracebackOf_weighed (hR : R.WeighsActs w G) (trace : Option Handle) :
    (tracebackOf G trace).Obeys R fun _ => 0 := by
  cases trace with
  | none => exact Bridge.Obeys.pure hR.toComposes rfl
  | some t => exact formatTrace_weighed hR t

theorem printIfWanted_weighed (hR : R.WeighsActs w G) (kind : Handle)
    (value trace : Option Handle) : (printIfWanted G kind value trace).Obeys R fun _ => 0 := by
  unfold printIfWanted
  refine Bridge.Obeys.get fun s => ?_
  split
  next => exact print_weighed hR kind value trace
  next => exact Bridge.Obeys.pure hR.toComposes rfl

theorem describe_weighed (hR : R.WeighsActs w G) (kind : Handle) (value trace : Option Handle) :
    (describe G kind value trace).Obeys R fun _ => 0 := by
  unfold describe
  refine (silently_weighed hR (textAttr_weighed hR kind "__name__")).seq hR.toComposes
    fun name => ?_
  refine (messageOf_weighed hR value).seq hR.toComposes fun message => ?_
  refine (tracebackOf_weighed hR trace).seq hR.toComposes fun traceback => ?_
  refine (printIfWanted_weighed hR kind value trace).seq hR.toComposes fun _ => ?_
  refine hR.clear.seq hR.toComposes fun _ => ?_
  refine (Bridge.Obeys.modify (hR.record _)).seq hR.toComposes fun _ => ?_
  exact Bridge.Obeys.pure hR.toComposes rfl

/-- The three parts of the exception are handles while it is described, and end after it. -/
theorem drain_weighed (hR : R.WeighsActs w G) : (drain G).Obeys R fun _ => 0 := by
  intro h r h' hr
  unfold drain at hr
  rw [Bridge.run_get_bind] at hr
  cases hp : h.pending with
  | none =>
    rw [hp] at hr
    exact Bridge.Obeys.pure hR.toComposes (n := fun _ => 0) rfl h r h' hr
  | some p =>
    rw [hp] at hr
    obtain ⟨u, h₁, htake, hrest⟩ := Bridge.bind_ok hr
    cases htake
    have hall : R (w.refs p.refs + -w.refs p.refs) h h' := by
      refine hR.trans (hR.take hp)
        ((show Bridge.Obeys R _ fun _ => -w.refs p.refs from ?_) _ r h' hrest)
      refine (hR.normalize p).bind hR.toComposes fun q => ?_
      refine (Handle.ofNew_weighed hR.toWeighs q.kind).bind hR.toComposes fun kind => ?_
      refine (ofNew?_weighed hR q.value).bind hR.toComposes fun value => ?_
      refine (ofNew?_weighed hR q.trace).bind hR.toComposes fun trace => ?_
      have described := describe_weighed hR kind value trace
      have ended := Handle.owning_weighed hR.toWeighs kind
        (owning?_weighed hR value (owning?_weighed hR trace described))
      refine ended.bind hR.toComposes fun report => ?_
      refine Bridge.Obeys.pure hR.toComposes ?_
      rw [w.refs_pending q]
      omega
    rwa [Int.add_right_neg] at hall

theorem fetch_weighed (hR : R.WeighsActs w G) : (fetch G context).Obeys R fun _ => 0 := by
  unfold fetch
  refine (drain_weighed hR).seq hR.toComposes fun r => ?_
  cases r with
  | none => exact Bridge.Obeys.pure hR.toComposes rfl
  | some r => exact Bridge.Obeys.pure hR.toComposes rfl

theorem isPending_weighed (hR : R.Composes) : (isPending : Bridge σ Bool).Obeys R fun _ => 0 := by
  unfold isPending
  exact Bridge.Obeys.get fun s => Bridge.Obeys.pure hR rfl

theorem takeStop_weighed (hR : R.WeighsActs w G) : (takeStop G).Obeys R fun _ => 0 := by
  unfold takeStop
  refine Bridge.Obeys.get fun s => ?_
  cases s.pending with
  | none => exact Bridge.Obeys.pure hR.toComposes rfl
  | some p =>
    refine Bridge.Obeys.get fun s => ?_
    split
    next =>
      refine hR.clear.seq hR.toComposes fun _ => ?_
      exact Bridge.Obeys.pure hR.toComposes rfl
    next => exact Bridge.Obeys.pure hR.toComposes rfl

theorem request_weighed (hR : R.WeighsActs w G) (hf : (Bridge.act f).Obeys R (Reply.weight w n e)) :
    (request G context f).Obeys R n e := by
  refine (ask_weighed hR hf).bind hR.toComposes fun r => ?_
  cases r with
  | some a => exact Bridge.Obeys.pure hR.toComposes (Int.sub_self _)
  | none =>
    refine (fetch_weighed hR).seq hR.toComposes fun r => ?_
    exact Bridge.Obeys.pure hR.toComposes (Int.sub_self _)

/-! ## As a number of handles -/

theorem act_obeys (hR : R.Inert G) (hf : G.Act f) :
    (Bridge.act f).Obeys R (Reply.weight Scale.handles (fun _ => 0) 0) := by
  refine (hR.act hf).congr fun r => ?_
  cases r with
  | value a => rfl
  | raised p => simp [Reply.weight]
  | failed => rfl

theorem drain_obeys (hR : R.Inert G) : (drain G).Obeys R fun _ => 0 := drain_weighed hR.weighsActs

theorem fetch_obeys (hR : R.Inert G) : (fetch G context).Obeys R fun _ => 0 :=
  fetch_weighed hR.weighsActs

theorem request_obeys (hR : R.Inert G) (hf : G.Act f) :
    (request G context f).Obeys R (fun _ => 0) 0 :=
  request_weighed hR.weighsActs (act_obeys hR hf)

end Exception

end Embedder
