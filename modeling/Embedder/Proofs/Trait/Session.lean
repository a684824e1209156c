import Embedder.Interpreter
import Embedder.Proofs.Trait

/-!
# What runs inside a session, under any trait

Every function that works on handles inside a session has a lawful trait. A session itself begins by
the lifecycle and the queue, so a trait that sessions have is one of programs that go by both
(`Sessional`).
-/

namespace Embedder

open Exception

variable {σ α β : Type} {G : Guest σ} {P : Trait σ} [P.Composes]

namespace Handle

variable (h : Handle)

theorem withoutNul_has (s : String) :
    (withoutNul s : Attempt σ ExceptionReport String).Has P :=
  Bridge.Has.pure (cText s)

theorem getAttr_has (hP : P.Lawful G) (name : String) : (h.getAttr G name).Has P := by
  unfold getAttr
  exact (withoutNul_has name).bind fun name => requestNew_has hP (.getAttr h.obj name)

theorem length_has (hP : P.Lawful G) : (h.length G).Has P := request_has hP (.length h.obj)

theorem contents_has (hP : P.Lawful G) : (h.contents G).Has P := request_has hP (.text h.obj)

theorem str_has (hP : P.Lawful G) : (h.str G).Has P := by
  unfold str
  refine (requestNew_has hP (.str h.obj)).bind fun s => ?_
  exact within_has hP.toSteady s (contents_has s hP)

theorem newList_has (hP : P.Lawful G) (n : UInt64) : (newList G n).Has P :=
  requestNew_has hP (.newList (signed n))

theorem newTuple_has (hP : P.Lawful G) (n : UInt64) : (newTuple G n).Has P :=
  requestNew_has hP (.newTuple (signed n))

theorem setListItem_has (hP : P.Lawful G) (index : UInt64) (item : Handle) :
    (h.setListItem G index item).Has P := by
  unfold setListItem
  refine (Attempt.Has.lift (steal_has hP.toSteady item)).bind fun o => ?_
  exact request_has hP (.setListItem h.obj (signed index) o)

theorem setTupleItem_has (hP : P.Lawful G) (index : UInt64) (item : Handle) :
    (h.setTupleItem G index item).Has P := by
  unfold setTupleItem
  refine (Attempt.Has.lift (steal_has hP.toSteady item)).bind fun o => ?_
  exact request_has hP (.setTupleItem h.obj (signed index) o)

theorem append_has (hP : P.Lawful G) (item : Handle) : (h.append G item).Has P :=
  request_has hP (.append h.obj item.obj)

theorem newText_has (hP : P.Lawful G) (s : String) : (newText G s).Has P := by
  unfold newText
  exact (withoutNul_has s).bind fun s => requestNew_has hP (.newText s)

end Handle

/-! ## Numbers -/

/-- Host values of this type become objects by programs that have the property. -/
def Encoder.Has (P : Trait σ) (E : Encoder σ α) : Prop := ∀ a, (E.encode a).Has P

/-- Objects become host values of this type by programs that have the property. -/
def Decoder.Has (P : Trait σ) (D : Decoder σ β) : Prop := ∀ h, (D.decode h).Has P

namespace Scalar

theorem encodeFloat_has (hP : P.Lawful G) : (encodeFloat G).Has P := fun x => requestNew_has hP (.ofFloat x)

theorem encodeInt_has (hP : P.Lawful G) : (encodeInt G).Has P := fun n => requestNew_has hP (.ofInt n)

theorem encodeBool_has (hP : P.Lawful G) : (encodeBool G).Has P := fun b => requestNew_has hP (.ofBool b)

theorem toldClassName_has (hP : P.Lawful G) (h : Handle) : (toldClassName G h).Has P := by
  unfold toldClassName
  refine (Handle.getAttr_has h hP "__class__").bind fun cls => ?_
  refine (Handle.within_has hP.toSteady cls (Handle.getAttr_has cls hP "__name__")).bind
    fun name => ?_
  exact Handle.within_has hP.toSteady name (Handle.str_has name hP)

theorem classNameOr_has (hP : P.Lawful G) (substitute : String) (h : Handle) :
    (classNameOr G substitute h).Has P := by
  unfold classNameOr
  refine Bridge.Has.bind (toldClassName_has hP h) fun r => ?_
  cases r with
  | ok s => exact Bridge.Has.pure s
  | error r => exact Bridge.Has.pure substitute

theorem wrongKind_has (hP : P.Lawful G) (h : Handle) (expected : String) :
    (wrongKind G h expected).Has P := by
  unfold wrongKind
  exact (classNameOr_has hP "object" h).bind fun found => Bridge.Has.pure _

theorem checked_has [DecidableEq β] (hP : P.Lawful G) (sentinel : β) (context : String)
    {f : σ → Outcome σ β} (hf : G.Act f) : (checked G sentinel context f).Has P := by
  refine Bridge.Has.bind (ask_has hP.toSteady hf) fun r => ?_
  dsimp only
  split
  next =>
    refine (isPending_has hP.toSteady).bind fun pending => ?_
    split
    next => exact (fetch_has hP).bind fun r => Bridge.Has.pure _
    next => exact Bridge.Has.pure _
  next => exact Bridge.Has.pure _

theorem decodeFloat_has (hP : P.Lawful G) : (decodeFloat G).Has P :=
  fun h => checked_has hP _ _ (.toFloat h.obj)

theorem decodeInt_has (hP : P.Lawful G) : (decodeInt G).Has P := by
  intro h
  refine (Bridge.inspect_has hP.toSteady (.isFloat h.obj)).bind fun isFloat => ?_
  split
  next => exact (wrongKind_has hP h "int").bind fun r => Bridge.Has.pure _
  next => exact checked_has hP _ _ (.toInt h.obj)

theorem decodeBool_has (hP : P.Lawful G) : (decodeBool G).Has P := by
  intro h
  show Bridge.Has P (if h.obj = G.trueObj then _ else _)
  split
  next => exact Bridge.Has.pure _
  next =>
    split
    next => exact Bridge.Has.pure _
    next => exact (wrongKind_has hP h "bool").bind fun r => Bridge.Has.pure _

end Scalar

/-! ## Walks and lists -/

namespace Walk

theorem start_has (hP : P.Lawful G) (iterable : Handle) : (start G iterable).Has P := by
  unfold start
  refine (requestNew_has hP (.iterator iterable.obj)).bind fun iterator => ?_
  refine Handle.within_has hP.toSteady iterator ?_
  exact (Handle.getAttr_has iterator hP "__next__").bind fun next => Attempt.Has.pure _

theorem step_has (hP : P.Lawful G) (w : Walk) : (w.step G).Has P := by
  have hsteady := hP.toSteady
  unfold step
  split
  next => exact Bridge.Has.pure _
  next =>
    refine (ask_has hsteady (.call w.next.obj none)).bind fun r => ?_
    cases r with
    | some o => exact (Handle.ofNew_has hsteady o).bind fun h => Bridge.Has.pure _
    | none =>
      refine (takeStop_has hsteady).bind fun stopped => ?_
      split
      next => exact Bridge.Has.pure _
      next => exact (fetch_has hP).bind fun r => Bridge.Has.pure _

end Walk

namespace Sequence

theorem fill_has (hP : P.Lawful G) {E : Encoder σ α} (hE : E.Has P) (list : Handle) :
    ∀ (values : List α) (index : Nat), (fill G E list index values).Has P := by
  intro values
  induction values with
  | nil => intro index; exact Attempt.Has.pure ()
  | cons a as ih =>
    intro index
    unfold fill
    refine (hE a).mapError.bind fun item => ?_
    exact (Handle.setListItem_has list hP _ item).mapError.bind fun _ => ih (index + 1)

theorem toList_has (hP : P.Lawful G) {E : Encoder σ α} (hE : E.Has P) (values : List α) :
    (toList G E values).Has P := by
  unfold toList
  refine (Handle.newList_has hP _).mapError.bind fun list => ?_
  refine Bridge.Has.bind (fill_has hP hE list values 0) fun r => ?_
  cases r with
  | ok u => exact Bridge.Has.pure _
  | error e => exact (Handle.drop_has hP.toSteady list).bind fun _ => Bridge.Has.pure _

theorem readItems_has (hP : P.Lawful G) {D : Decoder σ β} (hD : D.Has P) (expected : Nat) :
    ∀ (count index : Nat) (w : Walk), (readItems G D expected count index w).Has P := by
  intro count
  induction count with
  | zero => intro index w; exact Bridge.Has.pure _
  | succ count ih =>
    intro index w
    unfold readItems
    refine (Walk.step_has hP w).bind fun r => ?_
    obtain ⟨step, w'⟩ := r
    cases step with
    | finished => exact Bridge.Has.pure _
    | failed r => exact Bridge.Has.pure _
    | item h =>
      refine (Handle.owning_has hP.toSteady h (hD h)).bind fun r => ?_
      cases r with
      | error c => exact Bridge.Has.pure _
      | ok b => exact (ih (index + 1) w').bind fun r => Bridge.Has.pure _

theorem fromList_has (hP : P.Lawful G) {D : Decoder σ β} (hD : D.Has P) (seq : Handle) :
    (fromList G D seq).Has P := by
  unfold fromList
  refine (Handle.length_has seq hP).mapError.bind fun expected => ?_
  refine (Walk.start_has hP seq).mapError.bind fun walk => ?_
  refine Bridge.Has.bind (readItems_has hP hD expected expected 0 walk) fun r => ?_
  exact (Handle.drop_has hP.toSteady r.2.next).bind fun _ => Bridge.Has.pure r.1

end Sequence

/-! ## Modules and calls -/

namespace ModuleHandle

theorem checkedName_has (s : String) : (checkedName s : Attempt σ Failure String).Has P :=
  (Handle.withoutNul_has s).mapError

theorem resolve_has (hP : P.Lawful G) (name : String) : (resolve G name).Has P := by
  unfold resolve
  refine (checkedName_has name).bind fun checked => ?_
  refine Bridge.Has.bind (requestNew_has hP (.importModule checked)) fun r => ?_
  cases r with
  | ok h => exact Bridge.Has.pure _
  | error cause => exact (hP.record _).bind fun _ => Bridge.Has.pure _

theorem bind_has (hP : P.Lawful G) (imported : Handle) (name : String) :
    (bind G imported name).Has P := by
  unfold bind
  refine Attempt.Has.bind (Handle.within_has hP.toSteady imported ?_) fun h => ?_
  · refine (checkedName_has name).bind fun checked => ?_
    exact (requestBorrowed_has hP (.addModule checked)).mapError
  · exact (Attempt.Has.lift (hP.record _)).bind fun _ => Attempt.Has.pure _

theorem importAs_has (hP : P.Lawful G) (name : String) : (importAs G name).Has P := by
  unfold importAs
  exact (resolve_has hP name).bind fun imported => bind_has hP imported name

theorem resolveCallable_has (hP : P.Lawful G) (m : ModuleHandle) (attr : String) :
    (m.resolveCallable G attr).Has P := by
  unfold resolveCallable
  refine (requestBorrowed_has hP (.namespaceOf m.handle.obj)).mapError.bind fun space => ?_
  refine (checkedName_has attr).bind fun checked => ?_
  refine Attempt.Has.get hP.look (fun h k hs => ?_) fun h => ?_
  · simp only [hs (.lookup space.obj checked), fun o => hs (.isCallable o)]
  · dsimp only
    cases G.lookup space.obj checked h.world with
    | none => exact Attempt.Has.throw _
    | some o =>
      dsimp only
      split
      next => exact Attempt.Has.pure _
      next => exact Attempt.Has.throw _

end ModuleHandle

namespace CallableHandle

theorem invoke_has (hP : P.Lawful G) (c : CallableHandle) (args : Option Handle) :
    (c.invoke G args).Has P := by
  unfold invoke
  refine Bridge.Has.bind (requestNew_has hP (.call c.handle.obj _)) fun r => ?_
  cases r with
  | ok h => exact Bridge.Has.pure _
  | error cause =>
    exact (hP.record _).bind fun _ => Bridge.Has.pure _

theorem fillTuple_has (hP : P.Lawful G) (tuple : Handle) :
    ∀ (args : List Handle) (index : Nat), (fillTuple G tuple index args).Has P := by
  intro args
  induction args with
  | nil => intro index; exact Attempt.Has.pure ()
  | cons a as ih =>
    intro index
    unfold fillTuple
    refine (Attempt.Has.lift (Handle.clone_has hP.toSteady a)).bind fun copy => ?_
    exact (Handle.setTupleItem_has tuple hP _ copy).bind fun _ => ih (index + 1)

theorem invokeWith_has (hP : P.Lawful G) (c : CallableHandle) (args : List Handle) :
    (c.invokeWith G args).Has P := by
  unfold invokeWith
  refine (Handle.newTuple_has hP _).mapError.bind fun tuple => ?_
  refine Handle.within_has hP.toSteady tuple ?_
  exact (fillTuple_has hP tuple args 0).mapError.bind fun _ => invoke_has hP c (some tuple)

theorem callWith_has (hP : P.Lawful G) {E : Encoder σ α} {D : Decoder σ β} (hE : E.Has P)
    (hD : D.Has P) (c : CallableHandle) (args : List α) : (c.callWith G E D args).Has P := by
  unfold callWith
  refine (Sequence.toList_has hP hE args).bind fun list => ?_
  refine Handle.within_has hP.toSteady list ?_
  refine (invokeWith_has hP c [list]).bind fun result => ?_
  exact Handle.within_has hP.toSteady result (Sequence.fromList_has hP hD result)

end CallableHandle

/-! ## Sessions -/

/-- A trait that also the steps have by which a session begins. -/
structure Trait.Sessional (G : Guest σ) (P : Trait σ) : Prop extends P.Lawful G where
  queue : P.Reads fun h k => h.lifecycle = k.lifecycle ∧ h.waiting = k.waiting
  empty : (modify fun h => { h with waiting := [] } : Bridge σ Unit).Has P
  releaseKept : ∀ busy k, (Bridge.act (G.releaseKept busy k)).Has P

namespace Session

variable {busy : Bool} {generation : Nat}

theorem settle_has (hP : P.Sessional G) :
    ∀ ks : List Kept, (settle G busy generation ks).Has P := by
  intro ks
  induction ks with
  | nil => exact Bridge.Has.pure ()
  | cons k ks ih =>
    unfold settle
    refine Bridge.Has.bind ?_ fun _ => ih
    unfold settleOne
    split
    next => exact hP.releaseKept busy k
    next => exact Bridge.Has.pure ()

theorem settleWaiting_has (hP : P.Sessional G) : (settleWaiting G busy generation).Has P := by
  refine hP.queue (fun h k hs => by rw [hs.2]) fun h => ?_
  exact hP.empty.bind fun _ => settle_has hP _

theorem enterAs_has (hP : P.Sessional G) (expected : Option Nat)
    {body : Nat → Attempt σ Failure α} (hbody : ∀ generation, (body generation).Has P) :
    (enterAs G expected body).Has P := by
  refine Attempt.Has.get hP.queue (fun h k hs => by rw [hs.1]) fun h => ?_
  dsimp only
  split
  next => exact (Attempt.Has.lift (settleWaiting_has hP)).bind fun _ => hbody _
  next => exact Attempt.Has.throw _

theorem enter_has (hP : P.Sessional G) {body : Attempt σ Failure α} (hbody : body.Has P) :
    (enter G body).Has P :=
  enterAs_has hP none fun _ => hbody

end Session

theorem callFunction_has (hP : P.Sessional G) {E : Encoder σ α} {D : Decoder σ β}
    (hE : E.Has P) (hD : D.Has P) (moduleName function : String) (args : List α) :
    (callFunction G E D moduleName function args).Has P := by
  have hlawful := hP.toLawful
  refine Session.enter_has hP ?_
  refine (ModuleHandle.importAs_has hlawful moduleName).bind fun m => ?_
  refine (ModuleHandle.resolveCallable_has hlawful m function).bind fun c => ?_
  exact CallableHandle.callWith_has hlawful hE hD c args

namespace Binding

theorem bind_has (hP : P.Sessional G) (moduleName function : String) :
    (bind G moduleName function).Has P := by
  have hlawful := hP.toLawful
  have hsteady := hP.toSteady
  refine Session.enterAs_has hP none fun generation => ?_
  refine (ModuleHandle.importAs_has hlawful moduleName).bind fun m => ?_
  refine (ModuleHandle.resolveCallable_has hlawful m function).bind fun c => ?_
  refine (Attempt.Has.lift (Handle.promote_has hsteady c.handle)).bind fun owned => ?_
  refine (Attempt.Has.lift (hsteady.record _)).bind fun _ => ?_
  exact (Attempt.Has.lift (Handle.steal_has hsteady owned)).bind fun o => Attempt.Has.pure _

theorem callAs_has (hP : P.Sessional G) {E : Encoder σ α} {D : Decoder σ β} (hE : E.Has P)
    (hD : D.Has P) (b : Binding) (args : List α) : (b.callAs G E D args).Has P := by
  refine Session.enterAs_has hP (some b.generation) fun _ => ?_
  refine (Attempt.Has.lift (Handle.ofShared_has hP.toSteady b.callable)).bind fun h => ?_
  exact Handle.within_has hP.toSteady h (CallableHandle.callWith_has hP.toLawful hE hD _ args)

end Binding

namespace Interpreter

theorem appendPath_has (hP : P.Sessional G) (path : SearchPath) : (appendPath G path).Has P := by
  have hlawful := hP.toLawful
  unfold appendPath
  cases path.text? with
  | none => exact Attempt.Has.throw _
  | some text =>
    refine Session.enter_has hP ?_
    refine Attempt.Has.get hP.look (fun h k hs => by rw [hs .searchPath]) fun h => ?_
    cases G.searchPath h.world with
    | none =>
      exact (Attempt.Has.lift (fetch_has hlawful)).bind fun r => Attempt.Has.throw _
    | some list =>
      refine (Handle.newText_has hlawful text).mapError.bind fun entry => ?_
      refine Handle.within_has hP.toSteady entry ?_
      refine (Handle.append_has (Handle.ofBorrowed list) hlawful entry).mapError.bind fun _ => ?_
      exact Attempt.Has.lift (hP.record _)

theorem appendPaths_has (hP : P.Sessional G) :
    ∀ paths : List SearchPath, (appendPaths G paths).Has P := by
  intro paths
  induction paths with
  | nil => exact Attempt.Has.pure ()
  | cons p ps ih =>
    unfold appendPaths
    exact (appendPath_has hP p).bind fun _ => ih

end Interpreter

end Embedder
