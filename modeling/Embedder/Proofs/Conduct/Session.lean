import Embedder.Interpreter
import Embedder.Proofs.Conduct.Exception

/-!
# What runs inside a session, under any conduct

From here on a request to the guest is one step: it gives an answer, or it fails and its exception
has been taken. A conduct that admits such steps is `Lawful`. It need not admit the moments in
between, so it may speak of what is pending: "nothing is pending before and after" is lawful, though
a guest that was just asked may leave an exception.

Every function that works on handles inside a session is looked at here. What a function gives back
and what it takes over is read off its index: `toList` leaves the handle of its list behind and
nothing if it fails, a step of a walk leaves its item, `setListItem` ends the item on both outcomes.
-/

namespace Embedder

open Exception

variable {σ α β : Type} {G : Guest σ} {R : Conduct σ} {w : Scale} {context : String}

/-- The handle that a step of a walk gives. -/
def Walk.Step.stake : Walk.Step → Int
  | .item h => h.stake
  | .failed _ => 0
  | .finished => 0

/-- What a step of a walk leaves behind: its item, and the walk in place of the walk before. -/
def Walk.stepStake (w : Walk) (r : Walk.Step × Walk) : Int :=
  r.1.stake + (r.2.next.stake - w.next.stake)

namespace Scale

/-- The weight of what a step of a walk gives. -/
def item (w : Scale) : Walk.Step → Int
  | .item h => w.stake h
  | .failed _ => 0
  | .finished => 0

/-- The weight of what a step of a walk leaves behind. -/
def stride (w : Scale) (walk : Walk) (r : Walk.Step × Walk) : Int :=
  w.item r.1 + (w.stake r.2.next - w.stake walk.next)

theorem handles_stride (walk : Walk) (r : Walk.Step × Walk) :
    handles.stride walk r = walk.stepStake r := by
  have hitem : handles.item r.1 = r.1.stake := by
    cases r.1 with
    | item h => exact handles_stake h
    | failed _ => rfl
    | finished => rfl
  rw [stride, hitem, handles_stake, handles_stake, Walk.stepStake]

end Scale

/-! ## Steps on a scale -/

/-- A step ends no handle but the walk that it replaces. -/
theorem Walk.step_weighed (hR : R.WeighsActs w G) (walk : Walk) :
    (walk.step G).Obeys R (w.stride walk) := by
  unfold Walk.step
  split
  next => exact Bridge.Obeys.pure hR.toComposes (by simp [Scale.stride, Scale.item])
  next =>
    refine (ask_weighed hR (hR.act (.call walk.next.obj none))).bind hR.toComposes fun r => ?_
    cases r with
    | some o =>
      refine (Handle.ofNew_weighed hR.toWeighs o).bind hR.toComposes fun h => ?_
      refine Bridge.Obeys.pure hR.toComposes ?_
      simp only [Scale.stride, Scale.item, Option.elim]
      omega
    | none =>
      -- an iterator that ends leaves its own exception, or none
      refine (takeStop_weighed hR).seq hR.toComposes fun stopped => ?_
      split
      next => exact Bridge.Obeys.pure hR.toComposes (by simp [Scale.stride, Scale.item])
      next =>
        refine (fetch_weighed hR).seq hR.toComposes fun r => ?_
        exact Bridge.Obeys.pure hR.toComposes (by simp [Scale.stride, Scale.item])

theorem Scalar.checked_weighed {β : Type} [DecidableEq β] (hR : R.WeighsActs w G)
    {f : σ → Outcome σ β} (sentinel : β) (context : String)
    (hf : (Bridge.act f).Obeys R (Reply.weight w (fun _ => 0) 0)) :
    (Scalar.checked G sentinel context f).Obeys R (fun _ => 0) 0 := by
  refine Bridge.Obeys.bind hR.toComposes (ask_weighed hR hf) fun r => ?_
  have hnothing : r.elim (0 : Int) (fun _ => 0) = 0 := by cases r <;> rfl
  refine Bridge.Obeys.congr (m := leaves (fun _ => 0) 0) ?_ fun _ => by omega
  dsimp only
  split
  next =>
    refine (isPending_weighed hR.toComposes).seq hR.toComposes fun pending => ?_
    split
    next =>
      refine (fetch_weighed hR).seq hR.toComposes fun r => ?_
      exact Bridge.Obeys.pure hR.toComposes rfl
    next => exact Bridge.Obeys.pure hR.toComposes rfl
  next => exact Bridge.Obeys.pure hR.toComposes rfl

/-! ## Requests as a whole -/

/-- A conduct that admits requests as a whole. -/
structure Conduct.Lawful (G : Guest σ) (R : Conduct σ) : Prop extends R.Calm G where
  request : ∀ {α : Type} {f : σ → Outcome σ α} (context : String), G.Act f →
    (request G context f).Obeys R (fun _ => 0) 0
  drain : (drain G).Obeys R fun _ => 0
  /-- Taking an exception that someone else left. -/
  drainRaised : ∀ p, (raise G p >>= fun _ => Exception.drain G).Obeys R fun _ => 0
  step : ∀ w, (Walk.step G w).Obeys R w.stepStake
  checked : ∀ {β : Type} [DecidableEq β] {f : σ → Outcome σ β} (sentinel : β) (context : String),
    G.Act f → (Scalar.checked G sentinel context f).Obeys R (fun _ => 0) 0

/-- A conduct that does not mind what is pending is lawful. -/
theorem Conduct.Inert.lawful (hR : R.Inert G) : R.Lawful G where
  toCalm := hR.toCalm
  request _ hf := request_obeys hR hf
  drain := drain_obeys hR
  drainRaised p := (raise_obeys hR p).seq hR.toComposes fun _ => drain_obeys hR
  step walk := (Walk.step_weighed hR.weighsActs walk).congr (Scale.handles_stride walk)
  checked sentinel context hf :=
    Scalar.checked_weighed hR.weighsActs sentinel context (act_obeys hR hf)

/-- A conduct that weighs what the bridge has in hand between requests. -/
structure Conduct.WeighsRequests (w : Scale) (G : Guest σ) (R : Conduct σ) : Prop
    extends R.Weighs w G where
  request : ∀ {α : Type} {f : σ → Outcome σ α} {n : α → Int} {e : Int} (context : String),
    G.Brings w f n e → (request G context f).Obeys R n e
  fetch : ∀ context, (fetch G context).Obeys R fun _ => 0
  step : ∀ walk, (Walk.step G walk).Obeys R (w.stride walk)
  checked : ∀ {β : Type} [DecidableEq β] {f : σ → Outcome σ β} (sentinel : β) (context : String),
    G.Brings w f (fun _ => 0) 0 → (Scalar.checked G sentinel context f).Obeys R (fun _ => 0) 0

theorem Conduct.WeighsActs.requests (hR : R.WeighsActs w G) : R.WeighsRequests w G where
  toWeighs := hR.toWeighs
  request _ hf := request_weighed hR (hR.act hf)
  fetch _ := fetch_weighed hR
  step walk := Walk.step_weighed hR walk
  checked sentinel context hf := Scalar.checked_weighed hR sentinel context (hR.act hf)

theorem Exception.fetch_lawful (context : String) (hR : R.Lawful G) :
    (fetch G context).Obeys R fun _ => 0 := by
  unfold fetch
  refine hR.drain.seq hR.toComposes fun r => ?_
  cases r with
  | none => exact Bridge.Obeys.pure hR.toComposes rfl
  | some r => exact Bridge.Obeys.pure hR.toComposes rfl

/-- A lawful conduct weighs handles only. -/
theorem Conduct.Lawful.weighs (hR : R.Lawful G) : R.WeighsRequests Scale.handles G where
  toWeighs := hR.toCalm.weighs
  request context hf := by
    obtain ⟨hn, he⟩ := hf.of_handles
    exact (hR.request context hf.act).congr (fun a => (hn a).symm) he.symm
  fetch context := fetch_lawful context hR
  step walk := (hR.step walk).congr fun r => (Scale.handles_stride walk r).symm
  checked sentinel context hf := hR.checked sentinel context hf.act

namespace Exception

theorem requestNew_weighed (context : String) (hR : R.WeighsRequests w G) {f : σ → Outcome σ Obj}
    (hf : G.Brings w f w.ref 0) : (requestNew G context f).Obeys R w.stake 0 := by
  unfold requestNew
  refine (hR.request context hf).bind hR.toComposes fun o => ?_
  have made := Attempt.Obeys.lift (ε := ExceptionReport) (e := 0 - w.ref o) hR.toComposes
    (Handle.ofNew_weighed hR.toWeighs o)
  exact made

/-- A borrowed handle weighs nothing, so its index may be chosen. -/
theorem requestBorrowed_weighed (context : String) (hR : R.WeighsRequests w G)
    {f : σ → Outcome σ Obj} (hf : G.Brings w f (fun _ => 0) 0) {n : Handle → Int}
    (hn : ∀ o, n (Handle.ofBorrowed o) = 0) : (requestBorrowed G context f).Obeys R n 0 := by
  unfold requestBorrowed
  refine (hR.request context hf).seq hR.toComposes fun o => ?_
  exact Attempt.Obeys.pure hR.toComposes (hn o)

end Exception

namespace Handle

theorem withoutNul_weighed (hR : R.Composes) (s : String) :
    (withoutNul s : Attempt σ ExceptionReport String).Obeys R (fun _ => 0) 0 := by
  refine Bridge.Obeys.pure hR ?_
  cases cText s with
  | ok t => rfl
  | error r => rfl

theorem getAttr_weighed (hR : R.WeighsRequests w G) (h : Handle) (name : String) :
    (h.getAttr G name).Obeys R w.stake 0 := by
  unfold getAttr
  refine (withoutNul_weighed hR.toComposes name).seq hR.toComposes fun name => ?_
  exact requestNew_weighed _ hR (.getAttr h.obj name)

theorem length_weighed (hR : R.WeighsRequests w G) (h : Handle) :
    (h.length G).Obeys R (fun _ => 0) 0 :=
  hR.request _ (.length h.obj)

theorem contents_weighed (hR : R.WeighsRequests w G) (h : Handle) :
    (h.contents G).Obeys R (fun _ => 0) 0 :=
  hR.request _ (.text h.obj)

theorem str_weighed (hR : R.WeighsRequests w G) (h : Handle) : (h.str G).Obeys R (fun _ => 0) 0 := by
  unfold str
  refine (requestNew_weighed _ hR (.str h.obj)).bind hR.toComposes fun s => ?_
  exact within_weighed hR.toWeighs s (contents_weighed hR s)

theorem newList_weighed (hR : R.WeighsRequests w G) (n : UInt64) :
    (newList G n).Obeys R w.stake 0 :=
  requestNew_weighed _ hR (.newList (signed n))

theorem newTuple_weighed (hR : R.WeighsRequests w G) (n : UInt64) :
    (newTuple G n).Obeys R w.stake 0 :=
  requestNew_weighed _ hR (.newTuple (signed n))

/-- The item ends before the guest is asked, and its reference goes away with both answers. -/
theorem place_weighed (hR : R.WeighsRequests w G) (context : String) (item : Handle)
    {f : Obj → σ → Outcome σ Unit}
    (hf : ∀ o, G.Brings w (f o) (fun _ => -w.ref o) (-w.ref o)) :
    Attempt.Obeys R ((item.steal G : Bridge σ Obj) >>= fun o => request G context (f o))
      (fun _ => -w.stake item) (-w.stake item) := by
  have stolen := Attempt.Obeys.lift (ε := ExceptionReport) (e := -w.stake item) hR.toComposes
    (steal_weighed hR.toWeighs item)
  refine stolen.bind hR.toComposes fun o => ?_
  exact (hR.request context (hf o)).congr (fun _ => by omega) (by omega)

theorem setListItem_weighed (hR : R.WeighsRequests w G) (h : Handle) (index : UInt64)
    (item : Handle) :
    (h.setListItem G index item).Obeys R (fun _ => -w.stake item) (-w.stake item) :=
  place_weighed hR _ item fun o => .setListItem h.obj (signed index) o

theorem setTupleItem_weighed (hR : R.WeighsRequests w G) (h : Handle) (index : UInt64)
    (item : Handle) :
    (h.setTupleItem G index item).Obeys R (fun _ => -w.stake item) (-w.stake item) :=
  place_weighed hR _ item fun o => .setTupleItem h.obj (signed index) o

theorem append_weighed (hR : R.WeighsRequests w G) (h item : Handle) :
    (h.append G item).Obeys R (fun _ => 0) 0 :=
  hR.request _ (.append h.obj item.obj)

theorem newText_weighed (hR : R.WeighsRequests w G) (s : String) :
    (newText G s).Obeys R w.stake 0 := by
  unfold newText
  refine (withoutNul_weighed hR.toComposes s).seq hR.toComposes fun s => ?_
  exact requestNew_weighed _ hR (.newText s)

end Handle

/-! ## Numbers -/

/-- Host values of this type become objects without leaving anything behind, however they fail. -/
def Encoder.Lawful (G : Guest σ) (E : Encoder σ α) : Prop :=
  ∀ R : Conduct σ, R.Lawful G → ∀ a, (E.encode a).Obeys R Handle.stake 0

/-- Objects become host values of this type without leaving anything behind. -/
def Decoder.Lawful (G : Guest σ) (D : Decoder σ β) : Prop :=
  ∀ R : Conduct σ, R.Lawful G → ∀ h, (D.decode h).Obeys R (fun _ => 0) 0

/-- The same on every scale. -/
def Encoder.Weighed (G : Guest σ) (E : Encoder σ α) : Prop :=
  ∀ (w : Scale) (R : Conduct σ), R.WeighsRequests w G → ∀ a, (E.encode a).Obeys R w.stake 0

/-- The same on every scale. -/
def Decoder.Weighed (G : Guest σ) (D : Decoder σ β) : Prop :=
  ∀ (w : Scale) (R : Conduct σ), R.WeighsRequests w G → ∀ h, (D.decode h).Obeys R (fun _ => 0) 0

theorem Encoder.Weighed.lawful {E : Encoder σ α} (hE : E.Weighed G) : E.Lawful G :=
  fun R hR a => (hE _ R hR.weighs a).congr Scale.handles_stake rfl

/-- Host values of a lawful type, on the scale that counts handles. -/
theorem Encoder.Lawful.weighs {E : Encoder σ α} (hE : E.Lawful G) (hR : R.Lawful G) (a : α) :
    (E.encode a).Obeys R Scale.handles.stake 0 :=
  (hE R hR a).congr (fun h => (Scale.handles_stake h).symm) rfl

theorem Decoder.Weighed.lawful {D : Decoder σ β} (hD : D.Weighed G) : D.Lawful G :=
  fun R hR h => hD _ R hR.weighs h

namespace Scalar

theorem encodeFloat_weighed : (encodeFloat G).Weighed G :=
  fun _ _ hR x => requestNew_weighed _ hR (.ofFloat x)

theorem toldClassName_weighed (hR : R.WeighsRequests w G) (h : Handle) :
    (toldClassName G h).Obeys R (fun _ => 0) 0 := by
  unfold toldClassName
  refine (Handle.getAttr_weighed hR h "__class__").bind hR.toComposes fun cls => ?_
  have named := Handle.within_weighed hR.toWeighs cls (Handle.getAttr_weighed hR cls "__name__")
  refine (named.congr (fun _ => rfl) (by omega)).bind hR.toComposes fun name => ?_
  refine (Handle.within_weighed hR.toWeighs name (Handle.str_weighed hR name)).congr ?_ ?_
  · intro _; omega
  · omega

theorem classNameOr_weighed (hR : R.WeighsRequests w G) (substitute : String) (h : Handle) :
    (classNameOr G substitute h).Obeys R fun _ => 0 := by
  unfold classNameOr
  refine Bridge.Obeys.bind hR.toComposes (toldClassName_weighed hR h) fun r => ?_
  cases r with
  | ok s => exact Bridge.Obeys.pure hR.toComposes rfl
  | error r => exact Bridge.Obeys.pure hR.toComposes rfl

theorem wrongKind_weighed (hR : R.WeighsRequests w G) (h : Handle) (expected : String) :
    (wrongKind G h expected).Obeys R fun _ => 0 := by
  unfold wrongKind
  refine (classNameOr_weighed hR "object" h).seq hR.toComposes fun found => ?_
  exact Bridge.Obeys.pure hR.toComposes rfl

theorem decodeFloat_weighed : (decodeFloat G).Weighed G :=
  fun _ _ hR h => hR.checked _ _ (.toFloat h.obj)

theorem decodeInt_weighed : (decodeInt G).Weighed G := by
  intro w R hR h
  refine Bridge.Obeys.get fun s => ?_
  split
  next =>
    refine (wrongKind_weighed hR h "int").seq hR.toComposes fun r => ?_
    exact Bridge.Obeys.pure hR.toComposes rfl
  next => exact hR.checked _ _ (.toInt h.obj)

theorem decodeInt_lawful : (decodeInt G).Lawful G := decodeInt_weighed.lawful

theorem decodeBool_weighed : (decodeBool G).Weighed G := by
  intro w R hR h
  show Bridge.Obeys R (if h.obj = G.trueObj then _ else _) _
  split
  next => exact Bridge.Obeys.pure hR.toComposes rfl
  next =>
    split
    next => exact Bridge.Obeys.pure hR.toComposes rfl
    next =>
      refine (wrongKind_weighed hR h "bool").seq hR.toComposes fun r => ?_
      exact Bridge.Obeys.pure hR.toComposes rfl

end Scalar

/-! ## Walks and lists -/

namespace Walk

theorem start_weighed (hR : R.WeighsRequests w G) (iterable : Handle) :
    (start G iterable).Obeys R (fun walk => w.stake walk.next) 0 := by
  unfold start
  refine (requestNew_weighed _ hR (.iterator iterable.obj)).bind hR.toComposes fun iterator => ?_
  refine Handle.within_weighed hR.toWeighs iterator ?_
  refine (Handle.getAttr_weighed hR iterator "__next__").bind hR.toComposes fun next => ?_
  exact Attempt.Obeys.pure hR.toComposes (Int.sub_self _)

theorem start_lawful (hR : R.Lawful G) (iterable : Handle) :
    (start G iterable).Obeys R (fun walk => walk.next.stake) 0 :=
  (start_weighed hR.weighs iterable).congr (fun _ => Scale.handles_stake _) rfl

theorem drop_obeys (hR : R.Calm G) (w : Walk) : (w.drop G).Obeys R fun _ => -w.next.stake :=
  Handle.drop_obeys hR w.next

end Walk

namespace Sequence

/-- Each item belongs to the list as soon as it is placed, so nothing is left behind at any
index. -/
theorem fill_weighed (hR : R.WeighsRequests w G) {E : Encoder σ α}
    (hE : ∀ a, (E.encode a).Obeys R w.stake 0) (list : Handle) :
    ∀ (values : List α) (index : Nat), (fill G E list index values).Obeys R (fun _ => 0) 0 := by
  intro values
  induction values with
  | nil => intro index; exact Attempt.Obeys.pure hR.toComposes rfl
  | cons a as ih =>
    intro index
    unfold fill
    refine ((hE a).mapError hR.toComposes).bind hR.toComposes fun item => ?_
    -- the item is made, and ends when it is placed or not
    have placed := Handle.setListItem_weighed hR list (UInt64.ofNat index) item
    refine ((placed.mapError hR.toComposes).congr (fun _ => rfl) (by omega)).bind
      hR.toComposes fun _ => ?_
    exact (ih (index + 1)).congr (fun _ => by omega) (by omega)

theorem toList_weighed (hR : R.WeighsRequests w G) {E : Encoder σ α}
    (hE : ∀ a, (E.encode a).Obeys R w.stake 0) (values : List α) :
    (toList G E values).Obeys R w.stake 0 := by
  unfold toList
  have made := Handle.newList_weighed hR (UInt64.ofNat values.length)
  refine (made.mapError hR.toComposes).bind hR.toComposes fun list => ?_
  refine Bridge.Obeys.bind hR.toComposes (fill_weighed hR hE list values 0) fun r => ?_
  cases r with
  | ok u => exact Bridge.Obeys.pure hR.toComposes (by simp [leaves])
  | error e =>
    refine (Handle.drop_weighed hR.toWeighs list).bind hR.toComposes fun _ => ?_
    exact Bridge.Obeys.pure hR.toComposes (by simp [leaves])

theorem toList_lawful (hR : R.Lawful G) {E : Encoder σ α} (hE : E.Lawful G) (values : List α) :
    (toList G E values).Obeys R Handle.stake 0 :=
  (toList_weighed hR.weighs (hE.weighs hR) values).congr Scale.handles_stake rfl

/-- Reading leaves no item behind, and the walk in place of the walk before. -/
theorem readItems_weighed (hR : R.WeighsRequests w G) {D : Decoder σ β}
    (hD : ∀ h, (D.decode h).Obeys R (fun _ => 0) 0) (expected : Nat) :
    ∀ (count index : Nat) (walk : Walk), (readItems G D expected count index walk).Obeys R
      fun r => w.stake r.2.next - w.stake walk.next := by
  intro count
  induction count with
  | zero => intro index walk; exact Bridge.Obeys.pure hR.toComposes (Int.sub_self _)
  | succ count ih =>
    intro index walk
    unfold readItems
    refine (hR.step walk).bind hR.toComposes fun r => ?_
    obtain ⟨step, walk'⟩ := r
    cases step with
    | finished => exact Bridge.Obeys.pure hR.toComposes (by simp [Scale.stride, Scale.item])
    | failed r => exact Bridge.Obeys.pure hR.toComposes (by simp [Scale.stride, Scale.item])
    | item h =>
      -- the item of this step ends before the next one begins
      refine (Handle.owning_weighed hR.toWeighs h (hD h)).bind hR.toComposes fun r => ?_
      cases r with
      | error c =>
        refine Bridge.Obeys.pure hR.toComposes ?_
        simp only [Scale.stride, Scale.item, leaves]
        omega
      | ok b =>
        refine (ih (index + 1) walk').bind hR.toComposes fun r => ?_
        refine Bridge.Obeys.pure hR.toComposes ?_
        simp only [Scale.stride, Scale.item, leaves]
        omega

theorem fromList_weighed (hR : R.WeighsRequests w G) {D : Decoder σ β}
    (hD : ∀ h, (D.decode h).Obeys R (fun _ => 0) 0) (seq : Handle) :
    (fromList G D seq).Obeys R (fun _ => 0) 0 := by
  unfold fromList
  have measured := (Handle.length_weighed hR seq).mapError hR.toComposes
    (g := fun c => Failure.marshal (.notASequence c))
  refine measured.seq hR.toComposes fun expected => ?_
  have begun := (Walk.start_weighed hR seq).mapError hR.toComposes
    (g := fun c => Failure.marshal (.notASequence c))
  refine begun.bind hR.toComposes fun walk => ?_
  refine (readItems_weighed hR hD expected expected 0 walk).bind hR.toComposes fun r => ?_
  refine (Handle.drop_weighed hR.toWeighs r.2.next).bind hR.toComposes fun _ => ?_
  refine Bridge.Obeys.pure hR.toComposes ?_
  cases r.1 with
  | ok _ =>
    simp only [leaves]
    omega
  | error _ =>
    simp only [leaves]
    omega

theorem fromList_lawful (hR : R.Lawful G) {D : Decoder σ β} (hD : D.Lawful G) (seq : Handle) :
    (fromList G D seq).Obeys R (fun _ => 0) 0 :=
  fromList_weighed hR.weighs (hD R hR) seq

end Sequence

/-! ## Modules and calls -/

namespace ModuleHandle

theorem checkedName_weighed (hR : R.Composes) (s : String) :
    (checkedName s : Attempt σ Failure String).Obeys R (fun _ => 0) 0 :=
  (Handle.withoutNul_weighed hR s).mapError hR

theorem resolve_weighed (hR : R.WeighsRequests w G) (name : String) :
    (resolve G name).Obeys R w.stake 0 := by
  unfold resolve
  refine (checkedName_weighed hR.toComposes name).seq hR.toComposes fun checked => ?_
  have imported := requestNew_weighed "PyImport_ImportModule" hR (.importModule checked)
  refine Bridge.Obeys.bind hR.toComposes imported fun r => ?_
  cases r with
  | ok h => exact Bridge.Obeys.pure hR.toComposes (Int.sub_self _)
  | error cause =>
    refine (Bridge.Obeys.modify (hR.record _)).seq hR.toComposes fun _ => ?_
    exact Bridge.Obeys.pure hR.toComposes rfl

/-- The module's handle is borrowed, so its index may be chosen. -/
theorem lookUp_weighed (hR : R.WeighsRequests w G) (name : String) {n : Handle → Int}
    (hn : ∀ o, n (Handle.ofBorrowed o) = 0) :
    Attempt.Obeys R (checkedName name >>= fun checked =>
      (requestBorrowed G "PyImport_AddModule" (G.addModule checked)).mapError
        (Failure.moduleNotFound name)) n 0 := by
  refine (checkedName_weighed hR.toComposes name).seq hR.toComposes fun checked => ?_
  exact (requestBorrowed_weighed _ hR (.addModule checked) hn).mapError hR.toComposes

/-- The handle of the import lives while the module is looked up, and ends on both outcomes. -/
theorem bind_weighed (hR : R.WeighsRequests w G) (imported : Handle) (name : String)
    {n : ModuleHandle → Int} (hn : ∀ name o, n ⟨name, Handle.ofBorrowed o⟩ = 0) :
    (bind G imported name).Obeys R (fun m => n m - w.stake imported) (-w.stake imported) := by
  unfold bind
  have found := lookUp_weighed hR name (n := fun h => n ⟨name, h⟩) (hn name)
  have ended := (Handle.within_weighed hR.toWeighs imported found).congr
    (fun _ => rfl) (Int.zero_sub (w.stake imported))
  refine ended.bind hR.toComposes fun h => ?_
  have reported : Attempt.Obeys (ε := Failure) R
      (ExceptT.lift (Bridge.debug "bound module" [.quoted "module" name] : Bridge σ Unit))
      (fun _ => 0) (-w.stake imported - (n ⟨name, h⟩ - w.stake imported)) :=
    Attempt.Obeys.lift hR.toComposes (Bridge.Obeys.modify (hR.record _))
  refine reported.seq hR.toComposes fun _ => ?_
  exact Attempt.Obeys.pure hR.toComposes (Int.sub_self _)

theorem importAs_weighed (hR : R.WeighsRequests w G) (name : String)
    {n : ModuleHandle → Int} (hn : ∀ name o, n ⟨name, Handle.ofBorrowed o⟩ = 0) :
    (importAs G name).Obeys R n 0 := by
  unfold importAs
  refine (resolve_weighed hR name).bind hR.toComposes fun imported => ?_
  exact (bind_weighed hR imported name hn).congr (fun _ => rfl) (Int.zero_sub _).symm

/-- A callable's handle is borrowed, so its index may be chosen. -/
theorem resolveCallable_weighed (hR : R.WeighsRequests w G) (m : ModuleHandle) (attr : String)
    {n : CallableHandle → Int} (hn : ∀ name attr o, n ⟨name, attr, Handle.ofBorrowed o⟩ = 0) :
    (m.resolveCallable G attr).Obeys R n 0 := by
  unfold resolveCallable
  have found := (requestBorrowed_weighed "PyModule_GetDict" hR
    (.namespaceOf m.handle.obj) (n := fun _ => 0) fun _ => rfl).mapError hR.toComposes
    (g := Failure.raised)
  refine found.seq hR.toComposes fun space => ?_
  refine (checkedName_weighed hR.toComposes attr).seq hR.toComposes fun checked => ?_
  refine Attempt.Obeys.get fun s => ?_
  dsimp only
  split
  next => exact Attempt.Obeys.throw hR.toComposes
  next o _ =>
    split
    next => exact Attempt.Obeys.pure hR.toComposes (hn _ _ o)
    next => exact Attempt.Obeys.throw hR.toComposes

end ModuleHandle

namespace CallableHandle

theorem invoke_weighed (hR : R.WeighsRequests w G) (c : CallableHandle) (args : Option Handle) :
    (c.invoke G args).Obeys R w.stake 0 := by
  unfold invoke
  have called := requestNew_weighed "PyObject_CallObject" hR
    (.call c.handle.obj (args.map (·.obj)))
  refine Bridge.Obeys.bind hR.toComposes called fun r => ?_
  cases r with
  | ok h => exact Bridge.Obeys.pure hR.toComposes (Int.sub_self _)
  | error cause =>
    refine (Bridge.Obeys.modify (hR.record _)).seq hR.toComposes fun _ => ?_
    exact Bridge.Obeys.pure hR.toComposes rfl

theorem fillTuple_weighed (hR : R.WeighsRequests w G) (tuple : Handle) :
    ∀ (args : List Handle) (index : Nat),
      (fillTuple G tuple index args).Obeys R (fun _ => 0) 0 := by
  intro args
  induction args with
  | nil => intro index; exact Attempt.Obeys.pure hR.toComposes rfl
  | cons a as ih =>
    intro index
    unfold fillTuple
    have cloned := Attempt.Obeys.lift (ε := ExceptionReport) (e := 0) hR.toComposes
      (Handle.clone_weighed hR.toWeighs a)
    refine cloned.bind hR.toComposes fun copy => ?_
    have placed := Handle.setTupleItem_weighed hR tuple (UInt64.ofNat index) copy
    refine (placed.congr (fun _ => rfl) (by omega)).bind hR.toComposes fun _ => ?_
    exact (ih (index + 1)).congr (fun _ => by omega) (by omega)

theorem invokeWith_weighed (hR : R.WeighsRequests w G) (c : CallableHandle) (args : List Handle) :
    (c.invokeWith G args).Obeys R w.stake 0 := by
  unfold invokeWith
  have made := (Handle.newTuple_weighed hR (UInt64.ofNat args.length)).mapError hR.toComposes
    (g := Failure.raised)
  refine made.bind hR.toComposes fun tuple => ?_
  refine Handle.within_weighed hR.toWeighs tuple ?_
  have filled := (fillTuple_weighed hR tuple args 0).mapError hR.toComposes (g := Failure.raised)
  exact filled.seq hR.toComposes fun _ => invoke_weighed hR c (some tuple)

/-- Copying a list over, calling, and copying the result back leaves nothing behind. -/
theorem callWith_weighed (hR : R.WeighsRequests w G) {E : Encoder σ α} {D : Decoder σ β}
    (hE : ∀ a, (E.encode a).Obeys R w.stake 0) (hD : ∀ h, (D.decode h).Obeys R (fun _ => 0) 0)
    (c : CallableHandle) (args : List α) :
    (c.callWith G E D args).Obeys R (fun _ => 0) 0 := by
  unfold callWith
  refine (Sequence.toList_weighed hR hE args).bind hR.toComposes fun list => ?_
  refine Handle.within_weighed hR.toWeighs list ?_
  refine (invokeWith_weighed hR c [list]).bind hR.toComposes fun result => ?_
  exact Handle.within_weighed hR.toWeighs result (Sequence.fromList_weighed hR hD result)

end CallableHandle

/-! ## Sessions -/

namespace Session

variable {busy : Bool} {generation : Nat}

/-- Settling does nothing but end references. -/
theorem settle_obeys (hR : R.Composes)
    (hrelease : ∀ k, (Bridge.act (G.releaseKept busy k)).Obeys R fun _ => 0) :
    ∀ ks : List Kept, (settle G busy generation ks).Obeys R fun _ => 0 := by
  intro ks
  induction ks with
  | nil => exact Bridge.Obeys.pure hR rfl
  | cons k ks ih =>
    unfold settle
    refine Bridge.Obeys.seq hR ?_ fun _ => ih
    unfold settleOne
    split
    next => exact hrelease k
    next => exact Bridge.Obeys.pure hR rfl

theorem settleWaiting_obeys (hR : R.Composes)
    (hrelease : ∀ k, (Bridge.act (G.releaseKept busy k)).Obeys R fun _ => 0)
    (hqueue : ∀ h, R 0 h { h with waiting := [] }) :
    (settleWaiting G busy generation).Obeys R fun _ => 0 := by
  unfold settleWaiting
  refine Bridge.Obeys.get fun s => ?_
  exact (Bridge.Obeys.modify hqueue).seq hR fun _ => settle_obeys hR hrelease _

end Session

/-- A conduct that also admits what happens when a session of the running interpreter begins. -/
structure Conduct.Sessional (G : Guest σ) (R : Conduct σ) : Prop extends R.Lawful G where
  settle : ∀ {h h' : Host σ} {u : Unit}, h.lifecycle.stage = .running →
    (Session.settleWaiting G false h.lifecycle.generation).run h = .ok (u, h') → R 0 h h'

/-- The same for a conduct on a scale: what waits is none of what the bridge has in hand. -/
structure Conduct.WeighsSessions (w : Scale) (G : Guest σ) (R : Conduct σ) : Prop
    extends R.WeighsRequests w G where
  settle : ∀ {h h' : Host σ} {u : Unit}, h.lifecycle.stage = .running →
    (Session.settleWaiting G false h.lifecycle.generation).run h = .ok (u, h') → R 0 h h'

theorem Conduct.Sessional.weighsSessions (hR : R.Sessional G) :
    R.WeighsSessions Scale.handles G where
  toWeighsRequests := hR.toLawful.weighs
  settle := hR.settle

namespace Session

/-- Whether a session that wants the generation `expected`, if one is given, can begin. -/
def Open (expected : Option Nat) (life : Lifecycle) : Prop :=
  life.stage = .running ∧ expected.all (· = life.generation)

variable {expected : Option Nat} {body : Nat → Attempt σ Failure α} {h : Host σ}

/-- A session begins with the queue and goes on with its body. -/
theorem enterAs_run_of_open (hopen : Open expected h.lifecycle) :
    (enterAs G expected body).run.run h =
      (settleWaiting G false h.lifecycle.generation >>= fun _ =>
        (body h.lifecycle.generation).run).run h := by
  show (if h.lifecycle.stage = .running ∧ expected.all (· = h.lifecycle.generation) then _ else _ :
    Attempt σ Failure α).run.run h = _
  split
  next =>
    show ((Except.ok <$> settleWaiting G false h.lifecycle.generation) >>= _).run h = _
    rw [StateT.run_bind, StateT.run_map, StateT.run_bind]
    cases (settleWaiting G false h.lifecycle.generation).run h with
    | error e => rfl
    | ok p => rfl
  next hclosed => exact absurd hopen hclosed

/-- A session that cannot begin changes nothing. -/
theorem enterAs_run_of_not_open (hopen : ¬Open expected h.lifecycle) :
    (enterAs G expected body).run.run h = .ok (.error .notRunning, h) := by
  show (if h.lifecycle.stage = .running ∧ expected.all (· = h.lifecycle.generation) then _ else _ :
    Attempt σ Failure α).run.run h = _
  split
  next hstarted => exact absurd hstarted hopen
  next => rfl

/-- A session keeps to what its body keeps to. -/
theorem enterAs_weighed (hR : R.WeighsSessions w G) (expected : Option Nat)
    {body : Nat → Attempt σ Failure α} {n : α → Int}
    (hbody : ∀ generation, (body generation).Obeys R n 0) :
    (enterAs G expected body).Obeys R n 0 := by
  intro h r h' hr
  by_cases hopen : Open expected h.lifecycle
  · rw [enterAs_run_of_open hopen] at hr
    obtain ⟨u, h₁, hsettle, hrest⟩ := Bridge.bind_ok hr
    have hall := hR.trans (hR.settle hopen.1 hsettle) (hbody _ h₁ r h' hrest)
    rwa [Int.zero_add] at hall
  · rw [enterAs_run_of_not_open hopen] at hr
    obtain ⟨rfl, rfl⟩ := Bridge.pure_ok hr
    exact hR.refl _

theorem enterAs_sessional (hR : R.Sessional G) (expected : Option Nat)
    {body : Nat → Attempt σ Failure α} {n : α → Int}
    (hbody : ∀ generation, (body generation).Obeys R n 0) :
    (enterAs G expected body).Obeys R n 0 :=
  enterAs_weighed hR.weighsSessions expected hbody

theorem enter_weighed (hR : R.WeighsSessions w G) {body : Attempt σ Failure α} {n : α → Int}
    (hbody : body.Obeys R n 0) : (enter G body).Obeys R n 0 :=
  enterAs_weighed hR none fun _ => hbody

theorem enter_sessional (hR : R.Sessional G) {body : Attempt σ Failure α} {n : α → Int}
    (hbody : body.Obeys R n 0) : (enter G body).Obeys R n 0 :=
  enterAs_sessional hR none fun _ => hbody

end Session

theorem callFunction_weighed (hR : R.WeighsSessions w G) {E : Encoder σ α} {D : Decoder σ β}
    (hE : ∀ a, (E.encode a).Obeys R w.stake 0) (hD : ∀ h, (D.decode h).Obeys R (fun _ => 0) 0)
    (moduleName function : String) (args : List α) :
    (callFunction G E D moduleName function args).Obeys R (fun _ => 0) 0 := by
  have hrequests := hR.toWeighsRequests
  refine Session.enter_weighed hR ?_
  have imported := ModuleHandle.importAs_weighed hrequests moduleName (n := fun _ => 0)
    fun _ _ => rfl
  refine imported.seq hR.toComposes fun m => ?_
  refine (ModuleHandle.resolveCallable_weighed hrequests m function fun _ _ _ => rfl).seq
    hR.toComposes fun c => ?_
  exact CallableHandle.callWith_weighed hrequests hE hD c args

theorem callFunction_sessional (hR : R.Sessional G) {E : Encoder σ α} {D : Decoder σ β}
    (hE : E.Lawful G) (hD : D.Lawful G) (moduleName function : String) (args : List α) :
    (callFunction G E D moduleName function args).Obeys R (fun _ => 0) 0 :=
  callFunction_weighed hR.weighsSessions (hE.weighs hR.toLawful) (hD R hR.toLawful) moduleName
    function args

namespace Binding

/-- The handle of the callable is promoted and stolen; the binding holds its reference. -/
theorem bind_weighed (hR : R.WeighsSessions w G) (moduleName function : String) :
    (bind G moduleName function).Obeys R (fun b => w.ref b.callable) 0 := by
  have hrequests := hR.toWeighsRequests
  refine Session.enterAs_weighed hR none fun generation => ?_
  have imported := ModuleHandle.importAs_weighed hrequests moduleName (n := fun _ => 0)
    fun _ _ => rfl
  refine imported.seq hR.toComposes fun m => ?_
  refine (ModuleHandle.resolveCallable_weighed hrequests m function
    (n := fun c => w.stake c.handle) fun _ _ _ => rfl).bind hR.toComposes fun c => ?_
  -- the handle becomes owned and is stolen at once: the reference goes to the binding
  have promoted := Attempt.Obeys.lift (ε := Failure) (e := 0 - w.stake c.handle) hR.toComposes
    (Handle.promote_weighed hR.toWeighs c.handle)
  refine promoted.bind hR.toComposes fun owned => ?_
  have reported := Attempt.Obeys.lift (ε := Failure) (e := 0 - w.stake owned) hR.toComposes
    (Bridge.Obeys.modify (hR.record ⟨.debug, "bound function",
      [.plain "function" c.qualifiedName, .count "generation" generation]⟩))
  refine (reported.congr (fun _ => rfl) (by omega)).seq hR.toComposes fun _ => ?_
  have stolen := Attempt.Obeys.lift (ε := Failure) (e := -w.stake owned) hR.toComposes
    (Handle.steal_weighed hR.toWeighs owned)
  refine (stolen.congr (fun _ => rfl) (by omega)).bind hR.toComposes fun o => ?_
  exact Attempt.Obeys.pure hR.toComposes (by dsimp only; omega)

theorem bind_sessional (hR : R.Sessional G) (moduleName function : String) :
    (bind G moduleName function).Obeys R (fun _ => 0) 0 :=
  (bind_weighed hR.weighsSessions moduleName function).congr (fun _ => rfl) rfl

theorem callAs_weighed (hR : R.WeighsSessions w G) {E : Encoder σ α} {D : Decoder σ β}
    (hE : ∀ a, (E.encode a).Obeys R w.stake 0) (hD : ∀ h, (D.decode h).Obeys R (fun _ => 0) 0)
    (b : Binding) (args : List α) : (b.callAs G E D args).Obeys R (fun _ => 0) 0 := by
  refine Session.enterAs_weighed hR (some b.generation) fun _ => ?_
  have shared := Attempt.Obeys.lift (ε := Failure) (e := 0) hR.toComposes
    (Handle.ofShared_weighed hR.toWeighs b.callable)
  refine shared.bind hR.toComposes fun h => ?_
  exact Handle.within_weighed hR.toWeighs h
    (CallableHandle.callWith_weighed hR.toWeighsRequests hE hD _ args)

theorem callAs_sessional (hR : R.Sessional G) {E : Encoder σ α} {D : Decoder σ β}
    (hE : E.Lawful G) (hD : D.Lawful G) (b : Binding) (args : List α) :
    (b.callAs G E D args).Obeys R (fun _ => 0) 0 :=
  callAs_weighed hR.weighsSessions (hE.weighs hR.toLawful) (hD R hR.toLawful) b args

end Binding

namespace Interpreter

theorem appendPath_weighed (hR : R.WeighsSessions w G) (path : SearchPath) :
    (appendPath G path).Obeys R (fun _ => 0) 0 := by
  have hrequests := hR.toWeighsRequests
  unfold appendPath
  cases path.text? with
  | none => exact Attempt.Obeys.throw hR.toComposes
  | some text =>
    refine Session.enter_weighed hR ?_
    refine Attempt.Obeys.get fun s => ?_
    cases G.searchPath s.world with
    | none =>
      have fetched := Attempt.Obeys.lift (ε := Failure) (e := 0) hR.toComposes (hR.fetch "sys.path")
      exact fetched.seq hR.toComposes fun r => Attempt.Obeys.throw hR.toComposes
    | some list =>
      have made := (Handle.newText_weighed hrequests text).mapError hR.toComposes
        (g := Failure.raised)
      refine made.bind hR.toComposes fun entry => ?_
      refine Handle.within_weighed hR.toWeighs entry ?_
      have placed := Handle.append_weighed hrequests (Handle.ofBorrowed list) entry
      have appended := placed.mapError hR.toComposes (g := Failure.raised)
      refine appended.seq hR.toComposes fun _ => ?_
      exact Attempt.Obeys.lift hR.toComposes (Bridge.Obeys.modify (hR.record _))

theorem appendPath_sessional (hR : R.Sessional G) (path : SearchPath) :
    (appendPath G path).Obeys R (fun _ => 0) 0 :=
  appendPath_weighed hR.weighsSessions path

theorem appendPaths_weighed (hR : R.WeighsSessions w G) :
    ∀ paths : List SearchPath, (appendPaths G paths).Obeys R (fun _ => 0) 0 := by
  intro paths
  induction paths with
  | nil => exact Attempt.Obeys.pure hR.toComposes rfl
  | cons p ps ih =>
    unfold appendPaths
    exact (appendPath_weighed hR p).seq hR.toComposes fun _ => ih

theorem appendPaths_sessional (hR : R.Sessional G) (paths : List SearchPath) :
    (appendPaths G paths).Obeys R (fun _ => 0) 0 :=
  appendPaths_weighed hR.weighsSessions paths

end Interpreter

end Embedder
