import Embedder.Proofs.Run
import Mathlib.Algebra.Ring.Int.Defs

/-!
# Conduct: what a program of the bridge may do to its host

Whatever Python code does, most programs of the bridge touch a host in a few ways only: they let the
guest act, count handles, and write records. A `Conduct` is a relation between the host before and
after, indexed by the number of owned handles left behind; `Obeys` says that a program keeps to it
however it returns. A program that ends the process returns nothing, so nothing is asked of it.

A conduct that admits the primitive steps (`Calm`) is then kept by every program made of them. Each
function of the bridge is looked at once, for all conducts: a frame ("the lifecycle stays"), the
balance of live handles or the diary of an observed guest is an instance.

The index of a program is what it gives back: `h.stake` for a program that returns the handle `h`,
minus `h.stake` for one that ends `h`, zero for one that leaves no handle behind. What is shown of
programs that make and end handles is shown on any `Scale`, so it holds of the number of owned
handles as of the references that the bridge holds to an object.
-/

namespace Embedder

/-- What may happen between two states of a host, by the number of owned handles left behind. -/
abbrev Conduct (σ : Type) := Int → Host σ → Host σ → Prop

variable {σ α β ε ε' : Type} {G : Guest σ} {R : Conduct σ}

/-! ## Keeping to a conduct -/

/-- However the program returns, it leaves `n a` owned handles behind, and nothing happened that the
conduct does not admit. -/
def Bridge.Obeys (R : Conduct σ) (x : Bridge σ α) (n : α → Int) : Prop :=
  ∀ h a h', x.run h = .ok (a, h') → R (n a) h h'

/-- What an attempt leaves behind: `n a` handles with a result `a`, and `e` with an error. -/
def leaves (n : α → Int) (e : Int) : Except ε α → Int
  | .ok a => n a
  | .error _ => e

theorem leaves_zero (r : Except ε α) : leaves (fun _ => 0) 0 r = 0 := by cases r <;> rfl

/-- The same for an attempt, which also may fail. -/
def Attempt.Obeys (R : Conduct σ) (x : Attempt σ ε α) (n : α → Int) (e : Int) : Prop :=
  Bridge.Obeys R x.run (leaves n e)

/-- Happenings can follow each other, and the handles add up. -/
structure Conduct.Composes (R : Conduct σ) : Prop where
  refl : ∀ h, R 0 h h
  trans : ∀ {m n h₁ h₂ h₃}, R m h₁ h₂ → R n h₂ h₃ → R (m + n) h₁ h₃

namespace Bridge.Obeys

variable {x : Bridge σ α} {f : α → Bridge σ β} {m n : α → Int} {k : β → Int}

theorem congr (hx : x.Obeys R m) (hmn : ∀ a, m a = n a) : x.Obeys R n := by
  intro h a h' hr
  rw [← hmn a]
  exact hx h a h' hr

theorem pure (hR : R.Composes) {a : α} (hn : n a = 0) : (pure a : Bridge σ α).Obeys R n := by
  intro h b h' hr
  obtain ⟨rfl, rfl⟩ := pure_ok hr
  rw [hn]
  exact hR.refl _

/-- What is left behind in the end is what the first program left and what the second added. -/
theorem bind (hR : R.Composes) (hx : x.Obeys R m) (hf : ∀ a, (f a).Obeys R fun b => k b - m a) :
    (x >>= f).Obeys R k := by
  intro h b h' hr
  obtain ⟨a, h₁, hxr, hfr⟩ := bind_ok hr
  have hall := hR.trans (hx h a h₁ hxr) (hf a h₁ b h' hfr)
  rwa [show m a + (k b - m a) = k b by omega] at hall

/-- After a program that leaves nothing behind. -/
theorem seq (hR : R.Composes) (hx : x.Obeys R fun _ => 0) (hf : ∀ a, (f a).Obeys R k) :
    (x >>= f).Obeys R k :=
  bind hR hx fun a => (hf a).congr fun b => by omega

theorem get {f : Host σ → Bridge σ β} (hf : ∀ s, (f s).Obeys R k) : (get >>= f).Obeys R k :=
  fun h b h' hr => hf h h b h' hr

theorem modify {g : Host σ → Host σ} {i : Int} (hg : ∀ h, R i h (g h)) :
    (modify g : Bridge σ Unit).Obeys R fun _ => i := by
  intro h u h' hr
  cases hr
  exact hg h

theorem exit (status : Nat) : (exit status : Bridge σ α).Obeys R n := by
  intro h a h' hr
  cases hr

end Bridge.Obeys

namespace Attempt.Obeys

variable {x : Attempt σ ε α} {f : α → Attempt σ ε β} {m n : α → Int} {k : β → Int} {d e : Int}

theorem congr (hx : x.Obeys R m d) (hmn : ∀ a, m a = n a) (hde : d = e) : x.Obeys R n e := by
  subst hde
  refine Bridge.Obeys.congr hx fun r => ?_
  cases r with
  | ok a => exact hmn a
  | error c => rfl

theorem pure (hR : R.Composes) {a : α} (hn : n a = 0) :
    (pure a : Attempt σ ε α).Obeys R n e :=
  Bridge.Obeys.pure hR (n := leaves n e) (a := .ok a) hn

theorem throw (hR : R.Composes) {c : ε} : (throw c : Attempt σ ε α).Obeys R n 0 :=
  Bridge.Obeys.pure hR (n := leaves n 0) (a := .error c) rfl

/-- An attempt that fails after another one ends what that one left behind. -/
theorem bind (hR : R.Composes) (hx : x.Obeys R m e)
    (hf : ∀ a, (f a).Obeys R (fun b => k b - m a) (e - m a)) : (x >>= f).Obeys R k e := by
  refine Bridge.Obeys.bind hR hx fun r => ?_
  cases r with
  | ok a =>
    refine Bridge.Obeys.congr (hf a) fun b => ?_
    cases b with
    | ok b => rfl
    | error c => rfl
  | error c =>
    exact Bridge.Obeys.pure hR (n := fun b => leaves k e b - e) (a := .error c) (by simp [leaves])

/-- After an attempt that leaves nothing behind. -/
theorem seq (hR : R.Composes) (hx : x.Obeys R (fun _ => 0) e) (hf : ∀ a, (f a).Obeys R k e) :
    (x >>= f).Obeys R k e :=
  bind hR hx fun a => (hf a).congr (fun b => by omega) (by omega)

/-- A program as an attempt that does not fail. -/
theorem lift (hR : R.Composes) {y : Bridge σ α} (hy : y.Obeys R n) :
    Attempt.Obeys R (ExceptT.lift y : Attempt σ ε α) n e := by
  show Bridge.Obeys R (Except.ok <$> y) (leaves n e)
  rw [map_eq_pure_bind]
  refine Bridge.Obeys.bind hR hy fun a => ?_
  exact Bridge.Obeys.pure hR (by simp [leaves])

theorem get {f : Host σ → Attempt σ ε β} (hf : ∀ s, (f s).Obeys R k e) :
    (get >>= f).Obeys R k e :=
  fun h b h' hr => hf h h b h' hr

theorem mapError (hR : R.Composes) {g : ε → ε'} (hx : x.Obeys R n e) :
    (x.mapError g).Obeys R n e := by
  refine Bridge.Obeys.bind hR hx fun r => ?_
  cases r with
  | ok a => exact Bridge.Obeys.pure hR (by simp [leaves])
  | error c => exact Bridge.Obeys.pure hR (by simp [leaves])

end Attempt.Obeys

/-! ## Scales -/

/-- The handles that a handle counts for: one if it is owned. -/
def Handle.stake (h : Handle) : Int :=
  match h.ownership with
  | .owned => 1
  | .borrowed => 0

/-- What handles and references weigh. The number of owned handles is weighed on one scale, the
references to an object on another. -/
structure Scale where
  /-- The weight of an owned handle, beside the reference that it holds. -/
  handle : Int
  /-- The weight of a reference to an object. -/
  ref : Obj → Int

namespace Scale

/-- The weight of a handle: one that is borrowed weighs nothing. -/
def stake (w : Scale) (h : Handle) : Int :=
  match h.ownership with
  | .owned => w.handle + w.ref h.obj
  | .borrowed => 0

/-- The weight of references to some objects. -/
def refs (w : Scale) (os : List Obj) : Int := (os.map w.ref).sum

/-- The scale that counts owned handles. -/
def handles : Scale := ⟨1, fun _ => 0⟩

variable {w : Scale}

@[simp] theorem stake_owned (o : Obj) : w.stake ⟨o, .owned⟩ = w.handle + w.ref o := rfl

@[simp] theorem stake_borrowed (o : Obj) : w.stake ⟨o, .borrowed⟩ = 0 := rfl

@[simp] theorem refs_nil : w.refs [] = 0 := rfl

@[simp] theorem refs_cons (o : Obj) (os : List Obj) : w.refs (o :: os) = w.ref o + w.refs os :=
  List.sum_cons

theorem refs_append (os ps : List Obj) : w.refs (os ++ ps) = w.refs os + w.refs ps := by
  unfold refs
  rw [List.map_append, List.sum_append]

@[simp] theorem handles_ref (o : Obj) : handles.ref o = 0 := rfl

@[simp] theorem handles_stake (h : Handle) : handles.stake h = h.stake := by
  obtain ⟨o, ownership⟩ := h
  cases ownership with
  | owned => rfl
  | borrowed => rfl

end Scale

/-! ## Handles -/

/-- A conduct that lets handles be made and ended. Nothing in it may depend on what is pending. -/
structure Conduct.Calm (G : Guest σ) (R : Conduct σ) : Prop extends R.Composes where
  count : ∀ n h, R n h { h with live := h.live + n }
  record : ∀ r h, R 0 h { h with log := h.log ++ [r] }
  retain : ∀ o h, R 0 h { h with world := G.retain o h.world }
  release : ∀ o, (Bridge.act (G.release o)).Obeys R fun _ => 0

/-- The same on a scale: the index is the weight left behind. -/
structure Conduct.Weighs (w : Scale) (G : Guest σ) (R : Conduct σ) : Prop extends R.Composes where
  count : ∀ n h, R (n * w.handle) h { h with live := h.live + n }
  record : ∀ r h, R 0 h { h with log := h.log ++ [r] }
  retain : ∀ o h, R (w.ref o) h { h with world := G.retain o h.world }
  release : ∀ o, (Bridge.act (G.release o)).Obeys R fun _ => -w.ref o

/-- A calm conduct weighs handles only. -/
theorem Conduct.Calm.weighs (hR : R.Calm G) : R.Weighs Scale.handles G where
  toComposes := hR.toComposes
  count n h := by
    rw [show n * Scale.handles.handle = n from Int.mul_one n]
    exact hR.count n h
  record := hR.record
  retain := hR.retain
  release := hR.release

namespace Handle

variable {w : Scale} {n : α → Int} {e : Int}

/-! ### On a scale -/

theorem ofNew_weighed (hR : R.Weighs w G) (o : Obj) :
    (ofNew o : Bridge σ Handle).Obeys R fun h => w.stake h - w.ref o := by
  unfold ofNew
  refine (Bridge.Obeys.modify (hR.count 1)).bind hR.toComposes fun _ => ?_
  exact Bridge.Obeys.pure hR.toComposes (by rw [Scale.stake_owned]; omega)

theorem ofShared_weighed (hR : R.Weighs w G) (o : Obj) : (ofShared G o).Obeys R w.stake := by
  unfold ofShared
  refine (Bridge.Obeys.modify (hR.retain o)).bind hR.toComposes fun _ => ?_
  exact ofNew_weighed hR o

theorem clone_weighed (hR : R.Weighs w G) (h : Handle) : (h.clone G).Obeys R w.stake :=
  ofShared_weighed hR h.obj

/-- An owned handle is itself; for a borrowed one there is one more. -/
theorem promote_weighed (hR : R.Weighs w G) (h : Handle) :
    (h.promote G).Obeys R fun owned => w.stake owned - w.stake h := by
  unfold promote
  split
  next hown => exact Bridge.Obeys.pure hR.toComposes (Int.sub_self _)
  next hown =>
    refine (ofShared_weighed hR h.obj).congr fun owned => ?_
    have hzero : w.stake h = 0 := by simp [Scale.stake, hown]
    omega

/-- A promoted handle is owned. -/
theorem promote_ok {h owned : Handle} {s s' : Host σ} (hr : (h.promote G).run s = .ok (owned, s')) :
    owned = ⟨h.obj, .owned⟩ := by
  unfold promote at hr
  split at hr
  next hown =>
    obtain ⟨rfl, -⟩ := Bridge.pure_ok hr
    rw [← hown]
  next hown =>
    cases hr
    rfl

/-- The handle ends, and its reference is in hand. -/
theorem steal_weighed (hR : R.Weighs w G) (h : Handle) :
    (h.steal G).Obeys R fun o => w.ref o - w.stake h := by
  intro s o s' hr
  obtain ⟨owned, s₁, hpromote, hrest⟩ := Bridge.bind_ok hr
  -- whatever handle was given, an owned one is counted off
  obtain rfl := promote_ok hpromote
  have hend : (count (-1) >>= fun _ => pure h.obj : Bridge σ Obj).Obeys R
      fun o => w.ref o - w.ref h.obj - w.handle := by
    refine (Bridge.Obeys.modify (hR.count (-1))).bind hR.toComposes fun _ => ?_
    exact Bridge.Obeys.pure hR.toComposes (by omega)
  have hall : R (w.handle + w.ref h.obj - w.stake h + (w.ref o - w.ref h.obj - w.handle)) s s' :=
    hR.trans (promote_weighed hR h s _ s₁ hpromote) (hend s₁ o s' hrest)
  rwa [show w.handle + w.ref h.obj - w.stake h + (w.ref o - w.ref h.obj - w.handle)
    = w.ref o - w.stake h by omega] at hall

theorem drop_weighed (hR : R.Weighs w G) (h : Handle) :
    (h.drop G).Obeys R fun _ => -w.stake h := by
  unfold drop
  split
  next hown =>
    refine (hR.release h.obj).bind hR.toComposes fun _ => ?_
    refine (Bridge.Obeys.modify (hR.count (-1))).congr fun _ => ?_
    have hstake : w.stake h = w.handle + w.ref h.obj := by simp [Scale.stake, hown]
    omega
  next hown =>
    exact Bridge.Obeys.pure hR.toComposes (by simp [Scale.stake, hown])

/-- A handle that ends with a scope. -/
theorem owning_weighed (hR : R.Weighs w G) (h : Handle) {body : Bridge σ α}
    (hbody : body.Obeys R n) :
    (h.owning G body).Obeys R fun a => n a - w.stake h := by
  unfold owning
  refine hbody.bind hR.toComposes fun r => ?_
  refine (drop_weighed hR h).bind hR.toComposes fun _ => ?_
  exact Bridge.Obeys.pure hR.toComposes (by omega)

theorem within_weighed (hR : R.Weighs w G) (h : Handle) {body : Attempt σ ε α}
    (hbody : body.Obeys R n e) :
    (h.within G body).Obeys R (fun a => n a - w.stake h) (e - w.stake h) := by
  refine (owning_weighed hR h hbody).congr fun r => ?_
  cases r with
  | ok a => rfl
  | error c => rfl

theorem dropAll_weighed (hR : R.Weighs w G) :
    ∀ hs : List Handle, (dropAll G hs).Obeys R fun _ => -(hs.map w.stake).sum := by
  intro hs
  induction hs with
  | nil => exact Bridge.Obeys.pure hR.toComposes rfl
  | cons h hs ih =>
    unfold dropAll
    refine (drop_weighed hR h).bind hR.toComposes fun _ => ih.congr fun _ => ?_
    rw [List.map_cons, List.sum_cons]
    omega

/-! ### As a number of handles -/

theorem ofNew_obeys (hR : R.Calm G) (o : Obj) : (ofNew o : Bridge σ Handle).Obeys R stake :=
  (ofNew_weighed hR.weighs o).congr fun _ => by simp

theorem drop_obeys (hR : R.Calm G) (h : Handle) : (h.drop G).Obeys R fun _ => -h.stake :=
  (drop_weighed hR.weighs h).congr fun _ => by simp

theorem dropAll_obeys (hR : R.Calm G) (hs : List Handle) :
    (dropAll G hs).Obeys R fun _ => -(hs.map stake).sum := by
  refine (dropAll_weighed hR.weighs hs).congr fun _ => ?_
  rw [List.map_congr_left fun h _ => Scale.handles_stake h]

end Handle

end Embedder
