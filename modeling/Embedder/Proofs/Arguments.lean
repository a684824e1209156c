import Embedder.Proofs.Marshal.Lists
import Embedder.Proofs.References
import Embedder.Proofs.Requests
import Embedder.Proofs.Survival

/-!
# All ways of passing arguments are one

The interpreter calls an object with a tuple, or with nothing for no arguments. What it calls gets
the items of the tuple in their order, and the tuple itself does not matter, so tuples with the same
items stand for each other and nothing stands for an empty one (`Guest.PassesArguments`).

A call with some handles packs their objects into a tuple of its own. Filling has one invariant
(`ArgumentView.Packing`): each object has one reference more for each time that it was placed, and
these are all that the tuple has. So the call finds the host as it was, but for the tuple, and when
the tuple goes, each object has lost what it gained, and keeps what the called code made of it
(`CallableHandle.Returned`).
-/

namespace Embedder

open Exception

variable {σ : Type} {G : Guest σ} {h k k₁ : Host σ} {t o p : Obj} {os : List Obj}

theorem Obj.refs_nonneg (os : List Obj) : 0 ≤ Obj.refs os p := by
  induction os with
  | nil => exact le_rfl
  | cons o os ih =>
    have hcons : Obj.refs (o :: os) p = o.ref p + Obj.refs os p := List.sum_cons
    have hone : 0 ≤ o.ref p := by
      unfold Obj.ref
      split <;> omega
    omega

/-! ## Tuples as documented -/

/-- What can be seen of tuples and of calls. -/
structure ArgumentView (σ : Type) where
  /-- The slots of a tuple. A slot that was not filled yet is empty. -/
  slots : Obj → σ → Option (List (Option Obj))
  /-- What a callable does with some objects. -/
  apply : Obj → List Obj → σ → Outcome σ Obj
  /-- References to an object are counted, as they need not be to one that never ends. -/
  counted : Obj → Bool

namespace ArgumentView

variable (V : ArgumentView σ)

/-- A tuple has these items, each in its slot. -/
def Whole (t : Obj) (os : List Obj) (w : σ) : Prop := V.slots t w = some (os.map some)

/-- What references to some objects add to the count of one of them. -/
def refs (os : List Obj) (p : Obj) : Int := if V.counted p then Obj.refs os p else 0

theorem refs_nil : V.refs [] p = 0 := by
  unfold refs
  split <;> rfl

theorem refs_concat : V.refs (os ++ [o]) p = V.refs os p + V.refs [o] p := by
  unfold refs
  split
  next =>
    unfold Obj.refs
    rw [List.map_append, List.sum_append]
  next => rfl

theorem refs_nonneg (os : List Obj) (p : Obj) : 0 ≤ V.refs os p := by
  unfold refs
  split
  next => exact Obj.refs_nonneg os
  next => exact le_rfl

end ArgumentView

variable {V : ArgumentView σ}

/-- The guest treats tuples and calls as documented. -/
structure Guest.PassesArguments (G : Guest σ) (V : ArgumentView σ) : Prop where
  call_none : ∀ f w, G.call f none w = V.apply f [] w
  call_tuple : ∀ f {t os w}, V.Whole t os w → G.call f (some t) w = V.apply f os w
  /-- A reference to what is there is one more, and that is all. -/
  retain : ∀ {o w}, 0 < G.refcount o w → ∀ p,
    G.refcount p (G.retain o w) = G.refcount p w + V.refs [o] p ∧
      V.slots p (G.retain o w) = V.slots p w
  /-- A tuple with slots is a new object. -/
  newTuple : ∀ {n t w}, (G.newTuple n w).value = .value t →
    0 ≤ n ∧ (G.newTuple n w).notices = [] ∧
      V.slots t (G.newTuple n w).world = some (List.replicate n.toNat none) ∧
      (0 < n → V.counted t ∧ G.refcount t w = 0 ∧ G.refcount t (G.newTuple n w).world = 1) ∧
      ∀ p, p ≠ t → G.refcount p (G.newTuple n w).world = G.refcount p w ∧
        V.slots p (G.newTuple n w).world = V.slots p w
  /-- An empty slot of a tuple that nobody else has takes the reference over. -/
  setTupleItem : ∀ {t o w slots} {i : Nat}, V.slots t w = some slots → slots[i]? = some none →
    G.refcount t w = 1 →
      (G.setTupleItem t i o w).value = .value () ∧ (G.setTupleItem t i o w).notices = [] ∧
        V.slots t (G.setTupleItem t i o w).world = some (slots.set i (some o)) ∧
        ∀ p, G.refcount p (G.setTupleItem t i o w).world = G.refcount p w ∧
          (p ≠ t → V.slots p (G.setTupleItem t i o w).world = V.slots p w)
  /-- With its last reference a tuple gives up its items. Where none of them ends with that, nothing
  else happens. -/
  release_last : ∀ {t os w}, V.Whole t os w → (os ≠ [] → V.counted t) → G.refcount t w = 1 →
    (∀ o ∈ os, V.refs os o < G.refcount o w) → (G.release t w).notices = [] ∧
      ∀ p, p ≠ t → G.refcount p (G.release t w).world = G.refcount p w - V.refs os p
  release_shared : ∀ {o w}, 1 < G.refcount o w → (G.release o w).notices = [] ∧
    ∀ p, G.refcount p (G.release o w).world = G.refcount p w - V.refs [o] p

/-! ## Packing -/

/-- The host with one reference more to an object. -/
def Host.more (G : Guest σ) (o : Obj) (k : Host σ) : Host σ :=
  { k with world := G.retain o k.world }

/-- Since `h` a tuple was made, and objects were placed in it, with `r` slots left. Nothing else is
different. -/
structure ArgumentView.Packing (V : ArgumentView σ) (G : Guest σ) (h : Host σ) (t : Obj)
    (os : List Obj) (r : Nat) (k : Host σ) : Prop where
  slots : V.slots t k.world = some (os.map some ++ List.replicate r none)
  /-- A tuple with slots is new, and only the host has it. -/
  own : 0 < os.length + r → V.counted t ∧ G.refcount t h.world = 0 ∧ G.refcount t k.world = 1
  counts : ∀ p, p ≠ t → G.refcount p k.world = G.refcount p h.world + V.refs os p
  others : ∀ p, p ≠ t → V.slots p k.world = V.slots p h.world
  books : k.toBooks = { h.toBooks with live := h.live + 1 }

namespace ArgumentView.Packing

variable {r : Nat}

theorem pending (hk : V.Packing G h t os r k) (hp : h.pending = none) : k.pending = none := by
  rw [hk.books]
  exact hp

theorem live (hk : V.Packing G h t os r k) : k.live = h.live + 1 := by
  rw [hk.books]

theorem whole (hk : V.Packing G h t os 0 k) : V.Whole t os k.world := by
  have hslots := hk.slots
  rwa [List.replicate_zero, List.append_nil] at hslots

/-- What is there is not the new tuple. -/
theorem ne_tuple (hk : V.Packing G h t os r k) (hr : 0 < os.length + r)
    (ho : 0 < G.refcount o h.world) : o ≠ t := by
  rintro rfl
  obtain ⟨-, hnew, -⟩ := hk.own hr
  omega

/-- A tuple that the caller has with these items has them still. -/
theorem whole_of_whole {s : Obj} (hk : V.Packing G h t os 0 k) (hs : V.Whole s os h.world) :
    V.Whole s os k.world := by
  by_cases hst : s = t
  · rw [hst]
    exact hk.whole
  · rw [Whole, hk.others s hst]
    exact hs

variable (hG : G.PassesArguments V)

include hG

theorem start {n : Nat} (ht : (G.newTuple n h.world).value = .value t) :
    V.Packing G h t [] n ((h.after (G.newTuple n h.world)).hold 1) := by
  obtain ⟨-, hquiet, hslots, hown, hothers⟩ := hG.newTuple ht
  rw [Host.after_of_quiet hquiet]
  constructor
  case slots => exact hslots
  case own =>
    intro hn
    rw [List.length_nil, Nat.zero_add] at hn
    exact hown (Int.natCast_pos.2 hn)
  case counts =>
    intro p hp
    rw [V.refs_nil, Int.add_zero]
    exact (hothers p hp).1
  case others => exact fun p hp => (hothers p hp).2
  case books => rfl

/-- One more object is placed. -/
theorem place (hk : V.Packing G h t os (r + 1) k) (ho : 0 < G.refcount o h.world) :
    (G.setTupleItem t os.length o (G.retain o k.world)).value = .value () ∧
      V.Packing G h t (os ++ [o]) r
        ((k.more G o).after (G.setTupleItem t os.length o (G.retain o k.world))) := by
  have hot : o ≠ t := hk.ne_tuple (by omega) ho
  obtain ⟨hcounted, hnew, hone⟩ := hk.own (by omega)
  have hthere : 0 < G.refcount o k.world := by
    rw [hk.counts o hot]
    have := V.refs_nonneg os o
    omega
  have hretain := hG.retain hthere
  have hslots := (hretain t).2.trans hk.slots
  have hslot : (os.map some ++ List.replicate (r + 1) none)[os.length]? = some none := by
    simp [List.replicate_succ]
  have hnext : (os.map some ++ List.replicate (r + 1) none).set os.length (some o) =
      (os ++ [o]).map some ++ List.replicate r none := by
    simp [List.replicate_succ]
  have hself : V.refs [o] t = 0 := by
    simp [refs, Obj.refs, Obj.ref, hot]
  have hstill : G.refcount t (G.retain o k.world) = 1 := by
    rw [(hretain t).1, hone, hself, Int.add_zero]
  obtain ⟨hvalue, hquiet, hset, hothers⟩ := hG.setTupleItem (o := o) hslots hslot hstill
  refine ⟨hvalue, ?_⟩
  rw [Host.after_of_quiet hquiet]
  constructor
  case slots =>
    show V.slots t (G.setTupleItem t os.length o (G.retain o k.world)).world = _
    rw [hset, hnext]
  case own =>
    intro _
    refine ⟨hcounted, hnew, ?_⟩
    show G.refcount t (G.setTupleItem t os.length o (G.retain o k.world)).world = 1
    rw [(hothers t).1, hstill]
  case counts =>
    intro p hp
    show G.refcount p (G.setTupleItem t os.length o (G.retain o k.world)).world = _
    rw [(hothers p).1, (hretain p).1, hk.counts p hp, V.refs_concat, Int.add_assoc]
  case others =>
    intro p hp
    show V.slots p (G.setTupleItem t os.length o (G.retain o k.world)).world = _
    rw [(hothers p).2 hp, (hretain p).2, hk.others p hp]
  case books => exact hk.books

end ArgumentView.Packing

/-! ## What is called -/

namespace CallableHandle

/-- The record of a call that raised. -/
def complaint (c : CallableHandle) (cause : ExceptionReport) : Log.Record :=
  ⟨.debug, "call raised", [.plain "function" c.qualifiedName, .plain "error" cause.headline]⟩

/-- How a call turns out that comes to `f`: with a handle on what was given, or with the exception
that was raised, which is recorded. -/
def called (G : Guest σ) (c : CallableHandle) (f : σ → Outcome σ Obj) (h : Host σ) :
    Except Exit (Except Failure Handle × Host σ) :=
  match h.requested G "PyObject_CallObject" f with
  | .error e => .error e
  | .ok (.ok o, k) => .ok (.ok ⟨o, .owned⟩, k.hold 1)
  | .ok (.error cause, k) => .ok (.error (.raised cause), k.note (c.complaint cause))

variable (c : CallableHandle)

theorem invoke_run (args : Option Handle) (hp : h.pending = none) :
    (c.invoke G args).run.run h = c.called G (G.call c.handle.obj (args.map (·.obj))) h := by
  show ((requestNew G _ _).run >>= _ : Bridge σ _).run h = _
  rw [StateT.run_bind]
  have hnew : (requestNew G "PyObject_CallObject"
      (G.call c.handle.obj (args.map (·.obj)))).run.run h = _ := requestNew_run hp
  unfold called
  rw [hnew]
  generalize h.requested G "PyObject_CallObject" (G.call c.handle.obj (args.map (·.obj))) = x
  rcases x with e | ⟨cause | o, k⟩ <;> rfl

/-- What is called matters at the state that it is called in. -/
theorem called_congr {f f' : σ → Outcome σ Obj} (hf : f h.world = f' h.world) :
    c.called G f h = c.called G f' h := by
  unfold called Host.requested
  rw [hf]

/-- The number of handles has no part in a call. -/
theorem called_hold {f : σ → Outcome σ Obj} {n : Int} :
    c.called G f (h.hold n) = (c.called G f h).map fun y => (y.1, y.2.hold n) := by
  unfold called
  rw [requested_hold]
  rcases h.requested G "PyObject_CallObject" f with e | ⟨cause | o, k⟩
  · rfl
  · rfl
  · show Except.ok (_, (k.hold n).hold 1) = Except.ok (_, (k.hold 1).hold n)
    rw [Host.hold_hold, Host.hold_hold, Int.add_comm]

/-- What is called gets the items of the tuple, whatever tuple that is. -/
theorem invoke_tuple_run (hG : G.PassesArguments V) (hp : h.pending = none) (tuple : Handle)
    (hwhole : V.Whole tuple.obj os h.world) :
    (c.invoke G (some tuple)).run.run h = c.called G (V.apply c.handle.obj os) h := by
  rw [invoke_run c _ hp]
  exact called_congr c (hG.call_tuple _ hwhole)

/-- Without a tuple it gets nothing. -/
theorem invoke_none_run (hG : G.PassesArguments V) (hp : h.pending = none) :
    (c.invoke G none).run.run h = c.called G (V.apply c.handle.obj []) h := by
  rw [invoke_run c _ hp]
  exact called_congr c (hG.call_none _ _)

/-- A copy of a handle is placed: its object has one reference more, which the tuple takes. -/
theorem placeCopy_run (a tuple : Handle) (i : UInt64) :
    ((a.clone G : Bridge σ Handle) >>= fun copy => tuple.setTupleItem G i copy :
      Attempt σ ExceptionReport Unit).run.run k =
      (request G "PyTuple_SetItem" (G.setTupleItem tuple.obj (Handle.signed i) a.obj)).run.run
        (k.more G a.obj) := by
  have hclone : (a.clone G).run k = .ok (⟨a.obj, .owned⟩, (k.more G a.obj).hold 1) := rfl
  have hsteal : (Handle.steal G ⟨a.obj, .owned⟩).run ((k.more G a.obj).hold 1) =
      .ok (a.obj, k.more G a.obj) := by
    show Except.ok (a.obj, ((k.more G a.obj).hold 1).hold (-1)) = _
    rw [Host.hold_hold, Int.add_right_neg, Host.hold_zero]
  rw [Attempt.run_lift_bind hclone, Handle.setTupleItem, Attempt.run_lift_bind hsteal]

/-- By induction on the handles that are left: all of them are placed. -/
theorem fillTuple_run (hG : G.PassesArguments V) (hp : h.pending = none) :
    ∀ (rest : List Handle) {os : List Obj} {k : Host σ}, V.Packing G h t os rest.length k →
      (∀ a ∈ rest, 0 < G.refcount a.obj h.world) → os.length + rest.length < 2 ^ 63 →
      ∃ k', (fillTuple G ⟨t, .owned⟩ os.length rest).run.run k = .ok (.ok (), k') ∧
        V.Packing G h t (os ++ rest.map (·.obj)) 0 k' := by
  intro rest
  induction rest with
  | nil =>
    intro os k hk _ _
    rw [List.map_nil, List.append_nil]
    exact ⟨k, rfl, hk⟩
  | cons a rest ih =>
    intro os k hk hthere hn
    rw [List.length_cons] at hn
    obtain ⟨hvalue, hnext⟩ := hk.place hG (hthere a List.mem_cons_self)
    have hplaced : (request G "PyTuple_SetItem" (G.setTupleItem t os.length a.obj)).run.run
        (k.more G a.obj) = .ok (.ok (), (k.more G a.obj).after
          (G.setTupleItem t os.length a.obj (G.retain a.obj k.world))) := by
      have hquiet : (k.more G a.obj).pending = none := hk.pending hp
      rw [request_run hquiet, requested_of_value hvalue]
      rfl
    have hlength : (os ++ [a.obj]).length = os.length + 1 := List.length_append
    obtain ⟨k', hrest, hall⟩ := ih hnext (fun b hb => hthere b (List.mem_cons_of_mem a hb))
      (by omega)
    rw [hlength] at hrest
    rw [List.append_assoc] at hall
    refine ⟨k', ?_, hall⟩
    have hfill : fillTuple G ⟨t, .owned⟩ os.length (a :: rest) =
        (((a.clone G : Bridge σ Handle) >>= fun copy =>
          Handle.setTupleItem G ⟨t, .owned⟩ (UInt64.ofNat os.length) copy :
            Attempt σ ExceptionReport Unit) >>= fun _ =>
          fillTuple G ⟨t, .owned⟩ (os.length + 1) rest) := by
      rw [fillTuple, bind_assoc]
    rw [hfill, Attempt.run_bind, placeCopy_run, Handle.signed_ofNat (by omega), hplaced]
    exact hrest

/-! ## The call with some objects -/

/-- The outcome when the tuple is given up after it. -/
def closed {β : Type} (G : Guest σ) (t : Obj) (x : Except Exit (β × Host σ)) :
    Except Exit (β × Host σ) :=
  x.map fun y => (y.1, (y.2.after (G.release t y.2.world)).hold (-1))

/-- What is left of a call that came back: `k₁` is the host when it does, before the tuple is given
up. -/
structure Returned (G : Guest σ) (V : ArgumentView σ) (h k : Host σ) (t : Obj) (os : List Obj)
    (r : Except Failure Handle) (k₁ h' : Host σ) : Prop where
  pending : h'.pending = none
  /-- There is one handle more, on what was given, and none if the call failed. -/
  live : h'.live = h.live + (match r with | .ok _ => 1 | .error _ => 0)
  owned : ∀ a, r = .ok a → a.ownership = .owned
  /-- If the called code left the tuple alone, and whoever had the arguments has them still, each
  object has as many references more as the called code gave it. -/
  alone : V.Whole t os k₁.world → G.refcount t k₁.world = 1 →
    (∀ o ∈ os, V.refs os o < G.refcount o k₁.world) → ∀ p, p ≠ t →
      G.refcount p h'.world - G.refcount p h.world = G.refcount p k₁.world - G.refcount p k.world
  /-- If the called code keeps the tuple, the tuple keeps its items. -/
  kept : 1 < G.refcount t k₁.world → ∀ p,
    G.refcount p h'.world = G.refcount p k₁.world - V.refs [t] p

/-- The ways in which a call with some objects turns out. -/
inductive Passes (G : Guest σ) (V : ArgumentView σ) (c : CallableHandle) (os : List Obj)
    (h : Host σ) : Except Exit (Except Failure Handle × Host σ) → Prop where
  /-- The objects are packed, and what is called gets them, in their order. It is the same call with
  the new tuple and with any that the caller has of these objects. -/
  | packed {t : Obj} {k : Host σ} (packing : V.Packing G h t os 0 k)
      (same : ∀ tuple : Handle, tuple.obj = t ∨ V.Whole tuple.obj os h.world →
        (c.invoke G (some tuple)).run.run k = c.called G (V.apply c.handle.obj os) k)
      (returned : ∀ r k₁, c.called G (V.apply c.handle.obj os) k = .ok (r, k₁) →
        Returned G V h k t os r k₁ ((k₁.after (G.release t k₁.world)).hold (-1))) :
      Passes G V c os h (closed G t (c.called G (V.apply c.handle.obj os) k))
  /-- The interpreter has no tuple of that length, so nothing is called. -/
  | unallocated {cause : ExceptionReport} {h' : Host σ}
      (asked : h.requested G "PyTuple_New"
        (G.newTuple (Handle.signed (UInt64.ofNat os.length))) = .ok (.error cause, h'))
      (live : h'.live = h.live) (pending : h'.pending = none) :
      Passes G V c os h (.ok (.error (.raised cause), h'))
  /-- The process ended when the exception was printed that says so. -/
  | unallocatedEnds {e : Exit}
      (asked : h.requested G "PyTuple_New"
        (G.newTuple (Handle.signed (UInt64.ofNat os.length))) = .error e) :
      Passes G V c os h (.error e)

/-- The ways in which a call comes back. -/
theorem called_ok {f : σ → Outcome σ Obj} {r : Except Failure Handle}
    (hr : c.called G f h = .ok (r, k)) :
    (∃ o k', h.requested G "PyObject_CallObject" f = .ok (.ok o, k') ∧ r = .ok ⟨o, .owned⟩ ∧
      k = k'.hold 1) ∨
    ∃ cause k', h.requested G "PyObject_CallObject" f = .ok (.error cause, k') ∧
      r = .error (.raised cause) ∧ k = k'.note (c.complaint cause) := by
  unfold called at hr
  cases hasked : h.requested G "PyObject_CallObject" f with
  | error e =>
    rw [hasked] at hr
    cases hr
  | ok y =>
    obtain ⟨cause | o, k'⟩ := y
    · rw [hasked] at hr
      cases hr
      exact .inr ⟨cause, k', rfl, rfl, rfl⟩
    · rw [hasked] at hr
      cases hr
      exact .inl ⟨o, k', rfl, rfl, rfl⟩

/-- What is left of a call when the tuple is given up. -/
theorem returned_of_called (hG : G.PassesArguments V) (hp : h.pending = none)
    (hk : V.Packing G h t os 0 k) {f : σ → Outcome σ Obj} {r : Except Failure Handle}
    (hr : c.called G f k = .ok (r, k₁)) :
    Returned G V h k t os r k₁ ((k₁.after (G.release t k₁.world)).hold (-1)) where
  pending := by
    show k₁.pending = none
    obtain ⟨o, k', hasked, -, rfl⟩ | ⟨cause, k', hasked, -, rfl⟩ := c.called_ok hr
    · show k'.pending = none
      exact requested_pending (hk.pending hp) hasked
    · show k'.pending = none
      exact requested_pending (hk.pending hp) hasked
  live := by
    show k₁.live + -1 = _
    obtain ⟨o, k', hasked, rfl, rfl⟩ | ⟨cause, k', hasked, rfl, rfl⟩ := c.called_ok hr
    · show k'.live + 1 + -1 = h.live + 1
      rw [requested_live hasked, hk.live]
      omega
    · show k'.live + -1 = h.live + 0
      rw [requested_live hasked, hk.live]
      omega
  owned := by
    rintro a rfl
    obtain ⟨o, k', -, heq, -⟩ | ⟨cause, k', -, heq, -⟩ := c.called_ok hr
    · cases heq
      rfl
    · cases heq
  alone := by
    intro hwhole hone hheld p hpt
    have hcounted : os ≠ [] → V.counted t := fun hne =>
      (hk.own (Nat.add_pos_left (List.length_pos_of_ne_nil hne) 0)).1
    have hrelease := (hG.release_last hwhole hcounted hone hheld).2 p hpt
    show G.refcount p (G.release t k₁.world).world - _ = _
    rw [hrelease, hk.counts p hpt]
    omega
  kept := fun hshared => (hG.release_shared hshared).2

/-- A call with some handles makes a tuple, fills it and goes on with it, and the tuple is given up
after that. -/
theorem invokeWith_eq (args : List Handle) (hp : h.pending = none) :
    (c.invokeWith G args).run.run h =
      Attempt.proceed (Attempt.failing .raised (h.requested G "PyTuple_New"
        (G.newTuple (Handle.signed (UInt64.ofNat args.length)))))
      fun t k => closed G t (Attempt.proceed (Attempt.failing .raised
        ((fillTuple G ⟨t, .owned⟩ 0 args).run.run (k.hold 1)))
        fun _ k => (c.invoke G (some ⟨t, .owned⟩)).run.run k) := by
  unfold invokeWith Handle.newTuple
  rw [Attempt.run_bind, Attempt.run_mapError, requestNew_run hp, Attempt.failing_proceed,
    Attempt.proceed_assoc]
  refine Attempt.proceed_congr fun t k _ => ?_
  show (Handle.owning G ⟨t, .owned⟩ _).run (k.hold 1) = _
  rw [Handle.run_owning]
  refine congrArg (closed G t) ?_
  show (((fillTuple G ⟨t, .owned⟩ 0 args).mapError .raised >>= fun _ =>
    c.invoke G (some ⟨t, .owned⟩) : Attempt σ Failure Handle).run.run _) = _
  rw [Attempt.run_bind, Attempt.run_mapError]

/-- With a tuple for them the objects are packed, and then there is one call. -/
theorem passes_of_tuple (hG : G.PassesArguments V) (hp : h.pending = none) {args : List Handle}
    (hthere : ∀ a ∈ args, 0 < G.refcount a.obj h.world) (hn : args.length < 2 ^ 64)
    (ht : (G.newTuple (Handle.signed (UInt64.ofNat args.length)) h.world).value = .value t) :
    Passes G V c (args.map (·.obj)) h ((c.invokeWith G args).run.run h) := by
  have hlt : args.length < 2 ^ 63 := Handle.lt_of_signed_nonneg hn (hG.newTuple ht).1
  have hstart : V.Packing G h t [] args.length
      ((h.after (G.newTuple (Handle.signed (UInt64.ofNat args.length)) h.world)).hold 1) := by
    rw [Handle.signed_ofNat hlt] at ht ⊢
    exact .start hG ht
  obtain ⟨k, hfill, hk⟩ := fillTuple_run hG hp args hstart hthere (by simpa using hlt)
  have hsame : ∀ tuple : Handle, tuple.obj = t ∨ V.Whole tuple.obj (args.map (·.obj)) h.world →
      (c.invoke G (some tuple)).run.run k =
        c.called G (V.apply c.handle.obj (args.map (·.obj))) k := by
    rintro tuple (rfl | hwhole)
    · exact c.invoke_tuple_run hG (hk.pending hp) tuple hk.whole
    · exact c.invoke_tuple_run hG (hk.pending hp) tuple (hk.whole_of_whole hwhole)
  have hrun : (c.invokeWith G args).run.run h =
      closed G t (c.called G (V.apply c.handle.obj (args.map (·.obj))) k) := by
    rw [c.invokeWith_eq args hp, requested_of_value ht]
    refine congrArg (closed G t) ?_
    change (fillTuple G ⟨t, .owned⟩ 0 args).run.run _ = _ at hfill
    rw [hfill]
    exact hsame ⟨t, .owned⟩ (.inl rfl)
  rw [hrun]
  exact .packed hk hsame fun r k₁ hr => c.returned_of_called hG hp hk hr

/-- Where the interpreter gives no tuple, that is all that happens. -/
theorem passes_of_unallocated {args : List Handle} (hp : h.pending = none)
    (hnone : ∀ t, (G.newTuple (Handle.signed (UInt64.ofNat args.length)) h.world).value ≠ .value t) :
    Passes G V c (args.map (·.obj)) h ((c.invokeWith G args).run.run h) := by
  rw [c.invokeWith_eq args hp]
  have hlength : (args.map (·.obj)).length = args.length := List.length_map _
  rcases hr : h.requested G "PyTuple_New"
    (G.newTuple (Handle.signed (UInt64.ofNat args.length))) with e | ⟨cause | t, k⟩
  · exact .unallocatedEnds (by rw [hlength]; exact hr)
  · exact .unallocated (by rw [hlength]; exact hr) (requested_live hr) (requested_pending hp hr)
  · cases requested_ok hr with
    | value gave => exact absurd gave (hnone t)

/-- Handles that are on the same objects are copied alike. -/
theorem fillTuple_congr (tuple : Handle) : ∀ {args args' : List Handle} (i : Nat),
    args'.map (·.obj) = args.map (·.obj) → fillTuple G tuple i args' = fillTuple G tuple i args
  | [], [], _, _ => rfl
  | a :: args, a' :: args', i, hsame => by
    obtain ⟨hobj, hrest⟩ := List.cons.inj hsame
    have hclone : a'.clone G = a.clone G := congrArg (Handle.ofShared G) hobj
    rw [fillTuple, fillTuple, hclone, fillTuple_congr tuple (i + 1) hrest]

theorem invokeWith_congr {args args' : List Handle} (hsame : args'.map (·.obj) = args.map (·.obj)) :
    c.invokeWith G args' = c.invokeWith G args := by
  have hlength : args'.length = args.length := by
    simpa using congrArg List.length hsame
  simp only [invokeWith, hlength, fillTuple_congr _ _ hsame]

/-- Where the empty tuple is always there, to call with no objects is to call with nothing. -/
theorem invokeWith_nil_run (hG : G.PassesArguments V) (hp : h.pending = none) {e : Obj}
    (hnew : G.newTuple 0 h.world = ⟨.value e, h.world, []⟩)
    (hrelease : ∀ w, G.release e w = ⟨(), w, []⟩) :
    (c.invokeWith G []).run.run h = (c.invoke G none).run.run h := by
  have hzero : G.newTuple (Handle.signed (UInt64.ofNat ([] : List Handle).length)) h.world =
      ⟨.value e, h.world, []⟩ := by
    rw [Handle.signed_ofNat (by decide)]
    exact hnew
  have hwhole : V.Whole e [] h.world := by
    have ht : (G.newTuple 0 h.world).value = .value e := by rw [hnew]
    obtain ⟨-, -, hslots, -⟩ := hG.newTuple ht
    rwa [hnew] at hslots
  have hcall : (c.invoke G (some ⟨e, .owned⟩)).run.run (h.hold 1) =
      (c.called G (V.apply c.handle.obj []) h).map fun y => (y.1, y.2.hold 1) := by
    have hquiet : (h.hold 1).pending = none := hp
    have hthere : V.Whole e [] (h.hold 1).world := hwhole
    rw [c.invoke_tuple_run hG hquiet ⟨e, .owned⟩ hthere, c.called_hold]
  have hstill : h.after (G.newTuple (Handle.signed (UInt64.ofNat ([] : List Handle).length))
      h.world) = h := by
    rw [hzero]
    exact Host.after_of_quiet rfl
  rw [c.invokeWith_eq [] hp, requested_of_value (by rw [hzero]), hstill, c.invoke_none_run hG hp]
  show closed G e ((c.invoke G (some ⟨e, .owned⟩)).run.run (h.hold 1)) = _
  rw [hcall]
  rcases c.called G (V.apply c.handle.obj []) h with x | ⟨r, k⟩
  · rfl
  · show Except.ok (r, ((k.hold 1).after (G.release e k.world)).hold (-1)) = Except.ok (r, k)
    rw [hrelease, Host.hold_after, Host.hold_hold, Int.add_right_neg, Host.hold_zero,
      Host.after_of_quiet rfl]

/-- With some objects there is one call of them, if there is a tuple for it. -/
theorem invokeWith_passes (hG : G.PassesArguments V) {args : List Handle} (hp : h.pending = none)
    (hthere : ∀ a ∈ args, 0 < G.refcount a.obj h.world) (hn : args.length < 2 ^ 64) :
    Passes G V c (args.map (·.obj)) h ((c.invokeWith G args).run.run h) := by
  cases hv : (G.newTuple (Handle.signed (UInt64.ofNat args.length)) h.world).value with
  | value t => exact c.passes_of_tuple hG hp hthere hn hv
  | raised p => exact c.passes_of_unallocated hp fun t ht => by rw [hv] at ht; cases ht
  | failed => exact c.passes_of_unallocated hp fun t ht => by rw [hv] at ht; cases ht

/-- **All ways of passing arguments agree.** With nothing pending, a tuple stands for its items and
nothing for none. A call with some handles is the call with a tuple of their objects: it packs them,
owned or borrowed and each as often as it is there, calls, and gives the tuple up, whatever came of
the call. So it does with no handles, which is nothing at all if the empty tuple is always there.

For every interpreter, the bridge has as many references to each object in hand after it as before,
but for the one that was given. It comes back unless an exception was printed and this ended the
process. A slice counts its handles by a machine word. -/
theorem argument_laws (hG : G.PassesArguments V) (args : List Handle) (h : Host σ)
    (hp : h.pending = none) (hthere : ∀ a ∈ args, 0 < G.refcount a.obj h.world)
    (hn : args.length < 2 ^ 64) :
    Passes G V c (args.map (·.obj)) h ((c.invokeWith G args).run.run h) ∧
    (∀ (tuple : Handle) (os : List Obj), V.Whole tuple.obj os h.world →
      (c.invoke G (some tuple)).run.run h = c.called G (V.apply c.handle.obj os) h) ∧
    (c.invoke G none).run.run h = c.called G (V.apply c.handle.obj []) h ∧
    (∀ e, G.newTuple 0 h.world = ⟨.value e, h.world, []⟩ → (∀ w, G.release e w = ⟨(), w, []⟩) →
      (c.invokeWith G []).run.run h = (c.invoke G none).run.run h) ∧
    (∀ a, c.invokeOne G a = c.invokeWith G [a]) ∧
    (∀ args' : List Handle, args'.map (·.obj) = args.map (·.obj) →
      c.invokeWith G args' = c.invokeWith G args) ∧
    (∀ (x : Obj) (s : Host (Ledgered σ)), Ends ((c.invokeWith G.ledgered args).run.run s) fun y =>
      y.2.inHand x = s.inHand x + leaves (Scale.references x).stake 0 y.1) ∧
    ∀ e, (c.invokeWith G args).run.run h = .error e →
      h.printing = true ∧ ∃ p w, (G.print p w).value = some e.status := by
  refine ⟨c.invokeWith_passes hG hp hthere hn,
    fun tuple os hwhole => c.invoke_tuple_run hG hp tuple hwhole, c.invoke_none_run hG hp,
    fun e hnew hrelease => c.invokeWith_nil_run hG hp hnew hrelease, fun _ => rfl,
    fun args' hsame => c.invokeWith_congr hsame, fun x s y hy => ?_, fun e he => ?_⟩
  · exact invokeWith_weighed (inHand_acts G x).requests c args s y.1 y.2 hy
  · have hsurvives := invokeWith_has (Trait.surviving_lawful G fun _ => ()) c args h
    rw [he] at hsurvives
    cases hsurvives with
    | printed on ended => exact ⟨on, _, _, ended⟩

end CallableHandle

end Embedder
