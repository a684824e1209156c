import Embedder.Proofs.Arguments

/-!
# A guest that packs

A small guest whose tuples are as documented (`Porter.passesArguments`). It counts the references to
each object, and a tuple that ends gives up those to its items. One of its objects keeps what it is
called with and another one raises, so a run shows what is left of the arguments in either case.
-/

namespace Embedder

/-- The state of a guest that knows some plain objects and tuples: the references to the plain ones,
and the slots of each tuple with the references to it. -/
structure Porter where
  counts : Obj → Int
  tuples : List (List (Option Obj) × Int)

namespace Porter

/-- The number of plain objects; the objects after them are tuples. -/
def plain : Nat := 8

def refcount (o : Obj) (w : Porter) : Int :=
  if o.id < plain then w.counts o else (w.tuples[o.id - plain]?).elim 0 (·.2)

def slots (o : Obj) (w : Porter) : Option (List (Option Obj)) :=
  if o.id < plain then none else (w.tuples[o.id - plain]?).map (·.1)

/-- So many references more to each object. -/
def shift (f : Obj → Int) (w : Porter) : Porter where
  counts o := w.counts o + f o
  tuples := w.tuples.mapIdx fun i x => (x.1, x.2 + f ⟨plain + i⟩)

/-- Release a reference to an object. A tuple whose last one it was releases its items. -/
def release (o : Obj) (w : Porter) : Effect Porter Unit :=
  let w' := w.shift fun p => -o.ref p
  if w.refcount o = 1 then
    ⟨(), w'.shift fun p => -Obj.refs (((w.slots o).getD []).filterMap id) p, []⟩
  else ⟨(), w', []⟩

def newTuple (n : Int) (w : Porter) : Outcome Porter Obj :=
  if 0 ≤ n then
    ⟨.value ⟨plain + w.tuples.length⟩,
      { w with tuples := w.tuples ++ [(List.replicate n.toNat none, 1)] }, []⟩
  else ⟨.failed, w, []⟩

/-- Fill an empty slot of a tuple; where that cannot be, the item is released. -/
def setTupleItem (t : Obj) (i : Int) (o : Obj) (w : Porter) : Outcome Porter Unit :=
  match w.slots t with
  | some ss =>
    if ss[i.toNat]? = some none then
      ⟨.value (), { w with
        tuples := w.tuples.modify (t.id - plain) fun x => (x.1.set i.toNat (some o), x.2) }, []⟩
    else ⟨.failed, (release o w).world, []⟩
  | none => ⟨.failed, (release o w).world, []⟩

/-- There is an object that keeps what it gets, one that raises an exception, and the others take no
notice of it. -/
def apply (f : Obj) (os : List Obj) (w : Porter) : Outcome Porter Obj :=
  if f = ⟨1⟩ then ⟨.value ⟨0⟩, w.shift fun p => Obj.refs (⟨0⟩ :: os) p, []⟩
  else if f = ⟨2⟩ then ⟨.raised ⟨⟨3⟩, none, none⟩, w.shift fun p => Obj.ref ⟨3⟩ p, []⟩
  else ⟨.value ⟨0⟩, w.shift fun p => Obj.ref ⟨0⟩ p, []⟩

def grant {α : Type} (a : α) (w : Porter) : Outcome Porter α := ⟨.value a, w, []⟩

/-- Give a reference to a plain object. -/
def give (w : Porter) : Outcome Porter Obj := ⟨.value ⟨0⟩, w.shift fun p => Obj.ref ⟨0⟩ p, []⟩

/-- A guest that knows tuples, and plain objects of which nothing is known. -/
def guest : Guest Porter where
  isUp _ := true
  boot _ w := w
  shutdown w := ⟨true, w, []⟩
  retain o w := w.shift fun p => o.ref p
  release := release
  releaseKept _ k := release k.obj
  refcount := refcount
  importModule _ := give
  addModule _ := grant ⟨0⟩
  namespaceOf _ := grant ⟨0⟩
  lookup _ _ _ := none
  isCallable _ _ := true
  getAttr _ _ := give
  length _ := grant 0
  str _ := give
  text _ := grant ""
  newText _ := give
  joinTexts _ _ := give
  newList _ := give
  newTuple := newTuple
  setListItem _ _ o w := ⟨.failed, (release o w).world, []⟩
  setTupleItem := setTupleItem
  append _ _ := grant ()
  ofFloat _ := give
  ofInt _ := give
  ofBool _ := give
  trueObj := ⟨0⟩
  falseObj := ⟨1⟩
  isFloat _ _ := false
  toFloat _ := grant Double.zero
  toInt _ := grant 0
  iterator _ := give
  call f args w := match args with
    | none => apply f [] w
    | some t => match w.slots t with
      | some ss => apply f (ss.filterMap id) w
      | none => ⟨.failed, w, []⟩
  searchPath _ := none
  normalize p w := ⟨p, w, []⟩
  isStopIteration _ _ := false
  print _ w := ⟨none, w, []⟩

/-- What it knows of tuples and calls. -/
def view : ArgumentView Porter where
  slots := slots
  apply := apply
  counted _ := true

variable {w : Porter} {o p t : Obj} {os : List Obj}

/-! ## Its tuples -/

/-- References change where the object is there. -/
theorem refcount_shift {f : Obj → Int} (hf : f p = 0 ∨ 0 < w.refcount p) :
    (w.shift f).refcount p = w.refcount p + f p := by
  unfold refcount at hf ⊢
  split
  next => rfl
  next hp =>
    rw [if_neg hp] at hf
    show ((w.tuples.mapIdx fun i x => (x.1, x.2 + f ⟨plain + i⟩))[p.id - plain]?).elim 0 _ = _
    have hid : plain + (p.id - plain) = p.id := by omega
    rw [List.getElem?_mapIdx]
    cases hx : w.tuples[p.id - plain]? with
    | some x => exact congrArg (fun n => x.2 + f ⟨n⟩) hid
    | none =>
      rw [hx] at hf
      rcases hf with hf | hf
      · exact (Int.zero_add _).symm.trans (congrArg (0 + ·) hf.symm)
      · exact absurd hf (by decide)

@[simp] theorem slots_shift {f : Obj → Int} : (w.shift f).slots p = w.slots p := by
  unfold slots
  split
  next => rfl
  next =>
    show ((w.tuples.mapIdx fun i x => (x.1, x.2 + f ⟨plain + i⟩))[p.id - plain]?).map _ = _
    rw [List.getElem?_mapIdx, Option.map_map]
    rfl

theorem view_refs : view.refs os p = Obj.refs os p := if_pos rfl

theorem refs_singleton : Obj.refs [o] p = o.ref p := Int.add_zero _

theorem ref_eq_zero_or (ho : 0 < w.refcount o) (p : Obj) : o.ref p = 0 ∨ 0 < w.refcount p := by
  by_cases hop : o = p
  · exact .inr (hop ▸ ho)
  · exact .inl (if_neg hop)

theorem refs_eq_zero_or (hos : ∀ o ∈ os, 0 < w.refcount o) (p : Obj) :
    Obj.refs os p = 0 ∨ 0 < w.refcount p := by
  induction os with
  | nil => exact .inl rfl
  | cons o os ih =>
    rcases ref_eq_zero_or (hos o List.mem_cons_self) p with hone | hthere
    · have hcons : Obj.refs (o :: os) p = o.ref p + Obj.refs os p := List.sum_cons
      rw [hcons, hone, Int.zero_add]
      exact ih fun o' ho' => hos o' (List.mem_cons_of_mem o ho')
    · exact .inr hthere

theorem newTuple_run {n : Int} (hv : (newTuple n w).value = .value t) :
    0 ≤ n ∧ t = ⟨plain + w.tuples.length⟩ ∧ newTuple n w = ⟨.value t,
      { w with tuples := w.tuples ++ [(List.replicate n.toNat none, 1)] }, []⟩ := by
  unfold newTuple at hv ⊢
  split at hv
  next hn =>
    cases hv
    exact ⟨hn, rfl, if_pos hn⟩
  next => cases hv

/-- What there is stays when a tuple is made. -/
theorem tuples_concat {x : List (Option Obj) × Int} (hp : p ≠ ⟨plain + w.tuples.length⟩)
    (hplain : ¬p.id < plain) : (w.tuples ++ [x])[p.id - plain]? = w.tuples[p.id - plain]? := by
  have hne : p.id - plain ≠ w.tuples.length := by
    intro heq
    refine hp ?_
    obtain ⟨id⟩ := p
    rw [Obj.mk.injEq]
    dsimp only at heq hplain ⊢
    omega
  rcases Nat.lt_or_gt_of_ne hne with hlt | hgt
  · exact List.getElem?_append_left hlt
  · have hlength : (w.tuples ++ [x]).length ≤ p.id - plain := by
      rw [List.length_append, List.length_singleton]
      omega
    rw [List.getElem?_eq_none hlength, List.getElem?_eq_none (by omega)]

theorem slots_eq_some {ss : List (Option Obj)} (hslots : w.slots t = some ss) :
    ¬t.id < plain ∧ ∃ x, w.tuples[t.id - plain]? = some x ∧ ss = x.1 := by
  unfold slots at hslots
  split at hslots
  next => cases hslots
  next hplain =>
    obtain ⟨x, hx, heq⟩ := Option.map_eq_some_iff.1 hslots
    exact ⟨hplain, x, hx, heq.symm⟩

theorem setTupleItem_run {ss : List (Option Obj)} {i : Nat} (hslots : w.slots t = some ss)
    (hi : ss[i]? = some none) :
    setTupleItem t i o w = ⟨.value (), { w with
      tuples := w.tuples.modify (t.id - plain) fun x => (x.1.set i (some o), x.2) }, []⟩ := by
  unfold setTupleItem
  rw [hslots]
  exact if_pos hi

theorem passesArguments : guest.PassesArguments view where
  call_none _ _ := rfl
  call_tuple f {t os w} hwhole := by
    have hslots : w.slots t = some (os.map some) := hwhole
    show (match w.slots t with | some ss => apply f (ss.filterMap id) w | none => _) = _
    rw [hslots]
    simp [view, List.filterMap_map]
  retain {o w} ho p := by
    rw [view_refs, refs_singleton]
    exact ⟨refcount_shift (ref_eq_zero_or ho p), slots_shift⟩
  newTuple {n t w} hv := by
    obtain ⟨hn, rfl, hrun⟩ := newTuple_run hv
    have hid : ¬(⟨plain + w.tuples.length⟩ : Obj).id < plain := by simp
    have hindex : plain + w.tuples.length - plain = w.tuples.length := by omega
    have hwhole : guest.newTuple n w = _ := hrun
    rw [hwhole]
    refine ⟨hn, rfl, ?_, fun _ => ⟨rfl, ?_, ?_⟩, fun p hp => ⟨?_, ?_⟩⟩
    · show slots _ _ = _
      rw [slots, if_neg hid]
      simp [hindex]
    · show refcount _ _ = _
      rw [refcount, if_neg hid]
      simp [hindex]
    · show refcount _ _ = _
      rw [refcount, if_neg hid]
      simp [hindex]
    · show refcount _ _ = refcount _ _
      unfold refcount
      split
      next => rfl
      next hplain => rw [tuples_concat hp hplain]
    · show slots _ _ = slots _ _
      unfold slots
      split
      next => rfl
      next hplain => rw [tuples_concat hp hplain]
  setTupleItem {t o w ss i} hslots hi _ := by
    have hwhole : guest.setTupleItem t i o w = _ := setTupleItem_run hslots hi
    rw [hwhole]
    refine ⟨rfl, rfl, ?_, fun p => ⟨?_, fun hp => ?_⟩⟩
    · obtain ⟨hplain, x, hx, rfl⟩ := slots_eq_some hslots
      show slots _ _ = _
      rw [slots, if_neg hplain]
      simp [hx]
    · show refcount _ _ = refcount _ _
      unfold refcount
      split
      next => rfl
      next =>
        dsimp only
        rw [List.getElem?_modify]
        cases w.tuples[p.id - plain]? with
        | none => rfl
        | some x =>
          show (if t.id - plain = p.id - plain then _ else x).2 = x.2
          split <;> rfl
    · obtain ⟨hplain, -⟩ := slots_eq_some hslots
      show slots _ _ = slots _ _
      unfold slots
      split
      next => rfl
      next hp' =>
        have hne : t.id - plain ≠ p.id - plain := by
          intro heq
          refine hp ?_
          obtain ⟨i⟩ := p
          obtain ⟨j⟩ := t
          rw [Obj.mk.injEq]
          dsimp only at heq hplain hp'
          omega
        dsimp only
        rw [List.getElem?_modify]
        simp only [if_neg hne, id_map']
  release_last {t os w} hwhole _ hone hheld := by
    have hslots : w.slots t = some (os.map some) := hwhole
    have hone : w.refcount t = 1 := hone
    have hitems : ((w.slots t).getD []).filterMap id = os := by
      rw [hslots, Option.getD_some, List.filterMap_map]
      exact List.filterMap_some
    have hrelease : guest.release t w =
        ⟨(), (w.shift fun p => -t.ref p).shift fun p => -Obj.refs os p, []⟩ := by
      show release t w = _
      rw [release, if_pos hone, hitems]
    rw [hrelease]
    refine ⟨rfl, fun p hp => ?_⟩
    have hfirst : (w.shift fun p => -t.ref p).refcount p = w.refcount p := by
      have hzero : t.ref p = 0 := if_neg hp.symm
      rw [refcount_shift (.inl (by rw [hzero, Int.neg_zero])), hzero]
      omega
    have hthere : Obj.refs os p = 0 ∨ 0 < w.refcount p := refs_eq_zero_or (fun o ho => by
      have hlt : view.refs os o < w.refcount o := hheld o ho
      have hpos := view.refs_nonneg os o
      omega) p
    show ((w.shift fun p => -t.ref p).shift fun p => -Obj.refs os p).refcount p = _
    rw [refcount_shift (by rw [hfirst]; omega), hfirst, view_refs]
    rfl
  release_shared {o w} ho := by
    have hne : ¬w.refcount o = 1 := fun hone => absurd (hone ▸ ho : (1 : Int) < 1) (by decide)
    have hrelease : guest.release o w = ⟨(), w.shift fun p => -o.ref p, []⟩ := by
      show release o w = _
      rw [release, if_neg hne]
    have hthere : 0 < w.refcount o := Int.lt_trans (by decide) ho
    rw [hrelease]
    refine ⟨rfl, fun p => ?_⟩
    show (w.shift fun p => -o.ref p).refcount p = _
    rw [refcount_shift ((ref_eq_zero_or hthere p).imp_left fun hzero => by rw [hzero]; rfl),
      view_refs, refs_singleton]
    rfl

/-- A state with one reference to each plain object. -/
def stocked : Porter := ⟨fun _ => 1, []⟩

/-- An object is passed twice, owned and borrowed, and another one once. What keeps them has a
reference for each time, and what raises leaves none. -/
theorem keeps_arguments :
    let c : CallableHandle := ⟨"store", "keep", .ofBorrowed ⟨1⟩⟩
    let refusing : CallableHandle := ⟨"store", "refuse", .ofBorrowed ⟨2⟩⟩
    let args : List Handle := [⟨⟨4⟩, .owned⟩, ⟨⟨4⟩, .borrowed⟩, ⟨⟨5⟩, .owned⟩]
    guest.PassesArguments view ∧ (Host.fresh stocked).pending = none ∧
    (∀ a ∈ args, 0 < guest.refcount a.obj stocked) ∧ args.length < 2 ^ 64 ∧
    CallableHandle.Passes guest view c (args.map (·.obj)) (Host.fresh stocked)
      ((c.invokeWith guest args).run.run (Host.fresh stocked)) ∧
    ((c.invokeWith guest args).run.run (Host.fresh stocked)).toOption.map
      (fun x => (x.1, x.2.live, x.2.world.refcount ⟨4⟩, x.2.world.refcount ⟨5⟩)) =
        some (.ok ⟨⟨0⟩, .owned⟩, 1, 3, 2) ∧
    ((refusing.invokeWith guest args).run.run (Host.fresh stocked)).toOption.map
      (fun x => (x.1.toOption, x.2.live, x.2.world.refcount ⟨4⟩, x.2.world.refcount ⟨5⟩)) =
        some (none, 0, 1, 1) := by
  intro c refusing args
  have hthere : ∀ a ∈ args, 0 < guest.refcount a.obj stocked := by decide +kernel
  exact ⟨passesArguments, rfl, hthere, by decide,
    (c.argument_laws passesArguments args (Host.fresh stocked) rfl hthere (by decide)).1,
    by decide +kernel, by decide +kernel⟩

end Porter

end Embedder
