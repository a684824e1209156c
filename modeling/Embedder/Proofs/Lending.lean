import Embedder.Proofs.Deferrals
import Embedder.Proofs.References

/-!
# References that Python lends

Python counts the references to each of its objects. Some of them it holds itself, the others are
lent to the bridge. What Python holds itself changes as Python code likes, so a count alone says
little of the bridge; but what is lent changes only with the references that a call is documented to
hand over (`Guest.Lends`).

While an interpreter runs, the bridge can account for what is lent: an exception that is pending
holds some, some wait for release, and each shared binding of the running generation holds one. The
others are at large (`Host.atLarge`), with handles and with the bindings that a program has in hand.
`Lent` is the conduct that says how many references to an object are at large more than before. It
is a conduct on a scale, as `InHand` is.
-/

namespace Embedder

open Exception

variable {σ α : Type} {G : Guest σ} {own : Obj → σ → Int}

namespace Guest

variable (G : Guest σ) (own : Obj → σ → Int)

/-- The references to an object that Python does not hold itself; `own` is what it holds. -/
def lent (x : Obj) (w : σ) : Int := G.refcount x w - own x w

/-- An act hands over so many references to an object. A reference that its Python code put into the
queue is no longer Python's own. -/
def Passes (generation : Nat) (x : Obj) (f : σ → Effect σ α) (n : α → Int) : Prop :=
  ∀ w, G.lent own x (f w).world =
    G.lent own x w + n (f w).value + (deferredIn (f w).notices).count ⟨x, generation⟩

/-- In an interpreter of the generation, references go over with the calls that are documented to
hand them over, and in no other way. -/
structure Lends (generation : Nat) : Prop where
  /-- A new interpreter has lent nothing. -/
  boot : ∀ {w} x, G.isUp (G.boot generation w) = true → G.lent own x (G.boot generation w) = 0
  retain : ∀ x o w, G.lent own x (G.retain o w) = G.lent own x w + o.ref x
  release : ∀ x o, G.Passes own generation x (G.release o) fun _ => -o.ref x
  releaseKept : ∀ x k, G.Passes own generation x (G.releaseKept false k) fun _ => -k.obj.ref x
  answer : ∀ {α : Type} {f : σ → Outcome σ α} {n : α → Int} {e : Int} x,
    G.Brings (Scale.references x) f n e →
    G.Passes own generation x f (Reply.weight (Scale.references x) n e)
  normalize : ∀ x p, G.Passes own generation x (G.normalize p) fun q =>
    Obj.refs q.refs x - Obj.refs p.refs x
  print : ∀ x p, G.Passes own generation x (G.print p) fun _ => -Obj.refs p.refs x

/-! ## A guest that lends -/

/-- The guest that counts the references of the bridge, as its ledger has them, besides those that
it counted before. -/
def counting : Guest (Ledgered σ) :=
  { G.ledgered with
    boot := fun n w => ⟨G.boot n w.inner, []⟩
    refcount := fun x w => G.refcount x w.inner + Transfer.net w.notes x }

variable {G}

theorem Act.of_counting {f : Ledgered σ → Effect (Ledgered σ) α} (hf : G.counting.Act f) :
    G.ledgered.Act f := by
  cases hf with
  | _ => constructor

theorem Brings.of_counting {w : Scale} {f : Ledgered σ → Outcome (Ledgered σ) α} {n : α → Int}
    {e : Int} (hf : G.counting.Brings w f n e) : G.ledgered.Brings w f n e := by
  cases hf with
  | _ => constructor

theorem NeverDefers.counting (hG : G.NeverDefers) : G.counting.NeverDefers where
  act hf w := by
    obtain ⟨g, passed, hg, rfl⟩ := hf.of_counting.of_noting
    exact hG.act hg w.inner
  releaseKept busy k w := hG.releaseKept busy k w.inner
  shutdown w := hG.shutdown w.inner

/-- What a guest held before it counts for the bridge is what Python holds itself. -/
def held (G : Guest σ) (x : Obj) (w : Ledgered σ) : Int := G.refcount x w.inner

theorem counting_lent (x : Obj) (w : Ledgered σ) :
    G.counting.lent G.held x w = Transfer.net w.notes x := by
  show G.refcount x w.inner + Transfer.net w.notes x - G.refcount x w.inner = _
  omega

/-- What the ledger notes is handed over. -/
theorem counting_passes {generation : Nat} {x : Obj} {n : α → Int} (f : σ → Effect σ α)
    (passed : α → List Transfer) (hquiet : ∀ w, deferredIn (f w).notices = [])
    (hpassed : ∀ a, Transfer.net (passed a) x = n a) :
    G.counting.Passes G.held generation x (Noted.act Transfer.record f passed) n := by
  intro w
  rw [counting_lent, counting_lent, ← hpassed]
  show Transfer.net (w.notes ++ _) x = _ + ((deferredIn (f w.inner).notices).count _ : Int)
  rw [Transfer.net_append, hquiet, List.count_nil]
  exact (Int.add_zero _).symm

/-- **Lending is not a matter of the interpreter.** Whatever a guest does, it lends if the
references of the bridge are counted beside its own. -/
theorem counting_lends (hG : G.NeverDefers) (generation : Nat) :
    G.counting.Lends G.held generation where
  boot x _ := counting_lent x _
  retain x o w := by
    rw [counting_lent, counting_lent]
    show Transfer.net (w.notes ++ [.made o]) x = _
    rw [Transfer.net_append]
    exact congrArg (Transfer.net w.notes x + ·) (Int.add_zero _)
  release x o := counting_passes (G.release o) (fun _ => [.ended o]) (hG.act (.release o))
    fun _ => Int.add_zero _
  releaseKept x k := counting_passes (G.releaseKept false k) (fun _ => [.ended k.obj])
    (hG.releaseKept false k) fun _ => Int.add_zero _
  answer x hf := by
    obtain ⟨g, passed, hg, rfl, hpassed⟩ := hf.of_counting.of_ledgered
    exact counting_passes g passed (hG.act hg) hpassed
  normalize x p := counting_passes (G.normalize p) _ (hG.act (.normalize p))
    (Transfer.net_normalize p)
  print x p := counting_passes (G.print p) _ (hG.act (.print p))
    fun _ => Transfer.net_gave p.refs x

end Guest

/-! ## What is at large -/

/-- The references to an object that are lent and that the books of the host do not account for. Of
the shared bindings, and of what waits for release, those count that are of the generation. -/
def Host.atLarge (G : Guest σ) (own : Obj → σ → Int) (k : Kept) (h : Host σ) : Int :=
  G.lent own k.obj h.world - Obj.refs (h.pending.elim [] Pending.refs) k.obj - h.waiting.count k -
    (Shares.kept h.shares).count k

/-- The interpreter of a reference runs, over an orderly shelf. In a process that is `idle`, the
reference does not wait for release. -/
structure Host.Within (idle : Prop) (k : Kept) (h : Host σ) : Prop where
  runs : h.lifecycle.Runs k.generation
  orderly : h.shelf.Orderly
  waiting : idle → k ∉ h.waiting

/-- While its interpreter runs, `n` references more to an object are at large. -/
def Lent (G : Guest σ) (own : Obj → σ → Int) (idle : Prop) (k : Kept) : Conduct σ := fun n h h' =>
  h.Within idle k → h'.Within idle k ∧ h'.atLarge G own k = h.atLarge G own k + n

namespace Kept

variable {j k : Kept}

/-- Within a generation, a kept reference is a reference to its object. -/
theorem count_of_generation (hj : j.generation = k.generation) :
    ([j].count k : Int) = j.obj.ref k.obj := by
  obtain ⟨o, generation⟩ := j
  cases hj
  by_cases ho : o = k.obj
  · subst ho
    rw [List.count_singleton_self, Obj.ref, if_pos rfl]
    rfl
  · rw [List.count_eq_zero.mpr fun hmem => ho (congrArg Kept.obj (List.mem_singleton.mp hmem)).symm,
      Obj.ref, if_neg ho]
    rfl

theorem count_of_other (hj : j.generation ≠ k.generation) : [j].count k = 0 :=
  List.count_eq_zero.mpr fun hmem => hj (congrArg Kept.generation (List.mem_singleton.mp hmem)).symm

end Kept

variable {idle : Prop} {k : Kept} {h h' : Host σ} {n : Int}

theorem lent_composes : (Lent G own idle k).Composes where
  refl h hw := ⟨hw, (Int.add_zero _).symm⟩
  trans := by
    intro m n h₁ h₂ h₃ hm hn hw
    obtain ⟨hw₂, hlarge⟩ := hm hw
    obtain ⟨hw₃, hlarge'⟩ := hn hw₂
    exact ⟨hw₃, by omega⟩

namespace Lent

/-- Something happened to the interpreter, and some references were queued. -/
theorem of_world (ks : List Kept) (hshelf : h'.shelf = h.shelf) (hpending : h'.pending = h.pending)
    (hwaiting : h'.waiting = h.waiting ++ ks) (hquiet : idle → k ∉ ks)
    (hlent : G.lent own k.obj h'.world = G.lent own k.obj h.world + n + ks.count k) :
    Lent G own idle k n h h' := by
  refine fun hw => ⟨⟨?_, ?_, fun hidle => ?_⟩, ?_⟩
  · rw [show h'.lifecycle = h.lifecycle from congrArg Shelf.lifecycle hshelf]
    exact hw.runs
  · rw [hshelf]
    exact hw.orderly
  · rw [hwaiting, List.mem_append, not_or]
    exact ⟨hw.waiting hidle, hquiet hidle⟩
  · unfold Host.atLarge
    rw [show h'.shares = h.shares from congrArg Shelf.shares hshelf, hpending, hwaiting, hlent,
      List.count_append]
    omega

/-- Nothing happened to the interpreter, and the shared bindings hold `n` references fewer. -/
theorem of_shelf (hlife : h'.lifecycle = h.lifecycle) (hpending : h'.pending = h.pending)
    (hwaiting : h'.waiting = h.waiting) (hworld : h'.world = h.world)
    (horderly : h.shelf.Orderly → h'.shelf.Orderly)
    (hkept : h.shelf.Orderly →
      (Shares.kept h.shares).count k = (Shares.kept h'.shares).count k + n) :
    Lent G own idle k n h h' := by
  refine fun hw => ⟨⟨?_, horderly hw.orderly, ?_⟩, ?_⟩
  · rw [hlife]
    exact hw.runs
  · rw [hwaiting]
    exact hw.waiting
  · unfold Host.atLarge
    rw [hpending, hwaiting, hworld, hkept hw.orderly]
    omega

/-- Nothing happened to the interpreter, and to the books nothing that matters here. -/
theorem of_eq (hshelf : h'.shelf = h.shelf) (hpending : h'.pending = h.pending)
    (hwaiting : h'.waiting = h.waiting) (hworld : h'.world = h.world) :
    Lent G own idle k 0 h h' := by
  refine of_world [] hshelf hpending ?_ (fun _ => List.not_mem_nil) ?_
  · rw [hwaiting, List.append_nil]
  · rw [hworld, List.count_nil]
    omega

end Lent

theorem act_lent {f : σ → Effect σ α} {n : α → Int} (hf : G.Passes own k.generation k.obj f n)
    (hquiet : idle → ∀ w, deferredIn (f w).notices = []) :
    (Bridge.act f).Obeys (Lent G own idle k) n := by
  intro h a h' hr
  obtain ⟨rfl, rfl⟩ := Bridge.act_ok hr
  refine Lent.of_world (deferredIn (f h.world).notices) rfl rfl rfl ?_ (hf h.world)
  intro hidle
  rw [hquiet hidle]
  exact List.not_mem_nil

section

variable (hG : G.Lends own k.generation) (hidle : idle → G.NeverDefers)
include hG hidle

theorem lent_weighs : (Lent G own idle k).Weighs (Scale.references k.obj) G where
  toComposes := lent_composes
  count n h := by
    show Lent G own idle k (n * 0) h _
    rw [Int.mul_zero]
    exact Lent.of_eq rfl rfl rfl rfl
  record _ _ := Lent.of_eq rfl rfl rfl rfl
  retain o h := by
    refine Lent.of_world [] rfl rfl (List.append_nil _).symm
      (fun _ => List.not_mem_nil) ?_
    rw [List.count_nil]
    exact (hG.retain k.obj o h.world).trans (Int.add_zero _).symm
  release o := act_lent (hG.release k.obj o) fun hi => (hidle hi).act (.release o)

/-- Taken or left, an exception is lent: only whether it is at large changes. -/
theorem lent_pending : (Lent G own idle k).WeighsPending (Scale.references k.obj) G where
  toWeighs := lent_weighs hG hidle
  take {h p} hp := by
    refine fun hw => ⟨⟨hw.runs, hw.orderly, hw.waiting⟩, ?_⟩
    simp only [Host.atLarge, hp, Option.elim, Obj.refs_nil, Scale.references_refs]
    omega
  leave {h} p hp := by
    refine fun hw => ⟨⟨hw.runs, hw.orderly, hw.waiting⟩, ?_⟩
    simp only [Host.atLarge, hp, Option.elim, Obj.refs_nil, Scale.references_refs]
    omega

theorem lent_acts : (Lent G own idle k).WeighsActs (Scale.references k.obj) G where
  toWeighs := lent_weighs hG hidle
  act hf := act_lent (hG.answer k.obj hf) fun hi => (hidle hi).act hf.act
  normalize p := act_lent (hG.normalize k.obj p) fun hi => (hidle hi).act (.normalize p)
  print p := act_lent (hG.print k.obj p) fun hi => (hidle hi).act (.print p)
  take := (lent_pending hG hidle).take
  clear := clear_weighed (lent_pending hG hidle)
  raise p := raise_weighed (lent_pending hG hidle) p

/-! ## Sessions -/

theorem releaseKept_lent (j : Kept) :
    (Bridge.act (G.releaseKept false j)).Obeys (Lent G own idle k) fun _ => -j.obj.ref k.obj :=
  act_lent (hG.releaseKept k.obj j) fun hi => (hidle hi).releaseKept false j

/-- What is settled is at large no more. -/
theorem settle_lent : ∀ ks : List Kept, (Session.settle G false k.generation ks).Obeys
    (Lent G own idle k) fun _ => -(ks.count k : Int) := by
  intro ks
  induction ks with
  | nil => exact Bridge.Obeys.pure lent_composes rfl
  | cons j ks ih =>
    have hone : (Session.settleOne G false k.generation j).Obeys (Lent G own idle k)
        fun _ => -([j].count k : Int) := by
      unfold Session.settleOne
      split
      next hj =>
        rw [Kept.count_of_generation hj]
        exact releaseKept_lent hG hidle j
      next hj =>
        rw [Kept.count_of_other hj]
        exact Bridge.Obeys.pure lent_composes rfl
    unfold Session.settle
    refine hone.bind lent_composes fun _ => ih.congr fun _ => ?_
    rw [← List.singleton_append, List.count_append]
    omega

/-- A session begins with what waits for it, and that is not at large. -/
theorem lent_sessions : (Lent G own idle k).WeighsSessions (Scale.references k.obj) G where
  toWeighsRequests := (lent_acts hG hidle).requests
  settle {h h' u} _ hr hw := by
    unfold Session.settleWaiting at hr
    rw [Bridge.run_get_bind, Bridge.run_modify_bind, hw.runs.2] at hr
    have emptied : Lent G own idle k (h.waiting.count k) h { h with waiting := [] } := by
      refine fun hw => ⟨⟨hw.runs, hw.orderly, fun _ => List.not_mem_nil⟩, ?_⟩
      simp only [Host.atLarge, List.count_nil]
      omega
    have settled := settle_lent hG hidle h.waiting _ u h' hr
    have hall := lent_composes.trans emptied settled
    rw [Int.add_right_neg] at hall
    exact hall hw

/-- A binding that ends gives up its reference, or puts it into the queue. One of another generation
has none that counts. -/
theorem Binding.drop_lent {busy : Bool} (hbusy : idle → busy = false) (b : Binding) :
    (b.drop G busy).Obeys (Lent G own idle k) fun _ => -([b.kept].count k : Int) := by
  intro h u h' hr hw
  cases busy with
  | true =>
    cases Binding.drop_run_of_busy (G := G) b ▸ hr
    refine Lent.of_world [b.kept] rfl rfl rfl (fun hi => nomatch hbusy hi) ?_ hw
    show G.lent own k.obj h.world = G.lent own k.obj h.world + -([b.kept].count k : Int) + _
    omega
  | false =>
    by_cases hb : b.kept.generation = k.generation
    · have hruns : h.lifecycle.generation = b.generation := hw.runs.2.trans hb.symm
      rw [Binding.drop_run_of_running hw.runs.1 hruns] at hr
      rw [Kept.count_of_generation hb]
      exact releaseKept_lent hG hidle b.kept h u h' hr hw
    · have hgone : ¬(h.lifecycle.stage = .running ∧ h.lifecycle.generation = b.generation) :=
        fun hruns => hb (hruns.2.symm.trans hw.runs.2)
      rw [Binding.drop_run_of_gone hgone] at hr
      cases hr
      rw [Kept.count_of_other hb]
      exact Lent.of_eq rfl rfl rfl rfl hw

/-! ## Between a start and a stop -/

/-- Between a start and a stop, what is at large is with handles and with the bindings in hand. -/
theorem lent_registry : (Lent G own idle k).WeighsRegistry (Scale.references k.obj)
    (fun j => ([j].count k : Int)) (fun busy => idle → busy = false) G where
  toWeighsSessions := lent_sessions hG hidle
  write hf h := by
    rw [hf h]
    exact Lent.of_eq rfl rfl rfl rfl
  bind moduleName function := by
    intro h r h' hr hw
    have bound := Binding.bind_weighed (lent_sessions hG hidle) moduleName function h r h' hr hw
    cases r with
    | ok b =>
      have hb : b.kept.generation = k.generation :=
        (Binding.bind_ok hr).2.2.trans hw.runs.2
      rw [leaves, Kept.count_of_generation hb]
      exact bound
    | error f => exact bound
  drop hbusy b := Binding.drop_lent hG hidle hbusy b
  idle _ := rfl
  share hs howners := by
    refine Lent.of_shelf rfl rfl rfl rfl (Shelf.Changes.shared _ hs howners).orderly fun ho => ?_
    rw [Int.add_zero]
    exact congrArg (fun ks => (ks.count k : Int)) (Shares.kept_set ho.keys hs _).symm
  unshare hs := by
    refine Lent.of_shelf rfl rfl rfl rfl (Shelf.Changes.ended _ hs).orderly fun ho => ?_
    exact congrArg Int.ofNat (Shares.count_kept_erase ho.keys hs k).symm
  insert {h r} hr b := by
    refine Lent.of_shelf rfl rfl rfl rfl (Shelf.Changes.inserted h.shelf hr b).orderly fun _ => ?_
    show _ = ((List.map (fun e => e.2.binding.kept)
      (h.shares ++ [(h.nextSerial, (⟨b, 1⟩ : Share))])).count k : Int) + _
    rw [List.map_append, List.count_append, Nat.cast_add]
    exact (Int.add_neg_cancel_right _ _).symm
  remove {h r} hr id := by
    refine Lent.of_shelf rfl rfl rfl rfl (Shelf.Changes.removed h.shelf hr id).orderly fun _ => ?_
    exact (Int.add_zero _).symm

end

section

open Interpreter

variable {thread : ThreadId} {config : Config}

/-- An interpreter that runs is not started again. -/
theorem Host.Within.refusal (hw : h.Within idle k) :
    startRefusal config h = some .alreadyRunning := by
  rw [startRefusal, hw.runs.1]

theorem launch_lent : (launch G thread config).Obeys (Lent G own idle k) (fun _ => 0) 0 := by
  intro h r h' hr hw
  rw [launch_run_of_refused thread hw.refusal] at hr
  cases hr
  exact Lent.of_eq rfl rfl rfl rfl hw

theorem start_lent : (start G thread config).Obeys (Lent G own idle k) (fun _ => 0) 0 := by
  intro h r h' hr hw
  rw [start_run_of_launch_error (launch_run_of_refused thread hw.refusal)] at hr
  cases hr
  exact Lent.of_eq rfl rfl rfl rfl hw

end

end Embedder
