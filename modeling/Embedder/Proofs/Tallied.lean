import Embedder.Proofs.Draining
import Embedder.Proofs.Trait.Operation

/-!
# Guests that tally calls without arguments

A tallied guest does what the guest does, and counts the calls of an object without arguments. The
bridge calls without arguments only what it walks with, so the tally says how often `__next__` was
called. It cannot be looked at from the bridge.

That nothing else moves the tally is seen at a guest that leaves such calls out (`Guest.muted`):
what never makes one does the same there (`drain_muted`, `decoder_muted`), and of a muted guest no
act at all moves the tally.
-/

namespace Embedder

open Exception Scenario

variable {σ α β : Type} {G : Guest σ}

/-- The state of a guest with the tally. -/
structure Tallied (σ : Type) where
  inner : σ
  calls : Nat

namespace Tallied

/-- The guest acts, and the tally stays. -/
def act (f : σ → Effect σ α) (w : Tallied σ) : Effect (Tallied σ) α :=
  let e := f w.inner
  ⟨e.value, { w with inner := e.world }, e.notices⟩

end Tallied

/-- The guest with the tally. -/
def Guest.tallied (G : Guest σ) : Guest (Tallied σ) where
  isUp w := G.isUp w.inner
  boot n w := { w with inner := G.boot n w.inner }
  shutdown := Tallied.act G.shutdown
  retain o w := { w with inner := G.retain o w.inner }
  release o := Tallied.act (G.release o)
  releaseKept busy k := Tallied.act (G.releaseKept busy k)
  refcount o w := G.refcount o w.inner
  importModule name := Tallied.act (G.importModule name)
  addModule name := Tallied.act (G.addModule name)
  namespaceOf o := Tallied.act (G.namespaceOf o)
  lookup o name w := G.lookup o name w.inner
  isCallable o w := G.isCallable o w.inner
  getAttr o name := Tallied.act (G.getAttr o name)
  length o := Tallied.act (G.length o)
  str o := Tallied.act (G.str o)
  text o := Tallied.act (G.text o)
  newText s := Tallied.act (G.newText s)
  joinTexts separator texts := Tallied.act (G.joinTexts separator texts)
  newList n := Tallied.act (G.newList n)
  newTuple n := Tallied.act (G.newTuple n)
  setListItem list i item := Tallied.act (G.setListItem list i item)
  setTupleItem tuple i item := Tallied.act (G.setTupleItem tuple i item)
  append list item := Tallied.act (G.append list item)
  ofFloat d := Tallied.act (G.ofFloat d)
  ofInt n := Tallied.act (G.ofInt n)
  ofBool b := Tallied.act (G.ofBool b)
  trueObj := G.trueObj
  falseObj := G.falseObj
  isFloat o w := G.isFloat o w.inner
  toFloat o := Tallied.act (G.toFloat o)
  toInt o := Tallied.act (G.toInt o)
  iterator o := Tallied.act (G.iterator o)
  call f args w :=
    Tallied.act (G.call f args) { w with calls := w.calls + if args.isNone then 1 else 0 }
  searchPath w := G.searchPath w.inner
  normalize p := Tallied.act (G.normalize p)
  isStopIteration p w := G.isStopIteration p w.inner
  print p := Tallied.act (G.print p)

/-- The guest that leaves calls without arguments out. -/
def Guest.muted (G : Guest σ) : Guest σ :=
  { G with call := fun f args =>
      match args with
      | none => fun w => ⟨.failed, w, []⟩
      | some args => G.call f (some args) }

/-- Programs that leave the tally as it is. -/
def Trait.tallying : Trait (Tallied σ) :=
  fun _ x => ∀ h a h', x.run h = .ok (a, h') → h'.world.calls = h.world.calls

instance : (Trait.tallying : Trait (Tallied σ)).Composes where
  pure a := by
    intro h b h' hr
    obtain ⟨-, rfl⟩ := Bridge.pure_ok hr
    rfl
  bind hx hf := by
    intro h b h' hr
    obtain ⟨a, k, hxr, hrest⟩ := Bridge.bind_ok hr
    exact (hf a k b h' hrest).trans (hx h a k hxr)

namespace Trait

theorem tallying_reads (r : Host (Tallied σ) → Host (Tallied σ) → Prop) :
    (tallying : Trait (Tallied σ)).Reads r :=
  fun _ hp h a h' hr => hp h h a h' hr

theorem tallying_act {f : Tallied σ → Effect (Tallied σ) α} (hf : ∀ w, (f w).world.calls = w.calls) :
    (Bridge.act f).Has tallying := by
  intro h a h' hr
  obtain ⟨-, rfl⟩ := Bridge.act_ok hr
  exact hf h.world

theorem tallying_steady (G : Guest σ) : (tallying : Trait (Tallied σ)).Steady G.tallied.muted where
  pending := tallying_reads _
  look := tallying_reads _
  count _ := by
    intro h a h' hr
    cases hr
    rfl
  record _ := by
    intro h a h' hr
    cases hr
    rfl
  leave _ := by
    intro h a h' hr
    cases hr
    rfl
  retain _ := by
    intro h a h' hr
    cases hr
    rfl
  act hf := by
    refine tallying_act fun w => ?_
    cases hf with
    | call f args => cases args <;> rfl
    | _ => rfl

theorem tallying_lawful (G : Guest σ) : (tallying : Trait (Tallied σ)).Lawful G.tallied.muted where
  toSteady := tallying_steady G
  printIfWanted kind value trace := by
    have hP := tallying_steady G
    refine tallying_reads (· = ·) (fun h k hk => by rw [hk]) fun h => ?_
    split
    next =>
      unfold Exception.print
      refine (Exception.copyRef_has hP kind).bind fun k => ?_
      refine (Exception.copyRef?_has hP value).bind fun v => ?_
      refine (Exception.copyRef?_has hP trace).bind fun t => ?_
      refine (hP.act (.print ⟨k, v, t⟩)).bind fun status => ?_
      cases status with
      | none => exact Bridge.Has.pure ()
      | some status =>
        intro h a h' hr
        cases hr
    next => exact Bridge.Has.pure ()

end Trait

/-- To take an exception, nothing is called without arguments. -/
theorem Exception.drain_muted (G : Guest σ) : drain G.muted = drain G := rfl

theorem Scenario.decoder_muted (G : Guest σ) (kind : ElementKind) :
    decoder G.muted kind = decoder G kind := by
  cases kind <;> rfl

section Calls

variable {h h' : Host (Tallied σ)}

theorem Scenario.decoder_tallying (G : Guest σ) (kind : ElementKind) :
    (decoder G.tallied kind).Has Trait.tallying := by
  rw [← decoder_muted]
  exact decoder_has (Trait.tallying_lawful G) kind

theorem Exception.taken_calls {p : Pending} {r : ExceptionReport}
    (hr : h.taken G.tallied p = .ok (r, h')) (hp : h.pending = none) :
    h'.world.calls = h.world.calls := by
  have hdrain : (drain G.tallied).run (h.pend (some p)) = .ok (some r, h') := by
    rw [drain_run rfl]
    show (((h.pend none).taken G.tallied p).map _) = _
    rw [Host.pend_self hp, hr]
    rfl
  rw [← drain_muted] at hdrain
  exact drain_has (Trait.tallying_lawful G) (h.pend (some p)) _ h' hdrain

theorem Guest.releaseAll_calls (os : List Obj) (w : Tallied σ) :
    (G.tallied.releaseAll os w).world.calls = w.calls := by
  induction os with
  | nil => rfl
  | cons o os ih => exact ih

end Calls

end Embedder
