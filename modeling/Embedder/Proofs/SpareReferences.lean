import Embedder.Proofs.Likeness
import Embedder.Proofs.Station
import Embedder.Proofs.Transfers
import Embedder.Proofs.Willing

/-!
# Spare references

The bridge holds a reference to a callable while it calls it through a binding, and holds none while
it calls it by name. A guest whose Python code does not observe reference counts cannot tell: with
some references more to one object it does the same, and gives the same answers (`Guest.Discreet`).
So a run of the bridge with some references ahead of another one stays as far ahead (`Ahead`), and
what it is ahead by can be given back at the end.
-/

namespace Embedder

variable {σ α : Type} {G : Guest σ} {spare : Obj → Nat → σ → σ → Prop}

/-- The Python code of the guest does not observe how many references the bridge holds to an object
that can be called. `spare o n w v` says that `v` is `w` with `n` references more to `o`. -/
structure Guest.Discreet (G : Guest σ) (spare : Obj → Nat → σ → σ → Prop) : Prop where
  /-- An object that can be called can be referred to. -/
  callable : ∀ {o w}, G.isCallable o w = true → spare o 0 w w
  same : ∀ {o w v}, spare o 0 w v → v = w
  take : ∀ {o n w v}, spare o n w v → spare o (n + 1) w (G.retain o v)
  /-- The end of a spare reference is not the end of the object, so nothing runs. -/
  give : ∀ {o n w v}, spare o (n + 1) w v →
    (G.release o v).notices = [] ∧ spare o n w (G.release o v).world
  giveKept : ∀ {o n w v} (generation : Nat), spare o (n + 1) w v →
    (G.releaseKept false ⟨o, generation⟩ v).notices = [] ∧
      spare o n w (G.releaseKept false ⟨o, generation⟩ v).world
  look : ∀ {α : Type} {f : σ → α}, G.Look f → ∀ {o n w v}, spare o n w v → f v = f w
  retain : ∀ x {o n w v}, spare o n w v → spare o n (G.retain x w) (G.retain x v)
  act : ∀ {α : Type} {f : σ → Effect σ α}, G.Act f → ∀ {o n w v}, spare o n w v →
    (f v).value = (f w).value ∧ (f v).notices = (f w).notices ∧ spare o n (f w).world (f v).world

theorem disposal_of_running {life : Lifecycle} {generation : Nat} (hs : life.stage = .running)
    (hg : life.generation = generation) :
    disposal (some (life.stage, life.generation)) generation = .release := by
  rw [hs, hg]
  exact if_pos rfl

/-- A binding of the running generation gives its reference back. -/
theorem Binding.drop_run_of_running {h : Host σ} {b : Binding} (hs : h.lifecycle.stage = .running)
    (hg : h.lifecycle.generation = b.generation) :
    (b.drop G false).run h = (Bridge.act (G.releaseKept false b.kept)).run h := by
  unfold Binding.drop
  rw [Bridge.run_get_bind]
  dsimp only
  rw [if_neg Bool.false_ne_true, disposal_of_running hs hg]

/-! ## A run that is ahead -/

/-- The second run is `n` references to `o` and `d` handles ahead; in the books of
both stands `s`. -/
structure Ahead (spare : Obj → Nat → σ → σ → Prop) (o : Obj) (n : Nat) (d : Int) (s : Standing)
    (h k : Host σ) : Prop where
  left : h.standing = s
  right : k.standing = s
  pending : k.pending = h.pending
  waiting : k.waiting = h.waiting
  live : k.live = h.live + d
  world : spare o n h.world k.world

namespace Ahead

variable {o : Obj} {n : Nat} {d : Int} {s : Standing} {h k : Host σ}

theorem act_even (hG : G.Discreet spare) {f : σ → Effect σ α} (hf : G.Act f) :
    (Bridge.act f).Even (Ahead spare o n d s) := by
  intro h k hs
  obtain ⟨hvalue, hnotices, hworld⟩ := hG.act hf hs.world
  rw [Bridge.act_run, Bridge.act_run, hvalue]
  refine .returned _ ⟨hs.left, hs.right, hs.pending, ?_, hs.live, hworld⟩
  show k.waiting ++ _ = h.waiting ++ _
  rw [hs.waiting, hnotices]

theorem steady (hG : G.Discreet spare) : Likeness.Steady G (Ahead spare o n d s) where
  pending hs := hs.pending.symm
  look hf _ _ hs := (hG.look hf hs.world).symm
  count m h k hs := by
    refine ⟨hs.left, hs.right, hs.pending, hs.waiting, ?_, hs.world⟩
    show k.live + m = h.live + m + d
    rw [hs.live]
    omega
  record _ _ _ hs := ⟨hs.left, hs.right, hs.pending, hs.waiting, hs.live, hs.world⟩
  leave _ _ _ hs := ⟨hs.left, hs.right, rfl, hs.waiting, hs.live, hs.world⟩
  retain x _ _ hs := ⟨hs.left, hs.right, hs.pending, hs.waiting, hs.live, hG.retain x hs.world⟩
  act hf := act_even hG hf

theorem standing (hs : Ahead spare o n d s h k) : k.standing = h.standing :=
  hs.right.trans hs.left.symm

theorem lawful (hG : G.Discreet spare) : Likeness.Lawful G (Ahead spare o n d s) :=
  (steady hG).lawful fun hs => congrArg Standing.printing hs.standing.symm

/-- The end of the handle gives it back. -/
theorem drop_run (hG : G.Discreet spare) (hs : Ahead spare o (n + 1) (d + 1) s h k) :
    ∃ k', (Handle.drop G ⟨o, .owned⟩).run k = .ok ((), k') ∧ Ahead spare o n d s h k' := by
  obtain ⟨hnotices, hworld⟩ := hG.give hs.world
  refine ⟨_, Bridge.run_bind (Bridge.act_run _ _), hs.left, hs.right, hs.pending, ?_, ?_, hworld⟩
  · show k.waiting ++ deferredIn _ = h.waiting
    rw [hnotices, hs.waiting]
    exact List.append_nil _
  · show k.live + -1 = h.live + d
    rw [hs.live]
    omega

end Ahead

/-! ## A guest that counts -/

/-- A willing guest that counts the references that the bridge holds. -/
def tallied : Guest (Noted Bool (Obj → Int)) :=
  willing.noting fun ts count o => count o + Transfer.net ts o

/-- The second state has some references more to an object. -/
structure Spare (o : Obj) (n : Nat) (w v : Noted Bool (Obj → Int)) : Prop where
  inner : v.inner = w.inner
  notes : ∀ x, v.notes x = w.notes x + if o = x then (n : Int) else 0

namespace Spare

variable {o : Obj} {n : Nat} {w v : Noted Bool (Obj → Int)}

theorem took (hs : Spare o n w v) : Spare o (n + 1) w (tallied.retain o v) := by
  refine ⟨hs.inner, fun x => ?_⟩
  show v.notes x + Transfer.net [.made o] x = _
  rw [hs.notes x, Transfer.net_cons, Transfer.net_nil, Transfer.gain_made, Obj.ref]
  split <;> omega

theorem ended (hs : Spare o (n + 1) w v) : Spare o n w (tallied.release o v).world := by
  refine ⟨hs.inner, fun x => ?_⟩
  show v.notes x + Transfer.net [.ended o] x = _
  rw [hs.notes x, Transfer.net_cons, Transfer.net_nil, Transfer.gain_ended, Obj.ref]
  split <;> omega

/-- The same transfers leave the states as far apart as they were. -/
theorem add (hs : Spare o n w v) (ts : List Transfer) (up : Bool) :
    Spare o n ⟨up, fun x => w.notes x + Transfer.net ts x⟩
      ⟨up, fun x => v.notes x + Transfer.net ts x⟩ := by
  refine ⟨rfl, fun x => ?_⟩
  show v.notes x + _ = w.notes x + _ + _
  rw [hs.notes x]
  omega

end Spare

end Embedder
