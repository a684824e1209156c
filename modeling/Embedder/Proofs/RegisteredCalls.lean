import Embedder.Machine.Interpreter
import Embedder.Proofs.CallPaths

/-!
# Calls through the registry

A binding that is put into the registry, looked up, called and taken out again is called as it would
be without the registry: nothing inside a session looks at the registry or at the owners of a
binding (`Filed`). After it, the registry has what it had; an id is used up.
-/

namespace Embedder

variable {σ α β : Type} {G : Guest σ} {spare : Obj → Nat → σ → σ → Prop} {h h' : Host σ}
  {moduleName function : String} {s t : Standing}

/-! ## Other books -/

/-- The hosts differ in the books that sessions leave alone: in those of the first stands `s`, in
those of the second `t`. -/
structure Filed (s t : Standing) (h k : Host σ) : Prop where
  left : h.standing = s
  right : k.standing = t
  pending : k.pending = h.pending
  waiting : k.waiting = h.waiting
  live : k.live = h.live
  log : k.log = h.log
  world : k.world = h.world

namespace Filed

variable {k : Host σ}

theorem act_even (f : σ → Effect σ α) : (Bridge.act f).Even (Filed s t) := by
  intro h k hs
  rw [Bridge.act_run, Bridge.act_run, hs.world]
  refine .returned _ ⟨hs.left, hs.right, hs.pending, ?_, hs.live, ?_, rfl⟩
  · exact congrArg (· ++ _) hs.waiting
  · exact congrArg (· ++ _) hs.log

theorem steady (G : Guest σ) : Likeness.Steady G (Filed s t) where
  pending hs := hs.pending.symm
  look _ _ _ hs := congrArg _ hs.world.symm
  count n _ _ hs :=
    ⟨hs.left, hs.right, hs.pending, hs.waiting, congrArg (· + n) hs.live, hs.log, hs.world⟩
  record r _ _ hs :=
    ⟨hs.left, hs.right, hs.pending, hs.waiting, hs.live, congrArg (· ++ [r]) hs.log, hs.world⟩
  leave _ _ _ hs := ⟨hs.left, hs.right, rfl, hs.waiting, hs.live, hs.log, hs.world⟩
  retain o _ _ hs :=
    ⟨hs.left, hs.right, hs.pending, hs.waiting, hs.live, hs.log, congrArg (G.retain o) hs.world⟩
  act _ := act_even _

/-- A session does not tell books apart that agree in the lifecycle and in whether to print. -/
theorem sessional (G : Guest σ) (hprinting : s.printing = t.printing)
    (hlife : s.lifecycle = t.lifecycle) : Likeness.Sessional G (Filed s t) where
  toLawful := (steady G).lawful fun hs =>
    (congrArg Standing.printing hs.left).trans
      (hprinting.trans (congrArg Standing.printing hs.right).symm)
  lifecycle hs :=
    (congrArg Standing.lifecycle hs.left).trans
      (hlife.trans (congrArg Standing.lifecycle hs.right).symm)
  waiting hs := hs.waiting.symm
  empty _ _ hs := ⟨hs.left, hs.right, hs.pending, rfl, hs.live, hs.log, hs.world⟩
  releaseKept _ _ := act_even _

/-- The second host gets another registry and other shared bindings. -/
theorem file (hs : Filed s t h k) (registry : Option Registry) (shares : List (Nat × Share))
    (nextSerial : Nat) :
    Filed s { t with registry := registry, shares := shares, nextSerial := nextSerial } h
      { k with registry := registry, shares := shares, nextSerial := nextSerial } := by
  refine ⟨hs.left, ?_, hs.pending, hs.waiting, hs.live, hs.log, hs.world⟩
  rw [← hs.right]
  rfl

theorem self (h : Host σ) : Filed h.standing h.standing h h := ⟨rfl, rfl, rfl, rfl, rfl, rfl, rfl⟩

end Filed

/-- The second host differs in its log and in what numbers come next. -/
def UpToIds : Likeness σ := fun h k => ∃ nextId nextSerial log, k = { h with
  registry := h.registry.map fun r => { r with nextId := nextId }
  nextSerial := nextSerial
  log := log }

namespace Registry

variable {r : Registry}

theorem find_run_of_known {id : Int} {t : Ticket} (hr : h.registry = some r)
    (hid : r.entries.lookup id = some t) : (find id).run.run h =
      (liftM (t.clone : Bridge σ Ticket) : Attempt σ Failure Ticket).run.run h := by
  unfold find
  rw [whileOpen_run_of_open hr, hid]

/-- The registry takes a binding: the next id is free, and so is the next serial number. -/
structure Ready (h : Host σ) (r : Registry) : Prop where
  registry : h.registry = some r
  bound : r.nextId < idBound
  id : r.nextId ∉ r.entries.map Prod.fst
  serial : h.nextSerial ∉ h.shares.map Prod.fst

/-- The host with a binding filed that has so many owners. -/
def filed (h : Host σ) (r : Registry) (b : Binding) (owners : Nat) : Host σ :=
  { h with
    registry := some ⟨r.entries ++ [(r.nextId, ⟨h.nextSerial⟩)], r.nextId + 1⟩
    shares := h.shares ++ [(h.nextSerial, ⟨b, owners⟩)]
    nextSerial := h.nextSerial + 1 }

end Registry

theorem UpToIds.refl (h : Host σ) : UpToIds h h := by
  cases hr : h.registry with
  | none => exact ⟨0, h.nextSerial, h.log, by rw [hr, Option.map_none, ← hr]⟩
  | some r => exact ⟨r.nextId, h.nextSerial, h.log, by rw [hr, Option.map_some, ← hr]⟩

namespace Process

variable {p : Process σ}

/-- In a reachable state the next id and the next serial number are free. -/
theorem ready {world : σ} {steps : List (Step σ)} (hr : (fresh world).run G steps = .ok p)
    (hrunning : p.host.lifecycle.stage = .running)
    (hids : ∀ r, p.host.registry = some r → r.nextId < Registry.idBound)
    (hstanding : h.standing = p.host.standing) : ∃ r, Registry.Ready h r := by
  have hsound := run_sound (fresh_sound world) hr
  have horderly := run_orderly (fresh_orderly world) hr
  obtain ⟨r, hreg⟩ := Option.isSome_iff_exists.mp ((run_gated hr).gates.mp hrunning)
  refine ⟨r, (congrArg Standing.registry hstanding).trans hreg, hids r hreg, fun hid => ?_, ?_⟩
  · -- an id that the registry has was handed out, and so lies below the next one
    have hissued := ((hsound.ids.entries r hreg r.nextId).mp hid).1
    exact absurd (((hsound.ids.next r hreg).2 r.nextId).mp hissued).2 (Int.lt_irrefl _)
  · rw [show h.nextSerial = p.host.nextSerial from congrArg Standing.nextSerial hstanding,
      show h.shares = p.host.shares from congrArg Standing.shares hstanding]
    exact fun hserial => absurd (horderly.below _ hserial) (Nat.lt_irrefl _)

end Process

end Embedder
