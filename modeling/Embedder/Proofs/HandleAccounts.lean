import Embedder.Proofs.HandleSessions
import Embedder.Proofs.Partings
import Embedder.Proofs.Willing

/-!
# The accounts of handles

Between the tasks of a session, whatever they were and however they turned out, the number of live
handles is the number of owned handles on the bench, and the references to an object that the bridge
took since the session began are those of the owned handles on it and those that were kept of it.
Both are `HandleTask.performAll_weighed`, on two scales. What the bridge itself did to the object's
reference count is then what it holds and what it handed over to containers and calls
(`Transfer.counted_eq`).

At each point, an operation that takes a handle ends it once (`Handle.EndsOnce`).
-/

namespace Embedder

open Scenario

variable {σ α : Type} {G : Guest σ} {s s' : Host (Ledgered σ)} {b : Bench} {x : Obj}

/-! ## Counting on the bench -/

namespace Scenario.Held

/-- Whether this is an owned handle. A reference that is kept is none. -/
def owned (h : Held) : Bool := h.toHandle.ownership = .owned

/-- Whether this is an owned handle on an object. -/
def ownedOn (x : Obj) (h : Held) : Bool := h.toHandle = ⟨x, .owned⟩

/-- Whether this is a kept reference to an object. -/
def keptOn (x : Obj) (h : Held) : Bool := h = .reference x

end Scenario.Held

namespace Scale

/-- The weight of the handles on a bench. -/
def stakes (w : Scale) (b : Bench) : Int := (b.map fun h => w.stake h.toHandle).sum

theorem stakes_cons (w : Scale) (h : Held) (b : Bench) :
    w.stakes (h :: b) = w.stake h.toHandle + w.stakes b := List.sum_cons

theorem bench_cons (w : Scale) (h : Held) (b : Bench) :
    w.bench (h :: b) = w.worth h + w.bench b := List.sum_cons

/-- A weight that is one for some things on the bench and nothing for the others counts them. -/
theorem stakes_eq_countP {w : Scale} {p : Held → Bool}
    (hp : ∀ h, w.stake h.toHandle = if p h then 1 else 0) (b : Bench) :
    w.stakes b = b.countP p := by
  induction b with
  | nil => rfl
  | cons h b ih =>
    rw [stakes_cons, ih, hp, List.countP_cons]
    split <;> omega

theorem handles_stakes (b : Bench) : handles.stakes b = b.countP Held.owned := by
  refine stakes_eq_countP (fun h => ?_) b
  rw [handles_stake, Handle.stake, Held.owned]
  cases h.toHandle.ownership with
  | owned => rfl
  | borrowed => rfl

theorem references_stakes (x : Obj) (b : Bench) :
    (references x).stakes b = b.countP (Held.ownedOn x) := by
  refine stakes_eq_countP (fun h => ?_) b
  rw [Held.ownedOn]
  obtain ⟨o, ownership⟩ := h.toHandle
  cases ownership with
  | owned => simp [references, Obj.ref]
  | borrowed => simp

/-- What lies on the bench are handles and kept references. -/
theorem handles_bench (b : Bench) : handles.bench b = handles.stakes b := by
  induction b with
  | nil => rfl
  | cons h b ih =>
    rw [bench_cons, stakes_cons, ih]
    cases h with
    | reference o => rfl
    | _ => rfl

theorem references_worth (x : Obj) (h : Held) : (references x).worth h
    = (references x).stake h.toHandle + if h.keptOn x then 1 else 0 := by
  cases h with
  | reference o => simp [worth, references, Obj.ref, Held.keptOn, Held.toHandle, Handle.ofBorrowed]
  | _ => simp [worth, Held.keptOn, Held.toHandle]

theorem references_bench (x : Obj) (b : Bench) :
    (references x).bench b = (references x).stakes b + b.countP (Held.keptOn x) := by
  induction b with
  | nil => rfl
  | cons h b ih =>
    rw [bench_cons, stakes_cons, ih, references_worth, List.countP_cons]
    split <;> omega

end Scale

/-! ## The accounts of a session -/

/-- Of each object, the bridge holds `held x` references more than when the host was `s`. What it
did to the object's reference count is that, and what it handed over. -/
def Holds (held : Obj → Int) (s s' : Host (Ledgered σ)) : Prop :=
  ∃ ts, s'.world.notes = s.world.notes ++ ts ∧ ∀ x,
    Transfer.net ts x = held x ∧ Transfer.counted ts x = held x + Transfer.handed ts x

theorem holds_of_inHand {held : Obj → Int} {n : Int} (hp : s.pending = none)
    (hp' : s'.pending = none) (hwritten : Writes n s s')
    (hall : ∀ x, InHand x (held x) s s') : Holds held s s' := by
  obtain ⟨ts, hts⟩ := hwritten
  refine ⟨ts, hts, fun x => ?_⟩
  have hnet := net_of_inHand hp hp' hts (hall x)
  exact ⟨hnet, by rw [Transfer.counted_eq, hnet]⟩

namespace Bench

/-- The accounts of a session that began with the host `s`, when the bench is `b` and the host is
`s'`: as many handles are alive as are owned, and held are the references of owned handles and those
that were kept. -/
structure Accounts (s : Host (Ledgered σ)) (b : Bench) (s' : Host (Ledgered σ)) : Prop where
  live : s'.live = b.countP Held.owned
  held : Holds (fun x => b.countP (Held.ownedOn x) + b.countP (Held.keptOn x)) s s'
  pending : s'.pending = none

/-- The accounts when all handles on the bench have ended: those that were alive at the beginning
are, and only what was kept is held more. -/
structure Settled (s : Host (Ledgered σ)) (b : Bench) (s' : Host (Ledgered σ)) : Prop where
  live : s'.live = s.live
  held : Holds (fun x => b.countP (Held.keptOn x)) s s'
  pending : s'.pending = none

theorem accounts_of_performAll {tasks : List HandleTask} (hp : s.pending = none)
    (hlive : s.live = 0)
    (hr : (HandleTask.performAll G.ledgered tasks []).run s = .ok (b, s')) : Accounts s b s' := by
  have hall : ∀ {w : Scale} {R : Conduct (Ledgered σ)},
      R.WeighsRequests w G.ledgered → R (w.bench b - 0) s s' :=
    fun hR => HandleTask.performAll_weighed hR tasks [] s b s' hr
  have hbalanced := hall (balanced_lawful G.ledgered).weighs
  have hlive' : s'.live = s.live + (Scale.handles.bench b - 0) := hbalanced.2
  have hp' := hbalanced.1 hp
  refine ⟨?_, holds_of_inHand hp hp' (hall (writes_inert G).lawful.weighs) fun x => ?_, hp'⟩
  · rw [hlive', hlive, Scale.handles_bench, Scale.handles_stakes]
    omega
  · have hheld := hall (inHand_acts G x).requests
    rwa [Int.sub_zero, Scale.references_bench, Scale.references_stakes] at hheld

theorem clear_weighed {R : Conduct σ} {w : Scale} (hR : R.Weighs w G) (b : Bench) :
    (clear G b).Obeys R fun _ => -w.stakes b := by
  refine (Handle.dropAll_weighed hR _).congr fun _ => ?_
  rw [List.map_map]
  rfl

/-- Perform tasks, and then end all handles. -/
def closed (G : Guest σ) (tasks : List HandleTask) : Bridge σ Bench := do
  let b ← HandleTask.performAll G tasks []
  clear G b
  pure b

theorem settled_of_closed {tasks : List HandleTask} (hp : s.pending = none)
    (hr : (closed G.ledgered tasks).run s = .ok (b, s')) : Settled s b s' := by
  have hall : ∀ {w : Scale} {R : Conduct (Ledgered σ)},
      R.WeighsRequests w G.ledgered → R (w.bench b - w.stakes b) s s' := by
    intro w R hR
    obtain ⟨b₁, s₁, hperform, hrest⟩ := Bridge.bind_ok hr
    obtain ⟨u, s₂, hclear, hpure⟩ := Bridge.bind_ok hrest
    obtain ⟨rfl, rfl⟩ := Bridge.pure_ok hpure
    have hboth : R (w.bench b - 0 + -w.stakes b) s s' :=
      hR.trans (HandleTask.performAll_weighed hR tasks [] s b s₁ hperform)
        (clear_weighed hR.toWeighs b s₁ u s' hclear)
    rwa [show w.bench b - 0 + -w.stakes b = w.bench b - w.stakes b by omega] at hboth
  have hbalanced := hall (balanced_lawful G.ledgered).weighs
  have hlive : s'.live = s.live + (Scale.handles.bench b - Scale.handles.stakes b) := hbalanced.2
  have hp' := hbalanced.1 hp
  refine ⟨?_, holds_of_inHand hp hp' (hall (writes_inert G).lawful.weighs) fun x => ?_, hp'⟩
  · rw [hlive, Scale.handles_bench]
    omega
  · have hheld := hall (inHand_acts G x).requests
    rwa [Scale.references_bench, Int.add_comm, Int.add_sub_cancel] at hheld

end Bench

/-! ## Sessions of a process -/

/-- An operation that takes a handle ends it once, on every path. Dropped, it gives its reference
up. Promoted, it passes its reference on to an owned handle, and stolen, to the caller; a borrowed
one gets a reference first. As an item it is stored, or else given up by the call that was to store
it. A handle of an import is dropped after the module was looked up, whether it was found or not. -/
structure Handle.EndsOnce (G : Guest σ) (s : Host (Ledgered σ)) (h : Handle) : Prop where
  drop : ∃ s', (h.drop G.ledgered).run s = .ok ((), s') ∧ Parted h h.parting s s'
  promote : ∃ s', (h.promote G.ledgered).run s = .ok (⟨h.obj, .owned⟩, s') ∧
    Parted h h.fee s { s' with live := s'.live - 1 }
  steal : ∃ s', (h.steal G.ledgered).run s = .ok (h.obj, s') ∧ Parted h h.fee s s'
  setListItem : ∀ (target : Handle) (index : UInt64),
    Ends ((target.setListItem G.ledgered index h).run.run s) fun r =>
      ∃ ts, Parted h (h.fee ++ ts) s r.2 ∧ Placed h.obj ts r.1
  setTupleItem : ∀ (target : Handle) (index : UInt64),
    Ends ((target.setTupleItem G.ledgered index h).run.run s) fun r =>
      ∃ ts, Parted h (h.fee ++ ts) s r.2 ∧ Placed h.obj ts r.1
  bind : ∀ name : String,
    Ends ((ModuleHandle.bind G.ledgered h name).run.run s) fun r =>
      ∃ ts, Parted h (ts ++ h.parting) s r.2 ∧ ∀ x, Transfer.net ts x = 0

theorem Handle.endsOnce (hp : s.pending = none) (h : Handle) : h.EndsOnce G s where
  drop := drop_run G h s
  promote := promote_run G h s
  steal := steal_run G h s
  setListItem _ _ _ hr := setListItem_ok hp hr
  setTupleItem _ _ _ hr := setTupleItem_ok hp hr
  bind _ _ hr := ModuleHandle.bind_ok hp hr

namespace HandleTask

/-- A session in which tasks are performed, as it is after the last of them. -/
def upTo (G : Guest σ) (tasks : List HandleTask) : Attempt σ Failure Bench :=
  Session.enter G (performAll G tasks [] : Bridge σ Bench)

/-- A session in which tasks are performed and then all handles end. -/
def session (G : Guest σ) (tasks : List HandleTask) : Attempt σ Failure Bench :=
  Session.enter G (Bench.closed G tasks : Bridge σ Bench)

end HandleTask

namespace Process

/-- A session of the process begins with the host `s`. -/
def Opens (G : Guest σ) (p : Process σ) (s : Host σ) : Prop :=
  (Session.enter G (pure ())).run.run p.host = .ok (.ok (), s)

/-- What is done in a session is done from there on. -/
theorem Opens.enter_ok {G : Guest σ} {p : Process σ} {s s' : Host σ} (ho : p.Opens G s)
    {y : Bridge σ α} {r : Except Failure α}
    (hr : (Session.enter G (liftM y)).run.run p.host = .ok (r, s')) :
    ∃ a, r = .ok a ∧ y.run s = .ok (a, s') := by
  unfold Opens at ho
  by_cases hopen : Session.Open none p.host.lifecycle
  · rw [Session.enter, Session.enterAs_run_of_open hopen] at ho hr
    obtain ⟨u, s₁, hsettle, hpure⟩ := Bridge.bind_ok ho
    obtain ⟨-, rfl⟩ := Bridge.pure_ok hpure
    rw [Bridge.run_bind hsettle] at hr
    exact Attempt.lift_ok hr
  · rw [Session.enter, Session.enterAs_run_of_not_open hopen] at ho
    cases ho

/-- A session begins without handles and without an exception. -/
theorem Opens.empty {G : Guest σ} {world : σ} {steps : List (Step σ)} {p : Process σ} {s : Host σ}
    (hrun : (fresh world).run G steps = .ok p) (ho : p.Opens G s) :
    s.pending = none ∧ s.live = 0 := by
  have hran : Balanced 0 (fresh world).host p.host := by
    refine run_preserves (P := fun q => Balanced 0 (fresh world).host q.host) (fun hq hs => ?_)
      (balanced_composes.refl _) hrun
    exact balanced_composes.trans hq (step_balanced hs)
  have hsession := (balanced_clerical G).toCustodial.sessional
  have hbegun : Balanced 0 p.host s :=
    Session.enter_sessional hsession (n := fun _ => 0)
      (Attempt.Obeys.pure balanced_composes rfl) p.host (.ok ()) s ho
  have hall : Balanced 0 (fresh world).host s := balanced_composes.trans hran hbegun
  have hlive : s.live = 0 + 0 := hall.2
  exact ⟨hall.1 rfl, hlive⟩

/-- **The accounts of handles.** Whatever was done with a process before, in every session and after
every sequence of tasks, as many owned handles are alive as there are on the bench, and of each
object as many references more are held as there are owned handles on it and references kept of it.
An operation that takes a handle ends it once, however it turns out. When all handles have ended,
the number of live handles is back where it was, and only the references that were kept are held
more. -/
theorem handle_accounts (G : Guest σ) (world : Ledgered σ) (steps : List (Step (Ledgered σ))) :
    Ends ((fresh world).run G.ledgered steps) fun p => ∀ s, p.Opens G.ledgered s →
      (∀ tasks, Ends ((HandleTask.upTo G.ledgered tasks).run.run p.host) fun r =>
        ∃ b, r.1 = .ok b ∧ Bench.Accounts s b r.2 ∧ 0 ≤ r.2.live ∧ ∀ h, Handle.EndsOnce G r.2 h) ∧
      (∀ tasks, Ends ((HandleTask.session G.ledgered tasks).run.run p.host) fun r =>
        ∃ b, r.1 = .ok b ∧ Bench.Settled s b r.2) := by
  intro p hrun s ho
  obtain ⟨hp, hlive⟩ := ho.empty hrun
  refine ⟨fun tasks r hr => ?_, fun tasks r hr => ?_⟩
  · obtain ⟨b, hb, hperform⟩ := ho.enter_ok hr
    have haccounts := Bench.accounts_of_performAll hp hlive hperform
    refine ⟨b, hb, haccounts, ?_, Handle.endsOnce haccounts.pending⟩
    rw [haccounts.live]
    exact Int.natCast_nonneg _
  · obtain ⟨b, hb, hsession⟩ := ho.enter_ok hr
    exact ⟨b, hb, Bench.settled_of_closed hp hsession⟩

/-- A list takes an item whose handle was borrowed: only the handle of the list is alive, and of the
item no reference is left in hand. -/
example :
    ((fresh ⟨false, []⟩).run willing.ledgered [.perform (.start mainThread Config.default)] >>=
      fun p => (HandleTask.upTo willing.ledgered
        [.list 1, .lend ⟨7⟩, .setListItem 0 0 1]).run.run p.host).map
      (fun r => (r.1, r.2.live, r.2.world.notes)) =
    .ok (.ok [.handle ⟨willingObj, .owned⟩], 1, [.took willingObj, .made ⟨7⟩, .gave ⟨7⟩]) := rfl

end Process

end Embedder
