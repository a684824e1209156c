import Embedder.CInterface
import Embedder.Proofs.Trait.Session

/-!
# Keeping the books, under any trait

Outside sessions the bridge goes by its records: the lifecycle, the registry with its shared
bindings, the queue. A trait of programs that go by them and file them under one lifecycle
(`Custodial`) is one of every operation of the host but those that bring the interpreter up or down;
one that a stop has as well is `Closing`, and one that a start has as well is `Clerical`.
-/

namespace Embedder

variable {σ α β : Type} {G : Guest σ} {P : Trait σ} [P.Composes]

/-- The records that the bridge goes by outside sessions. -/
structure Records where
  lifecycle : Lifecycle
  registry : Option Registry
  shares : List (Nat × Share)
  nextSerial : Nat
  waiting : List Kept
  logLevel : Option Log.Level

/-- The records of a host. -/
def Host.records (h : Host σ) : Records :=
  ⟨h.lifecycle, h.registry, h.shares, h.nextSerial, h.waiting, h.logLevel⟩

/-- The host with other records. -/
def Host.file (h : Host σ) (r : Records) : Host σ :=
  { h with
    lifecycle := r.lifecycle
    registry := r.registry
    shares := r.shares
    nextSerial := r.nextSerial
    waiting := r.waiting
    logLevel := r.logLevel }

/-- A trait of programs that go by the records, and file them with the lifecycle that they had. -/
structure Trait.Custodial (G : Guest σ) (P : Trait σ) : Prop extends P.Lawful G where
  records : P.Reads fun h k => h.records = k.records
  file : ∀ g : Records → Records, (∀ r, (g r).lifecycle = r.lifecycle) →
    (modify fun h => h.file (g h.records) : Bridge σ Unit).Has P
  releaseKept : ∀ busy k, (Bridge.act (G.releaseKept busy k)).Has P

/-- A trait that also the steps have that bring the interpreter down. -/
structure Trait.Closing (G : Guest σ) (P : Trait σ) : Prop extends P.Custodial G where
  move : ∀ f : Lifecycle → Lifecycle,
    (modify fun h => { h with lifecycle := f h.lifecycle } : Bridge σ Unit).Has P
  shutdown : (Bridge.act G.shutdown).Has P

/-- A trait that also the steps have that bring the interpreter up. -/
structure Trait.Clerical (G : Guest σ) (P : Trait σ) : Prop extends P.Closing G where
  up : P.Reads fun h k => h.records = k.records ∧ G.isUp h.world = G.isUp k.world
  boot : ∀ n, (Bridge.alter (G.boot n)).Has P
  printing : ∀ b, (modify fun h => { h with printing := b } : Bridge σ Unit).Has P

namespace Trait.Custodial

variable {P : Trait σ}

theorem lifecycle (hP : P.Custodial G) : P.Reads fun h k => h.lifecycle = k.lifecycle :=
  Trait.Reads.mono hP.records fun _ _ hs => congrArg Records.lifecycle hs

theorem registry (hP : P.Custodial G) : P.Reads fun h k => h.registry = k.registry :=
  Trait.Reads.mono hP.records fun _ _ hs => congrArg Records.registry hs

theorem shares (hP : P.Custodial G) : P.Reads fun h k => h.shares = k.shares :=
  Trait.Reads.mono hP.records fun _ _ hs => congrArg Records.shares hs

theorem sessional (hP : P.Custodial G) : P.Sessional G where
  toLawful := hP.toLawful
  queue := Trait.Reads.mono hP.records fun _ _ hs =>
    ⟨congrArg Records.lifecycle hs, congrArg Records.waiting hs⟩
  empty := hP.file (fun r => { r with waiting := [] }) fun _ => rfl
  releaseKept := hP.releaseKept

end Trait.Custodial

/-! ## Bindings and their owners -/

theorem Binding.drop_has (hP : P.Custodial G) (busy : Bool) (b : Binding) :
    (b.drop G busy).Has P := by
  refine hP.lifecycle (fun h k hs => by rw [hs]) fun h => ?_
  dsimp only
  cases disposal (if busy then none else some (h.lifecycle.stage, h.lifecycle.generation))
      b.generation with
  | release => exact hP.releaseKept false b.kept
  | postpone =>
    have queued := hP.file (fun r => { r with waiting := r.waiting ++ [b.kept] }) fun _ => rfl
    exact queued.bind fun _ => hP.record _
  | forget => exact hP.record _

namespace Ticket

variable (t : Ticket)

theorem share?_has (hP : P.Custodial G) : (t.share? : Bridge σ (Option Share)).Has P := by
  exact hP.shares (fun h k hs => by rw [hs]) fun h => Bridge.Has.pure _

omit [P.Composes] in
theorem setShare_has (hP : P.Custodial G) (s : Share) : (t.setShare s : Bridge σ Unit).Has P :=
  hP.file (fun r => { r with
    shares := r.shares.map fun e => if e.1 = t.serial then (e.1, s) else e }) fun _ => rfl

omit [P.Composes] in
theorem removeShare_has (hP : P.Custodial G) : (t.removeShare : Bridge σ Unit).Has P :=
  hP.file (fun r => { r with shares := r.shares.filter fun e => e.1 ≠ t.serial }) fun _ => rfl

theorem ofBinding_has (hP : P.Custodial G) (b : Binding) :
    (ofBinding b : Bridge σ Ticket).Has P := by
  refine hP.records (fun h k hs => ?_) fun h => ?_
  · rw [show h.nextSerial = k.nextSerial from congrArg Records.nextSerial hs]
  · have filed := hP.file (fun r => { r with
      nextSerial := h.nextSerial + 1
      shares := r.shares ++ [(h.nextSerial, ⟨b, 1⟩)] }) fun _ => rfl
    exact filed.bind fun _ => Bridge.Has.pure _

theorem clone_has (hP : P.Custodial G) : (t.clone : Bridge σ Ticket).Has P := by
  unfold clone
  refine (share?_has t hP).bind fun s => ?_
  cases s with
  | none => exact Bridge.Has.pure t
  | some s => exact (setShare_has t hP _).bind fun _ => Bridge.Has.pure t

theorem drop_has (hP : P.Custodial G) (busy : Bool) : (t.drop G busy).Has P := by
  unfold drop
  refine (share?_has t hP).bind fun s => ?_
  cases s with
  | none => exact Bridge.Has.pure ()
  | some s =>
    dsimp only
    split
    next => exact (removeShare_has t hP).bind fun _ => Binding.drop_has hP busy s.binding
    next => exact setShare_has t hP _

theorem call_has (hP : P.Custodial G) {E : Encoder σ α} {D : Decoder σ β} (hE : E.Has P)
    (hD : D.Has P) (args : List α) : (t.call G E D args).Has P := by
  unfold call
  refine (Attempt.Has.lift (share?_has t hP)).bind fun s => ?_
  cases s with
  | none => exact Attempt.Has.throw _
  | some s => exact Binding.callAs_has hP.sessional hE hD s.binding args

end Ticket

/-! ## The registry -/

namespace Registry

omit [P.Composes] in
theorem put_has (hP : P.Custodial G) (r : Registry) : (put r : Bridge σ Unit).Has P :=
  hP.file (fun s => { s with registry := some r }) fun _ => rfl

theorem insert_has (hP : P.Custodial G) (b : Binding) : (insert G b).Has P := by
  refine hP.registry (fun h k hs => by rw [hs]) fun h => ?_
  cases h.registry with
  | none => exact (Binding.drop_has hP false b).bind fun _ => Bridge.Has.pure _
  | some r =>
    dsimp only
    split
    next =>
      refine (Ticket.ofBinding_has hP b).bind fun t => ?_
      exact (put_has hP _).bind fun _ => Bridge.Has.pure _
    next => exact (Binding.drop_has hP false b).bind fun _ => Bridge.Has.pure _

theorem whileOpen_has (hP : P.Custodial G) {f : Registry → Attempt σ Failure α}
    (hf : ∀ r, (f r).Has P) : (whileOpen f).Has P := by
  refine Attempt.Has.get hP.registry (fun h k hs => by rw [hs]) fun h => ?_
  cases h.registry with
  | none => exact Attempt.Has.throw _
  | some r => exact hf r

theorem find_has (hP : P.Custodial G) (id : Int) : (find id : Attempt σ Failure Ticket).Has P := by
  refine whileOpen_has hP fun r => ?_
  split
  next => exact Attempt.Has.throw _
  next t _ => exact Attempt.Has.lift (Ticket.clone_has t hP)

theorem remove_has (hP : P.Custodial G) (id : Int) :
    (remove id : Attempt σ Failure Ticket).Has P := by
  refine whileOpen_has hP fun r => ?_
  split
  next => exact Attempt.Has.throw _
  next t _ => exact (Attempt.Has.lift (put_has hP _)).bind fun _ => Attempt.Has.pure t

theorem size_has (hP : P.Custodial G) : (size : Attempt σ Failure Nat).Has P :=
  whileOpen_has hP fun _ => Attempt.Has.pure _

theorem letGoOne_has (hP : P.Custodial G) (t : Ticket) : (letGoOne G t).Has P := by
  unfold letGoOne
  refine (Ticket.share?_has t hP).bind fun s => ?_
  cases s with
  | none => exact Bridge.Has.pure ()
  | some s =>
    dsimp only
    split
    next => exact (Ticket.removeShare_has t hP).bind fun _ => hP.releaseKept true s.binding.kept
    next => exact Ticket.setShare_has t hP _

theorem letGo_has (hP : P.Custodial G) :
    ∀ entries : List (Int × Ticket), (letGo G entries).Has P := by
  intro entries
  induction entries with
  | nil => exact Bridge.Has.pure ()
  | cons e rest ih =>
    unfold letGo
    exact (letGoOne_has hP e.2).bind fun _ => ih

theorem destroy_has (hP : P.Custodial G) : (destroy G).Has P := by
  refine hP.registry (fun h k hs => by rw [hs]) fun h => ?_
  cases h.registry with
  | none => exact Bridge.Has.pure ()
  | some r =>
    have closed := hP.file (fun s => { s with registry := none }) fun _ => rfl
    refine closed.bind fun _ => ?_
    refine (letGo_has hP r.entries).bind fun _ => ?_
    split
    next => exact hP.record _
    next => exact Bridge.Has.pure ()

end Registry

/-! ## The lifecycle -/

namespace Interpreter

theorem started_has (hP : P.Clerical G) (thread : ThreadId) (config : Config) :
    (modify (started thread config) : Bridge σ Unit).Has P := by
  have opened := hP.file (fun r => { r with registry := some Registry.empty }) fun _ => rfl
  have moved := hP.move fun l => ⟨.running, l.generation + 1, some thread⟩
  exact opened.bind fun _ => moved.bind fun _ => hP.printing config.printTracebacks

theorem launch_has (hP : P.Clerical G) (thread : ThreadId) (config : Config) :
    (launch G thread config).Has P := by
  refine Attempt.Has.get hP.up (fun h k hs => ?_) fun h => ?_
  · have hlife : h.lifecycle = k.lifecycle := congrArg Records.lifecycle hs.1
    rw [show startRefusal config h = startRefusal config k by unfold startRefusal; rw [hlife],
      hs.2, hlife]
  · cases startRefusal config h with
    | some f => exact (Attempt.Has.lift (hP.record _)).bind fun _ => Attempt.Has.throw f
    | none =>
      dsimp only
      split
      next => exact Attempt.Has.throw _
      next =>
        refine (Attempt.Has.lift (hP.boot _)).bind fun _ => ?_
        refine Attempt.Has.get hP.up (fun h k hs => by rw [hs.2]) fun h => ?_
        split
        next =>
          refine (Attempt.Has.lift (started_has hP thread config)).bind fun _ => ?_
          exact Attempt.Has.lift (hP.record _)
        next => exact Attempt.Has.throw _

theorem start_has (hP : P.Clerical G) (thread : ThreadId) (config : Config) :
    (start G thread config).Has P := by
  unfold start
  exact (launch_has hP thread config).bind fun _ => appendPaths_has hP.sessional _

theorem warnIf_has (hP : P.Custodial G) (b : Bool) (message : String) :
    (Bridge.warnIf b message : Bridge σ Unit).Has P := by
  unfold Bridge.warnIf
  split
  next => exact hP.record _
  next => exact Bridge.Has.pure ()

theorem finalize_has (hP : P.Closing G) (life : Lifecycle) (thread : ThreadId) :
    (finalize G life thread).Has P := by
  have hbooks := hP.toCustodial
  unfold finalize
  refine (hP.move fun l => { l with starter := none }).bind fun _ => ?_
  refine (warnIf_has hbooks _ _).bind fun _ => ?_
  refine hP.shutdown.bind fun flushed => ?_
  refine (hP.move fun l => { l with stage := .finalized }).bind fun _ => ?_
  exact (warnIf_has hbooks _ _).bind fun _ => hP.record _

theorem stop_has (hP : P.Closing G) (thread : ThreadId) : (stop G thread).Has P := by
  refine Attempt.Has.get hP.lifecycle (fun h k hs => by rw [hs]) fun h => ?_
  dsimp only
  split
  next => exact Attempt.Has.throw _
  next =>
    have emptied : (letGoOfAll G h.lifecycle.generation).Has P :=
      (Registry.destroy_has hP.toCustodial).bind fun _ => Session.settleWaiting_has hP.sessional
    refine (Attempt.Has.lift emptied).bind fun _ => ?_
    exact Attempt.Has.lift (finalize_has hP h.lifecycle thread)

theorem installLog_has (hP : P.Custodial G) (level : Log.Level) :
    (installLog level : Bridge σ Bool).Has P := by
  refine hP.records (fun h k hs => ?_) fun h => ?_
  · rw [show h.logLevel = k.logLevel from congrArg Records.logLevel hs]
  · cases h.logLevel with
    | some l => exact Bridge.Has.pure false
    | none =>
      have installed := hP.file (fun r => { r with logLevel := some level }) fun _ => rfl
      exact installed.bind fun _ => Bridge.Has.pure true

end Interpreter

/-! ## Checks of the C interface -/

theorem CInterface.check_has (x : Except Failure α) :
    (CInterface.check x : Attempt σ Failure α).Has P :=
  Bridge.Has.pure x

end Embedder
