import Embedder.CInterface
import Embedder.Proofs.Conduct.Session

/-!
# Keeping the books, under any conduct

Outside sessions the bridge keeps books: the lifecycle, the registry with its shared bindings, the
queue of references, the last errors. A conduct that lets all of them be written is `Clerical`. It
is kept by every operation of the host, on the typed side and on the side of the C interface, from a
start to the release of the last binding.

Between a start and a stop the bindings can be weighed too (`Conduct.WeighsBooks`): each that a
program has in hand by the reference that it keeps, and those that are shared not at all. So to file
a binding takes its weight away, and its last owner gives it up for good.
-/

namespace Embedder

variable {σ α β : Type} {G : Guest σ} {R : Conduct σ} {w : Scale} {v : Kept → Int}
  {allowed : Bool → Prop}

namespace Shares

/-- The records with another one under a serial number. -/
def set (serial : Nat) (s : Share) (shares : List (Nat × Share)) : List (Nat × Share) :=
  shares.map fun e => if e.1 = serial then (e.1, s) else e

/-- The records without the one under a serial number. -/
def erase (serial : Nat) (shares : List (Nat × Share)) : List (Nat × Share) :=
  shares.filter fun e => e.1 ≠ serial

end Shares

/-- A conduct that lets shared bindings change their owners and end, and lets the queue and other
records be written. What is pending, the count of handles, the lifecycle and the registry are no
part of them. -/
structure Conduct.Custodial (G : Guest σ) (R : Conduct σ) : Prop extends R.Lawful G where
  write : ∀ {f : Host σ → Host σ},
    (∀ h, f h = { f h with
      pending := h.pending
      live := h.live
      lifecycle := h.lifecycle
      registry := h.registry
      shares := h.shares
      nextSerial := h.nextSerial
      world := h.world }) →
    ∀ h, R 0 h (f h)
  share : ∀ {h : Host σ} {serial : Nat} {s : Share} {owners : Nat},
    h.shares.lookup serial = some s → 1 ≤ owners →
    R 0 h { h with shares := Shares.set serial { s with owners := owners } h.shares }
  unshare : ∀ {h : Host σ} {serial : Nat} {s : Share}, h.shares.lookup serial = some s →
    R 0 h { h with shares := Shares.erase serial h.shares }
  releaseKept : ∀ busy k, (Bridge.act (G.releaseKept busy k)).Obeys R fun _ => 0

/-- A conduct that also lets the registry be changed and the interpreter be brought up and down. -/
structure Conduct.Clerical (G : Guest σ) (R : Conduct σ) : Prop extends R.Custodial G where
  insert : ∀ {h : Host σ} {r : Registry}, h.registry = some r → ∀ b, R 0 h { h with
    nextSerial := h.nextSerial + 1
    shares := h.shares ++ [(h.nextSerial, ⟨b, 1⟩)]
    registry := some ⟨r.entries ++ [(r.nextId, ⟨h.nextSerial⟩)], r.nextId + 1⟩ }
  remove : ∀ {h : Host σ} {r : Registry}, h.registry = some r → ∀ id, R 0 h { h with
    registry := some ⟨r.entries.filter fun e => e.1 ≠ id, r.nextId⟩ }
  close : ∀ h, R 0 h { h with registry := none }
  begin : ∀ thread h, R 0 h { h with
    lifecycle := ⟨.running, h.lifecycle.generation + 1, some thread⟩
    registry := some Registry.empty }
  move : ∀ (f : Lifecycle → Lifecycle) h, R 0 h { h with lifecycle := f h.lifecycle }
  boot : ∀ n h, R 0 h { h with world := G.boot n h.world }
  shutdown : (Bridge.act G.shutdown).Obeys R fun _ => 0

theorem Conduct.Custodial.modify (hR : R.Custodial G) {f : Host σ → Host σ}
    (hf : ∀ h, f h = { f h with
      pending := h.pending
      live := h.live
      lifecycle := h.lifecycle
      registry := h.registry
      shares := h.shares
      nextSerial := h.nextSerial
      world := h.world }) :
    (modify f : Bridge σ Unit).Obeys R fun _ => 0 :=
  Bridge.Obeys.modify (hR.write hf)

theorem Conduct.Custodial.sessional (hR : R.Custodial G) : R.Sessional G where
  toLawful := hR.toLawful
  settle _ hr :=
    Session.settleWaiting_obeys hR.toComposes (hR.releaseKept false) (hR.write fun _ => rfl) _ _ _ hr

/-! ## Weighing the books -/

/-- A conduct that weighs what a program has in hand between operations: handles and references on a
scale, and each binding by the reference that it keeps. Bindings are dropped while the lifecycle is
busy or not, as is allowed. -/
structure Conduct.WeighsBooks (w : Scale) (v : Kept → Int) (allowed : Bool → Prop) (G : Guest σ)
    (R : Conduct σ) : Prop extends R.WeighsSessions w G where
  write : ∀ {f : Host σ → Host σ},
    (∀ h, f h = { f h with
      pending := h.pending
      live := h.live
      lifecycle := h.lifecycle
      registry := h.registry
      shares := h.shares
      nextSerial := h.nextSerial
      waiting := h.waiting
      world := h.world }) →
    ∀ h, R 0 h (f h)
  bind : ∀ moduleName function, (Binding.bind G moduleName function).Obeys R (fun b => v b.kept) 0
  drop : ∀ {busy}, allowed busy → ∀ b : Binding, (b.drop G busy).Obeys R fun _ => -v b.kept
  idle : allowed false
  share : ∀ {h : Host σ} {serial : Nat} {s : Share} {owners : Nat},
    h.shares.lookup serial = some s → 1 ≤ owners →
    R 0 h { h with shares := Shares.set serial { s with owners := owners } h.shares }
  unshare : ∀ {h : Host σ} {serial : Nat} {s : Share}, h.shares.lookup serial = some s →
    R (v s.binding.kept) h { h with shares := Shares.erase serial h.shares }

/-- The same for a conduct that lets bindings be filed, which then weigh nothing. -/
structure Conduct.WeighsRegistry (w : Scale) (v : Kept → Int) (allowed : Bool → Prop) (G : Guest σ)
    (R : Conduct σ) : Prop extends R.WeighsBooks w v allowed G where
  insert : ∀ {h : Host σ} {r : Registry}, h.registry = some r → ∀ b, R (-v b.kept) h { h with
    nextSerial := h.nextSerial + 1
    shares := h.shares ++ [(h.nextSerial, ⟨b, 1⟩)]
    registry := some ⟨r.entries ++ [(r.nextId, ⟨h.nextSerial⟩)], r.nextId + 1⟩ }
  remove : ∀ {h : Host σ} {r : Registry}, h.registry = some r → ∀ id, R 0 h { h with
    registry := some ⟨r.entries.filter fun e => e.1 ≠ id, r.nextId⟩ }

theorem Conduct.WeighsBooks.modify (hR : R.WeighsBooks w v allowed G) {f : Host σ → Host σ}
    (hf : ∀ h, f h = { f h with
      pending := h.pending
      live := h.live
      lifecycle := h.lifecycle
      registry := h.registry
      shares := h.shares
      nextSerial := h.nextSerial
      waiting := h.waiting
      world := h.world }) :
    (modify f : Bridge σ Unit).Obeys R fun _ => 0 :=
  Bridge.Obeys.modify (hR.write hf)

theorem Binding.drop_obeys (hR : R.Custodial G) (busy : Bool) (b : Binding) :
    (b.drop G busy).Obeys R fun _ => 0 := by
  unfold Binding.drop
  refine Bridge.Obeys.get fun s => ?_
  dsimp only
  cases disposal (if busy then none else some (s.lifecycle.stage, s.lifecycle.generation))
      b.generation with
  | release => exact hR.releaseKept false b.kept
  | postpone => exact (hR.modify fun _ => rfl).seq hR.toComposes fun _ => hR.modify fun _ => rfl
  | forget => exact hR.modify fun _ => rfl

/-- A custodial conduct weighs handles only. -/
theorem Conduct.Custodial.weighs (hR : R.Custodial G) :
    R.WeighsBooks Scale.handles (fun _ => 0) (fun _ => True) G where
  toWeighsSessions := hR.sessional.weighsSessions
  write hf := hR.write fun h => by rw [hf h]
  bind := Binding.bind_sessional hR.sessional
  drop {busy} _ b := Binding.drop_obeys hR busy b
  idle := trivial
  share := hR.share
  unshare := hR.unshare

theorem Conduct.Clerical.weighs (hR : R.Clerical G) :
    R.WeighsRegistry Scale.handles (fun _ => 0) (fun _ => True) G where
  toWeighsBooks := hR.toCustodial.weighs
  insert := hR.insert
  remove := hR.remove

/-! ## Bindings and their owners -/

namespace Ticket

theorem share?_obeys (hR : R.Composes) (t : Ticket) :
    (t.share? : Bridge σ (Option Share)).Obeys R fun _ => 0 :=
  Bridge.Obeys.get fun _ => Bridge.Obeys.pure hR rfl

theorem share?_run (t : Ticket) (h : Host σ) :
    (t.share?).run h = .ok (h.shares.lookup t.serial, h) := rfl

theorem setShare_run (t : Ticket) (s : Share) (h : Host σ) : (t.setShare s).run h =
    .ok ((), { h with shares := Shares.set t.serial s h.shares }) := rfl

theorem removeShare_run (t : Ticket) (h : Host σ) : (t.removeShare).run h =
    .ok ((), { h with shares := Shares.erase t.serial h.shares }) := rfl

/-- What a program makes of the record that it finds. -/
theorem withShare_obeys {f : Option Share → Bridge σ α} {n : α → Int} (t : Ticket)
    (hf : ∀ h a h', (f (h.shares.lookup t.serial)).run h = .ok (a, h') → R (n a) h h') :
    (t.share? >>= f).Obeys R n :=
  fun h a h' hr => hf h a h' hr

theorem clone_weighed (hR : R.WeighsBooks w v allowed G) (t : Ticket) :
    (t.clone : Bridge σ Ticket).Obeys R fun _ => 0 := by
  refine withShare_obeys t fun h t' h' hr => ?_
  cases hs : h.shares.lookup t.serial with
  | none =>
    rw [hs] at hr
    cases hr
    exact hR.refl h
  | some s =>
    rw [hs] at hr
    cases hr
    exact hR.share hs (Nat.le_add_left 1 s.owners)

/-- The record of the last owner weighs nothing, so what its binding weighs is given up in full. -/
theorem drop_weighed (hR : R.WeighsBooks w v allowed G) {busy : Bool} (hbusy : allowed busy)
    (t : Ticket) : (t.drop G busy).Obeys R fun _ => 0 := by
  refine withShare_obeys t fun h u h' hr => ?_
  cases hs : h.shares.lookup t.serial with
  | none =>
    rw [hs] at hr
    cases hr
    exact hR.refl h
  | some s =>
    rw [hs] at hr
    dsimp only at hr
    split at hr
    next =>
      obtain ⟨_, h₁, hremove, hdrop⟩ := Bridge.bind_ok hr
      rw [removeShare_run] at hremove
      cases hremove
      have hall := hR.trans (hR.unshare hs) (hR.drop hbusy s.binding _ u h' hdrop)
      rwa [Int.add_right_neg] at hall
    next howners =>
      cases hr
      exact hR.share hs (by omega)

theorem drop_obeys (hR : R.Custodial G) (busy : Bool) (t : Ticket) :
    (t.drop G busy).Obeys R fun _ => 0 :=
  drop_weighed hR.weighs trivial t

theorem call_weighed (hR : R.WeighsSessions w G) {E : Encoder σ α} {D : Decoder σ β}
    (hE : ∀ a, (E.encode a).Obeys R w.stake 0) (hD : ∀ h, (D.decode h).Obeys R (fun _ => 0) 0)
    (t : Ticket) (args : List α) : (t.call G E D args).Obeys R (fun _ => 0) 0 := by
  unfold call
  have looked := Attempt.Obeys.lift (ε := Failure) (e := 0) hR.toComposes
    (share?_obeys hR.toComposes t)
  refine looked.seq hR.toComposes fun s => ?_
  cases s with
  | none => exact Attempt.Obeys.throw hR.toComposes
  | some s => exact Binding.callAs_weighed hR hE hD s.binding args

theorem call_sessional (hR : R.Sessional G) {E : Encoder σ α} {D : Decoder σ β} (hE : E.Lawful G)
    (hD : D.Lawful G) (t : Ticket) (args : List α) :
    (t.call G E D args).Obeys R (fun _ => 0) 0 :=
  call_weighed hR.weighsSessions (hE.weighs hR.toLawful) (hD R hR.toLawful) t args

end Ticket

/-! ## The registry -/

namespace Registry

/-- A binding that is refused ends. -/
theorem refuse_weighed (hR : R.WeighsBooks w v allowed G) (b : Binding) (f : Failure) :
    (b.drop G false >>= fun _ => pure (.error f) : Bridge σ (Except Failure Int)).Obeys R
      (leaves (fun _ => -v b.kept) (-v b.kept)) :=
  (hR.drop hR.idle b).bind hR.toComposes fun _ =>
    Bridge.Obeys.pure hR.toComposes (Int.sub_self _)

/-- Filed or refused, a binding is no longer in hand. -/
theorem insert_weighed (hR : R.WeighsRegistry w v allowed G) (b : Binding) :
    (insert G b).Obeys R (fun _ => -v b.kept) (-v b.kept) := by
  intro h x h' hr
  change (get >>= _ : Bridge σ _).run h = _ at hr
  rw [Bridge.run_get_bind] at hr
  cases hreg : h.registry with
  | none =>
    rw [hreg] at hr
    exact refuse_weighed hR.toWeighsBooks b _ h x h' hr
  | some r =>
    rw [hreg] at hr
    dsimp only at hr
    split at hr
    next =>
      cases hr
      exact hR.insert hreg b
    next => exact refuse_weighed hR.toWeighsBooks b _ h x h' hr

theorem whileOpen_obeys (hR : R.Composes) {f : Registry → Attempt σ Failure α} {n : α → Int}
    (hf : ∀ r, (f r).Obeys R n 0) : (whileOpen f).Obeys R n 0 := by
  unfold whileOpen
  refine Attempt.Obeys.get fun s => ?_
  cases s.registry with
  | none => exact Attempt.Obeys.throw hR
  | some r => exact hf r

theorem find_weighed (hR : R.WeighsBooks w v allowed G) (id : Int) :
    (find id : Attempt σ Failure Ticket).Obeys R (fun _ => 0) 0 := by
  refine whileOpen_obeys hR.toComposes fun r => ?_
  split
  next => exact Attempt.Obeys.throw hR.toComposes
  next t _ => exact Attempt.Obeys.lift hR.toComposes (Ticket.clone_weighed hR t)

theorem remove_weighed (hR : R.WeighsRegistry w v allowed G) (id : Int) :
    (remove id : Attempt σ Failure Ticket).Obeys R (fun _ => 0) 0 := by
  intro h x h' hr
  change (get >>= _ : Attempt σ Failure Ticket).run.run h = _ at hr
  rw [Attempt.run_get_bind] at hr
  cases hreg : h.registry with
  | none =>
    rw [hreg] at hr
    cases hr
    exact hR.refl h
  | some r =>
    rw [hreg] at hr
    dsimp only at hr
    split at hr
    next =>
      cases hr
      exact hR.refl h
    next t _ =>
      cases hr
      exact hR.remove hreg id

theorem size_obeys (hR : R.Composes) :
    (size : Attempt σ Failure Nat).Obeys R (fun _ => 0) 0 :=
  whileOpen_obeys hR fun _ => Attempt.Obeys.pure hR rfl

theorem letGoOne_obeys (hR : R.Custodial G) (t : Ticket) :
    (letGoOne G t).Obeys R fun _ => 0 := by
  refine Ticket.withShare_obeys t fun h u h' hr => ?_
  cases hs : h.shares.lookup t.serial with
  | none =>
    rw [hs] at hr
    cases hr
    exact hR.refl h
  | some s =>
    rw [hs] at hr
    dsimp only at hr
    split at hr
    next =>
      obtain ⟨v, h₁, hremove, hrelease⟩ := Bridge.bind_ok hr
      rw [Ticket.removeShare_run] at hremove
      cases hremove
      exact hR.trans (hR.unshare hs) (hR.releaseKept true s.binding.kept _ u h' hrelease)
    next howners =>
      cases hr
      exact hR.share hs (by omega)

theorem letGo_obeys (hR : R.Custodial G) :
    ∀ entries : List (Int × Ticket), (letGo G entries).Obeys R fun _ => 0 := by
  intro entries
  induction entries with
  | nil => exact Bridge.Obeys.pure hR.toComposes rfl
  | cons e rest ih =>
    unfold letGo
    exact (letGoOne_obeys hR e.2).seq hR.toComposes fun _ => ih

theorem destroy_obeys (hR : R.Clerical G) : (destroy G).Obeys R fun _ => 0 := by
  unfold destroy
  refine Bridge.Obeys.get fun s => ?_
  cases s.registry with
  | none => exact Bridge.Obeys.pure hR.toComposes rfl
  | some r =>
    refine (Bridge.Obeys.modify hR.close).seq hR.toComposes fun _ => ?_
    refine (letGo_obeys hR.toCustodial r.entries).seq hR.toComposes fun _ => ?_
    split
    next => exact hR.modify fun _ => rfl
    next => exact Bridge.Obeys.pure hR.toComposes rfl

end Registry

/-! ## The lifecycle -/

namespace Interpreter

theorem setPrinting_weighed (hR : R.WeighsBooks w v allowed G) (enabled : Bool) :
    (setPrinting enabled : Bridge σ Unit).Obeys R fun _ => 0 :=
  hR.modify fun _ => rfl

theorem started_admitted (hR : R.Clerical G) (thread : ThreadId) (config : Config) (h : Host σ) :
    R 0 h (started thread config h) :=
  hR.trans (hR.begin thread h)
    (hR.write (f := fun h => { h with printing := config.printTracebacks }) (fun _ => rfl) _)

theorem launch_obeys (hR : R.Clerical G) (thread : ThreadId) (config : Config) :
    (launch G thread config).Obeys R (fun _ => 0) 0 := by
  unfold launch
  refine Attempt.Obeys.get fun h => ?_
  split
  next f _ =>
    have warned := Attempt.Obeys.lift (ε := Failure) (e := 0) hR.toComposes
      (hR.modify (f := fun h => { h with log := h.log ++ [⟨.warn, refusalWarning f, []⟩] })
        fun _ => rfl)
    exact warned.seq hR.toComposes fun _ => Attempt.Obeys.throw hR.toComposes
  next =>
    split
    next => exact Attempt.Obeys.throw hR.toComposes
    next =>
      have booted := Attempt.Obeys.lift (ε := Failure) (e := 0) hR.toComposes
        (Bridge.Obeys.modify (g := fun s : Host σ => { s with
          world := G.boot (h.lifecycle.generation + 1) s.world }) (hR.boot _))
      refine booted.seq hR.toComposes fun _ => ?_
      refine Attempt.Obeys.get fun s => ?_
      -- the interpreter is asked again whether it came up
      split
      next =>
        have entered := Attempt.Obeys.lift (ε := Failure) (e := 0) hR.toComposes
          (Bridge.Obeys.modify (started_admitted hR thread config))
        refine entered.seq hR.toComposes fun _ => ?_
        exact Attempt.Obeys.lift hR.toComposes (hR.modify fun _ => rfl)
      next => exact Attempt.Obeys.throw hR.toComposes

theorem start_obeys (hR : R.Clerical G) (thread : ThreadId) (config : Config) :
    (start G thread config).Obeys R (fun _ => 0) 0 := by
  unfold start
  refine (launch_obeys hR thread config).seq hR.toComposes fun _ => ?_
  exact appendPaths_sessional hR.sessional config.searchPaths

theorem letGoOfAll_obeys (hR : R.Clerical G) (generation : Nat) :
    (letGoOfAll G generation).Obeys R fun _ => 0 := by
  unfold letGoOfAll
  exact (Registry.destroy_obeys hR).seq hR.toComposes fun _ =>
    Session.settleWaiting_obeys hR.toComposes (hR.releaseKept true) (hR.write fun _ => rfl)

theorem warnIf_obeys (hR : R.Custodial G) (b : Bool) (message : String) :
    (Bridge.warnIf b message : Bridge σ Unit).Obeys R fun _ => 0 := by
  unfold Bridge.warnIf
  split
  next => exact hR.modify fun _ => rfl
  next => exact Bridge.Obeys.pure hR.toComposes rfl

theorem finalize_obeys (hR : R.Clerical G) (life : Lifecycle) (thread : ThreadId) :
    (finalize G life thread).Obeys R fun _ => 0 := by
  have hcust := hR.toCustodial
  unfold finalize
  refine (Bridge.Obeys.modify (hR.move fun l => { l with starter := none })).seq
    hR.toComposes fun _ => ?_
  refine (warnIf_obeys hcust _ _).seq hR.toComposes fun _ => ?_
  refine hR.shutdown.seq hR.toComposes fun flushed => ?_
  refine (Bridge.Obeys.modify (hR.move fun l => { l with stage := .finalized })).seq
    hR.toComposes fun _ => ?_
  exact (warnIf_obeys hcust _ _).seq hR.toComposes fun _ => hR.modify fun _ => rfl

theorem stop_obeys (hR : R.Clerical G) (thread : ThreadId) :
    (stop G thread).Obeys R (fun _ => 0) 0 := by
  unfold stop
  refine Attempt.Obeys.get fun h => ?_
  dsimp only
  split
  next => exact Attempt.Obeys.throw hR.toComposes
  next =>
    have emptied := Attempt.Obeys.lift (ε := Failure) (e := 0) hR.toComposes
      (letGoOfAll_obeys hR h.lifecycle.generation)
    refine emptied.seq hR.toComposes fun _ => ?_
    exact Attempt.Obeys.lift hR.toComposes (finalize_obeys hR h.lifecycle thread)

theorem installLog_weighed (hR : R.WeighsBooks w v allowed G) (level : Log.Level) :
    (installLog level : Bridge σ Bool).Obeys R fun _ => 0 := by
  unfold installLog
  refine Bridge.Obeys.get fun h => ?_
  cases h.logLevel with
  | some _ => exact Bridge.Obeys.pure hR.toComposes rfl
  | none =>
    refine (hR.modify fun _ => rfl).seq hR.toComposes fun _ => ?_
    exact Bridge.Obeys.pure hR.toComposes rfl

end Interpreter

/-! ## The C interface -/

namespace CInterface

/-- Translating how an operation turned out leaves nothing behind. -/
theorem answer_weighed (hR : R.WeighsBooks w v allowed G) (thread : ThreadId)
    {body : Attempt σ Failure α} (hbody : body.Obeys R (fun _ => 0) 0) :
    (answer thread body).Obeys R fun _ => 0 := by
  unfold answer
  refine (hR.modify fun _ => rfl).seq hR.toComposes fun _ => ?_
  refine Bridge.Obeys.seq hR.toComposes (Bridge.Obeys.congr hbody fun r => ?_) fun r => ?_
  · cases r with
    | ok a => rfl
    | error f => rfl
  · cases r with
    | ok a => exact Bridge.Obeys.pure hR.toComposes rfl
    | error f =>
      refine (hR.modify fun _ => rfl).seq hR.toComposes fun _ => ?_
      exact Bridge.Obeys.pure hR.toComposes rfl

theorem check_obeys (hR : R.Composes) (x : Except Failure α) :
    (check x : Attempt σ Failure α).Obeys R (fun _ => 0) 0 := by
  refine Bridge.Obeys.pure hR ?_
  cases x with
  | ok a => rfl
  | error f => rfl

variable (thread : ThreadId)

theorem startWithConfig_weighed (hR : R.WeighsBooks w v allowed G)
    (hstart : ∀ config, (Interpreter.start G thread config).Obeys R (fun _ => 0) 0)
    (json : CString) : (startWithConfig G thread json).Obeys R fun _ => 0 := by
  refine answer_weighed hR thread ?_
  refine (check_obeys hR.toComposes _).seq hR.toComposes fun text => ?_
  refine (check_obeys hR.toComposes _).seq hR.toComposes fun config => ?_
  exact hstart config

theorem appendPath_weighed (hR : R.WeighsBooks w v allowed G) (path : CString) :
    (appendPath G thread path).Obeys R fun _ => 0 := by
  refine answer_weighed hR thread ?_
  refine (check_obeys hR.toComposes _).seq hR.toComposes fun text => ?_
  exact Interpreter.appendPath_weighed hR.toWeighsSessions _

theorem initLog_weighed (hR : R.WeighsBooks w v allowed G) (verbosity : Int) :
    (initLog verbosity : Bridge σ Int).Obeys R fun _ => 0 := by
  unfold initLog
  refine (Interpreter.installLog_weighed hR _).seq hR.toComposes fun b => ?_
  split
  next => exact Bridge.Obeys.pure hR.toComposes rfl
  next => exact Bridge.Obeys.pure hR.toComposes rfl

theorem callFunction_weighed (hR : R.WeighsBooks w v allowed G) (moduleName function : CString)
    (values : ValuesArg) (output : OutputArg) :
    (callFunction G thread moduleName function values output).Obeys R fun _ => 0 := by
  have hrequests := hR.toWeighsRequests
  refine answer_weighed hR thread ?_
  refine (check_obeys hR.toComposes _).seq hR.toComposes fun m => ?_
  refine (check_obeys hR.toComposes _).seq hR.toComposes fun f => ?_
  refine (check_obeys hR.toComposes _).seq hR.toComposes fun xs => ?_
  refine (check_obeys hR.toComposes _).seq hR.toComposes fun _ => ?_
  exact Embedder.callFunction_weighed hR.toWeighsSessions (Scalar.encodeFloat_weighed w R hrequests)
    (Scalar.decodeInt_weighed w R hrequests) m f xs

/-- The binding that is made goes to the registry, or ends. -/
theorem bind_weighed (hR : R.WeighsRegistry w v allowed G) (moduleName function : CString)
    (output : Bool) : (bind G thread moduleName function output).Obeys R fun _ => 0 := by
  refine answer_weighed hR.toWeighsBooks thread ?_
  refine (check_obeys hR.toComposes _).seq hR.toComposes fun m => ?_
  refine (check_obeys hR.toComposes _).seq hR.toComposes fun f => ?_
  refine (check_obeys hR.toComposes _).seq hR.toComposes fun _ => ?_
  refine (hR.bind m f).bind hR.toComposes fun b => ?_
  exact (Registry.insert_weighed hR b).congr (fun _ => by omega) (by omega)

theorem callBound_weighed (hR : R.WeighsBooks w v allowed G) (id : Int) (values : ValuesArg)
    (output : OutputArg) : (callBound G thread id values output).Obeys R fun _ => 0 := by
  have hrequests := hR.toWeighsRequests
  refine answer_weighed hR thread ?_
  refine (check_obeys hR.toComposes _).seq hR.toComposes fun xs => ?_
  refine (check_obeys hR.toComposes _).seq hR.toComposes fun _ => ?_
  refine (Registry.find_weighed hR id).seq hR.toComposes fun t => ?_
  have called := Ticket.call_weighed hR.toWeighsSessions (Scalar.encodeFloat_weighed w R hrequests)
    (Scalar.decodeInt_weighed w R hrequests) t xs
  refine Bridge.Obeys.bind hR.toComposes called fun r => ?_
  refine (Ticket.drop_weighed hR hR.idle t).bind hR.toComposes fun _ => ?_
  exact Bridge.Obeys.pure hR.toComposes (by cases r <;> simp [leaves])

theorem unbind_weighed (hR : R.WeighsRegistry w v allowed G) (id : Int) :
    (unbind G thread id).Obeys R fun _ => 0 := by
  refine answer_weighed hR.toWeighsBooks thread ?_
  refine (Registry.remove_weighed hR id).seq hR.toComposes fun t => ?_
  exact Attempt.Obeys.lift hR.toComposes (Ticket.drop_weighed hR.toWeighsBooks hR.idle t)

theorem bindingCount_weighed (hR : R.WeighsBooks w v allowed G) :
    (bindingCount thread : Bridge σ Int).Obeys R fun _ => 0 := by
  unfold bindingCount
  refine (hR.modify fun _ => rfl).seq hR.toComposes fun _ => ?_
  have counted := Registry.size_obeys hR.toComposes
  refine Bridge.Obeys.seq hR.toComposes (Bridge.Obeys.congr counted fun r => ?_) fun r => ?_
  · cases r with
    | ok n => rfl
    | error f => rfl
  · cases r with
    | ok n => exact Bridge.Obeys.pure hR.toComposes rfl
    | error f =>
      refine (hR.modify fun _ => rfl).seq hR.toComposes fun _ => ?_
      exact Bridge.Obeys.pure hR.toComposes rfl

end CInterface

end Embedder
