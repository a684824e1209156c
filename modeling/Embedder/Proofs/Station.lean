import Embedder.Proofs.Conduct.Operation

/-!
# The lifecycle and the registry, step by step

The station of a host is its lifecycle and its registry. Sessions do not come near it. That is a
conduct (`Fixed`), so it is read off the lemmas on conducts; the operations that do move something
are run here, each case of each (`launch_run_of_refused` to `stop_run_of_running`, and the same for
the registry).
-/

namespace Embedder

open Scenario

variable {σ τ α : Type} {G : Guest σ} {h h' : Host σ} {thread : ThreadId} {config : Config}

/-! ## Views that stay -/

/-- A view of the host stays as it is. -/
def Fixed (view : Host σ → τ) : Conduct σ := fun _ h h' => view h' = view h

/-- The books that sessions leave alone. -/
structure Standing where
  printing : Bool
  lifecycle : Lifecycle
  registry : Option Registry
  shares : List (Nat × Share)
  nextSerial : Nat
  lastErrors : LastErrors
  logLevel : Option Log.Level

/-- What stands in the books of a host besides what sessions work with. -/
def Host.standing (h : Host σ) : Standing where
  printing := h.printing
  lifecycle := h.lifecycle
  registry := h.registry
  shares := h.shares
  nextSerial := h.nextSerial
  lastErrors := h.lastErrors
  logLevel := h.logLevel

/-- The lifecycle and the registry. -/
structure Station where
  lifecycle : Lifecycle
  registry : Option Registry
  deriving DecidableEq, Repr

def Standing.station (s : Standing) : Station := ⟨s.lifecycle, s.registry⟩

def Host.station (h : Host σ) : Station := h.standing.station

theorem fixed_composes (view : Host σ → τ) : (Fixed view).Composes where
  refl _ := rfl
  trans hm hn := Eq.trans hn hm

theorem act_fixed (view : Standing → τ) (f : σ → Effect σ α) :
    (Bridge.act f).Obeys (Fixed fun h => view h.standing) fun _ => 0 := by
  intro h a h' hr
  obtain ⟨-, hh⟩ := Bridge.act_ok hr
  rw [hh]
  rfl

/-- Nothing inside a session changes what stands in the books. -/
theorem fixed_inert (G : Guest σ) (view : Standing → τ) :
    (Fixed fun h : Host σ => view h.standing).Inert G where
  toComposes := fixed_composes _
  count _ _ := rfl
  record _ _ := rfl
  retain _ _ := rfl
  release _ := act_fixed view _
  leave _ _ := rfl
  act _ := act_fixed view _

theorem fixed_sessional (G : Guest σ) (view : Standing → τ) :
    (Fixed fun h : Host σ => view h.standing).Sessional G where
  toLawful := (fixed_inert G view).lawful
  settle _ hr := Session.settleWaiting_obeys (fixed_composes _) (fun _ => act_fixed view _)
    (fun _ => rfl) _ _ _ hr

theorem station_custodial (G : Guest σ) : (Fixed (Host.station (σ := σ))).Custodial G where
  toLawful := (fixed_inert G Standing.station).lawful
  write := by
    intro f hf h
    show (f h).station = h.station
    rw [hf h]
    rfl
  share _ _ := rfl
  unshare _ := rfl
  releaseKept _ _ := act_fixed Standing.station _

/-! ## Starting -/

namespace Interpreter

/-- A refused start changes nothing but the log. -/
theorem launch_run_of_refused (thread : ThreadId) {f : Failure} (hf : startRefusal config h = some f) :
    (launch G thread config).run.run h =
      .ok (.error f, { h with log := h.log ++ [⟨.warn, refusalWarning f, []⟩] }) := by
  unfold launch
  rw [Attempt.run_get_bind, hf]
  rfl

/-- A start while someone else's interpreter is up changes nothing. -/
theorem launch_run_of_up (thread : ThreadId) (hf : startRefusal config h = none)
    (hup : G.isUp h.world = true) :
    (launch G thread config).run.run h =
      .ok (.error (.initializationFailed "interpreter was initialized outside the bridge"), h) := by
  unfold launch
  rw [Attempt.run_get_bind, hf]
  dsimp only
  rw [if_pos hup]
  rfl

/-- The host after its interpreter was told to come up. -/
def booted (G : Guest σ) (h : Host σ) : Host σ :=
  { h with world := G.boot (h.lifecycle.generation + 1) h.world }

theorem booted_run (G : Guest σ) (h : Host σ) :
    (Bridge.alter (G.boot (h.lifecycle.generation + 1))).run h = .ok ((), booted G h) := rfl

/-- An interpreter that did not come up is not taken for one that did. -/
theorem launch_run_of_failed (thread : ThreadId) (hf : startRefusal config h = none)
    (hdown : G.isUp h.world = false) (hfailed : G.isUp (booted G h).world = false) :
    (launch G thread config).run.run h =
      .ok (.error (.initializationFailed "Py_InitializeEx did not initialize the interpreter"),
        booted G h) := by
  unfold launch
  rw [Attempt.run_get_bind, hf]
  dsimp only
  rw [if_neg (by rw [hdown]; exact Bool.false_ne_true)]
  rw [Attempt.run_lift_bind (booted_run G h), Attempt.run_get_bind,
    if_neg (by rw [hfailed]; exact Bool.false_ne_true)]
  rfl

/-- The host right after a start got past initialization. -/
def launched (G : Guest σ) (thread : ThreadId) (config : Config) (h : Host σ) : Host σ :=
  { started thread config (booted G h) with
    log := h.log ++ [⟨.info, "Python interpreter started",
      [.count "generation" (h.lifecycle.generation + 1), .quoted "built_against" "@PY"]⟩] }

theorem launches_iff : launches G config h = true ↔
    startRefusal config h = none ∧ G.isUp h.world = false ∧ G.isUp (booted G h).world = true := by
  simp [launches, booted, and_assoc]

theorem launch_run_of_launches (thread : ThreadId) (hl : launches G config h = true) :
    (launch G thread config).run.run h = .ok (.ok (), launched G thread config h) := by
  obtain ⟨hf, hdown, hup⟩ := launches_iff.mp hl
  unfold launch
  rw [Attempt.run_get_bind, hf]
  dsimp only
  rw [if_neg (by rw [hdown]; exact Bool.false_ne_true)]
  rw [Attempt.run_lift_bind (booted_run G h), Attempt.run_get_bind, if_pos hup]
  rfl

/-- A start that does not get past initialization fails, and no part of the books but the log
changes. -/
theorem launch_run_of_not_launches (thread : ThreadId) (hl : launches G config h = false) :
    ∃ f h', (launch G thread config).run.run h = .ok (.error f, h') ∧
      h'.standing = h.standing := by
  cases hf : startRefusal config h with
  | some f => exact ⟨f, _, launch_run_of_refused thread hf, rfl⟩
  | none =>
    by_cases hup : G.isUp h.world = true
    · exact ⟨_, _, launch_run_of_up thread hf hup, rfl⟩
    · have hdown : G.isUp h.world = false := by simpa using hup
      cases hfailed : G.isUp (booted G h).world with
      | false => exact ⟨_, _, launch_run_of_failed thread hf hdown hfailed, rfl⟩
      | true =>
        rw [launches_iff.mpr ⟨hf, hdown, hfailed⟩] at hl
        cases hl

theorem start_run_of_launches (hl : launches G config h = true) :
    (start G thread config).run.run h =
      (appendPaths G config.searchPaths).run.run (launched G thread config h) := by
  unfold start
  rw [Attempt.run_bind_of_ok (launch_run_of_launches thread hl)]

theorem start_run_of_launch_error {f : Failure}
    (hf : (launch G thread config).run.run h = .ok (.error f, h')) :
    (start G thread config).run.run h = .ok (.error f, h') := by
  unfold start
  rw [Attempt.run_bind_of_error hf]

/-- Appending search paths leaves alone what stands in the books. -/
theorem start_standing {r : Except Failure Unit} (hl : launches G config h = true)
    (hr : (start G thread config).run.run h = .ok (r, h')) :
    h'.standing = (launched G thread config h).standing := by
  rw [start_run_of_launches hl] at hr
  exact appendPaths_sessional (fixed_sessional G fun s => s) config.searchPaths _ r h' hr

/-! ## Stopping -/

theorem warnIf_run (b : Bool) (message : String) (h : Host σ) :
    (Bridge.warnIf b message).run h =
      .ok ((), { h with log := h.log ++ if b then [⟨.warn, message, []⟩] else [] }) := by
  cases b with
  | true => rfl
  | false =>
    show Except.ok ((), h) = _
    simp

/-- Whatever the interpreter does when it is taken down, the lifecycle ends up finalized. -/
theorem finalize_run (life : Lifecycle) (thread : ThreadId) (h : Host σ) :
    ∃ h', (finalize G life thread).run h = .ok ((), h') ∧
      h'.station = ⟨⟨.finalized, h.lifecycle.generation, none⟩, h.registry⟩ ∧
      h'.world = (G.shutdown h.world).world ∧
      h'.waiting = h.waiting ++ deferredIn (G.shutdown h.world).notices := by
  unfold finalize
  rw [Bridge.run_modify_bind, Bridge.run_bind (warnIf_run _ _ _),
    Bridge.run_bind (Bridge.act_run _ _), Bridge.run_modify_bind, Bridge.run_bind (warnIf_run _ _ _)]
  exact ⟨_, rfl, rfl, rfl, rfl⟩

/-! What the bridge lets go of before that never ends the process. -/

theorem letGoOne_returns (t : Ticket) : (Registry.letGoOne G t).Returns := by
  unfold Registry.letGoOne
  refine Bridge.Returns.get fun s => ?_
  cases s.shares.lookup t.serial with
  | none => exact Bridge.Returns.pure ()
  | some share =>
    show (if share.owners ≤ 1 then _ else _ : Bridge σ Unit).Returns
    split
    next => exact (Bridge.Returns.modify _).bind fun _ => Bridge.Returns.act _
    next => exact Bridge.Returns.modify _

theorem letGo_returns : ∀ entries : List (Int × Ticket), (Registry.letGo G entries).Returns := by
  intro entries
  induction entries with
  | nil => exact Bridge.Returns.pure ()
  | cons e rest ih =>
    unfold Registry.letGo
    exact (letGoOne_returns e.2).bind fun _ => ih

theorem settle_returns (busy : Bool) (generation : Nat) :
    ∀ ks : List Kept, (Session.settle G busy generation ks).Returns := by
  intro ks
  induction ks with
  | nil => exact Bridge.Returns.pure ()
  | cons k ks ih =>
    unfold Session.settle
    refine Bridge.Returns.bind ?_ fun _ => ih
    unfold Session.settleOne
    split
    next => exact Bridge.Returns.act _
    next => exact Bridge.Returns.pure ()

theorem settleWaiting_returns (busy : Bool) (generation : Nat) :
    (Session.settleWaiting G busy generation).Returns := by
  unfold Session.settleWaiting
  refine Bridge.Returns.get fun s => ?_
  exact (Bridge.Returns.modify _).bind fun _ => settle_returns busy generation _

/-- The registry goes away and the lifecycle stays. -/
theorem destroy_run (h : Host σ) : ∃ h', (Registry.destroy G).run h = .ok ((), h') ∧
    h'.station = ⟨h.lifecycle, none⟩ := by
  unfold Registry.destroy
  rw [Bridge.run_get_bind]
  cases hr : h.registry with
  | none =>
    refine ⟨h, rfl, ?_⟩
    show (⟨h.lifecycle, h.registry⟩ : Station) = _
    rw [hr]
  | some r =>
    dsimp only
    rw [Bridge.run_modify_bind]
    -- what the entries do to shared bindings is out of sight; that they return is all that is needed
    obtain ⟨u, h₁, hgo⟩ := letGo_returns (G := G) r.entries { h with registry := none }
    have hstation : h₁.station = ⟨h.lifecycle, none⟩ :=
      Registry.letGo_obeys (station_custodial G) r.entries _ u h₁ hgo
    rw [Bridge.run_bind hgo]
    split
    next => exact ⟨_, rfl, hstation⟩
    next => exact ⟨_, rfl, hstation⟩

theorem letGoOfAll_run (generation : Nat) (h : Host σ) :
    ∃ h', (letGoOfAll G generation).run h = .ok ((), h') ∧
      h'.station = ⟨h.lifecycle, none⟩ := by
  unfold letGoOfAll
  obtain ⟨h₁, hdestroy, hstation⟩ := destroy_run (G := G) h
  rw [Bridge.run_bind hdestroy]
  obtain ⟨u, h₂, hsettle⟩ := settleWaiting_returns (G := G) true generation h₁
  refine ⟨h₂, hsettle, ?_⟩
  have hkept : h₂.station = h₁.station :=
    Session.settleWaiting_obeys (fixed_composes _) (fun _ => act_fixed Standing.station _)
      (fun _ => rfl) h₁ u h₂ hsettle
  rw [hkept, hstation]

theorem stop_run_of_not_running (hs : h.lifecycle.stage ≠ .running) :
    (stop G thread).run.run h = .ok (.error .notRunning, h) := by
  unfold stop
  rw [Attempt.run_get_bind]
  dsimp only
  rw [if_pos hs]
  rfl

/-- Stopping a running interpreter always succeeds. -/
theorem stop_run_of_running (G : Guest σ) (thread : ThreadId) (hs : h.lifecycle.stage = .running) :
    ∃ h', (stop G thread).run.run h = .ok (.ok (), h') ∧
      h'.station = ⟨⟨.finalized, h.lifecycle.generation, none⟩, none⟩ := by
  unfold stop
  rw [Attempt.run_get_bind]
  dsimp only
  rw [if_neg (fun hne => hne hs)]
  obtain ⟨h₁, hgo, hstation⟩ := letGoOfAll_run (G := G) h.lifecycle.generation h
  obtain ⟨h₂, hfin, hend, -⟩ := finalize_run (G := G) h.lifecycle thread h₁
  rw [Attempt.run_lift_bind hgo]
  refine ⟨h₂, Attempt.run_lift hfin, ?_⟩
  have hlife : h₁.lifecycle = h.lifecycle := congrArg Station.lifecycle hstation
  have hreg : h₁.registry = none := congrArg Station.registry hstation
  rw [hend, hlife, hreg]

end Interpreter

/-! ## Registering -/

namespace Registry

variable {r : Registry} {id : Int}

/-- A binding that is accepted gets the next id. -/
theorem insert_run_of_open (b : Binding) (hr : h.registry = some r) (hid : r.nextId < idBound) :
    (insert G b).run.run h = .ok (.ok r.nextId, { h with
      nextSerial := h.nextSerial + 1
      shares := h.shares ++ [(h.nextSerial, ⟨b, 1⟩)]
      registry := some ⟨r.entries ++ [(r.nextId, ⟨h.nextSerial⟩)], r.nextId + 1⟩ }) := by
  show (get >>= _ : Bridge σ _).run h = _
  rw [Bridge.run_get_bind, hr]
  dsimp only
  rw [if_pos hid]
  rfl

/-- Any other binding is dropped. -/
theorem insert_ok {b : Binding} {x : Except Failure Int}
    (hx : (insert G b).run.run h = .ok (x, h')) :
    (∃ r, h.registry = some r ∧ r.nextId < idBound ∧ x = .ok r.nextId ∧
      h'.station = ⟨h.lifecycle, some ⟨r.entries ++ [(r.nextId, ⟨h.nextSerial⟩)], r.nextId + 1⟩⟩) ∨
    ((∃ f, x = .error f) ∧ h'.station = h.station) := by
  -- both ways to be refused end with the binding dropped, which the station does not see
  have dropped : ∀ {f : Failure}, (b.drop G false >>= fun _ => pure (.error f)).run h =
      .ok (x, h') → (∃ f, x = .error f) ∧ h'.station = h.station := by
    intro f hd
    obtain ⟨u, h₁, hdrop, hp⟩ := Bridge.bind_ok hd
    obtain ⟨rfl, rfl⟩ := Bridge.pure_ok hp
    exact ⟨⟨f, rfl⟩, Binding.drop_obeys (station_custodial G) false b h u _ hdrop⟩
  cases hr : h.registry with
  | none =>
    right
    change (get >>= _ : Bridge σ _).run h = _ at hx
    rw [Bridge.run_get_bind, hr] at hx
    exact dropped hx
  | some r =>
    by_cases hid : r.nextId < idBound
    · left
      rw [insert_run_of_open b hr hid] at hx
      cases hx
      exact ⟨r, rfl, hid, rfl, rfl⟩
    · right
      change (get >>= _ : Bridge σ _).run h = _ at hx
      rw [Bridge.run_get_bind, hr] at hx
      dsimp only at hx
      rw [if_neg hid] at hx
      exact dropped hx

theorem whileOpen_run_of_closed {f : Registry → Attempt σ Failure α} (hr : h.registry = none) :
    (whileOpen f).run.run h = .ok (.error .notRunning, h) := by
  unfold whileOpen
  rw [Attempt.run_get_bind, hr]
  rfl

theorem whileOpen_run_of_open {f : Registry → Attempt σ Failure α} (hr : h.registry = some r) :
    (whileOpen f).run.run h = (f r).run.run h := by
  unfold whileOpen
  rw [Attempt.run_get_bind, hr]

theorem find_run_of_unknown (hr : h.registry = some r) (hid : r.entries.lookup id = none) :
    (find id).run.run h = .ok (.error (.invalidBinding id), h) := by
  unfold find
  rw [whileOpen_run_of_open hr, hid]
  rfl

theorem remove_run_of_unknown (hr : h.registry = some r) (hid : r.entries.lookup id = none) :
    (remove id).run.run h = .ok (.error (.invalidBinding id), h) := by
  unfold remove
  rw [whileOpen_run_of_open hr, hid]
  rfl

theorem remove_run_of_known {t : Ticket} (hr : h.registry = some r)
    (hid : r.entries.lookup id = some t) :
    (remove id).run.run h = .ok (.ok t, { h with
      registry := some ⟨r.entries.filter fun e => e.1 ≠ id, r.nextId⟩ }) := by
  unfold remove
  rw [whileOpen_run_of_open hr, hid]
  rfl

/-- A binding is taken out, or nothing happens. -/
theorem remove_ok {x : Except Failure Ticket} (hx : (remove id).run.run h = .ok (x, h')) :
    (∃ r t, h.registry = some r ∧ r.entries.lookup id = some t ∧ x = .ok t ∧
      h' = { h with registry := some ⟨r.entries.filter fun e => e.1 ≠ id, r.nextId⟩ }) ∨
    ((∃ f, x = .error f) ∧ h' = h) := by
  cases hr : h.registry with
  | none =>
    right
    unfold remove at hx
    rw [whileOpen_run_of_closed hr] at hx
    cases hx
    exact ⟨⟨_, rfl⟩, rfl⟩
  | some r =>
    cases hid : r.entries.lookup id with
    | none =>
      right
      rw [remove_run_of_unknown hr hid] at hx
      cases hx
      exact ⟨⟨_, rfl⟩, rfl⟩
    | some t =>
      left
      rw [remove_run_of_known hr hid] at hx
      cases hx
      exact ⟨r, t, rfl, hid, rfl, rfl⟩

end Registry

end Embedder
