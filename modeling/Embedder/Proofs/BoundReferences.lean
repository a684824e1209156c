import Embedder.Proofs.Lending
import Embedder.Proofs.RegistryMap
import Mathlib.Data.List.Dedup

/-!
# The references of bindings

A binding holds one reference to its callable, from the bind to its end. So between operations,
while an interpreter runs, Python counts as many references to an object as it holds itself and as
there are bindings of this interpreter on the object, and no others
(`Process.bound_reference_laws`). It does not matter how a binding is owned: by the program, by the
registry, or by any number of tickets. A binding that ends while the lifecycle is busy leaves its
reference in the queue, where it is counted until the next session.

A stop gives up one reference for each binding that nobody but the registry owns, before the
interpreter is taken down.
-/

namespace Embedder

open Scenario

variable {σ α : Type} {G : Guest σ} {h h' : Host σ}

/-! ## The bindings that exist -/

namespace Shelf

variable {f : Shelf} {B : Binding → Prop} {out : List Ticket} {t : Ticket}

/-- The tickets on a record are those in the registry and those that are out. -/
theorem Accounts.mem_tickets (ha : f.Accounts B out) :
    t ∈ f.filed ++ out ↔ t ∈ f.shares.map fun e => (⟨e.1⟩ : Ticket) := by
  constructor
  · intro ht
    obtain ⟨s, hs⟩ := ha.known ht
    exact List.mem_map.mpr ⟨_, Shares.mem_of_lookup hs, rfl⟩
  · intro ht
    obtain ⟨e, he, rfl⟩ := List.mem_map.mp ht
    have howners := ha.counted ⟨e.1⟩
    rw [owners_of_known (Keyed.lookup_of_mem ha.keys he)] at howners
    -- a record without an owner would not be there
    have hone := ha.owned e he
    rw [← List.count_pos_iff, List.count_append]
    omega

/-- However many tickets are on a binding, it has one record. -/
theorem Accounts.perm_bindings (ha : f.Accounts B out) :
    ((f.filed ++ out).dedup.filterMap f.binding?).Perm (f.shares.map (·.2.binding)) := by
  have hnodup : (f.shares.map fun e => (⟨e.1⟩ : Ticket)).Nodup := by
    refine List.Nodup.of_map Ticket.serial ?_
    rw [List.map_map]
    exact ha.keys
  have hperm : (f.filed ++ out).dedup.Perm (f.shares.map fun e => (⟨e.1⟩ : Ticket)) :=
    (List.perm_ext_iff_of_nodup (List.nodup_dedup _) hnodup).mpr fun t => by
      rw [List.mem_dedup, ha.mem_tickets]
  refine (hperm.filterMap _).trans (List.Perm.of_eq ?_)
  rw [List.filterMap_map, ← List.filterMap_eq_map']
  refine List.filterMap_congr fun e he => ?_
  show (f.shares.lookup e.1).map (·.binding) = _
  rw [Keyed.lookup_of_mem ha.keys he]
  rfl

theorem Accounts.filed_nodup (ha : f.Accounts B out) : f.filed.Nodup := by
  unfold filed
  cases hr : f.registry with
  | none => exact List.nodup_nil
  | some r =>
    refine List.Nodup.of_map Ticket.serial ?_
    show ((r.entries.map (·.2)).map Ticket.serial).Nodup
    rw [List.map_map]
    exact ha.serials r hr

end Shelf

namespace Caller

/-- Of a reference, the bindings in hand weigh as many as keep it. -/
theorem weight_count (c : Caller) (k : Kept) :
    c.weight (fun j => ([j].count k : Int)) = (c.bindings.map Binding.kept).count k := by
  unfold weight
  induction c.bindings with
  | nil => rfl
  | cons b bs ih =>
    rw [List.map_cons, List.sum_cons, ih, List.map_cons, ← List.singleton_append, List.count_append,
      Nat.cast_add]

end Caller

namespace Process

variable {p p' : Process σ} {B : Binding → Prop} {k : Kept}

/-- The bindings that exist: those in hand, and those with a ticket in the registry or in hand, each
of them once. -/
def bindings (p : Process σ) : List Binding :=
  p.caller.bindings ++
    (p.host.shelf.filed ++ p.caller.tickets).dedup.filterMap p.host.shelf.binding?

/-- How many bindings keep a reference. -/
def bound (p : Process σ) (k : Kept) : Nat := (p.bindings.map Binding.kept).count k

/-- The bindings that nobody but the registry owns. -/
def filedOnly (p : Process σ) : List Binding :=
  (p.host.shelf.filed.filter (· ∉ p.caller.tickets)).filterMap p.host.shelf.binding?

theorem Owns.bound (hp : p.Owns B) (k : Kept) : (p.bound k : Int) =
    p.caller.weight (fun j => ([j].count k : Int)) + (Shares.kept p.host.shares).count k := by
  have hshared := (Shelf.Accounts.perm_bindings hp.accounts).map Binding.kept
  unfold Process.bound bindings
  rw [List.map_append, List.count_append, hshared.count_eq, List.map_map, Caller.weight_count,
    Nat.cast_add]
  rfl

/-- What the registry gives up is what nobody else owns. -/
theorem Owns.due (hp : p.Owns B) : p.host.due = p.filedOnly.map Binding.kept := by
  have hfiled : p.host.due = p.host.shelf.filed.filterMap (Ticket.due? p.host.shares) := by
    unfold Host.due Shelf.filed
    show _ = ((p.host.registry.map _).getD []).filterMap _
    cases p.host.registry with
    | none => rfl
    | some r =>
      show Registry.due _ r.entries = (r.entries.map (·.2)).filterMap _
      rw [List.filterMap_map]
      rfl
  rw [hfiled, filedOnly, List.map_filterMap, List.filterMap_filter]
  refine List.filterMap_congr fun t ht => ?_
  have hcounted := Shelf.Accounts.counted hp.accounts t
  rw [List.count_eq_one_of_mem (Shelf.Accounts.filed_nodup hp.accounts) ht] at hcounted
  obtain ⟨s, hs⟩ := Shelf.Accounts.known hp.accounts (List.mem_append_left _ ht)
  rw [Shelf.owners_of_known hs] at hcounted
  have hbinding : p.host.shelf.binding? t = some s.binding := congrArg (Option.map _) hs
  have hsame : s.owners ≤ 1 ↔ t ∉ p.caller.tickets := by
    rw [hcounted, ← List.count_eq_zero]
    omega
  unfold Ticket.due?
  rw [show p.host.shares.lookup t.serial = some s from hs, hbinding]
  by_cases hout : t ∉ p.caller.tickets
  · simp [hout, hsame.mpr hout]
  · simp [hout, mt hsame.mp hout]

end Process

/-! ## While an interpreter runs -/

variable {own : Obj → σ → Int} {idle : Prop} {k : Kept} {m n : Int}

/-- While the interpreter of a reference runs, so many of the references to its object are at
large. -/
structure Host.Reckoned (G : Guest σ) (own : Obj → σ → Int) (idle : Prop) (k : Kept) (n : Int)
    (h : Host σ) : Prop where
  within : h.Within idle k
  atLarge : h.atLarge G own k = n

theorem Host.Reckoned.lent (hh : h.Reckoned G own idle k m) (hlent : Lent G own idle k n h h') :
    h'.Reckoned G own idle k (m + n) := by
  obtain ⟨hwithin, hlarge⟩ := hlent hh.within
  exact ⟨hwithin, by rw [hlarge, hh.atLarge]⟩

/-- Whether an operation can be one of those between a start and a stop. What a session does with
handles of its own is left out. -/
def Operation.Between : Operation → Prop
  | .stop _ => False
  | .session _ => False
  | _ => True

namespace Step

/-- Whether a step can be one of those between a start and a stop. Code outside the bridge takes
nothing over from it. -/
def Between (G : Guest σ) (own : Obj → σ → Int) : Step σ → Prop
  | .perform op => op.Between
  | .interface _ call => call ≠ .stop
  | .outside f => ∀ x w, G.lent own x (f w) = G.lent own x w

/-- Whether a step drops something while the lifecycle is busy. -/
def busy : Step σ → Bool
  | .perform op => op.busy
  | _ => false

/-- The configuration with which a step starts the interpreter, if it does. -/
def config? : Step σ → Option Config
  | .perform (.launch _ config) => some config
  | .perform (.start _ config) => some config
  | .interface _ call => call.config?
  | _ => none

end Step

namespace Process

variable {p p' : Process σ}

/-- Up to `n` of them, the references at large are with the bindings in hand. -/
def Reckoned (G : Guest σ) (own : Obj → σ → Int) (idle : Prop) (k : Kept) (n : Int)
    (p : Process σ) : Prop :=
  p.host.Reckoned G own idle k (p.caller.weight (fun j => ([j].count k : Int)) + n)

section

variable (hG : G.Lends own k.generation) (hidle : idle → G.NeverDefers)
include hG hidle

theorem step_reckoned {s : Step σ} (hbetween : s.Between G own) (hbusy : idle → s.busy = false)
    (hp : p.Reckoned G own idle k n) (hs : p.step G s = .ok p') : p'.Reckoned G own idle k n := by
  have hR := lent_registry hG hidle
  have hlaunch : ∀ thread config,
      (Interpreter.launch G thread config).Obeys (Lent G own idle k) (fun _ => 0) 0 :=
    fun _ _ => launch_lent
  have hstart : ∀ thread config,
      (Interpreter.start G thread config).Obeys (Lent G own idle k) (fun _ => 0) 0 :=
    fun _ _ => start_lent
  cases s with
  | perform op =>
    obtain ⟨events, hop, -⟩ := step_perform_ok hs
    have hstop : ∀ thread, op ≠ .stop thread := by
      rintro thread rfl
      exact hbetween
    have hsession : ∀ tasks, op = .session tasks →
        (Task.session G tasks).Obeys (Lent G own idle k) (fun _ => 0) 0 := by
      rintro tasks rfl
      exact hbetween.elim
    have hlent :=
      Operation.perform_weighed hR hstop hbusy hlaunch hstart hsession p.caller _ _ _ hop
    have hreckoned := hp.lent hlent
    rwa [Int.add_right_comm, Int.add_comm (p.caller.weight _), Int.sub_add_cancel] at hreckoned
  | interface thread call =>
    obtain ⟨_, htell⟩ := tell_of_step hs
    obtain ⟨_, _, -, -, hcaller, -⟩ := tell_interface_ok htell
    obtain ⟨v, hcall, -⟩ := step_interface_ok hs
    have hlent := call.perform_weighed hR thread (hstart thread) hbetween _ _ _ hcall
    have hreckoned := hp.lent hlent
    rw [Int.add_zero] at hreckoned
    rw [Reckoned, hcaller]
    exact hreckoned
  | outside f =>
    cases hs
    have hlent : Lent G own idle k 0 p.host { p.host with world := f p.host.world } := by
      refine Lent.of_world [] rfl rfl (List.append_nil _).symm
        (fun _ => List.not_mem_nil) ?_
      rw [List.count_nil]
      exact (hbetween k.obj p.host.world).trans (by omega)
    have hreckoned := hp.lent hlent
    rwa [Int.add_zero] at hreckoned

/-- By induction on the run. -/
theorem run_reckoned : ∀ {steps : List (Step σ)} {p : Process σ},
    (∀ s ∈ steps, s.Between G own) → (idle → ∀ s ∈ steps, s.busy = false) →
    p.Reckoned G own idle k n → p.run G steps = .ok p' → p'.Reckoned G own idle k n := by
  intro steps
  induction steps with
  | nil =>
    intro p _ _ hp hr
    cases hr
    exact hp
  | cons s rest ih =>
    intro p hbetween hbusy hp hr
    obtain ⟨p₁, hs, hrest⟩ := run_cons_ok hr
    have hfirst := step_reckoned hG hidle (hbetween s List.mem_cons_self)
      (fun hi => hbusy hi s List.mem_cons_self) hp hs
    exact ih (fun t ht => hbetween t (List.mem_cons_of_mem s ht))
      (fun hi t ht => hbusy hi t (List.mem_cons_of_mem s ht)) hfirst hrest

end

end Process

/-! ## When an interpreter comes up -/

/-- The interpreter of a reference is the next to come up, and no binding keeps the reference
yet. -/
structure Host.Awaits (idle : Prop) (k : Kept) (h : Host σ) : Prop where
  next : k.generation = h.lifecycle.generation + 1
  orderly : h.shelf.Orderly
  pending : h.pending = none
  waiting : idle → k ∉ h.waiting
  shared : k ∉ Shares.kept h.shares

namespace Interpreter

variable {thread : ThreadId} {config : Config}

/-- What waits for an interpreter that comes up only now was not lent by it. -/
theorem launched_reckoned (hG : G.Lends own k.generation) (hh : h.Awaits idle k)
    (hl : launches G config h = true) :
    (launched G thread config h).Reckoned G own idle k (-h.waiting.count k) := by
  obtain ⟨-, -, hup⟩ := launches_iff.mp hl
  have hlent : G.lent own k.obj (G.boot k.generation h.world) = 0 := by
    refine hG.boot k.obj ?_
    rw [hh.next]
    exact hup
  have hopened := (Shelf.Changes.opened h.shelf).orderly hh.orderly
  refine ⟨⟨⟨rfl, hh.next.symm⟩, ?_, hh.waiting⟩, ?_⟩
  · exact (Shelf.Changes.turn _ ⟨.running, h.lifecycle.generation + 1, some thread⟩).orderly hopened
  · rw [hh.next] at hlent
    show G.lent own k.obj (G.boot (h.lifecycle.generation + 1) h.world) -
      Obj.refs (h.pending.elim [] Pending.refs) k.obj - h.waiting.count k -
      (Shares.kept h.shares).count k = _
    rw [hlent, hh.pending, List.count_eq_zero.mpr hh.shared]
    exact (Int.sub_zero _).trans (Int.zero_sub _)

theorem start_reckoned (hG : G.Lends own k.generation) (hidle : idle → G.NeverDefers)
    (hh : h.Awaits idle k) (hl : launches G config h = true) {r : Except Failure Unit}
    (hr : (start G thread config).run.run h = .ok (r, h')) :
    h'.Reckoned G own idle k (-h.waiting.count k) := by
  rw [start_run_of_launches hl] at hr
  have hlent := appendPaths_weighed (lent_sessions hG hidle) config.searchPaths _ r h' hr
  have hreckoned := (launched_reckoned hG hh hl).lent hlent
  rw [← Int.add_zero (-_)]
  cases r with
  | ok u => exact hreckoned
  | error f => exact hreckoned

end Interpreter

/-- Once its body has run, a call of the C interface changes no more than last errors. -/
theorem CInterface.answer_reckoned {thread : ThreadId} {body : Attempt σ Failure α} {a : Answer α}
    (hbody : ∀ r h', body.run.run { h with lastErrors := h.lastErrors.clear thread } =
      .ok (r, h') → h'.Reckoned G own idle k n)
    (ha : (answer thread body).run h = .ok (a, h')) : h'.Reckoned G own idle k n := by
  obtain ⟨r, k, e, hrun, rfl⟩ := answer_left ha
  have hreckoned := hbody r k hrun
  exact ⟨⟨hreckoned.within.runs, hreckoned.within.orderly, hreckoned.within.waiting⟩,
    hreckoned.atLarge⟩

namespace Process

variable {p p' : Process σ}

theorem perform_begins {op : Operation} {a : Answer} {config : Config}
    (hG : G.Lends own k.generation) (hidle : idle → G.NeverDefers) (hh : h.Awaits idle k)
    (hop : (Step.perform (σ := σ) op).config? = some config)
    (hl : Interpreter.launches G config h = true) {c : Caller}
    (ha : (op.answer G c).run h = .ok (a, h')) :
    h'.Reckoned G own idle k (-h.waiting.count k) := by
  cases op with
  | launch thread c =>
    cases hop
    obtain ⟨r, h₁, hlaunch, hlast⟩ := Bridge.bind_ok ha
    obtain ⟨-, rfl⟩ := Bridge.pure_ok hlast
    rw [Interpreter.launch_run_of_launches thread hl] at hlaunch
    cases hlaunch
    exact Interpreter.launched_reckoned hG hh hl
  | start thread c =>
    cases hop
    obtain ⟨r, h₁, hstart, hlast⟩ := Bridge.bind_ok ha
    obtain ⟨-, rfl⟩ := Bridge.pure_ok hlast
    exact Interpreter.start_reckoned hG hidle hh hl hstart
  | _ => cases hop

theorem interface_begins {thread : ThreadId} {call : InterfaceCall} {v : InterfaceValue}
    {config : Config} (hG : G.Lends own k.generation) (hidle : idle → G.NeverDefers)
    (hh : h.Awaits idle k) (hcall : call.config? = some config)
    (hl : Interpreter.launches G config h = true)
    (hr : (call.perform G thread).run h = .ok (v, h')) :
    h'.Reckoned G own idle k (-h.waiting.count k) := by
  have hclear : ({ h with lastErrors := h.lastErrors.clear thread } : Host σ).Awaits idle k :=
    ⟨hh.next, hh.orderly, hh.pending, hh.waiting, hh.shared⟩
  cases call with
  | start e =>
    cases hcall
    obtain ⟨a, h₁, ha, hlast⟩ := Bridge.bind_ok hr
    obtain ⟨-, rfl⟩ := Bridge.pure_ok hlast
    refine CInterface.answer_reckoned (fun r h₂ hbody => ?_) ha
    exact Interpreter.start_reckoned (h := { h with lastErrors := h.lastErrors.clear thread })
      hG hidle hclear hl hbody
  | startWithConfig json =>
    obtain ⟨a, h₁, ha, hlast⟩ := Bridge.bind_ok hr
    obtain ⟨-, rfl⟩ := Bridge.pure_ok hlast
    rw [CInterface.startWithConfig_eq] at ha
    have hchecks : CInterface.configChecks json = .ok config := ok_of_toOption hcall
    refine CInterface.answer_reckoned (fun r h₂ hbody => ?_) ha
    rw [CInterface.check_bind_of_ok hchecks] at hbody
    exact Interpreter.start_reckoned (h := { h with lastErrors := h.lastErrors.clear thread })
      hG hidle hclear hl hbody
  | _ => cases hcall

theorem step_begins {s : Step σ} {config : Config} (hG : G.Lends own k.generation)
    (hidle : idle → G.NeverDefers) (hh : p.host.Awaits idle k) (hs : s.config? = some config)
    (hl : Interpreter.launches G config p.host = true) (hstep : p.step G s = .ok p') :
    p'.host.Reckoned G own idle k (-p.host.waiting.count k) ∧ p'.caller = p.caller := by
  obtain ⟨_, htell⟩ := tell_of_step hstep
  cases s with
  | perform op =>
    obtain ⟨a, ha, -, hcaller, -⟩ := tell_perform_ok htell
    refine ⟨perform_begins hG hidle hh hs hl ha, ?_⟩
    cases op with
    | launch => exact hcaller
    | start => exact hcaller
    | _ => cases hs
  | interface thread call =>
    obtain ⟨_, _, -, -, hcaller, -⟩ := tell_interface_ok htell
    obtain ⟨v, hcall, -⟩ := step_interface_ok hstep
    exact ⟨interface_begins hG hidle hh hs hl hcall, hcaller⟩
  | outside f => cases hs

/-- After a run, no binding keeps a reference of the generation that comes next. -/
theorem awaits_of_run {world : σ} {before : List (Step σ)} (hidle : idle → G.NeverDefers)
    (hp : (fresh world).run G before = .ok p)
    (hk : k.generation = p.host.lifecycle.generation + 1) :
    p.host.Awaits idle k ∧ p.caller.weight (fun j => ([j].count k : Int)) = 0 := by
  have howns := run_owners hp
  have hpast : ∀ b : Binding, (fresh world).MadeOn G before b → b.kept ≠ k := by
    intro b hmade heq
    have hle := hmade.generation_le hp
    rw [show b.generation = k.generation from congrArg Kept.generation heq] at hle
    omega
  refine ⟨⟨hk, Shelf.Accounts.toOrderly howns.accounts, (balanced_of_run hp).1 rfl, ?_, ?_⟩, ?_⟩
  · intro hi hmem
    have hle := waiting_past (hidle hi) hp k hmem
    omega
  · intro hmem
    obtain ⟨e, he, heq⟩ := List.mem_map.mp hmem
    exact hpast _ (Shelf.Accounts.bindings howns.accounts e he) heq
  · rw [Caller.weight_count, Nat.cast_eq_zero, List.count_eq_zero]
    intro hmem
    obtain ⟨b, hb, heq⟩ := List.mem_map.mp hmem
    exact hpast b (howns.held b hb) heq

/-- After a run from the start of its interpreter, the references at large are with the bindings in
hand, less those that already waited at the start. -/
theorem reckoned_of_run {world : σ} {before : List (Step σ)} {begin : Step σ} {config : Config}
    {steps : List (Step σ)} (hp : (fresh world).run G before = .ok p)
    (hbegin : begin.config? = some config)
    (hlaunches : Interpreter.launches G config p.host = true) (hG : G.Lends own k.generation)
    (hk : k.generation = p.host.lifecycle.generation + 1) (hidle : idle → G.NeverDefers)
    (hsteps : ∀ s ∈ steps, s.Between G own) (hbusy : idle → ∀ s ∈ steps, s.busy = false)
    (hr : p.run G (begin :: steps) = .ok p') :
    p'.Reckoned G own idle k (-p.host.waiting.count k) := by
  obtain ⟨p₁, hfirst, hrest⟩ := run_cons_ok hr
  obtain ⟨hawaits, hnone⟩ := awaits_of_run hidle hp hk
  obtain ⟨hbegun, hcaller⟩ := step_begins hG hidle hawaits hbegin hlaunches hfirst
  refine run_reckoned hG hidle hsteps hbusy ?_ hrest
  rw [Reckoned, hcaller, hnone, Int.zero_add]
  exact hbegun

/-- Of the references that are lent, the bindings hold all that neither waits nor is at large. -/
theorem Owns.refcount (hp : p.Owns B) (hpending : p.host.pending = none)
    (hreckoned : p.Reckoned G own idle k n) : G.refcount k.obj p.host.world =
      own k.obj p.host.world + p.bound k + (p.host.waiting.count k + n) := by
  have hlarge := hreckoned.atLarge
  have hbound := hp.bound k
  simp only [Host.atLarge, Guest.lent, hpending, Option.elim, Obj.refs_nil] at hlarge
  omega

end Process

/-! ## Bindings of other generations -/

/-- The program returns, nothing happens to the interpreter, and as many references of the
generation wait as before. -/
def Bridge.Spares (x : Bridge σ Unit) (generation : Nat) (h : Host σ) : Prop :=
  ∃ h', x.run h = .ok ((), h') ∧ h'.world = h.world ∧
    ∀ o, h'.waiting.count ⟨o, generation⟩ = h.waiting.count ⟨o, generation⟩

section

variable {generation : Nat} {b : Binding}

theorem Binding.drop_spares (hruns : h.lifecycle.Runs generation) (hb : b.generation ≠ generation)
    (busy : Bool) : (b.drop G busy).Spares generation h := by
  cases busy with
  | true =>
    refine ⟨_, Binding.drop_run_of_busy b, rfl, fun o => ?_⟩
    show (h.waiting ++ [b.kept]).count _ = _
    rw [List.count_append, Kept.count_of_other hb, Nat.add_zero]
  | false =>
    have hgone : ¬(h.lifecycle.stage = .running ∧ h.lifecycle.generation = b.generation) :=
      fun hsame => hb (hsame.2.symm.trans hruns.2)
    exact ⟨_, Binding.drop_run_of_gone hgone, rfl, fun _ => rfl⟩

theorem Ticket.drop_spares (hruns : h.lifecycle.Runs generation) (hb : b.generation ≠ generation)
    (busy : Bool) {t : Ticket} (ht : t.On b h) : (t.drop G busy).Spares generation h := by
  obtain ⟨s, hs, rfl⟩ := ht
  by_cases howners : s.owners ≤ 1
  · unfold Bridge.Spares
    rw [Ticket.drop_run_of_last busy hs howners]
    exact
      Binding.drop_spares (h := { h with shares := Shares.erase t.serial h.shares }) hruns hb busy
  · exact ⟨_, Ticket.drop_run_of_shared busy hs (by omega), rfl, fun _ => rfl⟩

end

/-! ## The laws -/

namespace Process

variable {p : Process σ}

/-- How the references of bindings are accounted for while the interpreter of a generation runs.
When it came up, some references waited for release. -/
structure Reckons (G : Guest σ) (own : Obj → σ → Int) (generation : Nat) (waited : List Kept)
    (p : Process σ) : Prop where
  runs : p.host.lifecycle.Runs generation
  /-- Python counts the references that it holds itself, one for each binding, and one for each that
  joined the queue since. -/
  counts : ∀ x, G.refcount x p.host.world = own x p.host.world + p.bound ⟨x, generation⟩ +
    (p.host.waiting.count ⟨x, generation⟩ - waited.count ⟨x, generation⟩)
  /-- A binding of another generation ends without a release, whoever owned it. -/
  spares : ∀ b : Binding, b.generation ≠ generation → ∀ busy,
    (b.drop G busy).Spares generation p.host ∧
    ∀ t : Ticket, t.On b p.host → (t.drop G busy).Spares generation p.host
  /-- A stop releases one reference for each binding that nobody but the registry owns, then what
  waits, and then it takes the interpreter down. -/
  stops : ∀ thread, ∃ h', (Interpreter.stop G thread).run.run p.host = .ok (.ok (), h') ∧
    h'.world = (G.shutdown (p.host.emptied G (p.filedOnly.map Binding.kept)).world).world

/-- **The references of bindings.** Let an interpreter come up, at any point of a process. After
every run of further steps, from any threads and however they turn out, Python counts for each
object the references that it holds itself and one for each binding of this interpreter that still
exists: in hand, in the registry or on tickets, and once however many tickets there are. If a
binding ends while the lifecycle is busy, its reference joins the queue and still counts; where none
does, there are no others. A binding of another generation counts nowhere, and to drop it changes no
count. A stop looks at no generation: it releases one reference for each binding that only the
registry owns, and what is queued, before it takes the interpreter down. -/
theorem bound_reference_laws {world : σ} {before : List (Step σ)} {begin : Step σ}
    {config : Config} {steps : List (Step σ)} (hp : (fresh world).run G before = .ok p)
    (hbegin : begin.config? = some config)
    (hlaunches : Interpreter.launches G config p.host = true)
    (hG : G.Lends own (p.host.lifecycle.generation + 1))
    (hsteps : ∀ s ∈ steps, s.Between G own) :
    Ends (p.run G (begin :: steps)) fun q =>
      q.Reckons G own (p.host.lifecycle.generation + 1) p.host.waiting ∧
      (G.NeverDefers → (∀ s ∈ steps, s.busy = false) → ∀ x, G.refcount x q.host.world =
        own x q.host.world + q.bound ⟨x, p.host.lifecycle.generation + 1⟩) := by
  intro q hr
  have hrun := run_append_of_ok hp hr
  have howns := run_owners hrun
  have hpending : q.host.pending = none := (balanced_of_run hrun).1 rfl
  -- references may be queued here; the run is reckoned up once more below, where none can be
  have hnow (x : Obj) := reckoned_of_run (k := ⟨x, p.host.lifecycle.generation + 1⟩) hp hbegin
    hlaunches hG rfl False.elim hsteps False.elim hr
  have hruns := (hnow ⟨0⟩).within.runs
  refine ⟨⟨hruns, fun x => howns.refcount hpending (hnow x), fun b hb busy => ?_, fun thread => ?_⟩,
    fun hidle hbusy x => ?_⟩
  · exact ⟨Binding.drop_spares hruns hb busy, fun t ht => Ticket.drop_spares hruns hb busy ht⟩
  · rw [← howns.due]
    obtain ⟨h', hstop, hworld, -⟩ := Interpreter.stop_releases (G := G) thread hruns.1
      (Shelf.Accounts.toOrderly howns.accounts).toTidy
    exact ⟨h', hstop, hworld⟩
  · have hidly := reckoned_of_run (k := ⟨x, p.host.lifecycle.generation + 1⟩) hp hbegin hlaunches
      hG rfl (fun _ : True => hidle) hsteps (fun _ => hbusy) hr
    have hnone := hidly.within.waiting trivial
    have hpast : ⟨x, p.host.lifecycle.generation + 1⟩ ∉ p.host.waiting := by
      intro hmem
      have hle := waiting_past hidle hp _ hmem
      exact absurd hle (Nat.not_succ_le_self _)
    rw [howns.refcount hpending hidly, List.count_eq_zero.mpr hnone, List.count_eq_zero.mpr hpast]
    exact Int.add_zero _

theorem willing_neverDefers : willing.NeverDefers where
  act hf w := by cases hf with
    | _ => rfl
  releaseKept _ _ _ := rfl
  shutdown _ := rfl

/-- A process that binds a function and stops the interpreter, with the binding still in hand. -/
def bindsOnce : List (Step (Ledgered Bool)) :=
  [.perform (.start mainThread Config.default), .perform (.bind "outliers" "detect"),
    .perform (.stop mainThread)]

/-- What it does with the next interpreter: it shares a binding, makes another one, calls both and
drops the old one. -/
def bindsAgain : List (Step (Ledgered Bool)) :=
  [.perform (.bind "outliers" "detect"), .perform (.insert 1), .perform (.find 1),
    .perform (.bind "outliers" "detect"), .perform (.callTicket 0 (.ofFloats []) .float64),
    .perform (.callBinding 1 (.ofFloats [Double.zero]) .float64), .perform (.dropBinding false 0)]

theorem bindsAgain_reckons : ∃ p q, (fresh ⟨false, []⟩).run willing.counting bindsOnce = .ok p ∧
    p.run willing.counting (.perform (.start mainThread (Config.default.withRestart true)) ::
      bindsAgain) = .ok q ∧
    q.bound ⟨willingObj, 2⟩ = 2 ∧ q.Reckons willing.counting willing.held 2 [] ∧
    ∀ x, willing.counting.refcount x q.host.world =
      willing.held x q.host.world + q.bound ⟨x, 2⟩ := by
  have hends : ((fresh ⟨false, []⟩).run willing.counting bindsOnce).toOption.map (fun p =>
      (p.host.lifecycle.generation, p.host.waiting,
        Interpreter.launches willing.counting (Config.default.withRestart true) p.host,
        (p.run willing.counting (.perform (.start mainThread (Config.default.withRestart true)) ::
          bindsAgain)).toOption.map fun q => q.bound ⟨willingObj, 2⟩)) =
      some (1, [], true, some 2) := by decide +kernel
  obtain ⟨p, hp, hafter⟩ := Option.map_eq_some_iff.mp hends
  rw [Prod.mk.injEq, Prod.mk.injEq, Prod.mk.injEq] at hafter
  obtain ⟨hgeneration, hwaiting, hlaunches, hnext⟩ := hafter
  obtain ⟨q, hq, hbound⟩ := Option.map_eq_some_iff.mp hnext
  have hlaws := bound_reference_laws (ok_of_toOption hp) rfl hlaunches
    (Guest.counting_lends willing_neverDefers _)
    (by simp [bindsAgain, Step.Between, Operation.Between]) q (ok_of_toOption hq)
  rw [hgeneration, hwaiting] at hlaws
  exact ⟨p, q, ok_of_toOption hp, ok_of_toOption hq, hbound, hlaws.1,
    hlaws.2 willing_neverDefers.counting (by simp [bindsAgain, Step.busy, Operation.busy])⟩

end Process

end Embedder
