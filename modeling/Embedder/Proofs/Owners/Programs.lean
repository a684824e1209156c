import Embedder.Proofs.FatalFailures
import Embedder.Proofs.Owners
import Embedder.Proofs.Survival

/-!
# The owners of shared bindings, over whole runs

A program that hands tickets out, or takes them back, is told by what it makes of the tickets that
are out (`Bridge.Leads`). Under every operation of a process the records go on counting the tickets
in the registry and those in hand, and every binding in hand or on the shelf was made at an earlier
step of the run (`Process.run_owners`).
-/

namespace Embedder

open Scenario

variable {σ α β : Type} {G : Guest σ} {h h' : Host σ} {t : Ticket} {out : List Ticket}
  {B : Binding → Prop}

/-! ## Programs that hand tickets out -/

/-- From a host as `P` says, the program leads to one as `Q` says of what it gave. -/
def Bridge.Leads (x : Bridge σ α) (P : Host σ → Prop) (Q : α → Host σ → Prop) : Prop :=
  ∀ h a h', P h → x.run h = .ok (a, h') → Q a h'

namespace Bridge.Leads

variable {P : Host σ → Prop} {Q : α → Host σ → Prop} {R : β → Host σ → Prop} {x : Bridge σ α}

theorem pure {a : α} (ha : ∀ h, P h → Q a h) : (pure a : Bridge σ α).Leads P Q := by
  intro h b h' hp hr
  obtain ⟨rfl, rfl⟩ := pure_ok hr
  exact ha _ hp

theorem bind {f : α → Bridge σ β} (hx : x.Leads P Q) (hf : ∀ a, (f a).Leads (Q a) R) :
    (x >>= f).Leads P R := by
  intro h b h' hp hr
  obtain ⟨a, h₁, hxr, hrest⟩ := bind_ok hr
  exact hf a h₁ b h' (hx h a h₁ hp hxr) hrest

theorem get {f : Host σ → Bridge σ α} (hf : ∀ s, (f s).Leads (fun h => P h ∧ h = s) Q) :
    (get >>= f).Leads P Q :=
  fun h a h' hp hr => hf h h a h' ⟨hp, rfl⟩ hr

theorem modify {g : Host σ → Host σ} {Q : Unit → Host σ → Prop} (hg : ∀ h, P h → Q () (g h)) :
    (modify g : Bridge σ Unit).Leads P Q := by
  intro h u h' hp hr
  cases hr
  exact hg h hp

theorem mono {P' : Host σ → Prop} {Q' : α → Host σ → Prop} (hx : x.Leads P Q)
    (hP : ∀ h, P' h → P h) (hQ : ∀ a h, Q a h → Q' a h) : x.Leads P' Q' :=
  fun h a h' hp hr => hQ a h' (hx h a h' (hP h hp) hr)

/-- An attempt that failed is not continued. -/
theorem bindAttempt {ε : Type} {y : Attempt σ ε α} {f : α → Attempt σ ε β}
    {Q : Except ε α → Host σ → Prop} {R : Except ε β → Host σ → Prop} (hy : y.run.Leads P Q)
    (hok : ∀ a, (f a).run.Leads (Q (.ok a)) R)
    (herror : ∀ e h, Q (.error e) h → R (.error e) h) : (y >>= f).run.Leads P R := by
  intro h r h' hp hr
  rcases Attempt.bind_cases hr with ⟨e, rfl, hyr⟩ | ⟨a, h₁, hyr, hrest⟩
  · exact herror e h' (hy h _ h' hp hyr)
  · exact hok a h₁ r h' (hy h _ h₁ hp hyr) hrest

theorem lift {ε : Type} {Q : Host σ → Prop} (hx : x.Leads P fun _ => Q) :
    (liftM x : Attempt σ ε α).run.Leads P fun _ => Q := by
  intro h r h' hp hr
  obtain ⟨a, -, hxr⟩ := Attempt.lift_ok hr
  exact hx h a h' hp hxr

end Bridge.Leads

/-- The records of a host count the tickets in its registry and some more. -/
def Host.Accounts (B : Binding → Prop) (out : List Ticket) (h : Host σ) : Prop :=
  h.shelf.Accounts B out

/-- A program that leaves the shelf alone. -/
theorem Bridge.Leads.of_shelf {x : Bridge σ α} (out : List Ticket)
    (hx : ∀ h a h', x.run h = .ok (a, h') → h'.shelf = h.shelf) :
    x.Leads (Host.Accounts B out) fun _ => Host.Accounts B out := by
  intro h a h' ha hr
  show h'.shelf.Accounts B out
  rw [hx h a h' hr]
  exact ha

/-- So do all programs that only look at what stands in the books. -/
theorem Bridge.Leads.of_surviving {x : Bridge σ α} (out : List Ticket)
    (hx : x.Has (Trait.surviving G Standing.shelf)) :
    x.Leads (Host.Accounts B out) fun _ => Host.Accounts B out := by
  refine of_shelf out fun h a h' hr => ?_
  have hsurvives := hx h
  rw [hr] at hsurvives
  cases hsurvives with
  | returned _ _ same => exact same

theorem Bridge.act_leads (f : σ → Effect σ α) (out : List Ticket) :
    (Bridge.act f).Leads (Host.Accounts B out) fun _ => Host.Accounts B out := by
  refine Leads.of_shelf out fun h a h' hr => ?_
  obtain ⟨-, rfl⟩ := act_ok hr
  rfl

theorem Binding.drop_shelf {busy : Bool} {b : Binding} {u : Unit}
    (hr : (b.drop G busy).run h = .ok (u, h')) : h'.shelf = h.shelf := by
  unfold drop at hr
  rw [Bridge.run_get_bind] at hr
  dsimp only at hr
  split at hr
  next =>
    obtain ⟨-, rfl⟩ := Bridge.act_ok hr
    rfl
  next =>
    cases hr
    rfl
  next =>
    cases hr
    rfl

namespace Ticket

/-- A ticket on a known record is one more that is out. -/
theorem clone_leads (t : Ticket) (out : List Ticket) :
    (t.clone).Leads (fun h : Host σ => h.Accounts B out ∧ t ∈ h.shelf.filed ++ out)
      fun t' h => h.Accounts B (t' :: out) := by
  rintro h t' h' ⟨ha, ht⟩ hr
  obtain ⟨s, hs⟩ := ha.known ht
  rw [clone_run_of_known hs] at hr
  cases hr
  refine ha.shared hs (Nat.le_add_left 1 _) ?_ fun t' ht => ?_
  · have hcounted := ha.counted t
    rw [Shelf.owners_of_known hs] at hcounted
    rw [List.count_cons_self]
    omega
  · rw [List.count_cons_of_ne (Ne.symm ht)]

theorem one_le_owners {s : Share} {f : Shelf} (ha : f.Accounts B (t :: out))
    (hs : f.shares.lookup t.serial = some s) :
    s.owners = f.filed.count t + (out.count t + 1) := by
  have hcounted := ha.counted t
  rwa [Shelf.owners_of_known hs, List.count_cons_self] at hcounted

/-- One owner of several goes away. -/
theorem accounts_of_shared {s : Share} (ha : h.Accounts B (t :: out))
    (hs : h.shares.lookup t.serial = some s) (howners : ¬s.owners ≤ 1) :
    Host.Accounts B out { h with
      shares := Shares.set t.serial { s with owners := s.owners - 1 } h.shares } := by
  have hcounted := one_le_owners ha hs
  refine Shelf.Accounts.shared ha hs (by omega) (by omega) fun t' ht => ?_
  rw [List.count_cons_of_ne (Ne.symm ht)]

/-- A ticket that is dropped is not out any more. -/
theorem drop_leads (t : Ticket) (busy : Bool) (out : List Ticket) :
    (t.drop G busy).Leads (Host.Accounts B (t :: out)) fun _ => Host.Accounts B out := by
  intro h u h' ha hr
  obtain ⟨s, hs⟩ := Shelf.Accounts.known ha (List.mem_append_right _ (List.mem_cons_self ..))
  by_cases howners : s.owners ≤ 1
  · rw [drop_run_of_last busy hs howners] at hr
    show h'.shelf.Accounts B out
    rw [Binding.drop_shelf hr]
    exact Shelf.Accounts.ended ha hs howners
  · rw [drop_run_of_shared busy hs (by omega)] at hr
    cases hr
    exact accounts_of_shared ha hs howners

/-- A call reads the record of a ticket and leaves it alone. -/
theorem call_leads {E : Encoder σ α} {D : Decoder σ β}
    (hE : E.Has (Trait.surviving G Standing.shelf)) (hD : D.Has (Trait.surviving G Standing.shelf))
    (t : Ticket) (args : List α) (out : List Ticket) :
    (t.call G E D args).run.Leads (Host.Accounts B out) fun _ => Host.Accounts B out := by
  unfold call
  refine Bridge.Leads.bindAttempt (Q := fun _ => Host.Accounts B out) ?_ (fun s => ?_)
    fun _ _ ha => ha
  · exact (Bridge.Leads.of_shelf out fun h a h' hr => by cases hr; rfl).lift
  · cases s with
    | none => exact Bridge.Leads.pure fun _ ha => ha
    | some s =>
      exact Bridge.Leads.of_surviving out
        (Binding.callAs_has (Trait.surviving_sessional G Standing.shelf) hE hD s.binding args)

end Ticket

namespace Registry

theorem letGoOne_leads (t : Ticket) (out : List Ticket) :
    (letGoOne G t).Leads (Host.Accounts B (t :: out)) fun _ => Host.Accounts B out := by
  intro h u h' ha hr
  obtain ⟨s, hs⟩ := Shelf.Accounts.known ha (List.mem_append_right _ (List.mem_cons_self ..))
  have hfound : h.shares.lookup t.serial = some s := hs
  unfold letGoOne at hr
  rw [Bridge.run_bind (Ticket.share?_run t h), hfound] at hr
  dsimp only at hr
  split at hr
  next howners =>
    rw [Bridge.run_bind (Ticket.removeShare_run t h)] at hr
    obtain ⟨-, rfl⟩ := Bridge.act_ok hr
    exact Shelf.Accounts.ended ha hs howners
  next howners =>
    cases hr
    exact Ticket.accounts_of_shared ha hs howners

theorem letGo_leads (out : List Ticket) : ∀ entries : List (Int × Ticket),
    (letGo G entries).Leads (Host.Accounts B (entries.map (·.2) ++ out))
      fun _ => Host.Accounts B out := by
  intro entries
  induction entries with
  | nil => exact Bridge.Leads.pure fun _ ha => ha
  | cons e rest ih =>
    unfold letGo
    exact (letGoOne_leads e.2 _).bind fun _ => ih

/-- The entries of a registry that goes away are out for a moment, and then they are let go. -/
theorem destroy_leads (out : List Ticket) :
    (destroy G).Leads (Host.Accounts B out) fun _ => Host.Accounts B out := by
  refine Bridge.Leads.get fun s => ?_
  cases hr : s.registry with
  | none => exact Bridge.Leads.pure fun h ha => ha.1
  | some r =>
    refine Bridge.Leads.bind (Q := fun _ => Host.Accounts B (r.entries.map (·.2) ++ out)) ?_ fun _ => ?_
    · refine Bridge.Leads.modify ?_
      rintro h ⟨ha, rfl⟩
      refine Shelf.Accounts.withdrawn ha ((Shelf.Changes.closed h.shelf).orderly ha.toOrderly)
        (fun _ hnone => by cases hnone) ?_
      unfold Shelf.filed
      rw [show h.shelf.registry = some r from hr]
      exact List.Perm.refl _
    · refine (letGo_leads out r.entries).bind fun _ => ?_
      split
      next => exact Bridge.Leads.modify fun _ ha => ha
      next => exact Bridge.Leads.pure fun _ ha => ha

/-- A binding that is refused is dropped. -/
theorem insert_leads {b : Binding} (hb : B b) (out : List Ticket) :
    (insert G b).run.Leads (Host.Accounts B out) fun _ => Host.Accounts B out := by
  have refused : ∀ {f : Failure} {h h' : Host σ} {x : Except Failure Int}, h.Accounts B out →
      (b.drop G false >>= fun _ => pure (.error f)).run h = .ok (x, h') → h'.Accounts B out := by
    intro f h h' x ha hr
    obtain ⟨u, h₁, hdrop, hp⟩ := Bridge.bind_ok hr
    obtain ⟨rfl, rfl⟩ := Bridge.pure_ok hp
    show h'.shelf.Accounts B out
    rw [Binding.drop_shelf hdrop]
    exact ha
  intro h x h' ha hr
  cases hreg : h.registry with
  | none =>
    rw [insert_run_of_closed hreg] at hr
    exact refused ha hr
  | some r =>
    by_cases hid : r.nextId < idBound
    · rw [insert_run_of_open _ hreg hid] at hr
      cases hr
      exact Shelf.Accounts.inserted ha hreg hb
    · change (get >>= _ : Bridge σ _).run h = _ at hr
      rw [Bridge.run_get_bind, hreg] at hr
      dsimp only at hr
      rw [if_neg hid] at hr
      exact refused ha hr

/-- The tickets that are out after an attempt to get one. -/
def withTicket (out : List Ticket) : Except Failure Ticket → List Ticket
  | .ok t => t :: out
  | .error _ => out

theorem mem_filed {r : Registry} {id : Int} (hr : h.registry = some r)
    (hid : r.entries.lookup id = some t) : t ∈ h.shelf.filed := by
  unfold Shelf.filed
  rw [show h.shelf.registry = some r from hr]
  obtain ⟨_, _, hentries, -⟩ := List.lookup_eq_some_iff.mp hid
  show t ∈ r.entries.map (·.2)
  simp [hentries]

theorem find_leads (id : Int) (out : List Ticket) :
    (find id : Attempt σ Failure Ticket).run.Leads (Host.Accounts B out)
      fun x => Host.Accounts B (withTicket out x) := by
  intro h x h' ha hr
  cases hreg : h.registry with
  | none =>
    rw [find_barred hreg id] at hr
    cases hr
    exact ha
  | some r =>
    cases hid : r.entries.lookup id with
    | none =>
      rw [find_run_of_unknown hreg hid] at hr
      cases hr
      exact ha
    | some t =>
      unfold find at hr
      rw [whileOpen_run_of_open hreg, hid] at hr
      obtain ⟨t', rfl, hclone⟩ := Attempt.lift_ok hr
      exact Ticket.clone_leads t out h t' h'
        ⟨ha, List.mem_append_left _ (mem_filed hreg hid)⟩ hclone

theorem remove_leads (id : Int) (out : List Ticket) :
    (remove id : Attempt σ Failure Ticket).run.Leads (Host.Accounts B out)
      fun x => Host.Accounts B (withTicket out x) := by
  intro h x h' ha hr
  rcases remove_ok hr with ⟨r, t, hreg, hid, rfl, rfl⟩ | ⟨⟨f, rfl⟩, rfl⟩
  · have hnumbered := Shelf.Accounts.numbered ha r hreg
    refine Shelf.Accounts.withdrawn (l := [t]) ha
      ((Shelf.Changes.removed h.shelf hreg id).orderly ha.toOrderly) ?_ ?_
    · rintro r' hr'
      cases hr'
      exact hnumbered.remove id
    · unfold Shelf.filed
      rw [show h.shelf.registry = some r from hreg]
      exact hnumbered.perm_filter hid
  · exact ha

theorem size_leads (out : List Ticket) :
    (size : Attempt σ Failure Nat).run.Leads (Host.Accounts B out) fun _ => Host.Accounts B out := by
  intro h x h' ha hr
  obtain ⟨x', hsize⟩ := size_run h
  rw [hsize] at hr
  cases hr
  exact ha

end Registry

/-! ## Bindings that are made -/

/-- A bind at this host makes the binding, whatever the last errors are. -/
def Binding.MadeAt (G : Guest σ) (b : Binding) (h : Host σ) : Prop :=
  ∃ moduleName function e h',
    (bind G moduleName function).run.run { h with lastErrors := e } = .ok (.ok b, h')

/-- The records count the tickets that are out, an interpreter that does not run has no registry,
and what a bind makes may be put on the shelf. -/
structure Host.Ready (G : Guest σ) (B : Binding → Prop) (out : List Ticket) (h : Host σ) : Prop where
  accounts : h.Accounts B out
  closed : h.lifecycle.stage ≠ .running → h.registry = none
  made : ∀ b : Binding, b.MadeAt G h → B b

theorem Host.Ready.tell (hr : h.Ready G B out) (e : LastErrors) :
    Host.Ready G B out { h with lastErrors := e } :=
  ⟨hr.accounts, hr.closed, hr.made⟩

/-- A program that the accounts are enough for. -/
theorem Bridge.Leads.ready {x : Bridge σ α} {Q : α → Host σ → Prop}
    (hx : x.Leads (Host.Accounts B out) Q) : x.Leads (Host.Ready G B out) Q :=
  hx.mono (fun _ hr => hr.accounts) fun _ _ hq => hq

theorem Binding.bind_leads (moduleName function : String) (out : List Ticket) :
    (bind G moduleName function).run.Leads (Host.Ready G B out)
      fun r h => h.Accounts B out ∧ ∀ b, r = .ok b → B b := by
  intro h r h' hready hr
  refine ⟨?_, fun b hb => ?_⟩
  · exact Bridge.Leads.of_surviving out
      (bind_has (Trait.surviving_sessional G Standing.shelf) moduleName function) h r h'
      hready.accounts hr
  · subst hb
    exact hready.made b ⟨moduleName, function, h.lastErrors, h', hr⟩

namespace Interpreter

variable {thread : ThreadId} {config : Config}

theorem turn_leads (f : Lifecycle → Lifecycle) (out : List Ticket) :
    (modify fun h => { h with lifecycle := f h.lifecycle } : Bridge σ Unit).Leads
      (Host.Accounts B out) fun _ => Host.Accounts B out :=
  Bridge.Leads.modify fun h ha => Shelf.Accounts.turn ha (f h.lifecycle)

theorem warnIf_leads (b : Bool) (message : String) (out : List Ticket) :
    (Bridge.warnIf b message : Bridge σ Unit).Leads (Host.Accounts B out)
      fun _ => Host.Accounts B out := by
  intro h u h' ha hr
  rw [warnIf_run] at hr
  cases hr
  exact ha

theorem finalize_leads (life : Lifecycle) (out : List Ticket) :
    (finalize G life thread).Leads (Host.Accounts B out) fun _ => Host.Accounts B out := by
  unfold finalize
  refine (turn_leads (fun l => { l with starter := none }) out).bind fun _ => ?_
  refine (warnIf_leads _ _ out).bind fun _ => ?_
  refine (Bridge.act_leads G.shutdown out).bind fun flushed => ?_
  refine (turn_leads (fun l => { l with stage := .finalized }) out).bind fun _ => ?_
  refine (warnIf_leads _ _ out).bind fun _ => ?_
  exact Bridge.Leads.modify fun _ ha => ha

theorem settle_leads (busy : Bool) (generation : Nat) (out : List Ticket) : ∀ ks : List Kept,
    (Session.settle G busy generation ks).Leads (Host.Accounts B out) fun _ => Host.Accounts B out := by
  intro ks
  induction ks with
  | nil => exact Bridge.Leads.pure fun _ ha => ha
  | cons k rest ih =>
    unfold Session.settle
    refine Bridge.Leads.bind (Q := fun _ => Host.Accounts B out) ?_ fun _ => ih
    unfold Session.settleOne
    split
    next => exact Bridge.act_leads _ out
    next => exact Bridge.Leads.pure fun _ ha => ha

theorem stop_leads (out : List Ticket) :
    (stop G thread).run.Leads (Host.Accounts B out) fun _ => Host.Accounts B out := by
  have emptied : ∀ generation, (letGoOfAll G generation).Leads (Host.Accounts B out)
      fun _ => Host.Accounts B out := by
    intro generation
    refine (Registry.destroy_leads out).bind fun _ => Bridge.Leads.get fun s => ?_
    refine Bridge.Leads.bind (Q := fun _ => Host.Accounts B out) ?_ fun _ => settle_leads _ _ out _
    exact Bridge.Leads.modify fun _ ha => ha.1
  intro h r h' ha hr
  by_cases hs : h.lifecycle.stage = .running
  · unfold stop at hr
    rw [Attempt.run_get_bind] at hr
    dsimp only at hr
    rw [if_neg fun hne => hne hs] at hr
    have hfirst := (emptied h.lifecycle.generation).lift (ε := Failure)
    exact hfirst.bindAttempt (fun _ => (finalize_leads _ out).lift) (fun _ _ ha => ha) h r h' ha hr
  · rw [stop_run_of_not_running hs] at hr
    cases hr
    exact ha

/-- Whoever comes up finds no registry, so it begins with an empty one. -/
theorem launched_accounts (ha : h.Accounts B out) (hl : launches G config h = true)
    (hclosed : h.lifecycle.stage ≠ .running → h.registry = none) :
    (launched G thread config h).Accounts B out := by
  have hnone : h.shelf.registry = none := hclosed (launches_stage hl)
  have hopened := (Shelf.Changes.opened h.shelf).orderly ha.toOrderly
  refine Shelf.Accounts.turn (f := { h.shelf with registry := some Registry.empty })
    ⟨hopened, fun r hr => ?_, ha.bindings, fun t => ?_⟩ ⟨.running, h.lifecycle.generation + 1, some thread⟩
  · cases hr
    exact Registry.numbered_empty
  · have hcounted := ha.counted t
    unfold Shelf.filed at hcounted ⊢
    rw [hnone] at hcounted
    exact hcounted

theorem launch_leads (config : Config) (out : List Ticket) :
    (launch G thread config).run.Leads (Host.Ready G B out) fun _ => Host.Accounts B out := by
  intro h r h' hready hr
  cases hl : launches G config h with
  | true =>
    rw [launch_run_of_launches thread hl] at hr
    cases hr
    exact launched_accounts hready.accounts hl hready.closed
  | false =>
    obtain ⟨f, h₁, hrun, hstand⟩ := launch_run_of_not_launches thread hl
    rw [hrun] at hr
    cases hr
    show h'.shelf.Accounts B out
    rw [show h'.shelf = h.shelf from congrArg Standing.shelf hstand]
    exact hready.accounts

theorem start_leads (config : Config) (out : List Ticket) :
    (start G thread config).run.Leads (Host.Ready G B out) fun _ => Host.Accounts B out := by
  refine Bridge.Leads.bindAttempt (launch_leads config out) (fun _ => ?_) fun _ _ ha => ha
  exact Bridge.Leads.of_surviving out
    (appendPaths_has (Trait.surviving_sessional G Standing.shelf) config.searchPaths)

theorem installLog_leads (level : Log.Level) (out : List Ticket) :
    (installLog level : Bridge σ Bool).Leads (Host.Accounts B out) fun _ => Host.Accounts B out := by
  refine Bridge.Leads.get fun s => ?_
  split
  next => exact Bridge.Leads.pure fun _ ha => ha.1
  next =>
    refine Bridge.Leads.bind (Q := fun _ => Host.Accounts B out) ?_
      fun _ => Bridge.Leads.pure fun _ ha => ha
    exact Bridge.Leads.modify fun _ ha => ha.1

end Interpreter

/-! ## Operations -/

/-- What an operation gives is wrapped. -/
theorem Bridge.Leads.wrap {x : Bridge σ α} {P R : Host σ → Prop} (hx : x.Leads P fun _ => R)
    (f : α → β) : (x >>= fun a => Pure.pure (f a) : Bridge σ β).Leads P fun _ => R :=
  hx.bind fun _ => pure fun _ hr => hr

/-- An operation that looks only at what stands in the books. -/
theorem Bridge.Leads.told {x : Bridge σ α} (out : List Ticket)
    (hx : x.Has (Trait.surviving G Standing.shelf)) (f : α → β) :
    (x >>= fun a => Pure.pure (f a) : Bridge σ β).Leads (Host.Ready G B out)
      fun _ => Host.Accounts B out :=
  (of_surviving out hx).ready.wrap f

namespace Operation

/-- The tickets in hand after the answer to an operation are those that are out. -/
theorem answer_leads (op : Operation) {c : Caller} (hc : ∀ b ∈ c.bindings, B b) :
    (op.answer G c).Leads (Host.Ready G B c.tickets) fun a h => h.Accounts B (c.after op a).tickets := by
  have hS := Trait.surviving_sessional G Standing.shelf
  have hl := hS.toLawful
  have nothing : ∀ {a : Answer}, (pure a : Bridge σ Answer).Leads (Host.Ready G B c.tickets)
      fun _ => Host.Accounts B c.tickets := Bridge.Leads.pure fun _ hr => hr.accounts
  cases op with
  | launch thread config => exact (Interpreter.launch_leads config c.tickets).wrap _
  | start thread config => exact (Interpreter.start_leads config c.tickets).wrap _
  | stop thread => exact (Interpreter.stop_leads c.tickets).ready.wrap _
  | appendPath path => exact Bridge.Leads.told c.tickets (Interpreter.appendPath_has hS path) _
  | setPrinting enabled =>
    have printed : (Interpreter.setPrinting enabled : Bridge σ Unit).Leads
        (Host.Ready G B c.tickets) fun _ => Host.Accounts B c.tickets :=
      Bridge.Leads.modify fun _ hr => hr.accounts
    exact printed.wrap _
  | installLog level => exact (Interpreter.installLog_leads level c.tickets).ready.wrap _
  | callFunction moduleName function args result =>
    exact Bridge.Leads.told c.tickets
      (callFunction_has hS (encoder_has hl _) (decoder_has hl _) _ _ _) _
  | bind moduleName function =>
    have hmade := Bridge.Leads.told (B := B) c.tickets (Binding.bind_has hS moduleName function)
      Answer.binding
    refine hmade.mono (fun _ hr => hr) fun a h ha => ?_
    cases a with
    | binding r => cases r <;> exact ha
    | _ => exact ha
  | callBinding i args result =>
    simp only [answer]
    cases c.bindings[i]? with
    | none => exact nothing
    | some b =>
      exact Bridge.Leads.told c.tickets
        (Binding.callAs_has hS (encoder_has hl _) (decoder_has hl _) b _) _
  | dropBinding busy i =>
    simp only [answer]
    cases c.bindings[i]? with
    | none => exact nothing
    | some b =>
      have dropped : (b.drop G busy).Leads (Host.Accounts B c.tickets)
          fun _ => Host.Accounts B c.tickets :=
        Bridge.Leads.of_shelf c.tickets fun _ _ _ hr => Binding.drop_shelf hr
      exact dropped.ready.wrap _
  | insert i =>
    simp only [answer]
    cases hi : c.bindings[i]? with
    | none => exact nothing
    | some b =>
      have inserted := Registry.insert_leads (G := G) (hc b (List.mem_of_getElem? hi)) c.tickets
      exact inserted.ready.bind fun r => Bridge.Leads.get fun s => Bridge.Leads.pure fun _ ha => ha.1
  | find id =>
    have found := Registry.find_leads (σ := σ) (B := B) id c.tickets
    refine found.ready.bind fun r => Bridge.Leads.pure fun h ha => ?_
    cases r with
    | ok t => exact Shelf.Accounts.perm ha (List.perm_append_singleton t c.tickets).symm
    | error f => exact ha
  | remove id =>
    have removed := Registry.remove_leads (σ := σ) (B := B) id c.tickets
    refine removed.ready.bind fun r => Bridge.Leads.get fun s => Bridge.Leads.pure fun h ha => ?_
    cases r with
    | ok t => exact Shelf.Accounts.perm ha.1 (List.perm_append_singleton t c.tickets).symm
    | error f => exact ha.1
  | size => exact (Registry.size_leads c.tickets).ready.wrap _
  | callTicket i args result =>
    simp only [answer]
    cases c.tickets[i]? with
    | none => exact nothing
    | some t =>
      exact (t.call_leads (encoder_has hl _) (decoder_has hl _) args.values c.tickets).ready.wrap _
  | cloneTicket i =>
    simp only [answer]
    cases hi : c.tickets[i]? with
    | none => exact Bridge.Leads.pure fun _ hr => hr.accounts
    | some t =>
      have cloned := t.clone_leads (σ := σ) (B := B) c.tickets
      refine Bridge.Leads.bind (cloned.mono (fun h hr => ⟨hr.accounts, ?_⟩) fun _ _ ha => ha)
        fun t' => Bridge.Leads.pure fun _ ha => ?_
      · exact List.mem_append_right _ (List.mem_of_getElem? hi)
      · exact Shelf.Accounts.perm ha (List.perm_append_singleton t' c.tickets).symm
  | dropTicket busy i =>
    simp only [answer]
    cases hi : c.tickets[i]? with
    | none =>
      refine Bridge.Leads.pure fun _ hr => ?_
      show Host.Accounts B (c.tickets.eraseIdx i) _
      rw [eraseIdx_of_none hi]
      exact hr.accounts
    | some t =>
      have dropped := t.drop_leads (G := G) (B := B) busy (c.tickets.eraseIdx i)
      refine Bridge.Leads.wrap (dropped.mono (fun h hr => ?_) fun _ _ ha => ha) _
      obtain ⟨hlt, rfl⟩ := List.getElem?_eq_some_iff.mp hi
      exact Shelf.Accounts.perm hr.accounts (List.getElem_cons_eraseIdx_perm hlt).symm
  | session tasks => exact Bridge.Leads.told c.tickets (Task.sessionAnswers_has hS tasks) _

/-- What an operation puts into the hands of its caller was there, or is made by it. -/
theorem after_bindings {op : Operation} {c : Caller} {a : Answer} {b : Binding}
    (ha : (op.answer G c).run h = .ok (a, h')) (hb : b ∈ (c.after op a).bindings) :
    b ∈ c.bindings ∨ b.MadeAt G h := by
  cases op with
  | bind moduleName function =>
    obtain ⟨r, h₁, hbind, hp⟩ := Bridge.bind_ok ha
    obtain ⟨rfl, rfl⟩ := Bridge.pure_ok hp
    cases r with
    | error f => exact .inl hb
    | ok made =>
      rcases List.mem_append.mp hb with hb | hb
      · exact .inl hb
      · rw [List.mem_singleton.mp hb]
        exact .inr ⟨moduleName, function, h.lastErrors, h', hbind⟩
  | dropBinding busy i => exact .inl (List.mem_of_mem_eraseIdx hb)
  | insert i => exact .inl (List.mem_of_mem_eraseIdx hb)
  | find id =>
    cases a with
    | ticket r => cases r <;> exact .inl hb
    | _ => exact .inl hb
  | remove id =>
    cases a with
    | removed r generation => cases r <;> exact .inl hb
    | _ => exact .inl hb
  | cloneTicket i =>
    cases a with
    | ticket r => cases r <;> exact .inl hb
    | _ => exact .inl hb
  | _ => exact .inl hb

end Operation

/-! ## The C interface -/

namespace CInterface

variable {thread : ThreadId}

/-- The last errors have no part in the accounts. -/
theorem answer_leads {body : Attempt σ Failure α}
    (hbody : body.run.Leads (Host.Ready G B out) fun _ => Host.Accounts B out) :
    (answer thread body).Leads (Host.Ready G B out) fun _ => Host.Accounts B out := by
  unfold answer
  refine Bridge.Leads.bind (Q := fun _ => Host.Ready G B out) ?_ fun _ => hbody.bind fun r => ?_
  · exact Bridge.Leads.modify fun h hr => hr.tell _
  · cases r with
    | ok a => exact Bridge.Leads.pure fun _ ha => ha
    | error f =>
      exact Bridge.Leads.wrap (Bridge.Leads.modify (Q := fun _ => Host.Accounts B out) fun _ ha => ha) _

theorem check_leads {checks : Except Failure α} {body : α → Attempt σ Failure β}
    (hbody : ∀ a, (body a).run.Leads (Host.Ready G B out) fun _ => Host.Accounts B out) :
    (check checks >>= body).run.Leads (Host.Ready G B out) fun _ => Host.Accounts B out :=
  Bridge.Leads.bindAttempt (Q := fun _ => Host.Ready G B out) (Bridge.Leads.pure fun _ hr => hr)
    hbody fun _ _ hr => hr.accounts

/-- A program that looks only at what stands in the books. -/
theorem ready_of_surviving {body : Attempt σ Failure α} (out : List Ticket)
    (hbody : body.Has (Trait.surviving G Standing.shelf)) :
    body.run.Leads (Host.Ready G B out) fun _ => Host.Accounts B out :=
  (Bridge.Leads.of_surviving out hbody).ready

/-- What is made is inserted. -/
theorem bindNew_leads (moduleName function : String) (out : List Ticket) :
    (Registry.bindNew G moduleName function).run.Leads (Host.Ready G B out)
      fun _ => Host.Accounts B out := by
  refine Bridge.Leads.bindAttempt (Binding.bind_leads moduleName function out) (fun b => ?_)
    fun _ _ hq => hq.1
  rintro h x h' ⟨ha, hb⟩ hr
  exact Registry.insert_leads (hb b rfl) out h x h' ha hr

/-- The ticket that a call finds is dropped after it. -/
theorem findAndCall_leads {E : Encoder σ α} {D : Decoder σ β}
    (hE : E.Has (Trait.surviving G Standing.shelf)) (hD : D.Has (Trait.surviving G Standing.shelf))
    (id : Int) (args : List α) (out : List Ticket) :
    (Registry.findAndCall G E D id args).run.Leads (Host.Ready G B out)
      fun _ => Host.Accounts B out := by
  refine Bridge.Leads.bindAttempt (Registry.find_leads id out).ready (fun t => ?_) fun _ _ ha => ha
  refine (t.call_leads hE hD args (t :: out)).bind fun r => ?_
  exact (t.drop_leads false out).wrap fun _ => r

theorem unbind_leads (id : Int) (out : List Ticket) :
    (unbind G thread id).Leads (Host.Ready G B out) fun _ => Host.Accounts B out := by
  refine answer_leads ?_
  refine Bridge.Leads.bindAttempt (Registry.remove_leads id out).ready (fun t => ?_)
    fun _ _ ha => ha
  exact (t.drop_leads false out).lift

theorem bindingCount_leads (out : List Ticket) :
    (bindingCount thread : Bridge σ Int).Leads (Host.Accounts B out) fun _ => Host.Accounts B out := by
  refine Bridge.Leads.bind (Q := fun _ => Host.Accounts B out) (Bridge.Leads.modify fun _ ha => ha)
    fun _ => (Registry.size_leads out).bind fun r => ?_
  cases r with
  | ok n => exact Bridge.Leads.pure fun _ ha => ha
  | error f =>
    exact Bridge.Leads.wrap (Bridge.Leads.modify (Q := fun _ => Host.Accounts B out) fun _ ha => ha) _

end CInterface

/-- A call of the C interface hands no ticket out. -/
theorem Scenario.InterfaceCall.perform_leads (call : InterfaceCall) {thread : ThreadId}
    (out : List Ticket) :
    (call.perform G thread).Leads (Host.Ready G B out) fun _ => Host.Accounts B out := by
  have hS := Trait.surviving_sessional G Standing.shelf
  have hl := hS.toLawful
  have looked : ∀ {α : Type} {f : Host σ → α}, (get >>= fun h => pure (f h) : Bridge σ α).Leads
      (Host.Ready G B out) fun _ => Host.Accounts B out := fun {_ _} =>
    Bridge.Leads.get fun _ => Bridge.Leads.pure fun _ hr => hr.1.accounts
  cases call with
  | start e => exact (CInterface.answer_leads (Interpreter.start_leads _ out)).wrap _
  | startWithConfig json =>
    simp only [perform, statusOf, CInterface.startWithConfig_eq]
    refine (CInterface.answer_leads ?_).wrap _
    exact CInterface.check_leads fun config => Interpreter.start_leads config out
  | stop => exact (CInterface.answer_leads (Interpreter.stop_leads out).ready).wrap _
  | state => exact (looked.wrap _).wrap _
  | appendPath path =>
    simp only [perform, statusOf, CInterface.appendPath_eq]
    refine (CInterface.answer_leads ?_).wrap _
    exact CInterface.check_leads fun path =>
      CInterface.ready_of_surviving out (Interpreter.appendPath_has hS path)
  | initLog verbosity =>
    refine Bridge.Leads.wrap ((Interpreter.installLog_leads _ out).ready.bind fun b => ?_) _
    split
    next => exact Bridge.Leads.pure fun _ ha => ha
    next => exact Bridge.Leads.pure fun _ ha => ha
  | callFunction moduleName function values output =>
    simp only [perform, resultOf, CInterface.callFunction_eq]
    refine Bridge.Leads.wrap (CInterface.answer_leads ?_) _
    refine CInterface.check_leads fun x => CInterface.ready_of_surviving out ?_
    exact callFunction_has hS (Scalar.encodeFloat_has hl) (Scalar.decodeInt_has hl) _ _ _
  | bind moduleName function output =>
    simp only [perform, CInterface.bind_eq]
    refine Bridge.Leads.wrap (CInterface.answer_leads ?_) _
    exact CInterface.check_leads fun x => CInterface.bindNew_leads x.1 x.2 out
  | callBound id values output =>
    simp only [perform, resultOf, CInterface.callBound_eq]
    refine Bridge.Leads.wrap (CInterface.answer_leads ?_) _
    exact CInterface.check_leads fun xs => CInterface.findAndCall_leads
      (Scalar.encodeFloat_has hl) (Scalar.decodeInt_has hl) id xs out
  | unbind id => exact (CInterface.unbind_leads id out).wrap _
  | bindingCount => exact (CInterface.bindingCount_leads out).ready.wrap _
  | liveHandles => exact looked.wrap _
  | lastError => exact Bridge.Leads.pure fun _ hr => hr.accounts
  | clearLastError => exact Bridge.Leads.wrap (Bridge.Leads.modify fun _ hr => hr.accounts) _
  | setLastError text => exact Bridge.Leads.wrap (Bridge.Leads.modify fun _ hr => hr.accounts) _

/-! ## Steps and runs -/

namespace Process

variable {p p' : Process σ}

/-- What is in hand and on the shelf is as `B` says, and the records count the tickets in the
registry and in hand. -/
structure Owns (B : Binding → Prop) (p : Process σ) : Prop where
  held : ∀ b ∈ p.caller.bindings, B b
  accounts : p.host.Accounts B p.caller.tickets

theorem step_owns {s : Step σ} (hsound : p.Sound) (hp : p.Owns B)
    (hmade : ∀ b : Binding, b.MadeAt G p.host → B b) (hs : p.step G s = .ok p') : p'.Owns B := by
  have hready : p.host.Ready G B p.caller.tickets := by
    refine ⟨hp.accounts, fun hstage => ?_, hmade⟩
    rw [← Option.not_isSome_iff_eq_none]
    exact fun hopen => hstage (hsound.lifecycle.registry.mpr hopen)
  cases s with
  | perform op =>
    obtain ⟨_, htell⟩ := tell_of_step hs
    obtain ⟨a, ha, -, hcaller, -⟩ := tell_perform_ok htell
    refine ⟨fun b hb => ?_, ?_⟩
    · rw [hcaller] at hb
      rcases Operation.after_bindings ha hb with hb | hb
      · exact hp.held b hb
      · exact hmade b hb
    · rw [hcaller]
      exact op.answer_leads hp.held p.host a p'.host hready ha
  | interface thread call =>
    obtain ⟨_, htell⟩ := tell_of_step hs
    obtain ⟨_, _, -, -, hcaller, -⟩ := tell_interface_ok htell
    obtain ⟨v, hcall, -⟩ := step_interface_ok hs
    refine ⟨?_, ?_⟩
    · rw [hcaller]
      exact hp.held
    · rw [hcaller]
      exact call.perform_leads _ p.host v p'.host hready hcall
  | outside f =>
    cases hs
    exact ⟨hp.held, hp.accounts⟩

/-- A step of the run begins at a host where a bind makes the binding. -/
def MadeOn (G : Guest σ) (steps : List (Step σ)) (p : Process σ) (b : Binding) : Prop :=
  ∃ before s after q, steps = before ++ s :: after ∧ p.run G before = .ok q ∧ b.MadeAt G q.host

theorem MadeOn.cons {s : Step σ} {rest : List (Step σ)} {b : Binding} (hs : p.step G s = .ok p')
    (hb : p'.MadeOn G rest b) : p.MadeOn G (s :: rest) b := by
  obtain ⟨before, t, after, q, rfl, hrun, hmade⟩ := hb
  refine ⟨s :: before, t, after, q, rfl, ?_, hmade⟩
  simp only [run, hs]
  exact hrun

/-- By induction on the run: the bindings that a step adds are made where it begins. -/
theorem run_owns : ∀ {steps : List (Step σ)} {p : Process σ}, p.Sound → p.Owns B →
    (∀ b, p.MadeOn G steps b → B b) → p.run G steps = .ok p' → p'.Owns B := by
  intro steps
  induction steps with
  | nil =>
    intro p _ hp _ hr
    cases hr
    exact hp
  | cons s rest ih =>
    intro p hsound hp hmade hr
    obtain ⟨p₁, hs, hrest⟩ := run_cons_ok hr
    have hfirst : ∀ b : Binding, b.MadeAt G p.host → B b :=
      fun b hb => hmade b ⟨[], s, rest, p, rfl, rfl, hb⟩
    exact ih (step_sound hsound hs) (step_owns hsound hp hfirst hs)
      (fun b hb => hmade b (hb.cons hs)) hrest

theorem fresh_owns (world : σ) : (fresh world).Owns B where
  held := by simp [fresh]
  accounts := {
    toOrderly := fresh_orderly world
    numbered := fun r hr => by cases hr
    bindings := fun e he => by cases he
    counted := fun t => rfl }

/-- **Whose the bindings are.** At the end of a run, every binding in hand or on the shelf was made
where a step of the run began, and the records count the tickets in the registry and in hand. -/
theorem run_owners {world : σ} {steps : List (Step σ)} (hr : (fresh world).run G steps = .ok p) :
    p.Owns ((fresh world).MadeOn G steps) :=
  run_owns (fresh_sound world) (fresh_owns world) (fun _ hb => hb) hr

end Process

end Embedder
