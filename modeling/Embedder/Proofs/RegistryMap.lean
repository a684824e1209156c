import Embedder.Proofs.BindingScope
import Embedder.Proofs.InterfaceRefinement
import Embedder.Proofs.Willing

/-!
# The registry is a map with fresh ids

A host can keep a roll of one generation: the bindings that were entered, in their order, and the
ids that were struck out (`Roll`). What it notes down it reads off its own steps and their answers
(`Step.filing?`), and a start that gets through begins a new roll. The registry then answers as the
roll says and in no other way: the binding that was entered as the n-th has the id n, whatever was
struck out in between, and it is found there until its id is struck out.

The registry holds tickets, not bindings, so the invariant (`Roll.Shown`) goes through the records
behind them: its entries, with the binding that each ticket is on, are the entries of the roll.
-/

namespace Embedder

open Scenario

variable {σ α β : Type} {G : Guest σ} {h h' : Host σ} {id : Int} {b : Binding}

/-! ## Rolls -/

/-- The bindings that were entered, the first one first, and the ids that were struck out. -/
structure Roll where
  entered : List Binding
  struck : List Int

/-- What can be noted down on a roll. -/
inductive Filing where
  | entered (b : Binding)
  | struck (id : Int)

namespace Roll

def empty : Roll := ⟨[], []⟩

/-- The roll after something was noted down, if anything was. -/
def after (l : Roll) : Option Filing → Roll
  | none => l
  | some (.entered b) => { l with entered := l.entered ++ [b] }
  | some (.struck id) => { l with struck := l.struck ++ [id] }

/-- The id that the next binding gets: ids count up from one. -/
def nextId (l : Roll) : Int := l.entered.length + 1

/-- The binding was entered under the id, and the id was not struck out. -/
def Holds (l : Roll) (id : Int) (b : Binding) : Prop :=
  id ∉ l.struck ∧ ∃ n : Nat, id = n + 1 ∧ l.entered[n]? = some b

/-- How many ids were given and not struck out. -/
def size (l : Roll) : Nat :=
  (List.range l.entered.length).countP fun n : Nat => decide ((n + 1 : Int) ∉ l.struck)

/-- The bindings that are not struck out, with their ids. -/
def entries (l : Roll) : List (Int × Binding) :=
  (l.entered.mapIdx fun n b => ((n + 1 : Int), b)).filter fun e => decide (e.1 ∉ l.struck)

variable {l : Roll}

theorem mem_entries : (id, b) ∈ l.entries ↔ l.Holds id b := by
  unfold entries Holds
  rw [List.mem_filter, decide_eq_true_eq, List.mem_mapIdx, and_comm]
  refine and_congr_right fun _ => ?_
  constructor
  · rintro ⟨n, hn, heq⟩
    obtain ⟨rfl, rfl⟩ := Prod.mk.inj heq
    exact ⟨n, rfl, List.getElem?_eq_getElem hn⟩
  · rintro ⟨n, rfl, hb⟩
    obtain ⟨hn, rfl⟩ := List.getElem?_eq_some_iff.mp hb
    exact ⟨n, hn, rfl⟩

theorem Holds.lt (hid : l.Holds id b) : id < l.nextId := by
  obtain ⟨-, n, rfl, hb⟩ := hid
  obtain ⟨hn, -⟩ := List.getElem?_eq_some_iff.mp hb
  unfold nextId
  omega

theorem length_entries (l : Roll) : l.entries.length = l.size := by
  have hkeys : (l.entered.mapIdx fun n b => ((n + 1 : Int), b)).map Prod.fst =
      (List.range l.entered.length).map fun n : Nat => (n + 1 : Int) := by
    refine List.ext_getElem (by simp) fun n _ _ => ?_
    simp
  calc l.entries.length
      = ((l.entered.mapIdx fun n b => ((n + 1 : Int), b)).map Prod.fst).countP
          fun i => decide (i ∉ l.struck) := by
        rw [List.countP_map, List.countP_eq_length_filter]
        rfl
    _ = l.size := by
        rw [hkeys, List.countP_map]
        rfl

/-- A new id was never struck out. -/
theorem entries_entered (hpast : ∀ i ∈ l.struck, i < l.nextId) (b : Binding) :
    (l.after (some (.entered b))).entries = l.entries ++ [(l.nextId, b)] := by
  have hnew : l.nextId ∉ l.struck := fun hmem => Int.lt_irrefl _ (hpast _ hmem)
  have hlast : [(l.nextId, b)].filter (fun e : Int × Binding => decide (e.1 ∉ l.struck)) =
      [(l.nextId, b)] :=
    List.filter_cons_of_pos (decide_eq_true hnew)
  show (List.mapIdx _ (l.entered ++ [b])).filter (fun e : Int × Binding => decide (e.1 ∉ l.struck)) = _
  rw [List.mapIdx_concat, List.filter_append]
  exact congrArg (l.entries ++ ·) hlast

theorem entries_struck (l : Roll) (id : Int) :
    (l.after (some (.struck id))).entries = l.entries.filter fun e => e.1 ≠ id := by
  unfold entries after
  rw [List.filter_filter]
  refine List.filter_congr fun e _ => ?_
  simp [not_or, and_comm]

end Roll

/-! ## What a step files -/

/-- The value of an attempt from a host, if it returns with one. -/
def Attempt.value? (x : Attempt σ Failure α) (h : Host σ) : Option α :=
  match x.run.run h with
  | .ok (.ok a, _) => some a
  | _ => none

/-- The binding that a call of the C interface makes, to file it. -/
def CInterface.bound? (G : Guest σ) (moduleName function : CString) (output : Bool) (h : Host σ) :
    Option Binding :=
  (check (bindChecks moduleName function output) >>= fun x => Binding.bind G x.1 x.2).value? h

/-- What a step enters or strikes out, by what the host knows of it: the binding that it handed
over, the id that it named, and the answer. -/
def Step.filing? (G : Guest σ) (p : Process σ) : Step σ → StepAnswer → Option Filing
  | .perform (.insert i), .operation (.id (.ok _) _) => p.caller.bindings[i]?.map .entered
  | .perform (.remove id), .operation (.removed (.ok _) _) => some (.struck id)
  | .interface _ (.bind moduleName function output), .interface (.id _ (some _)) _ =>
    (CInterface.bound? G moduleName function output p.host).map .entered
  | .interface _ (.unbind id), .interface (.status code) _ =>
    if code = 0 then some (.struck id) else none
  | _, _ => none

namespace Process

/-- The roll after a step. A start that gets through begins a new one. -/
def rollAfter (G : Guest σ) (p : Process σ) (l : Roll) (e : Entry σ) : Roll :=
  if e.after.host.lifecycle.generation = p.host.lifecycle.generation then
    l.after (e.step.filing? G p e.answer)
  else .empty

/-- The roll after the steps of a run. -/
def roll (G : Guest σ) : Process σ → Roll → List (Entry σ) → Roll
  | _, l, [] => l
  | p, l, e :: rest => roll G e.after (p.rollAfter G l e) rest

end Process

/-! ## The registry and its roll -/

namespace Shelf

variable {f f' : Shelf} {r : Registry} {l : Roll} {t : Ticket} {B : Binding → Prop}
  {out : List Ticket}

/-- The binding that a ticket is on. -/
def binding? (f : Shelf) (t : Ticket) : Option Binding := (f.shares.lookup t.serial).map (·.binding)

theorem on_iff : t.On b h ↔ h.shelf.binding? t = some b := by
  unfold Ticket.On binding?
  rw [Option.map_eq_some_iff]
  exact Iff.rfl

/-- The shelf with a binding filed. -/
def inserted (f : Shelf) (r : Registry) (b : Binding) : Shelf :=
  ⟨f.lifecycle, some ⟨r.entries ++ [(r.nextId, ⟨f.nextSerial⟩)], r.nextId + 1⟩,
    f.shares ++ [(f.nextSerial, ⟨b, 1⟩)], f.nextSerial + 1⟩

/-- One shelf leads to another by what is filed, as far as the registry goes. -/
inductive Files (f f' : Shelf) : Option Filing → Prop where
  | nothing (hsame : f'.registry = f.registry) : Files f f' none
  | entered {r : Registry} (b : Binding) (hr : f.registry = some r) (hf' : f' = f.inserted r b) :
      Files f f' (some (.entered b))
  | struck {r : Registry} {id : Int} {t : Ticket} (hr : f.registry = some r)
      (hid : r.entries.lookup id = some t)
      (hr' : f'.registry = some ⟨r.entries.filter fun e => e.1 ≠ id, r.nextId⟩) :
      Files f f' (some (.struck id))

/-- Tickets that stay filed are on the bindings that they were on. -/
theorem map_binding?_kept (ho : f.Orderly) (hk : f.Keeps f') (ha : f'.Accounts B out)
    (hr : f.registry = some r) (es : List (Int × Ticket))
    (hes : ∀ e ∈ es, e ∈ r.entries ∧ e.2 ∈ f'.filed) :
    es.map (fun e => (e.1, f'.binding? e.2)) = es.map fun e => (e.1, f.binding? e.2) := by
  refine List.map_congr_left fun e he => ?_
  obtain ⟨hmem, hfiled⟩ := hes e he
  -- a serial stays on the binding that it was given for
  obtain ⟨s', hs'⟩ := ha.known (List.mem_append_left _ hfiled)
  have hserial : e.2.serial < f.nextSerial := ho.ahead r hr _ (List.mem_map_of_mem hmem)
  obtain ⟨s, hs, heq⟩ := hk.binding hserial hs'
  have hsame : f'.binding? e.2 = f.binding? e.2 := by
    unfold binding?
    rw [hs, hs', Option.map_some, Option.map_some, heq]
  rw [hsame]

theorem mem_filed_of_mem (hr : f.registry = some r) {e : Int × Ticket} (he : e ∈ r.entries) :
    e.2 ∈ f.filed := by
  unfold filed
  rw [hr]
  exact List.mem_map_of_mem he

end Shelf

namespace Roll

variable {l : Roll} {f f' : Shelf} {r r' : Registry} {B : Binding → Prop} {out : List Ticket}
  {filing : Option Filing}

/-- The registry has the entries of the roll, and goes on where the roll does. -/
structure Shown (l : Roll) (f : Shelf) (r : Registry) : Prop where
  nextId : r.nextId = l.nextId
  entries : r.entries.map (fun e => (e.1, f.binding? e.2)) = l.entries.map fun e => (e.1, some e.2)
  past : ∀ i ∈ l.struck, i < l.nextId

theorem shown_empty (f : Shelf) : empty.Shown f Registry.empty where
  nextId := rfl
  entries := rfl
  past := by simp [empty]

/-- An entry of the registry is one of the roll. -/
theorem Shown.holds (hs : l.Shown f r) {t : Ticket} (he : (id, t) ∈ r.entries) :
    ∃ b, f.binding? t = some b ∧ l.Holds id b := by
  have hmem : (id, f.binding? t) ∈ l.entries.map fun e => (e.1, some e.2) := by
    rw [← hs.entries]
    exact List.mem_map_of_mem (f := fun e : Int × Ticket => (e.1, f.binding? e.2)) he
  obtain ⟨e, hroll, heq⟩ := List.mem_map.mp hmem
  obtain ⟨rfl, hb⟩ := Prod.mk.inj heq
  exact ⟨e.2, hb.symm, mem_entries.mp hroll⟩

/-- An entry of the roll is one of the registry. -/
theorem Shown.entry (hs : l.Shown f r) (hb : l.Holds id b) :
    ∃ t, (id, t) ∈ r.entries ∧ f.binding? t = some b := by
  have hmem : (id, some b) ∈ r.entries.map fun e => (e.1, f.binding? e.2) := by
    rw [hs.entries]
    exact List.mem_map_of_mem (f := fun e : Int × Binding => (e.1, some e.2)) (mem_entries.mpr hb)
  obtain ⟨e, he, heq⟩ := List.mem_map.mp hmem
  obtain ⟨rfl, ht⟩ := Prod.mk.inj heq
  exact ⟨e.2, he, ht⟩

/-- What is filed in the registry and on the roll keeps them together. -/
theorem Shown.files (hs : ∀ r, f.registry = some r → l.Shown f r) (ho : f.Orderly)
    (hk : f.Keeps f') (ha : f'.Accounts B out) (hf : f.Files f' filing) :
    ∀ r', f'.registry = some r' → (l.after filing).Shown f' r' := by
  intro r' hr'
  cases hf with
  | nothing hsame =>
    have hr : f.registry = some r' := hsame ▸ hr'
    have hshown := hs r' hr
    refine ⟨hshown.nextId, Eq.trans ?_ hshown.entries, hshown.past⟩
    exact Shelf.map_binding?_kept ho hk ha hr r'.entries fun e he =>
      ⟨he, Shelf.mem_filed_of_mem hr' he⟩
  | @entered r b hr hf' =>
    subst hf'
    cases hr'
    have hshown := hs r hr
    -- the new ticket has a serial of its own, so it is on the new binding and on no other
    have hnew : f.nextSerial ∉ f.shares.map Prod.fst := fun hmem => Nat.lt_irrefl _ (ho.below _ hmem)
    have hlast : (f.inserted r b).binding? ⟨f.nextSerial⟩ = some b := by
      unfold Shelf.binding? Shelf.inserted
      rw [Shares.lookup_new hnew]
      rfl
    refine ⟨?_, ?_, ?_⟩
    · show r.nextId + 1 = ((l.entered ++ [b]).length : Int) + 1
      rw [hshown.nextId, List.length_append]
      rfl
    · have hold := Shelf.map_binding?_kept ho hk ha hr r.entries
        fun e he => ⟨he, Shelf.mem_filed_of_mem rfl (List.mem_append_left _ he)⟩
      rw [entries_entered hshown.past, List.map_append, List.map_append, hold, hshown.entries,
        List.map_singleton, List.map_singleton, hlast, hshown.nextId]
    · intro i hi
      have hlt : i < (l.entered.length : Int) + 1 := hshown.past i hi
      show i < ((l.entered ++ [b]).length : Int) + 1
      rw [List.length_append, List.length_singleton]
      omega
  | @struck r id t hr hid hr'' =>
    rw [hr''] at hr'
    cases hr'
    have hshown := hs r hr
    refine ⟨hshown.nextId, ?_, ?_⟩
    · have hold := Shelf.map_binding?_kept ho hk ha hr (r.entries.filter fun e => e.1 ≠ id)
        fun e he => ⟨(List.mem_filter.mp he).1, Shelf.mem_filed_of_mem hr'' he⟩
      -- striking an id out is a filter by ids on both sides
      have hfilter : ∀ {γ δ : Type} (g : γ → δ) (es : List (Int × γ)),
          (es.filter fun e => decide (e.1 ≠ id)).map (fun e => (e.1, g e.2)) =
            (es.map fun e => (e.1, g e.2)).filter fun e => decide (e.1 ≠ id) := by
        intro γ δ g es
        rw [List.filter_map]
        rfl
      rw [hold, entries_struck, hfilter, hfilter some, hshown.entries]
    · intro i hi
      rcases List.mem_append.mp hi with hi | hi
      · exact hshown.past i hi
      · rw [List.mem_singleton.mp hi]
        obtain ⟨before, rest, hentries, -⟩ := List.lookup_eq_some_iff.mp hid
        have hmem : (id, t) ∈ r.entries := by simp [hentries]
        obtain ⟨b, -, hb⟩ := hshown.holds hmem
        exact hb.lt

end Roll

/-! ## Making a binding and filing it -/

/-- A binding is filed under the next id, or the registry is left alone. -/
theorem Registry.insert_cases {x : Except Failure Int}
    (hx : (insert G b).run.run h = .ok (x, h')) :
    (∃ r, h.registry = some r ∧ x = .ok r.nextId ∧ h'.shelf = h.shelf.inserted r b) ∨
    ((∃ f, x = .error f) ∧ h'.registry = h.registry) := by
  rcases insert_ok hx with ⟨r, hr, hroom, rfl, -⟩ | ⟨hfailed, hstation⟩
  · rw [insert_run_of_open b hr hroom] at hx
    cases hx
    exact .inl ⟨r, hr, rfl, rfl⟩
  · exact .inr ⟨hfailed, congrArg Station.registry hstation⟩

namespace CInterface

variable {thread : ThreadId} {moduleName function : CString} {output : Bool}

/-- A binding is made and filed, or the registry is left alone. -/
theorem bindNew_cases {x : Except Failure Int}
    (hx : (check (bindChecks moduleName function output) >>= fun names =>
      Registry.bindNew G names.1 names.2).run.run h = .ok (x, h')) :
    (∃ b r, bound? G moduleName function output h = some b ∧ h.registry = some r ∧
      x = .ok r.nextId ∧ h'.shelf = h.shelf.inserted r b) ∨
    ((∃ f, x = .error f) ∧ h'.registry = h.registry) := by
  -- to make a binding leaves the shelf alone, so all that happens to it is the filing
  have hkept : ∀ {y k}, (check (bindChecks moduleName function output) >>= fun names =>
      Binding.bind G names.1 names.2).run.run h = .ok (y, k) → k.shelf = h.shelf := by
    intro y k hy
    have hsurvives := (CInterface.check_has (P := Trait.surviving G Standing.shelf)
      (bindChecks moduleName function output)).bind
      (fun names => Binding.bind_has (Trait.surviving_sessional G Standing.shelf) names.1 names.2) h
    rw [hy] at hsurvives
    cases hsurvives with
    | returned _ printing same => exact same
  unfold Registry.bindNew at hx
  rw [← bind_assoc] at hx
  rcases Attempt.bind_cases hx with ⟨f, rfl, hy⟩ | ⟨b, k, hy, hinsert⟩
  · exact .inr ⟨⟨f, rfl⟩, congrArg Shelf.registry (hkept hy)⟩
  have hshelf := hkept hy
  have hbound : bound? G moduleName function output h = some b := by
    unfold bound? Attempt.value?
    rw [hy]
  have hregistry : k.registry = h.registry := congrArg Shelf.registry hshelf
  rcases Registry.insert_cases hinsert with ⟨r, hr, hid, hfiled⟩ | ⟨hfailed, hsame⟩
  · rw [hshelf] at hfiled
    exact .inl ⟨b, r, hbound, hregistry ▸ hr, hid, hfiled⟩
  · exact .inr ⟨hfailed, hsame.trans hregistry⟩

/-- A call that fails files nothing, and takes no id. -/
theorem bind_cases {a : CInterface.Answer Int}
    (ha : (bind G thread moduleName function output).run h = .ok (a, h')) :
    (∃ b r, bound? G moduleName function output h = some b ∧ h.registry = some r ∧
      a = ⟨0, some r.nextId⟩ ∧ h'.shelf = h.shelf.inserted r b) ∨
    (a.out = none ∧ a.status < 0 ∧ h'.registry = h.registry) := by
  have heven : ∀ e, (check (bindChecks moduleName function output) >>= fun names =>
      Registry.bindNew G names.1 names.2).Even (Slots e) := fun e =>
    (check_even _).bind fun names => Registry.bindNew_even G (slots_clerical G e) names.1 names.2
  have hreports := answer_reports thread heven h
  rw [← bind_eq, ha] at hreports
  generalize hx : (check (bindChecks moduleName function output) >>= fun names =>
    Registry.bindNew G names.1 names.2).run.run h = x at hreports
  cases hreports with
  | @failed f h₁ _ htells =>
    have hrest : h'.registry = h₁.registry := by rw [htells.rest]
    rcases bindNew_cases hx with ⟨_, _, -, -, hne, -⟩ | ⟨-, hsame⟩
    · cases hne
    · exact .inr ⟨rfl, f.code_neg, hrest.trans hsame⟩
  | @succeeded id h₁ _ htells =>
    have hrest : h'.shelf = h₁.shelf := by
      rw [htells.rest]
      rfl
    rcases bindNew_cases hx with ⟨b, r, hbound, hr, hid, hshelf⟩ | ⟨⟨f, hne⟩, -⟩
    · cases hid
      exact .inl ⟨b, r, hbound, hr, rfl, hrest.trans hshelf⟩
    · cases hne

end CInterface

/-! ## Steps -/

namespace Moves

variable {s s' : Station} {events : List Event} {g : Nat}

/-- Where no id is handed out or taken back, a registry that is there stays as it is. -/
theorem registry_eq (hm : Moves s events s') (hissued : issuedIn events = [])
    (hrevoked : revokedIn events = []) (hgen : s'.lifecycle.generation = s.lifecycle.generation)
    (hopen : s'.registry ≠ none) : s'.registry = s.registry := by
  cases hm with
  | stay => rfl
  | start hs thread => exact absurd hgen (Nat.succ_ne_self _)
  | stop hs => exact absurd rfl hopen
  | bind k => rfl
  | issue hr t => cases hissued
  | revoke hr hid => cases hrevoked

theorem revoked (hm : Moves s [.revoked g id] s') : ∃ r t, s.registry = some r ∧
    r.entries.lookup id = some t ∧
    s'.registry = some ⟨r.entries.filter fun e => e.1 ≠ id, r.nextId⟩ := by
  cases hm with
  | revoke hr hid => exact ⟨_, _, hr, hid, rfl⟩

/-- A registry of another generation is a new one. -/
theorem registry_empty (hm : Moves s events s')
    (hgen : s'.lifecycle.generation ≠ s.lifecycle.generation) :
    s'.registry = some Registry.empty := by
  cases hm with
  | start hs thread => rfl
  | _ => exact absurd rfl hgen

end Moves

theorem issuedIn_startEvents (launched : Bool) : issuedIn (Operation.startEvents launched) = [] := by
  cases launched <;> rfl

theorem revokedIn_startEvents (launched : Bool) :
    revokedIn (Operation.startEvents launched) = [] := by
  cases launched <;> rfl

namespace Process

variable {p p' : Process σ} {s : Step σ} {a : StepAnswer}

/-- What a host notes down of a step is what the step did to the registry. -/
theorem tell_files (hs : p.tell G s = .ok (a, p'))
    (hgen : p'.host.lifecycle.generation = p.host.lifecycle.generation)
    (hopen : p'.host.registry ≠ none) :
    p.host.shelf.Files p'.host.shelf (s.filing? G p a) := by
  obtain ⟨events, hhistory, hmoves⟩ := step_moves (step_of_tell hs)
  -- the events of a step tell whether an id was handed out or taken back
  have nothing : ∀ {told}, events = told → issuedIn told = [] → revokedIn told = [] →
      s.filing? G p a = none → p.host.shelf.Files p'.host.shelf (s.filing? G p a) := by
    rintro _ rfl hissued hrevoked hnone
    rw [hnone]
    exact .nothing (hmoves.registry_eq hissued hrevoked hgen hopen)
  have struck : ∀ {g id}, events = [.revoked g id] → s.filing? G p a = some (.struck id) →
      p.host.shelf.Files p'.host.shelf (s.filing? G p a) := by
    rintro g id rfl hsome
    rw [hsome]
    obtain ⟨r, t, hr, hid, hr'⟩ := hmoves.revoked
    exact .struck hr hid hr'
  cases s with
  | perform op =>
    obtain ⟨x, hop, rfl, -, hnoted⟩ := tell_perform_ok hs
    have hevents : events = op.events (op.launches G p.host) x :=
      List.append_cancel_left (hhistory.symm.trans hnoted)
    cases op with
    | insert i =>
      simp only [Operation.answer] at hop
      split at hop
      next hb =>
        obtain ⟨rfl, -⟩ := Bridge.pure_ok hop
        exact nothing hevents rfl rfl rfl
      next b hb =>
        obtain ⟨r, h₁, hinsert, hrest⟩ := Bridge.bind_ok hop
        cases hrest
        rcases Registry.insert_cases hinsert with ⟨r', hr, rfl, hshelf⟩ | ⟨⟨f, rfl⟩, -⟩
        · have hfiling : (p.caller.bindings[i]?).map Filing.entered = some (.entered b) := by
            rw [hb]
            rfl
          show p.host.shelf.Files p'.host.shelf ((p.caller.bindings[i]?).map .entered)
          rw [hfiling]
          exact .entered b hr hshelf
        · exact nothing hevents rfl rfl rfl
    | remove id =>
      cases x with
      | removed r g =>
        cases r with
        | ok t => exact struck hevents rfl
        | error f => exact nothing hevents rfl rfl rfl
      | _ => exact nothing hevents rfl rfl rfl
    | launch thread config =>
      exact nothing hevents (issuedIn_startEvents _) (revokedIn_startEvents _) rfl
    | start thread config =>
      exact nothing hevents (issuedIn_startEvents _) (revokedIn_startEvents _) rfl
    | bind moduleName function =>
      cases x with
      | binding r =>
        cases r with
        | ok b => exact nothing hevents rfl rfl rfl
        | error f => exact nothing hevents rfl rfl rfl
      | _ => exact nothing hevents rfl rfl rfl
    | _ => exact nothing hevents rfl rfl rfl
  | interface thread call =>
    obtain ⟨v, e, hcall, rfl, -, hnoted⟩ := tell_interface_ok hs
    have hevents := List.append_cancel_left (hhistory.symm.trans hnoted)
    obtain ⟨w, h₁, hperform, hread⟩ := Bridge.bind_ok hcall
    cases hread
    cases call with
    | bind moduleName function output =>
      obtain ⟨answer, h₂, hbind, hdone⟩ := Bridge.bind_ok hperform
      obtain ⟨rfl, rfl⟩ := Bridge.pure_ok hdone
      rcases CInterface.bind_cases hbind with ⟨b, r, hbound, hr, rfl, hshelf⟩ | ⟨hout, -, hsame⟩
      · show p.host.shelf.Files p'.host.shelf ((CInterface.bound? G _ _ _ p.host).map .entered)
        rw [hbound]
        exact .entered b hr hshelf
      · rw [hout]
        exact .nothing hsame
    | unbind id =>
      obtain ⟨answer, h₂, hunbind, hdone⟩ := Bridge.bind_ok hperform
      obtain ⟨rfl, rfl⟩ := Bridge.pure_ok hdone
      have hunbound : events = if answer.status = 0 then
          [.revoked p'.host.lifecycle.generation id] else [] := hevents
      by_cases hzero : answer.status = 0
      · rw [if_pos hzero] at hunbound
        exact struck hunbound (if_pos hzero)
      · rw [if_neg hzero] at hunbound
        exact nothing hunbound rfl rfl (if_neg hzero)
    | start e =>
      refine nothing hevents ?_ ?_ rfl
      · rw [issuedIn_append, issuedIn_startEvents]
        rfl
      · rw [revokedIn_append, revokedIn_startEvents]
        rfl
    | startWithConfig json =>
      refine nothing hevents ?_ ?_ rfl
      · rw [issuedIn_append, issuedIn_startEvents]
        rfl
      · rw [revokedIn_append, revokedIn_startEvents]
        rfl
    | _ => exact nothing hevents rfl rfl rfl
  | outside f =>
    cases hs
    exact .nothing rfl

/-- The registry, where there is one, shows the roll. -/
def Shows (p : Process σ) (l : Roll) : Prop :=
  ∀ r, p.host.registry = some r → l.Shown p.host.shelf r

variable {l : Roll} {B C : Binding → Prop}

theorem tell_shows (hp : p.Owns B) (hp' : p'.Owns C) (hl : p.Shows l)
    (hs : p.tell G s = .ok (a, p')) : p'.Shows (p.rollAfter G l ⟨s, a, p'⟩) := by
  have hstep := step_of_tell hs
  intro r' hr'
  unfold rollAfter
  -- the generation changes only with a start, which makes a registry of its own
  by_cases hgen : p'.host.lifecycle.generation = p.host.lifecycle.generation
  · rw [if_pos hgen]
    have hkeeps : p.host.shelf.Keeps p'.host.shelf :=
      Shelf.Changes.preserves (P := fun f => p.host.shelf.Keeps f)
        (fun hchange hkeeps => hkeeps.trans hchange.keeps) (step_shelved hstep) (Shelf.Keeps.refl _)
    have hopen : p'.host.registry ≠ none := by
      rw [hr']
      exact Option.some_ne_none r'
    exact Roll.Shown.files (f := p.host.shelf) hl (Shelf.Accounts.toOrderly hp.accounts) hkeeps hp'.accounts
      (tell_files hs hgen hopen) r' hr'
  · rw [if_neg hgen]
    obtain ⟨events, -, hmoves⟩ := step_moves hstep
    have hempty : p'.host.registry = some Registry.empty := hmoves.registry_empty hgen
    rw [hr'] at hempty
    cases hempty
    exact Roll.shown_empty _

/-- By induction on the run: the roll is kept step by step. -/
theorem roll_shows : ∀ {steps : List (Step σ)} {p : Process σ} {l : Roll}
    {entries : List (Entry σ)}, p.Sound → p.Owns (fun _ => True) → p.Shows l →
    p.trace G steps = .ok entries → (p.last entries).Shows (p.roll G l entries) := by
  intro steps
  induction steps with
  | nil =>
    intro p l entries _ _ hl hr
    cases hr
    exact hl
  | cons s rest ih =>
    intro p l entries hsound hp hl hr
    obtain ⟨a, q, later, hs, hrest, rfl⟩ := trace_cons_ok hr
    have hstep := step_of_tell hs
    have hq : q.Owns fun _ => True := step_owns hsound hp (fun _ _ => trivial) hstep
    exact ih (p := q) (step_sound hsound hstep) hq (tell_shows hp hq hl hs) hrest

end Process

/-! ## What the registry answers -/

/-- The registry answers as a roll says. -/
structure Registry.Follows (G : Guest σ) (l : Roll) (h : Host σ) : Prop where
  /-- A binding gets the next id of the roll. -/
  inserts : ∀ b, l.nextId < idBound → ∃ h', (insert G b).run.run h = .ok (.ok l.nextId, h')
  /-- The very binding is found that was entered under the id. -/
  finds : ∀ id b, l.Holds id b →
    ∃ t h', (find id).run.run h = .ok (.ok t, h') ∧ t.On b h' ∧ h'.registry = h.registry
  removes : ∀ id b, l.Holds id b → ∃ t h', (remove id).run.run h = .ok (.ok t, h') ∧ t.On b h'
  /-- A call by id is a call of that binding, between taking a claim on it and giving it up. -/
  calls : ∀ id b, l.Holds id b → ∃ t h', (find id).run.run h = .ok (.ok t, h') ∧
    ∀ {α β : Type} (E : Encoder σ α) (D : Decoder σ β) (args : List α),
      (findAndCall G E D id args).run.run h =
        ((b.callAs G E D args).run >>= fun r => t.drop G false >>= fun _ => pure r).run h'
  /-- Any other id, whatever the number, is refused, and nothing changes. -/
  refuses : ∀ id, (∀ b, ¬l.Holds id b) →
    (find id).run.run h = .ok (.error (.invalidBinding id), h) ∧
    (remove id).run.run h = .ok (.error (.invalidBinding id), h) ∧
    (∀ thread values output,
      RefusedCall (CInterface.callBound G thread id values output) thread h fun f =>
        f = .invalidBinding id ∨ CInterface.argValues values = .error f ∨
        CInterface.argOutput output = .error f) ∧
    ∀ thread, RefusedCall (CInterface.unbind G thread id) thread h fun f => f = .invalidBinding id
  counts : size.run.run h = .ok (.ok l.size, h) ∧ ∀ thread,
    (CInterface.bindingCount thread).run h =
      .ok (l.size, { h with lastErrors := h.lastErrors.clear thread })
  /-- To make a binding takes no id. -/
  binds : ∀ moduleName function, Ends ((Binding.bind G moduleName function).run.run h) fun r =>
    r.2.registry = h.registry
  /-- A call that makes and files a binding gives the next id, or takes none. -/
  bindsNew : ∀ thread moduleName function output,
    Ends ((CInterface.bind G thread moduleName function output).run h) fun r =>
      r.1 = ⟨0, some l.nextId⟩ ∨ (r.1.out = none ∧ r.1.status < 0 ∧ r.2.registry = h.registry)

namespace Registry

variable {r : Registry} {l : Roll} {t : Ticket}

theorem Numbered.lookup_of_mem (hn : r.Numbered) (he : (id, t) ∈ r.entries) :
    r.entries.lookup id = some t := by
  obtain ⟨before, rest, hentries⟩ := List.append_of_mem he
  refine List.lookup_eq_some_iff.mpr ⟨before, rest, hentries, fun e hbefore => ?_⟩
  have hdistinct := hn.distinct
  rw [hentries, List.map_append, List.map_cons, List.nodup_middle, List.nodup_cons,
    List.mem_append, not_or] at hdistinct
  simpa using (Keyed.ne_of_new hdistinct.1.1 hbefore).symm

theorem lookup_of_holds (hn : r.Numbered) (hs : l.Shown h.shelf r) (hb : l.Holds id b) :
    ∃ t, r.entries.lookup id = some t ∧ t.On b h := by
  obtain ⟨t, he, ht⟩ := hs.entry hb
  exact ⟨t, hn.lookup_of_mem he, Shelf.on_iff.mpr ht⟩

theorem lookup_of_not_holds (hs : l.Shown h.shelf r) (hb : ∀ b, ¬l.Holds id b) :
    r.entries.lookup id = none := by
  cases hid : r.entries.lookup id with
  | none => rfl
  | some t =>
    obtain ⟨before, rest, hentries, -⟩ := List.lookup_eq_some_iff.mp hid
    have hmem : (id, t) ∈ r.entries := by simp [hentries]
    obtain ⟨b, -, hholds⟩ := hs.holds hmem
    exact absurd hholds (hb b)

theorem find_run_of_on (hr : h.registry = some r) (hid : r.entries.lookup id = some t)
    (ht : t.On b h) :
    ∃ h', (find id).run.run h = .ok (.ok t, h') ∧ t.On b h' ∧ h'.registry = h.registry := by
  obtain ⟨s, hs, rfl⟩ := ht
  rw [find_run_of_known hr hid]
  exact ⟨_, Attempt.run_lift (Ticket.clone_run_of_known hs), ⟨_, Shares.lookup_set_self hs _, rfl⟩, rfl⟩

/-- A registry that shows a roll answers as it says. -/
theorem follows (G : Guest σ) (hr : h.registry = some r) (hn : r.Numbered)
    (hs : l.Shown h.shelf r) : Follows G l h := by
  constructor
  case inserts =>
    intro b hroom
    rw [← hs.nextId] at hroom ⊢
    exact ⟨_, insert_run_of_open b hr hroom⟩
  case finds =>
    intro id b hb
    obtain ⟨t, hid, ht⟩ := lookup_of_holds hn hs hb
    obtain ⟨h', hfind, hon, hsame⟩ := find_run_of_on hr hid ht
    exact ⟨t, h', hfind, hon, hsame⟩
  case removes =>
    intro id b hb
    obtain ⟨t, hid, ht⟩ := lookup_of_holds hn hs hb
    exact ⟨t, _, remove_run_of_known hr hid, ht⟩
  case calls =>
    intro id b hb
    obtain ⟨t, hid, ht⟩ := lookup_of_holds hn hs hb
    obtain ⟨h', hfind, hon, -⟩ := find_run_of_on hr hid ht
    refine ⟨t, h', hfind, fun E D args => ?_⟩
    unfold findAndCall
    rw [Attempt.run_bind_of_ok hfind]
    show ((t.call G E D args).run >>= fun x => _).run h' = _
    rw [StateT.run_bind, StateT.run_bind, show (t.call G E D args).run.run h' = _ from
      hon.call_run E D args]
  case refuses =>
    intro id hb
    have hid := lookup_of_not_holds hs hb
    refine ⟨find_run_of_unknown hr hid, remove_run_of_unknown hr hid, fun thread values output => ?_,
      fun thread => ?_⟩
    · exact CInterface.callBound_refused_of rfl
        (find_run_of_unknown (h := { h with lastErrors := h.lastErrors.clear thread }) hr hid)
        values output
    · exact ⟨_, rfl, CInterface.answer_run_of_error (Attempt.run_bind_of_error
        (remove_run_of_unknown (h := { h with lastErrors := h.lastErrors.clear thread }) hr hid))⟩
  case counts =>
    have hlength : r.entries.length = l.size := by
      have hsame := congrArg List.length hs.entries
      rw [List.length_map, List.length_map] at hsame
      rw [hsame, l.length_entries]
    have hsize : ∀ {k : Host σ}, k.registry = some r →
        (size : Attempt σ Failure Nat).run.run k = .ok (.ok l.size, k) := by
      intro k hk
      rw [← hlength]
      exact whileOpen_run_of_open hk
    refine ⟨hsize hr, fun thread => ?_⟩
    unfold CInterface.bindingCount
    rw [Bridge.run_modify_bind,
      Bridge.run_bind (hsize (k := { h with lastErrors := h.lastErrors.clear thread }) hr)]
    rfl
  case binds =>
    intro moduleName function x hx
    have hsurvives : Survives G Standing.shelf h ((Binding.bind G moduleName function).run.run h) :=
      Binding.bind_has (Trait.surviving_sessional G Standing.shelf) moduleName function h
    rw [hx] at hsurvives
    cases hsurvives with
    | returned _ printing same => exact congrArg Shelf.registry same
  case bindsNew =>
    intro thread moduleName function output x hx
    rcases CInterface.bind_cases hx with ⟨b, r', -, hr', ha, -⟩ | hfailed
    · rw [hr] at hr'
      cases hr'
      rw [hs.nextId] at ha
      exact .inl ha
    · exact .inr hfailed

end Registry

namespace Process

/-- **The registry is a map with fresh ids.** At the end of a run, while an interpreter runs, the
registry answers as the roll says that the host kept since the start: the bindings that were filed
have the ids from one on in their order, each is found under its id until that id is taken out, and
any other id is refused. A ticket in hand is on a binding, and whatever comes next, its removal
from the registry included, it stays on that binding and serves it as long as the interpreter of
the binding runs. -/
theorem registry_laws (G : Guest σ) (world : σ) (steps : List (Step σ)) :
    Ends ((fresh world).trace G steps) fun entries =>
      let p := (fresh world).last entries
      (p.host.lifecycle.stage = .running →
        Registry.Follows G ((fresh world).roll G .empty entries) p.host) ∧
      ∀ t ∈ p.caller.tickets, ∃ b, t.On b p.host ∧ ∀ more : List (Step σ),
        Ends (p.run G more) fun p' => t ∈ p'.caller.tickets → t.On b p'.host ∧
          (p'.host.lifecycle.Runs b.generation → b.Serves G p'.host) := by
  intro entries htrace
  have hrun : (fresh world).run G steps = .ok ((fresh world).last entries) := by
    rw [run_eq, htrace]
    rfl
  have hsound := run_sound (fresh_sound world) hrun
  have howns := run_owners hrun
  have hshows : ((fresh world).last entries).Shows ((fresh world).roll G .empty entries) := by
    refine roll_shows (fresh_sound world) (fresh_owns world) (fun r hr => ?_) htrace
    cases hr
  refine ⟨fun hrunning => ?_, fun t ht => ?_⟩
  · obtain ⟨r, hr⟩ := Option.isSome_iff_exists.mp (hsound.lifecycle.registry.mp hrunning)
    exact Registry.follows G hr (Shelf.Accounts.numbered howns.accounts r hr) (hshows r hr)
  · obtain ⟨b, hb⟩ := howns.ticket ht
    refine ⟨b, hb, fun more p' hmore ht' => ⟨?_, fun hruns => b.serves G hruns⟩⟩
    have howns' := run_owners (run_append_of_ok hrun hmore)
    exact howns.ticket_later howns' hmore hb ht'

/-- A process that files two functions, takes the first out and keeps its ticket. -/
def filesTwo : List (Step Bool) :=
  [.perform (.start mainThread Config.default), .perform (.bind "outliers" "detect"),
    .perform (.insert 0), .perform (.find 1), .perform (.bind "outliers" "to_ints"),
    .perform (.insert 0), .perform (.remove 1)]

theorem filesTwo_registry_laws : ∃ entries, (fresh false).trace willing filesTwo = .ok entries ∧
    ((fresh false).last entries).host.lifecycle.stage = .running ∧
    ((fresh false).roll willing .empty entries).entries.map (fun e => (e.1, e.2.function)) =
      [(2, "to_ints")] ∧
    Registry.Follows willing ((fresh false).roll willing .empty entries)
      ((fresh false).last entries).host := by
  have hends : ((fresh false).trace willing filesTwo).toOption.map (fun entries =>
      (((fresh false).last entries).host.lifecycle.stage,
        ((fresh false).roll willing .empty entries).entries.map fun e => (e.1, e.2.function))) =
      some (.running, [(2, "to_ints")]) := by decide +kernel
  cases htrace : (fresh false).trace willing filesTwo with
  | error e =>
    rw [htrace] at hends
    cases hends
  | ok entries =>
    rw [htrace] at hends
    obtain ⟨hrunning, hroll⟩ := Prod.mk.inj (Option.some.inj hends)
    exact ⟨entries, rfl, hrunning, hroll,
      (registry_laws willing false filesTwo entries htrace).1 hrunning⟩

end Process

end Embedder
