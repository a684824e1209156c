import Embedder.Proofs.Station
import Mathlib.Data.List.Nodup

/-!
# Shared bindings and the tickets on them

A ticket finds its binding by a serial number. Serial numbers are not used again, so each stands for
one record, and no two entries of a registry have the same (`Shelf.Tidy`). A change under one serial
number then leaves what is found under any other alone.

A binding that a registry lets go of is released if no ticket is out (`due?`); else it stays until
its last ticket is dropped.
-/

namespace Embedder

variable {σ : Type} {serial other : Nat} {s : Share} {shares : List (Nat × Share)} {k : Kept}

/-- The shared bindings and what tells where they are. -/
structure Shelf where
  lifecycle : Lifecycle
  registry : Option Registry
  shares : List (Nat × Share)
  nextSerial : Nat

def Standing.shelf (s : Standing) : Shelf := ⟨s.lifecycle, s.registry, s.shares, s.nextSerial⟩

def Host.shelf (h : Host σ) : Shelf := h.standing.shelf

namespace Shelf

/-- Serial numbers tell records and entries apart. -/
structure Tidy (s : Shelf) : Prop where
  keys : (s.shares.map Prod.fst).Nodup
  below : ∀ n ∈ s.shares.map Prod.fst, n < s.nextSerial
  serials : ∀ r, s.registry = some r → (r.entries.map (·.2.serial)).Nodup
  ahead : ∀ r, s.registry = some r → ∀ n ∈ r.entries.map (·.2.serial), n < s.nextSerial

/-- What the registry has is of the running generation. -/
def Current (s : Shelf) : Prop :=
  ∀ r, s.registry = some r → ∀ e ∈ r.entries, ∀ share, s.shares.lookup e.2.serial = some share →
    share.binding.generation = s.lifecycle.generation

end Shelf

/-! ## Entries under new keys -/

namespace Keyed

variable {κ ν : Type} {entries : List (κ × ν)} {key : κ}

theorem ne_of_new (hnew : key ∉ entries.map Prod.fst) {e : κ × ν} (he : e ∈ entries) : e.1 ≠ key :=
  fun heq => hnew (heq ▸ List.mem_map_of_mem he)

variable [DecidableEq κ]

theorem lookup_new (value : ν) (hnew : key ∉ entries.map Prod.fst) :
    (entries ++ [(key, value)]).lookup key = some value := by
  have hnone : entries.lookup key = none := by
    rw [List.lookup_eq_none_iff]
    intro e he
    simpa using Ne.symm (ne_of_new hnew he)
  rw [List.lookup_append, hnone, List.lookup_cons_self]
  rfl

theorem filter_of_new (hnew : key ∉ entries.map Prod.fst) :
    entries.filter (fun e => e.1 ≠ key) = entries := by
  refine List.filter_eq_self.mpr fun e he => ?_
  simpa using ne_of_new hnew he

/-- Under distinct keys, each entry is found. -/
theorem lookup_of_mem (hkeys : (entries.map Prod.fst).Nodup) {e : κ × ν} (he : e ∈ entries) :
    entries.lookup e.1 = some e.2 := by
  cases hfound : entries.lookup e.1 with
  | none =>
    have hne := List.lookup_eq_none_iff.mp hfound e he
    simp at hne
  | some value =>
    obtain ⟨before, after, hentries, -⟩ := List.lookup_eq_some_iff.mp hfound
    have hmem : (e.1, value) ∈ entries := by simp [hentries]
    have hsame : e = (e.1, value) := List.inj_on_of_nodup_map hkeys he hmem rfl
    rw [hsame]

/-- A key takes one entry out. -/
theorem perm_filter {value : ν} (hkeys : (entries.map Prod.fst).Nodup)
    (hfound : entries.lookup key = some value) :
    entries.Perm ((key, value) :: entries.filter fun e => e.1 ≠ key) := by
  obtain ⟨before, after, hentries, -⟩ := List.lookup_eq_some_iff.mp hfound
  rw [hentries, List.map_append, List.map_cons, List.nodup_middle, List.nodup_cons,
    List.mem_append, not_or] at hkeys
  rw [hentries, List.filter_append, List.filter_cons_of_neg (by simp), filter_of_new hkeys.1.1,
    filter_of_new hkeys.1.2]
  exact List.perm_middle

end Keyed

/-! ## Records under serial numbers -/

namespace Shares

/-- The references that the shared bindings hold. -/
def kept (shares : List (Nat × Share)) : List Kept := shares.map (·.2.binding.kept)

theorem keys_set : (set serial s shares).map Prod.fst = shares.map Prod.fst := by
  unfold set
  rw [List.map_map]
  refine List.map_congr_left fun e _ => ?_
  show (if e.1 = serial then (e.1, s) else e).1 = e.1
  split <;> rfl

theorem keys_set_sublist :
    ((set serial s shares).map Prod.fst).Sublist (shares.map Prod.fst) := by
  rw [keys_set]

theorem keys_erase_sublist :
    ((erase serial shares).map Prod.fst).Sublist (shares.map Prod.fst) :=
  List.filter_sublist.map _

theorem lookup_set_of_ne (hne : other ≠ serial) :
    (set serial s shares).lookup other = shares.lookup other := by
  induction shares with
  | nil => rfl
  | cons e rest ih =>
    obtain ⟨n, share⟩ := e
    show List.lookup other ((if n = serial then (n, s) else (n, share)) :: set serial s rest) = _
    by_cases hn : other = n
    · subst hn
      rw [if_neg hne, List.lookup_cons_self, List.lookup_cons_self]
    · have hbeq : (other == n) = false := by simpa using hn
      split
      next =>
        rw [List.lookup_cons, hbeq, List.lookup_cons, hbeq]
        exact ih
      next =>
        rw [List.lookup_cons, hbeq, List.lookup_cons, hbeq]
        exact ih

theorem lookup_set_self (hfound : shares.lookup serial = some s) (s' : Share) :
    (set serial s' shares).lookup serial = some s' := by
  induction shares with
  | nil => cases hfound
  | cons e rest ih =>
    obtain ⟨n, share⟩ := e
    show List.lookup serial ((if n = serial then (n, s') else (n, share)) :: set serial s' rest) = _
    by_cases hn : n = serial
    · subst hn
      rw [if_pos rfl, List.lookup_cons_self]
    · have hbeq : (serial == n) = false := by simpa using Ne.symm hn
      rw [List.lookup_cons, hbeq] at hfound
      rw [if_neg hn, List.lookup_cons, hbeq]
      exact ih hfound

theorem lookup_erase_of_ne (hne : other ≠ serial) :
    (erase serial shares).lookup other = shares.lookup other := by
  induction shares with
  | nil => rfl
  | cons e rest ih =>
    obtain ⟨n, share⟩ := e
    by_cases hn : n = serial
    · subst hn
      have hbeq : (other == n) = false := by simpa using hne
      rw [erase, List.filter_cons_of_neg (by simp), List.lookup_cons, hbeq]
      exact ih
    · rw [erase, List.filter_cons_of_pos (by simpa using hn), List.lookup_cons, List.lookup_cons]
      cases other == n with
      | true => rfl
      | false => exact ih

/-- What is found is what was found before, if the new record has the same binding. -/
theorem lookup_set_binding {s' share : Share} (hfound : shares.lookup serial = some s)
    (hbinding : s'.binding = s.binding) (hshare : (set serial s' shares).lookup other = some share) :
    ∃ s, shares.lookup other = some s ∧ share.binding = s.binding := by
  by_cases hne : other = serial
  · subst hne
    rw [lookup_set_self hfound] at hshare
    cases hshare
    exact ⟨s, hfound, hbinding⟩
  · rw [lookup_set_of_ne hne] at hshare
    exact ⟨share, hshare, rfl⟩

theorem lookup_erase_self : (erase serial shares).lookup serial = none := by
  rw [List.lookup_eq_none_iff]
  intro e he
  have hne : e.1 ≠ serial := by simpa using (List.mem_filter.mp he).2
  simpa using Ne.symm hne

theorem lookup_erase {share : Share} (hshare : (erase serial shares).lookup other = some share) :
    shares.lookup other = some share := by
  by_cases hne : other = serial
  · rw [hne, lookup_erase_self] at hshare
    cases hshare
  · rwa [lookup_erase_of_ne hne] at hshare

theorem mem_of_lookup (hfound : shares.lookup serial = some s) : (serial, s) ∈ shares := by
  induction shares with
  | nil => cases hfound
  | cons e rest ih =>
    obtain ⟨n, share⟩ := e
    by_cases hn : serial = n
    · subst hn
      rw [List.lookup_cons_self] at hfound
      cases hfound
      exact List.mem_cons_self
    · have hbeq : (serial == n) = false := by simpa using hn
      rw [List.lookup_cons, hbeq] at hfound
      exact List.mem_cons_of_mem _ (ih hfound)

/-- Another number of owners does not change what is held. -/
theorem kept_set (hkeys : (shares.map Prod.fst).Nodup) (hfound : shares.lookup serial = some s)
    (owners : Nat) : kept (set serial { s with owners := owners } shares) = kept shares := by
  unfold kept set
  rw [List.map_map]
  refine List.map_congr_left fun e he => ?_
  show (if e.1 = serial then (e.1, { s with owners := owners }) else e).2.binding.kept = _
  by_cases hn : e.1 = serial
  · -- serial numbers tell records apart, so this is the record that was found
    have hsame : e = (serial, s) := List.inj_on_of_nodup_map hkeys he (mem_of_lookup hfound) hn
    rw [if_pos hn, hsame]
  · rw [if_neg hn]

/-- A record that is erased holds its reference no more. -/
theorem count_kept_erase (hkeys : (shares.map Prod.fst).Nodup)
    (hfound : shares.lookup serial = some s) (k : Kept) :
    (kept (erase serial shares)).count k + [s.binding.kept].count k = (kept shares).count k := by
  have hperm := (Keyed.perm_filter hkeys hfound).map fun e : Nat × Share => e.2.binding.kept
  have hcount := hperm.count_eq k
  rw [List.map_cons, ← List.singleton_append, List.count_append] at hcount
  exact (Nat.add_comm _ _).trans hcount.symm

/-- A record that is set to what it was. -/
theorem set_back (hkeys : (shares.map Prod.fst).Nodup) (hfound : shares.lookup serial = some s)
    (s' : Share) : set serial s (set serial s' shares) = shares := by
  unfold set
  rw [List.map_map]
  conv_rhs => rw [← List.map_id shares]
  refine List.map_congr_left fun e he => ?_
  by_cases hn : e.1 = serial
  · -- serial numbers tell records apart, so this is the record that was found
    have hsame : e = (serial, s) := List.inj_on_of_nodup_map hkeys he (mem_of_lookup hfound) hn
    rw [hsame]
    simp
  · simp [hn]

/-! A record under a new serial number. -/

theorem lookup_new (hnew : serial ∉ shares.map Prod.fst) :
    (shares ++ [(serial, s)]).lookup serial = some s :=
  Keyed.lookup_new s hnew

end Shares

/-! ## Tickets, case by case -/

namespace Ticket

variable {G : Guest σ} {h : Host σ} {t : Ticket}

theorem clone_run_of_unknown (hs : h.shares.lookup t.serial = none) :
    (t.clone).run h = .ok (t, h) := by
  unfold clone
  rw [Bridge.run_bind (share?_run t h), hs]
  rfl

theorem clone_run_of_known (hs : h.shares.lookup t.serial = some s) : (t.clone).run h =
    .ok (t, { h with
      shares := Shares.set t.serial { s with owners := s.owners + 1 } h.shares }) := by
  unfold clone
  rw [Bridge.run_bind (share?_run t h), hs]
  rfl

theorem drop_run_of_unknown (busy : Bool) (hs : h.shares.lookup t.serial = none) :
    (t.drop G busy).run h = .ok ((), h) := by
  unfold drop
  rw [Bridge.run_bind (share?_run t h), hs]
  rfl

/-- One owner of several goes away. -/
theorem drop_run_of_shared (busy : Bool) (hs : h.shares.lookup t.serial = some s)
    (howners : 1 < s.owners) : (t.drop G busy).run h =
      .ok ((), { h with
        shares := Shares.set t.serial { s with owners := s.owners - 1 } h.shares }) := by
  unfold drop
  rw [Bridge.run_bind (share?_run t h), hs]
  dsimp only
  rw [if_neg (by omega)]
  rfl

/-- The binding ends with its last owner. -/
theorem drop_run_of_last (busy : Bool) (hs : h.shares.lookup t.serial = some s)
    (howners : s.owners ≤ 1) : (t.drop G busy).run h =
      (s.binding.drop G busy).run { h with shares := Shares.erase t.serial h.shares } := by
  unfold drop
  rw [Bridge.run_bind (share?_run t h), hs]
  dsimp only
  rw [if_pos howners, Bridge.run_bind (removeShare_run t h)]

theorem call_run_of_known {α β : Type} (E : Encoder σ α) (D : Decoder σ β) (args : List α)
    (hs : h.shares.lookup t.serial = some s) :
    (t.call G E D args).run.run h = (s.binding.callAs G E D args).run.run h := by
  unfold call
  rw [Attempt.run_lift_bind (share?_run t h), hs]

end Ticket

/-! ## Letting go -/

/-- The reference that is released when the registry lets go of a ticket. -/
def Ticket.due? (shares : List (Nat × Share)) (t : Ticket) : Option Kept :=
  match shares.lookup t.serial with
  | none => none
  | some s => if s.owners ≤ 1 then some s.binding.kept else none

/-- The records after the registry let go of a ticket. -/
def Ticket.letGo (shares : List (Nat × Share)) (t : Ticket) : List (Nat × Share) :=
  match shares.lookup t.serial with
  | none => shares
  | some s =>
    if s.owners ≤ 1 then Shares.erase t.serial shares
    else Shares.set t.serial { s with owners := s.owners - 1 } shares

namespace Ticket

variable {t : Ticket}

theorem keys_letGo_sublist : ((t.letGo shares).map Prod.fst).Sublist (shares.map Prod.fst) := by
  unfold letGo
  split
  next => exact List.Sublist.refl _
  next s _ =>
    split
    next => exact Shares.keys_erase_sublist
    next => exact Shares.keys_set_sublist

theorem lookup_letGo_of_ne (hne : other ≠ t.serial) :
    (t.letGo shares).lookup other = shares.lookup other := by
  unfold letGo
  split
  next => rfl
  next s _ =>
    split
    next => exact Shares.lookup_erase_of_ne hne
    next => exact Shares.lookup_set_of_ne hne

/-- What is released is not held any more. -/
theorem count_kept_letGo (hkeys : (shares.map Prod.fst).Nodup) (k : Kept) :
    (Shares.kept (t.letGo shares)).count k + (t.due? shares).toList.count k ≤
      (Shares.kept shares).count k := by
  unfold letGo due?
  cases hs : shares.lookup t.serial with
  | none => exact Nat.le_refl _
  | some s =>
    dsimp only
    by_cases howners : s.owners ≤ 1
    · rw [if_pos howners, if_pos howners]
      exact Nat.le_of_eq (Shares.count_kept_erase hkeys hs k)
    · rw [if_neg howners, if_neg howners, Shares.kept_set hkeys hs]
      exact Nat.le_refl _

end Ticket

/-! ## Changes that keep the shelf tidy -/

namespace Shelf

variable {f : Shelf}

theorem tidy_empty (life : Lifecycle) : Tidy ⟨life, none, [], 0⟩ where
  keys := List.nodup_nil
  below := by simp
  serials := by simp
  ahead := by simp

/-- Fewer records, and a registry with fewer entries or none. -/
theorem Tidy.fewer (ht : f.Tidy) (life : Lifecycle) {registry : Option Registry}
    (hkeys : (shares.map Prod.fst).Sublist (f.shares.map Prod.fst))
    (hregistry : ∀ r, registry = some r → r.entries = [] ∨
      ∃ r', f.registry = some r' ∧ r.entries.Sublist r'.entries) :
    Tidy ⟨life, registry, shares, f.nextSerial⟩ where
  keys := hkeys.nodup ht.keys
  below n hn := ht.below n (hkeys.subset hn)
  serials r hr := by
    rcases hregistry r hr with hnil | ⟨r', hr', hsub⟩
    · rw [hnil]
      exact List.nodup_nil
    · exact (hsub.map _).nodup (ht.serials r' hr')
  ahead r hr n hn := by
    rcases hregistry r hr with hnil | ⟨r', hr', hsub⟩
    · rw [hnil] at hn
      cases hn
    · exact ht.ahead r' hr' n ((hsub.map _).subset hn)

/-- A binding under a new serial number and a new id. -/
theorem Tidy.insert (ht : f.Tidy) {r : Registry} (hr : f.registry = some r) (b : Binding) :
    Tidy ⟨f.lifecycle, some ⟨r.entries ++ [(r.nextId, ⟨f.nextSerial⟩)], r.nextId + 1⟩,
      f.shares ++ [(f.nextSerial, ⟨b, 1⟩)], f.nextSerial + 1⟩ where
  keys := by
    rw [List.map_append]
    refine ht.keys.append (List.nodup_singleton _) ?_
    intro n hn hnew
    have hlt := ht.below n hn
    rw [List.mem_singleton.mp hnew] at hlt
    exact Nat.lt_irrefl _ hlt
  below n hn := by
    rw [List.map_append, List.mem_append] at hn
    rcases hn with hn | hn
    · exact Nat.lt_succ_of_lt (ht.below n hn)
    · rw [List.mem_singleton.mp hn]
      exact Nat.lt_succ_self _
  serials r' hr' := by
    cases hr'
    rw [List.map_append]
    refine (ht.serials r hr).append (List.nodup_singleton _) ?_
    intro n hn hnew
    have hlt := ht.ahead r hr n hn
    rw [List.mem_singleton.mp hnew] at hlt
    exact Nat.lt_irrefl _ hlt
  ahead r' hr' n hn := by
    cases hr'
    rw [List.map_append, List.mem_append] at hn
    rcases hn with hn | hn
    · exact Nat.lt_succ_of_lt (ht.ahead r hr n hn)
    · rw [List.mem_singleton.mp hn]
      exact Nat.lt_succ_self _

/-- Fewer entries, over records that hold the same bindings. -/
theorem Current.fewer (hc : f.Current) {registry : Option Registry} {n : Nat}
    (hlookup : ∀ i share, shares.lookup i = some share →
      ∃ s, f.shares.lookup i = some s ∧ share.binding = s.binding)
    (hregistry : ∀ r, registry = some r →
      ∃ r', f.registry = some r' ∧ r.entries.Sublist r'.entries) :
    Current ⟨f.lifecycle, registry, shares, n⟩ := by
  intro r hr e he share hshare
  obtain ⟨r', hr', hsub⟩ := hregistry r hr
  obtain ⟨s, hs, hbinding⟩ := hlookup _ _ hshare
  rw [hbinding]
  exact hc r' hr' e (hsub.subset he) s hs

theorem Current.insert (hc : f.Current) (ht : f.Tidy) {r : Registry} (hr : f.registry = some r)
    {b : Binding} (hb : b.generation = f.lifecycle.generation) :
    Current ⟨f.lifecycle, some ⟨r.entries ++ [(r.nextId, ⟨f.nextSerial⟩)], r.nextId + 1⟩,
      f.shares ++ [(f.nextSerial, ⟨b, 1⟩)], f.nextSerial + 1⟩ := by
  intro r' hr' e he share hshare
  cases hr'
  rw [List.lookup_append] at hshare
  rcases List.mem_append.mp he with he | he
  · have hne : e.2.serial ≠ f.nextSerial :=
      Nat.ne_of_lt (ht.ahead r hr _ (List.mem_map_of_mem he))
    have hbeq : (e.2.serial == f.nextSerial) = false := by simpa using hne
    rw [List.lookup_cons, hbeq, List.lookup_nil, Option.or_none] at hshare
    exact hc r hr e he share hshare
  · rw [List.mem_singleton.mp he] at hshare
    -- the new serial number was not in use, so what is found under it is the new record
    have hnew : f.shares.lookup f.nextSerial = none := by
      rw [List.lookup_eq_none_iff]
      intro e' he'
      have hlt := ht.below e'.1 (List.mem_map_of_mem he')
      simpa using Nat.ne_of_gt hlt
    rw [hnew, Option.none_or, List.lookup_cons_self] at hshare
    cases hshare
    exact hb

end Shelf

end Embedder
