import Embedder.Proofs.Shelves

/-!
# The owners of a shared binding

A shared binding is owned by the tickets on it: those in the registry and those that the program has
in hand. The record of a binding only counts its owners. Where the count is right
(`Shelf.Accounts`), a ticket in hand finds its binding, also after its id was removed and after the
registry is gone. Here it stays right under each change of the shelf, for the tickets that the
change hands out or takes back.
-/

namespace Embedder

variable {t : Ticket} {out : List Ticket} {B : Binding → Prop}

theorem Ticket.serial_ne {t t' : Ticket} (ht : t' ≠ t) : t'.serial ≠ t.serial := by
  cases t
  cases t'
  exact fun heq => ht (congrArg Ticket.mk heq)

/-- Ids tell entries apart, and those to come are new. -/
structure Registry.Numbered (r : Registry) : Prop where
  distinct : (r.entries.map Prod.fst).Nodup
  below : ∀ i ∈ r.entries.map Prod.fst, i < r.nextId

namespace Registry

variable {r : Registry}

theorem numbered_empty : empty.Numbered where
  distinct := List.nodup_nil
  below := by simp [empty]

theorem Numbered.insert (hn : r.Numbered) (t : Ticket) :
    Numbered ⟨r.entries ++ [(r.nextId, t)], r.nextId + 1⟩ where
  distinct := by
    rw [List.map_append]
    refine hn.distinct.append (List.nodup_singleton _) fun i hi hnew => ?_
    have hlt := hn.below i hi
    rw [List.mem_singleton.mp hnew] at hlt
    exact Int.lt_irrefl _ hlt
  below i hi := by
    rw [List.map_append, List.mem_append] at hi
    show i < r.nextId + 1
    rcases hi with hi | hi
    · have hlt := hn.below i hi
      omega
    · rw [List.mem_singleton.mp hi]
      exact Int.lt_succ r.nextId

theorem Numbered.remove (hn : r.Numbered) (id : Int) :
    Numbered ⟨r.entries.filter fun e => e.1 ≠ id, r.nextId⟩ where
  distinct := (List.filter_sublist.map _).nodup hn.distinct
  below i hi := hn.below i ((List.filter_sublist.map _).subset hi)

/-- An id takes one ticket out of the registry. -/
theorem Numbered.perm_filter {id : Int} (hn : r.Numbered) (hid : r.entries.lookup id = some t) :
    (r.entries.map (·.2)).Perm ((r.entries.filter fun e => e.1 ≠ id).map (·.2) ++ [t]) := by
  have hperm := (Keyed.perm_filter hn.distinct hid).map (·.2)
  exact hperm.trans (List.perm_append_singleton t _).symm

end Registry

/-! ## Counting owners -/

namespace Shelf

variable {f : Shelf}

/-- The number of owners that the record of a ticket counts. -/
def owners (f : Shelf) (t : Ticket) : Nat := ((f.shares.lookup t.serial).map (·.owners)).getD 0

theorem owners_congr {f' : Shelf} (hs : f.shares.lookup t.serial = f'.shares.lookup t.serial) :
    f.owners t = f'.owners t := by
  unfold owners
  rw [hs]

theorem owners_of_known {s : Share} (hs : f.shares.lookup t.serial = some s) :
    f.owners t = s.owners := by
  unfold owners
  rw [hs]
  rfl

/-- The tickets in the registry. -/
def filed (f : Shelf) : List Ticket := (f.registry.map fun r => r.entries.map (·.2)).getD []

/-- The shelf is orderly, it has bindings as `B` says, and its records count the tickets in the
registry and some more that are out. -/
structure Accounts (f : Shelf) (B : Binding → Prop) (out : List Ticket) : Prop
    extends f.Orderly where
  numbered : ∀ r, f.registry = some r → r.Numbered
  bindings : ∀ e ∈ f.shares, B e.2.binding
  counted : ∀ t, f.owners t = f.filed.count t + out.count t

namespace Accounts

theorem perm {out' : List Ticket} (ha : f.Accounts B out) (hp : out.Perm out') : f.Accounts B out' where
  toOrderly := ha.toOrderly
  numbered := ha.numbered
  bindings := ha.bindings
  counted t := by rw [ha.counted t, hp.count_eq]

/-- A ticket that is out, or in the registry, finds its record. -/
theorem known (ha : f.Accounts B out) (ht : t ∈ f.filed ++ out) :
    ∃ s, f.shares.lookup t.serial = some s := by
  have hpos : 0 < f.owners t := by
    rw [ha.counted t, ← List.count_append]
    exact List.count_pos_iff.mpr ht
  unfold owners at hpos
  cases hs : f.shares.lookup t.serial with
  | none =>
    rw [hs] at hpos
    exact absurd hpos (Nat.lt_irrefl 0)
  | some s => exact ⟨s, rfl⟩

/-- The lifecycle has no part in it. -/
theorem turn (ha : f.Accounts B out) (life : Lifecycle) :
    Accounts { f with lifecycle := life } B out where
  toOrderly := (Changes.turn f life).orderly ha.toOrderly
  numbered := ha.numbered
  bindings := ha.bindings
  counted := ha.counted

/-- A record that counts another number of owners, for as many tickets more or less. -/
theorem shared {s : Share} {n : Nat} {out' : List Ticket} (ha : f.Accounts B out)
    (hs : f.shares.lookup t.serial = some s) (hn : 1 ≤ n)
    (hself : n = f.filed.count t + out'.count t)
    (hothers : ∀ t' ≠ t, out'.count t' = out.count t') :
    Accounts { f with shares := Shares.set t.serial { s with owners := n } f.shares } B out' where
  toOrderly := (Changes.shared f hs hn).orderly ha.toOrderly
  numbered := ha.numbered
  bindings e he := by
    obtain ⟨e', he', rfl⟩ := List.mem_map.mp he
    split
    next => exact ha.bindings (t.serial, s) (Shares.mem_of_lookup hs)
    next => exact ha.bindings e' he'
  counted t' := by
    by_cases ht : t' = t
    · subst ht
      rw [owners_of_known (Shares.lookup_set_self hs _)]
      exact hself
    · have hlookup : (Shares.set t.serial { s with owners := n } f.shares).lookup t'.serial =
        f.shares.lookup t'.serial := Shares.lookup_set_of_ne (Ticket.serial_ne ht)
      rw [hothers t' ht]
      exact (owners_congr hlookup).trans (ha.counted t')

/-- A record that lost its last owner. -/
theorem ended {s : Share} (ha : f.Accounts B (t :: out)) (hs : f.shares.lookup t.serial = some s)
    (howners : s.owners ≤ 1) :
    Accounts { f with shares := Shares.erase t.serial f.shares } B out where
  toOrderly := (Changes.ended f hs).orderly ha.toOrderly
  numbered := ha.numbered
  bindings e he := ha.bindings e (List.mem_filter.mp he).1
  counted t' := by
    have hcounted := ha.counted t'
    rw [List.count_cons] at hcounted
    by_cases ht : t' = t
    · subst ht
      rw [owners_of_known hs] at hcounted
      unfold owners
      rw [Shares.lookup_erase_self]
      simp only [beq_self_eq_true, if_true] at hcounted
      show 0 = f.filed.count t' + out.count t'
      omega
    · have hlookup : (Shares.erase t.serial f.shares).lookup t'.serial =
        f.shares.lookup t'.serial := Shares.lookup_erase_of_ne (Ticket.serial_ne ht)
      have hne : (t == t') = false := by simpa using Ne.symm ht
      rw [hne] at hcounted
      exact (owners_congr hlookup).trans hcounted

/-- What is taken out of the registry is out. -/
theorem withdrawn {registry : Option Registry} {l : List Ticket} (ha : f.Accounts B out)
    (ho : Orderly { f with registry := registry })
    (hn : ∀ r, registry = some r → r.Numbered)
    (hfiled : f.filed.Perm (filed { f with registry := registry } ++ l)) :
    Accounts { f with registry := registry } B (l ++ out) where
  toOrderly := ho
  numbered := hn
  bindings := ha.bindings
  counted t := by
    have hcounted := ha.counted t
    rw [hfiled.count_eq, List.count_append] at hcounted
    show f.owners t = _
    rw [hcounted, List.count_append, Nat.add_assoc]

/-- A binding under a new serial number has one owner, in the registry. -/
theorem inserted {r : Registry} {b : Binding} (ha : f.Accounts B out) (hr : f.registry = some r)
    (hb : B b) :
    Accounts ⟨f.lifecycle, some ⟨r.entries ++ [(r.nextId, ⟨f.nextSerial⟩)], r.nextId + 1⟩,
      f.shares ++ [(f.nextSerial, ⟨b, 1⟩)], f.nextSerial + 1⟩ B out where
  toOrderly := (Changes.inserted f hr b).orderly ha.toOrderly
  numbered r' hr' := by
    cases hr'
    exact (ha.numbered r hr).insert _
  bindings e he := by
    rcases List.mem_append.mp he with he | he
    · exact ha.bindings e he
    · cases List.mem_singleton.mp he
      exact hb
  counted t := by
    have hcounted := ha.counted t
    have hfiled : f.filed = r.entries.map (·.2) := by
      unfold filed
      rw [hr]
      rfl
    show owners _ t = List.count t (List.map (fun e : Int × Ticket => e.2)
      (r.entries ++ [(r.nextId, ⟨f.nextSerial⟩)])) + out.count t
    rw [List.map_append, List.count_append, ← hfiled]
    have hnew : f.nextSerial ∉ f.shares.map Prod.fst :=
      fun hn => Nat.lt_irrefl _ (ha.below _ hn)
    by_cases ht : t = ⟨f.nextSerial⟩
    · subst ht
      -- no ticket has the new number yet, or its record would be there
      have hnone : f.owners ⟨f.nextSerial⟩ = 0 := by
        unfold owners
        rw [List.lookup_eq_none_iff.mpr fun e he => by simpa using (Keyed.ne_of_new hnew he).symm]
        rfl
      rw [owners_of_known (Keyed.lookup_new _ hnew)]
      simp only [List.map_cons, List.map_nil, List.count_singleton_self]
      omega
    · have hlookup : (f.shares ++ [(f.nextSerial, (⟨b, 1⟩ : Share))]).lookup t.serial =
          f.shares.lookup t.serial := by
        have hserial : t.serial ≠ f.nextSerial := Ticket.serial_ne ht
        have hbeq : (t.serial == f.nextSerial) = false := by simpa using hserial
        rw [List.lookup_append, List.lookup_cons, hbeq, List.lookup_nil, Option.or_none]
      have hzero : List.count t [(⟨f.nextSerial⟩ : Ticket)] = 0 := by
        simpa [List.count_singleton] using Ne.symm ht
      rw [List.map_cons, List.map_nil, hzero, Nat.add_zero]
      exact (owners_congr hlookup).trans hcounted

end Accounts

end Shelf

end Embedder
