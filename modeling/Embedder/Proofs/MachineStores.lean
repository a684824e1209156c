import Embedder.Proofs.MachineHeap
import Embedder.Proofs.Stores

/-!
# The interpreter that is modelled fills slots as documented

The programs that fill a slot of a list or of a tuple are one: they find the slots that may be
filled (`World.openSize?`) and put the item there (`World.putItem`), or else they release it and
raise. Between two calls the interpreter is settled (`World.Settled`), and then what the host sees
of containers is what the documentation says (`python_storesItems`).
-/

namespace Embedder.Machine

variable {α : Type} {w w' : World} {o p c : Obj} {ss : List (Option Obj)}

/-! ## Slots -/

/-- The slots of a container. -/
def Payload.slots? : Payload → Container → Option (List (Option Obj))
  | .list slots, .list | .tuple slots, .tuple => some slots.toList
  | _, _ => none

theorem Payload.slot?_eq {q : Payload} {k : Container} (hs : q.slots? k = some ss) (i : Nat) :
    q.slot? i = ss[i]?.join := by
  unfold slots? at hs
  split at hs
  next => cases hs; simp [slot?]
  next => cases hs; simp [slot?]
  next => cases hs

theorem Payload.slots?_withSlot (q : Payload) (k : Container) (i : Nat) (o : Obj) :
    (q.withSlot i o).slots? k = (q.slots? k).map fun ss => ss.set i (some o) := by
  cases q <;> cases k <;> simp [withSlot, slots?]

theorem Payload.slots?_of_ne {q : Payload} {k k' : Container} (hs : q.slots? k = some ss)
    (hne : k' ≠ k) : q.slots? k' = none := by
  cases q <;> cases k <;> cases k' <;> first | rfl | exact absurd rfl hne | cases hs

/-- A state between two calls. -/
structure World.Settled (w : World) : Prop where
  idle : w.busy = false
  told : w.notices = []
  immortal : ∀ o, o.id < w.heap.size → (w.cell o).immortal = !isMade o
  bound : ∀ {o k ss}, (w.cell o).payload.slots? k = some ss → ss.length < 2 ^ 63
  tuple : ∀ {o ss}, (w.cell o).payload.slots? .tuple = some ss → ss ≠ [] →
    isMade o ∧ 0 < (w.cell o).refs

theorem World.lt_size_of_slots {k : Container} (hs : (w.cell c).payload.slots? k = some ss) :
    c.id < w.heap.size := by
  by_contra hge
  rw [cell, Array.getElem?_eq_none (Nat.le_of_not_lt hge)] at hs
  cases hs

/-- What the interpreter knows of containers. -/
def pythonSlots : SlotView World where
  slots k o w := (w.cell o).payload.slots? k
  counted := isMade
  sound := World.Settled

namespace World.Settled

variable {f : Cell → Cell}

theorem there (hw : w.Settled) (ho : pythonSlots.There python o w) :
    (w.cell o).immortal = false ∧ 0 < (w.cell o).refs ∧ o.id < w.heap.size := by
  have hrefs : 0 < (w.cell o).refs := Int.natCast_pos.1 ho.2
  have hsize := lt_size_of_refs hrefs
  have hmade : isMade o = true := ho.1
  refine ⟨?_, hrefs, hsize⟩
  rw [hw.immortal o hsize, hmade]
  rfl

theorem edit (hw : w.Settled) (himmortal : ∀ c, (f c).immortal = c.immortal)
    (hrefs : ∀ c, 0 < c.refs → 0 < (f c).refs)
    (hslots : ∀ c k, ((f c).payload.slots? k).map List.length =
      (c.payload.slots? k).map List.length) : (w.setCell o f).Settled := by
  have hlength (p : Obj) (k : Container) :
      (((w.setCell o f).cell p).payload.slots? k).map List.length =
        ((w.cell p).payload.slots? k).map List.length :=
    field_setCell (g := fun c => (c.payload.slots? k).map List.length) fun c => hslots c k
  have hbefore {p : Obj} {k : Container} {ss : List (Option Obj)}
      (hs : ((w.setCell o f).cell p).payload.slots? k = some ss) :
      ∃ ss', (w.cell p).payload.slots? k = some ss' ∧ ss'.length = ss.length := by
    have hsame := (hlength p k).symm
    rw [hs] at hsame
    exact Option.map_eq_some_iff.1 hsame
  constructor
  case idle => exact hw.idle
  case told => exact hw.told
  case immortal =>
    intro p hp
    rw [size_setCell] at hp
    rw [field_setCell (g := Cell.immortal) himmortal, hw.immortal p hp]
  case bound =>
    intro p k ss hs
    obtain ⟨ss', hs', hsame⟩ := hbefore hs
    rw [← hsame]
    exact hw.bound hs'
  case tuple =>
    intro p ss hs hne
    obtain ⟨ss', hs', hsame⟩ := hbefore hs
    have hne' : ss' ≠ [] := fun hnil => hne (List.length_eq_zero_iff.1 (by rw [← hsame, hnil]; rfl))
    obtain ⟨hmade, hpos⟩ := hw.tuple hs' hne'
    refine ⟨hmade, ?_⟩
    by_cases hp : p = o
    · subst hp
      rw [cell_setCell_self (lt_size_of_refs hpos)]
      exact hrefs _ hpos
    · rwa [cell_setCell_of_ne hp]

theorem incref (hw : w.Settled) (o : Obj) : (w.incref o).Settled := by
  refine hw.edit (fun c => ?_) (fun c hpos => ?_) fun c k => ?_
  · split <;> rfl
  · split
    next => exact hpos
    next => exact Nat.succ_pos _
  · split <;> rfl

end World.Settled

/-! ## References that come and go -/

theorem World.refs_incref (hw : w.Settled) (hp : pythonSlots.There python p w) :
    ((w.incref o).cell p).refs = ((w.cell p).refs : Int) + o.ref p := by
  obtain ⟨hcounted, -, hsize⟩ := hw.there hp
  by_cases hop : o = p
  · subst hop
    rw [incref, cell_setCell_self hsize, hcounted, Obj.ref, if_pos rfl]
    exact Int.natCast_succ _
  · rw [incref, cell_setCell_of_ne (Ne.symm hop), Obj.ref, if_neg hop, Int.add_zero]

/-- What the host is told of a release in a state between two calls. -/
theorem releaseWhile_eq (hw : w.Settled) (hrun : (release o).run w = (.ok (), w')) :
    releaseWhile false o w = ⟨(), { w' with notices := [], busy := false }, w'.notices⟩ := by
  have hidle : { w with busy := false } = w := by
    rw [← hw.idle]
  unfold releaseWhile Exec.effectFor
  rw [hidle, hrun]
  show Effect.mk _ { w' with notices := [], busy := w.busy } _ = _
  rw [hw.idle]
  rfl

theorem lasting_of_lasts (hw : w.Settled) (ho : pythonSlots.Lasts python o w) :
    (w.cell o).immortal ∨ 1 < (w.cell o).refs := by
  by_cases hmade : isMade o
  · exact .inr (Int.ofNat_lt.1 (ho hmade))
  · by_cases hsize : o.id < w.heap.size
    · left
      rw [hw.immortal o hsize, Bool.eq_false_of_not_eq_true hmade]
      rfl
    · left
      rw [World.cell, Array.getElem?_eq_none (Nat.le_of_not_lt hsize)]
      rfl

theorem python_release (hw : w.Settled) (ho : pythonSlots.Lasts python o w) :
    (python.release o w).notices = [] ∧
      (∀ k c, pythonSlots.slots k c (python.release o w).world = pythonSlots.slots k c w) ∧
      ∀ p, pythonSlots.There python p w →
        python.refcount p (python.release o w).world = python.refcount p w - o.ref p := by
  have hlasting := lasting_of_lasts hw ho
  have heq := releaseWhile_eq hw (release_run_of_lasting hlasting)
  show (releaseWhile false o w).notices = [] ∧ _
  have hrelease : python.release o w = releaseWhile false o w := rfl
  rw [hrelease, heq]
  by_cases himmortal : (w.cell o).immortal
  · rw [if_pos himmortal]
    refine ⟨hw.told, fun _ _ => rfl, fun p hp => ?_⟩
    have hne : o ≠ p := by
      rintro rfl
      rw [(hw.there hp).1] at himmortal
      cases himmortal
    rw [Obj.ref, if_neg hne, Int.sub_zero]
    rfl
  · rw [if_neg himmortal]
    refine ⟨hw.told, fun k c => ?_, fun p hp => ?_⟩
    · exact World.field_setCell (g := fun c => c.payload.slots? k) fun _ => rfl
    · obtain ⟨-, -, hsize⟩ := hw.there hp
      show ((((w.setCell o _).cell p).refs : Nat) : Int) = ((w.cell p).refs : Int) - o.ref p
      by_cases hop : o = p
      · subst hop
        have hmany := hlasting.resolve_left himmortal
        rw [World.cell_setCell_self hsize, Obj.ref, if_pos rfl]
        show (((w.cell o).refs - 1 : Nat) : Int) = _
        omega
      · rw [World.cell_setCell_of_ne (Ne.symm hop), Obj.ref, if_neg hop, Int.sub_zero]

/-- What a host sees of containers, it sees in a state with more objects. -/
theorem World.Extends.keeps (h : w.Extends w') : pythonSlots.Keeps python w w' where
  slots {k c ss} hs := by
    have hs : (w.cell c).payload.slots? k = some ss := hs
    show (w'.cell c).payload.slots? k = some ss
    rw [h.payload c (lt_size_of_slots hs), hs]
  counts {o} ho := by
    have hrefs := h.refs o (lt_size_of_refs (Int.natCast_pos.1 ho.2)) ho.1
    exact congrArg Int.ofNat hrefs

/-- A program that releases an item and then raises an exception. -/
theorem refused_of_run {x : Exec Unit} {cls : Builtin} {message : String} (hw : w.Settled)
    (hcls : cls.Lasting) (hx : x.run w = (release o >>= fun _ => throwNew cls message).run w) :
    ∃ p, (x.outcomeFor w).value = .raised p ∧
      (x.outcomeFor w).notices = (python.release o w).notices ∧
      pythonSlots.Keeps python (python.release o w).world (x.outcomeFor w).world := by
  obtain ⟨u, w₁, hrelease⟩ := takeSteps_neverRaises releaseFuel [.drop o] w
  have hrelease : (release o).run w = (.ok (), w₁) := hrelease
  obtain ⟨v, w₂, hthrow, hext, hclass⟩ := throwNew_extends (α := Unit) hcls message w₁
  have hall : w₁.Extends (w₂.incref (w₂.cell v).cls) :=
    hext.trans (.incref w₂ (by rw [hclass]; exact hcls))
  have heq : python.release o w = _ := releaseWhile_eq hw hrelease
  rw [Exec.outcomeFor_of_error (hx.trans ((Exec.run_bind_ok hrelease _).trans hthrow)), heq]
  exact ⟨_, rfl, hall.notices, ⟨hall.keeps.slots, hall.keeps.counts⟩⟩

/-! ## Filling a slot -/

/-- The program that fills a slot. -/
def fillProgram : Container → Obj → Int → Obj → Exec Unit
  | .list => fillList
  | .tuple => fillTuple

/-- The number of slots that it finds. -/
def World.openSize? (w : World) : Container → Obj → Option Nat
  | .list, c => ((w.cell c).payload.slots? .list).map List.length
  | .tuple, c =>
    if (w.cell c).immortal ∨ (w.cell c).refs ≠ 1 then none
    else ((w.cell c).payload.slots? .tuple).map List.length

theorem listSize?_run (c : Obj) (w : World) :
    (listSize? c).run w = (.ok (w.openSize? .list c), w) := by
  have hpayload : (payloadOf c).run w = (.ok (w.cell c).payload, w) := rfl
  rw [listSize?, Exec.run_bind_ok hpayload, World.openSize?]
  cases (w.cell c).payload <;> rfl

theorem ownTupleSize?_run (c : Obj) (w : World) :
    (ownTupleSize? c).run w = (.ok (w.openSize? .tuple c), w) := by
  have hcell : (cellOf c).run w = (.ok (w.cell c), w) := rfl
  rw [ownTupleSize?, Exec.run_bind_ok hcell, World.openSize?]
  cases (w.cell c).payload with
  | tuple slots => rfl
  | _ => exact congrArg (fun r => (Except.ok r, w)) (ite_self none).symm

variable {k : Container} {i : Int} {n m : Nat}

theorem fillProgram_run_of_some (hm : w.openSize? k c = some m) :
    ∃ label, (fillProgram k c i o).run w = (placeItem c m i o label).run w := by
  cases k with
  | list =>
    refine ⟨"list", (Exec.run_bind_ok (listSize?_run c w) _).trans ?_⟩
    rw [hm]
  | tuple =>
    refine ⟨"tuple", (Exec.run_bind_ok (ownTupleSize?_run c w) _).trans ?_⟩
    rw [hm]

theorem fillProgram_run_of_none (hm : w.openSize? k c = none) :
    ∃ message, (fillProgram k c i o).run w =
      (release o >>= fun _ => throwNew .systemError message).run w := by
  cases k with
  | list =>
    refine ⟨"../Objects/listobject.c:264: bad argument to internal function",
      (Exec.run_bind_ok (listSize?_run c w) _).trans ?_⟩
    rw [hm]
    rfl
  | tuple =>
    refine ⟨"../Objects/tupleobject.c:117: bad argument to internal function",
      (Exec.run_bind_ok (ownTupleSize?_run c w) _).trans ?_⟩
    rw [hm]
    rfl

/-- The program finds slots where the host may fill them. -/
theorem World.openSize?_eq_some (hw : w.Settled) (hn : n < m) :
    w.openSize? k c = some m ↔
      ∃ ss, pythonSlots.open? python k c w = some ss ∧ ss.length = m := by
  cases k with
  | list => exact Option.map_eq_some_iff
  | tuple =>
    have hone : python.refcount c w = 1 ↔ (w.cell c).refs = 1 := Int.ofNat_inj (n := 1)
    simp only [SlotView.open?_tuple, hone]
    rw [openSize?]
    split
    next hclosed =>
      refine ⟨nofun, fun ⟨ss, ⟨hrefs, hslots⟩, hlength⟩ => ?_⟩
      have hne : ss ≠ [] := List.ne_nil_of_length_pos (by omega)
      obtain ⟨hmade, hpos⟩ := hw.tuple hslots hne
      rw [hw.immortal c (lt_size_of_refs hpos), hmade] at hclosed
      exact absurd hrefs (hclosed.resolve_left (by decide))
    next hopen =>
      have hrefs : (w.cell c).refs = 1 := by
        by_contra hne
        exact hopen (.inr hne)
      rw [Option.map_eq_some_iff]
      exact exists_congr fun ss =>
        ⟨fun hs => ⟨⟨hrefs, hs.1⟩, hs.2⟩, fun hs => ⟨hs.1.2, hs.2⟩⟩

/-- What the host is told of filling a slot. -/
theorem call_eq (k : Container) (c : Obj) (i : Int) (o : Obj) (w : World) :
    k.call python c i o w = (fillProgram k c i o).outcomeFor w := by
  cases k <;> rfl

theorem python_refuse (hw : w.Settled)
    (hroom : ∀ n : Nat, i = n → ¬pythonSlots.Room python k c n w) :
    ∃ p, (k.call python c i o w).value = .raised p ∧
      (k.call python c i o w).notices = (python.release o w).notices ∧
      pythonSlots.Keeps python (python.release o w).world (k.call python c i o w).world := by
  rw [call_eq]
  cases hm : w.openSize? k c with
  | none =>
    obtain ⟨message, hrun⟩ := fillProgram_run_of_none (i := i) (o := o) hm
    exact refused_of_run hw Builtin.lasting.2.1 hrun
  | some m =>
    obtain ⟨label, hrun⟩ := fillProgram_run_of_some (i := i) (o := o) hm
    have hout : ¬(0 ≤ i ∧ i < m) := by
      rintro ⟨hnonneg, hlt⟩
      obtain ⟨n, rfl⟩ := Int.eq_ofNat_of_zero_le hnonneg
      have hn : n < m := Int.ofNat_lt.1 hlt
      obtain ⟨ss, hopen, rfl⟩ := (World.openSize?_eq_some hw hn).1 hm
      exact hroom n rfl ⟨ss, hopen, hn⟩
    rw [placeItem, if_neg hout] at hrun
    exact refused_of_run hw Builtin.lasting.1 hrun

/-- The state when a slot has an object, and what it had is not released yet. -/
def World.putItem (w : World) (c : Obj) (n : Nat) (o : Obj) : World :=
  w.setCell c fun cell => { cell with payload := cell.payload.withSlot n o }

theorem World.Settled.putItem (hw : w.Settled) (c : Obj) (n : Nat) (o : Obj) :
    (w.putItem c n o).Settled := by
  refine hw.edit (fun _ => rfl) (fun _ hpos => hpos) fun cell k => ?_
  show ((cell.payload.withSlot n o).slots? k).map List.length = _
  rw [Payload.slots?_withSlot, Option.map_map]
  exact congrArg (Option.map · _) (funext fun ss => List.length_set)

theorem World.putItem_sets (hslots : pythonSlots.slots k c w = some ss) (n : Nat) (o : Obj) :
    pythonSlots.Sets python k c n o w (w.putItem c n o) := by
  have hslots : (w.cell c).payload.slots? k = some ss := hslots
  have hself : ((w.putItem c n o).cell c).payload = (w.cell c).payload.withSlot n o := by
    rw [World.putItem, World.cell_setCell_self (World.lt_size_of_slots hslots)]
  constructor
  case slot =>
    show ((w.putItem c n o).cell c).payload.slots? k = ((w.cell c).payload.slots? k).map _
    rw [hself, Payload.slots?_withSlot]
  case others =>
    intro k' c' hne
    show ((w.putItem c n o).cell c').payload.slots? k' = (w.cell c').payload.slots? k'
    by_cases hc : c' = c
    · -- the container has no slots of the other kind
      have hother := Payload.slots?_of_ne hslots (hne.resolve_right (not_not.2 hc))
      rw [hc, hself, Payload.slots?_withSlot, hother]
      rfl
    · rw [World.putItem, World.cell_setCell_of_ne hc]
  case counts =>
    exact fun p => congrArg Int.ofNat (World.field_setCell (g := Cell.refs) fun _ => rfl)

/-- The item goes into the slot first, and what the slot had is released then. -/
theorem fillProgram_run_of_slot {old : Option Obj} (hm : w.openSize? k c = some m) (hn : n < m)
    (hold : (w.cell c).payload.slot? n = old) :
    (fillProgram k c n o).run w = (releaseList old.toList).run (w.putItem c n o) := by
  obtain ⟨label, hrun⟩ := fillProgram_run_of_some (i := n) (o := o) hm
  have hslot : (slotAt c n).run w = (.ok old, w) := by
    rw [← hold]
    rfl
  have hin : 0 ≤ (n : Int) ∧ (n : Int) < m := ⟨Int.natCast_nonneg n, Int.ofNat_lt.2 hn⟩
  rw [hrun, placeItem, if_pos hin, Int.toNat_natCast, Exec.run_bind_ok hslot]
  have hput : (editCell c fun cell => { cell with payload := cell.payload.withSlot n o }).run w =
      (.ok (), w.putItem c n o) := rfl
  exact Exec.run_bind_ok hput _

/-- What the host is told of releasing what a slot had. -/
theorem releaseList_sameUpTo {old : Option Obj} {u : Unit} (hw : w.Settled)
    (hrun : (releaseList old.toList).run w = (.ok u, w')) :
    (w'.effect (Reply.value u)).SameUpTo (pythonSlots.Same python)
      ((Effect.still (.value ()) w).thenDo (python.releaseAll old.toList)) := by
  cases old with
  | none =>
    have hnothing : (takeSteps releaseFuel []).run w = (.ok u, w') := hrun
    rw [takeSteps_nil] at hnothing
    cases hnothing
    exact ⟨rfl, hw.told, ⟨fun _ _ => rfl, fun _ => rfl⟩⟩
  | some o =>
    have heq : python.release o w = _ := releaseWhile_eq hw hrun
    show Effect.SameUpTo _ _ ⟨_, (python.release o w).world, (python.release o w).notices⟩
    rw [heq]
    exact ⟨rfl, rfl, ⟨fun _ _ => rfl, fun _ => rfl⟩⟩

theorem python_store {old : Option Obj} (hw : w.Settled)
    (hopen : pythonSlots.open? python k c w = some ss) (hold : ss[n]? = some old) :
    ∃ w', w'.Settled ∧ pythonSlots.Sets python k c n o w w' ∧
      (k.call python c n o w).SameUpTo (pythonSlots.Same python)
        ((Effect.still (.value ()) w').thenDo (python.releaseAll old.toList)) := by
  have hn : n < ss.length := (List.getElem?_eq_some_iff.1 hold).1
  have hm : w.openSize? k c = some ss.length :=
    (World.openSize?_eq_some hw hn).2 ⟨ss, hopen, rfl⟩
  have hslots := pythonSlots.slots_of_open? hopen
  have hhad : (w.cell c).payload.slot? n = old := by
    rw [Payload.slot?_eq hslots, hold]
    rfl
  have hput := hw.putItem c n o
  obtain ⟨u, w', hrelease⟩ :=
    takeSteps_neverRaises releaseFuel (old.toList.map .drop) (w.putItem c n o)
  refine ⟨w.putItem c n o, hput, World.putItem_sets hslots n o, ?_⟩
  rw [call_eq, Exec.outcomeFor_of_ok ((fillProgram_run_of_slot hm hn hhad).trans hrelease)]
  exact releaseList_sameUpTo hput hrelease

/-- **The interpreter fills slots as documented.** -/
theorem python_storesItems : python.StoresItems pythonSlots where
  bound hw hs := World.Settled.bound hw hs
  tuple {c ss w} hw hs hne := by
    obtain ⟨hmade, hpos⟩ := World.Settled.tuple hw hs hne
    exact ⟨hmade, Int.natCast_pos.2 hpos⟩
  retain o w hw :=
    ⟨World.Settled.incref hw o,
      fun k c => World.field_setCell (g := fun c => c.payload.slots? k) fun c => by split <;> rfl,
      fun p hp => World.refs_incref hw hp⟩
  release hw ho := python_release hw ho
  store hw hopen hold := python_store hw hopen hold
  refuse hw hroom := python_refuse hw hroom

/-! ## A state with containers -/

/-- A state with the objects that are always there and some that a program made. -/
def World.stocked (made : List Cell) : World :=
  { World.bare with heap := (staticCells ++ made).toArray }

/-- The objects that are always there never end, and none of them has a slot. -/
theorem staticCells_fixed :
    staticCells.all (fun c => c.immortal && (c.payload.slots? .list).isNone &&
      (c.payload.slots? .tuple).all List.isEmpty) = true := by
  decide +kernel

theorem fixed_of_mem {cell : Cell} (hmem : cell ∈ staticCells) : cell.immortal = true ∧
    ∀ k ss, cell.payload.slots? k = some ss → ss = [] := by
  have hall := List.all_eq_true.1 staticCells_fixed cell hmem
  simp only [Bool.and_eq_true] at hall
  obtain ⟨⟨himmortal, hlist⟩, htuple⟩ := hall
  refine ⟨himmortal, fun k ss hs => ?_⟩
  cases k with
  | list =>
    rw [hs] at hlist
    cases hlist
  | tuple =>
    rw [hs] at htuple
    exact List.isEmpty_iff.1 htuple

namespace World

variable {made : List Cell}

/-- What an object of such a state is. -/
theorem stocked_cell (made : List Cell) (o : Obj) :
    ((stocked made).heap.size ≤ o.id ∧ ∀ k, ((stocked made).cell o).payload.slots? k = none) ∨
    (isMade o = false ∧ (stocked made).cell o ∈ staticCells) ∨
    (isMade o = true ∧ (stocked made).cell o ∈ made) := by
  have hheap : (stocked made).heap[o.id]? = (staticCells ++ made)[o.id]? :=
    List.getElem?_toArray
  rw [cell, hheap]
  rcases Nat.lt_or_ge o.id staticCells.length with hlt | hge
  · refine .inr (.inl ⟨?_, ?_⟩)
    · unfold isMade
      exact decide_eq_false (Nat.not_le.2 hlt)
    · rw [List.getElem?_append_left hlt, List.getElem?_eq_getElem hlt]
      exact List.getElem_mem hlt
  · rw [List.getElem?_append_right hge]
    rcases Nat.lt_or_ge (o.id - staticCells.length) made.length with hin | hout
    · refine .inr (.inr ⟨?_, ?_⟩)
      · unfold isMade
        exact decide_eq_true hge
      · rw [List.getElem?_eq_getElem hin]
        exact List.getElem_mem hin
    · refine .inl ⟨?_, fun k => ?_⟩
      · have hsize : (stocked made).heap.size = staticCells.length + made.length :=
          List.length_append
        omega
      · rw [List.getElem?_eq_none hout]
        rfl

theorem stocked_settled (hmade : ∀ cell ∈ made, cell.immortal = false ∧
    ∀ k ss, cell.payload.slots? k = some ss → ss.length < 2 ^ 63 ∧ 0 < cell.refs) :
    (stocked made).Settled := by
  constructor
  case idle => rfl
  case told => rfl
  case immortal =>
    intro o ho
    rcases stocked_cell made o with ⟨hnone, -⟩ | ⟨hstatic, hmem⟩ | ⟨hmade', hmem⟩
    · omega
    · rw [(fixed_of_mem hmem).1, hstatic]
      rfl
    · rw [(hmade _ hmem).1, hmade']
      rfl
  case bound =>
    intro o k ss hs
    rcases stocked_cell made o with ⟨-, hnone⟩ | ⟨-, hmem⟩ | ⟨-, hmem⟩
    · rw [hnone] at hs
      cases hs
    · rw [(fixed_of_mem hmem).2 k ss hs]
      decide
    · exact ((hmade _ hmem).2 k ss hs).1
  case tuple =>
    intro o ss hs hne
    rcases stocked_cell made o with ⟨-, hnone⟩ | ⟨-, hmem⟩ | ⟨hmade', hmem⟩
    · rw [hnone] at hs
      cases hs
    · exact absurd ((fixed_of_mem hmem).2 .tuple ss hs) hne
    · exact ⟨hmade', ((hmade _ hmem).2 .tuple ss hs).2⟩

end World

/-- An object of a class with one reference to it, or more. -/
def madeCell (refs : Nat) (cls : Builtin) (payload : Payload) : Cell :=
  ⟨refs, false, false, cls.obj, payload, [], none, []⟩

/-- The objects that a program made, in their order. -/
def madeObj (i : Nat) : Obj := ⟨staticCells.length + i⟩

/-- A list with one object in it and a slot left, an empty tuple of one slot, the object in the
list, and one to put there. -/
def World.furnished : World :=
  .stocked [madeCell 1 .list (.list #[some (madeObj 2), none]), madeCell 1 .tuple (.tuple #[none]),
    madeCell 2 .list (.list #[]), madeCell 1 .list (.list #[])]

/-- A host with a handle on the object that is to be put somewhere. -/
def furnishedHost : Host World := { Host.fresh World.furnished with live := 1 }

theorem furnished_settled : World.furnished.Settled := by
  refine World.stocked_settled fun cell hmem => ?_
  simp only [List.mem_cons, List.not_mem_nil, or_false] at hmem
  rcases hmem with rfl | rfl | rfl | rfl
  all_goals
    refine ⟨rfl, fun k ss hs => ?_⟩
    cases k <;> cases hs
    exact ⟨by decide, by decide⟩

/-- The list takes an item at its first slot, whose object loses a reference, and none at the index
that arrives as that of the last slot counted from the end. -/
theorem python_stores :
    let item : Handle := ⟨madeObj 3, .owned⟩
    let run := fun index => (Handle.setListItem python (.ofBorrowed (madeObj 0)) index item).run.run
      furnishedHost
    let left := fun x : Except Exit (Except ExceptionReport Unit × Host World) =>
      x.toOption.map fun x => (pythonSlots.slots .list (madeObj 0) x.2.world,
        python.refcount (madeObj 2) x.2.world, python.refcount (madeObj 3) x.2.world)
    python.StoresItems pythonSlots ∧ pythonSlots.sound World.furnished ∧
    furnishedHost.pending = none ∧
    (∃ h', run 0 = .ok (.ok (), h')) ∧
    left (run 0) = some (some [some (madeObj 3), none], 1, 1) ∧
    (run 0xffffffffffffffff).toOption.map (fun x => (x.1, x.2.live)) =
      some (.error ⟨"IndexError", "list assignment index out of range", none⟩, 0) ∧
    left (run 0xffffffffffffffff) = some (some [some (madeObj 2), none], 2, 0) := by
  intro item run left
  have hroom : pythonSlots.Room python .list (madeObj 0) 0 World.furnished :=
    ⟨[some (madeObj 2), none], by decide +kernel, by decide⟩
  have laws := Container.storing_laws python_storesItems .list (.ofBorrowed (madeObj 0)) item 0
    furnishedHost furnished_settled rfl
  exact ⟨python_storesItems, furnished_settled, rfl, laws.1.2 ⟨hroom, nofun⟩, by decide +kernel,
    by decide +kernel, by decide +kernel⟩

/-- A tuple with one reference refuses itself, borrowed, at the index of its slot. -/
theorem python_refuses_itself :
    let tuple := madeObj 1
    python.refcount tuple World.furnished = 1 ∧
    pythonSlots.slots .tuple tuple World.furnished = some [none] ∧ (0 : UInt64).toNat < 1 ∧
    (((Handle.setTupleItem python ⟨tuple, .owned⟩ 0 (.ofBorrowed tuple)).run.run
      furnishedHost).toOption.map fun x =>
        (x.1, x.2.live, pythonSlots.slots .tuple tuple x.2.world)) =
      some (.error ⟨"SystemError",
        "../Objects/tupleobject.c:117: bad argument to internal function", none⟩, 1,
        some [none]) := by
  refine ⟨by decide +kernel, by decide +kernel, by decide, by decide +kernel⟩

end Embedder.Machine
