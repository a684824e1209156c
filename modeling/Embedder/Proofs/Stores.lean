import Embedder.Proofs.Arguments
import Embedder.Proofs.Partings

/-!
# Items in the slots of lists and tuples

A host names a slot by a machine word, and the interpreter takes a signed one: half of the indices
arrive as negative numbers. No container is so long that one of its slots has such an index, so the
number that arrives names a slot just where the index does (`Handle.signed_eq_natCast`), and no slot
is ever counted from the end.

The item is handed over before anyone knows whether there is a slot for it, and a borrowed one gets
a reference first (`Host.handing`). That reference counts: a tuple that is put into itself through a
borrowed handle is not the host's alone any more (`SlotView.room_handing`).

Where there is a slot, it takes the item and its object is released (`Container.Stores`). Anywhere
else the item is released, and the exception that says so is taken (`Container.Refuses`).
-/

namespace Embedder

open Exception

variable {σ : Type} {G : Guest σ} {h h' : Host σ} {c o p : Obj} {ss : List (Option Obj)} {w w' : σ}
  {n : Nat}

/-! ## Indices -/

/-- What arrives as a number of slots is that number. -/
theorem Handle.signed_eq_natCast {index : UInt64} (hn : n < 2 ^ 63) :
    Handle.signed index = n ↔ index.toNat = n := by
  have hindex : Handle.signed (UInt64.ofNat index.toNat) = Handle.signed index := by
    rw [UInt64.ofNat_toNat]
  constructor
  · intro hs
    have hlt : index.toNat < 2 ^ 63 :=
      Handle.lt_of_signed_nonneg index.toNat_lt (by rw [hindex, hs]; exact Int.natCast_nonneg n)
    rw [← hindex, Handle.signed_ofNat hlt] at hs
    exact Int.ofNat.inj hs
  · rintro rfl
    rw [← hindex, Handle.signed_ofNat hn]

/-! ## Containers as documented -/

/-- The objects with slots that a host fills. -/
inductive Container where
  | list
  | tuple
  deriving DecidableEq, Repr

namespace Container

/-- The interpreter's own way to fill a slot. -/
def call (G : Guest σ) : Container → Obj → Int → Obj → σ → Outcome σ Unit
  | list => G.setListItem
  | tuple => G.setTupleItem

/-- What an error is said to come from. -/
def context : Container → String
  | list => "PyList_SetItem"
  | tuple => "PyTuple_SetItem"

/-- Fill a slot through a handle. -/
def fill (G : Guest σ) : Container → Handle → UInt64 → Handle → Attempt σ ExceptionReport Unit
  | list => Handle.setListItem G
  | tuple => Handle.setTupleItem G

end Container

/-- What can be seen of containers. -/
structure SlotView (σ : Type) where
  /-- The slots of a container. A slot that was not filled yet is empty. -/
  slots : Container → Obj → σ → Option (List (Option Obj))
  /-- References to an object are counted, as they need not be to one that never ends. -/
  counted : Obj → Bool
  /-- The interpreter is in such a state between two calls. -/
  sound : σ → Prop

namespace SlotView

variable (V : SlotView σ) (G : Guest σ)

/-- The slots that a host may fill: those of a list, and those of a tuple that nobody else has. -/
def open? (k : Container) (c : Obj) (w : σ) : Option (List (Option Obj)) :=
  match k with
  | .list => V.slots .list c w
  | .tuple => if G.refcount c w = 1 then V.slots .tuple c w else none

variable {V G} {k : Container}

theorem open?_tuple : V.open? G .tuple c w = some ss ↔
    G.refcount c w = 1 ∧ V.slots .tuple c w = some ss := by
  show (if G.refcount c w = 1 then V.slots .tuple c w else none) = some ss ↔ _
  split
  next hone => exact ⟨fun hs => ⟨hone, hs⟩, fun hs => hs.2⟩
  next hne => exact ⟨nofun, fun hs => absurd hs.1 hne⟩

theorem slots_of_open? (hopen : V.open? G k c w = some ss) : V.slots k c w = some ss := by
  cases k with
  | list => exact hopen
  | tuple => exact (open?_tuple.1 hopen).2

variable (V G)

/-- There is a slot to fill at an index. -/
def Room (k : Container) (c : Obj) (n : Nat) (w : σ) : Prop :=
  ∃ ss, V.open? G k c w = some ss ∧ n < ss.length

theorem room_tuple {V : SlotView σ} {G : Guest σ} : V.Room G .tuple c n w ↔
    ∃ ss, (G.refcount c w = 1 ∧ V.slots .tuple c w = some ss) ∧ n < ss.length :=
  exists_congr fun _ => and_congr_left' open?_tuple

/-- An object whose references are counted is there. -/
def There (o : Obj) (w : σ) : Prop := V.counted o ∧ 0 < G.refcount o w

/-- An object is there with one reference less. -/
def Lasts (o : Obj) (w : σ) : Prop := V.counted o → 1 < G.refcount o w

/-- Someone else has a reference to the object of a handle. -/
def Outlives (item : Handle) (w : σ) : Prop :=
  V.counted item.obj → item.stake < G.refcount item.obj w

/-- Nothing that can be seen is different. -/
structure Same (w w' : σ) : Prop where
  slots : ∀ k c, V.slots k c w = V.slots k c w'
  counts : ∀ o, G.refcount o w = G.refcount o w'

/-- What is there is as it was; something new may have come. -/
structure Keeps (w w' : σ) : Prop where
  slots : ∀ {k c ss}, V.slots k c w = some ss → V.slots k c w' = some ss
  counts : ∀ {o}, V.There G o w → G.refcount o w' = G.refcount o w

theorem Keeps.there {V : SlotView σ} {G : Guest σ} (hk : V.Keeps G w w') (ho : V.There G o w) :
    V.There G o w' :=
  ⟨ho.1, by rw [hk.counts ho]; exact ho.2⟩

theorem Keeps.trans {V : SlotView σ} {G : Guest σ} {w'' : σ} (hk : V.Keeps G w w')
    (hk' : V.Keeps G w' w'') : V.Keeps G w w'' where
  slots hs := hk'.slots (hk.slots hs)
  counts ho := (hk'.counts (hk.there ho)).trans (hk.counts ho)

/-- One slot refers to another object, and nothing else is different. -/
structure Sets (k : Container) (c : Obj) (i : Nat) (o : Obj) (w w' : σ) : Prop where
  slot : V.slots k c w' = (V.slots k c w).map fun ss => ss.set i (some o)
  others : ∀ k' c', k' ≠ k ∨ c' ≠ c → V.slots k' c' w' = V.slots k' c' w
  counts : ∀ p, G.refcount p w' = G.refcount p w

end SlotView

variable {V : SlotView σ} {k : Container}

/-- The guest treats containers as documented. -/
structure Guest.StoresItems (G : Guest σ) (V : SlotView σ) : Prop where
  /-- There are no more slots than a signed machine word can count. -/
  bound : ∀ {k c ss w}, V.sound w → V.slots k c w = some ss → ss.length < 2 ^ 63
  /-- A tuple that has slots is an object like any other. -/
  tuple : ∀ {c ss w}, V.sound w → V.slots .tuple c w = some ss → ss ≠ [] → V.There G c w
  retain : ∀ (o) {w}, V.sound w → V.sound (G.retain o w) ∧
    (∀ k c, V.slots k c (G.retain o w) = V.slots k c w) ∧
    ∀ p, V.There G p w → G.refcount p (G.retain o w) = G.refcount p w + o.ref p
  /-- A reference that is not the last one goes, and that is all. -/
  release : ∀ {o w}, V.sound w → V.Lasts G o w → (G.release o w).notices = [] ∧
    (∀ k c, V.slots k c (G.release o w).world = V.slots k c w) ∧
    ∀ p, V.There G p w → G.refcount p (G.release o w).world = G.refcount p w - o.ref p
  /-- A slot takes the reference over, and then the object that it had is released. -/
  store : ∀ {k c o w ss old} {i : Nat}, V.sound w → V.open? G k c w = some ss →
    ss[i]? = some old → ∃ w', V.sound w' ∧ V.Sets G k c i o w w' ∧
      (k.call G c i o w).SameUpTo (V.Same G)
        ((Effect.still (.value ()) w').thenDo (G.releaseAll old.toList))
  /-- Where there is no slot the item is released, and then an exception is raised. -/
  refuse : ∀ {k c o w} {i : Int}, V.sound w → (∀ n : Nat, i = n → ¬V.Room G k c n w) →
    ∃ p, (k.call G c i o w).value = .raised p ∧
      (k.call G c i o w).notices = (G.release o w).notices ∧
      V.Keeps G (G.release o w).world (k.call G c i o w).world

/-! ## Handing an item over -/

/-- The host when a handle has ended and its reference is on its way. -/
def Host.handing (G : Guest σ) (item : Handle) (h : Host σ) : Host σ :=
  match item.ownership with
  | .owned => h.hold (-1)
  | .borrowed => h.more G item.obj

namespace Handle

variable (item : Handle)

theorem steal_handing : (item.steal G).run h = .ok (item.obj, h.handing G item) := by
  obtain ⟨o, ownership⟩ := item
  cases ownership with
  | owned => rfl
  | borrowed =>
    show Except.ok (o, ((h.more G o).hold 1).hold (-1)) = _
    rw [Host.hold_hold, Int.add_right_neg, Host.hold_zero]
    rfl

theorem handing_books : (h.handing G item).toBooks = (h.hold (-item.stake)).toBooks := by
  obtain ⟨o, ownership⟩ := item
  cases ownership with
  | owned => rfl
  | borrowed =>
    have hsame : (h.hold 0).toBooks = h.toBooks := congrArg Host.toBooks Host.hold_zero
    exact hsame.symm

theorem handing_live : (h.handing G item).live = h.live - item.stake := by
  rw [item.handing_books]
  exact Int.sub_eq_add_neg.symm

theorem handing_pending : (h.handing G item).pending = h.pending := by
  rw [item.handing_books]
  rfl

theorem handing_printing : (h.handing G item).printing = h.printing := by
  rw [item.handing_books]
  rfl

end Handle

/-- An item is stolen and then the interpreter is asked for a slot. -/
theorem Container.fill_run (target item : Handle) (index : UInt64) (hp : h.pending = none) :
    (k.fill G target index item).run.run h =
      (h.handing G item).requested G k.context
        (k.call G target.obj (Handle.signed index) item.obj) := by
  have hquiet : (h.handing G item).pending = none := item.handing_pending.trans hp
  cases k with
  | list => exact (Attempt.run_lift_bind item.steal_handing).trans (request_run hquiet)
  | tuple => exact (Attempt.run_lift_bind item.steal_handing).trans (request_run hquiet)

/-- Nothing is pending afterwards, and the item's handle is gone. -/
theorem Container.fill_ends (target item : Handle) (index : UInt64) (hp : h.pending = none) :
    Ends ((k.fill G target index item).run.run h) fun x =>
      x.2.pending = none ∧ x.2.live = h.live - item.stake := by
  intro x hx
  have hquiet : (h.handing G item).pending = none := item.handing_pending.trans hp
  have hrequested : (h.handing G item).requested G k.context
      (k.call G target.obj (Handle.signed index) item.obj) = .ok x :=
    (k.fill_run target item index hp).symm.trans hx
  exact ⟨requested_pending hquiet hrequested, (requested_live hrequested).trans item.handing_live⟩

/-- The reference of the item is passed on once, or given up once. -/
theorem Container.fill_placed (G : Guest σ) (k : Container) (target item : Handle) (index : UInt64)
    {s : Host (Ledgered σ)} (hp : s.pending = none) :
    Ends ((k.fill G.ledgered target index item).run.run s) fun x =>
      ∃ ts, Parted item (item.fee ++ ts) s x.2 ∧ Placed item.obj ts x.1 := by
  intro x hx
  cases k with
  | list => exact Handle.setListItem_ok hp hx
  | tuple => exact Handle.setTupleItem_ok hp hx

section Handing

variable (hG : G.StoresItems V) (item : Handle)

include hG

theorem Host.handing_sound (hw : V.sound h.world) : V.sound (h.handing G item).world := by
  obtain ⟨o, ownership⟩ := item
  cases ownership with
  | owned => exact hw
  | borrowed => exact (hG.retain o hw).1

theorem Host.handing_slots (hw : V.sound h.world) (k : Container) (c : Obj) :
    V.slots k c (h.handing G item).world = V.slots k c h.world := by
  obtain ⟨o, ownership⟩ := item
  cases ownership with
  | owned => rfl
  | borrowed => exact (hG.retain o hw).2.1 k c

/-- Only a borrowed handle gets a reference. -/
theorem Host.handing_counts (hw : V.sound h.world) (hthere : V.There G p h.world) :
    G.refcount p (h.handing G item).world =
      G.refcount p h.world + (1 - item.stake) * item.obj.ref p := by
  obtain ⟨o, ownership⟩ := item
  cases ownership with
  | owned =>
    show G.refcount p h.world = G.refcount p h.world + (1 - 1) * o.ref p
    omega
  | borrowed =>
    show _ = G.refcount p h.world + (1 - 0) * o.ref p
    rw [Int.sub_zero, Int.one_mul]
    exact (hG.retain o hw).2.2 p hthere

/-- A handle that is handed over takes no reference away. -/
theorem Host.handing_there (hw : V.sound h.world) (hthere : V.There G p h.world) :
    V.There G p (h.handing G item).world := by
  refine ⟨hthere.1, ?_⟩
  rw [Host.handing_counts hG item hw hthere]
  have hgain : 0 ≤ (1 - item.stake) * item.obj.ref p := by
    refine Int.mul_nonneg ?_ ?_
    · unfold Handle.stake
      split <;> decide
    · unfold Obj.ref
      split <;> decide
  have hpos := hthere.2
  omega

/-- The host alone has an object, and still does when the item is handed over, unless that took a
reference to the very object. -/
theorem Host.handing_count_eq_one (hw : V.sound h.world) (hthere : V.There G c h.world) :
    G.refcount c (h.handing G item).world = 1 ↔
      G.refcount c h.world = 1 ∧ item ≠ .ofBorrowed c := by
  have hpos := hthere.2
  obtain ⟨o, ownership⟩ := item
  cases ownership with
  | owned => exact ⟨fun hone => ⟨hone, nofun⟩, fun hone => hone.1⟩
  | borrowed =>
    have hcount : G.refcount c (G.retain o h.world) = G.refcount c h.world + o.ref c :=
      (hG.retain o hw).2.2 c hthere
    show G.refcount c (G.retain o h.world) = 1 ↔ _
    rw [hcount]
    by_cases hoc : o = c
    · have hone : o.ref c = 1 := if_pos hoc
      refine ⟨fun htwo => by omega, fun hself => absurd ?_ hself.2⟩
      rw [hoc, Handle.ofBorrowed]
    · have hnone : o.ref c = 0 := if_neg hoc
      rw [hnone, Int.add_zero]
      refine ⟨fun hone => ⟨hone, fun hself => hoc ?_⟩, fun hone => hone.1⟩
      exact congrArg Handle.obj hself

/-- Only a tuple that is put into itself through a borrowed handle loses its room on the way. -/
theorem SlotView.room_handing (hw : V.sound h.world) :
    V.Room G k c n (h.handing G item).world ↔
      V.Room G k c n h.world ∧ (k = .tuple → item ≠ .ofBorrowed c) := by
  have hslots := Host.handing_slots hG item hw k c
  cases k with
  | list =>
    show (∃ ss, V.slots .list c _ = some ss ∧ n < ss.length) ↔ _
    rw [hslots]
    exact ⟨fun hroom => ⟨hroom, nofun⟩, fun hroom => hroom.1⟩
  | tuple =>
    -- a tuple with a slot is there, so the count of its references tells of one that came
    have hone {ss} (hopen : V.slots .tuple c h.world = some ss) (hn : n < ss.length) :=
      Host.handing_count_eq_one hG item hw
        (hG.tuple hw hopen (List.ne_nil_of_length_pos (Nat.zero_lt_of_lt hn)))
    rw [room_tuple, room_tuple, hslots]
    constructor
    · rintro ⟨ss, ⟨hcount, hopen⟩, hn⟩
      obtain ⟨hcount, hself⟩ := (hone hopen hn).1 hcount
      exact ⟨⟨ss, ⟨hcount, hopen⟩, hn⟩, fun _ => hself⟩
    · rintro ⟨⟨ss, ⟨hcount, hopen⟩, hn⟩, hself⟩
      exact ⟨ss, ⟨(hone hopen hn).2 ⟨hcount, hself rfl⟩, hopen⟩, hn⟩

/-- An object that someone else has stays when the reference that was handed over goes. -/
theorem Host.handing_lasts (hw : V.sound h.world) (hothers : V.Outlives G item h.world) :
    V.Lasts G item.obj (h.handing G item).world := by
  intro hcounted
  have hstake := hothers hcounted
  obtain ⟨o, ownership⟩ := item
  cases ownership with
  | owned => exact hstake
  | borrowed =>
    have hpos : 0 < G.refcount o h.world := hstake
    show 1 < G.refcount o (G.retain o h.world)
    rw [(hG.retain o hw).2.2 o ⟨hcounted, hpos⟩, Obj.ref, if_pos rfl]
    omega

end Handing

/-! ## What becomes of an item -/

/-- An exception is normalized, read and let go, and what is there stays as it is. -/
structure Guest.TakesQuietly (G : Guest σ) (V : SlotView σ) (p : Pending) (w : σ) : Prop where
  normalize : V.Keeps G w (G.normalize p w).world
  describe : let q := G.normalize p w
    V.Keeps G q.world (G.describe q.value q.world).lines.world
  release : let q := G.normalize p w
    let v := (G.describe q.value q.world).lines.world
    V.Keeps G v (G.releaseAll q.value.refs v).world

namespace Container

/-- An item went into a slot, which had `old`, and so came `w`; then `old` was released. -/
structure Stores (k : Container) (G : Guest σ) (V : SlotView σ) (c : Obj) (n : Nat) (item : Handle)
    (old : Option Obj) (w : σ) (h h' : Host σ) : Prop where
  had : ∃ ss, V.slots k c h.world = some ss ∧ ss[n]? = some old
  slot : V.slots k c w = (V.slots k c h.world).map fun ss => ss.set n (some item.obj)
  others : ∀ k' c', k' ≠ k ∨ c' ≠ c → V.slots k' c' w = V.slots k' c' h.world
  /-- The slot has the reference of an owned handle, and a new one in place of a borrowed one. -/
  counts : ∀ p, V.There G p h.world →
    G.refcount p w = G.refcount p h.world + (1 - item.stake) * item.obj.ref p
  released : V.Same G h'.world (G.releaseAll old.toList w).world
  /-- An object that does not end with this loses a reference, and that is all. -/
  lasting : (∀ o ∈ old, V.Lasts G o w) → (∀ k' c', V.slots k' c' h'.world = V.slots k' c' w) ∧
    ∀ p, V.There G p w → G.refcount p h'.world = G.refcount p w - Obj.refs old.toList p
  books : h'.toBooks = ((h.hold (-item.stake)).after (G.releaseAll old.toList w)).toBooks

/-- An item was released, and `w` is where the exception was raised that says why; then that was
taken. -/
structure Refuses (G : Guest σ) (V : SlotView σ) (item : Handle) (p : Pending) (w : σ)
    (r : ExceptionReport) (h h' : Host σ) : Prop where
  released : V.Keeps G (G.release item.obj (h.handing G item).world).world w
  /-- An item that someone else has loses the reference of an owned handle, and that is all. -/
  lasting : V.Outlives G item h.world →
    (∀ {k c ss}, V.slots k c h.world = some ss → V.slots k c w = some ss) ∧
    ∀ o, V.There G o h.world → G.refcount o w = G.refcount o h.world - item.stake * item.obj.ref o
  described : G.Describes (G.normalize p w).value (G.normalize p w).world r
  taken : Host.taken G p { (h.hold (-item.stake)).after
    (G.release item.obj (h.handing G item).world) with world := w } = .ok (r, h')
  /-- If taking it changes nothing, nothing is changed at the end. -/
  quiet : h.printing = false → G.TakesQuietly V p w → V.Keeps G w h'.world

end Container

/-- A request that is refused comes to the exception being taken. -/
theorem Exception.requested_of_raised {α : Type} {context : String} {f : σ → Outcome σ α}
    {p : Pending} (raised : (f h.world).value = .raised p) : h.requested G context f =
      ((h.after (f h.world)).taken G p).map fun x => (.error x.1, x.2) := by
  unfold Host.requested
  rw [raised]

theorem Exception.map_error {ε α β : Type} {x : Except ε α} {f : α → β} {e : ε}
    (hr : x.map f = .error e) : x = .error e := by
  cases x with
  | error e' =>
    cases hr
    rfl
  | ok a => cases hr

theorem Host.after_books {α β : Type} {k : Host σ} {e : Effect σ α} {d : Effect σ β}
    (hbooks : h.toBooks = k.toBooks) (hnotices : e.notices = d.notices) :
    (h.after e).toBooks = (k.after d).toBooks := by
  obtain ⟨books, w⟩ := h
  cases hbooks
  unfold Host.after
  rw [hnotices]

/-- What taking an exception changes without printing it, the interpreter changes. -/
theorem Exception.taken_quiet {k : Host σ} {r : ExceptionReport} {p : Pending}
    (hprinting : k.printing = false) (htaken : k.taken G p = .ok (r, h'))
    (hquiet : G.TakesQuietly V p k.world) : V.Keeps G k.world h'.world := by
  have hsilent (q : Pending) (w : σ) :
      G.printed (k.after (G.normalize p k.world)).printing q w = .still none w := by
    show G.printed k.printing q w = _
    rw [hprinting]
    rfl
  rw [Host.taken, Host.drained_of_returned (by rw [hsilent]; rfl), hsilent] at htaken
  cases htaken
  exact hquiet.normalize.trans (hquiet.describe.trans hquiet.release)

section Laws

variable (hG : G.StoresItems V) {item : Handle}

include hG

/-- What a slot had is released, and what has another reference stays. -/
theorem Guest.StoresItems.releaseAll_lasting {old : Option Obj} (hw : V.sound w)
    (hold : ∀ o ∈ old, V.Lasts G o w) :
    (∀ k c, V.slots k c (G.releaseAll old.toList w).world = V.slots k c w) ∧
      ∀ p, V.There G p w → G.refcount p (G.releaseAll old.toList w).world =
        G.refcount p w - Obj.refs old.toList p := by
  cases old with
  | none => exact ⟨fun _ _ => rfl, fun _ _ => (Int.sub_zero _).symm⟩
  | some o =>
    obtain ⟨-, hslots, hcounts⟩ := hG.release hw (hold o rfl)
    refine ⟨hslots, fun p hp => ?_⟩
    have hrefs : Obj.refs [o] p = o.ref p := Int.add_zero _
    exact (hcounts p hp).trans (congrArg (G.refcount p w - ·) hrefs.symm)

/-- An item that someone else has is handed over and released: it loses the reference of an owned
handle, and that is all. -/
theorem Guest.StoresItems.release_handing (hw : V.sound h.world)
    (hothers : V.Outlives G item h.world) :
    let w := (G.release item.obj (h.handing G item).world).world
    (∀ k c, V.slots k c w = V.slots k c h.world) ∧
      ∀ o, V.There G o h.world → V.There G o w ∧
        G.refcount o w = G.refcount o h.world - item.stake * item.obj.ref o := by
  intro w
  have hlasts := Host.handing_lasts hG item hw hothers
  obtain ⟨-, hslots, hcounts⟩ := hG.release (Host.handing_sound hG item hw) hlasts
  refine ⟨fun k c => (hslots k c).trans (Host.handing_slots hG item hw k c), fun o ho => ?_⟩
  have hthere := Host.handing_there hG item hw ho
  have hcount : G.refcount o w = G.refcount o (h.handing G item).world - item.obj.ref o :=
    hcounts o hthere
  refine ⟨⟨ho.1, ?_⟩, ?_⟩
  · rw [hcount, Obj.ref]
    split
    next hself =>
      have hmore := hlasts (hself ▸ ho.1)
      rw [hself] at hmore
      omega
    next =>
      have hpos := hthere.2
      omega
  · rw [hcount, Host.handing_counts hG item hw ho, Int.sub_mul]
    omega

namespace Container

theorem stores_of_room (hw : V.sound h.world) (hroom : V.Room G k c n (h.handing G item).world) :
    let called := k.call G c n item.obj (h.handing G item).world
    called.value = .value () ∧
      ∃ old w, k.Stores G V c n item old w h ((h.handing G item).after called) := by
  intro called
  obtain ⟨ss, hopen, hn⟩ := hroom
  have hslot : ss[n]? = some ss[n] := List.getElem?_eq_getElem hn
  have hslots := Host.handing_slots hG item hw
  have hhanded := Host.handing_sound hG item hw
  obtain ⟨w, hsound, hsets, hcall⟩ := hG.store (o := item.obj) hhanded hopen hslot
  refine ⟨hcall.value, ss[n], w, ?_⟩
  constructor
  case had =>
    refine ⟨ss, ?_, hslot⟩
    rw [← hslots]
    exact V.slots_of_open? hopen
  case slot => rw [hsets.slot, hslots]
  case others => exact fun k' c' hne => (hsets.others k' c' hne).trans (hslots k' c')
  case counts =>
    exact fun p hp => (hsets.counts p).trans (Host.handing_counts hG item hw hp)
  case released => exact hcall.world
  case lasting =>
    intro hold
    obtain ⟨hkept, hcounts⟩ := hG.releaseAll_lasting hsound hold
    exact ⟨fun k' c' => (hcall.world.slots k' c').trans (hkept k' c'),
      fun p hp => (hcall.world.counts p).trans (hcounts p hp)⟩
  case books => exact Host.after_books item.handing_books hcall.notices

theorem refuses_of_no_room {i : Int} (hw : V.sound h.world)
    (hroom : ∀ n : Nat, i = n → ¬V.Room G k c n (h.handing G item).world) :
    let called := k.call G c i item.obj (h.handing G item).world
    ∃ p, called.value = .raised p ∧
      ∀ r h', ((h.handing G item).after called).taken G p = .ok (r, h') →
        Refuses G V item p called.world r h h' := by
  intro called
  have hhanded := Host.handing_sound hG item hw
  obtain ⟨p, hraised, hnotices, hkept⟩ := hG.refuse (o := item.obj) hhanded hroom
  refine ⟨p, hraised, fun r h' htaken => ?_⟩
  constructor
  case released => exact hkept
  case lasting =>
    intro hothers
    obtain ⟨hslots, hcounts⟩ := hG.release_handing hw hothers
    refine ⟨fun {k' c' ss} hs => hkept.slots ((hslots k' c').trans hs), fun o ho => ?_⟩
    obtain ⟨hstill, hcount⟩ := hcounts o ho
    exact (hkept.counts hstill).trans hcount
  case described =>
    obtain ⟨rfl, -⟩ := drained_ok htaken
    exact G.describe_report _ _
  case taken =>
    have hbooks := Host.after_books (item.handing_books (G := G) (h := h)) hnotices
    rw [← htaken]
    exact congrArg (fun books => Host.taken G p ⟨books, called.world⟩) hbooks.symm
  case quiet =>
    intro hprinting hquiet
    exact taken_quiet (k := (h.handing G item).after called)
      (item.handing_printing.trans hprinting) htaken hquiet

/-- What arrives as a number names a slot just where the index does. -/
theorem signed_of_room (hw : V.sound w) (hroom : V.Room G k c n w) {index : UInt64} :
    Handle.signed index = n ↔ index.toNat = n := by
  obtain ⟨ss, hopen, hn⟩ := hroom
  exact Handle.signed_eq_natCast (hn.trans (hG.bound hw (V.slots_of_open? hopen)))

/-- How filling a slot turns out: there is room for the item when it was handed over, or there is
not. -/
theorem fill_cases (target item : Handle) (index : UInt64) (hw : V.sound h.world)
    (hp : h.pending = none) :
    let run := (k.fill G target index item).run.run h
    let handed := h.handing G item
    let called := k.call G target.obj (Handle.signed index) item.obj handed.world
    (V.Room G k target.obj index.toNat handed.world ∧ ∃ old w h', run = .ok (.ok (), h') ∧
      k.Stores G V target.obj index.toNat item old w h h') ∨
    (¬V.Room G k target.obj index.toNat handed.world ∧ ∃ p, called.value = .raised p ∧
      run = (Host.taken G p (handed.after called)).map (fun x => (.error x.1, x.2)) ∧
      ∀ r h', (handed.after called).taken G p = .ok (r, h') →
        Refuses G V item p called.world r h h') := by
  intro run handed called
  have hhanded : V.sound handed.world := Host.handing_sound hG item hw
  have hrun : run = handed.requested G k.context
      (k.call G target.obj (Handle.signed index) item.obj) := k.fill_run target item index hp
  by_cases hroom : V.Room G k target.obj index.toNat handed.world
  · have hindex : Handle.signed index = index.toNat := (signed_of_room hG hhanded hroom).2 rfl
    obtain ⟨hvalue, old, w, hstores⟩ := stores_of_room hG hw hroom
    rw [hindex] at hrun
    exact .inl ⟨hroom, old, w, _, hrun.trans (requested_of_value hvalue), hstores⟩
  · have hnone : ∀ n : Nat, Handle.signed index = n → ¬V.Room G k target.obj n handed.world := by
      intro n hindex hn
      rw [← (signed_of_room hG hhanded hn).1 hindex] at hn
      exact hroom hn
    obtain ⟨p, hraised, hrefuses⟩ := refuses_of_no_room hG hw hnone
    exact .inr ⟨hroom, p, hraised, hrun.trans (requested_of_raised hraised), hrefuses⟩

/-- **Items are stored by any index, or given up.** A slot of a list, or of a tuple that nobody else
has, takes an item just where its index is less than the number of slots; a number that arrives as a
negative one names no slot. Only a tuple that is put into itself through a borrowed handle is
refused all the same: the reference that the handle gets is a second one.

If the item is stored, its slot alone is different, and what the slot had is released. If not, the
item is released, and the error is the exception of the interpreter, taken; what is there is as the
release left it. Nothing is pending then, and the item's handle is gone, with one reference passed
on or given up. It comes back unless an exception was printed and this ended the process. -/
theorem storing_laws (k : Container) (target item : Handle) (index : UInt64) (h : Host σ)
    (hw : V.sound h.world) (hp : h.pending = none) :
    let run := (k.fill G target index item).run.run h
    ((∃ h', run = .ok (.ok (), h')) ↔
      V.Room G k target.obj index.toNat h.world ∧
        (k = .tuple → item ≠ .ofBorrowed target.obj)) ∧
    (∀ h', run = .ok (.ok (), h') →
      ∃ old w, k.Stores G V target.obj index.toNat item old w h h') ∧
    (∀ r h', run = .ok (.error r, h') →
      let called := k.call G target.obj (Handle.signed index) item.obj (h.handing G item).world
      ∃ p, called.value = .raised p ∧ Refuses G V item p called.world r h h') ∧
    (Ends run fun x => x.2.pending = none ∧ x.2.live = h.live - item.stake) ∧
    (∀ e, run = .error e → h.printing = true ∧ ∃ p w, (G.print p w).value = some e.status) ∧
    ∀ s : Host (Ledgered σ), s.pending = none →
      Ends ((k.fill G.ledgered target index item).run.run s) fun x =>
        ∃ ts, Parted item (item.fee ++ ts) s x.2 ∧ Placed item.obj ts x.1 := by
  intro run
  have hends := k.fill_ends (G := G) target item index hp
  have hplaced (s : Host (Ledgered σ)) := k.fill_placed G target item index (s := s)
  rw [← SlotView.room_handing hG item hw]
  rcases fill_cases hG target item index hw hp with
    ⟨hroom, old, w, k', hrun, hstores⟩ | ⟨hroom, p, hraised, hrun, hrefuses⟩
  · have hrun : run = .ok (.ok (), k') := hrun
    refine ⟨⟨fun _ => hroom, fun _ => ⟨k', hrun⟩⟩, fun h' hok => ?_, fun r h' herror => ?_, hends,
      fun e hexit => ?_, hplaced⟩
    · cases hrun.symm.trans hok
      exact ⟨old, w, hstores⟩
    · cases hrun.symm.trans herror
    · cases hrun.symm.trans hexit
  · have hrun : run = (Host.taken G p _).map fun x => (.error x.1, x.2) := hrun
    have hnever (h' : Host σ) : run ≠ .ok (.ok (), h') := by
      intro hok
      obtain ⟨x, -, hx⟩ := map_ok (hrun.symm.trans hok)
      cases hx
    refine ⟨⟨fun ⟨h', hok⟩ => absurd hok (hnever h'), fun hthere => absurd hthere hroom⟩,
      fun h' hok => absurd hok (hnever h'), fun r h' herror => ?_, hends, fun e hexit => ?_,
      hplaced⟩
    · obtain ⟨x, htaken, hx⟩ := map_ok (hrun.symm.trans herror)
      cases hx
      exact ⟨p, hraised, hrefuses _ _ htaken⟩
    · obtain ⟨hon, v, hv⟩ := drained_exit (map_error (hrun.symm.trans hexit))
      exact ⟨item.handing_printing.symm.trans hon, _, v, hv⟩

end Container

end Laws

end Embedder
