import Embedder.Proofs.Watched
import Mathlib.Data.List.Infix
import Mathlib.Data.List.Sigma

/-!
# The ledger of the queue

Beside a host whose guest is watched, a `Ledger` has what became of every reference that was put
into the queue. It decides nothing. An entry is made by comparing the host before and after: what is
new at the end of the queue has arrived, and what is new in the diary was released.

The queue is emptied when a session is entered and in the deferred step of a stop, each time by a
settlement, which deals with what it took one reference after the other. A ledger that accounts for
its host (`Ledger.Accounts`) knows the one place of every reference that has ever arrived: the next
settlement after it has taken it, or there was none and it still waits. And it knows the releases
that it got: one, if the settlement was of its generation and has come to it, and else none
(`Ledger.dueTo`).
-/

namespace Embedder

/-- A reference that came into the queue. -/
structure Arrival where
  kept : Kept
  /-- How many settlements there had been. -/
  before : Nat
  /-- If the binding lost its last owner while a stop tore the registry down: the number that the
  settlement of that stop has. -/
  teardown : Option Nat

/-- What a session took out of the queue when it was entered, or a stop in its deferred step. -/
structure Settlement where
  byStop : Bool
  generation : Nat
  /-- Each reference under the number of its arrival. -/
  taken : List (Kept × Nat)
  /-- Those that are still to be dealt with. -/
  left : List (Kept × Nat)

/-- A release that the guest saw, and the number of the arrival that it was for, if it was for one.
-/
structure Deed where
  arrival : Option Nat
  release : Release

/-- What became of the references that were put into the queue. All lists have the oldest entry
first. -/
structure Ledger where
  arrivals : List Arrival
  settlements : List Settlement
  deeds : List Deed

variable {σ : Type} {h h' : Host (Watched σ)} {k : Kept} {n j : Nat} {arrival teardown : Option Nat}

/-! ## Arrivals by number -/

/-- Among some arrivals, numbered from `start`, those that came after `j` settlements. -/
def Arrival.numbered (as : List Arrival) (start j : Nat) : List (Kept × Nat) :=
  ((as.zipIdx start).filter (·.1.before = j)).map fun e => (e.1.kept, e.2)

namespace Arrival

variable {as bs : List Arrival} {start : Nat}

theorem numbered_append :
    numbered (as ++ bs) start j = numbered as start j ++ numbered bs (start + as.length) j := by
  unfold numbered
  rw [List.zipIdx_append, List.filter_append, List.map_append]

theorem numbered_of_ne (has : ∀ a ∈ as, a.before ≠ j) : numbered as start j = [] := by
  unfold numbered
  rw [List.filter_eq_nil_iff.mpr, List.map_nil]
  rintro ⟨a, n⟩ he
  have hmem : a ∈ as := by
    rw [← List.zipIdx_map_fst start as]
    exact List.mem_map_of_mem he
  simpa using has a hmem

theorem numbered_of_eq (has : ∀ a ∈ as, a.before = j) :
    numbered as start j = (as.map kept).zipIdx start := by
  unfold numbered
  rw [List.filter_eq_self.mpr, List.zipIdx_map]
  · rfl
  · rintro ⟨a, n⟩ he
    have hmem : a ∈ as := by
      rw [← List.zipIdx_map_fst start as]
      exact List.mem_map_of_mem he
    simpa using has a hmem

theorem mem_numbered :
    (k, n) ∈ numbered as 0 j ↔ ∃ a, as[n]? = some a ∧ a.kept = k ∧ a.before = j := by
  unfold numbered
  simp only [List.mem_map, List.mem_filter, decide_eq_true_eq]
  constructor
  · rintro ⟨⟨a, m⟩, ⟨hmem, hbefore⟩, heq⟩
    cases heq
    exact ⟨a, List.mem_zipIdx_iff_getElem?.mp hmem, rfl, hbefore⟩
  · rintro ⟨a, ha, rfl, hbefore⟩
    exact ⟨(a, n), ⟨List.mem_zipIdx_iff_getElem?.mpr ha, hbefore⟩, rfl⟩

theorem numbered_nodup (as : List Arrival) (j : Nat) : (numbered as 0 j).Nodup := by
  refine List.Nodup.of_map Prod.snd ?_
  unfold numbered
  rw [List.map_map]
  exact (List.filter_sublist.map _).nodup (List.nodup_zipIdx_map_snd as)

end Arrival

/-! ## Entries -/

namespace Settlement

/-- The settlement is done with the first reference that it had left. -/
def strike (c : Settlement) : Settlement := { c with left := c.left.tail }

/-- What the settlement does with a reference: it releases it if it is of its own generation. -/
def releases (c : Settlement) (k : Kept) : List Release :=
  if k.generation = c.generation then [⟨k, some c.generation⟩] else []

/-- The releases by now of a reference that the settlement took. -/
def dueTo (c : Settlement) (k : Kept) (n : Nat) : List Release :=
  if (k, n) ∈ c.left then [] else c.releases k

variable {c : Settlement} {rest : List (Kept × Nat)}

theorem dueTo_first (hleft : c.left = (k, n) :: rest) : c.dueTo k n = [] := by
  rw [dueTo, hleft, if_pos List.mem_cons_self]

theorem dueTo_strike_first (hleft : c.left = (k, n) :: rest) (hnodup : c.left.Nodup) :
    c.strike.dueTo k n = c.releases k := by
  rw [hleft] at hnodup
  unfold dueTo strike
  rw [hleft, List.tail_cons, if_neg (List.nodup_cons.mp hnodup).1]
  rfl

theorem dueTo_strike_of_ne (hleft : c.left = (k, n) :: rest) {k' : Kept} {m : Nat} (hne : n ≠ m) :
    c.strike.dueTo k' m = c.dueTo k' m := by
  have hother : (k', m) ∈ (k, n) :: rest ↔ (k', m) ∈ rest := by
    rw [List.mem_cons, or_iff_right]
    exact fun heq => hne (Prod.mk.inj heq).2.symm
  unfold dueTo strike releases
  simp only [hleft, hother, List.tail_cons]

end Settlement

namespace Ledger

def empty : Ledger := ⟨[], [], []⟩

/-- What arrived after so many settlements. -/
def arrived (l : Ledger) (j : Nat) : List (Kept × Nat) := Arrival.numbered l.arrivals 0 j

/-- The releases for an arrival. -/
def releasesOf (l : Ledger) (n : Nat) : List Release :=
  (l.deeds.filter (·.arrival = some n)).map Deed.release

/-- The releases that are owed to an arrival by now: those that the next settlement after it owes. -/
def dueTo (l : Ledger) (n : Nat) (a : Arrival) : List Release :=
  (l.settlements[a.before]?).elim [] (·.dueTo a.kept n)

/-- The host went on. What is new in its diary was released for an arrival, if one is given. -/
def note (l : Ledger) (arrival teardown : Option Nat) (h h' : Host (Watched σ)) : Ledger :=
  { l with
    arrivals := l.arrivals ++
      (h'.waiting.drop h.waiting.length).map (⟨·, l.settlements.length, teardown⟩)
    deeds := l.deeds ++ (h'.world.diary.drop h.world.diary.length).map (⟨arrival, ·⟩) }

/-- All that waits is taken. What waits arrived last. -/
def take (l : Ledger) (byStop : Bool) (h : Host (Watched σ)) : Ledger :=
  let taken := h.waiting.zipIdx (l.arrivals.length - h.waiting.length)
  { l with settlements := l.settlements ++ [⟨byStop, h.lifecycle.generation, taken, taken⟩] }

/-- A settlement is done with the first reference that it had left. -/
def strike (l : Ledger) (j : Nat) : Ledger :=
  { l with settlements := l.settlements.modify j Settlement.strike }

theorem getElem?_strike (l : Ledger) (j i : Nat) : (l.strike j).settlements[i]? =
    (l.settlements[i]?).map fun c => if j = i then c.strike else c :=
  List.getElem?_modify Settlement.strike j l.settlements i

/-- A settlement was there before, or it is the one that was just made. -/
theorem of_take {l : Ledger} {byStop : Bool} {c : Settlement}
    (hc : (l.take byStop h).settlements[j]? = some c) : l.settlements[j]? = some c ∨
      (j = l.settlements.length ∧ c.byStop = byStop ∧ c.generation = h.lifecycle.generation ∧
        c.taken = h.waiting.zipIdx (l.arrivals.length - h.waiting.length) ∧ c.left = c.taken) := by
  unfold take at hc
  rcases Nat.lt_or_ge j l.settlements.length with hlt | hge
  · rw [List.getElem?_append_left hlt] at hc
    exact .inl hc
  · rw [List.getElem?_append_right hge, List.getElem?_singleton] at hc
    split at hc
    next hzero =>
      cases hc
      exact .inr ⟨by omega, rfl, rfl, rfl, rfl⟩
    next => cases hc

/-- The ledger accounts for the host. -/
structure Accounts (l : Ledger) (h : Host (Watched σ)) : Prop where
  diary : l.deeds.map Deed.release = h.world.diary
  queue : ∃ old fresh, l.arrivals = old ++ fresh ∧ fresh.map Arrival.kept = h.waiting ∧
    (∀ a ∈ old, a.before < l.settlements.length) ∧ ∀ a ∈ fresh, a.before = l.settlements.length
  taken : ∀ (j : Nat) (c : Settlement), l.settlements[j]? = some c → c.taken = l.arrived j
  left : ∀ (j : Nat) (c : Settlement), l.settlements[j]? = some c → c.left <:+ c.taken
  known : ∀ d ∈ l.deeds, ∀ n, d.arrival = some n → n < l.arrivals.length
  due : ∀ (n : Nat) (a : Arrival), l.arrivals[n]? = some a → l.releasesOf n = l.dueTo n a

theorem empty_accounts {h : Host (Watched σ)} (hdiary : h.world.diary = [])
    (hwaiting : h.waiting = []) : empty.Accounts h where
  diary := hdiary.symm
  queue := ⟨[], [], rfl, hwaiting.symm, (fun _ ha => nomatch ha), fun _ ha => nomatch ha⟩
  taken _ _ hc := nomatch hc
  left _ _ hc := nomatch hc
  known _ hd := nomatch hd
  due _ _ ha := nomatch ha

theorem note_eq {l : Ledger} {new : List Kept} {done : List Release}
    (hwaiting : h'.waiting = h.waiting ++ new)
    (hdiary : h'.world.diary = h.world.diary ++ done) : l.note arrival teardown h h' =
      { l with
        arrivals := l.arrivals ++ new.map (⟨·, l.settlements.length, teardown⟩)
        deeds := l.deeds ++ done.map (⟨arrival, ·⟩) } := by
  unfold note
  rw [hwaiting, hdiary, List.drop_left, List.drop_left]

/-- Nothing came and nothing was released. -/
theorem note_of_eq {l : Ledger} (hwaiting : h'.waiting = h.waiting)
    (hdiary : h'.world.diary = h.world.diary) : l.note arrival teardown h h' = l := by
  unfold note
  rw [hwaiting, hdiary, List.drop_length, List.drop_length]
  simp only [List.map_nil, List.append_nil]

theorem map_release_append (ds : List Deed) (done : List Release) :
    (ds ++ done.map (Deed.mk arrival ·)).map Deed.release = ds.map Deed.release ++ done := by
  rw [List.map_append, List.map_map]
  exact congrArg _ (List.map_id done)

theorem releasesOf_append (l : Ledger) (done : List Release) (n : Nat) :
    releasesOf { l with deeds := l.deeds ++ done.map (⟨arrival, ·⟩) } n =
      l.releasesOf n ++ if arrival = some n then done else [] := by
  unfold releasesOf
  rw [List.filter_append, List.map_append, List.filter_map]
  congr 1
  split
  next heq => simp [heq, Function.comp_def]
  next hne => simp [hne, Function.comp_def]

namespace Accounts

variable {l : Ledger}

/-- What is left of a settlement is on no account more than once. -/
theorem left_nodup (hl : l.Accounts h) {c : Settlement} (hc : l.settlements[j]? = some c) :
    c.left.Nodup := by
  have htaken : c.taken.Nodup := by
    rw [hl.taken j c hc]
    exact Arrival.numbered_nodup l.arrivals j
  exact (hl.left j c hc).sublist.nodup htaken

/-- What a settlement has left arrived since the settlement before it. -/
theorem of_left (hl : l.Accounts h) {c : Settlement} (hc : l.settlements[j]? = some c)
    (hmem : (k, n) ∈ c.left) : ∃ a, l.arrivals[n]? = some a ∧ a.kept = k ∧ a.before = j := by
  have htaken : (k, n) ∈ c.taken := (hl.left j c hc).subset hmem
  rw [hl.taken j c hc] at htaken
  exact Arrival.mem_numbered.mp htaken

theorem before_le (hl : l.Accounts h) {a : Arrival} (ha : a ∈ l.arrivals) :
    a.before ≤ l.settlements.length := by
  obtain ⟨old, fresh, harrivals, -, hold, hfresh⟩ := hl.queue
  rw [harrivals] at ha
  rcases List.mem_append.mp ha with ha | ha
  · exact Nat.le_of_lt (hold a ha)
  · exact Nat.le_of_eq (hfresh a ha)

/-- What arrived since the last settlement is what waits. It has the last numbers. -/
theorem arrived_last (hl : l.Accounts h) : l.arrived l.settlements.length =
    h.waiting.zipIdx (l.arrivals.length - h.waiting.length) := by
  obtain ⟨old, fresh, harrivals, hkept, hold, hfresh⟩ := hl.queue
  have hstart : l.arrivals.length - h.waiting.length = old.length := by
    rw [harrivals, ← hkept, List.length_append, List.length_map, Nat.add_sub_cancel]
  unfold arrived
  rw [hstart, harrivals, Arrival.numbered_append,
    Arrival.numbered_of_ne fun a ha => Nat.ne_of_lt (hold a ha), List.nil_append,
    Arrival.numbered_of_eq hfresh, hkept, Nat.zero_add]

theorem waiting_eq (hl : l.Accounts h) :
    h.waiting = (l.arrived l.settlements.length).map Prod.fst := by
  rw [hl.arrived_last, List.zipIdx_map_fst]

/-- Nothing that the ledger has to do with has changed. -/
theorem congr (hl : l.Accounts h) (hdiary : h'.world.diary = h.world.diary)
    (hwaiting : h'.waiting = h.waiting) : l.Accounts h' where
  diary := hl.diary.trans hdiary.symm
  queue := by
    rw [hwaiting]
    exact hl.queue
  taken := hl.taken
  left := hl.left
  known := hl.known
  due := hl.due

/-- More came into the queue. Nothing was released for it so far. -/
theorem arrive (hl : l.Accounts h) (new : List Arrival)
    (hnew : ∀ a ∈ new, a.before = l.settlements.length)
    (hdiary : h'.world.diary = h.world.diary)
    (hwaiting : h'.waiting = h.waiting ++ new.map Arrival.kept) :
    Accounts { l with arrivals := l.arrivals ++ new } h' where
  diary := hl.diary.trans hdiary.symm
  queue := by
    obtain ⟨old, fresh, harrivals, hkept, hold, hfresh⟩ := hl.queue
    refine ⟨old, fresh ++ new, ?_, ?_, hold, fun a ha => ?_⟩
    · show l.arrivals ++ new = old ++ (fresh ++ new)
      rw [harrivals, List.append_assoc]
    · rw [hwaiting, List.map_append, hkept]
    · rcases List.mem_append.mp ha with ha | ha
      · exact hfresh a ha
      · exact hnew a ha
  taken j c hc := by
    have hlt : j < l.settlements.length := (List.getElem?_eq_some_iff.mp hc).1
    have hnone : Arrival.numbered new (0 + l.arrivals.length) j = [] :=
      Arrival.numbered_of_ne fun a ha => by rw [hnew a ha]; exact Nat.ne_of_gt hlt
    rw [hl.taken j c hc]
    unfold arrived
    rw [Arrival.numbered_append, hnone, List.append_nil]
  left := hl.left
  known d hd n hn := by
    rw [List.length_append]
    exact Nat.lt_add_right _ (hl.known d hd n hn)
  due n a ha := by
    by_cases hlt : n < l.arrivals.length
    · rw [List.getElem?_append_left hlt] at ha
      exact hl.due n a ha
    · -- nothing can have been released for a number that was not given out before
      have hnone : l.releasesOf n = [] := by
        unfold releasesOf
        rw [List.filter_eq_nil_iff.mpr, List.map_nil]
        intro d hd hn
        exact hlt (hl.known d hd n (by simpa using hn))
      have hbefore : a.before = l.settlements.length := by
        rw [List.getElem?_append_right (Nat.le_of_not_lt hlt)] at ha
        exact hnew a (List.mem_of_getElem? ha)
      show l.releasesOf n = l.dueTo n a
      rw [hnone, dueTo, hbefore, List.getElem?_eq_none (Nat.le_refl _)]
      rfl

/-- Something was released that did not come out of the queue. -/
theorem release (hl : l.Accounts h) (done : List Release)
    (hdiary : h'.world.diary = h.world.diary ++ done) (hwaiting : h'.waiting = h.waiting) :
    Accounts { l with deeds := l.deeds ++ done.map (⟨none, ·⟩) } h' where
  diary := by rw [map_release_append, hl.diary, hdiary]
  queue := by
    rw [hwaiting]
    exact hl.queue
  taken := hl.taken
  left := hl.left
  known d hd n hn := by
    rcases List.mem_append.mp hd with hd | hd
    · exact hl.known d hd n hn
    · obtain ⟨r, -, rfl⟩ := List.mem_map.mp hd
      cases hn
  due n a ha := by
    rw [releasesOf_append, if_neg (fun hn => nomatch hn), List.append_nil]
    exact hl.due n a ha

/-- A settlement dealt with the first reference that it had left. -/
theorem settle (hl : l.Accounts h) {c : Settlement} {rest : List (Kept × Nat)}
    (hc : l.settlements[j]? = some c) (hleft : c.left = (k, n) :: rest)
    (hdiary : h'.world.diary = h.world.diary ++ c.releases k) (hwaiting : h'.waiting = h.waiting) :
    Accounts (strike { l with deeds := l.deeds ++ (c.releases k).map (⟨some n, ·⟩) } j) h' := by
  obtain ⟨a, ha, rfl, hbefore⟩ := hl.of_left hc (by rw [hleft]; exact List.mem_cons_self)
  have hstruck : ∀ i d, (l.strike j).settlements[i]? = some d →
      ∃ d₀, l.settlements[i]? = some d₀ ∧ d = if j = i then d₀.strike else d₀ := by
    intro i d hd
    rw [getElem?_strike] at hd
    obtain ⟨d₀, hd₀, rfl⟩ := Option.map_eq_some_iff.mp hd
    exact ⟨d₀, hd₀, rfl⟩
  -- the struck settlement owes one reference more than before, and that is the one it dealt with
  have hdue : ∀ m b, l.arrivals[m]? = some b → (l.strike j).dueTo m b =
      l.dueTo m b ++ if some n = some m then c.releases a.kept else [] := by
    intro m b hb
    unfold dueTo
    rw [getElem?_strike]
    by_cases hm : n = m
    · subst hm
      cases ha.symm.trans hb
      rw [hbefore, hc, if_pos rfl, Option.map_some, if_pos rfl, Option.elim_some, Option.elim_some,
        Settlement.dueTo_first hleft, Settlement.dueTo_strike_first hleft (hl.left_nodup hc)]
      rfl
    · rw [if_neg fun heq => hm (Option.some.inj heq), List.append_nil]
      cases hd : l.settlements[b.before]? with
      | none => rfl
      | some d =>
        rw [Option.map_some, Option.elim_some, Option.elim_some]
        split
        next hj =>
          subst hj
          cases hd.symm.trans hc
          exact Settlement.dueTo_strike_of_ne hleft hm
        next => rfl
  refine ⟨?_, ?_, fun i d hd => ?_, fun i d hd => ?_, fun d hd m hm => ?_, fun m b hb => ?_⟩
  · exact (map_release_append l.deeds (c.releases a.kept)).trans (by rw [hl.diary, hdiary])
  · unfold strike
    rw [List.length_modify, hwaiting]
    exact hl.queue
  · obtain ⟨d₀, hd₀, rfl⟩ := hstruck i d hd
    have htaken := hl.taken i d₀ hd₀
    split <;> exact htaken
  · obtain ⟨d₀, hd₀, rfl⟩ := hstruck i d hd
    have hsuffix := hl.left i d₀ hd₀
    split
    · exact (List.tail_suffix _).trans hsuffix
    · exact hsuffix
  · rcases List.mem_append.mp hd with hd | hd
    · exact hl.known d hd m hm
    · obtain ⟨r, -, rfl⟩ := List.mem_map.mp hd
      cases hm
      exact (List.getElem?_eq_some_iff.mp ha).1
  · show _ = (l.strike j).dueTo m b
    rw [hdue m b hb]
    exact (releasesOf_append l (c.releases a.kept) m).trans (congrArg (· ++ _) (hl.due m b hb))

/-- All that waits is taken. -/
theorem take (hl : l.Accounts h) (byStop : Bool) (hdiary : h'.world.diary = h.world.diary)
    (hwaiting : h'.waiting = []) : (l.take byStop h).Accounts h' := by
  refine ⟨hl.diary.trans hdiary.symm, ?_, fun j c hc => ?_, fun j c hc => ?_, hl.known,
    fun m a ha => ?_⟩
  · rw [hwaiting]
    refine ⟨l.arrivals, [], (List.append_nil _).symm, rfl, fun a ha => ?_, fun _ ha => nomatch ha⟩
    show a.before < (l.settlements ++ _).length
    rw [List.length_append]
    exact Nat.lt_succ_of_le (hl.before_le ha)
  · rcases of_take hc with hc | ⟨rfl, -, -, htake, -⟩
    · exact hl.taken j c hc
    · exact htake.trans hl.arrived_last.symm
  · rcases of_take hc with hc | ⟨-, -, -, -, hleft⟩
    · exact hl.left j c hc
    · rw [hleft]
  · -- what waited is in the hands of the new settlement, which has dealt with none of it
    refine (hl.due m a ha).trans ?_
    unfold dueTo
    rcases Nat.lt_or_eq_of_le (hl.before_le (List.mem_of_getElem? ha)) with hlt | heq
    · unfold Ledger.take
      rw [List.getElem?_append_left hlt]
    · rw [heq, List.getElem?_eq_none (Nat.le_refl _)]
      cases hc : (l.take byStop h).settlements[l.settlements.length]? with
      | none => rfl
      | some c =>
        rcases of_take hc with hc | ⟨-, -, -, htake, hleft⟩
        · rw [List.getElem?_eq_none (Nat.le_refl _)] at hc
          cases hc
        · have hmem : (a.kept, m) ∈ c.left := by
            rw [hleft, htake, ← hl.arrived_last]
            exact Arrival.mem_numbered.mpr ⟨a, ha, rfl, heq⟩
          rw [Option.elim_some, Settlement.dueTo, if_pos hmem]
          rfl

/-! What a host does adds to the end of its queue and to its diary. -/

variable {new : List Kept} {done : List Release}

theorem note (hl : l.Accounts h) (hwaiting : h'.waiting = h.waiting ++ new)
    (hdiary : h'.world.diary = h.world.diary ++ done) : (l.note none teardown h h').Accounts h' := by
  let between : Host (Watched σ) := { h with world := h'.world }
  have released : Accounts _ between := hl.release done hdiary rfl
  rw [note_eq hwaiting hdiary]
  refine released.arrive (new.map (⟨·, l.settlements.length, teardown⟩)) (fun a ha => ?_) rfl ?_
  · obtain ⟨k, -, rfl⟩ := List.mem_map.mp ha
    rfl
  · rw [List.map_map, hwaiting]
    exact congrArg _ (List.map_id new).symm

theorem note_settle (hl : l.Accounts h) {c : Settlement} {rest : List (Kept × Nat)}
    (hc : l.settlements[j]? = some c) (hleft : c.left = (k, n) :: rest)
    (hwaiting : h'.waiting = h.waiting ++ new)
    (hdiary : h'.world.diary = h.world.diary ++ c.releases k) :
    ((l.note (some n) teardown h h').strike j).Accounts h' := by
  let between : Host (Watched σ) := { h with world := h'.world }
  have settled : Accounts _ between := hl.settle hc hleft hdiary rfl
  rw [note_eq hwaiting hdiary]
  refine settled.arrive (new.map (⟨·, l.settlements.length, teardown⟩)) (fun a ha => ?_) rfl ?_
  · obtain ⟨k, -, rfl⟩ := List.mem_map.mp ha
    exact (List.length_modify _ _ _).symm
  · rw [List.map_map, hwaiting]
    exact congrArg _ (List.map_id new).symm

end Accounts

end Ledger

end Embedder
