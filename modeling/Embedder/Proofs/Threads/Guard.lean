import Embedder.Proofs.Threads.Growth

/-!
# What the lifecycle guards

Sessions share the lifecycle, and a start or a stop has it to itself. So the generation does not
change while somebody deals with what he took out of the queue (`Guarded.current`), and a stop that
has come to its deferred step takes the interpreter down before anybody else gets there: whatever
comes for the queue after a stop is of a later generation (`Guarded.later`).
-/

namespace Embedder

variable {σ α : Type} {G : Guest σ}

/-- The same settlements, some of them further on. -/
structure Ledger.SameSettlements (l l' : Ledger) : Prop where
  length : l'.settlements.length = l.settlements.length
  old : ∀ {j : Nat} {c' : Settlement}, l'.settlements[j]? = some c' →
    ∃ c, l.settlements[j]? = some c ∧ c'.byStop = c.byStop ∧ c'.generation = c.generation ∧
      (c'.left ≠ [] → c.left ≠ [])

namespace Ledger.SameSettlements

variable {l l' : Ledger} {j : Nat} {c : Settlement}

theorem of_eq (heq : l'.settlements = l.settlements) : l.SameSettlements l' where
  length := congrArg List.length heq
  old {_ c'} hc := ⟨c', heq ▸ hc, rfl, rfl, id⟩

theorem strike (hl : l.SameSettlements l') (j : Nat) : l.SameSettlements (l'.strike j) where
  length := (List.length_modify _ _ _).trans hl.length
  old {i c''} hc := by
    rw [getElem?_strike] at hc
    obtain ⟨c', hc', rfl⟩ := Option.map_eq_some_iff.mp hc
    obtain ⟨c, hold, hbyStop, hgeneration, hleft⟩ := hl.old hc'
    refine ⟨c, hold, ?_⟩
    split
    · refine ⟨hbyStop, hgeneration, fun hne => hleft fun heq => hne ?_⟩
      show c'.left.tail = []
      rw [heq]
      rfl
    · exact ⟨hbyStop, hgeneration, hleft⟩

/-- None of them is gone. -/
theorem new (hl : l.SameSettlements l') (hc : l.settlements[j]? = some c) :
    ∃ c', l'.settlements[j]? = some c' ∧ c'.byStop = c.byStop ∧ c'.generation = c.generation := by
  have hlt : j < l'.settlements.length := by
    rw [hl.length]
    exact (List.getElem?_eq_some_iff.mp hc).1
  obtain ⟨d, hd, hbyStop, hgeneration, -⟩ := hl.old (List.getElem?_eq_getElem hlt)
  cases hc.symm.trans hd
  exact ⟨_, List.getElem?_eq_getElem hlt, hbyStop, hgeneration⟩

end Ledger.SameSettlements

namespace Threads

variable {s s' : Threads σ} {i j : Nat} {c d : Settlement} {p : Phase}

/-- Who does not wait finds the lifecycle free only while nobody has it to itself. -/
theorem holder_of_free (hfree : s.busy = false) : s.holder = none := by
  cases hp : s.holder with
  | none => rfl
  | some p =>
    unfold busy at hfree
    rw [hp] at hfree
    cases hfree

/-- No stop tears the registry down while the lifecycle is held for something else, or by nobody. -/
theorem not_teardown (hp : s.holder.any Phase.tears = false) : s.teardown ≠ some i := by
  unfold teardown
  rw [hp]
  exact fun hi => nomatch hi

/-- The stop that tears the registry down makes the next settlement. -/
theorem eq_of_teardown (hi : s.teardown = some i) : i = s.ledger.settlements.length := by
  unfold teardown at hi
  split at hi <;> cases hi
  rfl

/-- The settlement of this number belongs to the interpreter that runs. -/
def Current (s : Threads σ) (j : Nat) : Prop :=
  ∃ c, s.ledger.settlements[j]? = some c ∧ s.host.lifecycle.up? = some c.generation

/-- A stop made the settlement of this number, or is about to make it. -/
def OfStop (s : Threads σ) (i : Nat) : Prop :=
  s.teardown = some i ∨ ∃ c, s.ledger.settlements[i]? = some c ∧ c.byStop = true

/-- Somebody may still be dealing with what the settlement took: an open session, or the stop in its
deferred step. -/
def Underway (s : Threads σ) (j : Nat) : Prop := j ∈ s.sessions ∨ s.holder = some (.settling j)

/-- What holds while somebody has the lifecycle to itself. -/
def Sound (s : Threads σ) : Phase → Prop
  | .tearing .. | .parting .. => s.host.lifecycle.stage = .running
  | .settling j => s.Current j
  | .begun | .going => True

/-- The threads respect the lifecycle. -/
structure Guarded (s : Threads σ) : Prop where
  accounts : s.ledger.Accounts s.host
  truthful : s.host.Truthful
  alone : s.holder ≠ none → s.sessions = []
  sessions : ∀ j ∈ s.sessions, s.Current j
  phase : ∀ p, s.holder = some p → s.Sound p
  underway : ∀ (j : Nat) (c : Settlement), s.ledger.settlements[j]? = some c → c.left ≠ [] →
    s.Underway j
  ordered : ∀ (i j : Nat) (c d : Settlement), i < j → s.ledger.settlements[i]? = some c →
    s.ledger.settlements[j]? = some d →
    c.generation ≤ d.generation ∧ (c.byStop = true → c.generation < d.generation)
  past : ∀ (j : Nat) (c : Settlement), s.ledger.settlements[j]? = some c →
    c.generation ≤ s.host.lifecycle.generation ∧
    (c.byStop = true → s.host.lifecycle.stage = .running → (∀ j, s.holder ≠ some (.settling j)) →
      c.generation < s.host.lifecycle.generation)
  ends : ∀ e ∈ s.ending ++ s.deferring, ∀ i, e.teardown = some i → s.OfStop i
  arrivals : ∀ a ∈ s.ledger.arrivals, ∀ i, a.teardown = some i → s.OfStop i ∧ i ≤ a.before

theorem OfStop.le (hi : s.OfStop i) : i ≤ s.ledger.settlements.length := by
  rcases hi with hi | ⟨c, hc, -⟩
  · exact Nat.le_of_eq (eq_of_teardown hi)
  · exact Nat.le_of_lt (List.getElem?_eq_some_iff.mp hc).1

theorem fresh_guarded (world : σ) : (fresh world).Guarded where
  accounts := Ledger.empty_accounts rfl rfl
  truthful := rfl
  alone _ := rfl
  sessions _ hj := nomatch hj
  phase _ hp := nomatch hp
  underway _ _ hc := nomatch hc
  ordered _ _ _ _ _ hc := nomatch hc
  past _ _ hc := nomatch hc
  ends _ he := nomatch he
  arrivals _ ha := nomatch ha

namespace Guarded

/-- No session is open while somebody has the lifecycle to itself. -/
theorem no_session (hs : s.Guarded) (hp : s.holder = some p) : s.sessions = [] :=
  hs.alone (by rw [hp]; exact Option.some_ne_none p)

/-- While a settlement has something left, its generation is up. -/
theorem current (hs : s.Guarded) (hc : s.ledger.settlements[j]? = some c) (hleft : c.left ≠ []) :
    s.host.world.running = some c.generation := by
  obtain ⟨d, hd, hup⟩ : s.Current j := by
    rcases hs.underway j c hc hleft with hj | hj
    · exact hs.sessions j hj
    · exact hs.phase _ hj
  cases hd.symm.trans hc
  exact hs.truthful.trans hup

/-- Nobody is dealing with anything while somebody has the lifecycle for something else. -/
theorem settled (hs : s.Guarded) (hp : s.holder = some p) (hne : ∀ j, p ≠ .settling j)
    (hc : s.ledger.settlements[j]? = some c) : c.left = [] := by
  by_contra hleft
  rcases hs.underway j c hc hleft with hj | hj
  · rw [hs.no_session hp] at hj
    cases hj
  · exact hne j (Option.some.inj (hp.symm.trans hj))

/-! ## The host goes on -/

/-- Within a generation, whatever a program does. Settlements go on at most, and what arrives is
marked as it should be. -/
theorem carry (hs : s.Guarded) {h : Host (Watched σ)} {l : Ledger}
    (haccounts : l.Accounts h) (hlife : h.lifecycle = s.host.lifecycle)
    (hrunning : h.world.running = s.host.world.running) (hl : s.ledger.SameSettlements l)
    (harrivals : ∀ a ∈ l.arrivals, a ∈ s.ledger.arrivals ∨
      (a.before = s.ledger.settlements.length ∧ ∀ i, a.teardown = some i → s.OfStop i)) :
    Guarded { s with host := h, ledger := l } := by
  have hcurrent : ∀ j, s.Current j → Current { s with host := h, ledger := l } j := by
    rintro j ⟨c, hc, hup⟩
    obtain ⟨c', hc', -, hgeneration⟩ := hl.new hc
    refine ⟨c', hc', ?_⟩
    rw [hgeneration, ← hup]
    exact congrArg Lifecycle.up? hlife
  have hstop : ∀ i, s.OfStop i → OfStop { s with host := h, ledger := l } i := by
    rintro i (hi | ⟨c, hc, hbyStop⟩)
    · -- no settlement has come or gone, so the stop is still to make the same one
      refine .inl ?_
      unfold teardown at hi ⊢
      rw [hl.length]
      exact hi
    · obtain ⟨c', hc', hsame, -⟩ := hl.new hc
      exact .inr ⟨c', hc', hsame.trans hbyStop⟩
  refine ⟨haccounts, ?_, hs.alone, fun j hj => hcurrent j (hs.sessions j hj), fun p hp => ?_,
    fun j c hc hleft => ?_, fun i j c d hlt hc hd => ?_, fun j c hc => ?_,
    fun e he i hi => hstop i (hs.ends e he i hi), fun a ha i hi => ?_⟩
  · exact (hrunning.trans hs.truthful).trans (congrArg Lifecycle.up? hlife).symm
  · have hsound := hs.phase p hp
    cases p with
    | begun => trivial
    | going => trivial
    | tearing count left => exact (congrArg Lifecycle.stage hlife).trans hsound
    | parting count t left => exact (congrArg Lifecycle.stage hlife).trans hsound
    | settling j => exact hcurrent j hsound
  · obtain ⟨c₀, hc₀, -, -, hmore⟩ := hl.old hc
    exact hs.underway j c₀ hc₀ (hmore hleft)
  · obtain ⟨c₀, hc₀, hbyStop, hgeneration, -⟩ := hl.old hc
    obtain ⟨d₀, hd₀, -, hgeneration', -⟩ := hl.old hd
    rw [hbyStop, hgeneration, hgeneration']
    exact hs.ordered i j c₀ d₀ hlt hc₀ hd₀
  · obtain ⟨c₀, hc₀, hbyStop, hgeneration, -⟩ := hl.old hc
    rw [hbyStop, hgeneration, show h.lifecycle = s.host.lifecycle from hlife]
    exact hs.past j c₀ hc₀
  · rcases harrivals a ha with ha | ⟨hbefore, hmark⟩
    · exact (hs.arrivals a ha i hi).imp (hstop i) id
    · refine ⟨hstop i (hmark i hi), ?_⟩
      rw [hbefore]
      exact (hmark i hi).le

/-- What a note adds to the arrivals. -/
theorem of_noted {h : Host (Watched σ)} {arrival teardown : Option Nat} {a : Arrival}
    (hmark : ∀ i, teardown = some i → s.OfStop i)
    (ha : a ∈ (s.ledger.note arrival teardown s.host h).arrivals) : a ∈ s.ledger.arrivals ∨
      (a.before = s.ledger.settlements.length ∧ ∀ i, a.teardown = some i → s.OfStop i) := by
  rcases List.mem_append.mp ha with ha | ha
  · exact .inl ha
  · obtain ⟨k, -, rfl⟩ := List.mem_map.mp ha
    exact .inr ⟨rfl, hmark⟩

theorem note (hs : s.Guarded) {h : Host (Watched σ)} {done : List Release} {teardown : Option Nat}
    (hgrows : Grows done s.host h) (hmark : ∀ i, teardown = some i → s.OfStop i) :
    Guarded { s with host := h, ledger := s.ledger.note none teardown s.host h } := by
  obtain ⟨new, hnew⟩ := hgrows.waiting
  exact hs.carry (hs.accounts.note hnew.symm hgrows.diary) hgrows.lifecycle hgrows.running
    (.of_eq rfl) fun _ ha => of_noted hmark ha

/-- A settlement deals with the next reference. -/
theorem settle (hs : s.Guarded) {k : Kept} {n : Nat} {rest : List (Kept × Nat)}
    (hc : s.ledger.settlements[j]? = some c) (hleft : c.left = (k, n) :: rest)
    {h : Host (Watched σ)} (hgrows : Grows (c.releases k) s.host h) :
    Guarded { s with
      host := h
      ledger := (s.ledger.note (some n) s.teardown s.host h).strike j } := by
  obtain ⟨new, hnew⟩ := hgrows.waiting
  have hsame : s.ledger.SameSettlements (s.ledger.note (some n) s.teardown s.host h) := .of_eq rfl
  refine hs.carry (hs.accounts.note_settle hc hleft hnew.symm hgrows.diary) hgrows.lifecycle
    hgrows.running (hsame.strike j) fun a ha => ?_
  have hnoted : a ∈ (s.ledger.note (some n) s.teardown s.host h).arrivals := ha
  exact of_noted (fun _ hi => .inl hi) hnoted

/-- Others come to wait, and bindings come and go that have lost their last owner. -/
theorem queue (hs : s.Guarded) (asking : Nat) {ending deferring : List Ending}
    (hends : ∀ e ∈ ending ++ deferring, ∀ i, e.teardown = some i → s.OfStop i) :
    Guarded { s with asking := asking, ending := ending, deferring := deferring } :=
  { hs with ends := hends }

/-- A session ends. -/
theorem leave (hs : s.Guarded) (hj : s.sessions[i]? = some j) (hsettled : s.Settled j) :
    Guarded { s with sessions := s.sessions.eraseIdx i } where
  accounts := hs.accounts
  truthful := hs.truthful
  alone hp := by
    show s.sessions.eraseIdx i = []
    rw [hs.alone hp]
    rfl
  sessions j hj := hs.sessions j (List.mem_of_mem_eraseIdx hj)
  phase := hs.phase
  underway m c hc hleft := by
    -- the session that ends has nothing in hand, so it is another one that has something left
    rcases hs.underway m c hc hleft with hm | hm
    · refine .inl ?_
      by_cases heq : m = j
      · subst heq
        exact absurd (hsettled c hc) hleft
      · obtain ⟨n, hn⟩ := List.mem_iff_getElem?.mp hm
        refine List.mem_eraseIdx_iff_getElem?.mpr ⟨n, fun hsame => heq ?_, hn⟩
        rw [hsame] at hn
        exact Option.some.inj (hn.symm.trans hj)
    · exact .inr hm
  ordered := hs.ordered
  past := hs.past
  ends := hs.ends
  arrivals := hs.arrivals

/-! ## The lifecycle changes hands -/

/-- The lifecycle is taken, given back, or held for the next thing to do. The deferred step of a
stop is not begun or ended by this. -/
theorem hold (hs : s.Guarded) (hbefore : ∀ j, s.holder ≠ some (.settling j)) {q : Option Phase}
    (halone : q ≠ none → s.sessions = []) (hsound : ∀ p, q = some p → s.Sound p)
    (hteardown : ∀ i, s.teardown = some i → { s with holder := q }.teardown = some i) :
    Guarded { s with holder := q } := by
  have hstop : ∀ i, s.OfStop i → OfStop { s with holder := q } i := fun i hi =>
    hi.imp (hteardown i) id
  exact {
    accounts := hs.accounts
    truthful := hs.truthful
    alone := halone
    sessions := hs.sessions
    phase := hsound
    underway := fun j c hc hleft => (hs.underway j c hc hleft).imp id fun hj => absurd hj (hbefore j)
    ordered := hs.ordered
    past := fun j c hc => ⟨(hs.past j c hc).1, fun hbyStop hrunning _ =>
      (hs.past j c hc).2 hbyStop hrunning hbefore⟩
    ends := fun e he i hi => hstop i (hs.ends e he i hi)
    arrivals := fun a ha i hi => (hs.arrivals a ha i hi).imp (hstop i) id }

/-- The interpreter came up, or failed to. Nobody deals with anything then. -/
theorem relaunch (hs : s.Guarded) (hp : s.holder = some .begun) {h : Host (Watched σ)}
    (htruthful : h.Truthful) (hdiary : h.world.diary = s.host.world.diary)
    (hwaiting : h.waiting = s.host.waiting)
    (hlife : h.lifecycle = s.host.lifecycle ∨
      s.host.lifecycle.generation < h.lifecycle.generation) :
    Guarded { s with host := h, ledger := s.ledger.note none none s.host h } := by
  have hsessions : s.sessions = [] := hs.no_session hp
  rw [Ledger.note_of_eq hwaiting hdiary]
  refine ⟨hs.accounts.congr hdiary hwaiting, htruthful, hs.alone, fun j hj => ?_, fun q hq => ?_,
    hs.underway, hs.ordered, fun j c hc => ?_, hs.ends, hs.arrivals⟩
  · rw [show s.sessions = [] from hsessions] at hj
    cases hj
  · cases hp.symm.trans hq
    trivial
  · rcases hlife with hlife | hlater
    · rw [hlife]
      exact hs.past j c hc
    · -- whatever came before is of an earlier generation than the new one, stops or not
      have hle := (hs.past j c hc).1
      exact ⟨Nat.le_of_lt (Nat.lt_of_le_of_lt hle hlater), fun _ _ _ => Nat.lt_of_le_of_lt hle hlater⟩

/-- The interpreter went down. -/
theorem close (hs : s.Guarded) (hp : s.holder = some (.settling j)) (hsettled : s.Settled j)
    {h : Host (Watched σ)} (htruthful : h.Truthful)
    (hdiary : h.world.diary = s.host.world.diary) (hwaiting : s.host.waiting <+: h.waiting)
    (hgeneration : h.lifecycle.generation = s.host.lifecycle.generation)
    (hdown : h.lifecycle.stage ≠ .running) :
    Guarded { s with
      host := h
      ledger := s.ledger.note none none s.host h
      holder := some .going } := by
  obtain ⟨new, hnew⟩ := hwaiting
  have hsessions : s.sessions = [] := hs.no_session hp
  have hstop : ∀ i, s.OfStop i → OfStop { s with
      host := h, ledger := s.ledger.note none none s.host h, holder := some .going } i := by
    -- the registry is gone by now, so a stop that is meant has made its settlement
    intro i hi
    refine .inr ?_
    rcases hi with hi | hi
    · exact absurd hi (not_teardown (by rw [hp]; rfl))
    · exact hi
  refine ⟨hs.accounts.note hnew.symm (by rw [hdiary, List.append_nil]), htruthful, fun _ => hsessions,
    fun j hj => ?_, fun q hq => ?_, fun i c hc hleft => ?_, hs.ordered, fun j c hc => ?_,
    fun e he i hi => hstop i (hs.ends e he i hi), fun a ha i hi => ?_⟩
  · rw [show s.sessions = [] from hsessions] at hj
    cases hj
  · cases hq
    trivial
  · -- the only settlement that was underway has nothing left
    rcases hs.underway i c hc hleft with hi | hi
    · exact .inl hi
    · cases hp.symm.trans hi
      exact absurd (hsettled c hc) hleft
  · rw [hgeneration]
    exact ⟨(hs.past j c hc).1, fun _ hrunning => absurd hrunning hdown⟩
  · rcases List.mem_append.mp ha with ha | ha
    · exact (hs.arrivals a ha i hi).imp (hstop i) id
    · obtain ⟨k, -, rfl⟩ := List.mem_map.mp ha
      cases hi

/-! ## The queue is emptied -/

/-- All that waits is taken, by a new session or by a stop. Nobody is in a deferred step before
that, so every stop that came before is of an earlier generation. -/
theorem take (hs : s.Guarded) {byStop : Bool} (hrunning : s.host.lifecycle.stage = .running)
    (hbefore : ∀ j, s.holder ≠ some (.settling j)) {sessions : List Nat} {holder : Option Phase}
    (hmine : s.ledger.settlements.length ∈ sessions ∨
      holder = some (.settling s.ledger.settlements.length))
    (hsessions : ∀ j, j ∈ sessions → j ∈ s.sessions ∨ j = s.ledger.settlements.length)
    (hkeep : ∀ j ∈ s.sessions, j ∈ sessions) (halone : holder ≠ none → sessions = [])
    (hholder : ∀ p, holder = some p → p = .settling s.ledger.settlements.length)
    (hbyStop : byStop = true → holder = some (.settling s.ledger.settlements.length))
    (hteardown : s.teardown ≠ none → byStop = true) :
    Guarded { s.take byStop with sessions := sessions, holder := holder } := by
  let taken : Threads σ := { s.take byStop with sessions := sessions, holder := holder }
  have hkept : ∀ {j : Nat} {c : Settlement}, s.ledger.settlements[j]? = some c →
      taken.ledger.settlements[j]? = some c := fun hc =>
    (List.getElem?_append_left (List.getElem?_eq_some_iff.mp hc).1).trans hc
  have hmade : ∃ c, taken.ledger.settlements[s.ledger.settlements.length]? = some c ∧
      c.byStop = byStop ∧ c.generation = s.host.lifecycle.generation :=
    ⟨_, List.getElem?_concat_length, rfl, rfl⟩
  have hcurrent : taken.Current s.ledger.settlements.length := by
    obtain ⟨c, hc, -, hgeneration⟩ := hmade
    refine ⟨c, hc, ?_⟩
    rw [hgeneration]
    exact if_pos hrunning
  have hstop : ∀ i, s.OfStop i → taken.OfStop i := by
    rintro i (hi | ⟨c, hc, hc'⟩)
    · -- the stop that tore the registry down is the one that takes
      obtain ⟨c, hc, hmine, -⟩ := hmade
      refine .inr ⟨c, by rw [eq_of_teardown hi]; exact hc, hmine.trans (hteardown ?_)⟩
      rw [hi]
      exact Option.some_ne_none i
    · exact .inr ⟨c, hkept hc, hc'⟩
  show taken.Guarded
  refine ⟨hs.accounts.take byStop rfl rfl, hs.truthful, halone, fun j hj => ?_, fun p hp => ?_,
    fun j c hc hleft => ?_, fun i j c d hlt hc hd => ?_, fun j c hc => ?_,
    fun e he i hi => hstop i (hs.ends e he i hi),
    fun a ha i hi => (hs.arrivals a ha i hi).imp (hstop i) id⟩
  · rcases hsessions j hj with hj | rfl
    · obtain ⟨c, hc, hup⟩ := hs.sessions j hj
      exact ⟨c, hkept hc, hup⟩
    · exact hcurrent
  · cases hholder p hp
    exact hcurrent
  · rcases Ledger.of_take hc with hc | ⟨rfl, -⟩
    · rcases hs.underway j c hc hleft with hj | hj
      · exact .inl (hkeep j hj)
      · exact absurd hj (hbefore j)
    · exact hmine
  · -- the new settlement is the last, so the earlier one of two was there before
    have hi : s.ledger.settlements[i]? = some c := by
      rcases Ledger.of_take hc with hc | ⟨rfl, -⟩
      · exact hc
      · have hle := (List.getElem?_eq_some_iff.mp hd).1
        have hlength : taken.ledger.settlements.length = s.ledger.settlements.length + 1 :=
          List.length_append
        omega
    rcases Ledger.of_take hd with hd | ⟨-, -, hgeneration, -⟩
    · exact hs.ordered i j c d hlt hi hd
    · rw [hgeneration]
      exact ⟨(hs.past i c hi).1, fun hc' => (hs.past i c hi).2 hc' hrunning hbefore⟩
  · rcases Ledger.of_take hc with hc | ⟨-, hmine, hgeneration, -⟩
    · exact ⟨(hs.past j c hc).1, fun hc' hr _ => (hs.past j c hc).2 hc' hr hbefore⟩
    · -- a stop that takes is in its deferred step, and its generation is not over yet
      refine ⟨Nat.le_of_eq hgeneration, fun hc' _ hnot => ?_⟩
      exact absurd (hbyStop (hmine.symm.trans hc')) (hnot _)

end Guarded

/-! ## Moves -/

variable {m : Move σ} {arrival teardown : Option Nat}

theorem does_ok {x : Bridge (Watched σ) α} {next : α → Threads σ → Threads σ}
    (hr : s.does arrival teardown x next = .ok s') :
    ∃ a h, x.run s.host = .ok (a, h) ∧
      s' = next a { s with host := h, ledger := s.ledger.note arrival teardown s.host h } := by
  unfold does at hr
  cases hx : x.run s.host with
  | error e =>
    rw [hx] at hr
    cases hr
  | ok r =>
    rw [hx] at hr
    cases hr
    exact ⟨r.1, r.2, rfl, rfl⟩

/-- Who has the lifecycle to itself goes on to the next thing. -/
theorem Guarded.pass (hs : s.Guarded) (hp : s.holder = some p) (hnot : ∀ j, p ≠ .settling j)
    (q : Phase) (hsound : s.Sound q) (htears : p.tears = true → q.tears = true) :
    Guarded { s with holder := some q } := by
  refine hs.hold (fun j hj => hnot j (Option.some.inj (hp.symm.trans hj)))
    (fun _ => hs.no_session hp) (fun q' hq => ?_) fun i hi => ?_
  · cases hq
    exact hsound
  · unfold teardown at hi ⊢
    rw [hp] at hi
    split at hi
    next hp' =>
      rw [← hi]
      exact if_pos (htears hp')
    next => cases hi

/-! The lifecycle goes to a start or a stop, and comes back. -/

theorem acquire_guarded (hs : s.Guarded) (hm : s.step G .acquire = .ok s') : s'.Guarded := by
  simp only [step] at hm
  split at hm
  next hp hsessions =>
    split at hm <;> cases hm
    · have held : Guarded { s with holder := some .begun } := by
        refine hs.hold (fun j hj => ?_) (fun _ => hsessions) (fun q hq => ?_) fun i hi => ?_
        · cases hp.symm.trans hj
        · cases hq
          trivial
        · exact absurd hi (not_teardown (by rw [hp]; rfl))
      exact held.queue (s.asking - 1) held.ends
    · exact hs
  next => exact Except.ok.inj hm ▸ hs

theorem finish_guarded (hs : s.Guarded) (hm : s.step G .finish = .ok s') : s'.Guarded := by
  simp only [step] at hm
  split at hm
  next hp =>
    cases hm
    refine hs.hold (fun j hj => ?_) (fun hne => absurd rfl hne) (fun q hq => nomatch hq) fun i hi => ?_
    · cases hp.symm.trans hj
    · exact absurd hi (not_teardown (by rw [hp]; rfl))
  next => exact Except.ok.inj hm ▸ hs

theorem launch_guarded {thread : ThreadId} {config : Config} (hs : s.Guarded)
    (hm : s.step G (.launch thread config) = .ok s') : s'.Guarded := by
  simp only [step] at hm
  split at hm
  next hp =>
    obtain ⟨r, h, hr, rfl⟩ := does_ok hm
    have htruthful := (Interpreter.launch_entrusted hr).truthful hs.truthful
    obtain ⟨hdiary, hwaiting, hlife⟩ := Interpreter.launch_keeps hr
    have launched := hs.relaunch hp htruthful hdiary hwaiting hlife
    exact launched.pass hp (fun _ h => nomatch h) .going trivial fun h => nomatch h
  next => exact Except.ok.inj hm ▸ hs

theorem unfile_guarded (hs : s.Guarded) (hm : s.step G .unfile = .ok s') : s'.Guarded := by
  simp only [step] at hm
  split at hm
  next hp =>
    split at hm <;> cases hm
    next hrunning =>
      have unfiled : Guarded { s with host := { s.host with registry := none } } :=
        hs.carry (hs.accounts.congr rfl rfl) rfl rfl (.of_eq rfl) fun a ha => .inl ha
      exact unfiled.pass hp (fun _ h => nomatch h) _ hrunning fun h => nomatch h
    next => exact hs.pass hp (fun _ h => nomatch h) .going trivial fun h => nomatch h
  next => exact Except.ok.inj hm ▸ hs

theorem letGo_guarded (hs : s.Guarded) (hm : s.step G (.letGo i) = .ok s') : s'.Guarded := by
  simp only [step] at hm
  split at hm
  next count left hp =>
    have hrunning : s.host.lifecycle.stage = .running := hs.phase (.tearing count left) hp
    split at hm
    next => exact Except.ok.inj hm ▸ hs
    next t _ =>
      split at hm
      next =>
        cases hm
        exact hs.pass hp (fun _ h => nomatch h) _ hrunning id
      next =>
        obtain ⟨u, h, hr, rfl⟩ := does_ok hm
        obtain ⟨done, hgrows⟩ := Registry.letGoOne_grows hr
        have noted := hs.note hgrows fun _ hi => .inl hi
        have hstays := congrArg Lifecycle.stage hgrows.lifecycle
        exact noted.pass hp (fun _ h => nomatch h) _ (hstays.trans hrunning) id
  next => exact Except.ok.inj hm ▸ hs

theorem part_guarded (hs : s.Guarded) (hm : s.step G .part = .ok s') : s'.Guarded := by
  simp only [step] at hm
  split at hm
  next count t left hp =>
    obtain ⟨u, h, hr, rfl⟩ := does_ok hm
    have noted := hs.note (Ticket.drop_busy_grows hr) fun _ hi => .inl hi
    have hrunning : h.lifecycle.stage = .running := noted.phase (.parting count t left) hp
    exact noted.pass hp (fun _ h => nomatch h) _ hrunning id
  next => exact Except.ok.inj hm ▸ hs

/-- The deferred step of a stop. -/
theorem collect_guarded (hs : s.Guarded) (hm : s.step G .collect = .ok s') : s'.Guarded := by
  simp only [step] at hm
  split at hm
  next count hp =>
    obtain ⟨u, h, hr, rfl⟩ := does_ok hm
    have hunmarked : ∀ i, none = some i → s.OfStop i := fun _ hi => nomatch hi
    have noted := hs.note (Registry.reportLetGo_grows hr) hunmarked
    have hsessions := hs.no_session hp
    exact noted.take (noted.phase _ hp) (fun j hj => nomatch hp.symm.trans hj) (.inr rfl)
      (fun j hj => .inl hj) (fun j hj => hj) (fun _ => hsessions)
      (fun q hq => (Option.some.inj hq).symm) (fun _ => rfl) fun _ => rfl
  next => exact Except.ok.inj hm ▸ hs

theorem finalize_guarded {thread : ThreadId} (hs : s.Guarded)
    (hm : s.step G (.finalize thread) = .ok s') : s'.Guarded := by
  simp only [step] at hm
  split at hm
  next j hp =>
    split at hm
    next hsettled =>
      obtain ⟨u, h, hr, rfl⟩ := does_ok hm
      obtain ⟨htruthful, hdiary, hwaiting, hlife⟩ := Interpreter.finalize_keeps hr
      refine hs.close hp hsettled htruthful hdiary hwaiting ?_ ?_
      · rw [hlife]
      · rw [hlife]
        exact Stage.noConfusion
    next => exact Except.ok.inj hm ▸ hs
  next => exact Except.ok.inj hm ▸ hs

/-! Sessions come and go, and settlements go on. -/

theorem enter_guarded {expected : Option Nat} (hs : s.Guarded)
    (hm : s.step G (.enter expected) = .ok s') : s'.Guarded := by
  simp only [step] at hm
  split at hm
  next hp =>
    split at hm <;> cases hm
    next hopen =>
      refine hs.take hopen.1 (fun j hj => nomatch hp.symm.trans hj)
        (.inl (List.mem_append_right _ (List.mem_singleton_self _))) (fun j hj => ?_)
        (fun j hj => List.mem_append_left _ hj) (fun hne => absurd hp hne)
        (fun q hq => nomatch hp.symm.trans hq) (fun h => nomatch h) fun hne => ?_
      · exact (List.mem_append.mp hj).imp_right List.mem_singleton.mp
      · obtain ⟨i, hi⟩ := Option.ne_none_iff_exists'.mp hne
        exact absurd hi (not_teardown (by rw [hp]; rfl))
    next => exact hs
  next => exact Except.ok.inj hm ▸ hs

theorem settle_guarded (hs : s.Guarded) (hm : s.step G (.settle j) = .ok s') : s'.Guarded := by
  simp only [step] at hm
  split at hm
  next c hc =>
    split at hm
    next k n rest hleft =>
      obtain ⟨u, h, hr, rfl⟩ := does_ok hm
      have hup := hs.current hc (by rw [hleft]; exact List.cons_ne_nil _ _)
      exact hs.settle hc hleft (Session.settleOne_grows hup hr)
    next => exact Except.ok.inj hm ▸ hs
  next => exact Except.ok.inj hm ▸ hs

theorem leave_guarded (hs : s.Guarded) (hm : s.step G (.leave i) = .ok s') : s'.Guarded := by
  simp only [step] at hm
  split at hm
  next j hj =>
    split at hm <;> cases hm
    next hsettled => exact hs.leave hj hsettled
    next => exact hs
  next => exact Except.ok.inj hm ▸ hs

/-! Bindings end. -/

theorem loseBinding_guarded {b : Binding} (hs : s.Guarded)
    (hm : s.step G (.loseBinding b) = .ok s') : s'.Guarded := by
  cases hm
  refine hs.queue s.asking fun e he i hi => ?_
  rcases List.mem_append.mp he with he | he
  · rcases List.mem_append.mp he with he | he
    · exact hs.ends e (List.mem_append_left _ he) i hi
    · cases List.mem_singleton.mp he
      exact .inl hi
  · exact hs.ends e (List.mem_append_right _ he) i hi

theorem loseTicket_guarded {t : Ticket} (hs : s.Guarded)
    (hm : s.step G (.loseTicket t) = .ok s') : s'.Guarded := by
  simp only [step] at hm
  obtain ⟨last, h, hr, rfl⟩ := does_ok hm
  have hmark : ∀ i, s.teardown = some i → s.OfStop i := fun _ hi => .inl hi
  have noted := hs.note (Ticket.giveUp_grows hr) hmark
  refine noted.queue s.asking fun e he i hi => ?_
  rcases List.mem_append.mp he with he | he
  · rcases List.mem_append.mp he with he | he
    · exact noted.ends e (List.mem_append_left _ he) i hi
    · cases last with
      | none => cases he
      | some b =>
        cases List.mem_singleton.mp he
        exact .inl hi
  · exact noted.ends e (List.mem_append_right _ he) i hi

theorem look_guarded (hs : s.Guarded) (hm : s.step G (.look i) = .ok s') : s'.Guarded := by
  simp only [step] at hm
  split at hm
  next e he =>
    have hless : ∀ e' ∈ s.ending.eraseIdx i ++ s.deferring, ∀ i, e'.teardown = some i →
        s.OfStop i := fun e' he' =>
      hs.ends e' ((List.eraseIdx_sublist _ _).append_right _ |>.subset he')
    split at hm
    next =>
      cases hm
      refine hs.queue s.asking fun e' he' n hn => ?_
      rw [← List.append_assoc] at he'
      rcases List.mem_append.mp he' with he' | he'
      · exact hless e' he' n hn
      · cases List.mem_singleton.mp he'
        exact hs.ends e (List.mem_append_left _ (List.mem_of_getElem? he)) n hn
    next =>
      obtain ⟨u, h, hr, rfl⟩ := does_ok hm
      obtain ⟨done, hgrows⟩ := Binding.drop_grows hr
      exact (hs.queue s.asking hless).note hgrows fun _ h => nomatch h
  next => exact Except.ok.inj hm ▸ hs

theorem push_guarded (hs : s.Guarded) (hm : s.step G (.push i) = .ok s') : s'.Guarded := by
  simp only [step] at hm
  split at hm
  next e he =>
    have hless : ∀ e' ∈ s.ending ++ s.deferring.eraseIdx i, ∀ i, e'.teardown = some i →
        s.OfStop i := fun e' he' =>
      hs.ends e' ((List.eraseIdx_sublist _ _).append_left _ |>.subset he')
    obtain ⟨u, h, hr, rfl⟩ := does_ok hm
    refine (hs.queue s.asking hless).note (Binding.drop_busy_grows hr) fun n hn => ?_
    exact hs.ends e (List.mem_append_right _ (List.mem_of_getElem? he)) n hn
  next => exact Except.ok.inj hm ▸ hs

theorem step_guarded (hs : s.Guarded) (hm : s.step G m = .ok s') : s'.Guarded := by
  cases m with
  | ask =>
    cases hm
    exact hs.queue (s.asking + 1) hs.ends
  | acquire => exact acquire_guarded hs hm
  | launch thread config => exact launch_guarded hs hm
  | unfile => exact unfile_guarded hs hm
  | letGo i => exact letGo_guarded hs hm
  | part => exact part_guarded hs hm
  | collect => exact collect_guarded hs hm
  | finalize thread => exact finalize_guarded hs hm
  | finish => exact finish_guarded hs hm
  | enter expected => exact enter_guarded hs hm
  | settle j => exact settle_guarded hs hm
  | leave i => exact leave_guarded hs hm
  | loseBinding b => exact loseBinding_guarded hs hm
  | loseTicket t => exact loseTicket_guarded hs hm
  | look i => exact look_guarded hs hm
  | push i => exact push_guarded hs hm
  | work x =>
    simp only [step] at hm
    obtain ⟨u, h, hr, rfl⟩ := does_ok hm
    exact hs.note (x.grows hr) fun _ hi => .inl hi

theorem run_guarded {moves : List (Move σ)} (hs : s.Guarded) (hr : s.run G moves = .ok s') :
    s'.Guarded := by
  induction moves generalizing s with
  | nil =>
    cases hr
    exact hs
  | cons m rest ih =>
    change s.step G m >>= (fun s => run G rest s) = .ok s' at hr
    cases hm : s.step G m with
    | error e =>
      rw [hm] at hr
      cases hr
    | ok s₁ =>
      rw [hm] at hr
      exact ih (step_guarded hs hm) hr

end Threads

end Embedder
