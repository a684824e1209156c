import Embedder.Proofs.Threads.Guard
import Embedder.Proofs.Threads.Undisturbed
import Embedder.Proofs.Willing

/-!
# Deferred releases are neither lost nor misdirected

Whoever comes for the queue takes all of it. So a reference that was put there is taken by the next
session that is entered after that, or by the next stop in its deferred step, and by no other. It is
released then, once and in its own generation, if that is the generation of the session or the stop,
and is forgotten if not (`Threads.queue_laws`). This holds for all orders in which the threads of a
process can make their moves.

It decides what becomes of a binding that loses its last owner while a stop tears the registry down.
The lifecycle is busy until that stop has gone. A reference that reaches the queue before the
deferred step is released by that step; one that comes later is left to a later generation, which
forgets it.
-/

namespace Embedder.Threads

variable {σ : Type} {G : Guest σ} {s s' : Threads σ} {n i j : Nat} {a : Arrival} {c : Settlement}

/-- What becomes of the references that are put into the queue. -/
structure QueueLaws (G : Guest σ) (s : Threads σ) : Prop where
  /-- The ledger has all releases of kept references that the guest saw. -/
  seen : s.ledger.deeds.map Deed.release = s.host.world.diary
  /-- What is in the queue has come since the last session was entered, or since the last deferred
  step of a stop. -/
  waiting : s.host.waiting = (s.ledger.arrived s.ledger.settlements.length).map Prod.fst
  /-- The next one after it came takes a reference out of the queue, once, and no other does. -/
  taken : ∀ (n : Nat) (a : Arrival) (j : Nat) (c : Settlement), s.ledger.arrivals[n]? = some a →
    s.ledger.settlements[j]? = some c → c.taken.count (a.kept, n) = if j = a.before then 1 else 0
  /-- It is not released before that. -/
  untouched : ∀ (n : Nat) (a : Arrival), s.ledger.arrivals[n]? = some a →
    s.ledger.settlements[a.before]? = none → s.ledger.releasesOf n = []
  /-- Who took it still has it in hand, or has dealt with it: it was released once, in its own
  generation, or never if the session or the stop was of another generation. -/
  dealt : ∀ (n : Nat) (a : Arrival) (c : Settlement), s.ledger.arrivals[n]? = some a →
    s.ledger.settlements[a.before]? = some c →
    ((a.kept, n) ∈ c.left ∧ s.ledger.releasesOf n = []) ∨
    ((a.kept, n) ∉ c.left ∧ s.ledger.releasesOf n =
      if a.kept.generation = c.generation then [⟨a.kept, some a.kept.generation⟩] else [])
  /-- Only an open session, or a stop in its deferred step, has something in hand. -/
  underway : ∀ (j : Nat) (c : Settlement), s.ledger.settlements[j]? = some c → c.left ≠ [] →
    s.Underway j
  /-- It can always go on until it has nothing in hand, and only then does the session or the stop
  get any further. -/
  finishes : ∀ (j : Nat) (c : Settlement), s.ledger.settlements[j]? = some c →
    ∃ s' c', s.run G (List.replicate c.left.length (.settle j)) = .ok s' ∧
      s'.ledger.settlements[j]? = some c' ∧ c'.left = []
  /-- If the binding lost its last owner while a stop tore the registry down, the reference came
  before the deferred step of that stop, which releases it if it is of the generation that is
  stopped. Or it came later, and then it is never released, be it of that generation or of one
  before. (A later one has not begun when the registry is torn down.) -/
  teardown : ∀ (n : Nat) (a : Arrival) (i : Nat) (c : Settlement), s.ledger.arrivals[n]? = some a →
    a.teardown = some i → s.ledger.settlements[i]? = some c → c.byStop = true ∧
    ((a.before = i ∧ (a.kept.generation = c.generation → (a.kept, n) ∉ c.left →
        s.ledger.releasesOf n = [⟨a.kept, some c.generation⟩])) ∨
      (i < a.before ∧ (a.kept.generation ≤ c.generation → s.ledger.releasesOf n = [])))
  /-- Such a binding may also come to look at the lifecycle so late that it is not busy any more.
  Then its reference is forgotten. -/
  late : ∀ e ∈ s.ending, ∀ i, e.teardown = some i → s.busy = false →
    ∃ c, s.ledger.settlements[i]? = some c ∧ c.byStop = true ∧
      (e.binding.generation ≤ c.generation → (e.binding.drop G.watched false).run s.host =
        .ok ((), { s.host with
          log := s.host.log ++ [Notice.report (.leaked e.binding.generation)] }))

/-! ## The laws -/

namespace Guarded

/-- A reference that came is counted where it went, and nowhere else. -/
theorem count_taken (hs : s.Guarded) (ha : s.ledger.arrivals[n]? = some a)
    (hc : s.ledger.settlements[j]? = some c) :
    c.taken.count (a.kept, n) = if j = a.before then 1 else 0 := by
  have htaken := hs.accounts.taken j c hc
  unfold Ledger.arrived at htaken
  rw [htaken]
  split
  next hj =>
    refine List.count_eq_one_of_mem (Arrival.numbered_nodup _ _) ?_
    exact Arrival.mem_numbered.mpr ⟨a, ha, rfl, hj.symm⟩
  next hj =>
    refine List.count_eq_zero.mpr fun hmem => hj ?_
    obtain ⟨a', ha', -, hbefore⟩ := Arrival.mem_numbered.mp hmem
    cases ha.symm.trans ha'
    exact hbefore.symm

theorem untouched (hs : s.Guarded) (ha : s.ledger.arrivals[n]? = some a)
    (hnone : s.ledger.settlements[a.before]? = none) : s.ledger.releasesOf n = [] := by
  rw [hs.accounts.due n a ha, Ledger.dueTo, hnone]
  rfl

theorem dealt (hs : s.Guarded) (ha : s.ledger.arrivals[n]? = some a)
    (hc : s.ledger.settlements[a.before]? = some c) :
    ((a.kept, n) ∈ c.left ∧ s.ledger.releasesOf n = []) ∨
    ((a.kept, n) ∉ c.left ∧ s.ledger.releasesOf n =
      if a.kept.generation = c.generation then [⟨a.kept, some a.kept.generation⟩] else []) := by
  have hdue := hs.accounts.due n a ha
  rw [Ledger.dueTo, hc, Option.elim_some, Settlement.dueTo] at hdue
  by_cases hleft : (a.kept, n) ∈ c.left
  · rw [if_pos hleft] at hdue
    exact .inl ⟨hleft, hdue⟩
  · rw [if_neg hleft, Settlement.releases] at hdue
    refine .inr ⟨hleft, ?_⟩
    rw [hdue]
    split
    next heq => rw [heq]
    next => rfl

/-- What comes after the deferred step of a stop is not released any more, if it is of the
generation that the stop ended. -/
theorem never_released (hs : s.Guarded) (ha : s.ledger.arrivals[n]? = some a)
    (hc : s.ledger.settlements[i]? = some c) (hbyStop : c.byStop = true) (hlater : i < a.before)
    (hgeneration : a.kept.generation ≤ c.generation) : s.ledger.releasesOf n = [] := by
  cases hd : s.ledger.settlements[a.before]? with
  | none => exact hs.untouched ha hd
  | some d =>
    -- whoever takes it comes after that stop, so it is of a later generation
    have hless := (hs.ordered i a.before c d hlater hc hd).2 hbyStop
    rcases hs.dealt ha hd with ⟨-, hnone⟩ | ⟨-, hreleased⟩
    · exact hnone
    · rw [hreleased, if_neg]
      omega

/-- While the lifecycle is free, every stop that came to its deferred step has ended its
generation. -/
theorem gone_of_free (hs : s.Guarded) (hfree : s.busy = false)
    (hc : s.ledger.settlements[i]? = some c) (hbyStop : c.byStop = true) {generation : Nat}
    (hgeneration : generation ≤ c.generation) :
    ¬(s.host.lifecycle.stage = .running ∧ s.host.lifecycle.generation = generation) := by
  rintro ⟨hrunning, rfl⟩
  have hless := (hs.past i c hc).2 hbyStop hrunning fun j hj =>
    nomatch (holder_of_free hfree).symm.trans hj
  omega

theorem queueLaws (hs : s.Guarded) (G : Guest σ) : s.QueueLaws G where
  seen := hs.accounts.diary
  waiting := hs.accounts.waiting_eq
  taken _ _ _ _ ha hc := hs.count_taken ha hc
  untouched _ _ ha hnone := hs.untouched ha hnone
  dealt _ _ _ ha hc := hs.dealt ha hc
  underway := hs.underway
  finishes j c hc := by
    obtain ⟨l, hrun, hl⟩ := settle_run (G := G) hc
    exact ⟨_, _, hrun, hl, rfl⟩
  teardown n a i c ha hi hc := by
    obtain ⟨hstop, hle⟩ := hs.arrivals a (List.mem_of_getElem? ha) i hi
    have hbyStop : c.byStop = true := by
      rcases hstop with hstop | ⟨d, hd, hd'⟩
      · -- the settlement of a stop that still tears the registry down has not been made
        rw [eq_of_teardown hstop, List.getElem?_eq_none (Nat.le_refl _)] at hc
        cases hc
      · cases hc.symm.trans hd
        exact hd'
    refine ⟨hbyStop, ?_⟩
    rcases Nat.lt_or_eq_of_le hle with hlater | heq
    · exact .inr ⟨hlater, hs.never_released ha hc hbyStop hlater⟩
    · refine .inl ⟨heq.symm, fun hgeneration hleft => ?_⟩
      subst heq
      rcases hs.dealt ha hc with ⟨hmem, -⟩ | ⟨-, hreleased⟩
      · exact absurd hmem hleft
      · rw [hreleased, if_pos hgeneration, hgeneration]
  late e he i hi hfree := by
    rcases hs.ends e (List.mem_append_left _ he) i hi with hstop | ⟨c, hc, hbyStop⟩
    · -- a stop that tears the registry down keeps the lifecycle busy
      exact absurd hstop (not_teardown (by rw [holder_of_free hfree]; rfl))
    · exact ⟨c, hc, hbyStop, fun hgeneration =>
        Binding.drop_run_of_gone (hs.gone_of_free hfree hc hbyStop hgeneration)⟩

end Guarded

/-- **Deferred releases.** In whatever order the threads of a process make their moves: a reference
that is put into the queue leaves it at the next session or deferred step, which releases it, once,
if it is of its generation, and forgets it if not. -/
theorem queue_laws (G : Guest σ) (world : σ) (moves : List (Move σ)) :
    Ends ((fresh world).run G moves) (QueueLaws G) :=
  fun _ hr => (run_guarded (fresh_guarded world) hr).queueLaws G

/-- Two bindings lose their last owner while a stop tears the registry down. The reference of one
reaches the queue before the deferred step, and the stop releases it. The other one is late: the
session of the next generation forgets its reference. -/
example :
    let b : Binding := ⟨"outliers", "detect", willingObj, 1⟩
    let start (config : Config) : List (Move Bool) :=
      [.ask, .acquire, .launch mainThread config, .finish]
    let stop : List (Move Bool) :=
      [.ask, .acquire, .unfile, .loseBinding b, .loseBinding b, .look 0, .look 0, .push 0,
        .collect, .settle 0, .push 0, .finalize mainThread, .finish]
    ((fresh false).run willing (start Config.default ++ stop ++
        start (Config.default.withRestart true) ++ [.enter none, .settle 1])).toOption.map
      (fun s => (s.ledger.releasesOf 0, s.ledger.releasesOf 1, s.host.waiting)) =
    some ([⟨⟨willingObj, 1⟩, some 1⟩], [], []) := by
  decide +kernel

end Embedder.Threads
