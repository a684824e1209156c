import Embedder.Proofs.Balance
import Embedder.Proofs.Conduct.Operation
import Embedder.Proofs.Marshal.Runs
import Embedder.Proofs.Requests
import Embedder.Proofs.Tallied

/-!
# Reading a list by its length

`Sequence.fromList` asks an object for its length and its iterator, and then takes as many turns as
the length says. A turn is one call of `__next__`, whose item is converted and given up before the
next turn (`Sequence.turn`). The first turn that does not come to a value is the last one
(`Sequence.turns`), and what it came to is the error of the reading (`Sequence.Verdict`). After as
many values as were announced there is no further turn, to look for an end or for anything else.

All this is said of acts of the guest. That an exception is pending for a while, that the iterator
and each item have handles, and that a walk remembers its end does not show (`fromList_run`).
-/

namespace Embedder

open Exception

variable {σ α β : Type} {G : Guest σ} {D : Decoder σ β} {h k : Host σ}

/-! ## Turns -/

/-- What a turn of a reading comes to. -/
inductive Turn (β : Type) where
  /-- An item that was converted. -/
  | read (b : β)
  /-- An item that could not be converted. -/
  | refused (c : ExceptionReport)
  /-- The iterator has ended. -/
  | ended
  /-- The iterator raised. -/
  | raised (r : ExceptionReport)

/-- What the conversion of an item makes of the turn. -/
def Turn.ofConversion : Except ExceptionReport β → Turn β
  | .ok b => .read b
  | .error c => .refused c

/-- Whether the walk is over after the turn. -/
def Turn.isLast : Turn β → Bool
  | .ended => true
  | .raised _ => true
  | _ => false

namespace Sequence

/-- One turn: one call of `__next__`. An item is converted and given up; an exception that marks the
end is let go, and any other one is taken. -/
def turn (G : Guest σ) (D : Decoder σ β) (next : Obj) (h : Host σ) :
    Except Exit (Turn β × Host σ) :=
  let e := G.call next none h.world
  let k := h.after e
  match e.value with
  | .value o => ((D.decode ⟨o, .owned⟩).run.run (k.hold 1)).map fun x =>
    (.ofConversion x.1, (x.2.after (G.release o x.2.world)).hold (-1))
  | .raised p =>
    if G.isStopIteration p e.world then
      .ok (.ended, k.after (G.releaseAll p.refs.reverse e.world))
    else (k.taken G p).map fun x => (.raised x.1, x.2)
  | .failed => .ok (.ended, k)

/-- At most so many turns, up to the first that does not come to a value. -/
def turns (G : Guest σ) (D : Decoder σ β) (next : Obj) :
    Nat → Host σ → Except Exit (List (Turn β) × Host σ)
  | 0, h => .ok ([], h)
  | n + 1, h =>
    match turn G D next h with
    | .error e => .error e
    | .ok (.read b, k) => (turns G D next n k).map fun x => (.read b :: x.1, x.2)
    | .ok (t, k) => .ok ([t], k)

/-- What the turns from `i` on come to, of `n` in all. -/
def verdict (kind : ElementKind) (n : Nat) : Nat → List (Turn β) → Except Failure (List β)
  | _, [] => .ok []
  | i, .read b :: ts => (verdict kind n (i + 1) ts).map (b :: ·)
  | i, .refused c :: _ => .error (.marshal (.notConvertible i kind c))
  | i, .ended :: _ => .error (.marshal (.endedEarly n i))
  | _, .raised r :: _ => .error (.raised r)

/-- The steps of a walk that is not over are turns. -/
theorem step_run (next : Handle) (hp : h.pending = none) :
    (Walk.step G ⟨next, false⟩).run h =
      let e := G.call next.obj none h.world
      let k := h.after e
      match e.value with
      | .value o => .ok ((.item ⟨o, .owned⟩, ⟨next, false⟩), k.hold 1)
      | .raised p =>
        if G.isStopIteration p e.world then
          .ok ((.finished, ⟨next, true⟩), k.after (G.releaseAll p.refs.reverse e.world))
        else (k.taken G p).map fun x => ((.failed x.1, ⟨next, true⟩), x.2)
      | .failed => .ok ((.finished, ⟨next, true⟩), k) := by
  unfold Walk.step
  rw [if_neg Bool.false_ne_true, Bridge.run_bind (ask_run _ hp)]
  generalize G.call next.obj none h.world = e
  have hafter : (h.after e).pend none = h.after e := Host.pend_self hp
  dsimp only
  cases e.value with
  | value o =>
    show Except.ok (_, ((h.after e).pend none).hold 1) = _
    rw [hafter]
  | failed =>
    have hstop : (takeStop G).run (h.after e) = .ok (true, h.after e) := takeStop_run_of_none hp
    show (takeStop G >>= _).run ((h.after e).pend none) = _
    rw [hafter, Bridge.run_bind hstop]
    rfl
  | raised p =>
    -- an exception is first looked at, and taken only if it does not mark the end
    have hstop : (takeStop G).run ((h.after e).pend (some p)) = _ := takeStop_run_of_some rfl
    show (takeStop G >>= _).run ((h.after e).pend (some p)) =
      if G.isStopIteration p e.world then _ else _
    change _ = if G.isStopIteration p e.world then _ else _ at hstop
    split
    next hs =>
      rw [if_pos hs] at hstop
      rw [Bridge.run_bind hstop, ← hafter]
      rfl
    next hs =>
      have hfetch : (fetch G "__next__").run ((h.after e).pend (some p)) = (h.after e).taken G p := by
        rw [fetch_run_of_some rfl, ← hafter]
        rfl
      rw [if_neg hs] at hstop
      rw [Bridge.run_bind hstop]
      show (fetch G "__next__" >>= fun r => pure _).run _ = _
      rw [Bridge.run_bind_pure, hfetch]

/-- What a decoder does leaves nothing pending. -/
theorem decode_pending (hD : D.Lawful G) {o : Handle} {r : Except ExceptionReport β} {h' : Host σ}
    (hp : h.pending = none) (hr : (D.decode o).run.run h = .ok (r, h')) : h'.pending = none :=
  (hD _ (balanced_lawful G) o h r h' hr).1 hp

/-- The ways in which a turn comes back. -/
inductive Turned (G : Guest σ) (D : Decoder σ β) (next : Obj) (h : Host σ) :
    Turn β → Host σ → Prop where
  | item {o : Obj} {r : Except ExceptionReport β} {k : Host σ}
      (gave : (G.call next none h.world).value = .value o)
      (decoded : (D.decode ⟨o, .owned⟩).run.run ((h.after (G.call next none h.world)).hold 1) =
        .ok (r, k)) :
      Turned G D next h (.ofConversion r) ((k.after (G.release o k.world)).hold (-1))
  | failed (gave : (G.call next none h.world).value = .failed) :
      Turned G D next h .ended (h.after (G.call next none h.world))
  | stopped {p : Pending} (gave : (G.call next none h.world).value = .raised p)
      (stops : G.isStopIteration p (G.call next none h.world).world = true) :
      Turned G D next h .ended ((h.after (G.call next none h.world)).after
        (G.releaseAll p.refs.reverse (G.call next none h.world).world))
  | raised {p : Pending} {r : ExceptionReport} {k : Host σ}
      (gave : (G.call next none h.world).value = .raised p)
      (goesOn : ¬ G.isStopIteration p (G.call next none h.world).world = true)
      (taken : (h.after (G.call next none h.world)).taken G p = .ok (r, k)) :
      Turned G D next h (.raised r) k

theorem turn_ok {next : Obj} {t : Turn β} (hr : turn G D next h = .ok (t, k)) :
    Turned G D next h t k := by
  unfold turn at hr
  cases hv : (G.call next none h.world).value with
  | value o =>
    simp only [hv] at hr
    obtain ⟨y, hdecode, heq⟩ := map_ok hr
    cases heq
    exact .item hv hdecode
  | failed =>
    simp only [hv] at hr
    cases hr
    exact .failed hv
  | raised p =>
    simp only [hv] at hr
    by_cases hs : G.isStopIteration p (G.call next none h.world).world = true
    · rw [if_pos hs] at hr
      cases hr
      exact .stopped hv hs
    · rw [if_neg hs] at hr
      obtain ⟨y, htaken, heq⟩ := map_ok hr
      cases heq
      exact .raised hv hs htaken

/-- A turn leaves nothing pending. -/
theorem turn_pending (hD : D.Lawful G) {next : Obj} {t : Turn β} (hp : h.pending = none)
    (hr : turn G D next h = .ok (t, k)) : k.pending = none := by
  have hafter : (h.after (G.call next none h.world)).pending = none := hp
  cases turn_ok hr with
  | @item _ _ k' _ decoded =>
    have hdecoded : k'.pending = none :=
      decode_pending hD (h := (h.after (G.call next none h.world)).hold 1) hp decoded
    exact hdecoded
  | failed => exact hp
  | stopped => exact hp
  | raised _ _ taken => exact taken_pending hafter taken

/-- More turns are one turn and, if it came to a value, the rest of them. -/
theorem turns_succ_ok {next : Obj} {n : Nat} {ts : List (Turn β)} {h' : Host σ}
    (hr : turns G D next (n + 1) h = .ok (ts, h')) :
    ∃ t k, turn G D next h = .ok (t, k) ∧
      ((∃ b us, t = .read b ∧ ts = .read b :: us ∧ turns G D next n k = .ok (us, h')) ∨
        (∀ b, t ≠ .read b) ∧ ts = [t] ∧ h' = k) := by
  unfold turns at hr
  rcases hturn : turn G D next h with e | ⟨t, k⟩
  · rw [hturn] at hr
    cases hr
  · rw [hturn] at hr
    refine ⟨t, k, rfl, ?_⟩
    cases t with
    | read b =>
      obtain ⟨y, hrest, heq⟩ := map_ok hr
      cases heq
      exact .inl ⟨b, y.1, rfl, rfl, hrest⟩
    | _ =>
      cases hr
      exact .inr ⟨fun _ => nofun, rfl, rfl⟩

/-- To read on is to take a turn and, if it came to a value, to read on. -/
theorem readItems_succ_run (next : Handle) (expected n i : Nat) (hp : h.pending = none) :
    (readItems G D expected (n + 1) i ⟨next, false⟩).run h =
      match turn G D next.obj h with
      | .error e => .error e
      | .ok (.read b, k) => ((readItems G D expected n (i + 1) ⟨next, false⟩).run k).map fun x =>
        ((x.1.1.map (b :: ·), x.1.2), x.2)
      | .ok (t, k) => .ok ((verdict D.kind expected i [t], ⟨next, t.isLast⟩), k) := by
  have hstep := step_run (G := G) next hp
  rw [readItems]
  unfold turn
  generalize G.call next.obj none h.world = e at hstep ⊢
  cases hv : e.value with
  | value o =>
    simp only [hv] at hstep ⊢
    rw [Bridge.run_bind hstep]
    -- the item is given up when it was converted, which is before the next turn
    show (Handle.owning G ⟨o, .owned⟩ (D.decode ⟨o, .owned⟩).run >>= _).run _ = _
    rw [StateT.run_bind, Handle.run_owning]
    rcases (D.decode ⟨o, .owned⟩).run.run ((h.after e).hold 1) with ex | ⟨c | b, k⟩
    · rfl
    · rfl
    · show (readItems G D expected n (i + 1) ⟨next, false⟩ >>= fun x =>
        pure (x.1.map (b :: ·), x.2)).run ((k.after (G.release o k.world)).hold (-1)) = _
      exact Bridge.run_bind_pure
  | failed =>
    simp only [hv] at hstep ⊢
    rw [Bridge.run_bind hstep]
    rfl
  | raised p =>
    simp only [hv] at hstep ⊢
    by_cases hs : G.isStopIteration p e.world
    · rw [if_pos hs] at hstep
      rw [Bridge.run_bind hstep, if_pos hs]
      rfl
    · rw [if_neg hs] at hstep
      rw [StateT.run_bind, hstep, if_neg hs]
      generalize (h.after e).taken G p = taken
      cases taken with
      | error ex => rfl
      | ok y => rfl

/-- By induction on the turns that are left. Nothing is pending before any of them, so each is taken
as the first one was. -/
theorem readItems_run (hD : D.Lawful G) (next : Handle) (expected : Nat) :
    ∀ (n i : Nat) (h : Host σ), h.pending = none →
      (readItems G D expected n i ⟨next, false⟩).run h =
        (turns G D next.obj n h).map fun x =>
          ((verdict D.kind expected i x.1, ⟨next, x.1.any Turn.isLast⟩), x.2) := by
  intro n
  induction n with
  | zero => intro i h _; rfl
  | succ n ih =>
    intro i h hp
    rw [readItems_succ_run next expected n i hp]
    unfold turns
    cases hturn : turn G D next.obj h with
    | error e => rfl
    | ok y =>
      obtain ⟨t, k⟩ := y
      cases t with
      | read b =>
        dsimp only
        rw [ih (i + 1) k (turn_pending hD hp hturn)]
        cases turns G D next.obj n k with
        | error e => rfl
        | ok x => rfl
      | _ => simp [verdict, Turn.isLast, Except.map]

/-! ## Openings -/

/-- How a walk begins: with the iterator and its `__next__`, which outlives the iterator. -/
def looking (G : Guest σ) (seq : Obj) (h : Host σ) :
    Except Exit (Except ExceptionReport Obj × Host σ) :=
  Attempt.proceed (h.requested G "PyObject_GetIter" (G.iterator seq)) fun it k =>
    (k.requested G "PyObject_GetAttrString" (G.getAttr it "__next__")).map fun x =>
      (x.1, x.2.after (G.release it x.2.world))

/-- How a reading begins: with the length, and then with a walk, also if there is nothing to read. -/
def opening (G : Guest σ) (seq : Obj) (h : Host σ) :
    Except Exit (Except ExceptionReport (Nat × Obj) × Host σ) :=
  Attempt.proceed (h.requested G "PyObject_Size" (G.length seq)) fun n k =>
    Attempt.proceed (looking G seq k) fun next k => .ok (.ok (n, next), k)

/-- How a reading turns out. -/
def reading (G : Guest σ) (D : Decoder σ β) (seq : Obj) (h : Host σ) :
    Except Exit (Except Failure (List β) × Host σ) :=
  Attempt.proceed (Attempt.failing (fun c => .marshal (.notASequence c)) (opening G seq h))
    fun y k => (turns G D y.2 y.1 (k.hold 1)).map fun x =>
      (verdict D.kind y.1 0 x.1, (x.2.after (G.release y.2 x.2.world)).hold (-1))

theorem start_run (seq : Handle) (hp : h.pending = none) :
    (Walk.start G seq).run.run h =
      Attempt.proceed (looking G seq.obj h) fun next k =>
        .ok (.ok ⟨⟨next, .owned⟩, false⟩, k.hold 1) := by
  unfold Walk.start looking
  rw [Attempt.run_bind, requestNew_run hp, Attempt.proceed_assoc, Attempt.proceed_assoc]
  refine Attempt.proceed_congr fun it k hi => ?_
  have hk : k.pending = none := requested_pending hp hi
  have hbody : (Handle.getAttr G ⟨it, .owned⟩ "__next__" >>=
      fun next => (pure ⟨next, false⟩ : Attempt σ ExceptionReport Walk)).run.run (k.hold 1) =
      Attempt.proceed ((k.requested G "PyObject_GetAttrString" (G.getAttr it "__next__")).map
        fun x => (x.1, x.2.hold 1)) fun next k => .ok (.ok ⟨⟨next, .owned⟩, false⟩, k.hold 1) := by
    rw [Attempt.run_bind, Handle.getAttr_eq (by decide), requestNew_run (h := k.hold 1) hk,
      requested_hold, Attempt.proceed_assoc]
    rfl
  -- the handle on the iterator ends, whatever came of the lookup
  show (Handle.owning G ⟨it, .owned⟩ _).run (k.hold 1) = _
  rw [Handle.run_owning, hbody]
  rcases k.requested G "PyObject_GetAttrString" (G.getAttr it "__next__") with e | ⟨c | next, k'⟩
  · rfl
  · show Except.ok (_, ((k'.hold 1).after _).hold (-1)) = _
    rw [Host.hold_after, Host.hold_hold, Int.add_right_neg, Host.hold_zero]
    rfl
  · show Except.ok (_, (((k'.hold 1).hold 1).after _).hold (-1)) = _
    rw [Host.hold_hold, Host.hold_after, Host.hold_hold]
    rfl

theorem looking_pending {seq : Obj} (hp : h.pending = none) :
    Ends (looking G seq h) fun y => y.2.pending = none := by
  refine Attempt.proceed_ends (P := fun k => k.pending = none)
    (fun _ hr => requested_pending hp hr) fun it k hk y hy => ?_
  obtain ⟨z, hz, rfl⟩ := map_ok hy
  have hpending : z.2.pending = none := requested_pending hk hz
  exact hpending

/-- A reading of a list, with a decoder that leaves nothing behind, turns out as said. -/
theorem fromList_run (hD : D.Lawful G) (seq : Handle) (hp : h.pending = none) :
    (fromList G D seq).run.run h = reading G D seq.obj h := by
  have hlength : (seq.length G).run.run h = h.requested G "PyObject_Size" (G.length seq.obj) :=
    request_run hp
  unfold fromList reading opening
  rw [Attempt.run_bind, Attempt.run_mapError, hlength, Attempt.failing_proceed, Attempt.proceed_assoc]
  refine Attempt.proceed_congr fun n k hn => ?_
  have hk : k.pending = none := requested_pending hp (Attempt.failing_ok hn)
  rw [Attempt.run_bind, Attempt.run_mapError, start_run seq hk, Attempt.failing_proceed,
    Attempt.failing_proceed, Attempt.proceed_assoc, Attempt.proceed_assoc]
  refine Attempt.proceed_congr fun next k' hl => ?_
  have hk' : k'.pending = none := looking_pending hk _ (Attempt.failing_ok hl)
  show (readItems G D n n 0 ⟨⟨next, .owned⟩, false⟩ >>= _).run (k'.hold 1) = _
  rw [StateT.run_bind, readItems_run hD ⟨next, .owned⟩ n n 0 (k'.hold 1) hk']
  show _ = (turns G D next n (k'.hold 1)).map _
  rcases turns G D next n (k'.hold 1) with e | ⟨ts, k₂⟩
  · rfl
  · show (Handle.drop G ⟨next, .owned⟩ >>= fun _ => pure (verdict D.kind n 0 ts)).run k₂ = _
    exact Bridge.run_bind (Handle.drop_owned_run next k₂)

/-! ## Verdicts -/

/-- What the turns of a reading come to, of `n` that were announced: the values of all of them, or
the error of the first that came to none, after which there is no other. -/
inductive Verdict (kind : ElementKind) (n : Nat) :
    List (Turn β) → Except Failure (List β) → Prop where
  | full {bs : List β} (all : bs.length = n) : Verdict kind n (bs.map .read) (.ok bs)
  | ended {bs : List β} (short : bs.length < n) :
      Verdict kind n (bs.map .read ++ [.ended]) (.error (.marshal (.endedEarly n bs.length)))
  | raised {bs : List β} {r : ExceptionReport} (short : bs.length < n) :
      Verdict kind n (bs.map .read ++ [.raised r]) (.error (.raised r))
  | refused {bs : List β} {c : ExceptionReport} (short : bs.length < n) :
      Verdict kind n (bs.map .read ++ [.refused c])
        (.error (.marshal (.notConvertible bs.length kind c)))

theorem verdict_append (kind : ElementKind) (n : Nat) (ts : List (Turn β)) :
    ∀ (bs : List β) (i : Nat), verdict kind n i (bs.map .read ++ ts) =
      (verdict kind n (i + bs.length) ts).map (bs ++ ·) := by
  intro bs
  induction bs with
  | nil =>
    intro i
    show verdict kind n i ts = (verdict kind n i ts).map ([] ++ ·)
    cases verdict kind n i ts <;> simp [Except.map]
  | cons b bs ih =>
    intro i
    show (verdict kind n (i + 1) (bs.map .read ++ ts)).map (b :: ·) = _
    rw [ih (i + 1), List.length_cons, Nat.add_right_comm, Nat.add_assoc]
    cases verdict kind n (i + (bs.length + 1)) ts <;> rfl

/-- The turns decide what a reading comes to. -/
theorem Verdict.eq {kind : ElementKind} {n : Nat} {ts : List (Turn β)}
    {r : Except Failure (List β)} (hv : Verdict kind n ts r) : verdict kind n 0 ts = r := by
  cases hv with
  | full all =>
    rename_i bs
    have happend := verdict_append kind n [] bs 0
    rw [List.append_nil] at happend
    simp [happend, verdict, Except.map]
  | _ => simp [verdict_append, verdict, Except.map]

/-- A reading takes turns until one comes to no value or there were as many as announced. -/
theorem turns_shape {next : Obj} : ∀ {n : Nat} {h k : Host σ} {ts : List (Turn β)},
    turns G D next n h = .ok (ts, k) →
      (∃ bs : List β, ts = bs.map .read ∧ bs.length = n) ∨
      ∃ (bs : List β) (t : Turn β), ts = bs.map .read ++ [t] ∧ bs.length < n ∧ ∀ b, t ≠ .read b := by
  intro n
  induction n with
  | zero =>
    intro h k ts hr
    cases hr
    exact .inl ⟨[], rfl, rfl⟩
  | succ n ih =>
    intro h k ts hr
    obtain ⟨t, k₁, -, ⟨b, us, rfl, rfl, hrest⟩ | ⟨hlast, rfl, rfl⟩⟩ := turns_succ_ok hr
    · rcases ih hrest with ⟨bs, rfl, hlen⟩ | ⟨bs, t, rfl, hlen, ht⟩
      · exact .inl ⟨b :: bs, rfl, by simp [hlen]⟩
      · exact .inr ⟨b :: bs, t, rfl, by simp [hlen], ht⟩
    · exact .inr ⟨[], t, rfl, Nat.succ_pos n, hlast⟩

theorem turns_verdict {next : Obj} {n : Nat} {ts : List (Turn β)}
    (hr : turns G D next n h = .ok (ts, k)) : Verdict D.kind n ts (verdict D.kind n 0 ts) := by
  rcases turns_shape hr with ⟨bs, rfl, hlen⟩ | ⟨bs, t, rfl, hlen, ht⟩
  · have hv : Verdict D.kind n (bs.map Turn.read) (.ok bs) := .full hlen
    rw [hv.eq]
    exact hv
  · cases t with
    | read b => exact absurd rfl (ht b)
    | refused c =>
      have hv : Verdict D.kind n (bs.map Turn.read ++ [.refused c]) _ := .refused hlen
      rw [hv.eq]
      exact hv
    | ended =>
      have hv : Verdict D.kind n (bs.map Turn.read ++ [.ended]) _ := .ended hlen
      rw [hv.eq]
      exact hv
    | raised r =>
      have hv : Verdict D.kind n (bs.map Turn.read ++ [.raised r]) _ := .raised hlen
      rw [hv.eq]
      exact hv

/-! ## The laws of reading -/

/-- How a reading comes out, and the turns that it took. -/
inductive Reads (G : Guest σ) (D : Decoder σ β) (seq : Obj) (h : Host σ) :
    Except Failure (List β) → List (Turn β) → Host σ → Prop where
  | unopened {c : ExceptionReport} {k : Host σ} (opened : opening G seq h = .ok (.error c, k)) :
      Reads G D seq h (.error (.marshal (.notASequence c))) [] k
  | opened {n : Nat} {next : Obj} {k k' : Host σ} {ts : List (Turn β)}
      {r : Except Failure (List β)} (opened : opening G seq h = .ok (.ok (n, next), k))
      (turned : turns G D next n (k.hold 1) = .ok (ts, k')) (verdict : Verdict D.kind n ts r) :
      Reads G D seq h r ts ((k'.after (G.release next k'.world)).hold (-1))

theorem reading_eq_ok_iff {seq : Obj} {r : Except Failure (List β)} {h' : Host σ} :
    reading G D seq h = .ok (r, h') ↔ ∃ ts, Reads G D seq h r ts h' := by
  constructor
  · intro hr
    unfold reading at hr
    rcases ho : opening G seq h with e | ⟨c | ⟨n, next⟩, k⟩
    · rw [ho] at hr
      cases hr
    · rw [ho] at hr
      cases hr
      exact ⟨[], .unopened ho⟩
    · rw [ho] at hr
      obtain ⟨⟨ts, k'⟩, hturned, heq⟩ := map_ok (x := turns G D next n (k.hold 1)) hr
      cases heq
      exact ⟨ts, .opened ho hturned (turns_verdict hturned)⟩
  · rintro ⟨ts, hreads⟩
    unfold reading
    cases hreads with
    | unopened opened =>
      rw [opened]
      rfl
    | opened opened turned verdict =>
      rw [opened]
      show (turns G D _ _ _).map _ = _
      rw [turned, ← verdict.eq]
      rfl

/-! ### The tally -/

section Calls

variable {h k : Host (Tallied σ)} {D : Decoder (Tallied σ) β}

/-- Nothing is pending, and there were so many calls so far. -/
def Stood (n : Nat) (h : Host (Tallied σ)) : Prop := h.pending = none ∧ h.world.calls = n

theorem requested_stood {context : String} {f : Tallied σ → Outcome (Tallied σ) α} {n : Nat}
    (hf : ∀ w, (f w).world.calls = w.calls) (hs : Stood n h) :
    Ends (h.requested G.tallied context f) fun y => Stood n y.2 := by
  rintro ⟨r, k⟩ hr
  have hcalls : (h.after (f h.world)).world.calls = n := (hf h.world).trans hs.2
  refine ⟨requested_pending hs.1 hr, ?_⟩
  cases requested_ok hr with
  | raised _ taken => exact (taken_calls taken hs.1).trans hcalls
  | _ => exact hcalls

theorem opening_stood {seq : Obj} {n : Nat} (hs : Stood n h) :
    Ends (opening G.tallied seq h) fun y => Stood n y.2 := by
  refine Attempt.proceed_ends (requested_stood (fun _ => rfl) hs) fun _ k hk => ?_
  refine Attempt.proceed_ends (Attempt.proceed_ends (requested_stood (fun _ => rfl) hk) ?_) ?_
  · intro it k hk y hy
    obtain ⟨z, hz, rfl⟩ := map_ok hy
    have hstood : Stood n z.2 := requested_stood (fun _ => rfl) hk z hz
    exact hstood
  · intro next k hk y hy
    cases hy
    exact hk

/-- A turn is one call without arguments. -/
theorem turn_calls (hD : D.Has Trait.tallying) {next : Obj} {t : Turn β} (hp : h.pending = none)
    (hr : turn G.tallied D next h = .ok (t, k)) : k.world.calls = h.world.calls + 1 := by
  have hcall : (h.after (G.tallied.call next none h.world)).world.calls = h.world.calls + 1 := rfl
  cases turn_ok hr with
  | item _ decoded => exact (hD _ _ _ _ decoded).trans hcall
  | failed => exact hcall
  | stopped => exact (Guest.releaseAll_calls _ _).trans hcall
  | raised _ _ taken => exact (taken_calls taken hp).trans hcall

theorem turns_calls (hD : D.Has Trait.tallying) (hlawful : D.Lawful G.tallied) {next : Obj} :
    ∀ {n : Nat} {h k : Host (Tallied σ)} {ts : List (Turn β)}, h.pending = none →
      turns G.tallied D next n h = .ok (ts, k) → k.world.calls = h.world.calls + ts.length := by
  intro n
  induction n with
  | zero =>
    intro h k ts hp hr
    cases hr
    rfl
  | succ n ih =>
    intro h k ts hp hr
    obtain ⟨t, k₁, hturn, ⟨b, us, rfl, rfl, hrest⟩ | ⟨-, rfl, rfl⟩⟩ := turns_succ_ok hr
    · have hone := turn_calls hD hp hturn
      have hmore := ih (turn_pending hlawful hp hturn) hrest
      rw [List.length_cons]
      omega
    · exact turn_calls hD hp hturn

theorem Reads.calls (hD : D.Has Trait.tallying) (hlawful : D.Lawful G.tallied) {seq : Obj}
    {r : Except Failure (List β)} {ts : List (Turn β)} (hp : h.pending = none)
    (hr : Reads G.tallied D seq h r ts k) : k.world.calls = h.world.calls + ts.length := by
  cases hr with
  | unopened opened => exact (opening_stood ⟨hp, rfl⟩ _ opened).2
  | @opened n next k₁ k₂ _ _ opened turned _ =>
    obtain ⟨hp₁, hcalls⟩ := opening_stood ⟨hp, rfl⟩ _ opened
    have hturns := turns_calls hD hlawful (h := k₁.hold 1) hp₁ turned
    exact hturns.trans (congrArg (· + ts.length) hcalls)

end Calls

/-- A decoder that leaves nothing behind and outlives whatever it meets, a printed exception that
ends the process apart. -/
structure Tidy (G : Guest σ) (D : Decoder σ β) : Prop where
  lawful : D.Lawful G
  surviving : D.Has (Trait.surviving G fun _ => ())

theorem decoder_tidy (G : Guest σ) (kind : ElementKind) : Tidy G (Scenario.decoder G kind) :=
  ⟨Scenario.decoder_lawful kind, Scenario.decoder_has (Trait.surviving_lawful G _) kind⟩

/-- **A reading equals its reference.** With nothing pending, a reading comes back just as its length,
its iterator and its turns decide (`Reads`): with the values of as many turns as were announced and
no turn more, or with the error of the first turn that came to none, which is the last one. It comes
back unless an exception was printed and this ended the process. For each kind of element there is
one call of `__next__` for each turn, and there are no others. -/
theorem fromList_laws (G : Guest σ) (D : Decoder σ β) (hD : Tidy G D) (seq : Handle) (h : Host σ)
    (hp : h.pending = none) :
    (∀ r h', (fromList G D seq).run.run h = .ok (r, h') ↔ ∃ ts, Reads G D seq.obj h r ts h') ∧
    (∀ e, (fromList G D seq).run.run h = .error e →
      h.printing = true ∧ ∃ p w, (G.print p w).value = some e.status) ∧
    ∀ (kind : ElementKind) (k : Host (Tallied σ)), k.pending = none →
      Ends ((fromList G.tallied (Scenario.decoder G.tallied kind) seq).run.run k) fun x =>
        ∃ ts, Reads G.tallied (Scenario.decoder G.tallied kind) seq.obj k x.1 ts x.2 ∧
          x.2.world.calls = k.world.calls + ts.length := by
  refine ⟨fun r h' => ?_, fun e he => ?_, fun kind k hk x hx => ?_⟩
  · rw [fromList_run hD.lawful seq hp]
    exact reading_eq_ok_iff
  · have hsurvives := fromList_has (Trait.surviving_lawful G _) hD.surviving seq h
    rw [he] at hsurvives
    cases hsurvives with
    | printed on ended => exact ⟨on, _, _, ended⟩
  · have hlawful := (decoder_tidy G.tallied kind).lawful
    rw [fromList_run hlawful seq hk] at hx
    obtain ⟨ts, hreads⟩ := reading_eq_ok_iff.mp hx
    have hcalls := hreads.calls (Scenario.decoder_tallying G kind) hlawful hk
    exact ⟨ts, hreads, hcalls⟩

/-- A guest whose objects have two items, each of them nought. -/
def twoNoughts : Guest Bool := { willing with length := fun _ => granted 2 }

/-- A guest whose iterators raise what its printer takes for the end of the process. -/
def abrupt : Guest Bool :=
  { Process.leaving with
    length := fun _ => granted 2
    call := fun _ _ up => ⟨.raised ⟨willingObj, none, none⟩, up, []⟩ }

/-- Two items are read in two turns, and there are two calls. -/
theorem twoNoughts_fromList_laws :
    Tidy twoNoughts (Scalar.decodeInt twoNoughts) ∧ (Host.fresh true).pending = none ∧
    (∃ ts h', Reads twoNoughts (Scalar.decodeInt twoNoughts) willingObj (Host.fresh true)
      (.ok [0, 0]) ts h' ∧ ts.length = 2) ∧
    ((fromList twoNoughts.tallied (Scenario.decoder twoNoughts.tallied .int64)
      ⟨willingObj, .owned⟩).run.run (Host.fresh ⟨true, 0⟩)).toOption.map
        (fun x => x.2.world.calls) = some 2 := by
  have hD : Tidy twoNoughts (Scalar.decodeInt twoNoughts) :=
    ⟨Scalar.decodeInt_lawful, Scalar.decodeInt_has (Trait.surviving_lawful _ _)⟩
  have hlaws := fromList_laws twoNoughts _ hD ⟨willingObj, .owned⟩ (Host.fresh true) rfl
  have hread : ((fromList twoNoughts (Scalar.decodeInt twoNoughts) ⟨willingObj, .owned⟩).run.run
      (Host.fresh true)).toOption.map (·.1) = some (.ok [0, 0]) := by
    decide +kernel
  obtain ⟨⟨r, h'⟩, hrun, rfl⟩ := Option.map_eq_some_iff.mp hread
  obtain ⟨ts, hreads⟩ := (hlaws.1 _ _).mp (ok_of_toOption hrun)
  refine ⟨hD, rfl, ⟨ts, h', hreads, ?_⟩, by decide +kernel⟩
  cases hreads with
  | opened opened turned verdict =>
    cases verdict with
    | full all => rfl

/-- The status with which a program ended the process, if it did. -/
def endStatus (x : Except Exit α) : Option Nat :=
  match x with
  | .ok _ => none
  | .error e => some e.status

/-- While printing is off the exception of an iterator is the error of the reading, and while it is
on the reading never returns. -/
theorem fromList_ends_process :
    ((fromList abrupt (Scalar.decodeInt abrupt) ⟨willingObj, .owned⟩).run.run
      (Host.fresh true)).toOption.map (·.1) = some (.error (.raised ⟨"", "", none⟩)) ∧
    endStatus ((fromList abrupt (Scalar.decodeInt abrupt) ⟨willingObj, .owned⟩).run.run
      { Host.fresh true with printing := true }) = some 3 :=
  ⟨by decide +kernel, by decide +kernel⟩

end Sequence

end Embedder
