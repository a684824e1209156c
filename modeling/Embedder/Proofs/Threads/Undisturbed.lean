import Embedder.Proofs.LettingGo
import Embedder.Proofs.Threads.System

/-!
# Moves that nobody comes between

If nobody comes between the moves of a thread, they come to what the bridge does as one program: a
session begins as `Session.enterAs` begins it (`session_undisturbed`), a stop ends as
`Interpreter.stop` ends (`stop_undisturbed`), a start comes up as `Interpreter.launch` does, and a
binding or a ticket ends as when it is dropped.
-/

namespace Embedder

variable {σ : Type} {G : Guest σ}

theorem Session.settleOne_run (busy : Bool) (generation : Nat) (k : Kept) (h : Host σ) :
    (settleOne G busy generation k).run h = .ok ((),
      if k.generation = generation then h.after (G.releaseKept busy k h.world) else h) := by
  unfold settleOne
  split
  next => exact Bridge.act_run _ h
  next => rfl

/-- A ticket that others share is dropped like any other. -/
theorem Registry.letGoOne_run_of_shared {h : Host σ} {t : Ticket} {s : Share}
    (hs : h.shares.lookup t.serial = some s) (howners : 1 < s.owners) :
    (letGoOne G t).run h = (t.drop G true).run h := by
  rw [Ticket.drop_run_of_shared true hs howners]
  unfold letGoOne
  rw [Bridge.run_bind (Ticket.share?_run t h), hs]
  dsimp only
  rw [if_neg (by omega), Ticket.setShare_run]

/-- A stop takes the registry away, lets go of its entries, and reports how many there were. -/
theorem Registry.destroy_eq (h : Host σ) : (destroy G).run h =
    (letGo G h.entries >>= fun _ => reportLetGo h.entries.length).run { h with registry := none } := by
  unfold destroy Host.entries
  rw [Bridge.run_get_bind]
  cases hr : h.registry with
  | none =>
    have hsame : ({ h with registry := none } : Host σ) = h := by rw [← hr]
    rw [hsame]
    rfl
  | some r => rfl

namespace Threads

variable {s s₁ s' : Threads σ} {m : Move σ} {xs ys : List (Move σ)} {j : Nat} {c : Settlement}
variable {thread : ThreadId} {config : Config} {expected : Option Nat} {t : Ticket}

theorem run_cons_of_ok (hm : s.step G m = .ok s₁) (hr : s₁.run G xs = .ok s') :
    s.run G (m :: xs) = .ok s' := by
  show s.step G m >>= _ = _
  rw [hm]
  exact hr

theorem run_append_of_ok (hx : s.run G xs = .ok s₁) (hy : s₁.run G ys = .ok s') :
    s.run G (xs ++ ys) = .ok s' := by
  induction xs generalizing s with
  | nil =>
    cases hx
    exact hy
  | cons m xs ih =>
    change s.step G m >>= (fun s => run G xs s) = .ok s₁ at hx
    cases hm : s.step G m with
    | error e =>
      rw [hm] at hx
      cases hx
    | ok s₂ =>
      rw [hm] at hx
      exact run_cons_of_ok hm (ih hx)

theorem does_of_ok {α : Type} {arrival teardown : Option Nat} {x : Bridge (Watched σ) α}
    {next : α → Threads σ → Threads σ} {a : α} {h : Host (Watched σ)}
    (hx : x.run s.host = .ok (a, h)) : s.does arrival teardown x next =
      .ok (next a { s with host := h, ledger := s.ledger.note arrival teardown s.host h }) := by
  unfold does
  rw [hx]
  rfl

/-! ## Settlements -/

/-- A settlement goes on to its end. -/
theorem settle_run (hc : s.ledger.settlements[j]? = some c) :
    ∃ l, s.run G (List.replicate c.left.length (.settle j)) = .ok { s with
        host := s.host.releasing G.watched c.byStop c.generation (c.left.map Prod.fst)
        ledger := l } ∧
      l.settlements[j]? = some { c with left := [] } := by
  -- on what is left, with the host and the settlement as the moves before have left them
  induction hleft : c.left generalizing s c with
  | nil =>
    refine ⟨s.ledger, rfl, ?_⟩
    rw [hc, ← hleft]
  | cons e rest ih =>
    obtain ⟨k, n⟩ := e
    let h := if k.generation = c.generation
      then s.host.after (G.watched.releaseKept c.byStop k s.host.world) else s.host
    let s₁ : Threads σ := { s with
      host := h
      ledger := (s.ledger.note (some n) s.teardown s.host h).strike j }
    have hone : s.step G (.settle j) = .ok s₁ := by
      simp only [step, hc, hleft]
      exact does_of_ok (Session.settleOne_run c.byStop c.generation k s.host)
    have hnext : s₁.ledger.settlements[j]? = some c.strike := by
      rw [Ledger.getElem?_strike]
      show (s.ledger.settlements[j]?).map _ = _
      rw [hc, Option.map_some, if_pos rfl]
    have hrest : c.strike.left = rest := by
      unfold Settlement.strike
      rw [hleft]
      rfl
    obtain ⟨l, hrun, hl⟩ := ih hnext hrest
    exact ⟨l, run_cons_of_ok hone hrun, hl⟩

/-- What a settlement has taken, without its number. -/
theorem taken_fst (l : Ledger) (byStop : Bool) (h : Host (Watched σ)) :
    ∃ c, (l.take byStop h).settlements[l.settlements.length]? = some c ∧ c.byStop = byStop ∧
      c.generation = h.lifecycle.generation ∧ c.left.map Prod.fst = h.waiting := by
  refine ⟨_, List.getElem?_concat_length, rfl, rfl, ?_⟩
  exact List.zipIdx_map_fst _ _

/-- A session that is entered begins as the program does that enters one, and goes on with its body
at the host that the moves have come to. -/
theorem session_undisturbed (G : Guest σ) (hp : s.holder = none)
    (hopen : Session.Open expected s.host.lifecycle) : ∃ l,
    s.run G (.enter expected ::
        List.replicate s.host.waiting.length (.settle s.ledger.settlements.length)) =
      .ok { s with
        host := s.host.settled G.watched
        sessions := s.sessions ++ [s.ledger.settlements.length]
        ledger := l } ∧
      ∀ {α : Type} (body : Nat → Attempt (Watched σ) Failure α),
        (Session.enterAs G.watched expected body).run.run s.host =
          (body s.host.lifecycle.generation).run.run (s.host.settled G.watched) := by
  obtain ⟨c, hc, hbyStop, hgeneration, hleft⟩ := taken_fst s.ledger false s.host
  let s₁ : Threads σ := { s.take false with
    sessions := s.sessions ++ [s.ledger.settlements.length] }
  have henter : s.step G (.enter expected) = .ok s₁ := by
    simp only [step, hp]
    exact if_pos hopen
  obtain ⟨l, hrun, -⟩ := settle_run (s := s₁) (G := G) hc
  have hlength : c.left.length = s.host.waiting.length := by
    rw [← hleft, List.length_map]
  rw [hlength, hbyStop, hgeneration, hleft] at hrun
  exact ⟨l, run_cons_of_ok henter hrun, fun body => Session.enterAs_run hopen⟩

/-! ## Stops -/

/-- One ticket after the other is let go of. -/
theorem letGo_run {count : Nat} {entries : List (Int × Ticket)}
    (hp : s.holder = some (.tearing count entries)) : ∃ moves h l,
    s.run G moves = .ok { s with host := h, ledger := l, holder := some (.tearing count []) } ∧
      (Registry.letGo G.watched entries).run s.host = .ok ((), h) ∧
      h.lifecycle = s.host.lifecycle := by
  induction entries generalizing s with
  | nil =>
    refine ⟨[], s.host, s.ledger, ?_, rfl, rfl⟩
    rw [← hp]
    rfl
  | cons e rest ih =>
    obtain ⟨id, t⟩ := e
    obtain ⟨moves, h, l, hrun, hone, hlife⟩ : ∃ moves h l,
        s.run G moves = .ok { s with
          host := h, ledger := l, holder := some (.tearing count rest) } ∧
        (Registry.letGoOne G.watched t).run s.host = .ok ((), h) ∧
        h.lifecycle = s.host.lifecycle := by
      by_cases hshared :
          ((s.host.shares.lookup t.serial).any fun share => 1 < share.owners) = true
      · -- two moves: the ticket cannot be unwrapped, and is dropped
        obtain ⟨share, hs, howners⟩ : ∃ share, s.host.shares.lookup t.serial = some share ∧
            1 < share.owners := by
          cases hs : s.host.shares.lookup t.serial with
          | none =>
            rw [hs] at hshared
            cases hshared
          | some share =>
            rw [hs] at hshared
            exact ⟨share, rfl, of_decide_eq_true hshared⟩
        obtain ⟨h, hdrop, hlife⟩ : ∃ h, (t.drop G.watched true).run s.host = .ok ((), h) ∧
            h.lifecycle = s.host.lifecycle :=
          ⟨_, Ticket.drop_run_of_shared true hs howners, rfl⟩
        let s₁ : Threads σ := { s with holder := some (.parting count t rest) }
        have hfirst : s.step G (.letGo 0) = .ok s₁ := by
          simp only [step, hp, List.getElem?_cons_zero, hshared, if_true, List.eraseIdx_cons_zero]
          rfl
        have hsecond : s₁.step G .part = .ok { s₁ with
            host := h
            ledger := s.ledger.note none s₁.teardown s.host h
            holder := some (.tearing count rest) } := by
          simp only [step, s₁]
          exact does_of_ok hdrop
        exact ⟨[.letGo 0, .part], _, _, run_cons_of_ok hfirst (run_cons_of_ok hsecond rfl),
          (Registry.letGoOne_run_of_shared hs howners).trans hdrop, hlife⟩
      · obtain ⟨h, hone, hlife⟩ : ∃ h, (Registry.letGoOne G.watched t).run s.host = .ok ((), h) ∧
            h.lifecycle = s.host.lifecycle :=
          ⟨_, Registry.letGoOne_run t s.host, rfl⟩
        have honly : s.step G (.letGo 0) = .ok { s with
            host := h
            ledger := s.ledger.note none s.teardown s.host h
            holder := some (.tearing count rest) } := by
          simp only [step, hp, List.getElem?_cons_zero, if_neg hshared, List.eraseIdx_cons_zero]
          exact does_of_ok hone
        exact ⟨[.letGo 0], _, _, run_cons_of_ok honly rfl, hone, hlife⟩
    obtain ⟨moves', h', l', hrun', hmany, hlife'⟩ :=
      ih (s := { s with host := h, ledger := l, holder := some (.tearing count rest) }) rfl
    refine ⟨moves ++ moves', h', l', run_append_of_ok hrun hrun', ?_, hlife'.trans hlife⟩
    unfold Registry.letGo
    rw [Bridge.run_bind hone]
    exact hmany

/-- Who comes when the lifecycle is free gets it. -/
theorem acquire_run (hp : s.holder = none) (hsessions : s.sessions = []) :
    s.run G [.ask, .acquire] = .ok { s with holder := some .begun } := by
  let s₁ : Threads σ := { s with asking := s.asking + 1 }
  have hacquire : s₁.step G .acquire = .ok { s with holder := some .begun } := by
    simp only [step, s₁, hp, hsessions, Nat.succ_pos, if_true, Nat.add_sub_cancel]
  exact run_cons_of_ok rfl (run_cons_of_ok hacquire rfl)

/-- A stop comes, gets the lifecycle and takes the registry away. -/
theorem unfile_run (hp : s.holder = none) (hsessions : s.sessions = [])
    (hrunning : s.host.lifecycle.stage = .running) :
    s.run G [.ask, .acquire, .unfile] = .ok { s with
      host := { s.host with registry := none }
      holder := some (.tearing s.host.entries.length s.host.entries) } := by
  let s₁ : Threads σ := { s with holder := some .begun }
  have hunfile : s₁.step G .unfile = .ok { s with
      host := { s.host with registry := none }
      holder := some (.tearing s.host.entries.length s.host.entries) } := if_pos hrunning
  exact run_append_of_ok (acquire_run hp hsessions) (run_cons_of_ok hunfile rfl)

/-- It reports how many entries it let go of, and empties the queue. -/
theorem collect_run {count : Nat} (hp : s.holder = some (.tearing count [])) :
    ∃ moves h l c, s.run G moves = .ok { s with
        host := h, ledger := l, holder := some (.settling s.ledger.settlements.length) } ∧
      l.settlements[s.ledger.settlements.length]? = some c ∧ c.left = [] ∧
      (Registry.reportLetGo count >>= fun _ =>
        Session.settleWaiting G.watched true s.host.lifecycle.generation).run s.host = .ok ((), h) ∧
      h.lifecycle = s.host.lifecycle := by
  obtain ⟨h, hreport, hlife⟩ : ∃ h, (Registry.reportLetGo count).run s.host = .ok ((), h) ∧
      h.lifecycle = s.host.lifecycle := by
    unfold Registry.reportLetGo
    split
    next => exact ⟨_, rfl, rfl⟩
    next => exact ⟨_, rfl, rfl⟩
  let s₁ : Threads σ := { s with host := h, ledger := s.ledger.note none none s.host h }
  let s₂ : Threads σ := { s₁.take true with
    holder := some (.settling s.ledger.settlements.length) }
  have hcollect : s.step G .collect = .ok s₂ := by
    simp only [step, hp]
    exact does_of_ok hreport
  obtain ⟨c, hc, hbyStop, hgeneration, hleft⟩ := taken_fst s₁.ledger true h
  obtain ⟨l, hsettle, hl⟩ := settle_run (s := s₂) (G := G) hc
  rw [hbyStop, hgeneration, hleft, hlife] at hsettle
  refine ⟨_, _, l, _, run_cons_of_ok hcollect hsettle, hl, rfl, ?_, ?_⟩
  · rw [Bridge.run_bind hreport]
    exact Session.settle_run true s.host.lifecycle.generation h.waiting { h with waiting := [] }
  · rw [Host.releasing_eq]
    exact hlife

/-- It takes the interpreter down and goes. -/
theorem finalize_run (thread : ThreadId) (hp : s.holder = some (.settling j))
    (hsettled : s.Settled j) : ∃ h l,
    s.run G [.finalize thread, .finish] = .ok { s with host := h, ledger := l, holder := none } ∧
      (Interpreter.finalize G.watched s.host.lifecycle thread).run s.host = .ok ((), h) := by
  obtain ⟨h, hfinalize, -⟩ := Interpreter.finalize_run (G := G.watched) s.host.lifecycle thread s.host
  let s₁ : Threads σ := { s with
    host := h, ledger := s.ledger.note none none s.host h, holder := some .going }
  have hdown : s.step G (.finalize thread) = .ok s₁ := by
    simp only [step, hp, if_pos hsettled]
    exact does_of_ok hfinalize
  exact ⟨h, s₁.ledger, run_cons_of_ok hdown rfl, hfinalize⟩

/-- A stop that nobody comes between ends as the program does that stops the interpreter, and the
lifecycle is free again. -/
theorem stop_undisturbed (G : Guest σ) (thread : ThreadId) (hp : s.holder = none)
    (hsessions : s.sessions = []) (hrunning : s.host.lifecycle.stage = .running) :
    ∃ moves h l, s.run G moves = .ok { s with host := h, ledger := l } ∧
      (Interpreter.stop G.watched thread).run.run s.host = .ok (.ok (), h) := by
  let s₀ : Threads σ := { s with
    host := { s.host with registry := none }
    holder := some (.tearing s.host.entries.length s.host.entries) }
  have hbegin : s.run G [.ask, .acquire, .unfile] = .ok s₀ := unfile_run hp hsessions hrunning
  obtain ⟨tear, h₁, l₁, htear, hletGo, hlife₁⟩ := letGo_run (G := G) (s := s₀) rfl
  let s₁ : Threads σ := { s₀ with
    host := h₁, ledger := l₁, holder := some (.tearing s.host.entries.length []) }
  obtain ⟨collect, h₂, l₂, c, hcollect, hc, hleft, hsettle, hlife₂⟩ :=
    collect_run (G := G) (s := s₁) rfl
  let s₂ : Threads σ := { s₁ with
    host := h₂, ledger := l₂, holder := some (.settling s₁.ledger.settlements.length) }
  have hsettled : s₂.Settled s₁.ledger.settlements.length := by
    intro d hd
    cases hc.symm.trans hd
    exact hleft
  obtain ⟨h, l, hdown, hfinalize⟩ := finalize_run (G := G) (s := s₂) thread rfl hsettled
  have hlife : h₂.lifecycle = s.host.lifecycle := hlife₂.trans hlife₁
  refine ⟨[.ask, .acquire, .unfile] ++ (tear ++ (collect ++ [.finalize thread, .finish])), h, l,
    ?_, ?_⟩
  · have hall := run_append_of_ok hbegin (run_append_of_ok htear (run_append_of_ok hcollect hdown))
    rw [hall]
    exact congrArg (fun p => Except.ok { s with host := h, ledger := l, holder := p }) hp.symm
  · have hgo : (Interpreter.letGoOfAll G.watched s.host.lifecycle.generation).run s.host =
        .ok ((), h₂) := by
      have hgeneration : h₁.lifecycle.generation = s.host.lifecycle.generation :=
        congrArg Lifecycle.generation hlife₁
      obtain ⟨u, h', hreport, hwaiting⟩ := Bridge.bind_ok hsettle
      have hdestroy : (Registry.destroy G.watched).run s.host = .ok (u, h') := by
        rw [Registry.destroy_eq, Bridge.run_bind hletGo]
        exact hreport
      unfold Interpreter.letGoOfAll
      rw [Bridge.run_bind hdestroy, ← hgeneration]
      exact hwaiting
    unfold Interpreter.stop
    rw [Attempt.run_get_bind]
    dsimp only
    rw [if_neg fun hne => hne hrunning, Attempt.run_lift_bind hgo, ← hlife]
    exact Attempt.run_lift hfinalize

/-! ## Starts and drops -/

/-- A start that nobody comes between comes up as the program does that brings the interpreter up.
-/
theorem launch_undisturbed {r : Except Failure Unit} {h : Host (Watched σ)} (hp : s.holder = none)
    (hsessions : s.sessions = [])
    (hr : (Interpreter.launch G.watched thread config).run.run s.host = .ok (r, h)) :
    ∃ l, s.run G [.ask, .acquire, .launch thread config, .finish] =
      .ok { s with host := h, ledger := l } := by
  let s₁ : Threads σ := { s with holder := some .begun }
  let s₂ : Threads σ := { s with
    host := h, ledger := s.ledger.note none none s.host h, holder := some .going }
  have hlaunch : s₁.step G (.launch thread config) = .ok s₂ := by
    simp only [step, s₁]
    exact does_of_ok hr
  have hfinish : s₂.step G .finish = .ok { s with host := h, ledger := s₂.ledger } := by
    rw [show s = { s with holder := none } by rw [← hp]]
    rfl
  refine ⟨s₂.ledger, run_append_of_ok (acquire_run hp hsessions) ?_⟩
  exact run_cons_of_ok hlaunch (run_cons_of_ok hfinish rfl)

/-- A binding that has lost its last owner ends as when it is dropped. -/
theorem look_undisturbed {u : Unit} {h : Host (Watched σ)} {e : Ending}
    (hr : (e.binding.drop G.watched s.busy).run s.host = .ok (u, h)) : ∃ moves l,
    { s with ending := s.ending ++ [e] }.run G moves = .ok { s with host := h, ledger := l } := by
  let s₀ : Threads σ := { s with ending := s.ending ++ [e] }
  have hfound : s₀.ending[s.ending.length]? = some e := List.getElem?_concat_length
  have hgone : s₀.ending.eraseIdx s.ending.length = s.ending := by
    simp [s₀, List.eraseIdx_append_of_length_le]
  cases hbusy : s.busy with
  | true =>
    rw [hbusy] at hr
    let s₁ : Threads σ := { s with deferring := s.deferring ++ [e] }
    have hlook : s₀.step G (.look s.ending.length) = .ok s₁ := by
      simp only [step, hfound, hgone]
      exact if_pos hbusy
    have hfound₁ : s₁.deferring[s.deferring.length]? = some e := List.getElem?_concat_length
    have hgone₁ : s₁.deferring.eraseIdx s.deferring.length = s.deferring := by
      simp [s₁, List.eraseIdx_append_of_length_le]
    have hpush : s₁.step G (.push s.deferring.length) = .ok { s with
        host := h, ledger := s.ledger.note none e.teardown s.host h } := by
      simp only [step, hfound₁, hgone₁]
      exact does_of_ok hr
    exact ⟨[.look s.ending.length, .push s.deferring.length], _,
      run_cons_of_ok hlook (run_cons_of_ok hpush rfl)⟩
  | false =>
    rw [hbusy] at hr
    have hlook : s₀.step G (.look s.ending.length) = .ok { s with
        host := h, ledger := s.ledger.note none none s.host h } := by
      simp only [step, hfound, hgone]
      rw [if_neg (by rw [show s₀.busy = s.busy from rfl, hbusy]; exact Bool.false_ne_true)]
      exact does_of_ok hr
    exact ⟨[.look s.ending.length], _, run_cons_of_ok hlook rfl⟩

/-- A ticket that is given up ends as when it is dropped. -/
theorem loseTicket_undisturbed {u : Unit} {h : Host (Watched σ)}
    (hr : (t.drop G.watched s.busy).run s.host = .ok (u, h)) : ∃ moves l,
    s.run G (.loseTicket t :: moves) = .ok { s with host := h, ledger := l } := by
  rw [Ticket.drop_eq] at hr
  obtain ⟨last, h₁, hgive, hrest⟩ := Bridge.bind_ok hr
  let s₁ : Threads σ := { s with
    host := h₁, ledger := s.ledger.note none s.teardown s.host h₁ }
  have hlose : s.step G (.loseTicket t) = .ok { s₁ with
      ending := s.ending ++ (last.map (⟨·, s.teardown⟩)).toList } := by
    simp only [step]
    exact does_of_ok hgive
  cases last with
  | none =>
    obtain ⟨-, rfl⟩ := Bridge.pure_ok hrest
    refine ⟨[], s₁.ledger, run_cons_of_ok hlose ?_⟩
    simp [run, s₁]
  | some b =>
    obtain ⟨moves, l, hrun⟩ := look_undisturbed (s := s₁) (e := ⟨b, s.teardown⟩) hrest
    exact ⟨moves, l, run_cons_of_ok hlose hrun⟩

end Threads

end Embedder
