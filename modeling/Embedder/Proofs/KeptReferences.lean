import Embedder.Proofs.Custody
import Embedder.Proofs.Willing

/-!
# Kept references, over whole runs

A reference that a binding took should be released only in the generation it was taken in, and once.
Once it is (`run_accounted`): a reference is released no more often than it was taken, whatever the
order of binds, inserts, drops, stops and restarts. But not always in its generation. A stop
releases what the registry has without a look at its generation, so a host that keeps a binding over
a restart and then inserts it has it released by the next stop in an interpreter that never knew it
(`stale_release`). This is the only way it happens: every release is right exactly if no stop finds
such a binding (`release_laws`).
-/

namespace Embedder

open Scenario

variable {σ : Type} {G : Guest σ} {h h' : Host (Watched σ)} {c c' : Caller} {events : List Event}

/-- The reference of a binding that an event tells of. -/
def Event.bound? : Event → Option Kept
  | .bound k => some k
  | _ => none

/-- The references that bindings took. -/
def boundIn (history : List Event) : List Kept := history.filterMap Event.bound?

theorem boundIn_append (xs ys : List Event) : boundIn (xs ++ ys) = boundIn xs ++ boundIn ys :=
  List.filterMap_append

/-- The references that the bindings in hand hold. -/
def Caller.kept (c : Caller) : List Kept := c.bindings.map Binding.kept

/-! ## Operations -/

/-- An operation took references out of the hand of the host, and did right by them. -/
structure Operation.Passes (put : List Kept) (c : Caller) (h : Host (Watched σ))
    (events : List Event) (c' : Caller) (h' : Host (Watched σ)) : Prop where
  passes : ∃ ks, Entrusted ks put h h' ∧
    ∀ k, c'.kept.count k + ks.count k ≤ c.kept.count k + (boundIn events).count k

namespace Operation

/-- Nothing leaves the hand of the host. -/
theorem Passes.of_entrusted (he : Entrusted [] [] h h') (hkept : c'.kept = c.kept)
    (hevents : boundIn events = []) : Passes [] c h events c' h' := by
  refine ⟨[], he, fun k => Nat.le_of_eq ?_⟩
  rw [hkept, hevents]

theorem noted_passes {ε α : Type} {x : Attempt (Watched σ) ε α}
    (hx : x.Obeys Watchful (fun _ => 0) 0)
    (hr : (x.run >>= fun _ => pure (c, []) : Bridge (Watched σ) (Caller × List Event)).run h =
      .ok ((c', events), h')) : Passes [] c h events c' h' := by
  obtain ⟨r, h₁, hrun, hp⟩ := Bridge.bind_ok hr
  obtain ⟨hc, rfl⟩ := Bridge.pure_ok hp
  cases hc
  exact Passes.of_entrusted (Entrusted.of_watchful (hx h r h' hrun)) rfl rfl

theorem bind_passes {moduleName function : String}
    (hr : (perform G.watched (.bind moduleName function) c).run h = .ok ((c', events), h')) :
    Passes [] c h events c' h' := by
  obtain ⟨r, h₁, hbind, hrest⟩ := Bridge.bind_ok hr
  have hwatchful := Binding.bind_sessional (watchful_sessional G) moduleName function h r h₁ hbind
  cases r with
  | ok b =>
    obtain ⟨hc, rfl⟩ := Bridge.pure_ok hrest
    cases hc
    refine ⟨[], Entrusted.of_watchful hwatchful, fun k => Nat.le_of_eq ?_⟩
    show ((c.bindings ++ [b]).map Binding.kept).count k + 0 = _ + [b.kept].count k
    rw [List.map_append, List.count_append]
    rfl
  | error f =>
    obtain ⟨hc, rfl⟩ := Bridge.pure_ok hrest
    cases hc
    exact Passes.of_entrusted (Entrusted.of_watchful hwatchful) rfl rfl

/-- A binding that leaves the hand of the host takes its reference along. -/
theorem count_kept_eraseIdx {i : Nat} {b : Binding} (hb : c.bindings[i]? = some b) (k : Kept) :
    (Caller.kept ⟨c.bindings.eraseIdx i, c.tickets⟩).count k + [b.kept].count k =
      c.kept.count k := by
  obtain ⟨hi, rfl⟩ := List.getElem?_eq_some_iff.mp hb
  have hperm := (List.getElem_cons_eraseIdx_perm hi).map Binding.kept
  have hcount := hperm.count_eq k
  rw [List.map_cons, ← List.singleton_append, List.count_append] at hcount
  rw [Nat.add_comm]
  exact hcount

/-- Nothing happens to a place in hand that is empty. -/
theorem nothing_passes
    (hr : (pure (c, []) : Bridge (Watched σ) (Caller × List Event)).run h = .ok ((c', events), h')) :
    Passes [] c h events c' h' := by
  obtain ⟨hc, rfl⟩ := Bridge.pure_ok hr
  cases hc
  exact Passes.of_entrusted (Entrusted.refl _) rfl rfl

theorem dropBinding_passes {busy : Bool} {i : Nat}
    (hr : (perform G.watched (.dropBinding busy i) c).run h = .ok ((c', events), h')) :
    Passes [] c h events c' h' := by
  simp only [perform] at hr
  split at hr
  next => exact nothing_passes hr
  next b hb =>
    obtain ⟨u, h₁, hdrop, hp⟩ := Bridge.bind_ok hr
    obtain ⟨hc, rfl⟩ := Bridge.pure_ok hp
    cases hc
    exact ⟨[b.kept], Binding.drop_entrusted hdrop, fun k => Nat.le_of_eq (count_kept_eraseIdx hb k)⟩

/-- The references that an operation puts under the care of the registry. -/
def puts (c : Caller) : Operation → List Kept
  | .insert i => (c.bindings[i]?.map Binding.kept).toList
  | _ => []

theorem insert_passes {i : Nat}
    (hr : (perform G.watched (.insert i) c).run h = .ok ((c', events), h')) :
    Passes (puts c (.insert i)) c h events c' h' := by
  simp only [perform] at hr
  show Passes (c.bindings[i]?.map Binding.kept).toList c h events c' h'
  cases hb : c.bindings[i]? with
  | none =>
    rw [hb] at hr
    exact nothing_passes hr
  | some b =>
    rw [hb] at hr
    obtain ⟨x, h₁, hinsert, hrest⟩ := Bridge.bind_ok hr
    have inserted := Registry.insert_entrusted hinsert
    have hcount := count_kept_eraseIdx hb
    cases x with
    | ok id =>
      obtain ⟨g, h₂, hg, hp⟩ := Bridge.bind_ok hrest
      obtain ⟨rfl, rfl⟩ := generation_ok hg
      obtain ⟨hc, rfl⟩ := Bridge.pure_ok hp
      cases hc
      exact ⟨[b.kept], inserted, fun k => Nat.le_of_eq (hcount k)⟩
    | error f =>
      obtain ⟨hc, rfl⟩ := Bridge.pure_ok hrest
      cases hc
      exact ⟨[b.kept], inserted, fun k => Nat.le_of_eq (hcount k)⟩

theorem remove_passes {id : Int}
    (hr : (perform G.watched (.remove id) c).run h = .ok ((c', events), h')) :
    Passes [] c h events c' h' := by
  simp only [perform] at hr
  obtain ⟨x, h₁, hremove, hrest⟩ := Bridge.bind_ok hr
  have removed := Registry.remove_entrusted hremove
  cases x with
  | ok t =>
    obtain ⟨g, h₂, hg, hp⟩ := Bridge.bind_ok hrest
    obtain ⟨rfl, rfl⟩ := generation_ok hg
    obtain ⟨hc, rfl⟩ := Bridge.pure_ok hp
    cases hc
    exact Passes.of_entrusted removed rfl rfl
  | error f =>
    obtain ⟨hc, rfl⟩ := Bridge.pure_ok hrest
    cases hc
    exact Passes.of_entrusted removed rfl rfl

theorem boundIn_startEvents (launched : Bool) : boundIn (startEvents launched) = [] := by
  cases launched <;> rfl

/-- A start, or the part of it that brings the interpreter up. -/
theorem start_passes {config : Config} {x : Attempt (Watched σ) Failure Unit}
    (hx : ∀ r h₂, x.run.run h = .ok (r, h₂) → Entrusted [] [] h h₂)
    (hr : (get >>= fun s => x.run >>= fun _ =>
      pure (c, startEvents (Interpreter.launches G.watched config s)) :
        Bridge (Watched σ) (Caller × List Event)).run h = .ok ((c', events), h')) :
    Passes [] c h events c' h' := by
  obtain ⟨s, h₁, hget, hrest⟩ := Bridge.bind_ok hr
  obtain ⟨r, h₂, hstart, hp⟩ := Bridge.bind_ok hrest
  obtain ⟨hc, rfl⟩ := Bridge.pure_ok hp
  cases hget
  cases hc
  exact Passes.of_entrusted (hx r _ hstart) rfl (boundIn_startEvents _)

theorem installLog_passes {level : Log.Level}
    (hr : (perform G.watched (.installLog level) c).run h = .ok ((c', events), h')) :
    Passes [] c h events c' h' := by
  obtain ⟨b, h₁, hinstall, hp⟩ := Bridge.bind_ok hr
  obtain ⟨hc, rfl⟩ := Bridge.pure_ok hp
  cases hc
  unfold Interpreter.installLog at hinstall
  rw [Bridge.run_get_bind] at hinstall
  refine Passes.of_entrusted (Entrusted.of_watchful (n := 0) ?_) rfl rfl
  cases hl : h.logLevel with
  | none =>
    rw [hl] at hinstall
    cases hinstall
    exact Watchful.of_eq rfl rfl rfl
  | some level =>
    rw [hl] at hinstall
    cases hinstall
    exact Watchful.of_eq rfl rfl rfl

theorem find_passes {id : Int}
    (hr : (perform G.watched (.find id) c).run h = .ok ((c', events), h')) :
    Passes [] c h events c' h' := by
  obtain ⟨x, h₁, hfind, hrest⟩ := Bridge.bind_ok hr
  have found := Registry.find_entrusted hfind
  cases x with
  | ok t =>
    obtain ⟨hc, rfl⟩ := Bridge.pure_ok hrest
    cases hc
    exact Passes.of_entrusted found rfl rfl
  | error f =>
    obtain ⟨hc, rfl⟩ := Bridge.pure_ok hrest
    cases hc
    exact Passes.of_entrusted found rfl rfl

theorem cloneTicket_passes {i : Nat}
    (hr : (perform G.watched (.cloneTicket i) c).run h = .ok ((c', events), h')) :
    Passes [] c h events c' h' := by
  simp only [perform] at hr
  split at hr
  next => exact nothing_passes hr
  next t _ =>
    obtain ⟨t', h₁, hclone, hp⟩ := Bridge.bind_ok hr
    obtain ⟨hc, rfl⟩ := Bridge.pure_ok hp
    cases hc
    exact Passes.of_entrusted (Ticket.clone_entrusted hclone) rfl rfl

theorem dropTicket_passes {busy : Bool} {i : Nat}
    (hr : (perform G.watched (.dropTicket busy i) c).run h = .ok ((c', events), h')) :
    Passes [] c h events c' h' := by
  simp only [perform] at hr
  split at hr
  next => exact nothing_passes hr
  next t _ =>
    obtain ⟨u, h₁, hdrop, hp⟩ := Bridge.bind_ok hr
    obtain ⟨hc, rfl⟩ := Bridge.pure_ok hp
    cases hc
    exact Passes.of_entrusted (Ticket.drop_entrusted hdrop) rfl rfl

/-- Every operation but a stop does right by the references it takes out of the hand of the host. -/
theorem perform_passes {op : Operation} (hop : ∀ thread, op ≠ .stop thread)
    (hr : (op.perform G.watched c).run h = .ok ((c', events), h')) :
    Passes (op.puts c) c h events c' h' := by
  have hs := watchful_sessional G
  cases op with
  | launch thread config => exact start_passes (fun _ _ => Interpreter.launch_entrusted) hr
  | start thread config => exact start_passes (fun _ _ => Interpreter.start_entrusted) hr
  | stop thread => exact absurd rfl (hop thread)
  | appendPath path => exact noted_passes (Interpreter.appendPath_sessional hs path) hr
  | setPrinting enabled =>
    cases hr
    exact Passes.of_entrusted (Entrusted.of_watchful (n := 0) (Watchful.of_eq rfl rfl rfl)) rfl rfl
  | installLog level => exact installLog_passes hr
  | callFunction moduleName function args result =>
    exact noted_passes (callFunction_sessional hs (encoder_lawful args.kind)
      (decoder_lawful result) moduleName function args.values) hr
  | bind moduleName function => exact bind_passes hr
  | callBinding i args result =>
    simp only [perform] at hr
    split at hr
    next => exact nothing_passes hr
    next b _ =>
      exact noted_passes (Binding.callAs_sessional hs (encoder_lawful args.kind)
        (decoder_lawful result) b args.values) hr
  | dropBinding busy i => exact dropBinding_passes hr
  | insert i => exact insert_passes hr
  | find id => exact find_passes hr
  | remove id => exact remove_passes hr
  | size => exact noted_passes (Registry.size_obeys hs.toComposes) hr
  | callTicket i args result =>
    simp only [perform] at hr
    split at hr
    next => exact nothing_passes hr
    next t _ =>
      exact noted_passes (Ticket.call_sessional hs (encoder_lawful args.kind)
        (decoder_lawful result) t args.values) hr
  | cloneTicket i => exact cloneTicket_passes hr
  | dropTicket busy i => exact dropTicket_passes hr
  | session tasks => exact noted_passes (Task.session_obeys hs tasks) hr

end Operation

/-! ## Runs -/

namespace Process

/-- A condition holds before each operation of a run. -/
def Throughout {τ : Type} (G : Guest τ) (P : Operation → Process τ → Prop) (ops : List Operation)
    (p : Process τ) : Prop :=
  ∀ before op after q, ops = before ++ op :: after → p.run G (before.map .perform) = .ok q → P op q

/-- No stop finds anything in the registry that it would release in another generation. -/
def StopsClean (op : Operation) (p : Process σ) : Prop :=
  ∀ thread, op = .stop thread → p.host.StopsClean

/-- What is inserted is of the running generation. -/
def InsertsCurrent (op : Operation) (p : Process σ) : Prop :=
  ∀ k ∈ op.puts p.caller, k.generation = p.host.lifecycle.generation

section
variable {τ : Type} {F : Guest τ} {P : Operation → Process τ → Prop} {q q₁ : Process τ}
variable {op : Operation} {ops : List Operation}

theorem throughout_nil : Throughout F P [] q := by
  intro before op after q' hops
  cases before <;> cases hops

theorem throughout_cons (hs : q.step F (.perform op) = .ok q₁) :
    Throughout F P (op :: ops) q ↔ P op q ∧ Throughout F P ops q₁ := by
  have hrun : ∀ before : List Operation, q.run F ((op :: before).map .perform) =
      q₁.run F (before.map .perform) := by
    intro before
    show q.step F (.perform op) >>= _ = _
    rw [hs]
    rfl
  constructor
  · intro hall
    refine ⟨hall [] op ops q rfl rfl, fun before op' after q' hops hr => ?_⟩
    refine hall (op :: before) op' after q' (by rw [hops]; rfl) ?_
    rw [hrun]
    exact hr
  · rintro ⟨hfirst, hall⟩ before op' after q' hops hr
    -- either the operation is the first one, or it comes after the first step
    cases before with
    | nil =>
      cases hops
      cases hr
      exact hfirst
    | cons b before =>
      cases hops
      rw [hrun] at hr
      exact hall before op' after q' rfl hr

end

variable {p p' : Process (Watched σ)} {k : Kept} {op : Operation} {ops : List Operation}

/-- How much more often a reference was released or is held than it was taken. -/
def owed (k : Kept) (p : Process (Watched σ)) : Int :=
  p.host.owed k + p.caller.kept.count k - (boundIn p.history).count k

/-- The diary goes with the books, and no reference was released or is held that was not taken. -/
structure Accounted (p : Process (Watched σ)) : Prop where
  truthful : p.host.Truthful
  tidy : p.host.shelf.Tidy
  owed : ∀ k, p.owed k ≤ 0

theorem fresh_accounted (world : σ) : (fresh (Watched.begin world)).Accounted where
  truthful := rfl
  tidy := Shelf.tidy_empty _
  owed _ := Int.le_refl _

theorem perform_stop_ok {thread : ThreadId} {c c' : Caller} {h h' : Host (Watched σ)}
    {events : List Event}
    (hop : (Operation.perform G.watched (.stop thread) c).run h = .ok ((c', events), h')) :
    c' = c ∧ events = [] ∧
      ∃ r, (Interpreter.stop G.watched thread).run.run h = .ok (r, h') := by
  obtain ⟨r, h₁, hstop, hp⟩ := Bridge.bind_ok hop
  obtain ⟨hc, rfl⟩ := Bridge.pure_ok hp
  cases hc
  exact ⟨rfl, rfl, r, hstop⟩

/-- A step keeps the accounts. -/
theorem step_accounted (hp : p.Accounted) (hs : p.step G.watched (.perform op) = .ok p') :
    p'.Accounted := by
  obtain ⟨events, hop, hhistory⟩ := step_perform_ok hs
  -- a stop does not pass references on one by one, it empties the registry and the queue
  by_cases hstop : ∃ thread, op = .stop thread
  · obtain ⟨thread, rfl⟩ := hstop
    obtain ⟨hcaller, rfl, r, hrun⟩ := perform_stop_ok hop
    obtain ⟨htruthful, htidy, -, howed⟩ := Interpreter.stop_keeps hp.truthful hp.tidy hrun
    refine ⟨htruthful, htidy, fun k => Int.le_trans ?_ (hp.owed k)⟩
    have hless := howed k
    unfold owed
    rw [hcaller, hhistory, List.append_nil]
    omega
  · obtain ⟨ks, entrusted, hcount⟩ := Operation.perform_passes (fun thread heq => hstop ⟨thread, heq⟩) hop
    refine ⟨entrusted.truthful hp.truthful, entrusted.tidy hp.tidy,
      fun k => Int.le_trans ?_ (hp.owed k)⟩
    have hless := entrusted.owed hp.tidy k
    have hmoved := hcount k
    unfold owed
    rw [hhistory, boundIn_append, List.count_append]
    omega

/-- All that a step releases is right, unless it is a stop that finds something of another
generation in the registry. -/
theorem step_right_iff (hp : p.Accounted) (hs : p.step G.watched (.perform op) = .ok p') :
    ∃ new, p'.host.world.diary = p.host.world.diary ++ new ∧
      ((∀ r ∈ new, r.Right) ↔ StopsClean op p) := by
  obtain ⟨events, hop, -⟩ := step_perform_ok hs
  by_cases hstop : ∃ thread, op = .stop thread
  · obtain ⟨thread, rfl⟩ := hstop
    obtain ⟨-, -, r, hrun⟩ := perform_stop_ok hop
    obtain ⟨new, hnew, hiff⟩ := Interpreter.stop_right_iff hp.truthful hp.tidy hrun
    refine ⟨new, hnew, hiff.trans ⟨fun hclean _ _ => hclean, fun hclean => hclean thread rfl⟩⟩
  · obtain ⟨ks, entrusted, -⟩ := Operation.perform_passes (fun thread heq => hstop ⟨thread, heq⟩) hop
    obtain ⟨new, hnew, hright⟩ := entrusted.wrote hp.truthful
    exact ⟨new, hnew, fun _ thread heq => absurd ⟨thread, heq⟩ hstop, fun _ => hright⟩

/-- What the registry has stays of the running generation as long as only that is inserted. -/
theorem step_current (hp : p.Accounted) (hc : p.host.shelf.Current) (hinsert : InsertsCurrent op p)
    (hs : p.step G.watched (.perform op) = .ok p') : p'.host.shelf.Current := by
  obtain ⟨events, hop, -⟩ := step_perform_ok hs
  by_cases hstop : ∃ thread, op = .stop thread
  · obtain ⟨thread, rfl⟩ := hstop
    obtain ⟨-, -, r, hrun⟩ := perform_stop_ok hop
    obtain ⟨-, -, hcurrent, -⟩ := Interpreter.stop_keeps hp.truthful hp.tidy hrun
    exact hcurrent hc
  · obtain ⟨ks, entrusted, -⟩ := Operation.perform_passes (fun thread heq => hstop ⟨thread, heq⟩) hop
    exact entrusted.current hinsert hp.tidy hc

theorem run_accounted (hp : p.Accounted) (hr : p.run G.watched (ops.map .perform) = .ok p') :
    p'.Accounted := by
  induction ops generalizing p with
  | nil =>
    cases hr
    exact hp
  | cons op ops ih =>
    obtain ⟨p₁, hs, hrest⟩ := run_cons_ok hr
    exact ih (step_accounted hp hs) hrest

theorem run_right_iff (hp : p.Accounted) (hr : p.run G.watched (ops.map .perform) = .ok p') :
    ∃ new, p'.host.world.diary = p.host.world.diary ++ new ∧
      ((∀ r ∈ new, r.Right) ↔ Throughout G.watched StopsClean ops p) := by
  induction ops generalizing p with
  | nil =>
    cases hr
    exact ⟨[], (List.append_nil _).symm, fun _ => throughout_nil, fun _ _ hmem => nomatch hmem⟩
  | cons op ops ih =>
    obtain ⟨p₁, hs, hrest⟩ := run_cons_ok hr
    obtain ⟨xs, hxs, hfirst⟩ := step_right_iff hp hs
    obtain ⟨ys, hys, hthen⟩ := ih (step_accounted hp hs) hrest
    refine ⟨xs ++ ys, ?_, ?_⟩
    · rw [hys, hxs, List.append_assoc]
    · rw [throughout_cons hs, ← hfirst, ← hthen]
      exact List.forall_mem_append

theorem stopsClean_of_insertsCurrent (hp : p.Accounted) (hc : p.host.shelf.Current)
    (hr : p.run G.watched (ops.map .perform) = .ok p')
    (hinserts : Throughout G.watched InsertsCurrent ops p) :
    Throughout G.watched StopsClean ops p := by
  induction ops generalizing p with
  | nil => exact throughout_nil
  | cons op ops ih =>
    obtain ⟨p₁, hs, hrest⟩ := run_cons_ok hr
    obtain ⟨hfirst, hthen⟩ := (throughout_cons hs).mp hinserts
    refine (throughout_cons hs).mpr ⟨fun _ _ => Host.stopsClean_of_current hc, ?_⟩
    exact ih (step_accounted hp hs) (step_current hp hc hfirst hs) hrest hthen

/-- **Who releases a kept reference.** Over every run, each release is right exactly if no stop
finds something of another generation in the registry that nobody else owns; a host that inserts
bindings only in the generation they were made in never sees another release. And no reference is
released more often than bindings took it, or Python code put it into the queue. -/
theorem release_laws (G : Guest σ) (world : σ) (ops : List Operation) :
    Ends ((fresh (Watched.begin world)).run G.watched (ops.map .perform)) fun p =>
      ((∀ r ∈ p.host.world.diary, r.Right) ↔
        Throughout G.watched StopsClean ops (fresh (Watched.begin world))) ∧
      (Throughout G.watched InsertsCurrent ops (fresh (Watched.begin world)) →
        ∀ r ∈ p.host.world.diary, r.Right) ∧
      ∀ k, p.host.released k ≤ (boundIn p.history).count k + p.host.world.announced.count k := by
  intro p hr
  have hfresh : (fresh (Watched.begin world)).Accounted := fresh_accounted world
  obtain ⟨new, hnew, hiff⟩ := run_right_iff hfresh hr
  have hdiary : p.host.world.diary = new := hnew
  rw [← hdiary] at hiff
  refine ⟨hiff, fun hinserts => ?_, fun k => ?_⟩
  · refine hiff.mpr (stopsClean_of_insertsCurrent hfresh ?_ hr hinserts)
    intro r hreg
    cases hreg
  · have howed := (run_accounted hfresh hr).owed k
    -- what is still held or waits counts on the same side, so releases alone are bounded too
    unfold owed Host.owed Host.spent at howed
    omega

/-- A binding that is kept over a restart and then inserted is released in an interpreter that never
knew it. -/
theorem stale_release :
    ((fresh (Watched.begin false)).run willing.watched
      [.perform (.start mainThread Config.default), .perform (.bind "outliers" "detect"),
        .perform (.stop mainThread),
        .perform (.start mainThread (Config.default.withRestart true)), .perform (.insert 0),
        .perform (.stop mainThread)]).toOption.map (fun p => p.host.world.diary) =
    some [⟨⟨willingObj, 1⟩, some 2⟩] := by
  decide +kernel

end Process

end Embedder
