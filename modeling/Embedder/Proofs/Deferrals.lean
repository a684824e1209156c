import Embedder.Proofs.BindingScope
import Embedder.Proofs.LettingGo
import Mathlib.Data.List.Induction

/-!
# What waits for release

A reference waits for release if its binding ended while the lifecycle was busy. The binding was
dropped by the program then, or by Python code; that Python code never does so is a property of the
guest (`Guest.NeverDefers`). With such a guest every reference that waits was put there by the
program, which had the binding in reach. So it belongs to an interpreter that has come up
(`Process.waiting_past`).
-/

namespace Embedder

open Scenario

variable {σ α : Type} {G : Guest σ} {h h' : Host σ}

/-- No Python code drops a binding while the lifecycle is busy. -/
structure Guest.NeverDefers (G : Guest σ) : Prop where
  act : ∀ {α : Type} {f : σ → Effect σ α}, G.Act f → ∀ w, deferredIn (f w).notices = []
  releaseKept : ∀ busy k w, deferredIn (G.releaseKept busy k w).notices = []
  shutdown : ∀ w, deferredIn (G.shutdown w).notices = []

theorem Guest.NeverDefers.releaseKeptAll (hG : G.NeverDefers) (busy : Bool) :
    ∀ (ks : List Kept) (w : σ), deferredIn (G.releaseKeptAll busy ks w).notices = [] := by
  intro ks
  induction ks with
  | nil => intro w; rfl
  | cons k ks ih =>
    intro w
    have hfirst := hG.releaseKept busy k w
    have hrest := ih (G.releaseKept busy k w).world
    unfold Guest.releaseKeptAll Effect.andThen
    unfold deferredIn at hfirst hrest ⊢
    rw [List.filterMap_append, hfirst, hrest]
    rfl

/-- Nothing is put into the queue. -/
def Unqueued : Conduct σ := fun _ h h' => h'.waiting ⊆ h.waiting

theorem unqueued_composes : (Unqueued : Conduct σ).Composes where
  refl h := List.Subset.refl h.waiting
  trans hm hn := List.Subset.trans hn hm

theorem Unqueued.of_eq {n : Int} (hwaiting : h'.waiting = h.waiting) : Unqueued n h h' := by
  rw [Unqueued, hwaiting]
  exact List.Subset.refl _

theorem act_unqueued {f : σ → Effect σ α} {n : α → Int} (hf : ∀ w, deferredIn (f w).notices = []) :
    (Bridge.act f).Obeys Unqueued n := by
  intro h a h' hr
  obtain ⟨-, rfl⟩ := Bridge.act_ok hr
  refine Unqueued.of_eq ?_
  show h.waiting ++ deferredIn (f h.world).notices = h.waiting
  rw [hf, List.append_nil]

section

variable (hG : G.NeverDefers)
include hG

theorem unqueued_inert : (Unqueued : Conduct σ).Inert G where
  toComposes := unqueued_composes
  count _ _ := Unqueued.of_eq rfl
  record _ _ := Unqueued.of_eq rfl
  retain _ _ := Unqueued.of_eq rfl
  release o := act_unqueued (hG.act (.release o))
  leave _ _ := Unqueued.of_eq rfl
  act hf := act_unqueued (hG.act hf)

theorem unqueued_sessional : (Unqueued : Conduct σ).Sessional G where
  toLawful := (unqueued_inert hG).lawful
  settle _ hr := Session.settleWaiting_obeys unqueued_composes
    (fun k => act_unqueued (hG.releaseKept false k)) (fun h => List.nil_subset h.waiting) _ _ _ hr

theorem Binding.drop_unqueued (b : Binding) :
    (b.drop G false).Obeys Unqueued fun _ => 0 := by
  intro h u h' hr
  by_cases hruns : h.lifecycle.stage = .running ∧ h.lifecycle.generation = b.generation
  · rw [Binding.drop_run_of_running hruns.1 hruns.2] at hr
    exact act_unqueued (n := fun _ => 0) (hG.releaseKept false b.kept) h u h' hr
  · rw [Binding.drop_run_of_gone hruns] at hr
    cases hr
    exact Unqueued.of_eq rfl

/-- A program that drops nothing while the lifecycle is busy puts nothing into the queue. -/
theorem unqueued_registry : (Unqueued : Conduct σ).WeighsRegistry Scale.handles (fun _ => 0)
    (· = false) G where
  toWeighsSessions := (unqueued_sessional hG).weighsSessions
  write hf h := by
    rw [hf h]
    exact Unqueued.of_eq rfl
  bind moduleName function :=
    Binding.bind_weighed (unqueued_sessional hG).weighsSessions moduleName function
  drop hbusy b := by
    subst hbusy
    exact Binding.drop_unqueued hG b
  idle := rfl
  share _ _ := Unqueued.of_eq rfl
  unshare _ := Unqueued.of_eq rfl
  insert _ _ := Unqueued.of_eq rfl
  remove _ _ := Unqueued.of_eq rfl

end

namespace Interpreter

variable {thread : ThreadId} {config : Config}

theorem launch_unqueued : (launch G thread config).Obeys Unqueued (fun _ => 0) 0 := by
  intro h r h' hr
  refine Unqueued.of_eq ?_
  cases hf : startRefusal config h with
  | some f =>
    rw [launch_run_of_refused thread hf] at hr
    cases hr
    rfl
  | none =>
    by_cases hup : G.isUp h.world = true
    · rw [launch_run_of_up thread hf hup] at hr
      cases hr
      rfl
    · have hdown : G.isUp h.world = false := by simpa using hup
      cases hbooted : G.isUp (booted G h).world with
      | false =>
        rw [launch_run_of_failed thread hf hdown hbooted] at hr
        cases hr
        rfl
      | true =>
        rw [launch_run_of_launches thread (launches_iff.mpr ⟨hf, hdown, hbooted⟩)] at hr
        cases hr
        rfl

theorem start_unqueued (hG : G.NeverDefers) :
    (start G thread config).Obeys Unqueued (fun _ => 0) 0 :=
  launch_unqueued.seq unqueued_composes fun _ =>
    appendPaths_sessional (unqueued_sessional hG) config.searchPaths

theorem stop_waiting (hG : G.NeverDefers) {r : Except Failure Unit} (ht : h.shelf.Tidy)
    (hr : (stop G thread).run.run h = .ok (r, h')) : h'.waiting ⊆ h.waiting := by
  by_cases hs : h.lifecycle.stage = .running
  · obtain ⟨h₁, hstop, -, hwaiting⟩ := stop_releases (G := G) thread hs ht
    rw [hstop] at hr
    cases hr
    have hemptied : deferredIn (h.emptied G h.due).notices = [] := hG.releaseKeptAll true _ _
    rw [hwaiting, hemptied, hG.shutdown]
    exact List.nil_subset _
  · rw [stop_run_of_not_running hs] at hr
    cases hr
    exact List.Subset.refl _

end Interpreter

/-- The last ticket on a binding that is dropped puts its reference into the queue. -/
theorem Ticket.drop_waiting {t : Ticket} {b : Binding} {u : Unit} (ht : t.On b h)
    (hr : (t.drop G true).run h = .ok (u, h')) :
    h'.waiting = h.waiting ∨ h'.waiting = h.waiting ++ [b.kept] := by
  obtain ⟨s, hs, rfl⟩ := ht
  by_cases howners : s.owners ≤ 1
  · rw [drop_run_of_last true hs howners, Binding.drop_run_of_busy] at hr
    cases hr
    exact .inr rfl
  · rw [drop_run_of_shared true hs (by omega)] at hr
    cases hr
    exact .inl rfl

namespace Process

variable {p p' : Process σ} {s : Step σ} {B : Binding → Prop} {k : Kept}

/-- What waits was put into the queue by the program, which had the binding in reach. -/
def Queues (p : Process σ) (h : Host σ) : Prop :=
  ∀ k ∈ h.waiting, k ∈ p.host.waiting ∨ ∃ b, p.InReach b ∧ b.kept = k

theorem Queues.of_unqueued (hwaiting : h.waiting ⊆ p.host.waiting) : p.Queues h :=
  fun _ hk => .inl (hwaiting hk)

theorem Queues.of_append {b : Binding} (hb : p.InReach b)
    (hwaiting : h.waiting = p.host.waiting ++ [b.kept]) : p.Queues h := by
  intro k hk
  rw [hwaiting] at hk
  rcases List.mem_append.mp hk with hk | hk
  · exact .inl hk
  · exact .inr ⟨b, hb, (List.mem_singleton.mp hk).symm⟩

theorem perform_queues (hG : G.NeverDefers) (hp : p.Owns B) {op : Operation}
    {r : Caller × List Event} (hop : (op.perform G p.caller).run p.host = .ok (r, h)) :
    p.Queues h := by
  have htidy : p.host.shelf.Tidy := (Shelf.Accounts.toOrderly hp.accounts).toTidy
  have unqueued (hstop : ∀ thread, op ≠ .stop thread) (hbusy : op.busy = false) : p.Queues h :=
    Queues.of_unqueued <| Operation.perform_weighed (unqueued_registry hG) hstop hbusy
      (fun _ _ => Interpreter.launch_unqueued) (fun _ _ => Interpreter.start_unqueued hG)
      (fun tasks _ => Task.session_obeys (unqueued_sessional hG) tasks) p.caller _ _ _ hop
  cases op with
  | stop thread =>
    obtain ⟨a, h₁, hstop, hrest⟩ := Bridge.bind_ok hop
    obtain ⟨-, rfl⟩ := Bridge.pure_ok hrest
    exact Queues.of_unqueued (Interpreter.stop_waiting hG htidy hstop)
  | dropBinding busy i =>
    cases busy with
    | false => exact unqueued (fun _ => Operation.noConfusion) rfl
    | true =>
      cases hb : p.caller.bindings[i]? with
      | none =>
        simp only [Operation.perform, hb] at hop
        cases hop
        exact Queues.of_unqueued (List.Subset.refl _)
      | some b =>
        simp only [Operation.perform, hb] at hop
        rw [Bridge.run_bind (Binding.drop_run_of_busy b)] at hop
        cases hop
        exact Queues.of_append (.inl (List.mem_of_getElem? hb)) rfl
  | dropTicket busy i =>
    cases busy with
    | false => exact unqueued (fun _ => Operation.noConfusion) rfl
    | true =>
      cases ht : p.caller.tickets[i]? with
      | none =>
        simp only [Operation.perform, ht] at hop
        cases hop
        exact Queues.of_unqueued (List.Subset.refl _)
      | some t =>
        simp only [Operation.perform, ht] at hop
        obtain ⟨u, h₁, hdrop, hrest⟩ := Bridge.bind_ok hop
        obtain ⟨-, rfl⟩ := Bridge.pure_ok hrest
        obtain ⟨b, hb⟩ := hp.ticket (List.mem_of_getElem? ht)
        rcases Ticket.drop_waiting hb hdrop with hwaiting | hwaiting
        · exact Queues.of_unqueued (Unqueued.of_eq (n := 0) hwaiting)
        · exact Queues.of_append (.inr ⟨t, hb⟩) hwaiting
  | _ => exact unqueued (fun _ => Operation.noConfusion) rfl

theorem interface_queues (hG : G.NeverDefers) (hp : p.Owns B) {thread : ThreadId}
    {call : InterfaceCall} {v : InterfaceValue}
    (hcall : (call.perform G thread).run p.host = .ok (v, h)) : p.Queues h := by
  have unqueued (hstop : call ≠ .stop) : p.Queues h :=
    Queues.of_unqueued <| call.perform_weighed (unqueued_registry hG) thread
      (fun _ => Interpreter.start_unqueued hG) hstop _ _ _ hcall
  cases call with
  | stop =>
    obtain ⟨a, h₁, ha, hrest⟩ := Bridge.bind_ok hcall
    obtain ⟨-, rfl⟩ := Bridge.pure_ok hrest
    obtain ⟨r, k, e, hstop, rfl⟩ := CInterface.answer_left ha
    have htidy :
        ({ p.host with lastErrors := p.host.lastErrors.clear thread } : Host σ).shelf.Tidy :=
      (Shelf.Accounts.toOrderly hp.accounts).toTidy
    have hwaiting := Interpreter.stop_waiting hG htidy hstop
    exact Queues.of_unqueued hwaiting
  | _ => exact unqueued InterfaceCall.noConfusion

theorem step_queues (hG : G.NeverDefers) (hp : p.Owns B) (hs : p.step G s = .ok p') :
    p.Queues p'.host := by
  cases s with
  | perform op =>
    obtain ⟨events, hop, -⟩ := step_perform_ok hs
    exact perform_queues hG hp hop
  | interface thread call =>
    obtain ⟨v, hcall, -⟩ := step_interface_ok hs
    exact interface_queues hG hp hcall
  | outside f =>
    cases hs
    exact Queues.of_unqueued (List.Subset.refl _)

/-- **Nothing waits ahead of its interpreter.** If Python code drops no bindings while the lifecycle
is busy, then every reference that waits at the end of a run is of a generation that has begun. -/
theorem waiting_past (hG : G.NeverDefers) {world : σ} {steps : List (Step σ)}
    (hr : (fresh world).run G steps = .ok p) :
    ∀ k ∈ p.host.waiting, k.generation ≤ p.host.lifecycle.generation := by
  induction steps using List.reverseRecOn generalizing p with
  | nil =>
    cases hr
    exact fun _ hk => nomatch hk
  | append_singleton before s ih =>
    obtain ⟨q, hq, hlast⟩ := run_append_ok hr
    obtain ⟨p₁, hs, hend⟩ := run_cons_ok hlast
    cases hend
    have howns := run_owners hq
    have hlater : q.host.lifecycle.generation ≤ p.host.lifecycle.generation :=
      (step_later hs).1.generation
    intro k hk
    rcases step_queues hG howns hs k hk with hbefore | ⟨b, hb, rfl⟩
    · exact Nat.le_trans (ih hq k hbefore) hlater
    · exact Nat.le_trans ((howns.of_inReach hb).generation_le hq) hlater

end Process

end Embedder
