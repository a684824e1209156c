import Embedder.Proofs.Findings
import Embedder.Proofs.Resolution
import Embedder.Proofs.Shares

/-!
# What a stop lets go of

Before a stop takes the interpreter down, it releases what the bridge still keeps: one reference for
each ticket in the registry that has no other owner, in the order of the ids, and then what waits
for release. It looks at the generation of the second only. So the state in which the interpreter
goes down is told by the releases alone (`Interpreter.stop_releases`).
-/

namespace Embedder

variable {σ : Type} {G : Guest σ} {h : Host σ}

/-! ## What the registry gives up -/

/-- The tickets in the registry, each under its id. -/
def Host.entries (h : Host σ) : List (Int × Ticket) := h.registry.elim [] (·.entries)

namespace Registry

variable {shares : List (Nat × Share)} {entries : List (Int × Ticket)}

/-- The references that some entries of a registry give up to a stop, which releases them. -/
def due (shares : List (Nat × Share)) (entries : List (Int × Ticket)) : List Kept :=
  entries.filterMap fun e => e.2.due? shares

theorem due_cons (shares : List (Nat × Share)) (e : Int × Ticket) (rest : List (Int × Ticket)) :
    due shares (e :: rest) = (e.2.due? shares).toList ++ due shares rest := by
  unfold due
  rw [List.filterMap_cons]
  cases e.2.due? shares with
  | none => rfl
  | some k => rfl

/-- Entries with other serial numbers give up what they gave up before. -/
theorem due_letGo {t : Ticket} (ht : t.serial ∉ entries.map (·.2.serial)) :
    due (t.letGo shares) entries = due shares entries := by
  refine List.filterMap_congr fun e he => ?_
  unfold Ticket.due?
  rw [Ticket.lookup_letGo_of_ne fun heq => ht (List.mem_map.mpr ⟨e, he, heq⟩)]

/-- The records after the registry let go of some entries, one after the other. -/
def letGoAll (shares : List (Nat × Share)) (entries : List (Int × Ticket)) : List (Nat × Share) :=
  entries.foldl (fun shares e => e.2.letGo shares) shares

theorem keys_letGoAll_sublist :
    ((letGoAll shares entries).map Prod.fst).Sublist (shares.map Prod.fst) := by
  induction entries generalizing shares with
  | nil => exact List.Sublist.refl _
  | cons e rest ih => exact ih.trans Ticket.keys_letGo_sublist

/-- What is given up is not held any more. -/
theorem count_kept_letGoAll (hkeys : (shares.map Prod.fst).Nodup)
    (hserials : (entries.map (·.2.serial)).Nodup) (k : Kept) :
    (Shares.kept (letGoAll shares entries)).count k + (due shares entries).count k ≤
      (Shares.kept shares).count k := by
  induction entries generalizing shares with
  | nil => exact Nat.le_refl _
  | cons e rest ih =>
    obtain ⟨hfirst, hrest⟩ := List.nodup_cons.mp hserials
    have hone := Ticket.count_kept_letGo (t := e.2) hkeys k
    have hothers := ih ((Ticket.keys_letGo_sublist (t := e.2)).nodup hkeys) hrest
    rw [due_letGo hfirst] at hothers
    rw [due_cons, List.count_append]
    show (Shares.kept (letGoAll (e.2.letGo shares) rest)).count k + _ ≤ _
    omega

end Registry

/-- The references that the registry gives up to a stop. -/
def Host.due (h : Host σ) : List Kept :=
  match h.registry with
  | none => []
  | some r => Registry.due h.shares r.entries

theorem Host.due_eq (h : Host σ) : h.due = Registry.due h.shares h.entries := by
  unfold Host.due Host.entries
  cases h.registry with
  | none => rfl
  | some r => rfl

theorem Host.serials_nodup (ht : h.shelf.Tidy) : (h.entries.map (·.2.serial)).Nodup := by
  unfold Host.entries
  cases hr : h.registry with
  | none => exact List.nodup_nil
  | some r => exact ht.serials r hr

/-! ## Releases, one after the other -/

/-- Release kept references, one after the other. -/
def Guest.releaseKeptAll (G : Guest σ) (busy : Bool) : List Kept → σ → Effect σ Unit
  | [], w => .still () w
  | k :: ks, w => (G.releaseKept busy k w).andThen fun _ => G.releaseKeptAll busy ks

theorem Guest.releaseKeptAll_append (G : Guest σ) (busy : Bool) (ks ls : List Kept) (w : σ) :
    G.releaseKeptAll busy (ks ++ ls) w =
      (G.releaseKeptAll busy ks w).andThen fun _ => G.releaseKeptAll busy ls := by
  induction ks generalizing w with
  | nil => rfl
  | cons k ks ih =>
    rw [List.cons_append, releaseKeptAll, releaseKeptAll, Effect.andThen_assoc]
    exact congrArg _ (funext₂ fun _ w => ih w)

theorem Host.releasing_eq (busy : Bool) (generation : Nat) (ks : List Kept) (h : Host σ) :
    h.releasing G busy generation ks =
      h.after (G.releaseKeptAll busy (ks.filter (·.generation = generation)) h.world) := by
  induction ks generalizing h with
  | nil => exact Host.after_still.symm
  | cons k ks ih =>
    unfold releasing
    rw [ih]
    by_cases hk : k.generation = generation
    · rw [if_pos hk, List.filter_cons_of_pos (by simpa using hk), Guest.releaseKeptAll,
        Host.after_andThen]
      rfl
    · rw [if_neg hk, List.filter_cons_of_neg (by simpa using hk)]

namespace Registry

/-- The registry lets go of a ticket: the reference is released if nobody else owns it. -/
theorem letGoOne_run (t : Ticket) (h : Host σ) : (letGoOne G t).run h =
    .ok ((), ({ h with shares := t.letGo h.shares } : Host σ).after
      (G.releaseKeptAll true (t.due? h.shares).toList h.world)) := by
  unfold letGoOne Ticket.due? Ticket.letGo
  rw [Bridge.run_bind (Ticket.share?_run t h)]
  cases hs : h.shares.lookup t.serial with
  | none => exact congrArg (fun h => Except.ok ((), h)) Host.after_still.symm
  | some s =>
    dsimp only
    by_cases howners : s.owners ≤ 1
    · rw [if_pos howners, if_pos howners, if_pos howners,
        Bridge.run_bind (Ticket.removeShare_run t h), Bridge.act_run]
      show _ = Except.ok ((), Host.after _ ((G.releaseKept true s.binding.kept h.world).andThen
        Effect.still))
      rw [Effect.andThen_still]
    · rw [if_neg howners, if_neg howners, if_neg howners, Ticket.setShare_run]
      exact congrArg (fun h => Except.ok ((), h)) Host.after_still.symm

/-- Each entry gives up what it would have given up first, since the entries before it have other
serial numbers. -/
theorem letGo_run (entries : List (Int × Ticket)) (h : Host σ)
    (hserials : (entries.map (·.2.serial)).Nodup) : (letGo G entries).run h =
      .ok ((), ({ h with shares := letGoAll h.shares entries } : Host σ).after
        (G.releaseKeptAll true (due h.shares entries) h.world)) := by
  induction entries generalizing h with
  | nil => exact congrArg (fun h => Except.ok ((), h)) Host.after_still.symm
  | cons e rest ih =>
    obtain ⟨hfirst, hrest⟩ := List.nodup_cons.mp hserials
    have hsame : due (e.2.letGo h.shares) rest = due h.shares rest := due_letGo hfirst
    unfold letGo
    rw [Bridge.run_bind (letGoOne_run e.2 h), ih _ hrest, due_cons, Guest.releaseKeptAll_append,
      Host.after_andThen, ← hsame]
    rfl

end Registry

/-- The host after its registry went away with what it gave up. -/
def Host.unfiled (G : Guest σ) (h : Host σ) : Host σ :=
  ({ h with registry := none, shares := Registry.letGoAll h.shares h.entries } : Host σ).after
    (G.releaseKeptAll true h.due h.world)

/-- That so many entries were there goes to the log. -/
theorem Registry.destroy_run (ht : h.shelf.Tidy) :
    ∃ log, (destroy G).run h = .ok ((), { h.unfiled G with log := log }) := by
  unfold destroy Host.unfiled
  rw [Bridge.run_get_bind, Host.due_eq, Host.entries]
  cases hr : h.registry with
  | none =>
    have hnone : ({ h with registry := none } : Host σ) = h := by rw [← hr]
    have hstill : ({ h with registry := none } : Host σ).after (.still () h.world) = h :=
      Host.after_still.trans hnone
    exact ⟨_, congrArg (fun h => Except.ok ((), h)) hstill.symm⟩
  | some r =>
    dsimp only
    rw [Bridge.run_modify_bind,
      Bridge.run_bind (letGo_run r.entries { h with registry := none } (ht.serials r hr))]
    split
    next => exact ⟨_, rfl⟩
    next => exact ⟨_, rfl⟩

/-! ## The stop -/

/-- Release what waits after some other references were released. The effect of that is what the
interpreter goes down with. -/
def Host.emptied (G : Guest σ) (due : List Kept) (h : Host σ) : Effect σ Unit :=
  let released := G.releaseKeptAll true due h.world
  let waiting := h.waiting ++ deferredIn released.notices
  G.releaseKeptAll true (waiting.filter (·.generation = h.lifecycle.generation)) released.world

/-- A stop takes the interpreter down once it has released what the registry gives up and what
waits. -/
theorem Interpreter.stop_releases (thread : ThreadId) (hs : h.lifecycle.stage = .running)
    (ht : h.shelf.Tidy) : ∃ h', (stop G thread).run.run h = .ok (.ok (), h') ∧
      h'.world = (G.shutdown (h.emptied G h.due).world).world ∧
      h'.waiting = deferredIn (h.emptied G h.due).notices ++
        deferredIn (G.shutdown (h.emptied G h.due).world).notices := by
  obtain ⟨log, hdestroy⟩ := Registry.destroy_run (G := G) ht
  let h₁ : Host σ := { h.unfiled G with waiting := [], log := log }
  let h₂ := h₁.after (h.emptied G h.due)
  have hgo : (letGoOfAll G h.lifecycle.generation).run h = .ok ((), h₂) := by
    unfold letGoOfAll
    rw [Bridge.run_bind hdestroy]
    have hsettle := Session.settle_run (G := G) true h.lifecycle.generation (h.unfiled G).waiting h₁
    rw [Host.releasing_eq] at hsettle
    exact hsettle
  obtain ⟨h₃, hfin, -, hdown, hqueued⟩ := finalize_run (G := G) h.lifecycle thread h₂
  unfold stop
  rw [Attempt.run_get_bind]
  dsimp only
  rw [if_neg fun hne => hne hs, Attempt.run_lift_bind hgo]
  exact ⟨h₃, Attempt.run_lift hfin, hdown, hqueued⟩

end Embedder
