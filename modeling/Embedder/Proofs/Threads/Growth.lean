import Embedder.Proofs.Custody
import Embedder.Proofs.Threads.System

/-!
# What single programs add to the queue and to the diary

Within a generation, a program of the bridge adds to the end of the queue and to the end of the
diary, and takes nothing out of either (`Grows`). What it adds to the diary is said for each of
them: a settlement that comes to a reference releases it if it is of its own generation, a stop
releases what nobody else owns, and most programs release nothing. Everything that runs inside a
session is of the last kind, so it can be the work of a thread (`Work.ofObeys`).
-/

namespace Embedder

variable {σ α : Type} {G : Guest σ} {h h' h₁ h₂ : Host (Watched σ)} {k : Kept} {t : Ticket}
variable {xs ys done : List Release}

namespace Grows

theorem refl (h : Host (Watched σ)) : Grows [] h h :=
  ⟨rfl, rfl, (List.append_nil _).symm, List.prefix_rfl⟩

theorem trans (hx : Grows xs h h₁) (hy : Grows ys h₁ h₂) : Grows (xs ++ ys) h h₂ where
  lifecycle := hy.lifecycle.trans hx.lifecycle
  running := hy.running.trans hx.running
  diary := by rw [hy.diary, hx.diary, List.append_assoc]
  waiting := hx.waiting.trans hy.waiting

/-- The guest did nothing, and the books changed elsewhere. -/
theorem of_books (hlife : h'.lifecycle = h.lifecycle) (hworld : h'.world = h.world)
    (hwaiting : h.waiting <+: h'.waiting) : Grows [] h h' where
  lifecycle := hlife
  running := congrArg Watched.running hworld
  diary := by rw [hworld, List.append_nil]
  waiting := hwaiting

theorem of_act {f : σ → Effect σ α} {a : α}
    (hr : (Bridge.act (Watched.act f)).run h = .ok (a, h')) : Grows [] h h' := by
  obtain ⟨-, rfl⟩ := Bridge.act_ok hr
  exact ⟨rfl, rfl, (List.append_nil _).symm, List.prefix_append _ _⟩

theorem of_releaseKept {busy : Bool} {u : Unit}
    (hr : (Bridge.act (G.watched.releaseKept busy k)).run h = .ok (u, h')) :
    Grows [⟨k, h.world.running⟩] h h' := by
  obtain ⟨-, rfl⟩ := Bridge.act_ok hr
  exact ⟨rfl, rfl, rfl, List.prefix_append _ _⟩

end Grows

/-! ## Programs that release -/

/-- A settlement deals with one reference as it should, if its generation is up. -/
theorem Session.settleOne_grows {c : Settlement} {u : Unit}
    (hup : h.world.running = some c.generation)
    (hr : (settleOne G.watched c.byStop c.generation k).run h = .ok (u, h')) :
    Grows (c.releases k) h h' := by
  unfold settleOne at hr
  unfold Settlement.releases
  by_cases hk : k.generation = c.generation
  · rw [if_pos hk] at hr ⊢
    rw [← hup]
    exact Grows.of_releaseKept hr
  · rw [if_neg hk] at hr ⊢
    obtain ⟨-, rfl⟩ := Bridge.pure_ok hr
    exact Grows.refl _

/-- A stop lets go of a ticket. -/
theorem Registry.letGoOne_grows {u : Unit} (hr : (letGoOne G.watched t).run h = .ok (u, h')) :
    ∃ done, Grows done h h' := by
  unfold letGoOne at hr
  obtain ⟨found, h₁, hshare, hrest⟩ := Bridge.bind_ok hr
  cases hshare
  cases hs : h.shares.lookup t.serial with
  | none =>
    rw [hs] at hrest
    obtain ⟨-, rfl⟩ := Bridge.pure_ok hrest
    exact ⟨[], Grows.refl _⟩
  | some s =>
    rw [hs] at hrest
    dsimp only at hrest
    by_cases howners : s.owners ≤ 1
    · rw [if_pos howners] at hrest
      obtain ⟨v, h₂, hremove, hrelease⟩ := Bridge.bind_ok hrest
      cases hremove
      have removed : Grows [] h { h with shares := Shares.erase t.serial h.shares } :=
        Grows.of_books rfl rfl List.prefix_rfl
      exact ⟨_, removed.trans (Grows.of_releaseKept hrelease)⟩
    · rw [if_neg howners] at hrest
      cases hrest
      exact ⟨[], Grows.of_books rfl rfl List.prefix_rfl⟩

/-- A binding that finds the lifecycle free is released or forgotten. -/
theorem Binding.drop_grows {b : Binding} {u : Unit}
    (hr : (b.drop G.watched false).run h = .ok (u, h')) : ∃ done, Grows done h h' := by
  by_cases hruns : h.lifecycle.stage = .running ∧ h.lifecycle.generation = b.generation
  · rw [Binding.drop_run_of_running hruns.1 hruns.2] at hr
    exact ⟨_, Grows.of_releaseKept hr⟩
  · rw [Binding.drop_run_of_gone hruns] at hr
    cases hr
    exact ⟨[], Grows.of_books rfl rfl List.prefix_rfl⟩

/-! ## Programs that release nothing -/

/-- A binding that finds the lifecycle busy is queued. -/
theorem Binding.drop_busy_grows {b : Binding} {u : Unit}
    (hr : (b.drop G.watched true).run h = .ok (u, h')) : Grows [] h h' := by
  rw [Binding.drop_run_of_busy] at hr
  cases hr
  exact Grows.of_books rfl rfl (List.prefix_append _ _)

theorem Ticket.giveUp_grows {last : Option Binding} (hr : t.giveUp.run h = .ok (last, h')) :
    Grows [] h h' := by
  unfold giveUp at hr
  obtain ⟨found, h₁, hshare, hrest⟩ := Bridge.bind_ok hr
  cases hshare
  cases hs : h.shares.lookup t.serial with
  | none =>
    rw [hs] at hrest
    cases hrest
    exact Grows.refl _
  | some s =>
    rw [hs] at hrest
    dsimp only at hrest
    split at hrest
    all_goals
      cases hrest
      exact Grows.of_books rfl rfl List.prefix_rfl

theorem Ticket.drop_busy_grows {u : Unit} (hr : (t.drop G.watched true).run h = .ok (u, h')) :
    Grows [] h h' := by
  rw [Ticket.drop_eq] at hr
  obtain ⟨last, h₁, hgive, hrest⟩ := Bridge.bind_ok hr
  have given := Ticket.giveUp_grows hgive
  cases last with
  | none =>
    obtain ⟨-, rfl⟩ := Bridge.pure_ok hrest
    exact given
  | some b => exact given.trans (Binding.drop_busy_grows hrest)

theorem Registry.reportLetGo_grows {count : Nat} {u : Unit}
    (hr : (reportLetGo count).run h = .ok (u, h')) : Grows [] h h' := by
  unfold reportLetGo at hr
  split at hr
  all_goals
    cases hr
    exact Grows.of_books rfl rfl List.prefix_rfl

/-! ## Where the generation changes -/

namespace Interpreter

variable {thread : ThreadId} {config : Config}

/-- A start is refused, fails to boot, or succeeds. -/
theorem launch_cases {τ : Type} {F : Guest τ} {g g' : Host τ} {r : Except Failure Unit}
    (hr : (launch F thread config).run.run g = .ok (r, g')) :
    (∃ log, g' = { g with log := log }) ∨ g' = booted F g ∨ g' = launched F thread config g := by
  cases hf : startRefusal config g with
  | some f =>
    rw [launch_run_of_refused thread hf] at hr
    cases hr
    exact .inl ⟨_, rfl⟩
  | none =>
    cases hup : F.isUp g.world with
    | true =>
      rw [launch_run_of_up thread hf hup] at hr
      cases hr
      exact .inl ⟨g.log, rfl⟩
    | false =>
      cases hbooted : F.isUp (booted F g).world with
      | false =>
        rw [launch_run_of_failed thread hf hup hbooted] at hr
        cases hr
        exact .inr (.inl rfl)
      | true =>
        rw [launch_run_of_launches thread (launches_iff.mpr ⟨hf, hup, hbooted⟩)] at hr
        cases hr
        exact .inr (.inr rfl)

/-- However a start ends, the diary and the queue are as before, and a new generation is a later
one. -/
theorem launch_keeps {r : Except Failure Unit}
    (hr : (launch G.watched thread config).run.run h = .ok (r, h')) :
    h'.world.diary = h.world.diary ∧ h'.waiting = h.waiting ∧
      (h'.lifecycle = h.lifecycle ∨ h.lifecycle.generation < h'.lifecycle.generation) := by
  rcases launch_cases hr with ⟨log, rfl⟩ | rfl | rfl
  · exact ⟨rfl, rfl, .inl rfl⟩
  · exact ⟨rfl, rfl, .inl rfl⟩
  · exact ⟨rfl, rfl, .inr (Nat.lt_succ_self _)⟩

/-- When the interpreter is taken down, Python code may still add to the queue. -/
theorem finalize_keeps {life : Lifecycle} {u : Unit}
    (hr : (finalize G.watched life thread).run h = .ok (u, h')) :
    h'.Truthful ∧ h'.world.diary = h.world.diary ∧ h.waiting <+: h'.waiting ∧
      h'.lifecycle = ⟨.finalized, h.lifecycle.generation, none⟩ := by
  obtain ⟨htruthful, hshelf, hdiary, -⟩ := finalize_ok hr
  obtain ⟨h₁, hrun, -, -, hwaiting⟩ := finalize_run (G := G.watched) life thread h
  rw [hrun] at hr
  cases hr
  refine ⟨htruthful, hdiary, ?_, congrArg Shelf.lifecycle hshelf⟩
  rw [hwaiting]
  exact List.prefix_append _ _

end Interpreter

/-! ## Work -/

/-- What releases nothing and leaves the lifecycle alone, as a conduct. -/
def Growing : Conduct (Watched σ) := fun _ h h' => Grows [] h h'

theorem growing_composes : (Growing : Conduct (Watched σ)).Composes where
  refl := Grows.refl
  trans hm hn := hm.trans hn

theorem growing_inert (G : Guest σ) : (Growing : Conduct (Watched σ)).Inert G.watched where
  toComposes := growing_composes
  count _ _ := Grows.of_books rfl rfl List.prefix_rfl
  record _ _ := Grows.of_books rfl rfl List.prefix_rfl
  retain _ _ := ⟨rfl, rfl, (List.append_nil _).symm, List.prefix_rfl⟩
  release _ _ _ _ hr := Grows.of_act hr
  leave _ _ := Grows.of_books rfl rfl List.prefix_rfl
  act hf h a h' hr := by
    obtain ⟨g, rfl⟩ := hf.of_watched
    exact Grows.of_act hr

namespace Work

def ofObeys (x : Bridge (Watched σ) α) {n : α → Int} (hx : x.Obeys Growing n) : Work σ where
  run := x >>= fun _ => pure ()
  grows hr := by
    obtain ⟨a, h₁, hrun, hrest⟩ := Bridge.bind_ok hr
    obtain ⟨-, rfl⟩ := Bridge.pure_ok hrest
    exact hx _ a _ hrun

/-- Tasks inside a session. -/
def tasks (G : Guest σ) (ts : List Task) (d : Desk) : Work σ :=
  ofObeys (Task.performAll G.watched ts d)
    (Task.performAll_obeys (growing_inert G).lawful ts d)

end Work

/-! The registry is open to all threads at any time. -/

theorem Ticket.clone_growing (t : Ticket) :
    (t.clone : Bridge (Watched σ) Ticket).Obeys Growing fun _ => 0 := by
  refine withShare_obeys t fun h t' h' hr => ?_
  cases hs : h.shares.lookup t.serial with
  | none =>
    rw [hs] at hr
    cases hr
    exact Grows.refl h
  | some s =>
    rw [hs] at hr
    cases hr
    exact Grows.of_books rfl rfl List.prefix_rfl

namespace Registry

theorem find_growing (id : Int) :
    (find id : Attempt (Watched σ) Failure Ticket).Obeys Growing (fun _ => 0) 0 := by
  refine whileOpen_obeys growing_composes fun r => ?_
  split
  next => exact Attempt.Obeys.throw growing_composes
  next t _ => exact Attempt.Obeys.lift growing_composes t.clone_growing

theorem remove_growing (id : Int) :
    (remove id : Attempt (Watched σ) Failure Ticket).Obeys Growing (fun _ => 0) 0 := by
  intro h x h' hr
  rcases remove_ok hr with ⟨r, t, -, -, -, rfl⟩ | ⟨-, rfl⟩
  · exact Grows.of_books rfl rfl List.prefix_rfl
  · exact Grows.refl _

/-- Keep a binding under a new id, if there is one. -/
def file (G : Guest σ) (b : Binding) : Bridge (Watched σ) Unit := do
  match (← get).registry with
  | none => pure ()
  | some r =>
    if r.nextId < idBound then do
      let _ ← (insert G.watched b).run
      pure ()
    else pure ()

/-- A binding that is not refused does not end. -/
theorem file_growing (G : Guest σ) (b : Binding) : (file G b).Obeys Growing fun _ => 0 := by
  intro h u h' hr
  unfold file at hr
  rw [Bridge.run_get_bind] at hr
  cases hreg : h.registry with
  | none =>
    rw [hreg] at hr
    cases hr
    exact Grows.refl h
  | some r =>
    rw [hreg] at hr
    dsimp only at hr
    split at hr
    next hid =>
      obtain ⟨x, h₁, hinsert, hrest⟩ := Bridge.bind_ok hr
      obtain ⟨-, rfl⟩ := Bridge.pure_ok hrest
      rw [insert_run_of_open b hreg hid] at hinsert
      cases hinsert
      exact Grows.of_books rfl rfl List.prefix_rfl
    next =>
      cases hr
      exact Grows.refl h

end Registry

namespace Work

def find (id : Int) : Work σ := ofObeys _ (Registry.find_growing id)

def remove (id : Int) : Work σ := ofObeys _ (Registry.remove_growing id)

/-- An insert that the registry does not refuse. One that it refuses is the end of its binding. -/
def insert (G : Guest σ) (b : Binding) : Work σ := ofObeys _ (Registry.file_growing G b)

end Work

end Embedder
