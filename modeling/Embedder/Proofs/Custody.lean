import Embedder.Proofs.LettingGo
import Embedder.Proofs.Watched

/-!
# Custody of kept references

A kept reference is held by a binding in the hand of the host, by a shared binding, or by the queue;
it ends by a release, or is forgotten. `Entrusted` says what a program may do to which references
were given: what it releases, it releases in the generation it belongs to, and no more are released
or held than before and with those that were given. Everything but a stop is so.

A stop releases by itself what the registry has and nobody else owns, and does not look at its
generation. What it releases is told apart (`stop_ok`).
-/

namespace Embedder

variable {σ α : Type} {G : Guest σ} {h h' h₁ h₂ : Host (Watched σ)} {k : Kept} {ks ls put : List Kept}
variable {thread : ThreadId} {config : Config}

/-- How often a reference was released, waits for it or is held by a shared binding, less what
Python code put into the queue. -/
def Host.owed (k : Kept) (h : Host (Watched σ)) : Int := h.spent k + (Shares.kept h.shares).count k

/-- The references `ks` were given to a program, and it did right by them. It put no others than
`put` under the care of the registry. -/
structure Entrusted (ks put : List Kept) (h h' : Host (Watched σ)) : Prop where
  truthful : h.Truthful → h'.Truthful
  tidy : h.shelf.Tidy → h'.shelf.Tidy
  current : (∀ k ∈ put, k.generation = h.lifecycle.generation) → h.shelf.Tidy → h.shelf.Current →
    h'.shelf.Current
  wrote : h.Truthful → ∃ new, h'.world.diary = h.world.diary ++ new ∧ ∀ r ∈ new, r.Right
  owed : h.shelf.Tidy → ∀ k, h'.owed k ≤ h.owed k + ks.count k

namespace Entrusted

theorem refl (h : Host (Watched σ)) : Entrusted [] [] h h where
  truthful ht := ht
  tidy ht := ht
  current _ _ hc := hc
  wrote _ := ⟨[], (List.append_nil _).symm, fun _ hr => nomatch hr⟩
  owed _ _ := by simp

/-- The second program was given nothing. -/
theorem trans (hk : Entrusted ks put h h₁) (hl : Entrusted [] [] h₁ h') : Entrusted ks put h h' where
  truthful ht := hl.truthful (hk.truthful ht)
  tidy ht := hl.tidy (hk.tidy ht)
  current hput ht hc :=
    hl.current (fun _ hmem => nomatch hmem) (hk.tidy ht) (hk.current hput ht hc)
  wrote ht := by
    obtain ⟨xs, hxs, hxright⟩ := hk.wrote ht
    obtain ⟨ys, hys, hyright⟩ := hl.wrote (hk.truthful ht)
    refine ⟨xs ++ ys, ?_, fun r hr => ?_⟩
    · rw [hys, hxs, List.append_assoc]
    · rcases List.mem_append.mp hr with hr | hr
      · exact hxright r hr
      · exact hyright r hr
  owed ht k := by
    have hfirst := hk.owed ht k
    have hthen := hl.owed (hk.tidy ht) k
    rw [List.count_nil] at hthen
    omega

/-- What stands on the shelf stays. -/
theorem of_same_shelf (hshelf : h'.shelf = h.shelf) (hup : h'.world.running = h.world.running)
    (hwrote : h.Truthful → ∃ new, h'.world.diary = h.world.diary ++ new ∧ ∀ r ∈ new, r.Right)
    (hspent : ∀ k, h'.spent k ≤ h.spent k + ks.count k) : Entrusted ks [] h h' where
  truthful ht := by
    have hlife : h'.lifecycle = h.lifecycle := congrArg Shelf.lifecycle hshelf
    unfold Host.Truthful at ht ⊢
    rw [hup, hlife, ht]
  tidy ht := by
    rw [hshelf]
    exact ht
  current _ _ hc := by
    rw [hshelf]
    exact hc
  wrote := hwrote
  owed _ k := by
    have hmore := hspent k
    have hshares : h'.shares = h.shares := congrArg Shelf.shares hshelf
    unfold Host.owed
    rw [hshares]
    omega

/-- A watchful program needs to be given nothing. -/
theorem of_watchful {n : Int} (hw : Watchful n h h') : Entrusted [] [] h h' := by
  refine of_same_shelf hw.shelf hw.running (fun ht => ?_) fun k => ?_
  · obtain ⟨new, hnew, hright⟩ := hw.wrote
    exact ⟨new, hnew, hright ht⟩
  · have hspent := hw.spent k
    rw [List.count_nil]
    omega

/-- References that are released in the generation they belong to. -/
theorem of_releases (hshelf : h'.shelf = h.shelf) (hr : Releases ks h h')
    (hup : ∀ k ∈ ks, h.lifecycle.up? = some k.generation) : Entrusted ks [] h h' := by
  refine of_same_shelf hshelf hr.running (fun ht => ⟨_, hr.diary, fun r hmem => ?_⟩)
    fun k => Int.le_of_eq (hr.spent k)
  obtain ⟨k, hk, rfl⟩ := List.mem_map.mp hmem
  show h.world.running = some k.generation
  rw [ht, hup k hk]

/-- Nothing is released, and references are put into the queue. -/
theorem of_queue (hshelf : h'.shelf = h.shelf) (hworld : h'.world = h.world)
    (hwaiting : ∀ k, h'.waiting.count k ≤ h.waiting.count k + ks.count k) :
    Entrusted ks [] h h' := by
  refine of_same_shelf hshelf (congrArg Watched.running hworld)
    (fun _ => ⟨[], ?_, fun _ hr => nomatch hr⟩) fun k => ?_
  · rw [hworld, List.append_nil]
  · have hqueued := hwaiting k
    unfold Host.spent Host.released
    rw [hworld]
    omega

/-- Nothing is released, and what stands on the shelf changes. -/
theorem of_shelf (hworld : h'.world = h.world) (hwaiting : h'.waiting = h.waiting)
    (hlife : h'.lifecycle = h.lifecycle) (htidy : h.shelf.Tidy → h'.shelf.Tidy)
    (hcurrent : (∀ k ∈ put, k.generation = h.lifecycle.generation) → h.shelf.Tidy →
      h.shelf.Current → h'.shelf.Current)
    (hkept : h.shelf.Tidy → ∀ k, (Shares.kept h'.shares).count k ≤
      (Shares.kept h.shares).count k + ks.count k) : Entrusted ks put h h' where
  truthful ht := by
    unfold Host.Truthful at ht ⊢
    rw [hworld, hlife, ht]
  tidy := htidy
  current := hcurrent
  wrote _ := by
    refine ⟨[], ?_, fun _ hr => nomatch hr⟩
    rw [hworld, List.append_nil]
  owed ht k := by
    have hless := hkept ht k
    unfold Host.owed Host.spent Host.released
    rw [hworld, hwaiting]
    omega

end Entrusted

/-! ## Bindings -/

theorem disposal_eq_release {current : Option (Stage × Nat)} {generation : Nat}
    (hd : disposal current generation = .release) : current = some (.running, generation) := by
  unfold disposal at hd
  split at hd
  next => cases hd
  next g =>
    split at hd
    next heq => rw [heq]
    next => cases hd
  next => cases hd

/-- A binding that ends is released in its generation, or waits, or is forgotten. -/
theorem Binding.drop_ok {busy : Bool} {b : Binding} {u : Unit}
    (hr : (b.drop G.watched busy).run h = .ok (u, h')) : h'.shelf = h.shelf ∧
    ((h.lifecycle.up? = some b.generation ∧ Releases [b.kept] h h') ∨
      (h'.world = h.world ∧ ∀ k, h'.waiting.count k ≤ h.waiting.count k + [b.kept].count k)) := by
  unfold Binding.drop at hr
  rw [Bridge.run_get_bind] at hr
  dsimp only at hr
  cases hd : disposal (if busy then none else some (h.lifecycle.stage, h.lifecycle.generation))
      b.generation with
  | release =>
    rw [hd] at hr
    -- a release is decided only over a lifecycle that could be read, and that was of this generation
    refine ⟨act_fixed Standing.shelf _ h u h' hr, .inl ⟨?_, releaseKept_ok hr⟩⟩
    have hcurrent := disposal_eq_release hd
    cases busy with
    | true => cases hcurrent
    | false =>
      obtain ⟨hstage, hgen⟩ := Prod.mk.inj (Option.some.inj hcurrent)
      rw [Lifecycle.up?, if_pos hstage, hgen]
  | postpone =>
    rw [hd] at hr
    cases hr
    refine ⟨rfl, .inr ⟨rfl, fun k => ?_⟩⟩
    exact Nat.le_of_eq List.count_append
  | forget =>
    rw [hd] at hr
    cases hr
    exact ⟨rfl, .inr ⟨rfl, fun k => Nat.le_add_right _ _⟩⟩

theorem Binding.drop_entrusted {busy : Bool} {b : Binding} {u : Unit}
    (hr : (b.drop G.watched busy).run h = .ok (u, h')) : Entrusted [b.kept] [] h h' := by
  obtain ⟨hshelf, ⟨hup, released⟩ | ⟨hworld, hwaiting⟩⟩ := Binding.drop_ok hr
  · refine Entrusted.of_releases hshelf released fun k hk => ?_
    rw [List.mem_singleton.mp hk, hup]
    rfl
  · exact Entrusted.of_queue hshelf hworld hwaiting

namespace Ticket

variable {t : Ticket} {s : Share}

/-- Another number of owners is nothing that anyone is entrusted with. -/
theorem setShare_entrusted (hs : h.shares.lookup t.serial = some s) (owners : Nat) {u : Unit}
    (hr : (t.setShare { s with owners := owners }).run h = .ok (u, h')) : Entrusted [] [] h h' := by
  rw [setShare_run] at hr
  cases hr
  refine Entrusted.of_shelf rfl rfl rfl (fun ht => ?_) (fun _ _ hc => ?_) (fun ht k => ?_)
  · exact ht.fewer h.lifecycle Shares.keys_set_sublist fun r hr =>
      .inr ⟨r, hr, List.Sublist.refl _⟩
  · have hbinding : ({ s with owners := owners } : Share).binding = s.binding := rfl
    exact hc.fewer (fun i share hshare => Shares.lookup_set_binding hs hbinding hshare)
      fun r hr => ⟨r, hr, List.Sublist.refl _⟩
  · exact Nat.le_of_eq (congrArg (List.count k) (Shares.kept_set ht.keys hs owners))

theorem clone_entrusted {t' : Ticket} (hr : (t.clone).run h = .ok (t', h')) : Entrusted [] [] h h' := by
  unfold clone at hr
  obtain ⟨found, h₁, hshare, hrest⟩ := Bridge.bind_ok hr
  cases hshare
  cases hs : h.shares.lookup t.serial with
  | none =>
    rw [hs] at hrest
    cases hrest
    exact Entrusted.refl _
  | some s =>
    rw [hs] at hrest
    obtain ⟨u, h₂, hset, hp⟩ := Bridge.bind_ok hrest
    obtain ⟨-, rfl⟩ := Bridge.pure_ok hp
    exact setShare_entrusted hs _ hset

/-- The last ticket gives the reference that its record held to the end of the binding. -/
theorem drop_entrusted {busy : Bool} {u : Unit} (hr : (t.drop G.watched busy).run h = .ok (u, h')) :
    Entrusted [] [] h h' := by
  unfold drop at hr
  obtain ⟨found, h₁, hshare, hrest⟩ := Bridge.bind_ok hr
  cases hshare
  cases hs : h.shares.lookup t.serial with
  | none =>
    rw [hs] at hrest
    obtain ⟨-, rfl⟩ := Bridge.pure_ok hrest
    exact Entrusted.refl _
  | some s =>
    rw [hs] at hrest
    dsimp only at hrest
    by_cases howners : s.owners ≤ 1
    · rw [if_pos howners] at hrest
      obtain ⟨v, h₁, hremove, hdrop⟩ := Bridge.bind_ok hrest
      rw [removeShare_run] at hremove
      cases hremove
      have dropped := Binding.drop_entrusted hdrop
      obtain ⟨hshelf, -⟩ := Binding.drop_ok hdrop
      -- the record goes first, and its reference is then what the binding's end is entrusted with
      have herased : h.shelf.Tidy →
          ({ h with shares := Shares.erase t.serial h.shares } : Host (Watched σ)).shelf.Tidy :=
        fun ht => ht.fewer h.lifecycle Shares.keys_erase_sublist fun r hr =>
          .inr ⟨r, hr, List.Sublist.refl _⟩
      refine ⟨dropped.truthful, fun ht => dropped.tidy (herased ht), fun _ _ hc => ?_,
        dropped.wrote, fun ht k => ?_⟩
      · rw [hshelf]
        refine hc.fewer (fun i share hshare => ?_) fun r hr => ⟨r, hr, List.Sublist.refl _⟩
        exact ⟨share, Shares.lookup_erase hshare, rfl⟩
      · have howed := dropped.owed (herased ht) k
        have hkeys : (h.shares.map Prod.fst).Nodup := ht.keys
        have hless := Shares.count_kept_erase hkeys hs k
        have hsame : ({ h with shares := Shares.erase t.serial h.shares } : Host (Watched σ)).owed k =
            h.spent k + (Shares.kept (Shares.erase t.serial h.shares)).count k := rfl
        have hwhole : h.owed k = h.spent k + (Shares.kept h.shares).count k := rfl
        rw [List.count_nil]
        omega
    · rw [if_neg howners] at hrest
      exact setShare_entrusted hs _ hrest

end Ticket

/-! ## Starting -/

namespace Interpreter

theorem booted_entrusted (hdown : h.lifecycle.up? = none)
    (hfailed : G.watched.isUp (booted G.watched h).world = false) :
    Entrusted [] [] h (booted G.watched h) where
  truthful _ := by
    show (if G.isUp _ then some _ else none) = h.lifecycle.up?
    rw [hdown, if_neg]
    intro hup
    cases hfailed.symm.trans hup
  tidy ht := ht
  current _ _ hc := hc
  wrote _ := ⟨[], (List.append_nil _).symm, fun _ hr => nomatch hr⟩
  owed _ k := by
    rw [List.count_nil]
    exact Int.le_of_eq (Int.add_zero (h.owed k)).symm

/-- A generation begins with an empty registry. -/
theorem launched_entrusted (hup : G.watched.isUp (booted G.watched h).world = true) :
    Entrusted [] [] h (launched G.watched thread config h) where
  truthful _ := by
    show (if G.isUp _ then some _ else none) = some (h.lifecycle.generation + 1)
    exact if_pos hup
  tidy ht := by
    refine ht.fewer _ (List.Sublist.refl _) fun r hr => .inl ?_
    cases hr
    rfl
  current _ _ _ := by
    intro r hr e he
    cases hr
    cases he
  wrote _ := ⟨[], (List.append_nil _).symm, fun _ hr => nomatch hr⟩
  owed _ k := by
    rw [List.count_nil]
    exact Int.le_of_eq (Int.add_zero (h.owed k)).symm

theorem launch_entrusted {r : Except Failure Unit}
    (hr : (launch G.watched thread config).run.run h = .ok (r, h')) : Entrusted [] [] h h' := by
  cases hf : startRefusal config h with
  | some f =>
    rw [launch_run_of_refused thread hf] at hr
    cases hr
    exact Entrusted.of_watchful (n := 0) (Watchful.of_eq rfl rfl rfl)
  | none =>
    have hstage : h.lifecycle.stage ≠ .running := by
      intro hs
      unfold startRefusal at hf
      rw [hs] at hf
      cases hf
    by_cases hup : G.watched.isUp h.world = true
    · rw [launch_run_of_up thread hf hup] at hr
      cases hr
      exact Entrusted.refl _
    · have hdown : G.watched.isUp h.world = false := by simpa using hup
      cases hbooted : G.watched.isUp (booted G.watched h).world with
      | false =>
        rw [launch_run_of_failed thread hf hdown hbooted] at hr
        cases hr
        exact booted_entrusted (if_neg hstage) hbooted
      | true =>
        rw [launch_run_of_launches thread (launches_iff.mpr ⟨hf, hdown, hbooted⟩)] at hr
        cases hr
        exact launched_entrusted hbooted

theorem start_entrusted {r : Except Failure Unit}
    (hr : (start G.watched thread config).run.run h = .ok (r, h')) : Entrusted [] [] h h' := by
  unfold start at hr
  rcases Attempt.bind_cases hr with ⟨f, rfl, hlaunch⟩ | ⟨u, h₁, hlaunch, hpaths⟩
  · exact launch_entrusted hlaunch
  · have appended := appendPaths_sessional (watchful_sessional G) config.searchPaths h₁ r h' hpaths
    exact (launch_entrusted hlaunch).trans (Entrusted.of_watchful appended)

end Interpreter

/-! ## Registering -/

namespace Registry

theorem insert_entrusted {b : Binding} {x : Except Failure Int}
    (hx : (insert G.watched b).run.run h = .ok (x, h')) : Entrusted [b.kept] [b.kept] h h' := by
  -- a binding that is not registered is dropped, and a drop looks at its generation
  have dropped : ∀ {f : Failure}, (b.drop G.watched false >>= fun _ => pure (.error f)).run h =
      .ok (x, h') → Entrusted [b.kept] [b.kept] h h' := by
    intro f hd
    obtain ⟨u, h₁, hdrop, hp⟩ := Bridge.bind_ok hd
    obtain ⟨rfl, rfl⟩ := Bridge.pure_ok hp
    have ended := Binding.drop_entrusted hdrop
    exact ⟨ended.truthful, ended.tidy, fun _ => ended.current (fun _ hmem => nomatch hmem),
      ended.wrote, ended.owed⟩
  cases hr : h.registry with
  | none =>
    change (get >>= _ : Bridge (Watched σ) _).run h = _ at hx
    rw [Bridge.run_get_bind, hr] at hx
    exact dropped hx
  | some r =>
    by_cases hid : r.nextId < idBound
    · rw [insert_run_of_open b hr hid] at hx
      cases hx
      refine Entrusted.of_shelf rfl rfl rfl (fun ht => ht.insert hr b) (fun hb ht hc => ?_)
        (fun _ k => ?_)
      · exact hc.insert ht hr (hb b.kept List.mem_cons_self)
      · show (Shares.kept (h.shares ++ [(h.nextSerial, ⟨b, 1⟩)])).count k ≤ _
        unfold Shares.kept
        rw [List.map_append, List.count_append]
        exact Nat.le_refl _
    · change (get >>= _ : Bridge (Watched σ) _).run h = _ at hx
      rw [Bridge.run_get_bind, hr] at hx
      dsimp only at hx
      rw [if_neg hid] at hx
      exact dropped hx

theorem find_entrusted {id : Int} {x : Except Failure Ticket}
    (hx : (find id).run.run h = .ok (x, h')) : Entrusted [] [] h h' := by
  cases hr : h.registry with
  | none =>
    unfold find at hx
    rw [whileOpen_run_of_closed hr] at hx
    cases hx
    exact Entrusted.refl _
  | some r =>
    cases hid : r.entries.lookup id with
    | none =>
      rw [find_run_of_unknown hr hid] at hx
      cases hx
      exact Entrusted.refl _
    | some t =>
      unfold find at hx
      rw [whileOpen_run_of_open hr, hid] at hx
      obtain ⟨t', -, hclone⟩ := Attempt.lift_ok hx
      exact Ticket.clone_entrusted hclone

theorem remove_entrusted {id : Int} {x : Except Failure Ticket}
    (hx : (remove id).run.run h = .ok (x, h')) : Entrusted [] [] h h' := by
  rcases remove_ok hx with ⟨r, t, hr, -, -, rfl⟩ | ⟨-, rfl⟩
  · have hless : ∀ r', some (⟨r.entries.filter fun e => e.1 ≠ id, r.nextId⟩ : Registry) = some r' →
        ∃ r'', h.registry = some r'' ∧ r'.entries.Sublist r''.entries := by
      intro r' hr'
      cases hr'
      exact ⟨r, hr, List.filter_sublist⟩
    refine Entrusted.of_shelf rfl rfl rfl (fun ht => ?_) (fun _ _ hc => ?_) (fun _ _ => Nat.le_refl _)
    · exact ht.fewer h.lifecycle (List.Sublist.refl _) fun r' hr' => .inr (hless r' hr')
    · exact hc.fewer (fun i share hshare => ⟨share, hshare, rfl⟩) hless
  · exact Entrusted.refl _

end Registry

/-! ## Stopping -/

/-- What the registry gives up to a stop is of the running generation. -/
def Host.StopsClean (h : Host σ) : Prop :=
  h.lifecycle.stage = .running → ∀ k ∈ h.due, k.generation = h.lifecycle.generation

theorem Host.stopsClean_of_current {h : Host σ} (hc : h.shelf.Current) : h.StopsClean := by
  intro _ k hk
  unfold Host.due at hk
  cases hr : h.registry with
  | none =>
    rw [hr] at hk
    cases hk
  | some r =>
    rw [hr] at hk
    obtain ⟨e, he, hdue⟩ := List.mem_filterMap.mp hk
    unfold Ticket.due? at hdue
    cases hs : h.shares.lookup e.2.serial with
    | none =>
      rw [hs] at hdue
      cases hdue
    | some s =>
      rw [hs] at hdue
      dsimp only at hdue
      split at hdue
      next =>
        cases hdue
        exact hc r hr e he s hs
      next => cases hdue

/-- References that are released one after the other are released as the diary has it. -/
theorem Releases.of_all (busy : Bool) (ks : List Kept) (h : Host (Watched σ)) :
    Releases ks h (h.after (G.watched.releaseKeptAll busy ks h.world)) := by
  induction ks generalizing h with
  | nil => exact Releases.of_eq rfl (List.append_nil _)
  | cons k ks ih =>
    unfold Guest.releaseKeptAll
    rw [Host.after_andThen]
    exact (releaseKept_ok (Bridge.act_run (G.watched.releaseKept busy k) h)).trans (ih _)

/-- The registry goes away with what it gave up. -/
theorem Registry.destroy_ok {u : Unit} (ht : h.shelf.Tidy)
    (hr : (destroy G.watched).run h = .ok (u, h')) :
    Releases h.due h h' ∧ h'.shelf.Tidy ∧
    ∀ k, (Shares.kept h'.shares).count k + h.due.count k ≤ (Shares.kept h.shares).count k := by
  obtain ⟨l, hrun⟩ := destroy_run (G := G.watched) ht
  rw [hrun] at hr
  cases hr
  have released := Releases.of_all (G := G) true h.due h
  refine ⟨⟨released.running, released.diary, released.spent⟩, ?_, ?_⟩
  · exact ht.fewer h.lifecycle keys_letGoAll_sublist fun r' hr' => nomatch hr'
  · rw [Host.due_eq]
    exact count_kept_letGoAll ht.keys (Host.serials_nodup ht)

namespace Interpreter

/-- When the interpreter is taken down, nothing that the bridge keeps is touched. -/
theorem finalize_ok {life : Lifecycle} {u : Unit}
    (hr : (finalize G.watched life thread).run h = .ok (u, h')) :
    h'.Truthful ∧ h'.shelf = ⟨⟨.finalized, h.lifecycle.generation, none⟩, h.registry, h.shares,
      h.nextSerial⟩ ∧ h'.world.diary = h.world.diary ∧ ∀ k, h'.spent k = h.spent k := by
  unfold finalize at hr
  rw [Bridge.run_modify_bind, Bridge.run_bind (warnIf_run _ _ _),
    Bridge.run_bind (Bridge.act_run _ _), Bridge.run_modify_bind,
    Bridge.run_bind (warnIf_run _ _ _)] at hr
  cases hr
  refine ⟨rfl, rfl, rfl, fun k => ?_⟩
  simp only [Host.spent, Host.released, Host.after, Guest.watched, Watched.act, List.count_append]
  omega

/-- A stop releases what the registry gives up, in whatever generation, and what waits for the
running one. -/
theorem stop_ok {r : Except Failure Unit} (hs : h.lifecycle.stage = .running) (ht : h.shelf.Tidy)
    (hr : (stop G.watched thread).run.run h = .ok (r, h')) :
    h'.Truthful ∧ h'.shelf.Tidy ∧
    (∃ waited : List Kept, (∀ k ∈ waited, k.generation = h.lifecycle.generation) ∧
      h'.world.diary = h.world.diary ++ (h.due ++ waited).map (⟨·, h.world.running⟩)) ∧
    ∀ k, h'.owed k ≤ h.owed k := by
  unfold stop at hr
  rw [Attempt.run_get_bind] at hr
  dsimp only at hr
  rw [if_neg (fun hne => hne hs)] at hr
  rcases Attempt.bind_cases hr with ⟨f, rfl, hgo⟩ | ⟨u, h₂, hgo, hrest⟩
  · obtain ⟨_, hne, -⟩ := Attempt.lift_ok hgo
    cases hne
  obtain ⟨_, -, hgo⟩ := Attempt.lift_ok hgo
  obtain ⟨_, -, hfin⟩ := Attempt.lift_ok hrest
  -- first the registry, then the queue, then the interpreter itself
  obtain ⟨u, h₁, hdestroy, hsettle⟩ := Bridge.bind_ok hgo
  obtain ⟨released, htidy, hkept⟩ := Registry.destroy_ok ht hdestroy
  obtain ⟨hup, hdiary, hspent⟩ := settleWaiting_ok hsettle
  have hshelf : h₂.shelf = h₁.shelf := Session.settleWaiting_obeys (fixed_composes _)
    (fun _ => act_fixed Standing.shelf _) (fun _ => rfl) h₁ _ h₂ hsettle
  obtain ⟨htruthful, hend, hclosed, hfinal⟩ := finalize_ok hfin
  refine ⟨htruthful, ?_,
    ⟨h₁.waiting.filter (·.generation = h.lifecycle.generation), fun k hk => ?_, ?_⟩, fun k => ?_⟩
  · rw [hend]
    rw [← hshelf] at htidy
    exact htidy.fewer _ (List.Sublist.refl _) fun r hr => .inr ⟨r, hr, List.Sublist.refl _⟩
  · simpa using (List.mem_filter.mp hk).2
  · rw [hclosed, hdiary, released.diary, released.running, List.map_append, List.append_assoc]
  · have hfirst := released.spent k
    have hthen := hspent k
    have hlast := hfinal k
    have hless := hkept k
    have hshares : h'.shares = h₁.shares := by
      have hsame : h'.shares = h₂.shares := congrArg Shelf.shares hend
      rw [hsame]
      exact congrArg Shelf.shares hshelf
    unfold Host.owed
    rw [hshares]
    omega

/-- All that a stop releases is of the running generation exactly if what the registry gives up is.
-/
theorem stop_right_iff {r : Except Failure Unit} (htrue : h.Truthful) (ht : h.shelf.Tidy)
    (hr : (stop G.watched thread).run.run h = .ok (r, h')) :
    ∃ new, h'.world.diary = h.world.diary ++ new ∧ ((∀ r ∈ new, r.Right) ↔ h.StopsClean) := by
  by_cases hs : h.lifecycle.stage = .running
  · obtain ⟨-, -, ⟨waited, hwaited, hdiary⟩, -⟩ := stop_ok hs ht hr
    have hup : h.world.running = some h.lifecycle.generation := by
      rw [htrue, Lifecycle.up?, if_pos hs]
    refine ⟨_, hdiary, ⟨fun hright _ k hk => ?_, fun hclean r hmem => ?_⟩⟩
    · have hmem : (⟨k, h.world.running⟩ : Release) ∈ (h.due ++ waited).map (⟨·, h.world.running⟩) :=
        List.mem_map_of_mem (List.mem_append_left _ hk)
      have hsame : h.world.running = some k.generation := hright _ hmem
      rw [hup] at hsame
      exact (Option.some.inj hsame).symm
    · obtain ⟨k, hk, rfl⟩ := List.mem_map.mp hmem
      have hgen : k.generation = h.lifecycle.generation := by
        rcases List.mem_append.mp hk with hk | hk
        · exact hclean hs k hk
        · exact hwaited k hk
      show h.world.running = some k.generation
      rw [hup, hgen]
  · rw [stop_run_of_not_running hs] at hr
    cases hr
    refine ⟨[], (List.append_nil _).symm, fun _ hrunning => absurd hrunning hs, ?_⟩
    intro _ r hmem
    cases hmem

/-- The other accounts are kept. -/
theorem stop_keeps {r : Except Failure Unit} (htrue : h.Truthful) (ht : h.shelf.Tidy)
    (hr : (stop G.watched thread).run.run h = .ok (r, h')) :
    h'.Truthful ∧ h'.shelf.Tidy ∧ (h.shelf.Current → h'.shelf.Current) ∧
    ∀ k, h'.owed k ≤ h.owed k := by
  by_cases hs : h.lifecycle.stage = .running
  · obtain ⟨htruthful, htidy, -, howed⟩ := stop_ok hs ht hr
    refine ⟨htruthful, htidy, fun _ reg hreg => ?_, howed⟩
    obtain ⟨h₁, hrun, hstation⟩ := stop_run_of_running G.watched thread hs
    rw [hrun] at hr
    cases hr
    -- nothing is registered any more, so all of it is current
    have hnone : h'.registry = none := congrArg Station.registry hstation
    cases hnone.symm.trans hreg
  · rw [stop_run_of_not_running hs] at hr
    cases hr
    exact ⟨htrue, ht, fun hc => hc, fun _ => Int.le_refl _⟩

end Interpreter

end Embedder
