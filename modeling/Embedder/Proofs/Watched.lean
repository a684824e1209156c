import Embedder.Proofs.Shares

/-!
# Guests under watch

A watched guest does what the guest does, and keeps a diary: of each kept reference that the bridge
releases it writes down the reference and the generation that is up at that moment. It also writes
down what Python code put into the queue. The bridge cannot look into the diary, so what a diary can
say of runs with a watched guest is what the bridge does with any guest.

`Watchful` is the conduct of a program that releases a kept reference only in the generation it
belongs to, and takes it out of the queue for that. Everything that runs inside sessions is
watchful, the entry of a session included (`watchful_sessional`).
-/

namespace Embedder

variable {σ α : Type} {G : Guest σ}

/-- A release of a kept reference. -/
structure Release where
  kept : Kept
  /-- The generation that was up. -/
  running : Option Nat
  deriving DecidableEq, Repr

/-- The release happened inside the interpreter that the reference belongs to. -/
def Release.Right (r : Release) : Prop := r.running = some r.kept.generation

/-- The state of a guest under watch. -/
structure Watched (σ : Type) where
  inner : σ
  /-- The generation that is up. -/
  running : Option Nat
  /-- The releases, the oldest first. -/
  diary : List Release
  /-- The references that Python code put into the queue. -/
  announced : List Kept

namespace Watched

/-- A guest that was not watched before and that the bridge has not brought up. -/
def begin (world : σ) : Watched σ := ⟨world, none, [], []⟩

/-- The guest acts, and what its Python code announces is written down. -/
def act (f : σ → Effect σ α) (w : Watched σ) : Effect (Watched σ) α :=
  let e := f w.inner
  ⟨e.value, { w with inner := e.world, announced := w.announced ++ deferredIn e.notices }, e.notices⟩

end Watched

/-- The guest under watch. -/
def Guest.watched (G : Guest σ) : Guest (Watched σ) where
  isUp w := G.isUp w.inner
  boot n w :=
    let inner := G.boot n w.inner
    { w with inner := inner, running := if G.isUp inner then some n else none }
  shutdown w :=
    let e := Watched.act G.shutdown w
    { e with world := { e.world with running := none } }
  retain o w := { w with inner := G.retain o w.inner }
  release o := Watched.act (G.release o)
  releaseKept busy k w :=
    Watched.act (G.releaseKept busy k) { w with diary := w.diary ++ [⟨k, w.running⟩] }
  refcount o w := G.refcount o w.inner
  importModule name := Watched.act (G.importModule name)
  addModule name := Watched.act (G.addModule name)
  namespaceOf o := Watched.act (G.namespaceOf o)
  lookup o name w := G.lookup o name w.inner
  isCallable o w := G.isCallable o w.inner
  getAttr o name := Watched.act (G.getAttr o name)
  length o := Watched.act (G.length o)
  str o := Watched.act (G.str o)
  text o := Watched.act (G.text o)
  newText s := Watched.act (G.newText s)
  joinTexts separator texts := Watched.act (G.joinTexts separator texts)
  newList n := Watched.act (G.newList n)
  newTuple n := Watched.act (G.newTuple n)
  setListItem list i item := Watched.act (G.setListItem list i item)
  setTupleItem tuple i item := Watched.act (G.setTupleItem tuple i item)
  append list item := Watched.act (G.append list item)
  ofFloat d := Watched.act (G.ofFloat d)
  ofInt n := Watched.act (G.ofInt n)
  ofBool b := Watched.act (G.ofBool b)
  trueObj := G.trueObj
  falseObj := G.falseObj
  isFloat o w := G.isFloat o w.inner
  toFloat o := Watched.act (G.toFloat o)
  toInt o := Watched.act (G.toInt o)
  iterator o := Watched.act (G.iterator o)
  call f args := Watched.act (G.call f args)
  searchPath w := G.searchPath w.inner
  normalize p := Watched.act (G.normalize p)
  isStopIteration p w := G.isStopIteration p w.inner
  print p := Watched.act (G.print p)

theorem Guest.Act.of_watched {f : Watched σ → Effect (Watched σ) α} (hf : G.watched.Act f) :
    ∃ g : σ → Effect σ α, f = Watched.act g := by
  cases hf <;> exact ⟨_, rfl⟩

/-! ## What the books and the diary say -/

/-- The generation that is up, by the lifecycle. -/
def Lifecycle.up? (life : Lifecycle) : Option Nat :=
  if life.stage = .running then some life.generation else none

section
variable {h h' h₁ h₂ : Host (Watched σ)} {k : Kept} {ks ls : List Kept}

/-- The lifecycle tells the generation that is up. -/
def Host.Truthful (h : Host (Watched σ)) : Prop := h.world.running = h.lifecycle.up?

/-- How often a reference was released, in or out of its generation. -/
def Host.released (k : Kept) (h : Host (Watched σ)) : Nat := (h.world.diary.map Release.kept).count k

/-- How often a reference was released or waits for it, less what Python code put into the queue. -/
def Host.spent (k : Kept) (h : Host (Watched σ)) : Int :=
  h.released k + h.waiting.count k - h.world.announced.count k

/-- The references were released one after the other. -/
structure Releases (ks : List Kept) (h h' : Host (Watched σ)) : Prop where
  running : h'.world.running = h.world.running
  diary : h'.world.diary = h.world.diary ++ ks.map (⟨·, h.world.running⟩)
  spent : ∀ k, h'.spent k = h.spent k + ks.count k

namespace Releases

theorem refl (h : Host (Watched σ)) : Releases [] h h := ⟨rfl, by simp, fun k => by simp⟩

theorem trans (hk : Releases ks h h₁) (hl : Releases ls h₁ h₂) : Releases (ks ++ ls) h h₂ := by
  refine ⟨hl.running.trans hk.running, ?_, fun k => ?_⟩
  · rw [hl.diary, hk.diary, hk.running, List.map_append, List.append_assoc]
  · have hfirst := hk.spent k
    have hthen := hl.spent k
    rw [List.count_append]
    omega

/-- Nothing is released in what the diary does not see. -/
theorem of_eq (hworld : h'.world = h.world) (hwaiting : h'.waiting = h.waiting) :
    Releases [] h h' := by
  refine ⟨congrArg Watched.running hworld, ?_, fun k => ?_⟩
  · rw [hworld]
    simp
  · unfold Host.spent Host.released
    rw [hworld, hwaiting]
    simp

end Releases

/-- What Python code announces waits in the queue. -/
theorem Watched.act_ok {f : σ → Effect σ α} {a : α}
    (hr : (Bridge.act (Watched.act f)).run h = .ok (a, h')) : Releases [] h h' := by
  obtain ⟨-, rfl⟩ := Bridge.act_ok hr
  refine ⟨rfl, (List.append_nil _).symm, fun k => ?_⟩
  simp only [Host.spent, Host.released, Host.after, Watched.act, List.count_append, List.count_nil]
  omega

theorem releaseKept_ok {busy : Bool} {u : Unit}
    (hr : (Bridge.act (G.watched.releaseKept busy k)).run h = .ok (u, h')) :
    Releases [k] h h' := by
  obtain ⟨-, rfl⟩ := Bridge.act_ok hr
  refine ⟨rfl, rfl, fun j => ?_⟩
  simp only [Host.spent, Host.released, Host.after, Guest.watched, Watched.act, List.count_append,
    List.map_append, List.map_cons, List.map_nil]
  omega

/-- Settling releases the references of one generation. -/
theorem settle_ok {busy : Bool} {generation : Nat} :
    ∀ {ks : List Kept} {h h' : Host (Watched σ)} {u : Unit},
      (Session.settle G.watched busy generation ks).run h = .ok (u, h') →
      Releases (ks.filter (·.generation = generation)) h h' := by
  intro ks
  induction ks with
  | nil =>
    intro h h' u hr
    obtain ⟨-, rfl⟩ := Bridge.pure_ok hr
    exact Releases.refl _
  | cons k ks ih =>
    intro h h' u hr
    obtain ⟨v, h₁, hone, hrest⟩ := Bridge.bind_ok hr
    unfold Session.settleOne at hone
    -- a reference of another generation is forgotten, so the filter leaves it out
    by_cases hk : k.generation = generation
    · rw [if_pos hk] at hone
      rw [List.filter_cons_of_pos (by simpa using hk)]
      exact (releaseKept_ok hone).trans (ih hrest)
    · rw [if_neg hk] at hone
      obtain ⟨-, rfl⟩ := Bridge.pure_ok hone
      rw [List.filter_cons_of_neg (by simpa using hk)]
      exact ih hrest

/-- What waited is released if it is of the given generation, and the queue spends no reference that
was not in it. -/
theorem settleWaiting_ok {busy : Bool} {generation : Nat} {u : Unit}
    (hr : (Session.settleWaiting G.watched busy generation).run h = .ok (u, h')) :
    h'.world.running = h.world.running ∧
    h'.world.diary = h.world.diary ++
      (h.waiting.filter (·.generation = generation)).map (⟨·, h.world.running⟩) ∧
    ∀ k, h'.spent k ≤ h.spent k := by
  unfold Session.settleWaiting at hr
  rw [Bridge.run_get_bind, Bridge.run_modify_bind] at hr
  have settled := settle_ok hr
  refine ⟨settled.running, settled.diary, fun k => ?_⟩
  have hspent := settled.spent k
  have hfewer := List.Sublist.count_le k
    (List.filter_sublist (l := h.waiting) (p := fun k => decide (k.generation = generation)))
  -- the queue is emptied before any of it is released, so each reference is counted once
  have hemptied : ({ h with waiting := [] } : Host (Watched σ)).spent k =
      h.spent k - h.waiting.count k := by
    simp only [Host.spent, Host.released, List.count_nil]
    omega
  omega

end

/-! ## The conduct -/

/-- Kept references are released only in the generation they belong to, and if they waited for it.
-/
structure Watchful (_n : Int) (h h' : Host (Watched σ)) : Prop where
  shelf : h'.shelf = h.shelf
  running : h'.world.running = h.world.running
  wrote : ∃ new, h'.world.diary = h.world.diary ++ new ∧ (h.Truthful → ∀ r ∈ new, r.Right)
  spent : ∀ k, h'.spent k ≤ h.spent k

namespace Watchful

variable {h h' h₁ h₂ h₃ : Host (Watched σ)} {m n : Int}

theorem lifecycle (hw : Watchful n h h') : h'.lifecycle = h.lifecycle :=
  congrArg Shelf.lifecycle hw.shelf

theorem truthful (hw : Watchful n h h') (ht : h.Truthful) : h'.Truthful := by
  unfold Host.Truthful at ht ⊢
  rw [hw.running, hw.lifecycle, ht]

/-- Nothing is released in what the diary does not see. -/
theorem of_releases (hshelf : h'.shelf = h.shelf) (hr : Releases [] h h') : Watchful n h h' := by
  refine ⟨hshelf, hr.running, ⟨[], hr.diary, fun _ r hmem => nomatch hmem⟩, fun k => ?_⟩
  have hspent := hr.spent k
  rw [List.count_nil] at hspent
  omega

theorem of_eq (hshelf : h'.shelf = h.shelf) (hworld : h'.world = h.world)
    (hwaiting : h'.waiting = h.waiting) : Watchful n h h' :=
  of_releases hshelf (Releases.of_eq hworld hwaiting)

end Watchful

theorem watchful_composes : Conduct.Composes (Watchful (σ := σ)) where
  refl _ := Watchful.of_eq rfl rfl rfl
  trans := by
    rintro m n h₁ h₂ h₃ hm hn
    obtain ⟨xs, hxs, hxright⟩ := hm.wrote
    obtain ⟨ys, hys, hyright⟩ := hn.wrote
    refine ⟨hn.shelf.trans hm.shelf, hn.running.trans hm.running, ⟨xs ++ ys, ?_, fun ht r hr => ?_⟩,
      fun k => Int.le_trans (hn.spent k) (hm.spent k)⟩
    · rw [hys, hxs, List.append_assoc]
    · rcases List.mem_append.mp hr with hr | hr
      · exact hxright ht r hr
      · exact hyright (hm.truthful ht) r hr

theorem watched_act_watchful (f : σ → Effect σ α) :
    (Bridge.act (Watched.act f)).Obeys Watchful fun _ => 0 := by
  intro h a h' hr
  exact Watchful.of_releases (act_fixed Standing.shelf _ h a h' hr) (Watched.act_ok hr)

theorem watchful_inert (G : Guest σ) : Conduct.Inert G.watched Watchful where
  toComposes := watchful_composes
  count _ _ := Watchful.of_eq rfl rfl rfl
  record _ _ := Watchful.of_eq rfl rfl rfl
  -- a reference that is taken is not in the diary, though it is the guest who takes it
  retain _ _ := ⟨rfl, rfl, ⟨[], (List.append_nil _).symm, fun _ _ hmem => nomatch hmem⟩,
    fun _ => Int.le_refl _⟩
  release _ := watched_act_watchful _
  leave _ _ := Watchful.of_eq rfl rfl rfl
  act hf := by
    obtain ⟨g, rfl⟩ := hf.of_watched
    exact watched_act_watchful g

/-- What waits is released when a session begins, and a session begins only while the lifecycle says
that an interpreter is up. -/
theorem watchful_sessional (G : Guest σ) : Conduct.Sessional G.watched Watchful where
  toLawful := (watchful_inert G).lawful
  settle := by
    intro h h' u hrunning hr
    have hshelf : h'.shelf = h.shelf := (fixed_sessional G.watched Standing.shelf).settle hrunning hr
    obtain ⟨hup, hdiary, hspent⟩ := settleWaiting_ok hr
    refine ⟨hshelf, hup, ⟨_, hdiary, fun ht r hmem => ?_⟩, hspent⟩
    -- only what is of the lifecycle's generation is released, and that generation is up
    obtain ⟨k, hk, rfl⟩ := List.mem_map.mp hmem
    have hgen : k.generation = h.lifecycle.generation := by simpa using (List.mem_filter.mp hk).2
    show h.world.running = some k.generation
    rw [ht, Lifecycle.up?, if_pos hrunning, hgen]

end Embedder
