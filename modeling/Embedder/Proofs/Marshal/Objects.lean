import Mathlib.Logic.Function.Basic
import Embedder.Proofs.Marshal.Heap

/-!
# Heaps of any objects

What a list of anything needs of an interpreter's heap. Beside lists there are objects of any other
kind, of which only the references matter that they have, and objects whose end runs code, of which
nothing is said once they end (`Content`). References that are released one after the other take
down what only they kept up (`Store.Releases`).

An object that is there before and after with as many references had no part in it
(`Store.Releases.leaving`), so releases do the same where it is not there at all.
-/

namespace Embedder

/-- What an object is, as far as its references go. -/
inductive Content where
  /-- A list; a slot that was not filled yet is empty. -/
  | list (slots : List (Option Obj))
  /-- Something else, with references to these objects. -/
  | other (refs : List Obj)
  /-- Something whose end runs code of its own. -/
  | finalized
  deriving DecidableEq

/-- The references that an object gives back when it ends, in that order: a list begins with its
last item. There are none to tell where its end runs code. -/
def Content.holds : Content → Option (List Obj)
  | .list slots => some (slots.filterMap id).reverse
  | .other refs => some refs
  | .finalized => none

/-- An object and the number of references to it besides one, or `none` if it never ends. -/
structure Counted where
  content : Content
  spare : Option Nat
  deriving DecidableEq

/-- The objects that there are. -/
abbrev Store := Obj → Option Counted

namespace Store

open Function (update update_self update_of_ne update_idem update_comm)

variable {S S' T : Store} {o l : Obj} {os ps : List Obj} {c b b' : Content} {n : Nat}

/-- All objects but one. -/
def without (S : Store) (l : Obj) : Store := update S l none

theorem without_update {d : Option Counted} : without (update S l d) l = S.without l :=
  update_idem ..

theorem without_of_none (hl : S l = none) : S.without l = S :=
  Function.update_eq_self_iff.mpr hl.symm

/-- References to some objects are released one after the other. An object whose last reference it
was ends, and then it releases what it has. -/
inductive Releases : Store → List Obj → Store → Prop where
  | done (S : Store) : Releases S [] S
  | lasting {S S' : Store} {o : Obj} {os : List Obj} {c : Content} (ho : S o = some ⟨c, none⟩)
      (rest : Releases S os S') : Releases S (o :: os) S'
  | shared {S S' : Store} {o : Obj} {os : List Obj} {c : Content} {n : Nat}
      (ho : S o = some ⟨c, some (n + 1)⟩)
      (rest : Releases (update S o (some ⟨c, some n⟩)) os S') : Releases S (o :: os) S'
  | last {S S' : Store} {o : Obj} {os ps : List Obj} {c : Content} (ho : S o = some ⟨c, some 0⟩)
      (hc : c.holds = some ps) (rest : Releases (update S o none) (ps ++ os) S') :
      Releases S (o :: os) S'

namespace Releases

theorem append (hr : Releases S os T) (hs : Releases T ps S') : Releases S (os ++ ps) S' := by
  induction hr with
  | done => exact hs
  | lasting ho _ ih => exact .lasting ho (ih hs)
  | shared ho _ ih => exact .shared ho (ih hs)
  | last ho hc _ ih =>
    refine .last ho hc ?_
    have hrest := ih hs
    rwa [List.append_assoc] at hrest

/-- What is there in the end was there, and was the same, with no fewer references. -/
theorem origin {s' : Option Nat} (hr : S.Releases os S') (hl : S' l = some ⟨b, s'⟩) :
    ∃ s, S l = some ⟨b, s⟩ ∧ ∀ n' ∈ s', ∃ n ∈ s, n' ≤ n := by
  induction hr with
  | done => exact ⟨s', hl, fun n' hn' => ⟨n', hn', Nat.le_refl n'⟩⟩
  | lasting _ _ ih => exact ih hl
  | @shared S _ o _ c m ho _ ih =>
    obtain ⟨s, hs, hle⟩ := ih hl
    by_cases hlo : l = o
    · subst hlo
      rw [update_self] at hs
      cases hs
      refine ⟨_, ho, fun n' hn' => ⟨m + 1, rfl, ?_⟩⟩
      obtain ⟨_, ⟨⟩, hm⟩ := hle n' hn'
      exact Nat.le_succ_of_le hm
    · rw [update_of_ne hlo] at hs
      exact ⟨s, hs, hle⟩
  | @last S _ o _ _ c ho _ _ ih =>
    obtain ⟨s, hs, hle⟩ := ih hl
    by_cases hlo : l = o
    · subst hlo
      rw [update_self] at hs
      cases hs
    · rw [update_of_ne hlo] at hs
      exact ⟨s, hs, hle⟩

/-- With its last reference an object is gone. -/
theorem gone (hr : S.Releases (o :: os) S') (ho : S o = some ⟨c, some 0⟩) : S' o = none := by
  cases hr with
  | lasting hlasting _ =>
    rw [ho] at hlasting
    cases hlasting
  | shared hshared _ =>
    rw [ho] at hshared
    cases hshared
  | last _ _ rest =>
    cases hthere : S' o with
    | none => rfl
    | some d =>
      obtain ⟨s, hs, -⟩ := rest.origin hthere
      rw [update_self] at hs
      cases hs

/-- What is there before and after with as many references had no part in the releases. -/
theorem leaving (hr : Releases S os S') (hl : S l = some ⟨b, some n⟩)
    (hl' : S' l = some ⟨b', some n⟩) : (S.without l).Releases os (S'.without l) := by
  unfold without
  induction hr with
  | done => exact .done _
  | @lasting S _ o _ c ho _ ih =>
    have hne : o ≠ l := by
      rintro rfl
      rw [ho] at hl
      cases hl
    exact .lasting ((update_of_ne hne ..).trans ho) (ih hl hl')
  | @shared S _ o _ c m ho rest ih =>
    have hne : o ≠ l := by
      rintro rfl
      obtain ⟨_, hm, hle⟩ := rest.origin hl'
      obtain ⟨_, hsome, hle⟩ := hle n rfl
      rw [update_self] at hm
      rw [ho] at hl
      cases hm
      cases hl
      cases hsome
      omega
    refine .shared ((update_of_ne hne ..).trans ho) ?_
    rw [update_comm hne.symm]
    exact ih ((update_of_ne hne.symm ..).trans hl) hl'
  | @last S _ o _ ps c ho hc rest ih =>
    have hne : o ≠ l := by
      rintro rfl
      obtain ⟨_, hm, -⟩ := rest.origin hl'
      rw [update_self] at hm
      cases hm
    refine .last ((update_of_ne hne ..).trans ho) hc ?_
    rw [update_comm hne.symm]
    exact ih ((update_of_ne hne.symm ..).trans hl) hl'

end Releases

end Store

/-- How the objects of a guest are read off its state. -/
structure Estate (σ : Type) where
  store : σ → Store
  /-- The states that can come up. -/
  sound : σ → Prop

/-- The guest counts references as documented. -/
structure Guest.CountsReferences {σ : Type} (G : Guest σ) (M : Estate σ) : Prop where
  release {o : Obj} {S : Store} {w : σ} : M.sound w → (M.store w).Releases [o] S →
    M.sound (G.release o w).world ∧ M.store (G.release o w).world = S
  /-- The counts that are shown are those of the objects. -/
  refcount {o : Obj} {w w' : σ} : M.store w o = M.store w' o → G.refcount o w = G.refcount o w'

/-! ## Heaps of numbers and lists among them -/

/-- What a number, a list or an iterator is as far as its references go. -/
def Thing.content : Thing → Content
  | .list slots => .list slots
  | t => .other t.holds

theorem Thing.content_holds (t : Thing) : t.content.holds = some t.holds := by
  cases t <;> rfl

/-- The objects of a heap of numbers and lists. -/
def Heap.store (H : Heap) : Store := fun o => (H o).map fun c => ⟨c.thing.content, c.spare⟩

namespace Heap

variable {H : Heap} {o : Obj} {c : Cell} {k : Content} {s : Option Nat}

theorem store_of_some (ho : H o = some c) : H.store o = some ⟨c.thing.content, c.spare⟩ :=
  congrArg (Option.map _) ho

theorem some_of_store (ho : H.store o = some ⟨k, s⟩) : ∃ t, H o = some ⟨t, s⟩ ∧ k = t.content := by
  obtain ⟨⟨t, s⟩, hc, heq⟩ := Option.map_eq_some_iff.mp ho
  cases heq
  exact ⟨t, hc, rfl⟩

theorem store_put : (H.put o c).store = Function.update H.store o (some ⟨c.thing.content, c.spare⟩) :=
  Function.comp_update (Option.map _) H o _

theorem store_erase : (H.erase o).store = Function.update H.store o none :=
  Function.comp_update (Option.map _) H o _

/-- Nothing is released but the numbers and lists. -/
theorem releases_of_store {S : Store} {os : List Obj} (hr : H.store.Releases os S) :
    ∃ H', H.Releases os H' ∧ S = H'.store := by
  generalize hH : H.store = S₀ at hr
  induction hr generalizing H with
  | done =>
    exact ⟨H, .done H, hH.symm⟩
  | lasting ho _ ih =>
    subst hH
    obtain ⟨t, hc, rfl⟩ := some_of_store ho
    obtain ⟨H', hrest, heq⟩ := ih rfl
    exact ⟨H', .lasting hc hrest, heq⟩
  | shared ho _ ih =>
    subst hH
    obtain ⟨t, hc, rfl⟩ := some_of_store ho
    obtain ⟨H', hrest, heq⟩ := ih (store_put (c := ⟨t, some _⟩))
    exact ⟨H', .shared hc hrest, heq⟩
  | last ho hc _ ih =>
    subst hH
    obtain ⟨t, ht, rfl⟩ := some_of_store ho
    rw [Thing.content_holds] at hc
    cases hc
    obtain ⟨H', hrest, heq⟩ := ih store_erase
    exact ⟨H', .last ht hrest, heq⟩

/-- What is released of numbers and lists. -/
theorem Releases.store {H' : Heap} {os : List Obj} (hr : H.Releases os H') :
    H.store.Releases os H'.store := by
  induction hr with
  | done => exact .done _
  | lasting ho _ ih => exact .lasting (store_of_some ho) ih
  | shared ho _ ih =>
    rw [store_put] at ih
    exact .shared (store_of_some ho) ih
  | last ho _ ih =>
    rw [store_erase] at ih
    exact .last (store_of_some ho) (Thing.content_holds _) ih

end Heap

end Embedder
