import Embedder.Guest
import Mathlib.Data.List.Forall2
import Mathlib.Logic.Function.Basic

/-!
# Heaps of numbers and lists

What lists of numbers need of an interpreter's heap: objects with a count of their references, among
them numbers, lists and iterators over lists. A reference that is taken to an object and released
again leaves the heap as it was (`Heap.Releases.take`), and so do the references of a list to its
items, which the list releases when it ends (`Heap.Takes.releases`).
-/

namespace Embedder

/-- What an object is, as far as lists of numbers go. -/
inductive Thing where
  | truth (b : Bool)
  | int (n : Int64)
  | float (x : Double)
  /-- A list; a slot that was not filled yet is empty. -/
  | list (slots : List (Option Obj))
  /-- An iterator over a list, and the index of the item that comes next. -/
  | iterator (l : Obj) (index : Nat)
  /-- The bound `__next__` of an iterator. -/
  | next (i : Obj)
  | cls (name : String)
  | text (s : String)
  deriving DecidableEq

/-- The objects that a thing has references to, in the order in which it releases them: a list
begins with its last item. -/
def Thing.holds : Thing → List Obj
  | .list slots => (slots.filterMap id).reverse
  | .iterator l _ => [l]
  | .next i => [i]
  | _ => []

/-- The thing has no references to objects. -/
def Thing.isAtom : Thing → Bool
  | .list _ | .iterator .. | .next _ => false
  | _ => true

theorem Thing.holds_of_isAtom {t : Thing} (ht : t.isAtom) : t.holds = [] := by
  cases t with
  | list | iterator | next => cases ht
  | truth | int | float | cls | text => rfl

/-- A list is no atom. -/
theorem Thing.list_ne_of_isAtom {t : Thing} (ht : t.isAtom) (slots : List (Option Obj)) :
    Thing.list slots ≠ t := by
  rintro rfl
  cases ht

/-- An object on the heap. -/
structure Cell where
  thing : Thing
  /-- The number of references besides one, or `none` for an object that is never ended. -/
  spare : Option Nat
  deriving DecidableEq

/-- One reference more. -/
def Cell.more (c : Cell) : Cell := { c with spare := c.spare.map (· + 1) }

/-- The objects that there are. -/
abbrev Heap := Obj → Option Cell

namespace Heap

variable {H H' K : Heap} {o p : Obj} {t u : Thing} {c d : Cell} {os : List Obj} {ts : List Thing}

/-- The heap with another cell for an object. -/
def put (H : Heap) (o : Obj) (c : Cell) : Heap := Function.update H o (some c)

/-- The heap without an object. -/
def erase (H : Heap) (o : Obj) : Heap := Function.update H o none

@[simp] theorem put_self : H.put o c o = some c := Function.update_self ..

theorem put_of_ne (hne : p ≠ o) : H.put o c p = H p := Function.update_of_ne hne ..

theorem put_put : (H.put o c).put o d = H.put o d := Function.update_idem ..

theorem put_comm (hne : o ≠ p) : (H.put o c).put p d = (H.put p d).put o c :=
  Function.update_comm hne ..

theorem put_eq_self (ho : H o = some c) : H.put o c = H := Function.update_eq_self_iff.mpr ho.symm

/-- What is not there when an object was put is another object, and was not there before. -/
theorem ne_and_eq_of_put_eq_none (hp : H.put o c p = none) : p ≠ o ∧ H p = none := by
  have hne : p ≠ o := by
    rintro rfl
    rw [put_self] at hp
    cases hp
  rw [put_of_ne hne] at hp
  exact ⟨hne, hp⟩

@[simp] theorem erase_self : H.erase o o = none := Function.update_self ..

theorem erase_of_ne (hne : p ≠ o) : H.erase o p = H p := Function.update_of_ne hne ..

/-- An object that was not there before is gone again. -/
theorem erase_put (ho : H o = none) : (H.put o c).erase o = H := by
  unfold put erase
  rw [Function.update_idem]
  exact Function.update_eq_self_iff.mpr ho.symm

/-- One reference more to an object, which is made if it is not there. -/
def take (H : Heap) (o : Obj) (t : Thing) : Heap :=
  H.put o (match H o with
    | none => ⟨t, some 0⟩
    | some c => c.more)

/-- The object is such a thing, or is not there. -/
def Admits (H : Heap) (o : Obj) (t : Thing) : Prop := ∀ c, H o = some c → c.thing = t

theorem admits_of_eq (ho : H o = some c) : H.Admits o c.thing := by
  intro d hd
  rw [ho] at hd
  cases hd
  rfl

theorem take_of_ne (hne : p ≠ o) : H.take o t p = H p := put_of_ne hne

theorem take_of_none (ho : H o = none) : H.take o t = H.put o ⟨t, some 0⟩ := by
  unfold take
  rw [ho]

theorem take_of_some (ho : H o = some c) : H.take o t = H.put o c.more := by
  unfold take
  rw [ho]

theorem take_self (ha : H.Admits o t) : ∃ s, H.take o t o = some ⟨t, s⟩ := by
  unfold take
  rw [put_self]
  cases ho : H o with
  | none => exact ⟨some 0, rfl⟩
  | some c =>
    have hthing : c.thing = t := ha c ho
    subst hthing
    exact ⟨_, rfl⟩

/-- What there is stays what it is. -/
theorem thing_take (ha : H.Admits o t) {s : Option Nat} (hp : H p = some ⟨u, s⟩) :
    ∃ s', H.take o t p = some ⟨u, s'⟩ := by
  by_cases hne : p = o
  · subst hne
    have htu : u = t := ha _ hp
    rw [htu]
    exact take_self ha
  · exact ⟨s, by rw [take_of_ne hne, hp]⟩

theorem take_put_comm (hne : o ≠ p) : (H.put p c).take o t = (H.take o t).put p c := by
  unfold take
  rw [put_of_ne hne]
  exact put_comm hne.symm

theorem take_comm (hne : o ≠ p) : (H.take o t).take p u = (H.take p u).take o t := by
  have hput : (H.take o t).take p u = (H.take p u).put o (match H o with
      | none => ⟨t, some 0⟩
      | some c => c.more) := take_put_comm hne.symm
  have hsame : (H.take p u) o = H o := take_of_ne hne
  rw [hput, ← hsame]
  rfl

/-- Objects that are different things are different. -/
theorem Admits.ne (ha : H.Admits o t) (hp : H p = some c) (htc : c.thing ≠ t) : o ≠ p := by
  rintro rfl
  exact htc (ha c hp)

theorem Admits.of_put (ha : (H.put p c).Admits o t) (hne : o ≠ p) : H.Admits o t := by
  intro d hd
  refine ha d ?_
  rwa [put_of_ne hne]

/-! ## Releases -/

/-- References to some objects are released one after the other. An object whose last reference it
was ends, and then it releases what it has. -/
inductive Releases : Heap → List Obj → Heap → Prop where
  | done (H : Heap) : Releases H [] H
  | lasting {H H' : Heap} {o : Obj} {os : List Obj} {t : Thing} (ho : H o = some ⟨t, none⟩)
      (rest : Releases H os H') : Releases H (o :: os) H'
  | shared {H H' : Heap} {o : Obj} {os : List Obj} {t : Thing} {n : Nat}
      (ho : H o = some ⟨t, some (n + 1)⟩) (rest : Releases (H.put o ⟨t, some n⟩) os H') :
      Releases H (o :: os) H'
  | last {H H' : Heap} {o : Obj} {os : List Obj} {t : Thing} (ho : H o = some ⟨t, some 0⟩)
      (rest : Releases (H.erase o) (t.holds ++ os) H') : Releases H (o :: os) H'

/-- A reference that was taken is released. -/
theorem Releases.take (ht : t.isAtom) (hr : Releases H os H') :
    Releases (H.take o t) (o :: os) H' := by
  unfold Heap.take
  cases ho : H o with
  | none =>
    refine .last put_self ?_
    rw [erase_put ho, Thing.holds_of_isAtom ht]
    exact hr
  | some c =>
    obtain ⟨u, spare⟩ := c
    have hback : H.put o ⟨u, spare⟩ = H := put_eq_self ho
    cases spare with
    | none =>
      refine .lasting put_self ?_
      show Releases (H.put o ⟨u, none⟩) os H'
      rwa [hback]
    | some n =>
      refine .shared put_self ?_
      rwa [put_put, hback]

/-! ## Items of a list -/

/-- From one heap to another, references to some objects were taken, which are these things. -/
inductive Takes (H : Heap) : List Obj → List Thing → Heap → Prop where
  | none : Takes H [] [] H
  | one {os : List Obj} {ts : List Thing} {K : Heap} {o : Obj} {t : Thing}
      (before : Takes H os ts K) (ha : K.Admits o t) (ht : t.isAtom) : Takes H (os ++ [o]) (ts ++ [t]) (K.take o t)

namespace Takes

/-- They are released from the last one on. -/
theorem releases (ht : Takes H os ts K) : Releases K os.reverse H := by
  induction ht with
  | none => exact .done H
  | one before ha hatom ih =>
    rw [List.reverse_concat]
    exact ih.take hatom

/-- Each object is the thing that it was taken for. -/
theorem forall₂ (ht : Takes H os ts K) :
    List.Forall₂ (fun o t => ∃ s, K o = some ⟨t, s⟩) os ts := by
  induction ht with
  | none => exact .nil
  | one before ha hatom ih =>
    refine List.rel_append ?_ (.cons (take_self ha) .nil)
    exact ih.imp fun o t ⟨s, hs⟩ => thing_take ha hs

end Takes

end Heap

end Embedder
