import Embedder.Proofs.Marshal.Heap
import Embedder.Proofs.Marshal.WholeNumbers

/-!
# Guests that treat numbers and lists as documented

What the interpreter's documentation says of the calls that lists of numbers need: numbers as
objects and back, lists, and iterators over lists. `Guest.Standard` says it of a guest whose objects
are read off its state by a `Memory`. Making an object needs room for it (`Memory.fits`); as long as
there is room, none of these calls fails, and each says what becomes of the heap.
-/

namespace Embedder

/-- The two are the same bits, or both are no number. -/
def Double.Same (x y : Double) : Prop := x = y ∨ (x.isNaN ∧ y.isNaN)

theorem Double.Same.eq {x y : Double} (hs : x.Same y) (hx : x.isNaN = false) : y = x := by
  rcases hs with rfl | ⟨hnan, -⟩
  · rfl
  · rw [hx] at hnan
    cases hnan

/-- A truth value as a double. -/
def Double.ofBool (b : Bool) : Double := if b then Double.one else Double.zero

namespace Thing

/-- The double that a number converts to. -/
def asDouble? : Thing → Option Double
  | .float x => some x
  | .int n => Double.ofInt? n.toInt
  | .truth b => some (Double.ofBool b)
  | _ => none

/-- The integer that an integer converts to; a truth value is an integer too. -/
def asInt? : Thing → Option Int64
  | .int n => some n
  | .truth b => some b.toInt64
  | _ => none

def isFloat : Thing → Bool
  | .float _ => true
  | _ => false

/-- The number of slots of a list. -/
def length? : Thing → Option Nat
  | .list slots => some slots.length
  | _ => none

/-- The contents of a text. -/
def text? : Thing → Option String
  | .text s => some s
  | _ => none

/-- The name of the thing's class. -/
def className : Thing → String
  | .truth _ => "bool"
  | .int _ => "int"
  | .float _ => "float"
  | .list _ => "list"
  | .iterator .. => "list_iterator"
  | .next _ => "method-wrapper"
  | .cls _ => "type"
  | .text _ => "str"

end Thing

/-- How the objects of a guest are read off its state. -/
structure Memory (σ : Type) where
  heap : σ → Heap
  /-- There is room for so many more objects and slots of lists. -/
  fits : Nat → σ → Prop

namespace Memory

variable {σ α : Type} (M : Memory σ)

/-- The state has such a heap, with room for `n` more. -/
structure Holds (H : Heap) (n : Nat) (w : σ) : Prop where
  heap : M.heap w = H
  fits : M.fits n w

/-- A call leaves such a heap, and drops no binding. -/
structure Leaves (e : Effect σ α) (H : Heap) (n : Nat) : Prop where
  notices : e.notices = []
  holds : M.Holds H n e.world

/-- A call gives a value and leaves such a heap. -/
structure Answers (e : Outcome σ α) (a : α) (H : Heap) (n : Nat) : Prop extends M.Leaves e H n where
  value : e.value = .value a

/-- A call gives a new reference to such a thing, whether it was there before or not. -/
def Gives (e : Outcome σ Obj) (t : Thing) (H : Heap) (n : Nat) : Prop :=
  ∃ o, H.Admits o t ∧ M.Answers e o (H.take o t) n

end Memory

variable {σ : Type}

/-- The object of a truth value. -/
def Guest.truthObj (G : Guest σ) (b : Bool) : Obj := if b then G.trueObj else G.falseObj

/-- The guest treats numbers, lists and iterators over lists as documented. -/
structure Guest.Standard (G : Guest σ) (M : Memory σ) : Prop where
  /-- There is never room for more than a signed machine word can count. -/
  bound {n : Nat} {w : σ} : M.fits n w → n < 2 ^ 63
  less {n : Nat} {w : σ} : M.fits (n + 1) w → M.fits n w
  /-- Each of the truth values is one object. -/
  truth_iff {H : Heap} {n : Nat} {w : σ} (b : Bool) (o : Obj) : M.Holds H n w →
    ((∃ s, H o = some ⟨.truth b, s⟩) ↔ o = G.truthObj b)
  ofFloat {H : Heap} {n : Nat} {w : σ} (x : Double) : M.Holds H (n + 1) w →
    M.Gives (G.ofFloat x w) (.float x) H n
  ofInt {H : Heap} {n : Nat} {w : σ} (i : Int64) : M.Holds H (n + 1) w →
    M.Gives (G.ofInt i w) (.int i) H n
  ofBool {H : Heap} {n : Nat} {w : σ} (b : Bool) : M.Holds H (n + 1) w →
    M.Gives (G.ofBool b w) (.truth b) H n
  isFloat {H : Heap} {n : Nat} {w : σ} {o : Obj} {t : Thing} {s : Option Nat} : M.Holds H n w →
    H o = some ⟨t, s⟩ → G.isFloat o w = t.isFloat
  toFloat {H : Heap} {n : Nat} {w : σ} {o : Obj} {t : Thing} {s : Option Nat} {x : Double} :
    M.Holds H n w → H o = some ⟨t, s⟩ → t.asDouble? = some x →
      ∃ y, x.Same y ∧ M.Answers (G.toFloat o w) y H n
  toInt {H : Heap} {n : Nat} {w : σ} {o : Obj} {t : Thing} {s : Option Nat} {i : Int64} :
    M.Holds H n w → H o = some ⟨t, s⟩ → t.asInt? = some i → M.Answers (G.toInt o w) i H n
  newList {H : Heap} {n k : Nat} {w : σ} : M.Holds H (n + k + 1) w →
    ∃ l, H l = none ∧
      M.Answers (G.newList k w) l (H.put l ⟨.list (List.replicate k none), some 0⟩) n
  /-- The slot takes over the reference to the item. -/
  setListItem {H : Heap} {n k : Nat} {w : σ} {l : Obj} {slots : List (Option Obj)}
    {s : Option Nat} (o : Obj) : M.Holds H n w → H l = some ⟨.list slots, s⟩ →
      slots[k]? = some none →
      M.Answers (G.setListItem l k o w) () (H.put l ⟨.list (slots.set k (some o)), s⟩) n
  length {H : Heap} {n k : Nat} {w : σ} {o : Obj} {t : Thing} {s : Option Nat} :
    M.Holds H n w → H o = some ⟨t, s⟩ → t.length? = some k → M.Answers (G.length o w) k H n
  /-- An iterator has a reference to its list. -/
  iterator {H : Heap} {n : Nat} {w : σ} {l : Obj} {slots : List (Option Obj)} {s : Option Nat} :
    M.Holds H (n + 1) w → H l = some ⟨.list slots, s⟩ →
      ∃ i, H.put l (Cell.more ⟨.list slots, s⟩) i = none ∧
        M.Answers (G.iterator l w) i
          ((H.put l (Cell.more ⟨.list slots, s⟩)).put i ⟨.iterator l 0, some 0⟩) n
  /-- The bound method has a reference to its iterator. -/
  next {H : Heap} {n k : Nat} {w : σ} {l i : Obj} {s : Option Nat} :
    M.Holds H (n + 1) w → H i = some ⟨.iterator l k, s⟩ →
      ∃ m, H.put i (Cell.more ⟨.iterator l k, s⟩) m = none ∧
        M.Answers (G.getAttr i "__next__" w) m
          ((H.put i (Cell.more ⟨.iterator l k, s⟩)).put m ⟨.next i, some 0⟩) n
  /-- The next item is lent by the list and gets a reference more. -/
  call {H : Heap} {n k : Nat} {w : σ} {l i m o : Obj} {slots : List (Option Obj)} {t : Thing}
    {sl si sm so : Option Nat} : M.Holds H n w → H m = some ⟨.next i, sm⟩ →
      H i = some ⟨.iterator l k, si⟩ → H l = some ⟨.list slots, sl⟩ →
      slots[k]? = some (some o) → H o = some ⟨t, so⟩ →
      M.Answers (G.call m none w) o ((H.put i ⟨.iterator l (k + 1), si⟩).take o t) n
  release {H H' : Heap} {n : Nat} {w : σ} {o : Obj} : M.Holds H n w → H.Releases [o] H' →
    M.Leaves (G.release o w) H' n
  classOf {H : Heap} {n : Nat} {w : σ} {o : Obj} {t : Thing} {s : Option Nat} :
    M.Holds H (n + 1) w → H o = some ⟨t, s⟩ →
      M.Gives (G.getAttr o "__class__" w) (.cls t.className) H n
  nameOf {H : Heap} {n : Nat} {w : σ} {o : Obj} {name : String} {s : Option Nat} :
    M.Holds H (n + 1) w → H o = some ⟨.cls name, s⟩ →
      M.Gives (G.getAttr o "__name__" w) (.text name) H n
  str {H : Heap} {n : Nat} {w : σ} {o : Obj} {text : String} {s : Option Nat} :
    M.Holds H (n + 1) w → H o = some ⟨.text text, s⟩ → M.Gives (G.str o w) (.text text) H n
  text {H : Heap} {n : Nat} {w : σ} {o : Obj} {t : Thing} {text : String} {s : Option Nat} :
    M.Holds H n w → H o = some ⟨t, s⟩ → t.text? = some text → M.Answers (G.text o w) text H n

namespace Guest.Standard

variable {G : Guest σ} {M : Memory σ} (hG : G.Standard M)

include hG

theorem fits_of_le {n k : Nat} {w : σ} (hw : M.fits n w) (hle : k ≤ n) : M.fits k w := by
  induction hle with
  | refl => exact hw
  | step _ ih => exact ih (hG.less hw)

variable {H : Heap} {n : Nat} {w : σ} (hw : M.Holds H n w)

include hw

/-- The truth values are two objects. -/
theorem truthObj_inj {b c : Bool}
    (hbc : G.truthObj b = G.truthObj c) : b = c := by
  obtain ⟨s, hs⟩ := (hG.truth_iff b (G.truthObj b) hw).mpr rfl
  obtain ⟨u, hu⟩ := (hG.truth_iff c (G.truthObj b) hw).mpr hbc
  rw [hs] at hu
  cases hu
  rfl

/-- What is something else is not the object of a truth value. -/
theorem ne_truthObj {o : Obj} {t : Thing} {s : Option Nat} (ho : H o = some ⟨t, s⟩) {b : Bool}
    (htb : t ≠ .truth b) : o ≠ G.truthObj b := by
  intro hob
  obtain ⟨u, hu⟩ := (hG.truth_iff b o hw).mpr hob
  rw [ho] at hu
  cases hu
  exact htb rfl

end Guest.Standard

end Embedder
