import Embedder.Sequence
import Embedder.Proofs.Marshal.Runs

/-!
# Lists that cross the boundary

What the two loops of `Sequence.toList` and `Sequence.fromList` do with a guest that treats lists as
documented. While a list is filled, its first slots have the references to the items that were made
so far (`Sequence.fill_makes`, an induction on the values that are left). While it is read, the walk
keeps an iterator that keeps the list (`Heap.walking`); one step takes the next item, and decoding
gives it back (`Sequence.readItems_reads`, an induction on the items that are left). When the walk
ends and the list with it, all that was taken is released (`Heap.walking_releases`,
`Heap.list_releases`).
-/

namespace Embedder

variable {σ α β : Type} {G : Guest σ} {M : Memory σ} {h h₀ : Host σ} {d : Int} {H K : Heap}
  {n k : Nat} {l i m o : Obj} {t : Thing} {ts : List Thing} {os : List Obj}
  {slots : List (Option Obj)} {s : Option Nat}

/-! ## Heaps with a list -/

namespace Heap

/-- A list ends, and with it the references that it has. -/
theorem list_releases (hl : K l = none) (ht : H.Takes os ts K) :
    Releases (K.put l ⟨.list (os.map some), some 0⟩) [l] H := by
  refine .last put_self ?_
  have hitems : (os.map some).filterMap id = os := by simp [List.filterMap_map]
  show Releases _ (((os.map some).filterMap id).reverse ++ []) H
  rw [erase_put hl, hitems, List.append_nil]
  exact ht.releases

/-- A walk over a list that has come to an index. -/
def walking (K : Heap) (l i m : Obj) (slots : List (Option Obj)) (k : Nat) : Heap :=
  ((K.put l ⟨.list slots, some 1⟩).put i ⟨.iterator l k, some 0⟩).put m ⟨.next i, some 0⟩

theorem walking_next : K.walking l i m slots k m = some ⟨.next i, some 0⟩ := put_self

/-- The list, the iterator and its method are three objects that were not there before. -/
structure Apart (K : Heap) (l i m : Obj) : Prop where
  list : K l = none
  iterator : K i = none
  next : K m = none
  il : i ≠ l
  ml : m ≠ l
  mi : m ≠ i

/-- Two changes of one object, with another object's change between them. -/
theorem put_put_of_ne {b c e : Cell} (hne : m ≠ i) :
    ((H.put i b).put m c).put i e = (H.put i e).put m c := by
  rw [put_comm hne, put_put]

namespace Apart

variable (ha : K.Apart l i m)

include ha

theorem walking_iterator : K.walking l i m slots k i = some ⟨.iterator l k, some 0⟩ :=
  (put_of_ne ha.mi.symm).trans put_self

theorem walking_list : K.walking l i m slots k l = some ⟨.list slots, some 1⟩ :=
  (put_of_ne ha.ml.symm).trans ((put_of_ne ha.il.symm).trans put_self)

/-- What was there before is there during the walk. -/
theorem walking_of_some {c : Cell} (ho : K o = some c) : K.walking l i m slots k o = some c := by
  have hne {p : Obj} (hp : K p = none) : o ≠ p := by
    rintro rfl
    rw [hp] at ho
    cases ho
  exact (put_of_ne (hne ha.next)).trans
    ((put_of_ne (hne ha.iterator)).trans ((put_of_ne (hne ha.list)).trans ho))

theorem walking_put :
    (K.walking l i m slots k).put i ⟨.iterator l (k + 1), some 0⟩ =
      K.walking l i m slots (k + 1) :=
  put_put_of_ne ha.mi

/-- The iterator stays when its own handle goes, since its method keeps it. -/
theorem iterator_releases :
    Releases (((K.put l ⟨.list slots, some 1⟩).put i ⟨.iterator l k, some 1⟩).put m
      ⟨.next i, some 0⟩) [i] (K.walking l i m slots k) := by
  refine .shared ((put_of_ne ha.mi.symm).trans put_self) ?_
  rw [put_put_of_ne ha.mi]
  exact .done _

/-- The walk ends, and the list has one reference less. -/
theorem walking_releases :
    Releases (K.walking l i m slots k) [m] (K.put l ⟨.list slots, some 0⟩) := by
  refine .last walking_next ?_
  have hm : (K.put l ⟨.list slots, some 1⟩).put i ⟨.iterator l k, some 0⟩ m = none :=
    (put_of_ne ha.mi).trans ((put_of_ne ha.ml).trans ha.next)
  have hi : K.put l ⟨.list slots, some 1⟩ i = none := (put_of_ne ha.il).trans ha.iterator
  rw [walking, erase_put hm]
  refine .last put_self ?_
  rw [erase_put hi]
  refine .shared put_self ?_
  rw [put_put]
  exact .done _

end Apart

end Heap

/-! ## Filling a list -/

theorem Handle.signed_ofNat (hk : k < 2 ^ 63) : Handle.signed (UInt64.ofNat k) = k :=
  Int64.toInt_ofNat_of_lt hk

/-- What is no signed machine word is negative as one. -/
theorem Handle.lt_of_signed_nonneg (hk : k < 2 ^ 64)
    (hpos : 0 ≤ Handle.signed (UInt64.ofNat k)) : k < 2 ^ 63 := by
  have hword : Handle.signed (UInt64.ofNat k) = (k : Int).bmod (2 ^ 64) := BitVec.toInt_ofNat ..
  rw [hword, Int.bmod_def] at hpos
  split at hpos <;> omega

/-- The handle's reference passes to whom it is handed. -/
theorem Handle.steal_makes (hs : M.Stands h₀ (d + 1) H n h) :
    (Handle.steal G ⟨o, .owned⟩).Makes h fun p h' => p = o ∧ M.Stands h₀ d H n h' := by
  refine (Handle.count_makes hs (-1)).bind fun _ h' hs' => .pure ⟨rfl, ?_⟩
  rwa [Int.add_neg_cancel_right] at hs'

section Fill

variable (hG : G.Standard M)

include hG

theorem Handle.setListItem_makes (hs : M.Stands h₀ (d + 1) H n h) (hk : k < 2 ^ 63)
    (hl : H l = some ⟨.list slots, s⟩) (hslot : slots[k]? = some none) :
    (Handle.setListItem G ⟨l, .owned⟩ (UInt64.ofNat k) ⟨o, .owned⟩).Makes h fun _ =>
      M.Stands h₀ d (H.put l ⟨.list (slots.set k (some o)), s⟩) n := by
  refine (Attempt.Makes.lift (Handle.steal_makes hs)).bind fun p h' ⟨hp, hs'⟩ => ?_
  subst hp
  rw [Handle.signed_ofNat hk]
  have hset := hG.setListItem p hs'.holds hl hslot
  obtain ⟨u, h'', hrun, -, hs''⟩ := Exception.request_makes (G := G) "PyList_SetItem" hs' hset
  exact ⟨u, h'', hrun, hs''⟩

/-- Since `h₀` a list was made whose items are these things. -/
def Memory.Filled (M : Memory σ) (h₀ : Host σ) (d : Int) (H : Heap) (n : Nat) (l : Obj)
    (ts : List Thing) (h : Host σ) : Prop :=
  ∃ os K, K l = none ∧ H.Takes os ts K ∧
    M.Stands h₀ d (K.put l ⟨.list (os.map some), some 0⟩) n h

namespace Sequence

variable {E : Encoder σ α} {thing : α → Thing} (hE : E.Builds M thing)

include hE

/-- The slots that are still empty are filled with the values that are left. -/
theorem fill_makes : ∀ (as : List α) {os : List Obj} {ts : List Thing} {K : Heap} {h : Host σ},
    K l = none → H.Takes os ts K → os.length + as.length < 2 ^ 63 →
    M.Stands h₀ d (K.put l ⟨.list (os.map some ++ List.replicate as.length none), some 0⟩)
      (n + as.length) h →
    (fill G E ⟨l, .owned⟩ os.length as).Makes h fun _ =>
      M.Filled h₀ d H n l (ts ++ as.map thing) := by
  intro as
  induction as with
  | nil =>
    intro os ts K h hl htakes _ hs
    rw [List.length_nil, List.replicate_zero, List.append_nil] at hs
    refine .pure ⟨os, K, hl, ?_, hs⟩
    rwa [List.map_nil, List.append_nil]
  | cons a as ih =>
    intro os ts K h hl htakes hbound hs
    rw [List.length_cons] at hs hbound
    refine (hE.makes a hs).mapError.bind fun item h' ⟨o, hitem, ha, hs'⟩ => ?_
    subst hitem
    -- the list is no atom, so the item is another object
    have hne : o ≠ l := ha.ne Heap.put_self (Thing.list_ne_of_isAtom (hE.isAtom a) _)
    have hadmits : K.Admits o (thing a) := ha.of_put hne
    have hslot : (os.map some ++ List.replicate (as.length + 1) none)[os.length]? = some none := by
      simp [List.replicate_succ]
    have hslots : (os.map some ++ List.replicate (as.length + 1) none).set os.length (some o) =
        (os ++ [o]).map some ++ List.replicate as.length none := by
      simp [List.replicate_succ]
    rw [Heap.take_put_comm hne] at hs'
    refine (Handle.setListItem_makes hG hs' (by omega) Heap.put_self hslot).mapError.bind
      fun _ h'' hs'' => ?_
    rw [Heap.put_put, hslots] at hs''
    have hlength : os.length + 1 = (os ++ [o]).length := by
      rw [List.length_append, List.length_singleton]
    rw [hlength, List.map_cons, List.append_cons ts]
    refine ih ((Heap.take_of_ne hne.symm).trans hl) (.one htakes hadmits (hE.isAtom a)) ?_ hs''
    rw [← hlength]
    omega

/-- A list is made with an item for each value, in their order. -/
theorem toList_makes (xs : List α) (hs : M.Stands h₀ d H (n + 2 * xs.length + 1) h) :
    (toList G E xs).Makes h fun list h' =>
      ∃ l, list = ⟨l, .owned⟩ ∧ M.Filled h₀ (d + 1) H n l (xs.map thing) h' := by
  have hbound : n + 2 * xs.length + 1 < 2 ^ 63 := hG.bound hs.holds.fits
  have hroom : n + 2 * xs.length + 1 = (n + xs.length) + xs.length + 1 := by omega
  obtain ⟨l, hl, hnew⟩ := hG.newList (k := xs.length) (hroom ▸ hs.holds)
  have hnewList : (Handle.newList G (UInt64.ofNat xs.length)).Makes h fun list h' =>
      list = ⟨l, .owned⟩ ∧ M.Stands h₀ (d + 1)
        (H.put l ⟨.list (List.replicate xs.length none), some 0⟩) (n + xs.length) h' := by
    unfold Handle.newList
    rw [Handle.signed_ofNat (by omega)]
    exact Exception.requestNew_makes _ hs hnew
  refine hnewList.mapError.bind fun list h' ⟨hlist, hs'⟩ => ?_
  subst hlist
  obtain ⟨u, h'', hrun, hfilled⟩ :=
    fill_makes hG hE xs hl (.none : H.Takes [] [] H) (by rw [List.length_nil]; omega) hs'
  refine ⟨⟨l, .owned⟩, h'', ?_, l, rfl, hfilled⟩
  exact Bridge.run_bind (x := (fill G E ⟨l, .owned⟩ 0 xs).run) hrun

end Sequence

end Fill

/-! ## Walking over a list -/

section Walks

variable (hG : G.Standard M)

include hG

/-- A walk over a list begins: it has the iterator, and the iterator has the list. -/
theorem Walk.start_makes (hl : K l = none)
    (hs : M.Stands h₀ d (K.put l ⟨.list slots, some 0⟩) (n + 2) h) :
    (Walk.start G ⟨l, .owned⟩).Makes h fun walk h' =>
      ∃ i m, walk = ⟨⟨m, .owned⟩, false⟩ ∧ K.Apart l i m ∧
        M.Stands h₀ (d + 1) (K.walking l i m slots 0) n h' := by
  obtain ⟨i, hi, hiterator⟩ := hG.iterator hs.holds Heap.put_self
  rw [Heap.put_put] at hi hiterator
  obtain ⟨hil, hi⟩ := Heap.ne_and_eq_of_put_eq_none hi
  refine (Exception.requestNew_makes _ hs hiterator).bind fun it h' ⟨hit, hs'⟩ => ?_
  subst hit
  obtain ⟨m, hm, hnext⟩ := hG.next hs'.holds Heap.put_self
  rw [Heap.put_put] at hm hnext
  obtain ⟨hmi, hm⟩ := Heap.ne_and_eq_of_put_eq_none hm
  obtain ⟨hml, hm⟩ := Heap.ne_and_eq_of_put_eq_none hm
  have hapart : K.Apart l i m := ⟨hl, hi, hm, hil, hml, hmi⟩
  have hmethod : (do
      let next ← (⟨i, .owned⟩ : Handle).getAttr G "__next__"
      pure (⟨next, false⟩ : Walk) : Attempt σ ExceptionReport Walk).Makes h' fun walk h'' =>
        walk = ⟨⟨m, .owned⟩, false⟩ ∧ M.Stands h₀ (d + 1 + 1)
          (((K.put l ⟨.list slots, some 1⟩).put i ⟨.iterator l 0, some 1⟩).put m
            ⟨.next i, some 0⟩) n h'' := by
    rw [Handle.getAttr_eq (by decide)]
    refine (Exception.requestNew_makes _ hs' hnext).bind fun k h'' ⟨hk, hs''⟩ => .pure ⟨?_, hs''⟩
    rw [hk]
  refine hmethod.within fun walk h'' ⟨hwalk, hs''⟩ => ?_
  exact (Handle.drop_makes hG hs'' hapart.iterator_releases).mono fun _ _ hs₀ =>
    ⟨i, m, hwalk, hapart, hs₀⟩

/-- One step takes the next item. -/
theorem Walk.step_makes (ha : K.Apart l i m) (hs : M.Stands h₀ d (K.walking l i m slots k) n h)
    (hk : slots[k]? = some (some o)) (ho : K o = some ⟨t, s⟩) :
    (Walk.step G ⟨⟨m, .owned⟩, false⟩).Makes h fun r h' =>
      r = (.item ⟨o, .owned⟩, ⟨⟨m, .owned⟩, false⟩) ∧
        M.Stands h₀ (d + 1) ((K.walking l i m slots (k + 1)).take o t) n h' := by
  have hcall := hG.call hs.holds Heap.walking_next ha.walking_iterator ha.walking_list hk
    (ha.walking_of_some ho)
  rw [ha.walking_put] at hcall
  obtain ⟨r, h', hrun, hr, hs'⟩ := Exception.ask_makes (G := G) (f := G.call m none) hs hcall
  subst hr
  exact ⟨_, _, Bridge.run_bind hrun, rfl, hs'.count 1⟩

/-- A walk over a list ends. -/
theorem Walk.drop_makes (ha : K.Apart l i m)
    (hs : M.Stands h₀ (d + 1) (K.walking l i m slots k) n h) :
    (Walk.drop G ⟨⟨m, .owned⟩, false⟩).Makes h fun _ =>
      M.Stands h₀ d (K.put l ⟨.list slots, some 0⟩) n :=
  Handle.drop_makes hG hs ha.walking_releases

end Walks

/-! ## Reading a list -/

namespace Sequence

variable {D : Decoder σ β} {expected : Nat} (hG : G.Standard M)

include hG

/-- An item that was taken is decoded and given back. -/
theorem decode_makes {R : Except ExceptionReport β → Prop} (ht : t.isAtom)
    (hdecode : (D.decode ⟨o, .owned⟩).run.Makes h fun r h' =>
      R r ∧ M.Stands h₀ (d + 1) (K.take o t) n h') :
    (Handle.owning G ⟨o, .owned⟩ (D.decode ⟨o, .owned⟩).run).Makes h fun r h' =>
      R r ∧ M.Stands h₀ d K n h' :=
  hdecode.owning fun _ _ ⟨hr, hs⟩ => (Handle.drop_taken hG ht hs).mono fun _ _ hs' => ⟨hr, hs'⟩

/-- The items that are left are read in their order. -/
theorem readItems_reads {thing : α → Thing} {P : α → β → Prop} {xs : List α} (ha : K.Apart l i m)
    (hatom : ∀ a, (thing a).isAtom) (hreads : ∀ a, D.Reads M (thing a) (P a))
    (hitems : List.Forall₂ (fun o a => ∃ s, K o = some ⟨thing a, s⟩) os xs) :
    ∀ {k : Nat} {h : Host σ}, slots.drop k = os.map some →
      M.Stands h₀ d (K.walking l i m slots k) n h →
      (readItems G D expected os.length k ⟨⟨m, .owned⟩, false⟩).Makes h fun r h' =>
        (∃ ys, r = (.ok ys, ⟨⟨m, .owned⟩, false⟩) ∧ List.Forall₂ P xs ys) ∧
          M.Stands h₀ d (K.walking l i m slots (k + os.length)) n h' := by
  induction hitems with
  | nil =>
    intro k h _ hs
    exact .pure ⟨⟨[], rfl, .nil⟩, hs⟩
  | @cons o a os xs hitem _ ih =>
    intro k h hdrop hs
    obtain ⟨s, ho⟩ := hitem
    have hk : slots[k]? = some (some o) := by
      rw [← List.head?_drop, hdrop]
      rfl
    have hrest : slots.drop (k + 1) = os.map some := by
      rw [← List.tail_drop, hdrop]
      rfl
    refine (Walk.step_makes hG ha hs hk ho).bind fun r h' ⟨hr, hs'⟩ => ?_
    subst hr
    obtain ⟨u, hu⟩ := Heap.take_self (Heap.admits_of_eq (ha.walking_of_some (k := k + 1) ho))
    have hdecode : (D.decode ⟨o, .owned⟩).run.Makes h' fun r h'' =>
        (∃ b, r = .ok b ∧ P a b) ∧
          M.Stands h₀ (d + 1) ((K.walking l i m slots (k + 1)).take o (thing a)) n h'' :=
      (hreads a hs' hu).run.mono fun r _ ⟨b, hr, hb, hs₁⟩ => ⟨⟨b, hr, hb⟩, hs₁⟩
    refine (decode_makes hG (hatom a) hdecode).bind fun r h₂ ⟨⟨b, hr, hb⟩, hs₂⟩ => ?_
    subst hr
    refine (ih hrest hs₂).bind fun r h₃ ⟨⟨ys, hr, hys⟩, hs₃⟩ => ?_
    subst hr
    refine .pure ⟨⟨b :: ys, rfl, .cons hb hys⟩, ?_⟩
    rwa [List.length_cons, Nat.add_comm os.length 1, ← Nat.add_assoc]

/-- The first item that is refused ends the reading. -/
theorem readItems_refuses {reason : String} {count : Nat} (ha : K.Apart l i m)
    (ho : ∃ s, K o = some ⟨t, s⟩) (ht : t.isAtom) (hrefuses : D.Refuses M t reason)
    (hk : slots[k]? = some (some o)) (hs : M.Stands h₀ d (K.walking l i m slots k) (n + 3) h) :
    (readItems G D expected (count + 1) k ⟨⟨m, .owned⟩, false⟩).Makes h fun r h' =>
      r = (.error (.marshal (.notConvertible k D.kind (t.mistaken reason))), ⟨⟨m, .owned⟩, false⟩) ∧
        M.Stands h₀ d (K.walking l i m slots (k + 1)) n h' := by
  obtain ⟨s, ho⟩ := ho
  refine (Walk.step_makes hG ha hs hk ho).bind fun r h' ⟨hr, hs'⟩ => ?_
  subst hr
  obtain ⟨u, hu⟩ := Heap.take_self (Heap.admits_of_eq (ha.walking_of_some (k := k + 1) ho))
  refine (decode_makes hG ht (hrefuses hs' hu)).bind fun r h₂ ⟨hr, hs₂⟩ => ?_
  subst hr
  exact .pure ⟨rfl, hs₂⟩

/-- A list is read by its length and a walk, and is left as it was. -/
theorem fromList_makes {R : Except Failure (List β) → Prop} {n' : Nat} (hl : K l = none)
    (hs : M.Stands h₀ d (K.put l ⟨.list slots, some 0⟩) (n + 2) h)
    (hread : ∀ {i m h'}, K.Apart l i m → M.Stands h₀ (d + 1) (K.walking l i m slots 0) n h' →
      (readItems G D slots.length slots.length 0 ⟨⟨m, .owned⟩, false⟩).Makes h' fun r h'' =>
        (R r.1 ∧ r.2 = ⟨⟨m, .owned⟩, false⟩) ∧
          ∃ k, M.Stands h₀ (d + 1) (K.walking l i m slots k) n' h'') :
    (fromList G D ⟨l, .owned⟩).run.Makes h fun r h' =>
      R r ∧ M.Stands h₀ d (K.put l ⟨.list slots, some 0⟩) n' h' := by
  have hlength := hG.length (k := slots.length) hs.holds Heap.put_self rfl
  obtain ⟨_, h₁, hrun₁, rfl, hs₁⟩ :=
    (Exception.request_makes (G := G) "PyObject_Size" hs hlength).mapError
      (f := fun c => Failure.marshal (.notASequence c))
  obtain ⟨_, h₂, hrun₂, ⟨i, m, rfl, ha, hs₂⟩⟩ :=
    (Walk.start_makes hG hl hs₁).mapError (f := fun c => Failure.marshal (.notASequence c))
  obtain ⟨⟨r, w⟩, h₃, hrun₃, ⟨hr, hw⟩, k, hs₃⟩ := hread ha hs₂
  obtain ⟨_, h₄, hrun₄, hs₄⟩ := Walk.drop_makes hG ha hs₃
  change w = _ at hw
  subst hw
  refine ⟨r, h₄, ?_, hr, hs₄⟩
  refine (Attempt.run_bind_of_ok hrun₁).trans ((Attempt.run_bind_of_ok hrun₂).trans ?_)
  exact (Bridge.run_bind hrun₃).trans (Bridge.run_bind hrun₄)

end Sequence

end Embedder
