import Embedder.Proofs.Marshal.Bookkeeper
import Embedder.Proofs.Marshal.Lists
import Embedder.Proofs.Marshal.Objects
import Embedder.Proofs.Requests

/-!
# Lists of anything

`Sequence.toList` converts values one after the other and passes each reference on to the list. With
an interpreter that treats lists as documented (`Guest.HandlesLists`), and conversions of any kind
that can be undone (`Encoder.Reversible`), it leaves a whole list or nothing
(`toList_all_or_nothing`).

Filling has one invariant (`Estate.Holding`): the references that were passed on are what takes the
objects beside the list back to how they were. It is kept by each item, it makes a whole list own
what it holds, and it makes releasing a list that was not finished undo all that came before.
-/

namespace Embedder

open Exception

variable {σ α : Type}

/-! ## Conversions -/

/-- The call that makes a list of so many slots. -/
def Guest.listOf (G : Guest σ) (n : Nat) : σ → Outcome σ Obj :=
  G.newList (Handle.signed (UInt64.ofNat n))

/-- The host after that call, with a handle on the list. -/
def Host.listed (G : Guest σ) (n : Nat) (h : Host σ) : Host σ := (h.after (G.listOf n h.world)).hold 1

/-- Convert a value to a reference that can be passed on. -/
def Encoder.produce (G : Guest σ) (E : Encoder σ α) (a : α) : Attempt σ ExceptionReport Obj := do
  let item ← E.encode a
  (item.steal G : Bridge σ Obj)

/-- From one host to another, values were converted in their order, and each was placed in the next
slot of the list before the next one was converted. -/
inductive Encoder.Converts (G : Guest σ) (E : Encoder σ α) (l : Obj) (h : Host σ) :
    List α → List Obj → Host σ → Prop where
  | none : Converts G E l h [] [] h
  | one {as : List α} {os : List Obj} {k k₁ : Host σ} {a : α} {o : Obj}
      (before : Converts G E l h as os k)
      (gave : (E.produce G a).run.run k = .ok (.ok o, k₁)) (quiet : k₁.pending = none)
      (placed : (G.setListItem l os.length o k₁.world).value = .value ()) :
      Converts G E l h (as ++ [a]) (os ++ [o])
        (k₁.after (G.setListItem l os.length o k₁.world))

variable {G : Guest σ} {E E' : Encoder σ α} {h k k₁ : Host σ} {l o : Obj} {as : List α}
  {os : List Obj} {a : α} {c : ExceptionReport}

namespace Encoder.Converts

theorem length (hc : E.Converts G l h as os k) : os.length = as.length := by
  induction hc with
  | none => rfl
  | one _ _ _ _ ih => rw [List.length_append, List.length_append, ih]; rfl

/-- Nothing but these values is converted. -/
theorem congr (hc : E.Converts G l h as os k) (hE : ∀ b ∈ as, E'.encode b = E.encode b) :
    E'.Converts G l h as os k := by
  induction hc with
  | none => exact .none
  | @one as os k k₁ a o _ gave quiet placed ih =>
    have hlast : E'.encode a = E.encode a := hE a (by simp)
    refine .one (ih fun b hb => hE b (by simp [hb])) ?_ quiet placed
    unfold Encoder.produce at gave ⊢
    rwa [hlast]

end Encoder.Converts

namespace Sequence

/-- Filling converts a value, places it and goes on. -/
theorem fill_cons_run (list : Handle) (i : Nat) :
    (fill G E list i (a :: as)).run.run k =
      Attempt.proceed (Attempt.failing (fun c => Failure.marshal (.notConvertible i E.kind c))
        ((E.produce G a).run.run k)) fun o k₁ =>
      Attempt.proceed (Attempt.failing (fun c => Failure.marshal (.notPlaced i c))
        ((request G "PyList_SetItem"
          (G.setListItem list.obj (Handle.signed (UInt64.ofNat i)) o)).run.run k₁)) fun _ k₂ =>
      (fill G E list (i + 1) as).run.run k₂ := by
  unfold Encoder.produce
  rw [fill, Attempt.run_bind, Attempt.run_mapError, Attempt.run_bind, Attempt.failing_proceed,
    Attempt.proceed_assoc]
  refine Attempt.proceed_congr fun item k₁ _ => ?_
  unfold Handle.setListItem
  rw [Attempt.run_bind, Attempt.run_mapError, Attempt.run_bind, Attempt.failing_proceed,
    Attempt.proceed_assoc]
  -- passing a reference on does not fail, so it fits either failure
  show Attempt.proceed (Attempt.failing _ ((liftM (item.steal G) :
    Attempt σ ExceptionReport Obj).run.run k₁)) _ = Attempt.proceed (Attempt.failing _ _) _
  obtain ⟨obj, _ | _⟩ := item <;> rfl

/-- What is left to fill after some values were converted. -/
theorem fill_converts (hc : E.Converts G l h as os k) (hn : as.length < 2 ^ 63) (rest : List α) :
    (fill G E ⟨l, .owned⟩ 0 (as ++ rest)).run.run h =
      (fill G E ⟨l, .owned⟩ as.length rest).run.run k := by
  induction hc generalizing rest with
  | none => rfl
  | @one as os k k₁ a o before gave quiet placed ih =>
    rw [List.length_append, List.length_singleton] at hn ⊢
    have hplaced : (request G "PyList_SetItem" (G.setListItem l os.length o)).run.run k₁ =
        .ok (.ok (), k₁.after (G.setListItem l os.length o k₁.world)) := by
      rw [request_run quiet, requested_of_value placed]
    rw [List.append_assoc, List.singleton_append, ih (by omega), fill_cons_run, gave,
      Handle.signed_ofNat (by omega), ← before.length]
    show Attempt.proceed (Attempt.failing _ ((request G "PyList_SetItem" _).run.run k₁)) _ = _
    rw [hplaced]
    rfl

/-- What becomes of the list when the filling has come so far: it is there, or released. -/
def closed (G : Guest σ) (l : Obj) :
    Except Exit (Except Failure Unit × Host σ) → Except Exit (Except Failure Handle × Host σ)
  | .error e => .error e
  | .ok (.ok (), k) => .ok (.ok ⟨l, .owned⟩, k)
  | .ok (.error c, k) => .ok (.error c, (k.after (G.release l k.world)).hold (-1))

theorem toList_run (as : List α) (hq : h.pending = none) :
    (toList G E as).run.run h =
      Attempt.proceed (Attempt.failing (fun c => Failure.marshal (.notAllocated as.length c))
        (h.requested G "PyList_New" (G.listOf as.length)))
      fun l k => closed G l ((fill G E ⟨l, .owned⟩ 0 as).run.run (k.hold 1)) := by
  unfold toList Handle.newList
  rw [Attempt.run_bind, Attempt.run_mapError, requestNew_run hq, Attempt.failing_proceed,
    Attempt.proceed_assoc]
  refine Attempt.proceed_congr fun l k _ => ?_
  show ((fill G E ⟨l, .owned⟩ 0 as).run >>= _).run (k.hold 1) = _
  rw [StateT.run_bind]
  rcases (fill G E ⟨l, .owned⟩ 0 as).run.run (k.hold 1) with e | ⟨c | u, k'⟩
  · rfl
  · show ((Handle.drop G ⟨l, .owned⟩ >>= fun _ => pure (Except.error c)) : Bridge σ _).run k' = _
    rw [Bridge.run_bind (Handle.drop_owned_run ..)]
    rfl
  · rfl

end Sequence

/-! ## Lists as documented -/

/-- The guest treats lists as documented. -/
structure Guest.HandlesLists (G : Guest σ) (M : Estate σ) : Prop
    extends G.CountsReferences M where
  /-- A list that could be made is a new object. -/
  newList {n : Int} {l : Obj} {w : σ} : M.sound w → (G.newList n w).value = .value l →
    0 ≤ n ∧ M.store w l = none ∧ M.sound (G.newList n w).world ∧
      M.store (G.newList n w).world =
        Function.update (M.store w) l (some ⟨.list (List.replicate n.toNat none), some 0⟩)
  /-- An empty slot takes over the reference. -/
  setListItem {i : Nat} {l : Obj} {slots : List (Option Obj)} {s : Option Nat} {w : σ} (o : Obj) :
    M.sound w → M.store w l = some ⟨.list slots, s⟩ → slots[i]? = some none →
      (G.setListItem l i o w).value = .value () ∧ M.sound (G.setListItem l i o w).world ∧
        M.store (G.setListItem l i o w).world =
          Function.update (M.store w) l (some ⟨.list (slots.set i (some o)), s⟩)

/-- Between two hosts nothing is left pending, no handle is left over, and a list is not touched. -/
structure Estate.Keeps (M : Estate σ) (l : Obj) (k k₁ : Host σ) : Prop where
  sound : M.sound k₁.world
  pending : k₁.pending = none
  live : k₁.live = k.live
  list : M.store k₁.world l = M.store k.world l

/-- Conversions do not touch a list that only the host has, and can be undone: to release what one
gave takes it back, and one that fails leaves nothing behind. -/
structure Encoder.Reversible (G : Guest σ) (E : Encoder σ α) (M : Estate σ) (l : Obj) : Prop where
  gave {a : α} {k k₁ : Host σ} {o : Obj} {slots : List (Option Obj)} : M.sound k.world →
    k.pending = none → M.store k.world l = some ⟨.list slots, some 0⟩ →
    (E.produce G a).run.run k = .ok (.ok o, k₁) →
      M.Keeps l k k₁ ∧ (M.store k₁.world).Releases [o] (M.store k.world)
  refused {a : α} {k k₁ : Host σ} {c : ExceptionReport} {slots : List (Option Obj)} :
    M.sound k.world → k.pending = none → M.store k.world l = some ⟨.list slots, some 0⟩ →
    (E.produce G a).run.run k = .ok (.error c, k₁) →
      M.Keeps l k k₁ ∧ M.store k₁.world = M.store k.world

/-! ## Filling -/

/-- Since `h` a list was made, and objects were placed in it, with `r` slots left. Releasing these
takes the other objects back to how they were. -/
structure Estate.Holding (M : Estate σ) (h : Host σ) (l : Obj) (os : List Obj) (r : Nat)
    (k : Host σ) : Prop where
  sound : M.sound k.world
  pending : k.pending = none
  live : k.live = h.live + 1
  list : M.store k.world l = some ⟨.list (os.map some ++ List.replicate r none), some 0⟩
  others : ((M.store k.world).without l).Releases os.reverse (M.store h.world)

variable {M : Estate σ} {r : Nat}

namespace Estate.Holding

/-- With the list goes all that was placed in it. -/
theorem releases (hk : M.Holding h l os r k) :
    (M.store k.world).Releases [l] (M.store h.world) := by
  have hitems : (os.map some ++ List.replicate r none).filterMap id = os := by
    simp [List.filterMap_append, List.filterMap_map]
  have hholds : (Content.list (os.map some ++ List.replicate r none)).holds = some os.reverse :=
    congrArg (fun ps => some (List.reverse ps)) hitems
  refine .last hk.list hholds ?_
  rw [List.append_nil]
  exact hk.others

/-- A conversion that fails leaves it so. -/
theorem refused (hE : E.Reversible G M l) (hk : M.Holding h l os r k)
    (hr : (E.produce G a).run.run k = .ok (.error c, k₁)) : M.Holding h l os r k₁ := by
  obtain ⟨hkeeps, hstore⟩ := hE.refused hk.sound hk.pending hk.list hr
  constructor
  case sound => exact hkeeps.sound
  case pending => exact hkeeps.pending
  case live => exact hkeeps.live.trans hk.live
  case list => exact hkeeps.list.trans hk.list
  case others => rw [hstore]; exact hk.others

variable (hG : G.HandlesLists M)

include hG

theorem start {n : Nat} (hs : M.sound h.world) (hq : h.pending = none)
    (hl : (G.newList n h.world).value = .value l) :
    M.Holding h l [] n ((h.after (G.newList n h.world)).hold 1) := by
  obtain ⟨-, hnone, hsound, hstore⟩ := hG.newList hs hl
  have hworld : ((h.after (G.newList n h.world)).hold 1).world = (G.newList n h.world).world := rfl
  constructor
  case sound => exact hsound
  case pending => exact hq
  case live => rfl
  case list =>
    rw [hworld, hstore, Function.update_self]
    rfl
  case others =>
    rw [hworld, hstore, Store.without_update, Store.without_of_none hnone]
    exact .done _

/-- One more object is placed, and the list is all that changes by that. -/
theorem place (hE : E.Reversible G M l) (hk : M.Holding h l os (r + 1) k)
    (gave : (E.produce G a).run.run k = .ok (.ok o, k₁)) :
    k₁.pending = none ∧ (G.setListItem l os.length o k₁.world).value = .value () ∧
      M.Holding h l (os ++ [o]) r (k₁.after (G.setListItem l os.length o k₁.world)) := by
  obtain ⟨hkeeps, hundo⟩ := hE.gave hk.sound hk.pending hk.list gave
  have hlist : M.store k₁.world l = some ⟨.list (os.map some ++ List.replicate (r + 1) none),
      some 0⟩ := hkeeps.list.trans hk.list
  have hslot : (os.map some ++ List.replicate (r + 1) none)[os.length]? = some none := by
    simp [List.replicate_succ]
  have hslots : (os.map some ++ List.replicate (r + 1) none).set os.length (some o) =
      (os ++ [o]).map some ++ List.replicate r none := by
    simp [List.replicate_succ]
  obtain ⟨hvalue, hsound, hstore⟩ := hG.setListItem o hkeeps.sound hlist hslot
  refine ⟨hkeeps.pending, hvalue, ?_⟩
  constructor
  case sound => exact hsound
  case pending => exact hkeeps.pending
  case live => exact hkeeps.live.trans hk.live
  case list =>
    show M.store (G.setListItem l os.length o k₁.world).world l = _
    rw [hstore, Function.update_self, hslots]
  case others =>
    -- the object goes first, and what it leaves are the objects as they were before it
    have hfirst := (hundo.leaving hlist hk.list).append hk.others
    show ((M.store (G.setListItem l os.length o k₁.world).world).without l).Releases _ _
    rw [hstore, Store.without_update, List.reverse_concat]
    exact hfirst

/-- The list is released, and with it all that was made since. -/
theorem drop (hk : M.Holding h l os r k) :
    M.store (G.release l k.world).world = M.store h.world :=
  (hG.release hk.sound hk.releases).2

end Estate.Holding

/-! ## A whole list or nothing -/

/-- There is no list of a length that is not a signed machine word. -/
theorem Guest.HandlesLists.listOf_eq (hG : G.HandlesLists M) {n : Nat} {w : σ} (hn : n < 2 ^ 64)
    (hs : M.sound w) (hl : (G.listOf n w).value = .value l) :
    n < 2 ^ 63 ∧ G.listOf n = G.newList n := by
  have hlt : n < 2 ^ 63 := Handle.lt_of_signed_nonneg hn (hG.newList hs hl).1
  refine ⟨hlt, ?_⟩
  unfold Guest.listOf
  rw [Handle.signed_ofNat hlt]

/-- What was refused was refused by the conversion, since passing a reference on does not fail. -/
theorem Encoder.encode_of_refused (hr : (E.produce G a).run.run k = .ok (.error c, k₁)) :
    (E.encode a).run.run k = .ok (.error c, k₁) := by
  unfold Encoder.produce at hr
  rw [Attempt.run_bind] at hr
  generalize (E.encode a).run.run k = x at hr ⊢
  rcases x with e | ⟨c' | ⟨o, _ | _⟩, k'⟩
  · cases hr
  · cases hr
    rfl
  · cases hr
  · cases hr

theorem Encoder.encode_of_ended {e : Exit} (hr : (E.produce G a).run.run k = .error e) :
    (E.encode a).run.run k = .error e := by
  unfold Encoder.produce at hr
  rw [Attempt.run_bind] at hr
  generalize (E.encode a).run.run k = x at hr ⊢
  rcases x with e | ⟨c' | ⟨o, _ | _⟩, k'⟩
  · cases hr
    rfl
  · cases hr
  · cases hr
  · cases hr

namespace Sequence

/-- The ways in which making a list of values turns out. -/
inductive Turnout (G : Guest σ) (M : Estate σ) (E : Encoder σ α) (values : List α) (h : Host σ) :
    Except Exit (Except Failure Handle × Host σ) → Prop where
  /-- Each value was converted, and what it gave is the item at its index. All that is new is the
  list's: it goes with the list. -/
  | made {l : Obj} {os : List Obj} {k : Host σ}
      (given : (G.listOf values.length h.world).value = .value l)
      (converted : E.Converts G l (h.listed G values.length) values os k)
      (length : os.length = values.length)
      (items : M.store k.world l = some ⟨.list (os.map some), some 0⟩)
      (owned : (M.store k.world).Releases [l] (M.store h.world))
      (live : k.live = h.live + 1) (pending : k.pending = none) :
      Turnout G M E values h (.ok (.ok ⟨l, .owned⟩, k))
  /-- The first value that was refused is named with its cause. What an encoder would do with the
  values after it does not matter, and every object is as it was. -/
  | refused {l : Obj} {before after : List α} {a : α} {os : List Obj} {c : ExceptionReport}
      {k k₁ h' : Host σ} (given : (G.listOf values.length h.world).value = .value l)
      (split : values = before ++ a :: after)
      (converted : E.Converts G l (h.listed G values.length) before os k)
      (refusal : (E.encode a).run.run k = .ok (.error c, k₁))
      (unread : ∀ E' : Encoder σ α, E'.kind = E.kind →
        (∀ b ∈ before ++ [a], E'.encode b = E.encode b) → (toList G E' values).run.run h =
          .ok (.error (.marshal (.notConvertible before.length E.kind c)), h'))
      (store : M.store h'.world = M.store h.world)
      (counts : ∀ o, G.refcount o h'.world = G.refcount o h.world)
      (live : h'.live = h.live) (pending : h'.pending = none) :
      Turnout G M E values h (.ok (.error (.marshal (.notConvertible before.length E.kind c)), h'))
  /-- The interpreter has no list of that length, so nothing is converted. -/
  | unallocated {c : ExceptionReport} {h' : Host σ}
      (asked : h.requested G "PyList_New" (G.listOf values.length) = .ok (.error c, h'))
      (live : h'.live = h.live) (pending : h'.pending = none) :
      Turnout G M E values h (.ok (.error (.marshal (.notAllocated values.length c)), h'))
  /-- The process ended when the exception was printed that says so. -/
  | unallocatedEnds {e : Exit}
      (asked : h.requested G "PyList_New" (G.listOf values.length) = .error e) :
      Turnout G M E values h (.error e)
  /-- A conversion did not come back. -/
  | conversionEnds {l : Obj} {before after : List α} {a : α} {os : List Obj} {k : Host σ} {e : Exit}
      (given : (G.listOf values.length h.world).value = .value l)
      (split : values = before ++ a :: after)
      (converted : E.Converts G l (h.listed G values.length) before os k)
      (ended : (E.encode a).run.run k = .error e) : Turnout G M E values h (.error e)

section Laws

variable (hG : G.HandlesLists M) (hE : E.Reversible G M l)

include hG hE

/-- By induction on the values that are left: all of them are converted, or there is a first one
that is not. -/
theorem converts_split {h₁ : Host σ} : ∀ (rest : List α) {as : List α} {os : List Obj} {k : Host σ},
    E.Converts G l h₁ as os k → M.Holding h l os rest.length k →
    (∃ os k, E.Converts G l h₁ (as ++ rest) os k ∧ M.Holding h l os 0 k) ∨
    ∃ before a after os k, as ++ rest = before ++ a :: after ∧ E.Converts G l h₁ before os k ∧
      M.Holding h l os (after.length + 1) k ∧
      ∀ o k₁, (E.produce G a).run.run k ≠ .ok (.ok o, k₁) := by
  intro rest
  induction rest with
  | nil =>
    intro as os k hc hk
    rw [List.append_nil]
    exact .inl ⟨os, k, hc, hk⟩
  | cons a rest ih =>
    intro as os k hc hk
    by_cases hgave : ∃ o k₁, (E.produce G a).run.run k = .ok (.ok o, k₁)
    · obtain ⟨o, k₁, gave⟩ := hgave
      obtain ⟨quiet, placed, hk₁⟩ := hk.place hG hE gave
      rw [List.append_cons]
      exact ih (.one hc gave quiet placed) hk₁
    · refine .inr ⟨as, a, rest, os, k, rfl, hc, hk, fun o k₁ gave => hgave ⟨o, k₁, gave⟩⟩

end Laws

/-- Making a list when there is one to fill. -/
theorem toList_run_of_given {values : List α} (hq : h.pending = none)
    (given : (G.listOf values.length h.world).value = .value l) :
    (toList G E values).run.run h =
      closed G l ((fill G E ⟨l, .owned⟩ 0 values).run.run (h.listed G values.length)) := by
  rw [toList_run values hq, requested_of_value given]
  rfl

/-- Where the interpreter gives no list, that is all that happens. -/
theorem turnout_of_unallocated {values : List α} (hq : h.pending = none)
    (hnone : ∀ l, (G.listOf values.length h.world).value ≠ .value l) :
    Turnout G M E values h ((toList G E values).run.run h) := by
  rw [toList_run values hq]
  rcases hr : h.requested G "PyList_New" (G.listOf values.length) with e | ⟨c | l, k⟩
  · exact .unallocatedEnds hr
  · exact .unallocated hr (requested_live hr) (requested_pending hq hr)
  · cases requested_ok hr with
    | value gave => exact absurd gave (hnone l)

/-! ### The first value that does not convert -/

section Stopping

variable {before after : List α} (hq : h.pending = none)
  (hn : (before ++ a :: after).length < 2 ^ 63)
  (given : (G.listOf (before ++ a :: after).length h.world).value = .value l)
  (converted : E.Converts G l (h.listed G (before ++ a :: after).length) before os k)

include hq hn given converted

/-- The list is made and filled up to that value. -/
theorem toList_run_of_converts :
    (toList G E (before ++ a :: after)).run.run h =
      closed G l ((fill G E ⟨l, .owned⟩ before.length (a :: after)).run.run k) := by
  have hbefore : before.length < 2 ^ 63 := by
    rw [List.length_append] at hn
    omega
  rw [toList_run_of_given hq given, fill_converts converted hbefore]

theorem toList_run_of_refused (refusal : (E.produce G a).run.run k = .ok (.error c, k₁)) :
    (toList G E (before ++ a :: after)).run.run h =
      .ok (.error (.marshal (.notConvertible before.length E.kind c)),
        (k₁.after (G.release l k₁.world)).hold (-1)) := by
  rw [toList_run_of_converts hq hn given converted, fill_cons_run, refusal]
  rfl

/-- A conversion that ends the process is the last thing that happens. -/
theorem turnout_of_ended {e : Exit} (ended : (E.produce G a).run.run k = .error e) :
    Turnout G M E (before ++ a :: after) h ((toList G E (before ++ a :: after)).run.run h) := by
  have hrun : (toList G E (before ++ a :: after)).run.run h = .error e := by
    rw [toList_run_of_converts hq hn given converted, fill_cons_run, ended]
    rfl
  rw [hrun]
  exact .conversionEnds given rfl converted (Encoder.encode_of_ended ended)

/-- A conversion that fails undoes what came before it. -/
theorem turnout_of_refused (hG : G.HandlesLists M) (hE : E.Reversible G M l)
    (hk : M.Holding h l os r k) (refusal : (E.produce G a).run.run k = .ok (.error c, k₁)) :
    Turnout G M E (before ++ a :: after) h ((toList G E (before ++ a :: after)).run.run h) := by
  have hk₁ := hk.refused hE refusal
  have hstore := hk₁.drop hG
  have hlive : ((k₁.after (G.release l k₁.world)).hold (-1)).live = h.live := by
    show k₁.live + -1 = h.live
    rw [hk₁.live]
    omega
  rw [toList_run_of_refused hq hn given converted refusal]
  refine .refused given rfl converted (Encoder.encode_of_refused refusal) ?_ hstore
    (fun o => hG.refcount (congrFun hstore o)) hlive hk₁.pending
  -- an encoder that does the same up to this value is run in the same way
  intro E' hkind hsame
  have hlast : E'.encode a = E.encode a := hsame a (by simp)
  have hfails : (E'.produce G a).run.run k = .ok (.error c, k₁) := by
    unfold Encoder.produce at refusal ⊢
    rwa [hlast]
  rw [← hkind]
  exact toList_run_of_refused hq hn given (converted.congr fun b hb => hsame b (by simp [hb])) hfails

end Stopping

/-- **A whole list or nothing.** With an interpreter that treats lists as documented and nothing
pending, and for conversions of any kind that can be undone: a list of host values becomes a list
with what they convert to, in their order, which is the only new handle and owns all that is new; or
the first value that does not convert is named, no later value is looked at, and each object has the
references that it had. Where the interpreter gives no list, nothing is converted. A slice counts its
values by a machine word. -/
theorem toList_all_or_nothing (hG : G.HandlesLists M) (E : Encoder σ α) (values : List α)
    (hn : values.length < 2 ^ 64) (hs : M.sound h.world) (hq : h.pending = none)
    (hE : ∀ l, (G.listOf values.length h.world).value = .value l → E.Reversible G M l) :
    Turnout G M E values h ((toList G E values).run.run h) := by
  cases hv : (G.listOf values.length h.world).value with
  | value l =>
    obtain ⟨hlt, hlist⟩ := hG.listOf_eq hn hs hv
    have hstart : M.Holding h l [] values.length (h.listed G values.length) := by
      unfold Host.listed
      rw [hlist] at hv ⊢
      exact Estate.Holding.start hG hs hq hv
    rcases converts_split hG (hE l hv) values .none hstart with
      ⟨os, k, hc, hk⟩ | ⟨before, a, after, os, k, hsplit, hc, hk, hfails⟩
    · rw [List.nil_append] at hc
      have hrun : (toList G E values).run.run h = .ok (.ok ⟨l, .owned⟩, k) := by
        have hfill := fill_converts hc hlt []
        rw [List.append_nil] at hfill
        rw [toList_run_of_given hq hv, hfill]
        rfl
      have hitems := hk.list
      rw [List.replicate_zero, List.append_nil] at hitems
      rw [hrun]
      exact .made hv hc hc.length hitems hk.releases hk.live hk.pending
    · rw [List.nil_append] at hsplit
      subst hsplit
      rcases hp : (E.produce G a).run.run k with e | ⟨c | o, k₁⟩
      · exact turnout_of_ended hq hlt hv hc hp
      · exact turnout_of_refused hq hlt hv hc hG (hE l hv) hk hp
      · exact absurd hp (hfails o k₁)
  | raised p => exact turnout_of_unallocated hq fun l hl => by rw [hv] at hl; cases hl
  | failed => exact turnout_of_unallocated hq fun l hl => by rw [hv] at hl; cases hl

end Sequence

/-! ## Lists of the bookkeeper -/

namespace Bookkeeper

/-- The bookkeeper, with no lists of negative length. -/
def strict : Guest Bookkeeper :=
  { guest with newList := fun n w => if 0 ≤ n then guest.newList n w else refuse w }

/-- Its numbers and lists as objects. -/
def estate : Estate Bookkeeper := ⟨fun w => w.heap.store, Sound⟩

/-- Integers, some of which are missing and do not convert. -/
def encodePresent : Encoder Bookkeeper (Option Int64) where
  kind := .int64
  encode
    | none => throw ⟨"ValueError", "missing", none⟩
    | some n => (Scalar.encodeInt strict).encode n

variable {w : Bookkeeper}

theorem countsReferences : guest.CountsReferences estate where
  release {o S w} hw hr := by
    obtain ⟨H, hheap, rfl⟩ := Heap.releases_of_store hr
    have hleaves := settle_leaves (n := 0) ⟨by decide, hw⟩ hheap
    exact ⟨hleaves.holds.fits.2, congrArg Heap.store hleaves.holds.heap⟩
  refcount {o w w'} heq := by
    have hspare : (w.heap o).bind Cell.spare = (w'.heap o).bind Cell.spare := by
      have hmap := congrArg (Option.bind · Counted.spare) heq
      simpa [estate, Heap.store, Option.bind_map] using hmap
    show ((w.heap o).bind Cell.spare).elim 0 _ = ((w'.heap o).bind Cell.spare).elim 0 _
    rw [hspare]

theorem strict_handlesLists : strict.HandlesLists estate where
  release := countsReferences.release
  refcount := countsReferences.refcount
  newList {n l w} hw hl := by
    change (if 0 ≤ n then guest.newList n w else refuse w).value = .value l at hl
    show 0 ≤ n ∧ _ ∧ Sound (if 0 ≤ n then guest.newList n w else refuse w).world ∧
      (if 0 ≤ n then guest.newList n w else refuse w).world.heap.store = _
    by_cases hn : 0 ≤ n
    · rw [if_pos hn] at hl ⊢
      cases hl
      have hnone : w.heap ⟨w.nextId⟩ = none := hw.unborn _ le_rfl
      refine ⟨hn, ?_, hw.make (fun _ h => by cases h), Heap.store_put⟩
      show (w.heap ⟨w.nextId⟩).map _ = none
      rw [hnone]
      rfl
    · rw [if_neg hn] at hl
      cases hl
  setListItem {i l slots s w} o hw hl hi := by
    obtain ⟨t, ht, heq⟩ := Heap.some_of_store hl
    cases t <;> cases heq
    have hset := setItem_answers (n := 0) (o := o) ⟨by decide, hw⟩ ht hi
    refine ⟨hset.value, hset.holds.fits.2, ?_⟩
    show (setItem l i o w).world.heap.store = _
    have hheap : (setItem l i o w).world.heap = _ := hset.holds.heap
    rw [hheap, Heap.store_put]
    rfl

/-- An integer becomes a new object, which is passed on. -/
theorem produce_run {k : Host Bookkeeper} (n : Int64) (hq : k.pending = none) :
    (encodePresent.produce strict (some n)).run.run k =
      .ok (.ok ⟨k.world.nextId⟩, k.after (make (.int n) k.world)) := by
  have hencode : (encodePresent.encode (some n)).run.run k =
      .ok (.ok ⟨⟨k.world.nextId⟩, .owned⟩, (k.after (make (.int n) k.world)).hold 1) := by
    show (requestNew strict _ (make (.int n))).run.run k = _
    rw [requestNew_run hq, requested_of_value (f := make (.int n)) rfl]
    rfl
  unfold Encoder.produce
  rw [Attempt.run_bind, hencode]
  show Except.ok (_, ((k.after (make (.int n) k.world)).hold 1).hold (-1)) = _
  rw [Host.hold_hold, Int.add_right_neg, Host.hold_zero]

/-- To release what an integer became is to do without it. -/
theorem encodePresent_reversible (l : Obj) : encodePresent.Reversible strict estate l where
  gave {a k k₁ o slots} hs hq hl hgave := by
    cases a with
    | none => cases hgave
    | some n =>
      rw [produce_run n hq] at hgave
      cases hgave
      have hnone : k.world.heap ⟨k.world.nextId⟩ = none := Sound.unborn hs _ le_rfl
      have hne : l ≠ ⟨k.world.nextId⟩ := by
        rintro rfl
        obtain ⟨t, ht, -⟩ := Heap.some_of_store hl
        rw [hnone] at ht
        cases ht
      have hundo := (Heap.Releases.take (o := ⟨k.world.nextId⟩) (t := .int n) rfl
        (.done k.world.heap)).store
      rw [Heap.take_of_none hnone] at hundo
      refine ⟨⟨Sound.make hs (fun _ h => by cases h), hq, rfl, ?_⟩, hundo⟩
      show (k.world.heap.put ⟨k.world.nextId⟩ _).store l = k.world.heap.store l
      rw [Heap.store_put, Function.update_of_ne hne]
  refused {a k k₁ c slots} hs hq hl hr := by
    cases a with
    | none =>
      cases hr
      exact ⟨⟨hs, hq, rfl, rfl⟩, rfl⟩
    | some n =>
      rw [produce_run n hq] at hr
      cases hr

/-- The bookkeeper makes a list of integers, and nothing of one with a missing integer in it. -/
theorem makes_all_or_nothing :
    strict.HandlesLists estate ∧ Sound fresh ∧
    (∀ l, encodePresent.Reversible strict estate l) ∧
    Sequence.Turnout strict estate encodePresent [some 1, some 2] (Host.fresh fresh)
      ((Sequence.toList strict encodePresent [some 1, some 2]).run.run (Host.fresh fresh)) ∧
    ((Sequence.toList strict encodePresent [some 1, some 2]).run.run
      (Host.fresh fresh)).toOption.map (fun x => (x.1, x.2.live)) = some (.ok ⟨⟨2⟩, .owned⟩, 1) ∧
    Sequence.Turnout strict estate encodePresent [some 1, none, some 2] (Host.fresh fresh)
      ((Sequence.toList strict encodePresent [some 1, none, some 2]).run.run (Host.fresh fresh)) ∧
    ((Sequence.toList strict encodePresent [some 1, none, some 2]).run.run
      (Host.fresh fresh)).toOption.map (fun x => (x.1, x.2.live)) =
        some (.error (.marshal (.notConvertible 1 .int64 ⟨"ValueError", "missing", none⟩)), 0) := by
  refine ⟨strict_handlesLists, fresh_sound, encodePresent_reversible, ?_, by decide +kernel, ?_,
    by decide +kernel⟩
  · exact Sequence.toList_all_or_nothing strict_handlesLists encodePresent [some 1, some 2]
      (by decide) fresh_sound rfl fun l _ => encodePresent_reversible l
  · exact Sequence.toList_all_or_nothing strict_handlesLists encodePresent [some 1, none, some 2]
      (by decide) fresh_sound rfl fun l _ => encodePresent_reversible l

end Bookkeeper

end Embedder
