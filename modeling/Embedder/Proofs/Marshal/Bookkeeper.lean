import Embedder.Proofs.Marshal.Standard
import Mathlib.Data.Finset.Card
import Mathlib.Data.Finset.Range

/-!
# A guest that knows numbers and lists

A small guest that treats numbers, lists and iterators over lists as documented
(`Bookkeeper.standard`) and refuses everything else. Its state is the heap itself, so a release is
the whole of what a release does: an object without references ends and releases what it has.
-/

namespace Embedder

/-- The objects that there are, and the identity of the next one. -/
structure Bookkeeper where
  heap : Heap
  nextId : Nat

namespace Bookkeeper

/-- The object of a truth value. -/
def truthObj (b : Bool) : Obj := if b then ⟨0⟩ else ⟨1⟩

/-- Nothing but the truth values. -/
def fresh : Bookkeeper where
  heap o := if o = ⟨0⟩ then some ⟨.truth true, none⟩
    else if o = ⟨1⟩ then some ⟨.truth false, none⟩ else none
  nextId := 2

/-! ## States that can come up -/

/-- Identities are given out in order, and the truth values are two objects that never end. -/
structure Sound (w : Bookkeeper) : Prop where
  unborn : ∀ o : Obj, w.nextId ≤ o.id → w.heap o = none
  truth : ∀ b, w.heap (truthObj b) = some ⟨.truth b, none⟩
  unique : ∀ o b s, w.heap o = some ⟨.truth b, s⟩ → o = truthObj b

theorem fresh_sound : fresh.Sound where
  unborn o ho := by
    have h₀ : o ≠ ⟨0⟩ := by rintro rfl; cases ho
    have h₁ : o ≠ ⟨1⟩ := by rintro rfl; exact absurd ho (by decide)
    show (if o = ⟨0⟩ then _ else if o = ⟨1⟩ then _ else none) = none
    rw [if_neg h₀, if_neg h₁]
  truth b := by cases b <;> rfl
  unique o b s ho := by
    change (if o = ⟨0⟩ then some (Cell.mk (.truth true) none)
      else if o = ⟨1⟩ then some ⟨.truth false, none⟩ else none) = some ⟨.truth b, s⟩ at ho
    split at ho
    next h₀ => cases ho; exact h₀
    next =>
      split at ho
      next h₁ => cases ho; exact h₁
      next => cases ho

namespace Sound

variable {w : Bookkeeper} {o : Obj} {c : Cell} {H : Heap} {n : Nat} (hw : w.Sound)

include hw

/-- What there is has an identity that was given out. -/
theorem id_lt (ho : w.heap o = some c) : o.id < w.nextId := by
  by_contra hge
  rw [hw.unborn o (by omega)] at ho
  cases ho

/-- An object that is something else than a truth value changes. -/
theorem change (hn : w.nextId ≤ n) (hid : o.id < n) (hold : ∀ b, o ≠ truthObj b)
    (hnew : ∀ d, H o = some d → ∀ b, d.thing ≠ .truth b) (hsame : ∀ p, p ≠ o → H p = w.heap p) :
    Sound ⟨H, n⟩ where
  unborn p hp := by
    have hne : p ≠ o := by rintro rfl; exact absurd hid (by exact Nat.not_lt.mpr hp)
    exact (hsame p hne).trans (hw.unborn p (hn.trans hp))
  truth b := (hsame _ (hold b).symm).trans (hw.truth b)
  unique p b s hp := by
    by_cases hne : p = o
    · subst hne
      exact absurd rfl (hnew _ hp b)
    · exact hw.unique p b s ((hsame p hne).symm.trans hp)

theorem ne_truthObj (ho : ∀ b, w.heap o ≠ some ⟨.truth b, none⟩) (b : Bool) : o ≠ truthObj b := by
  rintro rfl
  exact ho b (hw.truth b)

/-- An object changes into something else than a truth value. -/
theorem put {d : Cell} (ho : w.heap o = some c) (hc : ∀ b, c ≠ ⟨.truth b, none⟩)
    (hd : ∀ b, d.thing ≠ .truth b) : Sound ⟨w.heap.put o d, w.nextId⟩ := by
  refine hw.change le_rfl (hw.id_lt ho) (hw.ne_truthObj fun b hb => ?_) ?_
    fun p hne => Heap.put_of_ne hne
  · rw [ho] at hb
    exact hc b (Option.some.inj hb)
  · intro e he b
    rw [Heap.put_self] at he
    cases he
    exact hd b

/-- A truth value has no count of its references. -/
theorem thing_ne_of_counted {t : Thing} {k : Nat} (ho : w.heap o = some ⟨t, some k⟩) (b : Bool) :
    t ≠ .truth b := by
  rintro rfl
  have hob := hw.unique o b _ ho
  rw [hob, hw.truth b] at ho
  cases ho

theorem put_counted {t : Thing} {k l : Nat} (ho : w.heap o = some ⟨t, some k⟩) :
    Sound ⟨w.heap.put o ⟨t, some l⟩, w.nextId⟩ :=
  hw.put ho (fun _ hc => by cases hc) (hw.thing_ne_of_counted ho)

theorem more (ho : w.heap o = some c) : Sound ⟨w.heap.put o c.more, w.nextId⟩ := by
  obtain ⟨t, spare⟩ := c
  cases spare with
  | none =>
    have hsame : w.heap.put o (Cell.more ⟨t, none⟩) = w.heap := Heap.put_eq_self ho
    rw [hsame]
    exact hw
  | some k => exact hw.put_counted ho

theorem erase {t : Thing} {k : Nat} (ho : w.heap o = some ⟨t, some k⟩) :
    Sound ⟨w.heap.erase o, w.nextId⟩ := by
  refine hw.change le_rfl (hw.id_lt ho) (hw.ne_truthObj fun b hb => ?_) ?_
    fun p hne => Heap.erase_of_ne hne
  · rw [ho] at hb
    cases hb
  · intro e he
    rw [Heap.erase_self] at he
    cases he

/-- A new object gets the next identity. -/
theorem make {t : Thing} (ht : ∀ b, t ≠ .truth b) :
    Sound ⟨w.heap.put ⟨w.nextId⟩ ⟨t, some 0⟩, w.nextId + 1⟩ := by
  have hnone : w.heap ⟨w.nextId⟩ = none := hw.unborn _ le_rfl
  refine hw.change (by omega) (Nat.lt_succ_self _) (hw.ne_truthObj fun b hb => ?_) ?_
    fun p hne => Heap.put_of_ne hne
  · rw [hnone] at hb
    cases hb
  · intro e he b
    rw [Heap.put_self] at he
    cases he
    exact ht b

end Sound

/-! ## Releases -/

/-- The number of objects. -/
def population (w : Bookkeeper) : Nat :=
  ((Finset.range w.nextId).filter fun i => (w.heap ⟨i⟩).isSome).card

variable {w : Bookkeeper} {o : Obj}

theorem population_put {c d : Cell} (ho : w.heap o = some c) :
    population ⟨w.heap.put o d, w.nextId⟩ = w.population := by
  unfold population
  congr 1
  refine Finset.filter_congr fun i _ => ?_
  show (w.heap.put o d ⟨i⟩).isSome ↔ (w.heap ⟨i⟩).isSome
  by_cases hi : (⟨i⟩ : Obj) = o
  · rw [hi, Heap.put_self, ho]
    exact Iff.rfl
  · rw [Heap.put_of_ne hi]

theorem population_erase {c : Cell} (ho : w.heap o = some c) (hid : o.id < w.nextId) :
    population ⟨w.heap.erase o, w.nextId⟩ < w.population := by
  refine Finset.card_lt_card (Finset.ssubset_iff_of_subset ?_ |>.mpr ⟨o.id, ?_, ?_⟩)
  · intro i hi
    obtain ⟨hrange, hsome⟩ := Finset.mem_filter.mp hi
    refine Finset.mem_filter.mpr ⟨hrange, ?_⟩
    change (w.heap.erase o ⟨i⟩).isSome at hsome
    by_cases hio : (⟨i⟩ : Obj) = o
    · rw [hio, Heap.erase_self] at hsome
      cases hsome
    · rwa [Heap.erase_of_ne hio] at hsome
  · refine Finset.mem_filter.mpr ⟨Finset.mem_range.mpr hid, ?_⟩
    show (w.heap o).isSome
    rw [ho]
    rfl
  · intro hmem
    have hsome : (w.heap.erase o o).isSome := (Finset.mem_filter.mp hmem).2
    rw [Heap.erase_self] at hsome
    cases hsome

/-- Release one reference to each of some objects, and what the objects that end have. -/
def settle (w : Bookkeeper) : List Obj → Bookkeeper
  | [] => w
  | o :: os =>
    match _ho : w.heap o with
    | none | some ⟨_, none⟩ => settle w os
    | some ⟨t, some (n + 1)⟩ => settle ⟨w.heap.put o ⟨t, some n⟩, w.nextId⟩ os
    | some ⟨t, some 0⟩ =>
      if _hid : o.id < w.nextId then settle ⟨w.heap.erase o, w.nextId⟩ (t.holds ++ os)
      else settle w os
  termination_by os => (w.population, os.length)
  decreasing_by
    · exact Prod.Lex.right _ (Nat.lt_succ_self _)
    · exact Prod.Lex.right _ (Nat.lt_succ_self _)
    · rw [population_put _ho]
      exact Prod.Lex.right _ (Nat.lt_succ_self _)
    · exact Prod.Lex.left _ _ (population_erase _ho _hid)
    · exact Prod.Lex.right _ (Nat.lt_succ_self _)

section Settle

variable {t : Thing} {os : List Obj}

theorem settle_lasting (ho : w.heap o = some ⟨t, none⟩) : w.settle (o :: os) = w.settle os := by
  rw [settle]
  split <;> rename_i heq <;> cases heq.symm.trans ho
  rfl

theorem settle_shared {n : Nat} (ho : w.heap o = some ⟨t, some (n + 1)⟩) :
    w.settle (o :: os) = settle ⟨w.heap.put o ⟨t, some n⟩, w.nextId⟩ os := by
  rw [settle]
  split <;> rename_i heq <;> cases heq.symm.trans ho
  rfl

theorem settle_last (ho : w.heap o = some ⟨t, some 0⟩) (hid : o.id < w.nextId) :
    w.settle (o :: os) = settle ⟨w.heap.erase o, w.nextId⟩ (t.holds ++ os) := by
  rw [settle]
  split <;> rename_i heq <;> cases heq.symm.trans ho
  exact dif_pos hid

end Settle

/-- What is settled are the releases, and they lead from a sound state to a sound state. -/
theorem settle_of_releases {H H' : Heap} {os : List Obj} {n : Nat} (hr : Heap.Releases H os H')
    (hw : Sound ⟨H, n⟩) : settle ⟨H, n⟩ os = ⟨H', n⟩ ∧ Sound ⟨H', n⟩ := by
  induction hr with
  | done H =>
    rw [settle]
    exact ⟨rfl, hw⟩
  | lasting ho _ ih =>
    rw [settle_lasting ho]
    exact ih hw
  | shared ho _ ih =>
    rw [settle_shared ho]
    exact ih (hw.put_counted ho)
  | last ho _ ih =>
    rw [settle_last ho (hw.id_lt ho)]
    exact ih (hw.erase ho)

/-! ## The guest -/

section Answers

variable {α : Type}

/-- Give a value and leave such a heap. -/
def grant (a : α) (H : Heap) (w : Bookkeeper) : Outcome Bookkeeper α :=
  ⟨.value a, ⟨H, w.nextId⟩, []⟩

def refuse (w : Bookkeeper) : Outcome Bookkeeper α := ⟨.failed, w, []⟩

/-- Make an object. -/
def make (t : Thing) (w : Bookkeeper) : Outcome Bookkeeper Obj :=
  ⟨.value ⟨w.nextId⟩, ⟨w.heap.put ⟨w.nextId⟩ ⟨t, some 0⟩, w.nextId + 1⟩, []⟩

end Answers

/-- Tell what can be told of an object without changing anything. -/
def tell {α : Type} (f : Thing → Option α) (o : Obj) (w : Bookkeeper) : Outcome Bookkeeper α :=
  match (w.heap o).bind fun c => f c.thing with
  | some a => grant a w.heap w
  | none => refuse w

/-- The object has one reference more. -/
def retain (o : Obj) (w : Bookkeeper) : Bookkeeper :=
  match w.heap o with
  | some c => ⟨w.heap.put o c.more, w.nextId⟩
  | none => w

/-- The three attributes that there are. -/
def attr (o : Obj) (name : String) (w : Bookkeeper) : Outcome Bookkeeper Obj :=
  match w.heap o with
  | none => refuse w
  | some ⟨t, s⟩ =>
    if name = "__class__" then make (.cls t.className) w
    else if name = "__name__" then
      match t with
      | .cls n => make (.text n) w
      | _ => refuse w
    else if name = "__next__" then
      match t with
      | .iterator l k => make (.next o) ⟨w.heap.put o (Cell.more ⟨.iterator l k, s⟩), w.nextId⟩
      | _ => refuse w
    else refuse w

/-- The text of a text is itself. -/
def ownText (o : Obj) (w : Bookkeeper) : Outcome Bookkeeper Obj :=
  match w.heap o with
  | some ⟨.text s, _⟩ => grant o (w.heap.take o (.text s)) w
  | _ => refuse w

/-- Fill an empty slot of a list; where that cannot be, the item ends. -/
def setItem (l : Obj) (k : Int) (o : Obj) (w : Bookkeeper) : Outcome Bookkeeper Unit :=
  match w.heap l with
  | some ⟨.list slots, s⟩ =>
    if slots[k.toNat]? = some none then
      grant () (w.heap.put l ⟨.list (slots.set k.toNat (some o)), s⟩) w
    else ⟨.failed, w.settle [o], []⟩
  | _ => ⟨.failed, w.settle [o], []⟩

/-- Begin to iterate over a list. -/
def iterate (l : Obj) (w : Bookkeeper) : Outcome Bookkeeper Obj :=
  match w.heap l with
  | some ⟨.list slots, s⟩ =>
    make (.iterator l 0) ⟨w.heap.put l (Cell.more ⟨.list slots, s⟩), w.nextId⟩
  | _ => refuse w

/-- The iterator of a bound `__next__`, as it is after one more item, and the item. -/
def upcoming (m : Obj) (w : Bookkeeper) : Option (Obj × Cell × Obj) := do
  let ⟨.next i, _⟩ ← w.heap m | none
  let ⟨.iterator l k, s⟩ ← w.heap i | none
  let ⟨.list slots, _⟩ ← w.heap l | none
  let some o ← slots[k]? | none
  some (i, ⟨.iterator l (k + 1), s⟩, o)

/-- Call a bound `__next__`. -/
def advance (m : Obj) (w : Bookkeeper) : Outcome Bookkeeper Obj :=
  match w.upcoming m with
  | none => refuse w
  | some (i, onward, o) =>
    match w.heap o with
    | none => refuse w
    | some c => grant o ((w.heap.put i onward).take o c.thing) w

/-- A guest that knows numbers, lists and iterators over lists. -/
def guest : Guest Bookkeeper where
  isUp _ := true
  boot _ w := w
  shutdown w := ⟨true, w, []⟩
  retain := retain
  release o w := ⟨(), w.settle [o], []⟩
  releaseKept _ k w := ⟨(), w.settle [k.obj], []⟩
  refcount o w := ((w.heap o).bind Cell.spare).elim 0 fun n => n + 1
  importModule _ := refuse
  addModule _ := refuse
  namespaceOf _ := refuse
  lookup _ _ _ := none
  isCallable m w := match w.heap m with
    | some ⟨.next _, _⟩ => true
    | _ => false
  getAttr := attr
  length := tell Thing.length?
  str := ownText
  text := tell Thing.text?
  newText s := make (.text s)
  joinTexts _ _ := refuse
  newList k := make (.list (List.replicate k.toNat none))
  newTuple _ := refuse
  setListItem := setItem
  setTupleItem _ _ o w := ⟨.failed, w.settle [o], []⟩
  append _ _ := refuse
  ofFloat x := make (.float x)
  ofInt i := make (.int i)
  ofBool b w := grant (truthObj b) w.heap w
  trueObj := truthObj true
  falseObj := truthObj false
  isFloat o w := (w.heap o).any (·.thing.isFloat)
  toFloat := tell Thing.asDouble?
  toInt := tell Thing.asInt?
  iterator := iterate
  call m args w := match args with
    | none => advance m w
    | some _ => refuse w
  searchPath _ := none
  normalize p w := ⟨p, w, []⟩
  isStopIteration _ _ := false
  print _ w := ⟨none, w, []⟩

/-- Its objects, and the room that its address space has for them. -/
def memory : Memory Bookkeeper where
  heap := heap
  fits n w := n < 2 ^ 63 ∧ w.Sound

section Laws

variable {n : Nat} {t : Thing} {s : Option Nat} {α : Type}

theorem grant_answers {a : α} {H : Heap} (hn : n < 2 ^ 63) (hw : Sound ⟨H, w.nextId⟩) :
    memory.Answers (grant a H w) a H n :=
  ⟨⟨rfl, rfl, hn, hw⟩, rfl⟩

theorem make_answers {k : Nat} (hk : memory.fits k w) (hnk : n ≤ k) (ht : ∀ b, t ≠ .truth b) :
    memory.Answers (make t w) ⟨w.nextId⟩ (w.heap.put ⟨w.nextId⟩ ⟨t, some 0⟩) n :=
  ⟨⟨rfl, rfl, hnk.trans_lt hk.1, hk.2.make ht⟩, rfl⟩

theorem make_gives (hw : memory.fits (n + 1) w) (ht : ∀ b, t ≠ .truth b) :
    memory.Gives (make t w) t w.heap n := by
  have hnone : w.heap ⟨w.nextId⟩ = none := hw.2.unborn _ le_rfl
  refine ⟨⟨w.nextId⟩, ?_, ?_⟩
  · intro c hc
    rw [hnone] at hc
    cases hc
  · rw [Heap.take_of_none hnone]
    exact make_answers hw (Nat.le_succ n) ht

/-- A reference to what is there is given. -/
theorem grant_gives (hw : memory.fits (n + 1) w) (ho : w.heap o = some ⟨t, s⟩) :
    memory.Gives (grant o (w.heap.take o t) w) t w.heap n := by
  refine ⟨o, Heap.admits_of_eq ho, grant_answers (by have := hw.1; omega) ?_⟩
  rw [Heap.take_of_some ho]
  exact hw.2.more ho

theorem attr_class (ho : w.heap o = some ⟨t, s⟩) :
    attr o "__class__" w = make (.cls t.className) w := by
  unfold attr
  rw [ho]
  exact if_pos rfl

theorem attr_name {name : String} (ho : w.heap o = some ⟨.cls name, s⟩) :
    attr o "__name__" w = make (.text name) w := by
  unfold attr
  rw [ho]
  exact (if_neg (by decide)).trans (if_pos rfl)

theorem attr_next {l : Obj} {k : Nat} (ho : w.heap o = some ⟨.iterator l k, s⟩) :
    attr o "__next__" w =
      make (.next o) ⟨w.heap.put o (Cell.more ⟨.iterator l k, s⟩), w.nextId⟩ := by
  unfold attr
  rw [ho]
  exact (if_neg (by decide)).trans ((if_neg (by decide)).trans (if_pos rfl))

theorem upcoming_eq {l i m : Obj} {k : Nat} {slots : List (Option Obj)} {sl si sm : Option Nat}
    (hm : w.heap m = some ⟨.next i, sm⟩) (hi : w.heap i = some ⟨.iterator l k, si⟩)
    (hl : w.heap l = some ⟨.list slots, sl⟩) (hk : slots[k]? = some (some o)) :
    w.upcoming m = some (i, ⟨.iterator l (k + 1), si⟩, o) := by
  simp only [upcoming, hm, hi, hl, hk, Option.bind_eq_bind, Option.bind_some]

theorem advance_answers {l i m : Obj} {k : Nat} {slots : List (Option Obj)}
    {sl si sm : Option Nat} (hw : memory.fits n w) (hm : w.heap m = some ⟨.next i, sm⟩)
    (hi : w.heap i = some ⟨.iterator l k, si⟩) (hl : w.heap l = some ⟨.list slots, sl⟩)
    (hk : slots[k]? = some (some o)) (ho : w.heap o = some ⟨t, s⟩) :
    memory.Answers (advance m w) o ((w.heap.put i ⟨.iterator l (k + 1), si⟩).take o t) n := by
  have hadvance : advance m w =
      grant o ((w.heap.put i ⟨.iterator l (k + 1), si⟩).take o t) w := by
    unfold advance
    rw [upcoming_eq hm hi hl hk]
    dsimp only
    rw [ho]
  have honward : Sound ⟨w.heap.put i ⟨.iterator l (k + 1), si⟩, w.nextId⟩ :=
    hw.2.put hi (fun _ hc => by cases hc) fun _ hc => by cases hc
  have hthere : ∃ c, w.heap.put i ⟨.iterator l (k + 1), si⟩ o = some c := by
    by_cases hoi : o = i
    · subst hoi
      exact ⟨_, Heap.put_self⟩
    · exact ⟨_, (Heap.put_of_ne hoi).trans ho⟩
  obtain ⟨c, hc⟩ := hthere
  rw [hadvance]
  refine grant_answers hw.1 ?_
  rw [Heap.take_of_some hc]
  exact honward.more hc

theorem tell_answers {f : Thing → Option α} {a : α} (hw : memory.fits n w)
    (ho : w.heap o = some ⟨t, s⟩) (ha : f t = some a) :
    memory.Answers (tell f o w) a w.heap n := by
  unfold tell
  rw [ho, Option.bind_some, ha]
  exact grant_answers hw.1 hw.2

theorem setItem_answers {l : Obj} {k : Nat} {slots : List (Option Obj)} (hw : memory.fits n w)
    (hl : w.heap l = some ⟨.list slots, s⟩) (hk : slots[k]? = some none) :
    memory.Answers (setItem l k o w) () (w.heap.put l ⟨.list (slots.set k (some o)), s⟩) n := by
  have hset : setItem l k o w = grant () (w.heap.put l ⟨.list (slots.set k (some o)), s⟩) w := by
    unfold setItem
    rw [hl]
    exact if_pos hk
  rw [hset]
  exact grant_answers hw.1 (hw.2.put hl (fun _ h => by cases h) fun _ h => by cases h)

theorem iterate_answers {l : Obj} {slots : List (Option Obj)} (hw : memory.fits (n + 1) w)
    (hl : w.heap l = some ⟨.list slots, s⟩) :
    memory.Answers (iterate l w) ⟨w.nextId⟩
      ((w.heap.put l (Cell.more ⟨.list slots, s⟩)).put ⟨w.nextId⟩ ⟨.iterator l 0, some 0⟩) n := by
  unfold iterate
  rw [hl]
  exact make_answers ⟨hw.1, hw.2.more hl⟩ (Nat.le_succ n) fun _ h => by cases h

theorem ownText_gives {text : String} (hw : memory.fits (n + 1) w)
    (ho : w.heap o = some ⟨.text text, s⟩) :
    memory.Gives (ownText o w) (.text text) w.heap n := by
  unfold ownText
  rw [ho]
  exact grant_gives hw ho

theorem settle_leaves {H : Heap} (hw : memory.fits n w) (hr : w.heap.Releases [o] H) :
    memory.Leaves (⟨(), w.settle [o], []⟩ : Effect Bookkeeper Unit) H n := by
  obtain ⟨heq, hsound⟩ := settle_of_releases hr hw.2
  have hsettle : w.settle [o] = ⟨H, w.nextId⟩ := heq
  rw [hsettle]
  exact ⟨rfl, rfl, hw.1, hsound⟩

theorem isFloat_eq (ho : w.heap o = some ⟨t, s⟩) : guest.isFloat o w = t.isFloat := by
  show (w.heap o).any (·.thing.isFloat) = t.isFloat
  rw [ho]
  rfl

theorem truth_iff (hw : w.Sound) (b : Bool) (o : Obj) :
    (∃ s, w.heap o = some ⟨.truth b, s⟩) ↔ o = guest.truthObj b := by
  have hobj : guest.truthObj b = truthObj b := by cases b <;> rfl
  rw [hobj]
  constructor
  · rintro ⟨s, ho⟩
    exact hw.unique o b s ho
  · rintro rfl
    exact ⟨none, hw.truth b⟩

theorem ofBool_gives (hw : memory.fits (n + 1) w) (b : Bool) :
    memory.Gives (guest.ofBool b w) (.truth b) w.heap n := by
  have htake : w.heap.take (truthObj b) (.truth b) = w.heap := by
    rw [Heap.take_of_some (hw.2.truth b)]
    exact Heap.put_eq_self (hw.2.truth b)
  have hgives := grant_gives hw (hw.2.truth b)
  rwa [htake] at hgives

theorem next_answers {l i : Obj} {k : Nat} (hw : memory.fits (n + 1) w)
    (hi : w.heap i = some ⟨.iterator l k, s⟩) :
    memory.Answers (attr i "__next__" w) ⟨w.nextId⟩
      ((w.heap.put i (Cell.more ⟨.iterator l k, s⟩)).put ⟨w.nextId⟩ ⟨.next i, some 0⟩) n := by
  rw [attr_next hi]
  exact make_answers ⟨hw.1, hw.2.more hi⟩ (Nat.le_succ n) fun _ h => by cases h

theorem classOf_gives (hw : memory.fits (n + 1) w) (ho : w.heap o = some ⟨t, s⟩) :
    memory.Gives (attr o "__class__" w) (.cls t.className) w.heap n := by
  rw [attr_class ho]
  exact make_gives hw fun _ h => by cases h

theorem nameOf_gives {name : String} (hw : memory.fits (n + 1) w)
    (ho : w.heap o = some ⟨.cls name, s⟩) :
    memory.Gives (attr o "__name__" w) (.text name) w.heap n := by
  rw [attr_name ho]
  exact make_gives hw fun _ h => by cases h

end Laws

/-- The guest treats numbers, lists and iterators as documented. -/
theorem standard : guest.Standard memory where
  bound hw := hw.1
  less hw := ⟨by have := hw.1; omega, hw.2⟩
  truth_iff b o := fun ⟨heq, hw⟩ => heq ▸ truth_iff hw.2 b o
  ofFloat x := fun ⟨heq, hw⟩ => heq ▸ make_gives hw fun _ h => by cases h
  ofInt i := fun ⟨heq, hw⟩ => heq ▸ make_gives hw fun _ h => by cases h
  ofBool b := fun ⟨heq, hw⟩ => heq ▸ ofBool_gives hw b
  isFloat := fun ⟨heq, _⟩ ho => isFloat_eq (heq ▸ ho)
  toFloat := by
    rintro _ n w o t s x ⟨rfl, hw⟩ ho ht
    exact ⟨x, .inl rfl, tell_answers hw ho ht⟩
  toInt := by
    rintro _ n w o t s i ⟨rfl, hw⟩ ho ht
    exact tell_answers hw ho ht
  newList := by
    rintro _ n k w ⟨rfl, hw⟩
    exact ⟨_, hw.2.unborn _ le_rfl, make_answers hw (by omega) fun _ h => by cases h⟩
  setListItem := by
    rintro _ n k w l slots s o ⟨rfl, hw⟩ hl hk
    exact setItem_answers hw hl hk
  length := by
    rintro _ n k w o t s ⟨rfl, hw⟩ ho ht
    exact tell_answers hw ho ht
  iterator := by
    rintro _ n w l slots s ⟨rfl, hw⟩ hl
    exact ⟨_, (hw.2.more hl).unborn _ le_rfl, iterate_answers hw hl⟩
  next := by
    rintro _ n k w l i s ⟨rfl, hw⟩ hi
    exact ⟨_, (hw.2.more hi).unborn _ le_rfl, next_answers hw hi⟩
  call := by
    rintro _ n k w l i m o slots t sl si sm so ⟨rfl, hw⟩ hm hi hl hk ho
    exact advance_answers hw hm hi hl hk ho
  release := by
    rintro _ H' n w o ⟨rfl, hw⟩ hr
    exact settle_leaves hw hr
  classOf := by
    rintro _ n w o t s ⟨rfl, hw⟩ ho
    exact classOf_gives hw ho
  nameOf := by
    rintro _ n w o name s ⟨rfl, hw⟩ ho
    exact nameOf_gives hw ho
  str := by
    rintro _ n w o text s ⟨rfl, hw⟩ ho
    exact ownText_gives hw ho
  text := by
    rintro _ n w o t text s ⟨rfl, hw⟩ ho ht
    exact tell_answers hw ho ht

end Bookkeeper

end Embedder
