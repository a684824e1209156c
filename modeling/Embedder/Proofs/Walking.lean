import Embedder.Proofs.Marshal.Accounts
import Embedder.Proofs.Marshal.ListMaking
import Embedder.Proofs.Reading

/-!
# Walking

A walk calls the `__next__` that it looked up when it began. Its steps tell what these calls gave
(`Walk.Tells`): an item as an owned handle, the end, or the exception that was raised. After the
first step that tells of no item there are only steps that do nothing at all (`Walk.Course`), and
that is so whatever the host does between two steps.

A walk owns one reference, to what it looked up. A bound method refers to its iterator, so the
iterator stays until the walk ends (`Walk.start_keeps`). Nothing says that `__next__` is a bound
method, though: an iterator that nothing else refers to ends when the walk has begun
(`Walk.start_loses`).
-/

namespace Embedder.Walk

open Exception Sequence

variable {σ : Type} {G : Guest σ} {h k : Host σ} {m : Obj}

/-! ## Steps -/

/-- A step that was taken, with the hosts before and after it. -/
structure Stride (σ : Type) where
  before : Host σ
  step : Step
  after : Host σ

/-- Steps of one walk. Nothing is pending before a step; apart from that the host may do as it likes
between two steps. -/
inductive Strides (G : Guest σ) : Walk → List (Stride σ) → Walk → Prop where
  | none (w : Walk) : Strides G w [] w
  | one {w w₁ w₂ : Walk} {t : Stride σ} {ts : List (Stride σ)} (quiet : t.before.pending = .none)
      (taken : (w.step G).run t.before = .ok ((t.step, w₁), t.after))
      (rest : Strides G w₁ ts w₂) : Strides G w (t :: ts) w₂

/-- The step came to an item. -/
def Step.isItem : Step → Bool
  | .item _ => true
  | _ => false

/-- The step tells what a call of `__next__` gave, and that call is all that was done but to let go
or to take what it raised. -/
inductive Tells (G : Guest σ) (next : Obj) : Stride σ → Prop where
  | item {h : Host σ} {o : Obj} (gave : (G.call next none h.world).value = .value o) :
      Tells G next ⟨h, .item ⟨o, .owned⟩, (h.after (G.call next none h.world)).hold 1⟩
  | nothing {h : Host σ} (gave : (G.call next none h.world).value = .failed) :
      Tells G next ⟨h, .finished, h.after (G.call next none h.world)⟩
  | stopped {h : Host σ} {p : Pending} (gave : (G.call next none h.world).value = .raised p)
      (stops : G.isStopIteration p (G.call next none h.world).world = true) :
      Tells G next ⟨h, .finished, (h.after (G.call next none h.world)).after
        (G.releaseAll p.refs.reverse (G.call next none h.world).world)⟩
  | failed {h k : Host σ} {p : Pending} {r : ExceptionReport}
      (gave : (G.call next none h.world).value = .raised p)
      (goesOn : G.isStopIteration p (G.call next none h.world).world = false)
      (describes : G.Describes (G.normalize p (G.call next none h.world).world).value
        (G.normalize p (G.call next none h.world).world).world r)
      (taken : (h.after (G.call next none h.world)).taken G p = .ok (r, k)) :
      Tells G next ⟨h, .failed r, k⟩

/-- The step did nothing, and said that the walk is over. -/
structure Stride.Idle (t : Stride σ) : Prop where
  step : t.step = .finished
  after : t.after = t.before

/-- The steps of a walk: items, and then perhaps one step that tells of something else and steps
that do nothing. -/
inductive Course (G : Guest σ) (next : Obj) : List (Stride σ) → Prop where
  | going {ts : List (Stride σ)} (items : ∀ t ∈ ts, Tells G next t ∧ t.step.isItem = true) :
      Course G next ts
  | ended {items idle : List (Stride σ)} {last : Stride σ}
      (before : ∀ t ∈ items, Tells G next t ∧ t.step.isItem = true) (tells : Tells G next last)
      (ends : last.step.isItem = false) (after : ∀ t ∈ idle, t.Idle) :
      Course G next (items ++ last :: idle)

/-! ## One step -/

theorem step_run_of_done {w : Walk} (hd : w.done = true) :
    (w.step G).run h = .ok ((.finished, w), h) := by
  unfold step
  rw [if_pos hd]
  rfl

theorem step_tells {next : Handle} {s : Step} {w : Walk} (hp : h.pending = none)
    (hr : (step G ⟨next, false⟩).run h = .ok ((s, w), k)) :
    Tells G next.obj ⟨h, s, k⟩ ∧ w = ⟨next, !s.isItem⟩ := by
  rw [step_run next hp] at hr
  cases hv : (G.call next.obj none h.world).value with
  | value o =>
    simp only [hv] at hr
    cases hr
    exact ⟨.item hv, rfl⟩
  | failed =>
    simp only [hv] at hr
    cases hr
    exact ⟨.nothing hv, rfl⟩
  | raised p =>
    simp only [hv] at hr
    by_cases hs : G.isStopIteration p (G.call next.obj none h.world).world = true
    · rw [if_pos hs] at hr
      cases hr
      exact ⟨.stopped hv hs, rfl⟩
    · rw [if_neg hs] at hr
      obtain ⟨⟨r, k'⟩, htaken, heq⟩ := map_ok hr
      cases heq
      obtain ⟨rfl, -⟩ := drained_ok htaken
      exact ⟨.failed hv (Bool.eq_false_iff.mpr hs) (G.describe_report _ _) htaken, rfl⟩

/-- A step leaves nothing pending. -/
theorem Tells.pending {t : Stride σ} (ht : Tells G m t) (hp : t.before.pending = none) :
    t.after.pending = none := by
  cases ht with
  | failed _ _ _ taken => exact taken_pending (h := Host.after _ _) hp taken
  | _ => exact hp

/-- An item is one handle more, and nothing else is. -/
theorem Tells.live {t : Stride σ} (ht : Tells G m t) :
    t.after.live = t.before.live + if t.step.isItem then 1 else 0 := by
  cases ht with
  | item => rfl
  | failed _ _ _ taken => exact (taken_live (h := Host.after _ _) taken).trans (Int.add_zero _).symm
  | nothing => exact (Int.add_zero _).symm
  | stopped => exact (Int.add_zero _).symm

/-! ## Many steps -/

/-- A walk that is over does nothing any more. -/
theorem Strides.idle {w w' : Walk} {ts : List (Stride σ)} (hs : Strides G w ts w')
    (hd : w.done = true) : (∀ t ∈ ts, t.Idle) ∧ w' = w := by
  induction hs with
  | none => exact ⟨fun _ ht => (nomatch ht), rfl⟩
  | @one w w₁ w₂ t ts _ taken _ ih =>
    rw [step_run_of_done hd] at taken
    obtain ⟨⟨hstep, rfl⟩, hafter⟩ : (Step.finished = t.step ∧ w = w₁) ∧ t.before = t.after := by
      simpa using taken
    obtain ⟨hidle, rfl⟩ := ih hd
    refine ⟨fun u hu => ?_, rfl⟩
    rcases List.mem_cons.mp hu with rfl | hu
    · exact ⟨hstep.symm, hafter.symm⟩
    · exact hidle u hu

/-- By induction on the steps: the walk goes on after an item, and after anything else it is over. -/
theorem Strides.course {next : Handle} {ts : List (Stride σ)} :
    ∀ {w' : Walk}, Strides G ⟨next, false⟩ ts w' → Course G next.obj ts ∧ w'.next = next := by
  induction ts with
  | nil =>
    intro w' hs
    cases hs
    exact ⟨.going fun _ ht => (nomatch ht), rfl⟩
  | cons t ts ih =>
    intro w' hs
    cases hs with
    | @one _ w₁ _ _ _ quiet taken rest =>
      obtain ⟨htells, rfl⟩ := step_tells quiet taken
      cases hitem : t.step.isItem with
      | true =>
        rw [hitem] at rest
        obtain ⟨hcourse, hnext⟩ := ih rest
        have hfirst : ∀ {us : List (Stride σ)},
            (∀ u ∈ us, Tells G next.obj u ∧ u.step.isItem = true) →
              ∀ u ∈ t :: us, Tells G next.obj u ∧ u.step.isItem = true :=
          fun hus => List.forall_mem_cons.mpr ⟨⟨htells, hitem⟩, hus⟩
        cases hcourse with
        | going items => exact ⟨.going (hfirst items), hnext⟩
        | ended before tells ends after =>
          have hbefore := hfirst before
          exact ⟨.ended hbefore tells ends after, hnext⟩
      | false =>
        rw [hitem] at rest
        obtain ⟨hidle, rfl⟩ := rest.idle rfl
        have hended : Course G next.obj ([] ++ t :: ts) :=
          .ended (fun _ hu => nomatch hu) htells hitem hidle
        exact ⟨hended, rfl⟩

/-- Each step of a walk tells something or does nothing. -/
theorem Course.of_mem {ts : List (Stride σ)} {t : Stride σ} (hc : Course G m ts) (ht : t ∈ ts) :
    Tells G m t ∨ t.Idle := by
  cases hc with
  | going items => exact .inl (items t ht).1
  | ended before tells _ after =>
    rcases List.mem_append.mp ht with ht | ht
    · exact .inl (before t ht).1
    · rcases List.mem_cons.mp ht with rfl | ht
      · exact .inl tells
      · exact .inr (after t ht)

/-- What holds before each step. -/
theorem Strides.quiet {w w' : Walk} {ts : List (Stride σ)} (hs : Strides G w ts w') :
    ∀ t ∈ ts, t.before.pending = .none := by
  induction hs with
  | none => exact fun _ ht => nomatch ht
  | one quiet _ _ ih => exact List.forall_mem_cons.mpr ⟨quiet, ih⟩

/-! ## Beginnings -/

variable {seq : Handle} {it : Obj}

theorem looking_live {o : Obj} : Ends (looking G o h) fun y => y.2.live = h.live := by
  refine Attempt.proceed_ends (P := fun k => k.live = h.live) (fun _ hr => requested_live hr)
    fun it k hk y hy => ?_
  obtain ⟨z, hz, rfl⟩ := map_ok hy
  exact (requested_live hz).trans hk

/-- A walk that began owns one handle, and one that did not begin owns none. -/
inductive Begun (h k : Host σ) : Except ExceptionReport Walk → Prop where
  | walking (m : Obj) (live : k.live = h.live + 1) : Begun h k (.ok ⟨⟨m, .owned⟩, false⟩)
  | refused (c : ExceptionReport) (live : k.live = h.live) : Begun h k (.error c)

theorem start_ok {r : Except ExceptionReport Walk} (hp : h.pending = none)
    (hr : (start G seq).run.run h = .ok (r, k)) : k.pending = none ∧ Begun h k r := by
  rw [start_run seq hp] at hr
  rcases hl : looking G seq.obj h with e | ⟨c | next, k₁⟩
  · rw [hl] at hr
    cases hr
  · rw [hl] at hr
    cases hr
    exact ⟨looking_pending hp _ hl, .refused c (looking_live _ hl)⟩
  · rw [hl] at hr
    cases hr
    have hlive : k₁.live = h.live := looking_live _ hl
    exact ⟨looking_pending hp _ hl, .walking next (congrArg (· + 1) hlive)⟩

/-- The host after the iterator and its `__next__` were found. -/
def found (G : Guest σ) (seq it : Obj) (h : Host σ) : Host σ :=
  let k := h.after (G.iterator seq h.world)
  k.after (G.getAttr it "__next__" k.world)

/-- A walk begins with an iterator and its `__next__`. -/
structure Finds (G : Guest σ) (seq : Obj) (h : Host σ) (it m : Obj) : Prop where
  iterator : (G.iterator seq h.world).value = .value it
  next : (G.getAttr it "__next__" (h.after (G.iterator seq h.world)).world).value = .value m

/-- Then the iterator's handle ends, and that of the `__next__` stays. -/
theorem start_run_of_finds (hp : h.pending = none) (hf : Finds G seq.obj h it m) :
    (start G seq).run.run h =
      .ok (.ok ⟨⟨m, .owned⟩, false⟩,
        ((found G seq.obj it h).after (G.release it (found G seq.obj it h).world)).hold 1) := by
  rw [start_run seq hp]
  unfold looking
  rw [requested_of_value hf.iterator]
  show Attempt.proceed (((h.after (G.iterator seq.obj h.world)).requested G _
    (G.getAttr it "__next__")).map _) _ = _
  rw [requested_of_value hf.next]
  rfl

section Keeping

variable {M : Estate σ} {S : Store} (hM : G.CountsReferences M) (hp : h.pending = none)
  (hf : Finds G seq.obj h it m) (hs : M.sound (found G seq.obj it h).world)

include hM hp hf hs

/-- If the references are accounted for, and what was found refers to the iterator, then the
iterator is there when the walk has begun, and stays there when the host releases others of its
references, that to the iterable among them. -/
theorem start_keeps {gone rest ps : List Obj} {c : Content} {s : Option Nat}
    (ha : (M.store (found G seq.obj it h).world).Accounted (it :: (gone ++ rest)))
    (hmem : m ∈ rest) (hm : M.store (found G seq.obj it h).world m = some ⟨c, s⟩)
    (hc : c.holds = some ps) (bound : it ∈ ps) :
    ∃ k, (start G seq).run.run h = .ok (.ok ⟨⟨m, .owned⟩, false⟩, k) ∧
      (M.store k.world).Accounted (gone ++ rest) ∧ (∃ d, M.store k.world it = some d) ∧
      ∀ S, (M.store k.world).Releases gone S → ∃ d, S it = some d := by
  obtain ⟨S, hr⟩ := ha.exists_releases hm hc bound
  obtain ⟨-, hstore⟩ := hM.release hs hr
  have hmem' : m ∈ gone ++ rest := List.mem_append_right gone hmem
  -- the references as the iterator's, which goes, and the others
  change (M.store _).Accounted ([it] ++ (gone ++ rest)) at ha
  obtain ⟨⟨s', hm'⟩, hthere⟩ := ha.kept hr hmem' hm hc bound
  have ha' : S.Accounted (gone ++ rest) := ha.releases hr
  refine ⟨_, start_run_of_finds hp hf, ?_⟩
  show (M.store (G.release it _).world).Accounted _ ∧ (∃ d, M.store (G.release it _).world it = _) ∧
    ∀ S, (M.store (G.release it _).world).Releases gone S → _
  rw [hstore]
  exact ⟨ha', hthere, fun S₂ hr₂ => (ha'.kept hr₂ hmem hm' hc bound).2⟩

/-- An iterator that nothing else has a reference to ends before the walk takes a step. -/
theorem start_loses {c : Content} (hit : M.store (found G seq.obj it h).world it = some ⟨c, some 0⟩)
    (hr : (M.store (found G seq.obj it h).world).Releases [it] S) :
    ∃ k, (start G seq).run.run h = .ok (.ok ⟨⟨m, .owned⟩, false⟩, k) ∧
      M.store k.world it = none := by
  obtain ⟨-, hstore⟩ := hM.release hs hr
  refine ⟨_, start_run_of_finds hp hf, ?_⟩
  show M.store (G.release it _).world it = none
  rw [hstore]
  exact hr.gone hit

end Keeping

/-! ## The laws of walking -/

/-- What a host can rely on when it walks over an object. -/
structure Laws (G : Guest σ) (seq : Handle) (h : Host σ) : Prop where
  begins {r : Except ExceptionReport Walk} {k : Host σ} :
    (start G seq).run.run h = .ok (r, k) → k.pending = none ∧ Begun h k r
  /-- However many steps it takes, it yields what `__next__` gave, then perhaps one error or end, and
  then nothing runs any more. Each item is a handle more, and nothing is left pending. -/
  walks {m : Obj} {ts : List (Stride σ)} {w : Walk} : Strides G ⟨⟨m, .owned⟩, false⟩ ts w →
    Course G m ts ∧ w.next = ⟨m, .owned⟩ ∧ ∀ t ∈ ts, t.after.pending = none ∧
      t.after.live = t.before.live + if t.step.isItem then 1 else 0
  /-- A step comes back, unless an exception is printed and this ends the process. -/
  returns {w : Walk} {k : Host σ} {e : Exit} : (w.step G).run k = .error e →
    w.done = false ∧ k.printing = true ∧ ∃ p v, (G.print p v).value = some e.status
  /-- With the walk its handle ends. -/
  ends {m : Obj} {done : Bool} {k : Host σ} : (drop G ⟨⟨m, .owned⟩, done⟩).run k =
    .ok ((), (k.after (G.release m k.world)).hold (-1))
  /-- A `__next__` that refers to its iterator keeps it. -/
  keeps {M : Estate σ} {it m : Obj} {gone rest ps : List Obj} {c : Content} {s : Option Nat} :
    G.CountsReferences M → Finds G seq.obj h it m → M.sound (found G seq.obj it h).world →
    (M.store (found G seq.obj it h).world).Accounted (it :: (gone ++ rest)) → m ∈ rest →
    M.store (found G seq.obj it h).world m = some ⟨c, s⟩ → c.holds = some ps → it ∈ ps →
      ∃ k, (start G seq).run.run h = .ok (.ok ⟨⟨m, .owned⟩, false⟩, k) ∧
        (M.store k.world).Accounted (gone ++ rest) ∧ (∃ d, M.store k.world it = some d) ∧
        ∀ S, (M.store k.world).Releases gone S → ∃ d, S it = some d
  /-- An iterator that nothing refers to is lost, though there is a walk over it. -/
  loses {M : Estate σ} {it m : Obj} {c : Content} {S : Store} :
    G.CountsReferences M → Finds G seq.obj h it m → M.sound (found G seq.obj it h).world →
    M.store (found G seq.obj it h).world it = some ⟨c, some 0⟩ →
    (M.store (found G seq.obj it h).world).Releases [it] S →
      ∃ k, (start G seq).run.run h = .ok (.ok ⟨⟨m, .owned⟩, false⟩, k) ∧ M.store k.world it = none

/-- **Walking.** With nothing pending, a walk over any object of any guest goes as `Laws` says. -/
theorem walking_laws (G : Guest σ) (seq : Handle) (h : Host σ) (hp : h.pending = none) :
    Laws G seq h where
  begins := start_ok hp
  walks hs := by
    obtain ⟨hcourse, hnext⟩ := hs.course
    refine ⟨hcourse, hnext, fun t ht => ?_⟩
    have hquiet := hs.quiet t ht
    rcases hcourse.of_mem ht with htells | hidle
    · exact ⟨htells.pending hquiet, htells.live⟩
    · rw [hidle.after, hidle.step]
      exact ⟨hquiet, (Int.add_zero _).symm⟩
  returns {w k e} he := by
    have hdone : w.done = false := by
      cases hd : w.done with
      | false => rfl
      | true =>
        rw [step_run_of_done hd] at he
        cases he
    have hsurvives := step_has (Trait.surviving_lawful G fun _ => ()) w k
    rw [he] at hsurvives
    cases hsurvives with
    | printed on ended => exact ⟨hdone, on, _, _, ended⟩
  ends := Handle.drop_owned_run ..
  keeps hM hf hs ha hmem hm hc bound := start_keeps hM hp hf hs ha hmem hm hc bound
  loses hM hf hs hit hr := start_loses hM hp hf hs hit hr

/-! ## Walks of the bookkeeper -/

section Bookkeeper

open Embedder.Bookkeeper

/-- A list with one integer. -/
def shelf : Bookkeeper where
  heap := (fresh.heap.put ⟨2⟩ ⟨.int 7, some 0⟩).put ⟨3⟩ ⟨.list [some ⟨2⟩], some 0⟩
  nextId := 4

theorem shelf_sound : shelf.Sound :=
  (fresh_sound.make (t := .int 7) fun _ h => by cases h).make fun _ h => by cases h

/-- The list with an iterator over it and the `__next__` of that. -/
theorem found_shelf_sound : (found guest ⟨3⟩ ⟨4⟩ (Host.fresh shelf)).world.Sound := by
  have hiterated := iterate_answers (n := 1) ⟨by decide, shelf_sound⟩ (l := ⟨3⟩) rfl
  have hnext := next_answers (n := 0) (i := ⟨4⟩) (l := ⟨3⟩) (k := 0) hiterated.holds.fits rfl
  exact hnext.holds.fits.2

theorem found_shelf_accounted :
    (estate.store (found guest ⟨3⟩ ⟨4⟩ (Host.fresh shelf)).world).Accounted
      (⟨4⟩ :: ([⟨3⟩] ++ [⟨5⟩])) := by
  refine ⟨[⟨0⟩, ⟨1⟩, ⟨2⟩, ⟨3⟩, ⟨4⟩, ⟨5⟩], .of_forall (by decide) ?_ (by decide) (by decide)⟩
  intro o d ho
  obtain ⟨t, ht, -⟩ := Heap.some_of_store ho
  have hid : o.id < 6 := found_shelf_sound.id_lt ht
  obtain ⟨id⟩ := o
  have hcases : ∀ i < 6, (⟨i⟩ : Obj) ∈ [⟨0⟩, ⟨1⟩, ⟨2⟩, ⟨3⟩, ⟨4⟩, (⟨5⟩ : Obj)] := by decide
  exact hcases id hid

theorem finds_shelf : Finds guest ⟨3⟩ (Host.fresh shelf) ⟨4⟩ ⟨5⟩ := ⟨rfl, rfl⟩

/-- The walk over the list has the iterator's only reference. -/
theorem start_shelf_run : (start guest ⟨⟨3⟩, .owned⟩).run.run (Host.fresh shelf) =
    .ok (.ok ⟨⟨⟨5⟩, .owned⟩, false⟩, (Host.fresh (Bookkeeper.mk
      ((found guest ⟨3⟩ ⟨4⟩ (Host.fresh shelf)).world.heap.put ⟨4⟩ ⟨.iterator ⟨3⟩ 0, some 0⟩)
      6)).hold 1) := by
  have hsettle : (found guest ⟨3⟩ ⟨4⟩ (Host.fresh shelf)).world.settle [⟨4⟩] =
      ⟨(found guest ⟨3⟩ ⟨4⟩ (Host.fresh shelf)).world.heap.put ⟨4⟩ ⟨.iterator ⟨3⟩ 0, some 0⟩, 6⟩ := by
    rw [settle_shared (t := .iterator ⟨3⟩ 0) (n := 0) rfl, settle]
    rfl
  rw [start_run_of_finds rfl finds_shelf]
  show Except.ok (_, (Host.after _ ⟨(), Bookkeeper.settle _ [⟨4⟩], []⟩).hold 1) = _
  rw [hsettle]
  rfl

/-- A walk over the list yields its integer, ends, and stays at its end. Its iterator is there, and
would be without the host's own reference to the list. -/
theorem walk_over_shelf :
    (Host.fresh shelf).pending = none ∧
    Laws guest ⟨⟨3⟩, .owned⟩ (Host.fresh shelf) ∧
    ((do
      let w ← start guest ⟨⟨3⟩, .owned⟩
      let (s₁, w) ← w.step guest
      let (s₂, w) ← w.step guest
      let (s₃, _) ← w.step guest
      pure [s₁.isItem, s₂.isItem, s₃.isItem] :
        Attempt Bookkeeper ExceptionReport (List Bool)).run.run
          (Host.fresh shelf)).toOption.map (·.1) = some (.ok [true, false, false]) ∧
    ∃ k, (start guest ⟨⟨3⟩, .owned⟩).run.run (Host.fresh shelf) =
        .ok (.ok ⟨⟨⟨5⟩, .owned⟩, false⟩, k) ∧
      (∃ d, estate.store k.world ⟨4⟩ = some d) ∧
      ∀ S, (estate.store k.world).Releases [⟨3⟩] S → ∃ d, S ⟨4⟩ = some d := by
  have hlaws := walking_laws guest ⟨⟨3⟩, .owned⟩ (Host.fresh shelf) rfl
  refine ⟨rfl, hlaws, ?_, ?_⟩
  · rw [Attempt.run_bind_of_ok start_shelf_run]
    decide +kernel
  · have hmethod : estate.store (found guest ⟨3⟩ ⟨4⟩ (Host.fresh shelf)).world ⟨5⟩ =
        some ⟨.other [⟨4⟩], some 0⟩ := by decide +kernel
    obtain ⟨k, hrun, -, hthere, hstays⟩ := hlaws.keeps countsReferences finds_shelf
      found_shelf_sound found_shelf_accounted (List.mem_singleton_self _) hmethod rfl
      (List.mem_singleton_self _)
    exact ⟨k, hrun, hthere, hstays⟩

/-- The bookkeeper with iterators whose `__next__` is no method and knows nothing of them. -/
def unbound : Guest Bookkeeper :=
  { guest with
    getAttr := fun _ name => make (.text name)
    call := fun _ _ => make (.int 7) }

theorem found_unbound_sound : (found unbound ⟨3⟩ ⟨4⟩ (Host.fresh shelf)).world.Sound := by
  have hiterated := iterate_answers (n := 1) ⟨by decide, shelf_sound⟩ (l := ⟨3⟩) rfl
  exact hiterated.holds.fits.2.make fun _ h => by cases h

/-- The iterator ends with its handle, and the list has one reference less. -/
theorem unbound_releases :
    ∃ S, (estate.store (found unbound ⟨3⟩ ⟨4⟩ (Host.fresh shelf)).world).Releases [⟨4⟩] S :=
  ⟨_, .last (c := .other [⟨3⟩]) (by decide +kernel) rfl
    (.shared (c := .list [some ⟨2⟩]) (n := 0) (by decide +kernel) (.done _))⟩

/-- What an iterator raises is the error of the step while printing is off, and while it is on the
step may never return. What a walk found by the name of `__next__` need not keep its iterator: here
it is gone when the first item is yielded. -/
theorem step_ends_process :
    ((step abrupt ⟨⟨willingObj, .owned⟩, false⟩).run (Host.fresh true)).toOption.map
      (fun x => match x.1.1 with | .failed r => some r | _ => none) = some (some ⟨"", "", none⟩) ∧
    endStatus ((step abrupt ⟨⟨willingObj, .owned⟩, false⟩).run
      { Host.fresh true with printing := true }) = some 3 ∧
    ∃ k, (start unbound ⟨⟨3⟩, .owned⟩).run.run (Host.fresh shelf) =
        .ok (.ok ⟨⟨⟨5⟩, .owned⟩, false⟩, k) ∧ estate.store k.world ⟨4⟩ = none ∧
      ∃ o w k', (step unbound ⟨⟨⟨5⟩, .owned⟩, false⟩).run k = .ok ((.item o, w), k') := by
  refine ⟨by decide +kernel, by decide +kernel, ?_⟩
  obtain ⟨S, hr⟩ := unbound_releases
  have hcounts : unbound.CountsReferences estate :=
    ⟨countsReferences.release, countsReferences.refcount⟩
  have hfinds : Finds unbound ⟨3⟩ (Host.fresh shelf) ⟨4⟩ ⟨5⟩ := ⟨rfl, rfl⟩
  have hlost : ∃ k, (start unbound ⟨⟨3⟩, .owned⟩).run.run (Host.fresh shelf) =
      .ok (.ok ⟨⟨⟨5⟩, .owned⟩, false⟩, k) ∧ estate.store k.world ⟨4⟩ = none :=
    start_loses hcounts rfl hfinds found_unbound_sound (c := .other [⟨3⟩]) (by decide +kernel) hr
  obtain ⟨k, hrun, hgone⟩ := hlost
  obtain ⟨hpending, -⟩ := start_ok rfl hrun
  exact ⟨k, hrun, hgone, _, _, _, step_run ⟨⟨5⟩, .owned⟩ hpending⟩

end Bookkeeper

end Embedder.Walk
