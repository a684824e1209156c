import Embedder.Handle

/-!
# Runs of programs of the bridge

A program of the bridge runs from a host state to an answer and a host state, unless it ends the
process. The lemmas here run a program step by step, in both directions: the `run` lemmas say where
a known beginning leads, the `ok` lemmas what must have happened when a program returned.

The guest is opaque, but what an act of it does to the host is not (`act_run`): it gives the guest's
answer and state, and of the books it changes the queue and the log.
-/

namespace Embedder

variable {σ ε α β : Type} {h h' h₁ : Host σ} {a : α} {b : β}

theorem ok_of_toOption {x : Except ε α} (hx : x.toOption = some a) : x = .ok a := by
  cases x with
  | error e => cases hx
  | ok b =>
    cases hx
    rfl

namespace Bridge

theorem bind_ok {x : Bridge σ α} {f : α → Bridge σ β}
    (hr : (x >>= f).run h = .ok (b, h')) :
    ∃ a h₁, x.run h = .ok (a, h₁) ∧ (f a).run h₁ = .ok (b, h') := by
  rw [StateT.run_bind] at hr
  cases hx : x.run h with
  | error e => rw [hx] at hr; cases hr
  | ok p =>
    rw [hx] at hr
    exact ⟨p.1, p.2, rfl, hr⟩

theorem pure_ok {a b : α} (hr : (pure a : Bridge σ α).run h = .ok (b, h')) :
    b = a ∧ h' = h := by
  cases hr
  exact ⟨rfl, rfl⟩

theorem run_bind {x : Bridge σ α} {f : α → Bridge σ β} (hx : x.run h = .ok (a, h₁)) :
    (x >>= f).run h = (f a).run h₁ := by
  rw [StateT.run_bind, hx]
  rfl

theorem run_get_bind {f : Host σ → Bridge σ β} : (get >>= f).run h = (f h).run h := rfl

theorem run_modify_bind {g : Host σ → Host σ} {f : PUnit → Bridge σ β} :
    (modify g >>= f).run h = (f ⟨⟩).run (g h) := rfl

end Bridge

namespace Attempt

variable {f : α → Attempt σ ε β}

theorem run_get_bind {f : Host σ → Attempt σ ε α} : (get >>= f).run.run h = (f h).run.run h := rfl

theorem run_lift_bind {x : Bridge σ α} (hx : x.run h = .ok (a, h₁)) :
    ((liftM x : Attempt σ ε α) >>= f).run.run h = (f a).run.run h₁ := by
  show ((Except.ok <$> x) >>= _).run h = _
  rw [StateT.run_bind, StateT.run_map, hx]
  rfl

theorem run_lift {x : Bridge σ α} (hx : x.run h = .ok (a, h₁)) :
    (liftM x : Attempt σ ε α).run.run h = .ok (.ok a, h₁) := by
  show (Except.ok <$> x).run h = _
  rw [StateT.run_map, hx]
  rfl

theorem run_bind_of_ok {x : Attempt σ ε α} (hx : x.run.run h = .ok (.ok a, h₁)) :
    (x >>= f).run.run h = (f a).run.run h₁ := by
  show (x.run >>= _).run h = _
  rw [Bridge.run_bind hx]
  rfl

/-- An attempt that failed is not continued. -/
theorem run_bind_of_error {x : Attempt σ ε α} {e : ε} (hx : x.run.run h = .ok (.error e, h₁)) :
    (x >>= f).run.run h = .ok (.error e, h₁) := by
  show (x.run >>= _).run h = _
  rw [Bridge.run_bind hx]
  rfl

/-- An attempt failed in its first part, or went through it. -/
theorem bind_cases {x : Attempt σ ε α} {r : Except ε β} (hr : (x >>= f).run.run h = .ok (r, h')) :
    (∃ e, r = .error e ∧ x.run.run h = .ok (.error e, h')) ∨
    (∃ a h₁, x.run.run h = .ok (.ok a, h₁) ∧ (f a).run.run h₁ = .ok (r, h')) := by
  obtain ⟨r₁, h₁, hx, hrest⟩ := Bridge.bind_ok (x := x.run) hr
  cases r₁ with
  | ok a => exact .inr ⟨a, h₁, hx, hrest⟩
  | error e =>
    obtain ⟨rfl, rfl⟩ := Bridge.pure_ok hrest
    exact .inl ⟨e, rfl, hx⟩

/-- An attempt that succeeds went through both parts. -/
theorem bind_ok {x : Attempt σ ε α} (hr : (x >>= f).run.run h = .ok (.ok b, h')) :
    ∃ a h₁, x.run.run h = .ok (.ok a, h₁) ∧ (f a).run.run h₁ = .ok (.ok b, h') := by
  rcases bind_cases hr with ⟨e, he, -⟩ | hboth
  · cases he
  · exact hboth

/-- A process that ended is not continued. -/
theorem run_bind_of_exit {x : Attempt σ ε α} {e : Exit} (hx : x.run.run h = .error e) :
    (x >>= f).run.run h = .error e := by
  show (x.run >>= _).run h = _
  rw [StateT.run_bind, hx]
  rfl

/-- A program as an attempt succeeds. -/
theorem lift_ok {x : Bridge σ α} {r : Except ε α}
    (hr : (liftM x : Attempt σ ε α).run.run h = .ok (r, h')) :
    ∃ a, r = .ok a ∧ x.run h = .ok (a, h') := by
  change (Except.ok <$> x).run h = .ok (r, h') at hr
  rw [StateT.run_map] at hr
  cases hx : x.run h with
  | error e =>
    rw [hx] at hr
    cases hr
  | ok p =>
    rw [hx] at hr
    cases hr
    exact ⟨p.1, rfl, rfl⟩

end Attempt

/-! ## Acts of the guest -/

/-- The references that some notices put into the queue. -/
def deferredIn (notices : List Notice) : List Kept :=
  notices.filterMap fun
    | .deferred k => some k
    | .leaked _ => none

theorem deferredIn_cons_deferred (k : Kept) (ns : List Notice) :
    deferredIn (.deferred k :: ns) = k :: deferredIn ns := rfl

theorem deferredIn_cons_leaked (g : Nat) (ns : List Notice) :
    deferredIn (.leaked g :: ns) = deferredIn ns := rfl

/-- What is reported of a notice. -/
def Notice.report : Notice → Log.Record
  | .deferred k =>
    ⟨.debug, "lifecycle lock busy; deferred a reference release", [.count "generation" k.generation]⟩
  | .leaked generation =>
    ⟨.debug, "leaked a reference that outlived its interpreter", [.count "generation" generation]⟩

/-- Taking note of what Python code did to bindings changes the queue and the log. -/
theorem Bridge.forM_heed_run :
    ∀ (ns : List Notice) (h : Host σ), (ns.forM Bridge.heed).run h =
      .ok (⟨⟩, { h with
        waiting := h.waiting ++ deferredIn ns
        log := h.log ++ ns.map Notice.report }) := by
  intro ns
  induction ns with
  | nil =>
    intro h
    show Except.ok (PUnit.unit, h) = _
    simp [deferredIn]
  | cons n ns ih =>
    intro h
    -- the hypothesis is used at the host that the first notice left
    cases n with
    | deferred k =>
      show (ns.forM Bridge.heed).run { h with
        waiting := h.waiting ++ [k], log := h.log ++ [Notice.report (.deferred k)] } = _
      rw [ih, deferredIn_cons_deferred]
      simp
    | leaked g =>
      show (ns.forM Bridge.heed).run { h with log := h.log ++ [Notice.report (.leaked g)] } = _
      rw [ih, deferredIn_cons_leaked]
      simp

/-- The host after an act of the guest. -/
def Host.after (h : Host σ) (e : Effect σ α) : Host σ :=
  { h with
    world := e.world
    waiting := h.waiting ++ deferredIn e.notices
    log := h.log ++ e.notices.map Notice.report }

/-- An act that no binding was dropped in leaves the books alone. -/
theorem Host.after_of_quiet {e : Effect σ α} (he : e.notices = []) :
    h.after e = { h with world := e.world } := by
  simp [after, he, deferredIn]

/-- An act of the guest always returns. -/
theorem Bridge.act_run (f : σ → Effect σ α) (h : Host σ) :
    (Bridge.act f).run h = .ok ((f h.world).value, h.after (f h.world)) := by
  show ((f h.world).notices.forM Bridge.heed >>= fun _ => pure (f h.world).value : Bridge σ α).run
    ⟨h.toBooks, (f h.world).world⟩ = _
  rw [Bridge.run_bind (Bridge.forM_heed_run _ _)]
  rfl

theorem Bridge.act_ok {f : σ → Effect σ α} (hr : (Bridge.act f).run h = .ok (a, h')) :
    a = (f h.world).value ∧ h' = h.after (f h.world) := by
  rw [Bridge.act_run] at hr
  cases hr
  exact ⟨rfl, rfl⟩

/-! ## Programs that always return -/

/-- The program never ends the process. -/
def Bridge.Returns (x : Bridge σ α) : Prop := ∀ h, ∃ a h', x.run h = .ok (a, h')

namespace Bridge.Returns

variable {x : Bridge σ α} {f : α → Bridge σ β}

theorem pure (a : α) : (pure a : Bridge σ α).Returns := fun h => ⟨a, h, rfl⟩

theorem modify (f : Host σ → Host σ) : (modify f : Bridge σ Unit).Returns :=
  fun h => ⟨(), f h, rfl⟩

theorem act (f : σ → Effect σ α) : (act f).Returns := fun h => ⟨_, _, act_run f h⟩

theorem bind (hx : x.Returns) (hf : ∀ a, (f a).Returns) : (x >>= f).Returns := by
  intro h
  obtain ⟨a, h₁, hxr⟩ := hx h
  rw [run_bind hxr]
  exact hf a h₁

theorem get {f : Host σ → Bridge σ β} (hf : ∀ s, (f s).Returns) : (get >>= f).Returns :=
  fun h => hf h h

end Bridge.Returns

/-! ## What programs give -/

/-- Whatever the program gives is as said. -/
def Bridge.Yields (x : Bridge σ α) (P : α → Prop) : Prop := ∀ h a h', x.run h = .ok (a, h') → P a

namespace Bridge.Yields

variable {P : α → Prop} {Q : β → Prop} {x : Bridge σ α} {f : α → Bridge σ β}

theorem pure (ha : P a) : (pure a : Bridge σ α).Yields P := by
  intro h b h' hr
  obtain ⟨rfl, -⟩ := pure_ok hr
  exact ha

/-- What a program gives is what its last part gives. -/
theorem bind (hx : x.Yields P) (hf : ∀ a, P a → (f a).Yields Q) : (x >>= f).Yields Q := by
  intro h b h' hr
  obtain ⟨a, h₁, hxr, hrest⟩ := bind_ok hr
  exact hf a (hx h a h₁ hxr) h₁ b h' hrest

theorem after (hf : ∀ a, (f a).Yields Q) : (x >>= f).Yields Q :=
  bind (P := fun _ => True) (fun _ _ _ _ => trivial) fun a _ => hf a

end Bridge.Yields

/-- If the attempt fails, it does so as said. -/
def Attempt.Fails (x : Attempt σ ε α) (P : ε → Prop) : Prop :=
  x.run.Yields fun r => ∀ e, r = .error e → P e

namespace Attempt.Fails

variable {P : ε → Prop} {x : Attempt σ ε α} {f : α → Attempt σ ε β}

theorem mono {Q : ε → Prop} (hx : x.Fails P) (hPQ : ∀ e, P e → Q e) : x.Fails Q :=
  fun h r h' hr e he => hPQ e (hx h r h' hr e he)

theorem pure (a : α) : (pure a : Attempt σ ε α).Fails P :=
  Bridge.Yields.pure fun _ he => by cases he

theorem throw {e : ε} (he : P e) : (throw e : Attempt σ ε α).Fails P :=
  Bridge.Yields.pure fun _ h => by cases h; exact he

theorem lift (y : Bridge σ α) : (liftM y : Attempt σ ε α).Fails P := by
  intro h r h' hr e he
  obtain ⟨a, rfl, -⟩ := lift_ok hr
  cases he

theorem bind (hx : x.Fails P) (hf : ∀ a, (f a).Fails P) : (x >>= f).Fails P := by
  intro h r h' hr e he
  rcases bind_cases hr with ⟨e', rfl, hxr⟩ | ⟨a, h₁, -, hrest⟩
  · cases he
    exact hx h _ h' hxr e rfl
  · exact hf a h₁ r h' hrest e he

theorem get {f : Host σ → Attempt σ ε α} (hf : ∀ s, (f s).Fails P) : (get >>= f).Fails P :=
  fun h r h' hr => hf h h r h' hr

/-- An error that is translated is as the translation makes it. -/
theorem mapError {ε' : Type} {g : ε' → ε} {y : Attempt σ ε' α} (hg : ∀ e, P (g e)) :
    (y.mapError g).Fails P := by
  refine Bridge.Yields.after fun r => ?_
  cases r with
  | ok a => exact Bridge.Yields.pure fun _ he => by cases he
  | error e => exact Bridge.Yields.pure fun _ he => by cases he; exact hg e

theorem within {G : Guest σ} (o : Handle) (hx : x.Fails P) : (o.within G x).Fails P :=
  Bridge.Yields.bind hx fun _ hr => Bridge.Yields.after fun _ => Bridge.Yields.pure hr

end Attempt.Fails

end Embedder
