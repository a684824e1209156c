import Embedder.Proofs.References

/-!
# How handles end

An operation that takes a handle ends it on every path, and the ledger shows how. What is dropped
gives its reference up. What is passed on is passed on once: a borrowed handle gets a reference
first, the reference is stored, or else the call that was to store it gives it up. What the bridge
does after that to tell why it failed leaves the references that it holds as they are.
-/

namespace Embedder

open Exception

variable {σ α : Type} {G : Guest σ} {s s' : Host (Ledgered σ)} {h : Handle}

/-! ## What is written -/

/-- The ledger only grows. -/
def Writes : Conduct (Ledgered σ) := fun _ s s' => ∃ ts, s'.world.notes = s.world.notes ++ ts

theorem writes_of_eq {n : Int} (hnotes : s'.world.notes = s.world.notes) : Writes n s s' :=
  ⟨[], by rw [hnotes, List.append_nil]⟩

theorem act_writes (f : σ → Effect σ α) (passed : α → List Transfer) :
    (Bridge.act (Noted.act Transfer.record f passed)).Obeys Writes fun _ => 0 := by
  intro s a s' hr
  obtain ⟨-, rfl⟩ := Bridge.act_ok hr
  exact ⟨_, rfl⟩

theorem writes_inert (G : Guest σ) : Conduct.Inert G.ledgered Writes where
  refl _ := writes_of_eq rfl
  trans := by
    rintro m n s₁ s₂ s₃ ⟨ts, hts⟩ ⟨us, hus⟩
    exact ⟨ts ++ us, by rw [hus, hts, List.append_assoc]⟩
  count _ _ := writes_of_eq rfl
  record _ _ := writes_of_eq rfl
  retain o s := ⟨[.made o], rfl⟩
  release o := act_writes (G.release o) fun _ => [.ended o]
  leave _ _ := writes_of_eq rfl
  act hf := by
    obtain ⟨g, passed, -, rfl⟩ := hf.of_noting
    exact act_writes g passed

/-- Without an exception pending, all that is held is in hand. -/
theorem Host.inHand_eq_held (hp : s.pending = none) (x : Obj) : s.inHand x = s.held x := by
  rw [Host.inHand, hp]
  exact Int.sub_zero _

/-- What is written is what is held more. -/
theorem net_of_inHand {n : Int} {x : Obj} {ts : List Transfer} (hp : s.pending = none)
    (hp' : s'.pending = none) (hnotes : s'.world.notes = s.world.notes ++ ts)
    (hall : InHand x n s s') : Transfer.net ts x = n := by
  unfold InHand at hall
  rw [Host.inHand_eq_held hp, Host.inHand_eq_held hp', Host.held, hnotes,
    Transfer.net_append] at hall
  exact Int.add_left_cancel hall

/-! ## The end of a handle -/

namespace Handle

/-- What is written when a handle gets ready to be passed on: a borrowed one gets a reference. -/
def fee (h : Handle) : List Transfer :=
  match h.ownership with
  | .owned => []
  | .borrowed => [.made h.obj]

/-- What is written when a handle is dropped: an owned one gives its reference up. -/
def parting (h : Handle) : List Transfer :=
  match h.ownership with
  | .owned => [.ended h.obj]
  | .borrowed => []

end Handle

/-- A handle ended, and `ts` was written. -/
structure Parted (h : Handle) (ts : List Transfer) (s s' : Host (Ledgered σ)) : Prop where
  notes : s'.world.notes = s.world.notes ++ ts
  live : s'.live = s.live - h.stake
  pending : s'.pending = s.pending

namespace Handle

/-- A promoted handle ended, and an owned one is alive in its place. -/
theorem promote_run (G : Guest σ) (h : Handle) (s : Host (Ledgered σ)) :
    ∃ s', (h.promote G.ledgered).run s = .ok (⟨h.obj, .owned⟩, s') ∧
      Parted h h.fee s { s' with live := s'.live - 1 } := by
  obtain ⟨o, ownership⟩ := h
  cases ownership with
  | owned => exact ⟨s, rfl, (List.append_nil _).symm, rfl, rfl⟩
  | borrowed =>
    refine ⟨_, rfl, rfl, ?_, rfl⟩
    show s.live + 1 - 1 = s.live - 0
    omega

/-- A stolen reference is there in any case. -/
theorem steal_run (G : Guest σ) (h : Handle) (s : Host (Ledgered σ)) :
    ∃ s', (h.steal G.ledgered).run s = .ok (h.obj, s') ∧ Parted h h.fee s s' := by
  obtain ⟨s₁, hpromote, hparted⟩ := promote_run G h s
  exact ⟨_, (Bridge.run_bind hpromote).trans rfl, hparted⟩

theorem drop_run (G : Guest σ) (h : Handle) (s : Host (Ledgered σ)) :
    ∃ s', (h.drop G.ledgered).run s = .ok ((), s') ∧ Parted h h.parting s s' := by
  obtain ⟨o, ownership⟩ := h
  cases ownership with
  | owned => exact ⟨_, Bridge.run_bind (Bridge.act_run _ _), rfl, rfl, rfl⟩
  | borrowed =>
    exact ⟨s, rfl, (List.append_nil _).symm, (Int.sub_zero _).symm, rfl⟩

end Handle

/-! ## The end of an item -/

/-- An item that was to be stored is stored, or else given up by the call that was to store it. What
happens then to tell why leaves what is held as it is. -/
def Placed (o : Obj) (ts : List Transfer) : Except ExceptionReport Unit → Prop
  | .ok () => ts = [.gave o]
  | .error _ => ∃ rest, ts = .spent o :: rest ∧ ∀ x, Transfer.net rest x = 0

/-- A request gives the guest's answer, or else it fails, and more may be written. -/
theorem request_cases {context : String}
    {f : Ledgered σ → Outcome (Ledgered σ) α}
    {r : Except ExceptionReport α} (hr : (request G.ledgered context f).run.run s = .ok (r, s')) :
    (∃ a, (f s.world).value = .value a ∧ r = .ok a ∧ s' = s.after (f s.world)) ∨
      ((∀ a, (f s.world).value ≠ .value a) ∧ (∃ e, r = .error e) ∧
        Writes 0 (s.after (f s.world)) s') := by
  have hw := writes_inert G
  obtain ⟨answer, s₁, hask, hrest⟩ := Bridge.bind_ok hr
  obtain ⟨reply, s₂, hact, hreply⟩ := Bridge.bind_ok hask
  obtain ⟨rfl, rfl⟩ := Bridge.act_ok hact
  have failed : answer = none → ∃ e, r = .error e ∧ Writes 0 s₁ s' := by
    rintro rfl
    obtain ⟨report, s₃, hfetch, hdone⟩ := Bridge.bind_ok hrest
    obtain ⟨rfl, rfl⟩ := Bridge.pure_ok hdone
    exact ⟨report, rfl, fetch_obeys hw _ report _ hfetch⟩
  cases hvalue : (f s.world).value with
  | value a =>
    rw [hvalue] at hreply
    obtain ⟨rfl, rfl⟩ := Bridge.pure_ok hreply
    obtain ⟨rfl, rfl⟩ := Bridge.pure_ok hrest
    exact .inl ⟨a, rfl, rfl, rfl⟩
  | raised p =>
    rw [hvalue] at hreply
    obtain ⟨u, s₃, hraise, hpure⟩ := Bridge.bind_ok hreply
    obtain ⟨hnone, rfl⟩ := Bridge.pure_ok hpure
    obtain ⟨e, he, hmore⟩ := failed hnone
    exact .inr ⟨nofun, ⟨e, he⟩, hw.trans (raise_obeys hw p _ u _ hraise) hmore⟩
  | failed =>
    rw [hvalue] at hreply
    obtain ⟨hnone, rfl⟩ := Bridge.pure_ok hreply
    obtain ⟨e, he, hmore⟩ := failed hnone
    exact .inr ⟨nofun, ⟨e, he⟩, hmore⟩

theorem request_placed {context : String} {o : Obj} {f : σ → Outcome σ Unit}
    {r : Except ExceptionReport Unit} (hf : ∀ w, G.ledgered.Brings w
      (Noted.act Transfer.record f (Reply.transfersItem o))
      (fun _ => -w.ref o) (-w.ref o)) (hp : s.pending = none)
    (hr : (request G.ledgered context
      (Noted.act Transfer.record f (Reply.transfersItem o))).run.run s = .ok (r, s')) :
    ∃ ts, s'.world.notes = s.world.notes ++ ts ∧ Placed o ts r := by
  have hp' : s'.pending = none :=
    ((balanced_lawful G.ledgered).weighs.request context (hf _) s r s' hr).1 hp
  have hinHand : ∀ x, InHand x (leaves (fun _ => -o.ref x) (-o.ref x) r) s s' :=
    fun x => (inHand_acts G x).requests.request context (hf _) s r s' hr
  rcases request_cases hr with ⟨u, hvalue, rfl, rfl⟩ | ⟨hfailed, ⟨report, rfl⟩, ts, hts⟩
  · refine ⟨[.gave o], ?_, rfl⟩
    show s.world.notes ++ Reply.transfersItem o (f s.world.inner).value = _
    rw [show (f s.world.inner).value = .value u from hvalue]
    rfl
  · -- the first thing written is that the item was given up; the rest adds up to nothing
    have hspent : Reply.transfersItem o (f s.world.inner).value
        = .spent o :: (f s.world.inner).value.transfers := by
      cases hvalue : (f s.world.inner).value with
      | value u => exact absurd hvalue (hfailed u)
      | raised p => rfl
      | failed => rfl
    have hall : s'.world.notes
        = s.world.notes ++ .spent o :: ((f s.world.inner).value.transfers ++ ts) := by
      rw [hts, ← List.cons_append, ← hspent, ← List.append_assoc]
      rfl
    refine ⟨_, hall, _, rfl, fun x => ?_⟩
    have hnet := net_of_inHand hp hp' hall (hinHand x)
    rw [Transfer.net_cons, Transfer.gain_spent] at hnet
    change -o.ref x + _ = -o.ref x at hnet
    omega

namespace Handle

variable {r : Except ExceptionReport Unit} {target : Handle} {index : UInt64}

/-- An operation that steals its item and asks for it to be stored. -/
theorem place_ok {context : String} {f : Obj → σ → Outcome σ Unit}
    (hf : ∀ w o, G.ledgered.Brings w
      (Noted.act Transfer.record (f o) (Reply.transfersItem o))
      (fun _ => -w.ref o) (-w.ref o)) (hp : s.pending = none)
    (hr : ((liftM (h.steal G.ledgered) : Attempt _ ExceptionReport Obj) >>= fun o =>
      request G.ledgered context (Noted.act Transfer.record (f o)
        (Reply.transfersItem o))).run.run s = .ok (r, s')) :
    ∃ ts, Parted h (h.fee ++ ts) s s' ∧ Placed h.obj ts r := by
  have hbalanced := place_weighed (balanced_lawful G.ledgered).weighs context h (hf Scale.handles)
    s r s' hr
  obtain ⟨s₁, hsteal, hparted⟩ := steal_run G h s
  have hrequest := (Attempt.run_lift_bind hsteal).symm.trans hr
  obtain ⟨ts, hnotes, hplaced⟩ := request_placed (fun w => hf w h.obj) (hparted.pending.trans hp)
    hrequest
  refine ⟨ts, ⟨?_, ?_, ?_⟩, hplaced⟩
  · rw [hnotes, hparted.notes, List.append_assoc]
  · have hlive : s'.live = s.live + leaves (fun _ => -Scale.handles.stake h)
      (-Scale.handles.stake h) r := hbalanced.2
    rw [Scale.handles_stake] at hlive
    cases r with
    | ok u => exact hlive
    | error e => exact hlive
  · rw [hbalanced.1 hp, hp]

theorem setListItem_ok (hp : s.pending = none)
    (hr : (target.setListItem G.ledgered index h).run.run s = .ok (r, s')) :
    ∃ ts, Parted h (h.fee ++ ts) s s' ∧ Placed h.obj ts r :=
  place_ok (f := fun o => G.setListItem target.obj (signed index) o)
    (fun _ o => .setListItem target.obj (signed index) o) hp hr

theorem setTupleItem_ok (hp : s.pending = none)
    (hr : (target.setTupleItem G.ledgered index h).run.run s = .ok (r, s')) :
    ∃ ts, Parted h (h.fee ++ ts) s s' ∧ Placed h.obj ts r :=
  place_ok (f := fun o => G.setTupleItem target.obj (signed index) o)
    (fun _ o => .setTupleItem target.obj (signed index) o) hp hr

/-- A handle that ends with a scope in which nothing is left behind is dropped at its end. -/
theorem within_ok {ε : Type} {body : Attempt (Ledgered σ) ε α} {r : Except ε α}
    (hbody : ∀ {w : Scale} {R : Conduct (Ledgered σ)}, R.WeighsRequests w G.ledgered →
      body.Obeys R (fun _ => 0) 0) (hp : s.pending = none)
    (hr : (h.within G.ledgered body).run.run s = .ok (r, s')) :
    ∃ ts, Parted h (ts ++ h.parting) s s' ∧ ∀ x, Transfer.net ts x = 0 := by
  obtain ⟨r', s₁, hrun, hdrop⟩ := Bridge.bind_ok hr
  obtain ⟨u, s₂, hend, hpure⟩ := Bridge.bind_ok hdrop
  obtain ⟨rfl, rfl⟩ := Bridge.pure_ok hpure
  obtain ⟨s₃, hparting, hparted⟩ := drop_run G h s₁
  cases hparting.symm.trans hend
  obtain ⟨ts, hts⟩ := hbody (writes_inert G).lawful.weighs s r s₁ hrun
  have hbalanced := hbody (balanced_lawful G.ledgered).weighs s r s₁ hrun
  rw [leaves_zero] at hbalanced
  have hlive : s₁.live = s.live + 0 := hbalanced.2
  refine ⟨ts, ⟨?_, ?_, ?_⟩, fun x => ?_⟩
  · rw [hparted.notes, hts, List.append_assoc]
  · rw [hparted.live, hlive, Int.add_zero]
  · rw [hparted.pending, hbalanced.1 hp, hp]
  · have hinHand := hbody (inHand_acts G x).requests s r s₁ hrun
    rw [leaves_zero] at hinHand
    exact net_of_inHand hp (hbalanced.1 hp) hts hinHand

end Handle

/-- The handle of an import is dropped after the module was looked up, found or not. -/
theorem ModuleHandle.bind_ok {name : String} {r : Except Failure ModuleHandle}
    (hp : s.pending = none)
    (hr : (ModuleHandle.bind G.ledgered h name).run.run s = .ok (r, s')) :
    ∃ ts, Parted h (ts ++ h.parting) s s' ∧ ∀ x, Transfer.net ts x = 0 := by
  have parted : ∀ {r₁ s₁}, (h.within G.ledgered (checkedName name >>= fun checked =>
      (requestBorrowed G.ledgered "PyImport_AddModule" (G.ledgered.addModule checked)).mapError
        (Failure.moduleNotFound name))).run.run s = .ok (r₁, s₁) →
      ∃ ts, Parted h (ts ++ h.parting) s s₁ ∧ ∀ x, Transfer.net ts x = 0 :=
    Handle.within_ok (fun hR => lookUp_weighed hR name fun _ => rfl) hp
  rcases Attempt.bind_cases hr with ⟨e, -, hwithin⟩ | ⟨found, s₁, hwithin, hrest⟩
  · exact parted hwithin
  · obtain ⟨ts, hparted, hnet⟩ := parted hwithin
    -- what is reported of it is not in the ledger
    cases hrest
    exact ⟨ts, ⟨hparted.notes, hparted.live, hparted.pending⟩, hnet⟩

end Embedder
