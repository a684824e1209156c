import Embedder.Proofs.Balance
import Embedder.Proofs.Transfers

/-!
# The references in the bridge's hands

A guest with a ledger writes down every reference that comes to the bridge or goes from it, so the
ledger says how many references to an object the bridge holds. Some of them belong to an exception
that is pending; the others are in hand. `InHand x` is the conduct that says how many references
to `x` are in hand more than before. It is a conduct on a scale: each function of the bridge returns
with as many references more as the handles that it gives back hold, and with as many fewer as the
handles that it ends held.
-/

namespace Embedder

open Exception

variable {σ α : Type} {G : Guest σ} {x : Obj}

/-! ## What is pending -/

/-- A conduct that weighs what is in hand, and not what is pending: an exception that is taken comes
into hand, and one that is left goes out of it. -/
structure Conduct.WeighsPending (w : Scale) (G : Guest σ) (R : Conduct σ) : Prop
    extends R.Weighs w G where
  take : ∀ {h p}, h.pending = some p → R (w.refs p.refs) h { h with pending := none }
  leave : ∀ {h} p, h.pending = none → R (-w.refs p.refs) h { h with pending := some p }

namespace Exception

variable {w : Scale} {R : Conduct σ}

theorem clear_weighed (hR : R.WeighsPending w G) : (clear G).Obeys R fun _ => 0 := by
  intro h u h' hr
  unfold clear at hr
  rw [Bridge.run_get_bind] at hr
  cases hp : h.pending with
  | none =>
    rw [hp] at hr
    obtain ⟨-, rfl⟩ := Bridge.pure_ok hr
    exact hR.refl _
  | some p =>
    rw [hp] at hr
    obtain ⟨u, h₁, htake, hrest⟩ := Bridge.bind_ok hr
    cases htake
    have hall := hR.trans (hR.take hp) (releasePending_weighed hR.toWeighs p _ _ h' hrest)
    rwa [Int.add_right_neg] at hall

/-- An exception that is left pending is no longer in hand. -/
theorem raise_weighed (hR : R.WeighsPending w G) (p : Pending) :
    (raise G p).Obeys R fun _ => -w.refs p.refs := by
  intro h u h' hr
  obtain ⟨u, h₁, hclear, hleave⟩ := Bridge.bind_ok hr
  cases hleave
  have hall := hR.trans (clear_weighed hR h _ h₁ hclear)
    (hR.leave p (clear_clears h _ h₁ hclear))
  rwa [Int.zero_add] at hall

end Exception

/-- The references to an object that the bridge holds. -/
def Host.held (x : Obj) (h : Host (Ledgered σ)) : Int := Transfer.net h.world.notes x

/-- The references to an object that are not those of a pending exception. -/
def Host.inHand (x : Obj) (h : Host (Ledgered σ)) : Int :=
  h.held x - Obj.refs (h.pending.elim [] Pending.refs) x

/-- `n` references more to an object are in hand. -/
def InHand (x : Obj) : Conduct (Ledgered σ) :=
  fun n h h' => h'.inHand x = h.inHand x + n

/-- The scale that counts references to an object. -/
def Scale.references (x : Obj) : Scale := ⟨0, fun o => o.ref x⟩

theorem Scale.references_refs (os : List Obj) : (Scale.references x).refs os = Obj.refs os x := rfl

/-! ## What the ledger says of an answer -/

namespace Reply

theorem net_transfers (r : Reply α) :
    Transfer.net r.transfers x = r.weight (Scale.references x) (fun _ => 0) 0 := by
  cases r with
  | value a => rfl
  | raised p => exact (Transfer.net_took p.refs x).trans (Int.zero_add _).symm
  | failed => rfl

theorem net_transfersNew (r : Reply Obj) :
    Transfer.net r.transfersNew x = r.weight (Scale.references x) (Scale.references x).ref 0 := by
  cases r with
  | value o => exact Int.add_zero _
  | raised p => exact net_transfers (α := Obj) (.raised p)
  | failed => rfl

theorem net_transfersItem (item : Obj) (r : Reply Unit) :
    Transfer.net (r.transfersItem item) x =
      r.weight (Scale.references x) (fun _ => -item.ref x) (-item.ref x) := by
  cases r with
  | value u => exact Int.add_zero _
  | raised p =>
    show _ + Transfer.net (p.refs.map .took) x = _
    rw [Transfer.net_took]
    rfl
  | failed => exact Int.add_zero _

end Reply

/-- The references of an exception go to be normalized, and those of its successor come. -/
theorem Transfer.net_normalize (p q : Pending) :
    net (p.refs.map .gave ++ q.refs.map .took) x = Obj.refs q.refs x - Obj.refs p.refs x := by
  rw [net_append, net_gave, net_took]
  exact (Int.add_comm _ _).trans Int.sub_eq_add_neg.symm

/-- The ledger has what a call brings. -/
theorem Guest.Brings.of_ledgered {f : Ledgered σ → Outcome (Ledgered σ) α} {n : α → Int} {e : Int}
    (hf : G.ledgered.Brings (Scale.references x) f n e) :
    ∃ (g : σ → Outcome σ α) (passed : Reply α → List Transfer), G.Act g ∧
      f = Noted.act Transfer.record g passed ∧
      ∀ r, Transfer.net (passed r) x = r.weight (Scale.references x) n e := by
  cases hf with
  | importModule _ | getAttr _ _ | str _ | newText _ | joinTexts _ _ | newList _ | newTuple _
  | ofFloat _ | ofInt _ | ofBool _ | iterator _ | call _ _ =>
    exact ⟨_, _, by constructor, rfl, Reply.net_transfersNew⟩
  | setListItem _ _ item | setTupleItem _ _ item =>
    exact ⟨_, _, by constructor, rfl, Reply.net_transfersItem item⟩
  | _ => exact ⟨_, _, by constructor, rfl, Reply.net_transfers⟩

/-! ## What is in hand -/

theorem inHand_composes : Conduct.Composes (InHand (σ := σ) x) where
  refl h := (Int.add_zero _).symm
  trans := by
    intro m n h₁ h₂ h₃ hm hn
    unfold InHand at hm hn ⊢
    omega

/-- What is noted is in hand, as long as nothing else happens. -/
theorem inHand_of_noted {h h' : Host (Ledgered σ)} {ts : List Transfer}
    (hnotes : h'.world.notes = h.world.notes ++ ts) (hpending : h'.pending = h.pending) :
    InHand x (Transfer.net ts x) h h' := by
  unfold InHand Host.inHand Host.held
  rw [hnotes, hpending, Transfer.net_append]
  omega

theorem act_inHand (f : σ → Effect σ α) (passed : α → List Transfer) :
    (Bridge.act (Noted.act Transfer.record f passed)).Obeys (InHand x)
      fun a => Transfer.net (passed a) x := by
  intro h a h' hr
  obtain ⟨rfl, rfl⟩ := Bridge.act_ok hr
  exact inHand_of_noted rfl rfl

theorem inHand_weighs (G : Guest σ) (x : Obj) :
    Conduct.Weighs (Scale.references x) G.ledgered (InHand x) where
  toComposes := inHand_composes
  count n h := by
    show h.inHand x = h.inHand x + n * 0
    omega
  record r h := (Int.add_zero (h.inHand x)).symm
  retain o h := by
    have hone : Transfer.net [.made o] x = o.ref x := Int.add_zero _
    show InHand x (o.ref x) h _
    rw [← hone]
    exact inHand_of_noted rfl rfl
  release o := (act_inHand (G.release o) fun _ => [.ended o]).congr fun _ => Int.add_zero _

/-- Taken or left, an exception is held: only whether it is in hand changes. -/
theorem inHand_pending (G : Guest σ) (x : Obj) :
    Conduct.WeighsPending (Scale.references x) G.ledgered (InHand x) where
  toWeighs := inHand_weighs G x
  take {h p} hp := by
    show h.held x - 0 = h.held x - _ + _
    rw [hp]
    show h.held x - 0 = h.held x - Obj.refs p.refs x + Obj.refs p.refs x
    omega
  leave {h} p hp := by
    show h.held x - Obj.refs p.refs x = h.held x - _ + -Obj.refs p.refs x
    rw [hp]
    show h.held x - Obj.refs p.refs x = h.held x - 0 + -Obj.refs p.refs x
    omega

theorem inHand_acts (G : Guest σ) (x : Obj) :
    Conduct.WeighsActs (Scale.references x) G.ledgered (InHand x) where
  toWeighs := inHand_weighs G x
  act hf := by
    obtain ⟨g, passed, -, rfl, hpassed⟩ := hf.of_ledgered
    exact (act_inHand g passed).congr hpassed
  normalize p := (act_inHand _ _).congr fun q => Transfer.net_normalize p q
  print p := (act_inHand _ _).congr fun _ => Transfer.net_gave p.refs x
  take := (inHand_pending G x).take
  clear := clear_weighed (inHand_pending G x)
  raise := raise_weighed (inHand_pending G x)

end Embedder
