import Embedder.Proofs.MachineNumbers

/-!
# The heap of the interpreter that is modelled

Releasing a reference raises nothing, whatever it comes to: finalizers run, and what they raise is
reported (`takeSteps_neverRaises`). A reference that is not the last one goes without anything else
(`release_run_of_lasting`). Raising an exception makes new objects and takes references to classes
that are always there, and nothing that a program made is different (`throwNew_extends`).
-/

namespace Embedder.Machine

variable {α β : Type} {w w' : World} {x : Exec α} {o p : Obj}

/-! ## Programs that raise nothing -/

namespace Exec

/-- A program comes to its end from every state. -/
def NeverRaises (x : Exec α) : Prop := ∀ w, ∃ a w', x.run w = (.ok a, w')

namespace NeverRaises

theorem pure (a : α) : (Pure.pure a : Exec α).NeverRaises := fun w => ⟨a, w, rfl⟩

theorem look : (get : Exec World).NeverRaises := fun w => ⟨w, w, rfl⟩

theorem become (v : World) : (set v : Exec PUnit).NeverRaises := fun _ => ⟨⟨⟩, v, rfl⟩

theorem change (f : World → World) : (modify f : Exec PUnit).NeverRaises :=
  fun w => ⟨⟨⟩, f w, rfl⟩

theorem outcome (x : Exec α) : (Exec.outcome x).NeverRaises :=
  fun w => ⟨(x.run w).1, (x.run w).2, rfl⟩

theorem bind {f : α → Exec β} (hx : x.NeverRaises) (hf : ∀ a, (f a).NeverRaises) :
    (x >>= f).NeverRaises := by
  intro w
  obtain ⟨a, w', hx⟩ := hx w
  rw [run_bind_ok hx]
  exact hf a w'

theorem cell (o : Obj) : (cellOf o).NeverRaises := .bind .look fun _ => .pure _

theorem alloc (cls : Obj) (payload : Payload) (attrs : List (String × Obj)) :
    (alloc cls payload attrs).NeverRaises :=
  .bind (.change _) fun _ => .bind .look fun _ => .bind (.become _) fun _ => .pure _

end NeverRaises

end Exec

open Exec (NeverRaises)

theorem runFinalizer_neverRaises (o finalizer : Obj) : (runFinalizer o finalizer).NeverRaises := by
  refine .bind (.change _) fun _ => .bind (.outcome _) fun r => ?_
  cases r with
  | error r => exact .pure _
  | ok s =>
    refine .bind (.outcome _) fun r => ?_
    cases r with
    | ok v => exact .pure _
    | error r => exact .bind (.outcome _) fun _ => .pure _

theorem endOf_neverRaises (o : Obj) : (endOf o).NeverRaises := by
  refine .bind .look fun w => ?_
  dsimp only
  split
  next => exact .bind (runFinalizer_neverRaises o _) fun _ => .pure _
  next => exact .pure _

theorem atDepth_neverRaises {steps : Exec (List ReleaseStep)} {waits : Exec Unit}
    (hsteps : steps.NeverRaises) (hwaits : waits.NeverRaises) :
    (atDepth steps waits).NeverRaises := by
  refine .bind .look fun w => ?_
  split
  next => exact .bind (.become _) fun _ => .bind hsteps fun _ => .pure _
  next => exact .bind hwaits fun _ => .pure _

/-- Whatever a step of a release comes to, it raises nothing: what a finalizer raises is
reported. -/
theorem take_neverRaises (step : ReleaseStep) : step.take.NeverRaises := by
  cases step with
  | drop o =>
    refine .bind (.cell o) fun c => ?_
    split
    next => exact .pure _
    next =>
      split
      next => exact .bind (.change _) fun _ => .pure _
      next => exact .pure _
  | finish o =>
    refine .bind .look fun w => ?_
    split
    next => exact atDepth_neverRaises (endOf_neverRaises o) (.change _)
    next => exact endOf_neverRaises o
  | dissolve o =>
    refine .bind (.cell o) fun c => ?_
    split
    next => exact .bind (.change _) fun _ => .pure _
    next => exact .bind (.change _) fun _ => .pure _
  | dropSpace values =>
    exact atDepth_neverRaises (.pure _) (.bind (.alloc _ _ _) fun _ => .change _)
  | leave =>
    refine .bind .look fun w => ?_
    split
    next => exact .pure _
    next => exact .bind (.become _) fun _ => .pure _
  | attend =>
    refine .bind .look fun w => ?_
    split
    next => exact .pure _
    next => exact .bind (.become _) fun _ => .pure _

/-- By induction on the steps that may be taken. -/
theorem takeSteps_neverRaises (fuel : Nat) (steps : List ReleaseStep) :
    (takeSteps fuel steps).NeverRaises := by
  induction fuel generalizing steps with
  | zero => exact .pure _
  | succ fuel ih =>
    cases steps with
    | nil => exact .pure _
    | cons step rest => exact .bind (take_neverRaises step) fun _ => ih _

theorem takeSteps_nil (fuel : Nat) : takeSteps fuel [] = pure () := by
  cases fuel <;> rfl

/-! ## Cells -/

namespace World

variable {f : Cell → Cell}

theorem cell_setCell_of_ne (hne : p ≠ o) : (w.setCell o f).cell p = w.cell p := by
  have hid : o.id ≠ p.id := fun hid => hne (congrArg Obj.mk hid.symm)
  simp only [cell, setCell, Array.getElem?_modify, if_neg hid]

theorem cell_setCell_self (ho : o.id < w.heap.size) : (w.setCell o f).cell o = f (w.cell o) := by
  have hself : (w.heap.modify o.id f)[o.id]? = (w.heap[o.id]?).map f := by
    rw [Array.getElem?_modify, if_pos rfl]
  rw [cell, cell, setCell, hself, Array.getElem?_eq_getElem ho]
  rfl

/-- An object that is not there is not changed. -/
theorem setCell_of_le (ho : w.heap.size ≤ o.id) : (w.setCell o f).cell p = w.cell p := by
  by_cases hp : p = o
  · subst hp
    simp [cell, setCell, ho]
  · exact cell_setCell_of_ne hp

/-- What a change leaves of every cell is left of the cells of a state. -/
theorem field_setCell {γ : Type} {g : Cell → γ} (hg : ∀ c, g (f c) = g c) :
    g ((w.setCell o f).cell p) = g (w.cell p) := by
  by_cases hp : p = o
  · subst hp
    by_cases ho : p.id < w.heap.size
    · rw [cell_setCell_self ho, hg]
    · rw [setCell_of_le (Nat.le_of_not_lt ho)]
  · rw [cell_setCell_of_ne hp]

theorem size_setCell : (w.setCell o f).heap.size = w.heap.size := Array.size_modify

theorem lt_size_of_refs (hrefs : 0 < (w.cell o).refs) : o.id < w.heap.size := by
  by_contra hge
  rw [cell, Array.getElem?_eq_none (Nat.le_of_not_lt hge)] at hrefs
  exact absurd hrefs (by decide)

end World

/-- A reference less to an object that has others, or that is never counted. -/
theorem release_run_of_lasting (ho : (w.cell o).immortal ∨ 1 < (w.cell o).refs) :
    (release o).run w = (.ok (), if (w.cell o).immortal then w
      else w.setCell o fun c => { c with refs := c.refs - 1 }) := by
  have hfuel : releaseFuel = 1099511627775 + 1 := by decide
  have hcell : (cellOf o).run w = (.ok (w.cell o), w) := rfl
  have htake : (ReleaseStep.take (.drop o)).run w = (.ok [], if (w.cell o).immortal then w
      else w.setCell o fun c => { c with refs := c.refs - 1 }) := by
    rw [ReleaseStep.take, Exec.run_bind_ok hcell]
    by_cases himmortal : (w.cell o).immortal
    · rw [if_pos (.inl himmortal), if_pos himmortal]
      rfl
    · have hmany := ho.resolve_left himmortal
      rw [if_neg (not_or.2 ⟨himmortal, by omega⟩), if_pos hmany, if_neg himmortal]
      rfl
  show (takeSteps releaseFuel [.drop o]).run w = _
  rw [hfuel]
  exact Exec.run_bind_ok htake _

/-! ## What is new -/

/-- The object is one that a program made. The others are always there. -/
@[irreducible]
def isMade (o : Obj) : Bool := staticCells.length ≤ o.id

/-- Objects may have come, and objects that are always there may have references more. Nothing else
that was there is different. -/
structure World.Extends (w w' : World) : Prop where
  size : w.heap.size ≤ w'.heap.size
  payload : ∀ o, o.id < w.heap.size → (w'.cell o).payload = (w.cell o).payload
  refs : ∀ o, o.id < w.heap.size → isMade o → (w'.cell o).refs = (w.cell o).refs
  notices : w'.notices = w.notices

namespace World.Extends

variable {w'' : World}

theorem refl (w : World) : w.Extends w := ⟨le_rfl, fun _ _ => rfl, fun _ _ _ => rfl, rfl⟩

theorem trans (h : w.Extends w') (h' : w'.Extends w'') : w.Extends w'' where
  size := h.size.trans h'.size
  payload o ho := (h'.payload o (ho.trans_le h.size)).trans (h.payload o ho)
  refs o ho hmade := (h'.refs o (ho.trans_le h.size) hmade).trans (h.refs o ho hmade)
  notices := h'.notices.trans h.notices

theorem incref (w : World) {o : Obj} (ho : isMade o = false) : w.Extends (w.incref o) where
  size := size_setCell.ge
  payload p _ := field_setCell (g := Cell.payload) fun c => by split <;> rfl
  refs p _ hp := by
    have hne : p ≠ o := by
      rintro rfl
      rw [ho] at hp
      cases hp
    rw [World.incref, cell_setCell_of_ne hne]
  notices := rfl

/-- A new object of a class that is always there. -/
theorem alloc (w : World) {cls : Obj} (hcls : isMade cls = false) (payload : Payload)
    (attrs : List (String × Obj)) :
    ∃ o w', (alloc cls payload attrs).run w = (.ok o, w') ∧ w.Extends w' ∧
      (w'.cell o).cls = cls := by
  let v := w.incref cls
  let new : Cell := ⟨1, false, false, cls, payload, attrs, none, []⟩
  refine ⟨⟨v.heap.size⟩, { v with heap := v.heap.push new }, rfl, (incref w hcls).trans ?_, ?_⟩
  · have hold : ∀ o : Obj, o.id < v.heap.size →
        ({ v with heap := v.heap.push new } : World).cell o = v.cell o := by
      intro o ho
      rw [cell, cell, Array.getElem?_push_lt ho, Array.getElem?_eq_getElem ho]
    constructor
    case size =>
      rw [Array.size_push]
      exact Nat.le_succ _
    case payload => exact fun o ho => congrArg Cell.payload (hold o ho)
    case refs => exact fun o ho _ => congrArg Cell.refs (hold o ho)
    case notices => rfl
  · rw [cell, Array.getElem?_push_size]
    rfl

end World.Extends

/-- A class of this kind is always there. -/
def Builtin.Lasting (b : Builtin) : Prop := isMade b.obj = false

theorem Builtin.lasting : Builtin.indexError.Lasting ∧ Builtin.systemError.Lasting ∧
    Builtin.str.Lasting ∧ Builtin.tuple.Lasting := by
  unfold Builtin.Lasting isMade
  decide +kernel

theorem newStr_extends (s : Points) (w : World) :
    ∃ o w', (newStr s).run w = (.ok o, w') ∧ w.Extends w' := by
  have hmade : ∃ o w', (alloc Builtin.str.obj (.str s) []).run w = (.ok o, w') ∧ w.Extends w' := by
    obtain ⟨o, w', hrun, hext, -⟩ := World.Extends.alloc w Builtin.lasting.2.2.1 (.str s) []
    exact ⟨o, w', hrun, hext⟩
  unfold newStr
  split
  next => exact ⟨_, w, rfl, .refl w⟩
  next =>
    split
    next => exact ⟨_, w, rfl, .refl w⟩
    next => exact hmade
  next => exact hmade

/-- An exception with a message is new, and so are its parts. -/
theorem throwNew_extends {cls : Builtin} (hcls : cls.Lasting) (message : String) (w : World) :
    ∃ v w', (throwNew cls message : Exec α).run w = (.error ⟨v, []⟩, w') ∧ w.Extends w' ∧
      (w'.cell v).cls = cls.obj := by
  obtain ⟨text, w₁, htext, hext₁⟩ := newStr_extends (pointsOf message) w
  obtain ⟨args, w₂, hargs, hext₂, -⟩ :=
    World.Extends.alloc w₁ Builtin.lasting.2.2.2 (.tuple #[some text]) []
  obtain ⟨v, w₃, hv, hext₃, hclass⟩ :=
    World.Extends.alloc w₂ hcls (.error ⟨args, [], none, none, []⟩) []
  refine ⟨v, w₃, ?_, hext₁.trans (hext₂.trans hext₃), hclass⟩
  have herror : (newError cls [text] []).run w₁ = (.ok v, w₃) := (Exec.run_bind_ok hargs _).trans hv
  exact (Exec.run_bind_ok htext _).trans (Exec.run_bind_ok herror _)

/-- What the host is told of an exception that has passed no place of Python code. -/
theorem Exec.outcomeFor_of_error {v : Obj} (hx : x.run w = (.error ⟨v, []⟩, w')) :
    x.outcomeFor w = (w'.incref (w'.cell v).cls).effect
      (.raised ⟨(w'.cell v).cls, some v, none⟩) := by
  rw [Exec.outcomeFor_eq, hx]
  rfl

theorem Exec.outcomeFor_of_ok {a : α} (hx : x.run w = (.ok a, w')) :
    x.outcomeFor w = w'.effect (.value a) := by
  rw [Exec.outcomeFor_eq, hx]
  rfl

end Embedder.Machine
