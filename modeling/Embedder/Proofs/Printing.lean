import Embedder.Proofs.InterfaceRefinement
import Embedder.Proofs.Moves
import Embedder.Proofs.Trait.Operation

/-!
# Two runs, of which one prints

While printing is on, an exception that was taken is also handed to the interpreter's own printer.
Here two runs are compared of which each may print or not. Assumed is what the printer is documented
to do: it uses up the references that it is given and writes a text, and it may end the process
(`Guest.PrintsAside`). Then two hosts that differ in what they print and in what was printed stay so
(`UpToPrinting`), and what they answer is the same, unless printing ended one of the two processes
(`Concur`).

`Concur` is a trait of programs (`Trait.concurring`), so of the bridge only the one place where it
prints has to be looked at, and the starts, which may be told to print or not.
-/

namespace Embedder

open Scenario

variable {σ α β : Type} {G : Guest σ} {S : Likeness σ} {same : σ → σ → Prop} {h k : Host σ}

/-! ## Runs that concur -/

/-- Two runs of which one ended the process, or that turned out alike. -/
inductive Concur (S : Likeness σ) {α : Type} :
    Except Exit (α × Host σ) → Except Exit (α × Host σ) → Prop where
  | returned (a : α) {h k : Host σ} (hs : S h k) : Concur S (.ok (a, h)) (.ok (a, k))
  | ended (e : Exit) (y : Except Exit (α × Host σ)) : Concur S (.error e) y
  | endedRight (x : Except Exit (α × Host σ)) (e : Exit) : Concur S x (.error e)

namespace Concur

theorem of_alike {x y : Except Exit (α × Host σ)} (hxy : Alike S x y) : Concur S x y := by
  cases hxy with
  | ended e => exact .ended e _
  | returned a hs => exact .returned a hs

theorem bind {x y : Bridge σ α} {f g : α → Bridge σ β} (hxy : Concur S (x.run h) (y.run k))
    (hfg : ∀ a h k, S h k → Concur S ((f a).run h) ((g a).run k)) :
    Concur S ((x >>= f).run h) ((y >>= g).run k) := by
  rw [StateT.run_bind, StateT.run_bind]
  generalize x.run h = r at hxy
  generalize y.run k = s at hxy
  cases hxy with
  | returned a hs => exact hfg a _ _ hs
  | ended e _ => exact .ended e _
  | endedRight _ e => exact .endedRight _ e

end Concur

/-- The trait of programs whose runs from hosts that are alike concur. -/
def Trait.concurring (S : Likeness σ) : Trait σ :=
  fun _ x => ∀ h k, S h k → Concur S (x.run h) (x.run k)

instance : (Trait.concurring S).Composes where
  pure a := fun _ _ hs => .returned a hs
  bind hx hf := fun h k hs => (hx h k hs).bind hf

namespace Trait

theorem concurring_of_even {x : Bridge σ α} (hx : x.Even S) : x.Has (concurring S) :=
  fun h k hs => .of_alike (hx h k hs)

theorem concurring_reads {r : Host σ → Host σ → Prop} (hr : ∀ {h k}, S h k → r h k) :
    (concurring S).Reads r := by
  intro α f hf hp h k hs
  show Concur S ((f h).run h) ((f k).run k)
  rw [hf h k (hr hs)]
  exact hp k h k hs

theorem concurring_steady (hS : S.Steady G) : (concurring S).Steady G where
  pending := concurring_reads hS.pending
  look := concurring_reads fun hs _ _ hf => hS.look hf hs
  count n := concurring_of_even (Bridge.Even.modify (hS.count n))
  record r := concurring_of_even (Bridge.Even.modify (hS.record r))
  leave p := concurring_of_even (Bridge.Even.modify (hS.leave p))
  retain o := concurring_of_even (Bridge.Even.modify (hS.retain o))
  act hf := concurring_of_even (hS.act hf)

end Trait

/-! ## What a printer may do -/

/-- One more reference to each of some objects. -/
def Guest.retainAll (G : Guest σ) (os : List Obj) (w : σ) : σ :=
  os.foldl (fun w o => G.retain o w) w

theorem Guest.retainAll_refs (G : Guest σ) (p : Pending) (w : σ) :
    G.retainAll p.refs w =
      G.retainAll p.trace.toList (G.retainAll p.value.toList (G.retain p.kind w)) := by
  simp only [retainAll, Pending.refs, List.foldl_cons, List.foldl_append]

/-- One reference less to each of some objects, in the opposite order. -/
def Guest.releaseAll (G : Guest σ) : List Obj → σ → Effect σ Unit
  | [], w => ⟨(), w, []⟩
  | o :: os, w =>
    let r := G.releaseAll os w
    let e := G.release o r.world
    ⟨(), e.world, r.notices ++ e.notices⟩

/-- Effects that cannot be told apart, from states that cannot be. -/
structure Effect.SameUpTo (same : σ → σ → Prop) (e d : Effect σ α) : Prop where
  value : e.value = d.value
  notices : e.notices = d.notices
  world : same e.world d.world

/-- States that are the same but for the text that was printed. Nothing in the interpreter goes by
that text (`look` to `releaseKept`), and to print an exception uses up the references that were
taken for it and changes nothing else, if it does not end the process (`print`). -/
structure Guest.PrintsAside (G : Guest σ) (same : σ → σ → Prop) : Prop where
  equivalence : Equivalence same
  look : ∀ {α : Type} {f : σ → α}, G.Look f → ∀ {w v}, same w v → f w = f v
  isUp : ∀ {w v}, same w v → G.isUp w = G.isUp v
  refcount : ∀ o {w v}, same w v → G.refcount o w = G.refcount o v
  retain : ∀ o {w v}, same w v → same (G.retain o w) (G.retain o v)
  boot : ∀ n {w v}, same w v → same (G.boot n w) (G.boot n v)
  act : ∀ {α : Type} {f : σ → Effect σ α}, G.Act f → ∀ {w v}, same w v →
    (f w).SameUpTo same (f v)
  shutdown : ∀ {w v}, same w v → (G.shutdown w).SameUpTo same (G.shutdown v)
  releaseKept : ∀ busy k {w v}, same w v →
    (G.releaseKept busy k w).SameUpTo same (G.releaseKept busy k v)
  print : ∀ p w, (G.print p (G.retainAll p.refs w)).value = none →
    (G.print p (G.retainAll p.refs w)).notices = [] ∧
    same (G.print p (G.retainAll p.refs w)).world w

/-! ## Hosts that differ in printing -/

/-- The books without the switch of printing. -/
def Books.unprinted (b : Books) : Books := { b with printing := false }

/-- Hosts that differ at most in whether they print and in what was printed. -/
structure UpToPrinting (same : σ → σ → Prop) (h k : Host σ) : Prop where
  books : h.toBooks.unprinted = k.toBooks.unprinted
  world : same h.world k.world

namespace UpToPrinting

variable {l : Host σ}

theorem symm (hG : G.PrintsAside same) (hs : UpToPrinting same h k) : UpToPrinting same k h :=
  ⟨hs.books.symm, hG.equivalence.symm hs.world⟩

theorem trans (hG : G.PrintsAside same) (hs : UpToPrinting same h k) (ht : UpToPrinting same k l) :
    UpToPrinting same h l :=
  ⟨hs.books.trans ht.books, hG.equivalence.trans hs.world ht.world⟩

/-- Both hosts change the same part of their books by it. -/
theorem map (hs : UpToPrinting same h k) (f : Books → Books)
    (hf : ∀ b, (f b).unprinted = (f b.unprinted).unprinted) :
    UpToPrinting same ⟨f h.toBooks, h.world⟩ ⟨f k.toBooks, k.world⟩ :=
  ⟨by rw [hf, hs.books, ← hf], hs.world⟩

/-- Both hosts have the same in their books but for the switch. -/
theorem reads {τ : Type} (hs : UpToPrinting same h k) (f : Books → τ)
    (hf : ∀ b, f b.unprinted = f b) : f h.toBooks = f k.toBooks := by
  rw [← hf, hs.books, hf]

theorem pending (hs : UpToPrinting same h k) : h.pending = k.pending :=
  hs.reads Books.pending fun _ => rfl

theorem lifecycle (hs : UpToPrinting same h k) : h.lifecycle = k.lifecycle :=
  hs.reads Books.lifecycle fun _ => rfl

theorem records (hs : UpToPrinting same h k) : h.records = k.records :=
  hs.reads (fun b => (⟨b.lifecycle, b.registry, b.shares, b.nextSerial, b.waiting, b.logLevel⟩ :
    Records)) fun _ => rfl

theorem after {e d : Effect σ α} (hs : UpToPrinting same h k) (hed : e.SameUpTo same d) :
    UpToPrinting same (h.after e) (k.after d) := by
  have noted := hs.map (fun b => { b with
    waiting := b.waiting ++ deferredIn e.notices
    log := b.log ++ e.notices.map Notice.report }) fun _ => rfl
  refine ⟨noted.books.trans ?_, hed.world⟩
  rw [hed.notices]
  rfl

theorem act {f : σ → Effect σ α}
    (hf : ∀ {w v}, same w v → (f w).SameUpTo same (f v)) :
    (Bridge.act f).Even (UpToPrinting same) := by
  intro h k hs
  rw [Bridge.act_run, Bridge.act_run, (hf hs.world).value]
  exact .returned _ (hs.after (hf hs.world))

theorem steady (hG : G.PrintsAside same) :
    Likeness.Steady G (UpToPrinting same) where
  pending hs := hs.pending
  look hf _ _ hs := hG.look hf hs.world
  count n _ _ hs := hs.map (fun b => { b with live := b.live + n }) fun _ => rfl
  record r _ _ hs := hs.map (fun b => { b with log := b.log ++ [r] }) fun _ => rfl
  leave p _ _ hs := hs.map (fun b => { b with pending := p }) fun _ => rfl
  retain o _ _ hs := ⟨hs.books, hG.retain o hs.world⟩
  act hf := act fun hs => hG.act hf hs

end UpToPrinting

/-! ## Printing -/

namespace Exception

theorem copyRef_run (G : Guest σ) (o : Handle) (h : Host σ) :
    (copyRef G o).run h = .ok (o.obj, { h with world := G.retain o.obj h.world }) := by
  show Except.ok (o.obj, { h with
    world := G.retain o.obj h.world
    live := h.live + 1 + -1 }) = _
  rw [Int.add_neg_cancel_right]

theorem copyRef?_run (G : Guest σ) (o : Option Handle) (h : Host σ) :
    (copyRef? G o).run h = .ok (o.map (·.obj),
      { h with world := G.retainAll (o.map (·.obj)).toList h.world }) := by
  cases o with
  | none => rfl
  | some o =>
    unfold copyRef?
    rw [Bridge.run_bind (copyRef_run G o h)]
    rfl

/-- Printing an exception comes to nothing but the text. -/
theorem print_aside (hG : G.PrintsAside same) {kind : Handle} {value trace : Option Handle}
    {h' : Host σ} (hr : (print G kind value trace).run h = .ok ((), h')) :
    UpToPrinting same h' h := by
  unfold print at hr
  rw [Bridge.run_bind (copyRef_run ..), Bridge.run_bind (copyRef?_run ..),
    Bridge.run_bind (copyRef?_run ..), Bridge.run_bind (Bridge.act_run _ _)] at hr
  have haside := hG.print ⟨kind.obj, value.map (·.obj), trace.map (·.obj)⟩ h.world
  rw [Guest.retainAll_refs] at haside
  split at hr
  next hnone =>
    obtain ⟨hnotices, hworld⟩ := haside hnone
    cases hr
    rw [Host.after_of_quiet hnotices]
    exact ⟨rfl, hworld⟩
  next => cases hr

/-- Whatever is wanted, what comes of it is the same but for what is printed. -/
theorem printIfWanted_concurs (hG : G.PrintsAside same) (kind : Handle)
    (value trace : Option Handle) :
    (printIfWanted G kind value trace).Has (Trait.concurring (UpToPrinting same)) := by
  have aside : ∀ {h h' : Host σ}, (printIfWanted G kind value trace).run h = .ok ((), h') →
      UpToPrinting same h' h := by
    intro h h' hr
    change (if h.printing then _ else _ : Bridge σ Unit).run h = _ at hr
    split at hr
    next => exact print_aside hG hr
    next =>
      cases hr
      exact ⟨rfl, hG.equivalence.refl _⟩
  intro h k hs
  cases hx : (printIfWanted G kind value trace).run h with
  | error e => exact .ended e _
  | ok r =>
    cases hy : (printIfWanted G kind value trace).run k with
    | error e => exact .endedRight _ e
    | ok s => exact .returned () (((aside hx).trans hG hs).trans hG ((aside hy).symm hG))

end Exception

/-! ## Operations -/

namespace Trait

theorem concurring_clerical (hG : G.PrintsAside same) :
    (concurring (UpToPrinting same)).Clerical G where
  toSteady := concurring_steady (UpToPrinting.steady hG)
  printIfWanted := Exception.printIfWanted_concurs hG
  records := concurring_reads UpToPrinting.records
  file g _ := fun h k hs => .returned () (by
    show UpToPrinting same (h.file (g h.records)) (k.file (g k.records))
    rw [hs.records]
    exact hs.map (fun b => { b with
      lifecycle := (g k.records).lifecycle
      registry := (g k.records).registry
      shares := (g k.records).shares
      nextSerial := (g k.records).nextSerial
      waiting := (g k.records).waiting
      logLevel := (g k.records).logLevel }) fun _ => rfl)
  releaseKept busy k := concurring_of_even (UpToPrinting.act fun hs => hG.releaseKept busy k hs)
  move f := fun _ _ hs =>
    .returned () (hs.map (fun b => { b with lifecycle := f b.lifecycle }) fun _ => rfl)
  shutdown := concurring_of_even (UpToPrinting.act fun hs => hG.shutdown hs)
  up := concurring_reads fun hs => ⟨hs.records, hG.isUp hs.world⟩
  boot n := fun _ _ hs => .returned () ⟨hs.books, hG.boot n hs.world⟩
  printing _ := fun _ _ hs => .returned () ⟨hs.books, hs.world⟩

theorem concurring_reporting : (concurring (UpToPrinting same)).Reporting where
  errors := concurring_reads fun hs => hs.reads Books.lastErrors fun _ => rfl
  setErrors f := fun _ _ hs =>
    .returned () (hs.map (fun b => { b with lastErrors := f b.lastErrors }) fun _ => rfl)
  live := concurring_reads fun hs => hs.reads Books.live fun _ => rfl

end Trait

namespace Interpreter

variable {thread : ThreadId} {config : Config}

theorem startRefusal_eq (hs : UpToPrinting same h k) (b : Bool) :
    startRefusal (config.withPrintTracebacks b) k = startRefusal config h := by
  unfold startRefusal
  rw [← hs.lifecycle]
  rfl

/-- Starts that are told differently whether to print get as far. -/
theorem launches_eq (hG : G.PrintsAside same) (hs : UpToPrinting same h k) (b : Bool) :
    launches G (config.withPrintTracebacks b) k = launches G config h := by
  unfold launches
  rw [startRefusal_eq hs, hG.isUp hs.world, hs.lifecycle, hG.isUp (hG.boot _ hs.world)]

theorem booted_upToPrinting (hG : G.PrintsAside same) (hs : UpToPrinting same h k) :
    UpToPrinting same (booted G h) (booted G k) := by
  refine ⟨hs.books, ?_⟩
  show same (G.boot (h.lifecycle.generation + 1) h.world) (G.boot (k.lifecycle.generation + 1) _)
  rw [hs.lifecycle]
  exact hG.boot _ hs.world

theorem launched_upToPrinting (hG : G.PrintsAside same) (hs : UpToPrinting same h k) (b : Bool) :
    UpToPrinting same (launched G thread config h)
      (launched G thread (config.withPrintTracebacks b) k) := by
  have noted := hs.map (fun b => { b with
    lifecycle := ⟨.running, b.lifecycle.generation + 1, some thread⟩
    registry := some Registry.empty
    log := b.log ++ [⟨.info, "Python interpreter started",
      [.count "generation" (b.lifecycle.generation + 1), .quoted "built_against" "@PY"]⟩] })
    fun _ => rfl
  exact ⟨noted.books, (booted_upToPrinting hG hs).world⟩

theorem launch_concurs (hG : G.PrintsAside same) (hs : UpToPrinting same h k) (b : Bool) :
    Concur (UpToPrinting same) ((launch G thread config).run.run h)
      ((launch G thread (config.withPrintTracebacks b)).run.run k) := by
  have hrefusal : startRefusal (config.withPrintTracebacks b) k = startRefusal config h :=
    startRefusal_eq hs b
  have hup := hG.isUp hs.world
  cases hf : startRefusal config h with
  | some f =>
    rw [launch_run_of_refused thread hf, launch_run_of_refused thread (hrefusal.trans hf)]
    exact .returned _ ((UpToPrinting.steady hG).record _ h k hs)
  | none =>
    have hfk := hrefusal.trans hf
    cases hisUp : G.isUp h.world with
    | true =>
      rw [launch_run_of_up thread hf hisUp, launch_run_of_up thread hfk (hup.symm.trans hisUp)]
      exact .returned _ hs
    | false =>
      have hbooted := booted_upToPrinting hG hs
      cases hcame : G.isUp (booted G h).world with
      | false =>
        rw [launch_run_of_failed thread hf hisUp hcame, launch_run_of_failed thread hfk
          (hup.symm.trans hisUp) ((hG.isUp hbooted.world).symm.trans hcame)]
        exact .returned _ hbooted
      | true =>
        have hl := launches_iff.mpr ⟨hf, hisUp, hcame⟩
        rw [launch_run_of_launches thread hl,
          launch_run_of_launches thread ((launches_eq hG hs b).trans hl)]
        exact .returned _ (launched_upToPrinting hG hs b)

theorem start_concurs (hG : G.PrintsAside same) (hs : UpToPrinting same h k) (b : Bool) :
    Concur (UpToPrinting same) ((start G thread config).run.run h)
      ((start G thread (config.withPrintTracebacks b)).run.run k) := by
  have appended := appendPaths_has (Trait.concurring_clerical hG).sessional config.searchPaths
  refine (launch_concurs hG hs b).bind fun r h k hs => ?_
  cases r with
  | error f => exact .returned _ hs
  | ok u => exact appended h k hs

end Interpreter

end Embedder
