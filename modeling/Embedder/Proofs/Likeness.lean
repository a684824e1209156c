import Embedder.Proofs.Trait.Books

/-!
# Likeness: two runs of one program

A `Conduct` compares the host before a program with the host after it. Some statements compare two
runs: with another last error, with one reference more, with printing on and off. A `Likeness` is a
relation between the hosts of two runs, and a program is `Even` if its runs from hosts that are
alike turn out alike: both end the process with one status, or both return, with one answer, and
leave hosts that are alike.

That a program is even is a trait, and a likeness that the primitive steps keep, and that agrees in
what the bridge reads (`Steady`, `Lawful`, `Sessional`, `Clerical`), is then kept by every program
made of them.
-/

namespace Embedder

/-- What holds between the hosts of two runs. -/
abbrev Likeness (σ : Type) := Host σ → Host σ → Prop

variable {σ α β ε : Type} {G : Guest σ} {S T : Likeness σ}

/-! ## Even programs -/

/-- Two runs turned out alike. -/
inductive Alike (S : Likeness σ) {α : Type} :
    Except Exit (α × Host σ) → Except Exit (α × Host σ) → Prop where
  | ended (e : Exit) : Alike S (.error e) (.error e)
  | returned (a : α) {h k : Host σ} (hs : S h k) : Alike S (.ok (a, h)) (.ok (a, k))

namespace Alike

variable {h k : Host σ}

/-- What follows two runs that turned out alike may change the likeness. -/
theorem bind {x y : Bridge σ α} {f g : α → Bridge σ β} (hxy : Alike S (x.run h) (y.run k))
    (hfg : ∀ a h k, S h k → Alike T ((f a).run h) ((g a).run k)) :
    Alike T ((x >>= f).run h) ((y >>= g).run k) := by
  rw [StateT.run_bind, StateT.run_bind]
  generalize x.run h = r at hxy
  generalize y.run k = s at hxy
  cases hxy with
  | ended e => exact .ended e
  | returned a hs => exact hfg a _ _ hs

theorem trans {U : Likeness σ} {x y z : Except Exit (α × Host σ)} (hxy : Alike S x y)
    (hyz : Alike T y z) (hU : ∀ {h k l}, S h k → T k l → U h l) : Alike U x z := by
  cases hxy with
  | ended e =>
    cases hyz
    exact .ended e
  | returned a hs =>
    cases hyz with
    | returned _ ht => exact .returned a (hU hs ht)

end Alike

/-- Runs of the program from hosts that are alike turn out alike. -/
def Bridge.Even (S : Likeness σ) (x : Bridge σ α) : Prop :=
  ∀ h k, S h k → Alike S (x.run h) (x.run k)

/-- The same for an attempt. -/
def Attempt.Even (S : Likeness σ) (x : Attempt σ ε α) : Prop := Bridge.Even S x.run

namespace Bridge.Even

variable {x : Bridge σ α} {f : α → Bridge σ β}

theorem pure (a : α) : (pure a : Bridge σ α).Even S := fun _ _ hs => .returned a hs

theorem bind (hx : x.Even S) (hf : ∀ a, (f a).Even S) : (x >>= f).Even S :=
  fun h k hs => (hx h k hs).bind hf

theorem get {f : Host σ → Bridge σ β} (hf : ∀ h k, S h k → Alike S ((f h).run h) ((f k).run k)) :
    (get >>= f).Even S := hf

theorem modify {g : Host σ → Host σ} (hg : ∀ h k, S h k → S (g h) (g k)) :
    (modify g : Bridge σ Unit).Even S := fun h k hs => .returned () (hg h k hs)

theorem exit (status : Nat) : (exit status : Bridge σ α).Even S := fun _ _ _ => .ended ⟨status⟩

end Bridge.Even

namespace Attempt.Even

variable {x : Attempt σ ε α} {f : α → Attempt σ ε β}

theorem bind (hx : x.Even S) (hf : ∀ a, (f a).Even S) : (x >>= f).Even S := by
  refine Bridge.Even.bind hx fun r => ?_
  cases r with
  | ok a => exact hf a
  | error e => exact Bridge.Even.pure (Except.error e)

theorem lift {y : Bridge σ α} (hy : y.Even S) :
    Attempt.Even S (ExceptT.lift y : Attempt σ ε α) := by
  show Bridge.Even S (Except.ok <$> y)
  rw [map_eq_pure_bind]
  exact hy.bind fun a => Bridge.Even.pure (Except.ok a)

end Attempt.Even

/-! ## Likenesses that the bridge keeps -/

/-- A likeness that the primitive steps of the bridge keep. -/
structure Likeness.Steady (G : Guest σ) (S : Likeness σ) : Prop where
  pending : ∀ {h k}, S h k → h.pending = k.pending
  look : ∀ {α : Type} {f : σ → α}, G.Look f → ∀ {h k}, S h k → f h.world = f k.world
  count : ∀ n h k, S h k → S { h with live := h.live + n } { k with live := k.live + n }
  record : ∀ r h k, S h k → S { h with log := h.log ++ [r] } { k with log := k.log ++ [r] }
  leave : ∀ p h k, S h k → S { h with pending := p } { k with pending := p }
  retain : ∀ o h k, S h k →
    S { h with world := G.retain o h.world } { k with world := G.retain o k.world }
  act : ∀ {α : Type} {f : σ → Effect σ α}, G.Act f → (Bridge.act f).Even S

/-- A likeness that also stays when an exception is printed, if that is wanted. -/
structure Likeness.Lawful (G : Guest σ) (S : Likeness σ) : Prop extends S.Steady G where
  printIfWanted : ∀ kind value trace, (Exception.printIfWanted G kind value trace).Even S

/-! ## Traits of likenesses -/

/-- Runs from hosts that are alike turn out alike. -/
def Trait.even (S : Likeness σ) : Trait σ := fun _ x => x.Even S

instance : (Trait.even S).Composes where
  pure := Bridge.Even.pure
  bind := Bridge.Even.bind

/-- A program may go by what hosts that are alike agree in. -/
theorem Trait.even_reads {r : Host σ → Host σ → Prop} (hr : ∀ {h k}, S h k → r h k) :
    (Trait.even S).Reads r := by
  intro α f hf hp h k hs
  show Alike S ((f h).run h) ((f k).run k)
  rw [hf h k (hr hs)]
  exact hp k h k hs

namespace Likeness

theorem Steady.trait (hS : S.Steady G) : (Trait.even S).Steady G where
  pending := Trait.even_reads hS.pending
  look := Trait.even_reads fun hs _ _ hf => hS.look hf hs
  count n := Bridge.Even.modify (hS.count n)
  record r := Bridge.Even.modify (hS.record r)
  leave p := Bridge.Even.modify (hS.leave p)
  retain o := Bridge.Even.modify (hS.retain o)
  act hf := hS.act hf

theorem Lawful.trait (hS : S.Lawful G) : (Trait.even S).Lawful G where
  toSteady := hS.toSteady.trait
  printIfWanted := hS.printIfWanted

end Likeness

/-- Printing ends both processes or none. -/
theorem Exception.print_even (hS : S.Steady G) (kind : Handle) (value trace : Option Handle) :
    (print G kind value trace).Even S := by
  have hP := hS.trait
  unfold print
  refine Bridge.Even.bind (copyRef_has hP kind) fun k => ?_
  refine Bridge.Even.bind (copyRef?_has hP value) fun v => ?_
  refine Bridge.Even.bind (copyRef?_has hP trace) fun t => ?_
  refine (hS.act (.print ⟨k, v, t⟩)).bind fun status => ?_
  cases status with
  | none => exact Bridge.Even.pure ()
  | some status => exact Bridge.Even.exit status

/-- A likeness of hosts that agree on whether to print is lawful. -/
theorem Likeness.Steady.lawful (hS : S.Steady G)
    (hprinting : ∀ {h k}, S h k → h.printing = k.printing) : S.Lawful G where
  toSteady := hS
  printIfWanted kind value trace := by
    refine Bridge.Even.get fun h k hs => ?_
    rw [hprinting hs]
    split
    next => exact Exception.print_even hS kind value trace h k hs
    next => exact Bridge.Even.pure () h k hs

/-! ## Sessions and books -/

/-- A likeness that agrees in what a session begins by. -/
structure Likeness.Sessional (G : Guest σ) (S : Likeness σ) : Prop extends S.Lawful G where
  lifecycle : ∀ {h k}, S h k → h.lifecycle = k.lifecycle
  waiting : ∀ {h k}, S h k → h.waiting = k.waiting
  empty : ∀ h k, S h k → S { h with waiting := [] } { k with waiting := [] }
  releaseKept : ∀ busy k, (Bridge.act (G.releaseKept busy k)).Even S

/-- A likeness that agrees in the records, and lets the interpreter be brought up and down. -/
structure Likeness.Clerical (G : Guest σ) (S : Likeness σ) : Prop extends S.Lawful G where
  records : ∀ {h k}, S h k → h.records = k.records
  file : ∀ r h k, S h k → S (h.file r) (k.file r)
  printing : ∀ b h k, S h k → S { h with printing := b } { k with printing := b }
  isUp : ∀ {h k}, S h k → G.isUp h.world = G.isUp k.world
  boot : ∀ n h k, S h k →
    S { h with world := G.boot n h.world } { k with world := G.boot n k.world }
  shutdown : (Bridge.act G.shutdown).Even S
  releaseKept : ∀ busy k, (Bridge.act (G.releaseKept busy k)).Even S

namespace Likeness

theorem Sessional.trait (hS : S.Sessional G) : (Trait.even S).Sessional G where
  toLawful := hS.toLawful.trait
  queue := Trait.even_reads fun hs => ⟨hS.lifecycle hs, hS.waiting hs⟩
  empty := Bridge.Even.modify hS.empty
  releaseKept := hS.releaseKept

/-- Both runs file the same records anew. -/
theorem Clerical.refile (hS : S.Clerical G) (g : Records → Records) :
    (modify fun h => h.file (g h.records) : Bridge σ Unit).Even S :=
  Bridge.Even.modify fun h k hs => by
    rw [hS.records hs]
    exact hS.file _ h k hs

theorem Clerical.trait (hS : S.Clerical G) : (Trait.even S).Clerical G where
  toLawful := hS.toLawful.trait
  records := Trait.even_reads hS.records
  file g _ := hS.refile g
  releaseKept := hS.releaseKept
  move f := hS.refile fun r => { r with lifecycle := f r.lifecycle }
  shutdown := hS.shutdown
  up := Trait.even_reads fun hs => ⟨hS.records hs, hS.isUp hs⟩
  boot n := Bridge.Even.modify (hS.boot n)
  printing b := Bridge.Even.modify (hS.printing b)

theorem Clerical.sessional (hS : S.Clerical G) : S.Sessional G where
  toLawful := hS.toLawful
  lifecycle hs := congrArg Records.lifecycle (hS.records hs)
  waiting hs := congrArg Records.waiting (hS.records hs)
  empty h k hs := by
    show S (h.file { h.records with waiting := [] }) (k.file { k.records with waiting := [] })
    rw [hS.records hs]
    exact hS.file _ h k hs
  releaseKept := hS.releaseKept

end Likeness

/-! ## Operations -/

/-- Host values of this type become objects in the same way in runs that are alike. -/
def Encoder.Even (G : Guest σ) (E : Encoder σ α) : Prop :=
  ∀ S : Likeness σ, S.Lawful G → ∀ a, (E.encode a).Even S

/-- Objects become host values of this type in the same way in runs that are alike. -/
def Decoder.Even (G : Guest σ) (D : Decoder σ β) : Prop :=
  ∀ S : Likeness σ, S.Lawful G → ∀ h, (D.decode h).Even S

theorem Scalar.encodeFloat_even : (encodeFloat G).Even G := fun _ hS => encodeFloat_has hS.trait

theorem Scalar.decodeInt_even : (decodeInt G).Even G := fun _ hS => decodeInt_has hS.trait

section
variable {E : Encoder σ α} {D : Decoder σ β}

theorem callFunction_even (hS : S.Sessional G) (hE : E.Even G) (hD : D.Even G)
    (moduleName function : String) (args : List α) :
    (callFunction G E D moduleName function args).Even S :=
  callFunction_has hS.trait (hE S hS.toLawful) (hD S hS.toLawful) moduleName function args

theorem Binding.bind_even (hS : S.Sessional G) (moduleName function : String) :
    (bind G moduleName function).Even S :=
  bind_has hS.trait moduleName function

theorem Binding.callAs_even (hS : S.Sessional G) (hE : E.Even G) (hD : D.Even G) (b : Binding)
    (args : List α) : (b.callAs G E D args).Even S :=
  callAs_has hS.trait (hE S hS.toLawful) (hD S hS.toLawful) b args

theorem Ticket.call_even (t : Ticket) (hS : S.Clerical G) (hE : E.Even G) (hD : D.Even G)
    (args : List α) : (t.call G E D args).Even S :=
  call_has t hS.trait.toCustodial (hE S hS.toLawful) (hD S hS.toLawful) args

end

theorem Ticket.drop_even (t : Ticket) (hS : S.Clerical G) (busy : Bool) : (t.drop G busy).Even S :=
  drop_has t hS.trait.toCustodial busy

namespace Registry

variable (hS : S.Clerical G)
include hS

theorem insert_even (b : Binding) : (insert G b).Even S := insert_has hS.trait.toCustodial b

theorem find_even (id : Int) : (find id : Attempt σ Failure Ticket).Even S :=
  find_has hS.trait.toCustodial id

theorem remove_even (id : Int) : (remove id : Attempt σ Failure Ticket).Even S :=
  remove_has hS.trait.toCustodial id

end Registry

namespace Interpreter

theorem appendPath_even (hS : S.Sessional G) (path : SearchPath) : (appendPath G path).Even S :=
  appendPath_has hS.trait path

theorem start_even (hS : S.Clerical G) (thread : ThreadId) (config : Config) :
    (start G thread config).Even S :=
  start_has hS.trait thread config

theorem stop_even (hS : S.Clerical G) (thread : ThreadId) : (stop G thread).Even S :=
  stop_has hS.trait.toClosing thread

end Interpreter

theorem CInterface.check_even (x : Except Failure α) :
    (CInterface.check x : Attempt σ Failure α).Even S :=
  Bridge.Even.pure x

end Embedder
