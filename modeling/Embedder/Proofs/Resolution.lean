import Embedder.Proofs.Balance
import Embedder.Proofs.FatalFailures
import Embedder.Proofs.Importing

/-!
# Resolving a function

A call by name and the making of a binding first resolve a function: the module is imported, and the
name is looked up in its namespace. What can go wrong there is told by four failures, in the order
of the checks, and whatever comes after the function was found fails in other ways
(`Failure.OfCall`). So each of the four tells exactly what was wrong (`Resolved`).

To look a name up changes nothing. So an operation whose module was imported and whose name was
refused leaves the host that the import alone leaves (`Session.importOnly`), and nothing that is
done later can tell the two apart.
-/

namespace Embedder

variable {σ α β : Type} {G : Guest σ} {h k : Host σ} {T : ModuleTable σ} {name attr : String}

/-! ## The beginning of a session -/

/-- The host after some queued references were released, if they are of the generation. -/
def Host.releasing (G : Guest σ) (busy : Bool) (generation : Nat) : List Kept → Host σ → Host σ
  | [], h => h
  | k :: rest, h => releasing G busy generation rest
      (if k.generation = generation then h.after (G.releaseKept busy k h.world) else h)

/-- The host at the beginning of a session: its queue is settled. -/
def Host.settled (G : Guest σ) (h : Host σ) : Host σ :=
  { h with waiting := [] }.releasing G false h.lifecycle.generation h.waiting

theorem Host.releasing_pending (busy : Bool) (generation : Nat) :
    ∀ (ks : List Kept) (h : Host σ), (h.releasing G busy generation ks).pending = h.pending := by
  intro ks
  induction ks with
  | nil => intro h; rfl
  | cons k rest ih =>
    intro h
    show (Host.releasing G busy generation rest _).pending = _
    rw [ih]
    split
    next => rfl
    next => rfl

theorem Host.settled_pending : (h.settled G).pending = h.pending := Host.releasing_pending _ _ _ _

namespace Session

theorem settle_run (busy : Bool) (generation : Nat) : ∀ (ks : List Kept) (h : Host σ),
    (settle G busy generation ks).run h = .ok ((), h.releasing G busy generation ks) := by
  intro ks
  induction ks with
  | nil => intro h; rfl
  | cons k rest ih =>
    intro h
    have hone : (settleOne G busy generation k).run h = .ok ((),
        if k.generation = generation then h.after (G.releaseKept busy k h.world) else h) := by
      unfold settleOne
      split
      next => exact Bridge.act_run _ _
      next => rfl
    show (settleOne G busy generation k >>= fun _ => settle G busy generation rest).run h = _
    rw [Bridge.run_bind hone, ih]
    rfl

/-- A session goes on from the host with the queue settled. -/
theorem enterAs_run {expected : Option Nat} {body : Nat → Attempt σ Failure α}
    (hopen : Open expected h.lifecycle) :
    (enterAs G expected body).run.run h =
      (body h.lifecycle.generation).run.run (h.settled G) := by
  rw [enterAs_run_of_open hopen]
  exact Bridge.run_bind (settle_run false h.lifecycle.generation h.waiting { h with waiting := [] })

/-- Import a module in a session, and do nothing with it. -/
def importOnly (G : Guest σ) (name : String) : Attempt σ Failure ModuleHandle :=
  enter G (ModuleHandle.importAs G name)

theorem importOnly_run (name : String) (hs : h.lifecycle.stage = .running) :
    (importOnly G name).run.run h = (ModuleHandle.importAs G name).run.run (h.settled G) := by
  have hopen : Open none h.lifecycle := ⟨hs, rfl⟩
  unfold importOnly enter
  rw [enterAs_run hopen]

end Session

/-! ## What is resolved -/

/-- The import of the module fails, and this is the exception of it, as it is told. -/
def Host.ImportFails (G : Guest σ) (name : String) (h : Host σ) (cause : ExceptionReport) : Prop :=
  '\x00' ∉ name.toList ∧ ∃ k, (h.settled G).requested G "PyImport_ImportModule"
    (G.importModule name) = .ok (.error cause, k)

/-- The module is imported. The import alone leaves the host `k`, in which the module that was
imported has the namespace `d`. -/
structure Host.ImportGives (G : Guest σ) (name : String) (h : Host σ) (d : Obj) (k : Host σ) :
    Prop where
  nulFree : '\x00' ∉ name.toList
  gives : ∃ o, (G.importModule name (h.settled G).world).value = .value o ∧
    (Session.importOnly G name).run.run h = .ok (.ok ⟨name, Handle.ofBorrowed o⟩, k) ∧
    G.namespaceOf o k.world = ⟨.value d, k.world, []⟩

/-- What the module table has under a name after the module was imported from this host is a module
object. -/
def Host.ImportsModules (G : Guest σ) (T : ModuleTable σ) (name : String) (h : Host σ) : Prop :=
  ∀ o, T.entry name (G.importModule name (h.settled G).world).world = some o →
    T.isModule o (G.importModule name (h.settled G).world).world = true

theorem Host.ImportGives.not_fails {d : Obj} {cause : ExceptionReport}
    (hgives : h.ImportGives G name d k) : ¬h.ImportFails G name cause := by
  rintro ⟨-, k', hfails⟩
  obtain ⟨o, gave, -⟩ := hgives.gives
  cases Exception.requested_ok hfails with
  | failed gave' =>
    rw [gave] at gave'
    cases gave'
  | raised gave' _ =>
    rw [gave] at gave'
    cases gave'

/-- An import gives one namespace, and leaves one host. -/
theorem Host.ImportGives.unique {d d' : Obj} {k' : Host σ} (hgives : h.ImportGives G name d k)
    (hgives' : h.ImportGives G name d' k') : d' = d ∧ k' = k := by
  obtain ⟨o, -, honly, hspace⟩ := hgives.gives
  obtain ⟨o', -, honly', hspace'⟩ := hgives'.gives
  rw [honly] at honly'
  cases honly'
  rw [hspace] at hspace'
  cases hspace'
  exact ⟨rfl, rfl⟩

/-- An operation that resolves a function and goes on with it. -/
def Session.resolving (G : Guest σ) (name attr : String)
    (rest : Nat → CallableHandle → Attempt σ Failure α) : Attempt σ Failure α :=
  enterAs G none fun generation => findFunction G name attr >>= rest generation

/-- The ways in which an operation turns out that resolves a function and goes on with it. -/
inductive Resolution (G : Guest σ) (name attr : String) (h : Host σ)
    (rest : CallableHandle → Attempt σ Failure α) :
    Except Exit (Except Failure α × Host σ) → Prop where
  | ended (e : Exit) : Resolution G name attr h rest (.error e)
  /-- The name of the module is refused, and nothing is imported. -/
  | refused (hnul : '\x00' ∈ name.toList)
      (only : (Session.importOnly G name).run.run h =
        .ok (.error (ModuleHandle.nulRefusal name), h.settled G)) :
      Resolution G name attr h rest (.ok (.error (ModuleHandle.nulRefusal name), h.settled G))
  | notImported {cause : ExceptionReport} {k : Host σ} (fails : h.ImportFails G name cause)
      (only : (Session.importOnly G name).run.run h =
        .ok (.error (.moduleNotFound name cause), k)) :
      Resolution G name attr h rest (.ok (.error (.moduleNotFound name cause), k))
  /-- The name is refused, or means nothing that can be called. -/
  | notFound {d : Obj} {k : Host σ} {f : Failure} (gives : h.ImportGives G name d k)
      (hfind : G.find name attr d k.world = .error f) :
      Resolution G name attr h rest (.ok (.error f, k))
  | found {d : Obj} {k : Host σ} {c : CallableHandle} (gives : h.ImportGives G name d k)
      (hfind : G.find name attr d k.world = .ok c) :
      Resolution G name attr h rest ((rest c).run.run k)

/-- An import that fails is told as it failed. -/
theorem importFails_of_raised {p : Pending} {cause : ExceptionReport} (hname : '\x00' ∉ name.toList)
    (gave : (G.importModule name (h.settled G).world).value = .raised p)
    (taken : ((h.settled G).after (G.importModule name (h.settled G).world)).taken G p =
      .ok (cause, k)) : h.ImportFails G name cause := by
  refine ⟨hname, k, ?_⟩
  unfold Host.requested
  rw [gave]
  dsimp only
  rw [taken]
  rfl

theorem importFails_of_failed (hname : '\x00' ∉ name.toList)
    (gave : (G.importModule name (h.settled G).world).value = .failed) :
    h.ImportFails G name (.missing "PyImport_ImportModule") := by
  refine ⟨hname, (h.settled G).after (G.importModule name (h.settled G).world), ?_⟩
  unfold Host.requested
  rw [gave]

theorem Session.resolving_cases (hT : G.TableLaws T) (hs : h.lifecycle.stage = .running)
    (hp : h.pending = none) (hmodules : h.ImportsModules G T name)
    (rest : Nat → CallableHandle → Attempt σ Failure α) :
    Resolution G name attr h (rest h.lifecycle.generation)
      ((resolving G name attr rest).run.run h) := by
  have hpending : (h.settled G).pending = none := Host.settled_pending.trans hp
  have honly := importOnly_run (G := G) name hs
  unfold resolving
  rw [enterAs_run ⟨hs, rfl⟩]
  unfold findFunction
  rw [bind_assoc]
  -- an object that is no module is not imported from this host
  have noOther : ∀ {o}, (G.importModule name (h.settled G).world).value = .value o →
      T.isModule o (G.importModule name (h.settled G).world).world ≠ false := by
    intro o gave hfalse
    have htrue := hmodules o (hT.imports gave).1
    rw [hfalse] at htrue
    cases htrue
  have hcases := ModuleHandle.import_cases hT name hpending
  generalize himport : (ModuleHandle.importAs G name).run.run (h.settled G) = x at hcases honly
  cases hcases with
  | refused hnul =>
    rw [Attempt.run_bind_of_error himport]
    exact .refused hnul honly
  | raised hname gave taken =>
    rw [Attempt.run_bind_of_error himport]
    exact .notImported (importFails_of_raised hname gave taken) honly
  | failed hname gave =>
    rw [Attempt.run_bind_of_error himport]
    exact .notImported (importFails_of_failed hname gave) honly
  | @bound o k hname gave module same =>
    have hmodule : T.isModule o k.world = true := (same.isModule o).trans module
    obtain ⟨d, hspace⟩ := hT.space hmodule
    have hgives : h.ImportGives G name d k := ⟨hname, o, gave, honly, hspace⟩
    rw [Attempt.run_bind_of_ok himport, Attempt.run_bind,
      ModuleHandle.resolveCallable_run (ModuleHandle.importAs_pending hpending himport) hspace]
    cases hfind : G.find name attr d k.world with
    | error f => exact .notFound hgives hfind
    | ok c => exact .found hgives hfind
  | replaced hname gave noModule _ _ _ => exact absurd noModule (noOther gave)
  | notReplaced hname gave noModule => exact absurd noModule (noOther gave)
  | ended e printing =>
    rw [Attempt.run_bind_of_exit himport]
    exact .ended e

/-! ## What a failure tells -/

/-- How an operation turns out that resolves a function and goes on with it: which failure it has,
and what it did until then. -/
structure Resolved (G : Guest σ) (name attr : String) (h : Host σ) (r : Except Failure α)
    (h' : Host σ) : Prop where
  moduleNotFound : ∀ cause, r = .error (.moduleNotFound name cause) ↔ h.ImportFails G name cause
  invalidArgument : (∃ text, r = .error (.invalidArgument text)) ↔
    '\x00' ∈ name.toList ∨ '\x00' ∈ attr.toList ∧ ∃ d k, h.ImportGives G name d k
  attributeNotFound : r = .error (.attributeNotFound name attr) ↔
    '\x00' ∉ attr.toList ∧ ∃ d k, h.ImportGives G name d k ∧ G.lookup d attr k.world = none
  notCallable : r = .error (.notCallable name attr) ↔
    '\x00' ∉ attr.toList ∧ ∃ d k o, h.ImportGives G name d k ∧ G.lookup d attr k.world = some o ∧
      G.isCallable o k.world = false
  /-- Nothing is imported under a name with a NUL. -/
  refused : '\x00' ∈ name.toList → h' = h.settled G
  /-- A failure that is none of the call leaves the host that the import alone leaves: no list was
  built and no function called. -/
  harmless : ∀ f, r = .error f → ¬f.OfCall →
    ∃ r', (Session.importOnly G name).run.run h = .ok (r', h')

namespace Guest

variable {d : Obj} {w : σ} {f : Failure}

/-- The ways in which a name cannot be resolved, in the order of the checks. -/
inductive NotFound (G : Guest σ) (name attr : String) (d : Obj) (w : σ) : Failure → Prop where
  | refused (hnul : '\x00' ∈ attr.toList) : NotFound G name attr d w (ModuleHandle.nulRefusal attr)
  | missing (hattr : '\x00' ∉ attr.toList) (hlookup : G.lookup d attr w = none) :
      NotFound G name attr d w (.attributeNotFound name attr)
  | notCallable {o : Obj} (hattr : '\x00' ∉ attr.toList) (hlookup : G.lookup d attr w = some o)
      (hcallable : G.isCallable o w = false) : NotFound G name attr d w (.notCallable name attr)

theorem notFound_of_find (hfind : G.find name attr d w = .error f) :
    G.NotFound name attr d w f := by
  unfold find at hfind
  split at hfind
  next hnul =>
    cases hfind
    exact .refused hnul
  next hattr =>
    split at hfind
    next hlookup =>
      cases hfind
      exact .missing hattr hlookup
    next o hlookup =>
      split at hfind
      next => cases hfind
      next hcallable =>
        cases hfind
        exact .notCallable hattr hlookup (Bool.eq_false_iff.mpr hcallable)

/-- What is found has a name without a NUL, is there and can be called. -/
theorem found_of_find {c : CallableHandle} (hfind : G.find name attr d w = .ok c) :
    '\x00' ∉ attr.toList ∧ ∃ o, G.lookup d attr w = some o ∧ G.isCallable o w = true := by
  unfold find at hfind
  split at hfind
  next => cases hfind
  next hattr =>
    split at hfind
    next => cases hfind
    next o hlookup =>
      split at hfind
      next hcallable => exact ⟨hattr, o, hlookup, hcallable⟩
      next => cases hfind

end Guest

section

variable {r : Except Failure α} {h' : Host σ}

/-- A name of a module that is refused gives one failure, and no import. -/
theorem resolved_of_refused (hnul : '\x00' ∈ name.toList)
    (only : (Session.importOnly G name).run.run h =
      .ok (.error (ModuleHandle.nulRefusal name), h.settled G)) :
    Resolved G name attr h (.error (ModuleHandle.nulRefusal name) : Except Failure α)
      (h.settled G) where
  moduleNotFound cause := ⟨fun heq => (by cases heq), fun hfails => absurd hnul hfails.1⟩
  invalidArgument := ⟨fun _ => .inl hnul, fun _ => ⟨_, rfl⟩⟩
  attributeNotFound := by
    refine ⟨fun heq => (by cases heq), ?_⟩
    rintro ⟨-, d, k, hgives, -⟩
    exact absurd hnul hgives.nulFree
  notCallable := by
    refine ⟨fun heq => (by cases heq), ?_⟩
    rintro ⟨-, d, k, o, hgives, -⟩
    exact absurd hnul hgives.nulFree
  refused _ := rfl
  harmless _ _ _ := ⟨_, only⟩

/-- An import that failed gives one failure, with the one report of it. -/
theorem resolved_of_fails {cause : ExceptionReport} (fails : h.ImportFails G name cause)
    (only : (Session.importOnly G name).run.run h = .ok (.error (.moduleNotFound name cause), k)) :
    Resolved G name attr h (.error (.moduleNotFound name cause) : Except Failure α) k where
  moduleNotFound cause' := by
    constructor
    · intro heq
      cases heq
      exact fails
    · rintro ⟨-, k', hfails'⟩
      obtain ⟨-, k₁, hfails⟩ := fails
      rw [hfails] at hfails'
      cases hfails'
      rfl
  invalidArgument := by
    constructor
    · rintro ⟨text, heq⟩
      cases heq
    · rintro (hnul | ⟨-, d, k, hgives⟩)
      · exact absurd hnul fails.1
      · exact absurd fails hgives.not_fails
  attributeNotFound := by
    refine ⟨fun heq => (by cases heq), ?_⟩
    rintro ⟨-, d, k, hgives, -⟩
    exact absurd fails hgives.not_fails
  notCallable := by
    refine ⟨fun heq => (by cases heq), ?_⟩
    rintro ⟨-, d, k, o, hgives, -⟩
    exact absurd fails hgives.not_fails
  refused hnul := absurd hnul fails.1
  harmless _ _ _ := ⟨_, only⟩

/-- A name that is not found gives the failure of the first check that it does not pass. -/
theorem resolved_of_notFound {d : Obj} {f : Failure} (gives : h.ImportGives G name d k)
    (hfound : G.NotFound name attr d k.world f) :
    Resolved G name attr h (.error f : Except Failure α) k where
  moduleNotFound cause := by
    refine ⟨fun heq => ?_, fun hfails => absurd hfails gives.not_fails⟩
    cases heq
    cases hfound
  invalidArgument := by
    constructor
    · rintro ⟨text, heq⟩
      cases heq
      cases hfound with
      | refused hnul => exact .inr ⟨hnul, d, k, gives⟩
    · rintro (hnul | ⟨hnul, -⟩)
      · exact absurd hnul gives.nulFree
      · cases hfound with
        | refused => exact ⟨_, rfl⟩
        | missing hattr => exact absurd hnul hattr
        | notCallable hattr => exact absurd hnul hattr
  attributeNotFound := by
    constructor
    · intro heq
      cases heq
      cases hfound with
      | missing hattr hlookup => exact ⟨hattr, d, k, gives, hlookup⟩
    · rintro ⟨hattr, d', k', hgives', hnone⟩
      obtain ⟨rfl, rfl⟩ := gives.unique hgives'
      cases hfound with
      | refused hnul => exact absurd hnul hattr
      | missing => rfl
      | notCallable _ hlookup =>
        rw [hnone] at hlookup
        cases hlookup
  notCallable := by
    constructor
    · intro heq
      cases heq
      cases hfound with
      | notCallable hattr hlookup hcallable => exact ⟨hattr, d, k, _, gives, hlookup, hcallable⟩
    · rintro ⟨hattr, d', k', o, hgives', hsome, -⟩
      obtain ⟨rfl, rfl⟩ := gives.unique hgives'
      cases hfound with
      | refused hnul => exact absurd hnul hattr
      | missing _ hlookup =>
        rw [hsome] at hlookup
        cases hlookup
      | notCallable => rfl
  refused hnul := absurd hnul gives.nulFree
  harmless _ _ _ := by
    obtain ⟨o, -, honly, -⟩ := gives.gives
    exact ⟨_, honly⟩

/-- Once a function was found, whatever goes wrong is told by other failures. -/
theorem resolved_of_found {d : Obj} {c : CallableHandle} (gives : h.ImportGives G name d k)
    (hfind : G.find name attr d k.world = .ok c) (hlater : ∀ f, r = .error f → f.OfCall) :
    Resolved G name attr h r h' := by
  obtain ⟨hattr, o, hlookup, hcallable⟩ := Guest.found_of_find hfind
  have notLater : ∀ {f : Failure}, ¬f.OfCall → r ≠ .error f := fun hf heq => hf (hlater _ heq)
  refine ⟨fun cause => ?_, ?_, ?_, ?_, fun hnul => absurd hnul gives.nulFree, fun f hf hnot => ?_⟩
  · refine ⟨fun heq => absurd heq (notLater ?_), fun hfails => absurd hfails gives.not_fails⟩
    rintro ⟨⟩
  · constructor
    · rintro ⟨text, heq⟩
      refine absurd heq (notLater ?_)
      rintro ⟨⟩
    · rintro (hnul | ⟨hnul, -⟩)
      · exact absurd hnul gives.nulFree
      · exact absurd hnul hattr
  · constructor
    · intro heq
      refine absurd heq (notLater ?_)
      rintro ⟨⟩
    · rintro ⟨-, d', k', hgives', hnone⟩
      obtain ⟨rfl, rfl⟩ := gives.unique hgives'
      rw [hnone] at hlookup
      cases hlookup
  · constructor
    · intro heq
      refine absurd heq (notLater ?_)
      rintro ⟨⟩
    · rintro ⟨-, d', k', o', hgives', hsome, hnot⟩
      obtain ⟨rfl, rfl⟩ := gives.unique hgives'
      rw [hsome] at hlookup
      cases hlookup
      rw [hnot] at hcallable
      cases hcallable
  · exact absurd (hlater f hf) hnot

/-- However a function is resolved, a failure tells what was wrong. -/
theorem Resolution.resolved {rest : CallableHandle → Attempt σ Failure α}
    (hrest : ∀ c, (rest c).Fails Failure.OfCall) {x : Except Exit (Except Failure α × Host σ)}
    (hx : Resolution G name attr h rest x) : Ends x fun y => Resolved G name attr h y.1 y.2 := by
  rintro ⟨r, h'⟩ hr
  cases hx with
  | ended e => cases hr
  | refused hnul only =>
    cases hr
    exact resolved_of_refused hnul only
  | notImported fails only =>
    cases hr
    exact resolved_of_fails fails only
  | notFound gives hfind =>
    cases hr
    exact resolved_of_notFound gives (Guest.notFound_of_find hfind)
  | @found d k c gives hfind =>
    exact resolved_of_found gives hfind fun f hf => hrest c k r h' hr f hf

end

/-! ## Operations -/

/-- A binding that is made of a function that was found is made. -/
theorem CallableHandle.keep_fails (c : CallableHandle) (moduleName function : String)
    (generation : Nat) : (keep G c moduleName function generation).Fails Failure.OfCall := by
  refine (Attempt.Fails.lift _).bind fun h => ?_
  refine (Attempt.Fails.lift _).bind fun _ => ?_
  exact (Attempt.Fails.lift _).bind fun callable => Attempt.Fails.pure _

theorem callFunction_resolved (hT : G.TableLaws T) (hs : h.lifecycle.stage = .running)
    (hp : h.pending = none) (hmodules : h.ImportsModules G T name) (E : Encoder σ α)
    (D : Decoder σ β) (args : List α) :
    Ends ((callFunction G E D name attr args).run.run h) fun y =>
      Resolved G name attr h y.1 y.2 := by
  rw [callFunction_eq]
  exact (Session.resolving_cases hT hs hp hmodules fun _ c => c.callWith G E D args).resolved
    fun c => c.callWith_fails E D args

theorem Binding.bind_resolved (hT : G.TableLaws T) (hs : h.lifecycle.stage = .running)
    (hp : h.pending = none) (hmodules : h.ImportsModules G T name) :
    Ends ((bind G name attr).run.run h) fun y => Resolved G name attr h y.1 y.2 := by
  rw [bind_eq]
  exact (Session.resolving_cases hT hs hp hmodules
    fun generation c => c.keep G name attr generation).resolved
      fun c => c.keep_fails name attr h.lifecycle.generation

/-- The operations that resolve a function. -/
inductive Operation.Resolves (name attr : String) : Operation → Prop where
  | call (args : Scenario.Numbers) (result : ElementKind) :
      Resolves name attr (.callFunction name attr args result)
  | bind : Resolves name attr (.bind name attr)

/-- The failure in an answer. -/
def Answer.refusal? : Answer → Option Failure
  | .numbers (.error f) => some f
  | .binding (.error f) => some f
  | _ => none

namespace Process

variable {p p' : Process σ}

/-- Import a module, and do nothing with it. -/
def importing (G : Guest σ) (name : String) (p : Process σ) : Except Exit (Process σ) := do
  let (_, host) ← (Session.importOnly G name).run.run p.host
  pure { p with host := host }

/-- Where an operation leads whose function was not resolved, the import alone leads. -/
theorem importing_of_tell (hT : G.TableLaws T) (hs : p.host.lifecycle.stage = .running)
    (hp : p.host.pending = none) (hmodules : p.host.ImportsModules G T name) {op : Operation}
    (hop : op.Resolves name attr) {a : Answer} {f : Failure}
    (htell : p.tell G (.perform op) = .ok (.operation a, p')) (ha : a.refusal? = some f)
    (hf : ¬f.OfCall) : p.importing G name = .ok p' := by
  obtain ⟨x, hanswer, hx, hcaller, hhistory⟩ := tell_perform_ok htell
  cases hx
  -- neither the caller nor the history has got anything from a failure
  suffices hleft : ∃ r', (Session.importOnly G name).run.run p.host = .ok (r', p'.host) ∧
      p.caller.after op a = p.caller ∧ op.events (op.launches G p.host) a = [] by
    obtain ⟨r', honly, hsame, hnone⟩ := hleft
    rw [hsame] at hcaller
    rw [hnone, List.append_nil] at hhistory
    obtain ⟨host, caller, history⟩ := p'
    cases hcaller
    cases hhistory
    unfold importing
    rw [honly]
    rfl
  cases hop with
  | call args result =>
    obtain ⟨r, h₁, hcall, hlast⟩ := Bridge.bind_ok hanswer
    obtain ⟨rfl, rfl⟩ := Bridge.pure_ok hlast
    cases r with
    | ok xs => cases ha
    | error g =>
      cases ha
      have hresolved := callFunction_resolved hT hs hp hmodules _ _ _ _ hcall
      obtain ⟨r', honly⟩ := hresolved.harmless f rfl hf
      exact ⟨r', honly, rfl, rfl⟩
  | bind =>
    obtain ⟨r, h₁, hbind, hlast⟩ := Bridge.bind_ok hanswer
    obtain ⟨rfl, rfl⟩ := Bridge.pure_ok hlast
    cases r with
    | ok b => cases ha
    | error g =>
      cases ha
      have hresolved := Binding.bind_resolved hT hs hp hmodules _ hbind
      obtain ⟨r', honly⟩ := hresolved.harmless f rfl hf
      exact ⟨r', honly, rfl, rfl⟩

/-- **Failures to resolve a function are exact and harmless.** In every reachable state in which the
interpreter runs, and for every module whose entry in the module table is a module object once it is
imported: if a call by name or the making of a binding comes back, its failure tells which of the
checks was the first not to be passed, and nothing else was done until then than to import the
module. So it goes on, in whatever comes next and with whatever it is answered, as if that had only
been imported. -/
theorem resolution_laws (hT : G.TableLaws T) (world : σ) (steps : List (Step σ))
    (name attr : String) :
    Ends ((fresh world).run G steps) fun p =>
      p.host.lifecycle.stage = .running → p.host.ImportsModules G T name →
        (∀ {α β : Type} (E : Encoder σ α) (D : Decoder σ β) (args : List α),
          Ends ((callFunction G E D name attr args).run.run p.host) fun x =>
            Resolved G name attr p.host x.1 x.2) ∧
        (Ends ((Binding.bind G name attr).run.run p.host) fun x =>
          Resolved G name attr p.host x.1 x.2) ∧
        ∀ op a f p', op.Resolves name attr → p.tell G (.perform op) = .ok (.operation a, p') →
          a.refusal? = some f → ¬f.OfCall →
          p.importing G name = .ok p' ∧
          ∀ more, p'.trace G more = p.importing G name >>= fun q => q.trace G more := by
  intro p hr hs hmodules
  have hp : p.host.pending = none := (balanced_of_run hr).1 rfl
  refine ⟨fun E D args => callFunction_resolved hT hs hp hmodules E D args,
    Binding.bind_resolved hT hs hp hmodules, fun op a f p' hop htell ha hf => ?_⟩
  have himport := importing_of_tell hT hs hp hmodules hop htell ha hf
  refine ⟨himport, fun more => ?_⟩
  rw [himport]
  rfl

/-- A process that looks for a name which its module does not have. -/
theorem absent_resolution_laws : ∃ p p',
    (fresh Swap.down).run Swap.guest [.perform (.start mainThread Config.default)] = .ok p ∧
    p.host.lifecycle.stage = .running ∧
    p.host.ImportsModules Swap.guest Swap.table "pkg.sub" ∧
    (Ends ((Binding.bind Swap.guest "pkg.sub" "absent").run.run p.host) fun x =>
      Resolved Swap.guest "pkg.sub" "absent" p.host x.1 x.2) ∧
    p.tell Swap.guest (.perform (.bind "pkg.sub" "absent")) = .ok (.operation
      (.binding (.error (.attributeNotFound "pkg.sub" "absent"))), p') ∧
    p.importing Swap.guest "pkg.sub" = .ok p' := by
  have hmodules : ∀ h : Host Swap, h.ImportsModules Swap.guest Swap.table "pkg.sub" := by
    rintro h _ ⟨⟩
    rfl
  have laws := resolution_laws Swap.tableLaws Swap.down
    [.perform (.start mainThread Config.default)] "pkg.sub" "absent" _ rfl rfl (hmodules _)
  refine ⟨_, _, rfl, rfl, hmodules _, laws.2.1, rfl, ?_⟩
  exact (laws.2.2 _ _ _ _ .bind rfl rfl (by rintro ⟨⟩)).1

/-- A running host of a guest whose imports raise, and whose printer ends the process. -/
def leavingHost (printing : Bool) : Host Bool :=
  { Host.fresh true with lifecycle := ⟨.running, 1, none⟩, printing := printing }

/-- Where an import raises, a call by name and a bind tell of it while printing is off, and never
come back while it is on. -/
theorem resolution_ends_process :
    ((callFunction leaving (Scalar.encodeFloat leaving) (Scalar.decodeInt leaving) "exits" "f"
        []).run.run (leavingHost false)).toOption.map (·.1) =
      some (.error (.moduleNotFound "exits" ⟨"", "", none⟩)) ∧
    (callFunction leaving (Scalar.encodeFloat leaving) (Scalar.decodeInt leaving) "exits" "f"
        []).run.run (leavingHost true) = .error ⟨3⟩ ∧
    ((Binding.bind leaving "exits" "f").run.run (leavingHost false)).toOption.map (·.1) =
      some (.error (.moduleNotFound "exits" ⟨"", "", none⟩)) ∧
    (Binding.bind leaving "exits" "f").run.run (leavingHost true) = .error ⟨3⟩ := by
  refine ⟨by decide +kernel, ?_, by decide +kernel, ?_⟩
  · rfl
  · rfl

end Process

end Embedder
