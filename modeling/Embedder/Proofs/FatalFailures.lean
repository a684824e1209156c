import Embedder.Machine.Interpreter
import Embedder.Proofs.Gate

/-!
# Fatal failures change nothing

A fatal failure tells of the lifecycle: no interpreter runs, one runs already, a restart is refused,
the interpreter did not come up. It is found out before anything is done, so only the log is longer
after it (`Attempt.Harmless`). Past its gate an operation fails for causes that are mild.
-/

namespace Embedder

open Scenario

variable {σ α β : Type} {G : Guest σ} {h h' : Host σ} {thread : ThreadId} {config : Config}

/-- The failure is no misuse of the lifecycle. -/
def Failure.Mild (f : Failure) : Prop := f.isFatal = false

/-- A failure of a call whose function was found. -/
inductive Failure.OfCall : Failure → Prop where
  | marshal (cause : MarshalFailure) : OfCall (.marshal cause)
  | raised (cause : ExceptionReport) : OfCall (.raised cause)

theorem Failure.OfCall.mild {f : Failure} (hf : f.OfCall) : f.Mild := by cases hf <;> rfl

/-- Failures of one status are fatal together. -/
theorem Failure.isFatal_of_code_eq {f g : Failure} (hcode : f.code = g.code) :
    f.isFatal = g.isFatal := by
  cases f <;> cases g <;> first | rfl | simp [code] at hcode

/-! ## Past the gate -/

/-- What is translated to mild failures. -/
theorem Attempt.mapError_mild {ε : Type} {x : Attempt σ ε α} {g : ε → Failure}
    (hg : ∀ e, (g e).isFatal = false) : (x.mapError g).Fails Failure.Mild :=
  Attempt.Fails.mapError hg

namespace ModuleHandle

theorem checkedName_mild (s : String) :
    (checkedName s : Attempt σ Failure String).Fails Failure.Mild :=
  Attempt.mapError_mild fun _ => rfl

theorem resolve_mild (name : String) : (resolve G name).Fails Failure.Mild := by
  unfold resolve
  refine (checkedName_mild name).bind fun checked => ?_
  refine Bridge.Yields.after fun r => ?_
  cases r with
  | ok h => exact Attempt.Fails.pure h
  | error cause => exact Bridge.Yields.after fun _ => Attempt.Fails.throw rfl

theorem bind_mild (imported : Handle) (name : String) :
    (bind G imported name).Fails Failure.Mild := by
  unfold bind
  refine Attempt.Fails.bind (Attempt.Fails.within imported ?_) fun h => ?_
  · exact (checkedName_mild name).bind fun checked => Attempt.mapError_mild fun _ => rfl
  · exact (Attempt.Fails.lift _).bind fun _ => Attempt.Fails.pure _

theorem importAs_mild (name : String) : (importAs G name).Fails Failure.Mild := by
  unfold importAs
  exact (resolve_mild name).bind fun imported => bind_mild imported name

theorem resolveCallable_mild (m : ModuleHandle) (attr : String) :
    (m.resolveCallable G attr).Fails Failure.Mild := by
  unfold resolveCallable
  refine (Attempt.mapError_mild fun _ => rfl).bind fun space => ?_
  refine (checkedName_mild attr).bind fun checked => ?_
  refine Attempt.Fails.get fun s => ?_
  dsimp only
  split
  next => exact Attempt.Fails.throw rfl
  next =>
    split
    next => exact Attempt.Fails.pure _
    next => exact Attempt.Fails.throw rfl

end ModuleHandle

namespace Sequence

theorem fill_fails (E : Encoder σ α) (list : Handle) :
    ∀ (values : List α) (index : Nat), (fill G E list index values).Fails Failure.OfCall := by
  intro values
  induction values with
  | nil => intro index; exact Attempt.Fails.pure ()
  | cons a as ih =>
    intro index
    unfold fill
    refine (Attempt.Fails.mapError fun _ => .marshal _).bind fun item => ?_
    exact (Attempt.Fails.mapError fun _ => .marshal _).bind fun _ => ih (index + 1)

theorem toList_fails (E : Encoder σ α) (values : List α) :
    (toList G E values).Fails Failure.OfCall := by
  unfold toList
  refine (Attempt.Fails.mapError fun _ => .marshal _).bind fun list => ?_
  refine Bridge.Yields.bind (fill_fails E list values 0) fun r hr => ?_
  cases r with
  | ok u => exact Attempt.Fails.pure list
  | error e => exact Bridge.Yields.after fun _ => Attempt.Fails.throw (hr e rfl)

/-- The first item that cannot be read ends the reading. -/
theorem readItems_fails (D : Decoder σ β) (expected : Nat) : ∀ (count index : Nat) (w : Walk),
    (readItems G D expected count index w).Yields
      fun r => ∀ f, r.1 = .error f → f.OfCall := by
  intro count
  induction count with
  | zero =>
    intro index w
    exact Bridge.Yields.pure fun f hf => by cases hf
  | succ count ih =>
    intro index w
    unfold readItems
    refine Bridge.Yields.after fun r => ?_
    obtain ⟨step, w'⟩ := r
    cases step with
    | finished => exact Bridge.Yields.pure fun f hf => by cases hf; exact .marshal _
    | failed r => exact Bridge.Yields.pure fun f hf => by cases hf; exact .raised r
    | item h =>
      refine Bridge.Yields.after fun r => ?_
      cases r with
      | error c => exact Bridge.Yields.pure fun f hf => by cases hf; exact .marshal _
      | ok b =>
        refine Bridge.Yields.bind (ih (index + 1) w') fun r hr => ?_
        refine Bridge.Yields.pure fun f hf => ?_
        cases hrest : r.1 with
        | ok bs =>
          rw [hrest] at hf
          cases hf
        | error g =>
          rw [hrest] at hf
          exact hr f (hrest.trans hf)

theorem fromList_fails (D : Decoder σ β) (seq : Handle) :
    (fromList G D seq).Fails Failure.OfCall := by
  unfold fromList
  refine (Attempt.Fails.mapError fun _ => .marshal _).bind fun expected => ?_
  refine (Attempt.Fails.mapError fun _ => .marshal _).bind fun walk => ?_
  refine Bridge.Yields.bind (readItems_fails D expected expected 0 walk) fun r hr => ?_
  exact Bridge.Yields.after fun _ => Bridge.Yields.pure hr

end Sequence

namespace CallableHandle

theorem invoke_fails (c : CallableHandle) (args : Option Handle) :
    (c.invoke G args).Fails Failure.OfCall := by
  unfold invoke
  refine Bridge.Yields.after fun r => ?_
  cases r with
  | ok h => exact Attempt.Fails.pure h
  | error cause => exact Bridge.Yields.after fun _ => Attempt.Fails.throw (.raised cause)

theorem invokeWith_fails (c : CallableHandle) (args : List Handle) :
    (c.invokeWith G args).Fails Failure.OfCall := by
  unfold invokeWith
  refine (Attempt.Fails.mapError fun _ => .raised _).bind fun tuple => ?_
  refine Attempt.Fails.within tuple ?_
  exact (Attempt.Fails.mapError fun _ => .raised _).bind fun _ => invoke_fails c (some tuple)

theorem callWith_fails (E : Encoder σ α) (D : Decoder σ β) (c : CallableHandle) (args : List α) :
    (c.callWith G E D args).Fails Failure.OfCall := by
  unfold callWith
  refine (Sequence.toList_fails E args).bind fun list => ?_
  refine Attempt.Fails.within list ?_
  refine (invokeWith_fails c [list]).bind fun result => ?_
  exact Attempt.Fails.within result (Sequence.fromList_fails D result)

theorem callWith_mild (E : Encoder σ α) (D : Decoder σ β) (c : CallableHandle) (args : List α) :
    (c.callWith G E D args).Fails Failure.Mild :=
  (callWith_fails E D c args).mono fun _ hf => hf.mild

end CallableHandle

namespace Session

/-- The attempt is a session, past whose gate it fails mildly. -/
def Guarded (G : Guest σ) (expected : Option Nat) (x : Attempt σ Failure α) : Prop :=
  ∃ body : Nat → Attempt σ Failure α,
    (∀ generation, (body generation).Fails Failure.Mild) ∧ x = enterAs G expected body

theorem Guarded.mild_of_open {expected : Option Nat} {x : Attempt σ Failure α} {f : Failure}
    (hx : Guarded G expected x) (hopen : Open expected h.lifecycle)
    (hr : x.run.run h = .ok (.error f, h')) : f.Mild := by
  obtain ⟨body, hbody, rfl⟩ := hx
  rw [enterAs_run_of_open hopen] at hr
  obtain ⟨u, h₁, -, hrest⟩ := Bridge.bind_ok hr
  exact hbody _ h₁ _ h' hrest f rfl

end Session

theorem callFunction_guarded (E : Encoder σ α) (D : Decoder σ β) (moduleName function : String)
    (args : List α) : Session.Guarded G none (callFunction G E D moduleName function args) := by
  unfold callFunction Session.enter
  refine ⟨_, fun _ => ?_, rfl⟩
  refine (ModuleHandle.importAs_mild moduleName).bind fun m => ?_
  refine (m.resolveCallable_mild function).bind fun c => ?_
  exact c.callWith_mild E D args

namespace Binding

theorem bind_guarded (moduleName function : String) :
    Session.Guarded G none (bind G moduleName function) := by
  refine ⟨_, fun generation => ?_, rfl⟩
  refine (ModuleHandle.importAs_mild moduleName).bind fun m => ?_
  refine (m.resolveCallable_mild function).bind fun c => ?_
  refine (Attempt.Fails.lift _).bind fun h => ?_
  refine (Attempt.Fails.lift _).bind fun _ => ?_
  exact (Attempt.Fails.lift _).bind fun callable => Attempt.Fails.pure _

theorem callAs_guarded (E : Encoder σ α) (D : Decoder σ β) (b : Binding) (args : List α) :
    Session.Guarded G (some b.generation) (b.callAs G E D args) := by
  refine ⟨_, fun _ => ?_, rfl⟩
  refine (Attempt.Fails.lift _).bind fun h => ?_
  exact Attempt.Fails.within h (CallableHandle.callWith_mild E D _ args)

end Binding

namespace Interpreter

/-- A path that is no text is refused at once; any other is appended in a session. -/
theorem appendPath_guarded (path : SearchPath) : (appendPath G path).Fails Failure.Mild ∨
    Session.Guarded G none (appendPath G path) := by
  unfold appendPath
  cases path.text? with
  | none => exact .inl (Attempt.Fails.throw rfl)
  | some text =>
    refine .inr ⟨_, fun _ => ?_, rfl⟩
    refine Attempt.Fails.get fun s => ?_
    cases G.searchPath s.world with
    | none => exact (Attempt.Fails.lift _).bind fun r => Attempt.Fails.throw rfl
    | some list =>
      refine (Attempt.mapError_mild fun _ => rfl).bind fun entry => ?_
      refine Attempt.Fails.within entry ?_
      exact (Attempt.mapError_mild fun _ => rfl).bind fun _ => Attempt.Fails.lift _

theorem appendPath_mild_of_running {path : SearchPath} {f : Failure}
    (hs : h.lifecycle.stage = .running)
    (hr : (appendPath G path).run.run h = .ok (.error f, h')) : f.Mild := by
  rcases appendPath_guarded (G := G) path with hmild | hguarded
  · exact hmild h _ h' hr f rfl
  · exact hguarded.mild_of_open ⟨hs, rfl⟩ hr

/-- An interpreter that runs goes on running while paths are appended. -/
theorem appendPaths_mild_of_running {f : Failure} : ∀ {paths : List SearchPath} {h : Host σ},
    h.lifecycle.stage = .running →
    (appendPaths G paths).run.run h = .ok (.error f, h') → f.Mild := by
  intro paths
  induction paths with
  | nil =>
    intro h _ hr
    cases hr
  | cons p ps ih =>
    intro h hs hr
    unfold appendPaths at hr
    rcases Attempt.bind_cases hr with ⟨e, he, hp⟩ | ⟨u, h₁, hp, hrest⟩
    · cases he
      exact appendPath_mild_of_running hs hp
    · have hlife : h₁.lifecycle = h.lifecycle :=
        appendPath_sessional (fixed_sessional G Standing.lifecycle) p h _ h₁ hp
      exact ih (by rw [hlife]; exact hs) hrest

end Interpreter

/-! ## Harmless failures -/

/-- From this host, a fatal failure of the operation changes nothing but the log. -/
def Attempt.Harmless (x : Attempt σ Failure α) (h : Host σ) : Prop :=
  ∀ f h', x.run.run h = .ok (.error f, h') → f.isFatal = true → h' = { h with log := h'.log }

namespace Attempt.Harmless

variable {x : Attempt σ Failure α} {f : α → Attempt σ Failure β}

/-- Past the gate there is nothing to prove. -/
theorem of_mild_run (hx : ∀ f h', x.run.run h = .ok (.error f, h') → f.Mild) : x.Harmless h := by
  intro f h' hr hfatal
  have hmild : f.isFatal = false := hx f h' hr
  rw [hmild] at hfatal
  cases hfatal

theorem of_mild (hx : x.Fails Failure.Mild) : x.Harmless h :=
  of_mild_run fun f h' hr => hx h _ h' hr f rfl

/-- The first part is harmless, and the second fails mildly wherever the first leads. -/
theorem bind (hx : x.Harmless h) (hf : ∀ a h₁, x.run.run h = .ok (.ok a, h₁) →
    ∀ g h', (f a).run.run h₁ = .ok (.error g, h') → g.Mild) : (x >>= f).Harmless h := by
  intro g h' hr hfatal
  rcases bind_cases hr with ⟨e, he, hxr⟩ | ⟨a, h₁, hxr, hrest⟩
  · cases he
    exact hx g h' hxr hfatal
  · have hmild : g.isFatal = false := hf a h₁ hxr g h' hrest
    rw [hmild] at hfatal
    cases hfatal

theorem of_run {r : Except Failure α} {log : List Log.Record}
    (hr : x.run.run h = .ok (r, { h with log := log })) : x.Harmless h := by
  intro f h' hr' _
  rw [hr] at hr'
  cases hr'
  rfl

theorem of_success {a : α} {h₁ : Host σ} (hr : x.run.run h = .ok (.ok a, h₁)) : x.Harmless h := by
  intro f h' hr' _
  rw [hr] at hr'
  cases hr'

end Attempt.Harmless

/-- A session that is not entered has changed nothing. -/
theorem Session.Guarded.harmless {expected : Option Nat} {x : Attempt σ Failure α}
    (hx : Guarded G expected x) : x.Harmless h := by
  by_cases hopen : Open expected h.lifecycle
  · exact Attempt.Harmless.of_mild_run fun f h' hr => hx.mild_of_open hopen hr
  · obtain ⟨body, -, rfl⟩ := hx
    exact Attempt.Harmless.of_run (enterAs_run_of_not_open hopen)

namespace Interpreter

theorem appendPath_harmless (path : SearchPath) : (appendPath G path).Harmless h := by
  rcases appendPath_guarded (G := G) path with hmild | hguarded
  · exact Attempt.Harmless.of_mild hmild
  · exact hguarded.harmless

/-- An interpreter that comes up when it is told to leaves no half-made start behind. -/
theorem launch_harmless (hboot : G.isUp (booted G h).world = true) :
    (launch G thread config).Harmless h := by
  cases hf : startRefusal config h with
  | some f => exact Attempt.Harmless.of_run (launch_run_of_refused thread hf)
  | none =>
    cases hup : G.isUp h.world with
    | true => exact Attempt.Harmless.of_run (launch_run_of_up thread hf hup)
    | false =>
      exact Attempt.Harmless.of_success
        (launch_run_of_launches thread (launches_iff.mpr ⟨hf, hup, hboot⟩))

theorem launch_ok {u : Unit} (hr : (launch G thread config).run.run h = .ok (.ok u, h')) :
    h'.lifecycle.stage = .running := by
  cases hl : launches G config h with
  | true =>
    rw [launch_run_of_launches thread hl] at hr
    cases hr
    rfl
  | false =>
    obtain ⟨f, h₁, hrun, -⟩ := launch_run_of_not_launches thread hl
    rw [hrun] at hr
    cases hr

theorem start_harmless (hboot : G.isUp (booted G h).world = true) :
    (start G thread config).Harmless h := by
  unfold start
  exact (launch_harmless hboot).bind fun u h₁ hlaunch f h' hr =>
    appendPaths_mild_of_running (launch_ok hlaunch) hr

theorem stop_harmless : (stop G thread).Harmless h := by
  by_cases hs : h.lifecycle.stage = .running
  · obtain ⟨h', hrun, -⟩ := stop_run_of_running G thread hs
    exact Attempt.Harmless.of_success hrun
  · exact Attempt.Harmless.of_run (stop_run_of_not_running hs)

end Interpreter

theorem Ticket.call_harmless (E : Encoder σ α) (D : Decoder σ β) (t : Ticket) (args : List α) :
    (t.call G E D args).Harmless h := by
  intro f h' hr hfatal
  unfold Ticket.call at hr
  rw [Attempt.run_lift_bind (Ticket.share?_run t h)] at hr
  cases hs : h.shares.lookup t.serial with
  | none =>
    rw [hs] at hr
    cases hr
    rfl
  | some s =>
    rw [hs] at hr
    exact (s.binding.callAs_guarded E D args).harmless f h' hr hfatal

/-! ## The registry -/

namespace Ticket

variable {t t' : Ticket} {s : Share}

/-- A claim that is given up right after it was made leaves no trace. -/
theorem drop_run_of_clone (ho : h.shelf.Orderly) (hclone : (t.clone).run h = .ok (t', h'))
    (busy : Bool) (log : List Log.Record) :
    (t'.drop G busy).run { h' with log := log } = .ok ((), { h with log := log }) := by
  cases hs : h.shares.lookup t.serial with
  | none =>
    rw [clone_run_of_unknown hs] at hclone
    cases hclone
    exact drop_run_of_unknown busy hs
  | some s =>
    rw [clone_run_of_known hs] at hclone
    cases hclone
    have hkeys : (h.shares.map Prod.fst).Nodup := ho.keys
    have howned : 1 ≤ s.owners := ho.owned _ (Shares.mem_of_lookup hs)
    have hfound := Shares.lookup_set_self hs { s with owners := s.owners + 1 }
    refine (drop_run_of_shared busy hfound (Nat.lt_succ_of_le howned)).trans ?_
    dsimp only
    rw [Nat.add_sub_cancel, Shares.set_back hkeys hs]

end Ticket

namespace Registry

theorem insert_mild_of_open {r : Registry} {b : Binding} {f : Failure} (hr : h.registry = some r)
    (hx : (insert G b).run.run h = .ok (.error f, h')) : f.Mild := by
  change (get >>= _ : Bridge σ _).run h = _ at hx
  rw [Bridge.run_get_bind, hr] at hx
  dsimp only at hx
  split at hx
  next => cases hx
  next =>
    obtain ⟨u, h₁, -, hrest⟩ := Bridge.bind_ok hx
    cases hrest
    rfl

theorem insert_harmless (hg : h.Gated) (b : Binding) : (insert G b).Harmless h := by
  cases hr : h.registry with
  | none =>
    have hs : h.lifecycle.stage ≠ .running := by
      rw [Ne, hg.gates, hr]
      exact Bool.false_ne_true
    have hrun := Binding.drop_run_of_not_running (G := G) hs b
    exact Attempt.Harmless.of_run ((insert_run_of_closed hr b).trans (Bridge.run_bind hrun))
  | some r => exact Attempt.Harmless.of_mild_run fun f h' hx => insert_mild_of_open hr hx

/-- Where there is a registry, an operation on it fails mildly. -/
theorem whileOpen_harmless {f : Registry → Attempt σ Failure α}
    (hf : ∀ r, (f r).Fails Failure.Mild) : (whileOpen f).Harmless h := by
  cases hr : h.registry with
  | none => exact Attempt.Harmless.of_run (whileOpen_run_of_closed hr)
  | some r =>
    refine Attempt.Harmless.of_mild_run fun g h' hx => ?_
    rw [whileOpen_run_of_open hr] at hx
    exact hf r h _ h' hx g rfl

theorem find_harmless (id : Int) : (find id).Harmless h := by
  refine whileOpen_harmless fun r => ?_
  split
  next => exact Attempt.Fails.throw rfl
  next => exact Attempt.Fails.lift _

theorem remove_harmless (id : Int) : (remove id).Harmless h := by
  refine whileOpen_harmless fun r => ?_
  split
  next => exact Attempt.Fails.throw rfl
  next => exact (Attempt.Fails.lift _).bind fun _ => Attempt.Fails.pure _

theorem size_harmless : size.Harmless h := whileOpen_harmless fun _ => Attempt.Fails.pure _

theorem size_run (h : Host σ) : ∃ x, size.run.run h = .ok (x, h) := by
  cases hr : h.registry with
  | none => exact ⟨_, size_barred hr⟩
  | some r => exact ⟨_, whileOpen_run_of_open hr⟩

/-- A binding that was made is offered to a registry that is still there. -/
theorem bindNew_harmless (hg : h.Gated) (moduleName function : String) :
    (bindNew G moduleName function).Harmless h := by
  unfold bindNew
  refine (Binding.bind_guarded moduleName function).harmless.bind fun b h₁ hb f h' hx => ?_
  have hstation : h₁.station = h.station :=
    Binding.bind_sessional (fixed_sessional G Standing.station) moduleName function h _ h₁ hb
  have hs : h.lifecycle.stage = .running := by
    by_contra hs
    rw [Binding.bind_barred hs moduleName function] at hb
    cases hb
  obtain ⟨r, hr⟩ := Option.isSome_iff_exists.mp (hg.gates.mp hs)
  exact insert_mild_of_open ((congrArg Station.registry hstation).trans hr) hx

theorem find_ok {id : Int} {t : Ticket} (hr : (find id).run.run h = .ok (.ok t, h')) :
    ∃ t' : Ticket, (t'.clone).run h = .ok (t, h') := by
  cases hreg : h.registry with
  | none =>
    rw [find_barred hreg id] at hr
    cases hr
  | some r =>
    cases hid : r.entries.lookup id with
    | none =>
      rw [find_run_of_unknown hreg hid] at hr
      cases hr
    | some t' =>
      unfold find at hr
      rw [whileOpen_run_of_open hreg, hid] at hr
      obtain ⟨a, ha, hclone⟩ := Attempt.lift_ok hr
      cases ha
      exact ⟨t', hclone⟩

/-- The claim that was made for a call is given up also if the call is refused. -/
theorem findAndCall_harmless (ho : h.shelf.Orderly) (E : Encoder σ α) (D : Decoder σ β) (id : Int)
    (args : List α) : (findAndCall G E D id args).Harmless h := by
  intro f h' hr hfatal
  unfold findAndCall at hr
  rcases Attempt.bind_cases hr with ⟨e, he, hfind⟩ | ⟨t, h₁, hfind, hrest⟩
  · cases he
    exact find_harmless id f h' hfind hfatal
  · obtain ⟨x, h₂, hcall, hrest⟩ := Bridge.bind_ok hrest
    obtain ⟨u, h₃, hdrop, hlast⟩ := Bridge.bind_ok hrest
    obtain ⟨rfl, rfl⟩ := Bridge.pure_ok hlast
    have hsame := t.call_harmless E D args f h₂ hcall hfatal
    obtain ⟨t', hclone⟩ := find_ok hfind
    rw [hsame, Ticket.drop_run_of_clone ho hclone] at hdrop
    cases hdrop
    rfl

theorem removeAndDrop_harmless (id : Int) : (removeAndDrop G id).Harmless h := by
  unfold removeAndDrop
  refine (remove_harmless id).bind fun t h₁ _ f h' hr => ?_
  obtain ⟨a, ha, -⟩ := Attempt.lift_ok hr
  cases ha

end Registry

/-! ## The C interface -/

namespace CInterface

/-- From this host, a call that tells of a fatal failure changes nothing but the log and the last
errors. -/
def Harmless (call : Bridge σ (Answer α)) (h : Host σ) : Prop :=
  ∀ a h' (f : Failure), call.run h = .ok (a, h') → f.isFatal = true → a.status = f.code →
    h' = { h with log := h'.log, lastErrors := h'.lastErrors }

theorem answer_harmless {body : Attempt σ Failure α}
    (hbody : body.Harmless { h with lastErrors := h.lastErrors.clear thread }) :
    Harmless (answer thread body) h := by
  intro a h' f hr hfatal hcode
  rw [answer_run] at hr
  cases hrun : body.run.run { h with lastErrors := h.lastErrors.clear thread } with
  | error e =>
    rw [hrun] at hr
    cases hr
  | ok p =>
    obtain ⟨r, k⟩ := p
    rw [hrun] at hr
    cases r with
    | ok x =>
      cases hr
      exact absurd hcode.symm (Int.ne_of_lt f.code_neg)
    | error g =>
      cases hr
      -- the status gives the failure away up to its details
      have hsame := hbody g k hrun ((Failure.isFatal_of_code_eq hcode).trans hfatal)
      rw [hsame]

theorem check_harmless {checks : Except Failure β} {counterpart : β → Attempt σ Failure α}
    (hc : ∀ b, (counterpart b).Harmless h) : (check checks >>= counterpart).Harmless h := by
  cases checks with
  | error f => exact Attempt.Harmless.of_run (check_bind_of_error rfl)
  | ok b =>
    intro f h' hr hfatal
    rw [check_bind_of_ok rfl] at hr
    exact hc b f h' hr hfatal

theorem start_harmless (hboot : G.isUp (Interpreter.booted G h).world = true) (e : Environment) :
    Harmless (start G thread e) h :=
  answer_harmless (Interpreter.start_harmless hboot)

theorem startWithConfig_harmless (hboot : G.isUp (Interpreter.booted G h).world = true)
    (json : CString) : Harmless (startWithConfig G thread json) h := by
  rw [startWithConfig_eq]
  exact answer_harmless (check_harmless fun _ => Interpreter.start_harmless hboot)

theorem stop_harmless : Harmless (stop G thread) h := answer_harmless Interpreter.stop_harmless

theorem appendPath_harmless (path : CString) : Harmless (appendPath G thread path) h := by
  rw [appendPath_eq]
  exact answer_harmless (check_harmless fun p => Interpreter.appendPath_harmless p)

theorem callFunction_harmless (moduleName function : CString) (values : ValuesArg)
    (output : OutputArg) : Harmless (callFunction G thread moduleName function values output) h := by
  rw [callFunction_eq]
  exact answer_harmless (check_harmless fun x => (callFunction_guarded _ _ _ _ _).harmless)

theorem bind_harmless (hg : h.Gated) (moduleName function : CString) (output : Bool) :
    Harmless (bind G thread moduleName function output) h := by
  have hcleared := hg.tell (h.lastErrors.clear thread)
  rw [bind_eq]
  exact answer_harmless (check_harmless fun x => Registry.bindNew_harmless hcleared x.1 x.2)

theorem callBound_harmless (hg : h.Gated) (id : Int) (values : ValuesArg) (output : OutputArg) :
    Harmless (callBound G thread id values output) h := by
  have hcleared := hg.tell (h.lastErrors.clear thread)
  rw [callBound_eq]
  exact answer_harmless (check_harmless fun xs =>
    Registry.findAndCall_harmless hcleared.shelf _ _ id xs)

theorem unbind_harmless (id : Int) : Harmless (unbind G thread id) h :=
  answer_harmless (Registry.removeAndDrop_harmless id)

end CInterface

namespace Scenario

/-- The status in what a call gave. -/
def InterfaceValue.code : InterfaceValue → Int
  | .status c | .id c _ | .result c _ => c
  | .nothing => 0

namespace InterfaceCall

open CInterface

/-- From this host, a call that gives the status of a fatal failure changes nothing but the log and
the last errors. -/
def Harmless (x : Bridge σ InterfaceValue) (h : Host σ) : Prop :=
  ∀ v h' (f : Failure), x.run h = .ok (v, h') → f.isFatal = true → v.code = f.code →
    h' = { h with log := h'.log, lastErrors := h'.lastErrors }

theorem harmless_of_answer {x : Bridge σ (CInterface.Answer α)} (hx : CInterface.Harmless x h)
    {give : CInterface.Answer α → InterfaceValue} (hgive : ∀ a, (give a).code = a.status) :
    Harmless (x >>= fun a => pure (give a)) h := by
  intro v h' f hr hfatal hcode
  obtain ⟨a, h₁, hxr, hrest⟩ := Bridge.bind_ok hr
  obtain ⟨rfl, rfl⟩ := Bridge.pure_ok hrest
  exact hx a h' f hxr hfatal ((hgive a).symm.trans hcode)

/-- A number that is no failure's. -/
theorem harmless_of_nonneg {x : Bridge σ InterfaceValue}
    (hx : ∀ v h', x.run h = .ok (v, h') → 0 ≤ v.code) : Harmless x h := by
  intro v h' f hr _ hcode
  have hneg : v.code < 0 := by
    rw [hcode]
    exact f.code_neg
  exact absurd (hx v h' hr) (by omega)

/-- What only concerns the last errors. -/
theorem harmless_of_run {x : Bridge σ InterfaceValue} {v : InterfaceValue} {e : LastErrors}
    (hx : x.run h = .ok (v, { h with lastErrors := e })) : Harmless x h := by
  intro w h' f hr _ _
  rw [hx] at hr
  cases hr
  rfl

theorem state_nonneg {v : InterfaceValue}
    (hr : (numberOf CInterface.state).run h = .ok (v, h')) : 0 ≤ v.code := by
  cases hr
  show 0 ≤ stageNumber h.lifecycle.stage
  cases h.lifecycle.stage <;> decide

theorem initLog_nonneg {verbosity : Int} {v : InterfaceValue}
    (hr : (numberOf (CInterface.initLog verbosity)).run h = .ok (v, h')) : 0 ≤ v.code := by
  obtain ⟨n, h₁, hn, hrest⟩ := Bridge.bind_ok hr
  obtain ⟨rfl, rfl⟩ := Bridge.pure_ok hrest
  obtain ⟨b, h₂, -, hlast⟩ := Bridge.bind_ok hn
  split at hlast
  next => obtain ⟨rfl, -⟩ := Bridge.pure_ok hlast; decide
  next => obtain ⟨rfl, -⟩ := Bridge.pure_ok hlast; decide

theorem bindingCount_harmless : Harmless (numberOf (CInterface.bindingCount thread)) h := by
  intro v h' f hr _ _
  obtain ⟨n, h₁, hn, hrest⟩ := Bridge.bind_ok hr
  obtain ⟨rfl, rfl⟩ := Bridge.pure_ok hrest
  unfold CInterface.bindingCount at hn
  rw [Bridge.run_modify_bind] at hn
  obtain ⟨x, hx⟩ := Registry.size_run { h with lastErrors := h.lastErrors.clear thread }
  rw [Bridge.run_bind hx] at hn
  cases x with
  | ok n =>
    cases hn
    rfl
  | error g =>
    cases hn
    rfl

theorem perform_harmless (hg : h.Gated) (hboot : G.isUp (Interpreter.booted G h).world = true)
    (call : InterfaceCall) : Harmless (call.perform G thread) h := by
  cases call with
  | start e => exact harmless_of_answer (start_harmless hboot e) fun _ => rfl
  | startWithConfig json => exact harmless_of_answer (startWithConfig_harmless hboot json) fun _ => rfl
  | stop => exact harmless_of_answer stop_harmless fun _ => rfl
  | state => exact harmless_of_nonneg fun _ _ => state_nonneg
  | appendPath path => exact harmless_of_answer (appendPath_harmless path) fun _ => rfl
  | initLog verbosity => exact harmless_of_nonneg fun _ _ => initLog_nonneg
  | callFunction m f values output =>
    exact harmless_of_answer (callFunction_harmless m f values output) fun _ => rfl
  | bind m f output => exact harmless_of_answer (bind_harmless hg m f output) fun _ => rfl
  | callBound id values output =>
    exact harmless_of_answer (callBound_harmless hg id values output) fun _ => rfl
  | unbind id => exact harmless_of_answer (unbind_harmless id) fun _ => rfl
  | bindingCount => exact bindingCount_harmless
  | liveHandles => exact harmless_of_run (v := .status h.live) (e := h.lastErrors) rfl
  | lastError => exact harmless_of_run (v := .nothing) (e := h.lastErrors) rfl
  | clearLastError => exact harmless_of_run (v := .nothing) (e := h.lastErrors.clear thread) rfl
  | setLastError text =>
    exact harmless_of_run (v := .nothing) (e := h.lastErrors.set thread text) rfl

end InterfaceCall

end Scenario

/-! ## All operations -/

/-- Whatever operation fails fatally from this host has changed nothing but the log. A program
inside a session may fail for reasons of its own, so there is one condition on it: it does not pass
off another failure as one of the lifecycle. -/
structure Careful (G : Guest σ) (h : Host σ) : Prop where
  session : ∀ {α : Type} (expected : Option Nat) (body : Nat → Attempt σ Failure α),
    (∀ generation, (body generation).Fails Failure.Mild) →
    (Session.enterAs G expected body).Harmless h
  launch : ∀ thread config, (Interpreter.launch G thread config).Harmless h
  start : ∀ thread config, (Interpreter.start G thread config).Harmless h
  stop : ∀ thread, (Interpreter.stop G thread).Harmless h
  appendPath : ∀ path, (Interpreter.appendPath G path).Harmless h
  callFunction : ∀ {α β : Type} (E : Encoder σ α) (D : Decoder σ β) moduleName function args,
    (callFunction G E D moduleName function args).Harmless h
  bind : ∀ moduleName function, (Binding.bind G moduleName function).Harmless h
  callAs : ∀ {α β : Type} (E : Encoder σ α) (D : Decoder σ β) (b : Binding) args,
    (b.callAs G E D args).Harmless h
  callTicket : ∀ {α β : Type} (E : Encoder σ α) (D : Decoder σ β) (t : Ticket) args,
    (t.call G E D args).Harmless h
  insert : ∀ b, (Registry.insert G b).Harmless h
  find : ∀ id, (Registry.find id).Harmless h
  remove : ∀ id, (Registry.remove id).Harmless h
  size : Registry.size.Harmless h
  interface : ∀ thread call, InterfaceCall.Harmless (InterfaceCall.perform G thread call) h

theorem Host.Gated.careful (hg : h.Gated) (hboot : G.isUp (Interpreter.booted G h).world = true) :
    Careful G h where
  session _ _ hbody := Session.Guarded.harmless ⟨_, hbody, rfl⟩
  launch _ _ := Interpreter.launch_harmless hboot
  start _ _ := Interpreter.start_harmless hboot
  stop _ := Interpreter.stop_harmless
  appendPath path := Interpreter.appendPath_harmless path
  callFunction E D m f args := (callFunction_guarded E D m f args).harmless
  bind m f := (Binding.bind_guarded m f).harmless
  callAs E D b args := (b.callAs_guarded E D args).harmless
  callTicket E D t args := t.call_harmless E D args
  insert b := Registry.insert_harmless hg b
  find id := Registry.find_harmless id
  remove id := Registry.remove_harmless id
  size := Registry.size_harmless
  interface _ call := call.perform_harmless hg hboot

namespace Process

/-- **Nothing runs outside a live session.** In every state that operations of the bridge can reach,
also with an interpreter that others brought up, the gates are shut while the interpreter does not
run, and whatever operation fails fatally changes nothing. -/
theorem gate_laws (hboots : ∀ n w, G.isUp (G.boot n w) = true) (world : σ) (steps : List (Step σ)) :
    Ends ((fresh world).run G steps) fun p =>
      (p.host.lifecycle.stage ≠ .running → Shut G p.host) ∧ Careful G p.host := by
  intro p hr
  have hg : p.host.Gated := run_gated hr
  exact ⟨fun hs => hg.shut hs, hg.careful (hboots _ _)⟩

/-- The gates of a process whose interpreter was brought up by others. -/
theorem python_gate_laws :
    (∀ n w, Machine.python.isUp (Machine.python.boot n w) = true) ∧
    ∃ p, (fresh Machine.World.down).run Machine.python
        [.outside fun w => { w with up := true }] = .ok p ∧
      p.host.world.up = true ∧ p.host.lifecycle.stage ≠ .running ∧
      Shut Machine.python p.host ∧ Careful Machine.python p.host := by
  refine ⟨fun _ _ => rfl, _, rfl, rfl, by decide, ?_⟩
  have laws := gate_laws (G := Machine.python) (fun _ _ => rfl) Machine.World.down
    [.outside fun w => { w with up := true }] _ rfl
  exact ⟨laws.1 (by decide), laws.2⟩

end Process

end Embedder
