import Embedder.Proofs.BindingIds
import Embedder.Proofs.Likeness

/-!
# The C interface refines the typed one

Each operation of the C interface that answers with a status checks its arguments, in an order that
is written down here for each (`startChecks` and so on), and then does what its counterpart for
typed callers does (`Refines`). It differs from the counterpart in the last error of its thread
only: the slot is empty after a success, and holds the text of the failure after a failure.

The counterpart runs here after the slot was cleared. That it would have done the same before is a
matter of two runs: no typed operation reads or writes a slot (`slots_clerical`).
-/

namespace Embedder

variable {σ α β : Type} {G : Guest σ} {h h' h₁ : Host σ}

/-! ## Other last errors -/

/-- The second host differs in its last errors only, which are `e`. -/
def Slots (e : LastErrors) : Likeness σ := fun h k => k = { h with lastErrors := e }

theorem act_slots (e : LastErrors) (f : σ → Effect σ α) : (Bridge.act f).Even (Slots e) := by
  rintro h _ rfl
  rw [Bridge.act_run, Bridge.act_run]
  exact .returned _ rfl

theorem slots_steady (G : Guest σ) (e : LastErrors) : (Slots e).Steady G where
  pending := by rintro h _ rfl; rfl
  look := by rintro _ f _ h _ rfl; rfl
  count := by rintro n h _ rfl; rfl
  record := by rintro r h _ rfl; rfl
  leave := by rintro p h _ rfl; rfl
  retain := by rintro o h _ rfl; rfl
  act _ := act_slots e _

theorem slots_clerical (G : Guest σ) (e : LastErrors) : (Slots e).Clerical G where
  toLawful := (slots_steady G e).lawful (by rintro h _ rfl; rfl)
  records := by rintro h _ rfl; rfl
  file := by rintro r h _ rfl; rfl
  printing := by rintro b h _ rfl; rfl
  isUp := by rintro h _ rfl; rfl
  boot := by rintro n h _ rfl; rfl
  shutdown := act_slots e _
  releaseKept _ _ := act_slots e _

namespace CInterface

/-! ## Answers -/

/-- How an operation of the C interface turns out. -/
theorem answer_run (thread : ThreadId) (body : Attempt σ Failure α) (h : Host σ) :
    (answer thread body).run h =
      match body.run.run { h with lastErrors := h.lastErrors.clear thread } with
      | .error e => .error e
      | .ok (.ok a, k) => .ok (⟨0, some a⟩, k)
      | .ok (.error f, k) =>
        .ok (⟨f.code, none⟩, { k with lastErrors := k.lastErrors.set thread f.detailed }) := by
  unfold answer
  rw [Bridge.run_modify_bind, StateT.run_bind]
  cases body.run.run { h with lastErrors := h.lastErrors.clear thread } with
  | error e => rfl
  | ok p =>
    obtain ⟨r, k⟩ := p
    cases r with
    | ok a => rfl
    | error f => rfl

/-- Once its body has run, a call changes no more than last errors. -/
theorem answer_left {body : Attempt σ Failure α} {thread : ThreadId} {h h' : Host σ} {a : Answer α}
    (ha : (answer thread body).run h = .ok (a, h')) :
    ∃ r k e, body.run.run { h with lastErrors := h.lastErrors.clear thread } = .ok (r, k) ∧
      h' = { k with lastErrors := e } := by
  rw [answer_run] at ha
  split at ha
  next => cases ha
  next x k hbody =>
    cases ha
    exact ⟨_, _, _, hbody, rfl⟩
  next f k hbody =>
    cases ha
    exact ⟨_, _, _, hbody, rfl⟩

/-- The host is as it was but for the last error of one thread, which is `message`. -/
structure Tells (thread : ThreadId) (message : Option String) (h h' : Host σ) : Prop where
  rest : h' = { h with lastErrors := h'.lastErrors }
  own : h'.lastErrors.get thread = message
  others : ∀ t, t ≠ thread → h'.lastErrors.get t = h.lastErrors.get t

theorem tells_clear (thread : ThreadId) (h : Host σ) :
    Tells thread none h { h with lastErrors := h.lastErrors.clear thread } where
  rest := rfl
  own := LastErrors.get_clear_self _ _
  others _ hne := LastErrors.get_clear_of_ne _ hne

/-- A message is stored whatever characters it has. -/
theorem tells_set (thread : ThreadId) (message : String) (h : Host σ) :
    Tells thread (some (LastErrors.escapeNul message)) h
      { h with lastErrors := (h.lastErrors.clear thread).set thread message } where
  rest := rfl
  own := LastErrors.get_set_self _ _ _
  others t hne := by
    show LastErrors.get (LastErrors.set _ _ _) t = _
    rw [LastErrors.get_set_of_ne _ _ hne, LastErrors.get_clear_of_ne _ hne]

/-- What a call of the C interface makes of the way its typed counterpart turns out. -/
inductive Reports (thread : ThreadId) :
    Except Exit (Except Failure α × Host σ) → Except Exit (Answer α × Host σ) → Prop where
  | ended (e : Exit) : Reports thread (.error e) (.error e)
  /-- Nothing is written through an out-pointer, and the failure is told. -/
  | failed (f : Failure) {h h' : Host σ}
      (htells : Tells thread (some (LastErrors.escapeNul f.detailed)) h h') :
      Reports thread (.ok (.error f, h)) (.ok (⟨f.code, none⟩, h'))
  /-- The result is written through the out-pointers. -/
  | succeeded (a : α) {h h' : Host σ} (htells : Tells thread none h h') :
      Reports thread (.ok (.ok a, h)) (.ok (⟨0, some a⟩, h'))

/-- What runs alike whatever the last errors are does not change them. -/
theorem lastErrors_of_even {x : Bridge σ α} {a : α} (hx : ∀ e, x.Even (Slots e))
    (hr : x.run h = .ok (a, h')) : h'.lastErrors = h.lastErrors := by
  have hsame := hx h.lastErrors h h rfl
  rw [hr] at hsame
  cases hsame with
  | returned _ hs =>
    have hs : h' = { h' with lastErrors := h.lastErrors } := hs
    rw [hs]

theorem answer_reports (thread : ThreadId) {body : Attempt σ Failure α}
    (hbody : ∀ e, body.Even (Slots e)) (h : Host σ) :
    Reports thread (body.run.run h) ((answer thread body).run h) := by
  have hkept : ∀ {r h₁}, body.run.run h = .ok (r, h₁) → h₁.lastErrors = h.lastErrors :=
    lastErrors_of_even hbody
  have halike := hbody (h.lastErrors.clear thread) h _ rfl
  rw [answer_run]
  generalize body.run.run h = x at halike hkept
  generalize body.run.run { h with lastErrors := h.lastErrors.clear thread } = y at halike
  cases halike with
  | ended e => exact .ended e
  | @returned r h₁ _ hs =>
    have herrors : h₁.lastErrors = h.lastErrors := hkept rfl
    rw [show _ = _ from hs, ← herrors]
    cases r with
    | ok a => exact .succeeded a (tells_clear thread h₁)
    | error f => exact .failed f (tells_set thread f.detailed h₁)

/-- From the host `h`, the operation `call` checks its arguments, does what `counterpart` does with
them, and reports how it turned out. -/
structure Refines (thread : ThreadId) (checks : Except Failure β)
    (counterpart : β → Attempt σ Failure α) (call : Bridge σ (Answer α)) (h : Host σ) : Prop where
  /-- An argument that fails its check is reported, and nothing is done. -/
  refused : ∀ f, checks = .error f → Reports thread (.ok (.error f, h)) (call.run h)
  performed : ∀ b, checks = .ok b → Reports thread ((counterpart b).run.run h) (call.run h)
  /-- The status is zero exactly after a success, and negative after a failure. -/
  status : ∀ a h', call.run h = .ok (a, h') →
    (a.status = 0 ↔ ∃ b x h₁, checks = .ok b ∧ (counterpart b).run.run h = .ok (.ok x, h₁)) ∧
    (a.status = 0 ∨ a.status < 0)

theorem Reports.status {x : Except Exit (Except Failure α × Host σ)} {a : Answer α}
    (hr : Reports thread x (.ok (a, h'))) :
    (a.status = 0 ↔ ∃ b h₁, x = .ok (.ok b, h₁)) ∧ (a.status = 0 ∨ a.status < 0) := by
  cases hr with
  | failed f htells =>
    have hneg : f.code < 0 := f.code_neg
    refine ⟨⟨fun hzero => ?_, ?_⟩, .inr hneg⟩
    · exact absurd hzero (Int.ne_of_lt hneg)
    · rintro ⟨b, h₁, hx⟩
      cases hx
  | succeeded b htells => exact ⟨⟨fun _ => ⟨b, _, rfl⟩, fun _ => rfl⟩, .inl rfl⟩

/-- Whatever the checks and the counterpart are, an operation that is made of them refines it. -/
theorem answer_refines (thread : ThreadId) (checks : Except Failure β)
    {counterpart : β → Attempt σ Failure α}
    (heven : ∀ e b, (counterpart b).Even (Slots e)) (h : Host σ) :
    Refines thread checks counterpart (answer thread (check checks >>= counterpart)) h := by
  have hbody : ∀ e, (check checks >>= counterpart).Even (Slots e) :=
    fun e => (check_even checks).bind (heven e)
  have hreports := answer_reports thread hbody h
  cases checks with
  | error f =>
    rw [check_bind_of_error rfl] at hreports
    refine ⟨?_, ?_, ?_⟩
    · rintro _ ⟨⟩
      exact hreports
    · rintro b ⟨⟩
    · intro a h' hr
      rw [hr] at hreports
      obtain ⟨hzero, hsign⟩ := hreports.status
      refine ⟨hzero.trans ⟨?_, ?_⟩, hsign⟩
      · rintro ⟨b, h₁, hx⟩
        cases hx
      · rintro ⟨b, x, h₁, hb, -⟩
        cases hb
  | ok b =>
    rw [check_bind_of_ok rfl] at hreports
    refine ⟨?_, ?_, ?_⟩
    · rintro f ⟨⟩
    · rintro _ ⟨⟩
      exact hreports
    · intro a h' hr
      rw [hr] at hreports
      obtain ⟨hzero, hsign⟩ := hreports.status
      refine ⟨hzero.trans ⟨?_, ?_⟩, hsign⟩
      · rintro ⟨x, h₁, hx⟩
        exact ⟨b, x, h₁, rfl, hx⟩
      · rintro ⟨_, x, h₁, ⟨⟩, hx⟩
        exact ⟨x, h₁, hx⟩

/-! ## Checks in order -/

/-- Checks one after the other are a check. -/
theorem check_bind (x : Except Failure α) (f : α → Except Failure β) :
    (check (x >>= f) : Attempt σ Failure β) = check x >>= fun a => check (f a) := by
  cases x with
  | ok a => rfl
  | error e => rfl

theorem check_pure_bind (a : α) (f : α → Attempt σ Failure β) :
    (check (pure a) : Attempt σ Failure α) >>= f = f a := rfl

/-- The configuration in an argument. -/
def configChecks (json : CString) : Except Failure Config := do
  let text ← argText "config" json
  Config.ofJson? text

def pathChecks (path : CString) : Except Failure SearchPath := do
  let text ← argText "path" path
  pure (SearchPath.ofText text)

/-- The names, then the values, then the out-pointers. -/
def callChecks (moduleName function : CString) (values : ValuesArg) (output : OutputArg) :
    Except Failure (String × String × List Double) := do
  let m ← argText "module" moduleName
  let f ← argText "function" function
  let xs ← argValues values
  argOutput output
  pure (m, f, xs)

/-- An out-pointer must be there. -/
def argPointer (given : Bool) : Except Failure Unit := if given then .ok () else .error nullOutput

/-- The names, then the out-pointer. -/
def bindChecks (moduleName function : CString) (output : Bool) :
    Except Failure (String × String) := do
  let m ← argText "module" moduleName
  let f ← argText "function" function
  argPointer output
  pure (m, f)

/-- The values, then the out-pointers. -/
def callBoundChecks (values : ValuesArg) (output : OutputArg) : Except Failure (List Double) := do
  let xs ← argValues values
  argOutput output
  pure xs

end CInterface

/-! ## Counterparts -/

variable (G : Guest σ)

/-- Bind a function and keep it in the registry. -/
def Registry.bindNew (moduleName function : String) : Attempt σ Failure Int := do
  let b ← Binding.bind G moduleName function
  insert G b

/-- Take a claim on a binding, call it, and give the claim up. -/
def Registry.findAndCall {α β : Type} (E : Encoder σ α) (D : Decoder σ β) (id : Int)
    (args : List α) : Attempt σ Failure (List β) := do
  let t ← find id
  ExceptT.mk do
    let r ← (t.call G E D args).run
    t.drop G false
    pure r

/-- Take a binding out of the registry and drop it. -/
def Registry.removeAndDrop (id : Int) : Attempt σ Failure Unit := do
  let t ← remove id
  (t.drop G false : Bridge σ Unit)

theorem Registry.bindNew_even {S : Likeness σ} (hS : S.Clerical G) (moduleName function : String) :
    (bindNew G moduleName function).Even S := by
  unfold bindNew
  exact (Binding.bind_even hS.sessional moduleName function).bind fun b => insert_even hS b

theorem Registry.findAndCall_even {S : Likeness σ} (hS : S.Clerical G) {E : Encoder σ α}
    {D : Decoder σ β} (hE : E.Even G) (hD : D.Even G) (id : Int) (args : List α) :
    (findAndCall G E D id args).Even S := by
  unfold findAndCall
  refine (find_even hS id).bind fun t => ?_
  refine Bridge.Even.bind (Ticket.call_even t hS hE hD args) fun r => ?_
  exact (Ticket.drop_even t hS false).bind fun _ => Bridge.Even.pure r

theorem Registry.removeAndDrop_even {S : Likeness σ} (hS : S.Clerical G) (id : Int) :
    (removeAndDrop G id).Even S := by
  unfold removeAndDrop
  exact (remove_even hS id).bind fun t => Attempt.Even.lift (Ticket.drop_even t hS false)

namespace CInterface

variable {thread : ThreadId}

/-! Each operation is its checks and its counterpart. -/

theorem startWithConfig_eq (json : CString) : startWithConfig G thread json =
    answer thread (check (configChecks json) >>= Interpreter.start G thread) := by
  simp only [startWithConfig, configChecks, check_bind, bind_assoc]

theorem appendPath_eq (path : CString) : appendPath G thread path =
    answer thread (check (pathChecks path) >>= Interpreter.appendPath G) := by
  simp only [appendPath, pathChecks, check_bind, bind_assoc, check_pure_bind]

theorem callFunction_eq (moduleName function : CString) (values : ValuesArg)
    (output : OutputArg) : callFunction G thread moduleName function values output =
      answer thread (check (callChecks moduleName function values output) >>= fun x =>
        Embedder.callFunction G (Scalar.encodeFloat G) (Scalar.decodeInt G) x.1 x.2.1 x.2.2) := by
  simp only [callFunction, callChecks, check_bind, bind_assoc, check_pure_bind]

theorem bind_eq (moduleName function : CString) (output : Bool) :
    bind G thread moduleName function output =
      answer thread (check (bindChecks moduleName function output) >>= fun x =>
        Registry.bindNew G x.1 x.2) := by
  simp only [bind, bindChecks, argPointer, check_bind, bind_assoc, check_pure_bind,
    Registry.bindNew]

theorem callBound_eq (id : Int) (values : ValuesArg) (output : OutputArg) :
    callBound G thread id values output =
      answer thread (check (callBoundChecks values output) >>=
        Registry.findAndCall G (Scalar.encodeFloat G) (Scalar.decodeInt G) id) := by
  simp only [callBound, callBoundChecks, check_bind, bind_assoc, check_pure_bind,
    Registry.findAndCall]

/-- **The C interface refines the typed one.** From every host, whatever the arguments, each
operation that answers with a status checks its arguments in order and then does what its typed
counterpart does. -/
theorem operations_refine (G : Guest σ) (thread : ThreadId) (h : Host σ) :
    (∀ e, Refines thread (.ok (Config.ofEnvironment e)) (Interpreter.start G thread)
      (start G thread e) h) ∧
    (∀ json, Refines thread (configChecks json) (Interpreter.start G thread)
      (startWithConfig G thread json) h) ∧
    Refines thread (.ok ()) (fun _ => Interpreter.stop G thread) (stop G thread) h ∧
    (∀ path, Refines thread (pathChecks path) (Interpreter.appendPath G)
      (appendPath G thread path) h) ∧
    (∀ moduleName function values output,
      Refines thread (callChecks moduleName function values output)
        (fun x => Embedder.callFunction G (Scalar.encodeFloat G) (Scalar.decodeInt G) x.1 x.2.1 x.2.2)
        (callFunction G thread moduleName function values output) h) ∧
    (∀ moduleName function output,
      Refines thread (bindChecks moduleName function output)
        (fun x => Registry.bindNew G x.1 x.2) (bind G thread moduleName function output) h) ∧
    (∀ id values output,
      Refines thread (callBoundChecks values output)
        (Registry.findAndCall G (Scalar.encodeFloat G) (Scalar.decodeInt G) id)
        (callBound G thread id values output) h) ∧
    (∀ id, Refines thread (.ok ()) (fun _ => Registry.removeAndDrop G id) (unbind G thread id) h) := by
  have hS := slots_clerical G
  refine ⟨fun e => ?_, fun json => ?_, ?_, fun path => ?_, fun m f values output => ?_,
    fun m f output => ?_, fun id values output => ?_, fun id => ?_⟩
  · exact answer_refines thread _ (fun e config => Interpreter.start_even (hS e) thread config) h
  · rw [startWithConfig_eq]
    exact answer_refines thread _ (fun e config => Interpreter.start_even (hS e) thread config) h
  · exact answer_refines thread _ (fun e _ => Interpreter.stop_even (hS e) thread) h
  · rw [appendPath_eq]
    exact answer_refines thread _
      (fun e path => Interpreter.appendPath_even (hS e).sessional path) h
  · rw [callFunction_eq]
    exact answer_refines thread _ (fun e x => callFunction_even (hS e).sessional
      Scalar.encodeFloat_even Scalar.decodeInt_even x.1 x.2.1 x.2.2) h
  · rw [bind_eq]
    exact answer_refines thread _ (fun e x => Registry.bindNew_even G (hS e) x.1 x.2) h
  · rw [callBound_eq]
    exact answer_refines thread _ (fun e xs => Registry.findAndCall_even G (hS e)
      Scalar.encodeFloat_even Scalar.decodeInt_even id xs) h
  · exact answer_refines thread _ (fun e _ => Registry.removeAndDrop_even G (hS e) id) h

end CInterface

end Embedder
