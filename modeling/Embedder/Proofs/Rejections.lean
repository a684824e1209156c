import Embedder.Proofs.FatalFailures
import Embedder.Proofs.RegistryMap
import Embedder.Proofs.Willing
import Mathlib.Data.List.TakeWhile

/-!
# What the C interface turns away

A call of the C interface that takes strings, values, out-pointers or an id can be turned away: its
status tells of an invalid argument or of an unknown id. It is turned away before anything is asked
of the interpreter, so the run is the same whatever the guest is (`TurnedAway`). Once the checks are
passed, no later stage gives one of the two statuses (`Failure.Late`), and that is the point of the
file: the import, the look-up and the call fail in other ways, as a C string has no NUL inside.

One stage after the checks does give such a status. A binding that was made is refused an id when
the counter of ids has come to its end, and a process gets there after 2⁶³ - 2 bindings at the
earliest (`Process.run_idsUpTo`).
-/

namespace Embedder

open Scenario

variable {σ α β : Type} {G : Guest σ} {h h' : Host σ} {thread : ThreadId}

/-! ## Strings -/

namespace CString

/-- The string ends at its first NUL. -/
def Proper (s : CString) : Prop := ∀ bytes, s.bytes? = some bytes → 0 ∉ bytes

/-- The pointer is null, or its bytes are the bytes of no text. -/
def NoText (s : CString) : Prop := ∀ t, s.bytes? ≠ some (Utf8.bytes t)

theorem proper_null : null.Proper := by
  intro bytes hbytes
  cases hbytes

theorem proper_ofMemory (bytes : List UInt8) : (ofMemory bytes).Proper := by
  rintro _ ⟨⟩ hmem
  have hne := List.mem_takeWhile_imp hmem
  exact of_decide_eq_true hne rfl

end CString

namespace Utf8

/-- The character NUL is spelled by the byte zero. -/
theorem zero_mem_bytes {t : String} (hnul : '\x00' ∈ t.toList) : 0 ∈ bytes t := by
  have hencode : String.utf8EncodeChar '\x00' = [0] := by decide
  have hbytes : bytes t = t.toList.flatMap String.utf8EncodeChar := by
    show t.toByteArray.data.toList = _
    rw [← String.utf8Encode_toList, List.utf8Encode, List.data_toByteArray]
  rw [hbytes, List.mem_flatMap]
  exact ⟨_, hnul, by rw [hencode]; exact List.mem_singleton_self 0⟩

end Utf8

namespace CString

variable {s : CString} {t : String}

theorem text_ok (ht : s.text = .ok t) : s.bytes? = some (Utf8.bytes t) := by
  unfold text at ht
  split at ht
  next => cases ht
  next bs hbytes =>
    split at ht
    next u hu =>
      cases ht
      rw [hbytes, Utf8.bytes_of_text? hu]
    next => cases ht

theorem NoText.text_ne_ok (hs : s.NoText) : s.text ≠ .ok t := fun ht => hs t (text_ok ht)

/-- What a C caller passes for a text names no NUL. -/
theorem Proper.nul_notMem (hs : s.Proper) (ht : s.text = .ok t) : '\x00' ∉ t.toList :=
  fun hnul => hs _ (text_ok ht) (Utf8.zero_mem_bytes hnul)

end CString

/-! ## Failures past the checks -/

/-- The failure tells neither of an invalid argument nor of an unknown id. -/
def Failure.Late : Failure → Prop
  | .invalidArgument _ | .invalidBinding _ => False
  | _ => True

theorem Failure.Late.code {f : Failure} (hf : f.Late) : f.code ≠ -10 ∧ f.code ≠ -11 := by
  cases f with
  | invalidArgument text => exact hf.elim
  | invalidBinding id => exact hf.elim
  | _ => exact ⟨by simp [Failure.code], by simp [Failure.code]⟩

theorem Failure.OfCall.late {f : Failure} (hf : f.OfCall) : f.Late := by
  cases hf <;> exact trivial

theorem Session.enterAs_late {expected : Option Nat} {body : Nat → Attempt σ Failure α}
    (hbody : ∀ generation, (body generation).Fails Failure.Late) :
    (enterAs G expected body).Fails Failure.Late := by
  unfold enterAs
  refine Attempt.Fails.get fun s => ?_
  dsimp only
  split
  next => exact (Attempt.Fails.lift _).bind fun _ => hbody _
  next => exact Attempt.Fails.throw trivial

namespace ModuleHandle

variable {name attr : String}

theorem checkedName_late (hname : '\x00' ∉ name.toList) :
    (checkedName name : Attempt σ Failure String).Fails Failure.Late := by
  unfold checkedName Handle.withoutNul Handle.cText
  rw [if_neg hname]
  exact Attempt.Fails.pure name

theorem resolve_late (hname : '\x00' ∉ name.toList) : (resolve G name).Fails Failure.Late := by
  unfold resolve
  refine (checkedName_late hname).bind fun checked => ?_
  refine Bridge.Yields.after fun r => ?_
  cases r with
  | ok h => exact Attempt.Fails.pure h
  | error cause => exact Bridge.Yields.after fun _ => Attempt.Fails.throw trivial

theorem bind_late (hname : '\x00' ∉ name.toList) (imported : Handle) :
    (bind G imported name).Fails Failure.Late := by
  unfold bind
  refine Attempt.Fails.bind (Attempt.Fails.within imported ?_) fun h => ?_
  · refine (checkedName_late hname).bind fun checked => ?_
    exact Attempt.Fails.mapError fun _ => trivial
  · exact (Attempt.Fails.lift _).bind fun _ => Attempt.Fails.pure _

theorem importAs_late (hname : '\x00' ∉ name.toList) : (importAs G name).Fails Failure.Late := by
  unfold importAs
  exact (resolve_late hname).bind fun imported => bind_late hname imported

theorem resolveCallable_late (hattr : '\x00' ∉ attr.toList) (m : ModuleHandle) :
    (m.resolveCallable G attr).Fails Failure.Late := by
  unfold resolveCallable
  refine Attempt.Fails.bind (Attempt.Fails.mapError fun _ => trivial) fun space => ?_
  refine (checkedName_late hattr).bind fun checked => ?_
  refine Attempt.Fails.get fun s => ?_
  dsimp only
  split
  next => exact Attempt.Fails.throw trivial
  next =>
    split
    next => exact Attempt.Fails.pure _
    next => exact Attempt.Fails.throw trivial

end ModuleHandle

theorem callFunction_late {moduleName function : String} (hmodule : '\x00' ∉ moduleName.toList)
    (hfunction : '\x00' ∉ function.toList) (E : Encoder σ α) (D : Decoder σ β) (args : List α) :
    (callFunction G E D moduleName function args).Fails Failure.Late := by
  unfold callFunction Session.enter
  refine Session.enterAs_late fun _ => ?_
  refine (ModuleHandle.importAs_late hmodule).bind fun m => ?_
  refine (m.resolveCallable_late hfunction).bind fun c => ?_
  exact (c.callWith_fails E D args).mono fun _ hf => hf.late

theorem Binding.bind_late {moduleName function : String} (hmodule : '\x00' ∉ moduleName.toList)
    (hfunction : '\x00' ∉ function.toList) : (bind G moduleName function).Fails Failure.Late := by
  refine Session.enterAs_late fun generation => ?_
  refine (ModuleHandle.importAs_late hmodule).bind fun m => ?_
  refine (m.resolveCallable_late hfunction).bind fun c => ?_
  refine (Attempt.Fails.lift _).bind fun h => ?_
  refine (Attempt.Fails.lift _).bind fun _ => ?_
  exact (Attempt.Fails.lift _).bind fun callable => Attempt.Fails.pure _

theorem Binding.callAs_late (E : Encoder σ α) (D : Decoder σ β) (b : Binding) (args : List α) :
    (b.callAs G E D args).Fails Failure.Late := by
  refine Session.enterAs_late fun _ => ?_
  refine (Attempt.Fails.lift _).bind fun h => ?_
  exact Attempt.Fails.within h ((CallableHandle.callWith_fails E D _ args).mono fun _ hf => hf.late)

theorem Ticket.call_late (E : Encoder σ α) (D : Decoder σ β) (t : Ticket) (args : List α) :
    (t.call G E D args).Fails Failure.Late := by
  unfold Ticket.call
  refine Attempt.Fails.bind (Attempt.Fails.lift _) fun s => ?_
  cases s with
  | none => exact Attempt.Fails.throw trivial
  | some s => exact s.binding.callAs_late E D args

namespace Interpreter

/-- A path that is text is appended, or cannot be for other reasons than its argument. -/
theorem appendPath_late {path : SearchPath} (htext : path.text?.isSome) :
    (appendPath G path).Fails Failure.Late := by
  obtain ⟨text, htext⟩ := Option.isSome_iff_exists.mp htext
  unfold appendPath
  rw [htext]
  refine Session.enterAs_late fun _ => Attempt.Fails.get fun s => ?_
  cases G.searchPath s.world with
  | none =>
    exact (Attempt.Fails.lift _).bind fun r => Attempt.Fails.throw trivial
  | some list =>
    refine Attempt.Fails.bind (Attempt.Fails.mapError fun _ => trivial)
      fun entry => ?_
    refine Attempt.Fails.within entry ?_
    exact Attempt.Fails.bind (Attempt.Fails.mapError fun _ => trivial)
      fun _ => Attempt.Fails.lift _

end Interpreter

/-! ## Turned away -/

/-- The counter of ids has come to its end. -/
def Host.IdsUsedUp (h : Host σ) : Prop := ∃ r, h.registry = some r ∧ Registry.idBound ≤ r.nextId

/-- The attempt fails so and changes nothing, whatever the guest is. -/
def Attempt.TurnedAway (x : Guest σ → Attempt σ Failure α) (f : Failure) (h : Host σ) : Prop :=
  ∀ G : Guest σ, (x G).run.run h = .ok (.error f, h)

/-- The attempt has no late failure, or is turned away. -/
def Attempt.Screens (x : Guest σ → Attempt σ Failure α) (h : Host σ) : Prop :=
  ∀ (G : Guest σ) f h', (x G).run.run h = .ok (.error f, h') → f.Late ∨ TurnedAway x f h

theorem Attempt.Screens.of_late {x : Guest σ → Attempt σ Failure α}
    (hx : ∀ G, (x G).Fails Failure.Late) : Screens x h :=
  fun G f h' hr => .inl (hx G h _ h' hr f rfl)

namespace Registry

variable {id : Int}

/-- Only the look-up can turn a call by id away. -/
theorem findAndCall_screens (E : Guest σ → Encoder σ α) (D : Guest σ → Decoder σ β)
    (args : List α) : Attempt.Screens (fun G => findAndCall G (E G) (D G) id args) h := by
  intro G f h' hr
  unfold findAndCall at hr
  rcases Attempt.bind_cases hr with ⟨e, he, hfind⟩ | ⟨t, h₁, -, hrest⟩
  · cases he
    have hsame : h' = h := by
      cases hreg : h.registry with
      | none =>
        rw [find_barred hreg id] at hfind
        cases hfind
        rfl
      | some r =>
        cases hid : r.entries.lookup id with
        | none =>
          rw [find_run_of_unknown hreg hid] at hfind
          cases hfind
          rfl
        | some t =>
          unfold find at hfind
          rw [whileOpen_run_of_open hreg, hid] at hfind
          obtain ⟨a, ha, -⟩ := Attempt.lift_ok hfind
          cases ha
    rw [hsame] at hfind
    exact .inr fun _ => Attempt.run_bind_of_error hfind
  · obtain ⟨x, h₂, hcall, hrest⟩ := Bridge.bind_ok hrest
    obtain ⟨u, h₃, -, hlast⟩ := Bridge.bind_ok hrest
    obtain ⟨rfl, rfl⟩ := Bridge.pure_ok hlast
    exact .inl (t.call_late (E G) (D G) args h₁ _ h₂ hcall f rfl)

theorem removeAndDrop_screens : Attempt.Screens (fun G : Guest σ => removeAndDrop G id) h := by
  intro G f h' hr
  unfold removeAndDrop at hr
  rcases Attempt.bind_cases hr with ⟨e, he, hremove⟩ | ⟨t, h₁, -, hdrop⟩
  · cases he
    rcases remove_ok hremove with ⟨_, _, _, _, hne, _⟩ | ⟨-, rfl⟩
    · cases hne
    · exact .inr fun _ => Attempt.run_bind_of_error hremove
  · obtain ⟨a, ha, -⟩ := Attempt.lift_ok hdrop
    cases ha

/-- A binding that was made is kept while there are ids. -/
theorem bindNew_screens {moduleName function : String} (hmodule : '\x00' ∉ moduleName.toList)
    (hfunction : '\x00' ∉ function.toList) (hids : ¬h.IdsUsedUp) :
    Attempt.Screens (fun G : Guest σ => bindNew G moduleName function) h := by
  intro G f h' hr
  unfold bindNew at hr
  rcases Attempt.bind_cases hr with ⟨e, he, hbind⟩ | ⟨b, h₁, hbind, hinsert⟩
  · cases he
    exact .inl (Binding.bind_late hmodule hfunction h _ h' hbind f rfl)
  · have hstation : h₁.station = h.station :=
      Binding.bind_sessional (fixed_sessional G Standing.station) moduleName function h _ h₁ hbind
    have hreg : h₁.registry = h.registry := congrArg Station.registry hstation
    cases hr : h₁.registry with
    | none =>
      rw [insert_run_of_closed hr] at hinsert
      obtain ⟨u, h₂, -, hlast⟩ := Bridge.bind_ok hinsert
      cases hlast
      exact .inl trivial
    | some r =>
      have hroom : r.nextId < idBound := by
        by_contra hfull
        exact hids ⟨r, hreg.symm.trans hr, Int.not_lt.mp hfull⟩
      rw [insert_run_of_open b hr hroom] at hinsert
      cases hinsert

end Registry

namespace CInterface

/-- The call reports the failure in its status and as the last error of its thread; nothing is
written through an out-pointer and nothing else changes, whatever the guest is. -/
def TurnedAway (thread : ThreadId) (call : Guest σ → Bridge σ (Answer α)) (f : Failure)
    (h : Host σ) : Prop :=
  ∀ G : Guest σ, (call G).run h = .ok (⟨f.code, none⟩,
    { h with lastErrors := (h.lastErrors.clear thread).set thread f.detailed })

variable {checks : Except Failure β} {counterpart : Guest σ → β → Attempt σ Failure α}

/-- A failed check turns the call away from every host. -/
theorem turnedAway_of_check {f : Failure} (hchecks : checks = .error f) (h : Host σ) :
    TurnedAway thread (fun G => answer thread (check checks >>= counterpart G)) f h :=
  fun _ => answer_run_of_error (check_bind_of_error hchecks)

/-- A call with the status of a rejection was turned away, by its checks or by its counterpart. -/
theorem turnedAway_of_status {a : Answer α}
    (hscreens : ∀ b, checks = .ok b → Attempt.Screens (fun G => counterpart G b)
      { h with lastErrors := h.lastErrors.clear thread })
    (hr : (answer thread (check checks >>= counterpart G)).run h = .ok (a, h'))
    (hstatus : a.status = -10 ∨ a.status = -11) : ∃ f, f.code = a.status ∧
      TurnedAway thread (fun G => answer thread (check checks >>= counterpart G)) f h := by
  cases hchecks : checks with
  | error f =>
    subst hchecks
    have haway : TurnedAway thread
        (fun G => answer thread (check (.error f) >>= counterpart G)) f h :=
      turnedAway_of_check rfl h
    rw [haway G] at hr
    cases hr
    exact ⟨f, rfl, haway⟩
  | ok b =>
    rw [answer_run, check_bind_of_ok hchecks] at hr
    cases hrun : (counterpart G b).run.run { h with lastErrors := h.lastErrors.clear thread } with
    | error e =>
      rw [hrun] at hr
      cases hr
    | ok p =>
      obtain ⟨r, k⟩ := p
      rw [hrun] at hr
      cases r with
      | ok x =>
        cases hr
        -- zero is the status of no rejection
        rcases hstatus with hzero | hzero <;> cases hzero
      | error f =>
        cases hr
        rcases hscreens b hchecks G f k hrun with hlate | haway
        · rcases hstatus with htold | htold
          · exact absurd htold hlate.code.1
          · exact absurd htold hlate.code.2
        · refine ⟨f, rfl, fun G' => answer_run_of_error ?_⟩
          rw [check_bind_of_ok rfl]
          exact haway G'

/-! What the checks let pass. -/

theorem bind_ok {x : Except Failure α} {f : α → Except Failure β} {b : β}
    (hx : (x >>= f) = .ok b) : ∃ a, x = .ok a ∧ f a = .ok b := by
  cases x with
  | ok a => exact ⟨a, rfl, hx⟩
  | error e => cases hx

theorem argText_ok {what t : String} {s : CString} (ht : argText what s = .ok t) :
    s.text = .ok t := by
  unfold argText at ht
  split at ht
  next u hu =>
    cases ht
    exact hu
  next => cases ht

/-- There are values to read, and no pointer to them. -/
def ValuesArg.Missing (v : ValuesArg) : Prop := v.pointer = none ∧ v.length ≠ 0

theorem argValues_ne_ok {v : ValuesArg} (hv : v.Missing) (xs : List Double) :
    argValues v ≠ .ok xs := by
  obtain ⟨pointer, length⟩ := v
  obtain ⟨rfl, hlength⟩ := hv
  unfold argValues
  rw [if_neg hlength]
  rintro ⟨⟩

/-- An out-pointer is null. -/
def OutputArg.Missing (o : OutputArg) : Prop := o.values = false ∨ o.length = false

theorem argOutput_ne_ok {o : OutputArg} (ho : o.Missing) : argOutput o ≠ .ok () := by
  obtain ⟨values, length⟩ := o
  unfold argOutput
  rcases ho with rfl | rfl
  · rintro ⟨⟩
  · cases values <;> rintro ⟨⟩

theorem callChecks_ok {moduleName function : CString} {values : ValuesArg} {output : OutputArg}
    {x : String × String × List Double}
    (hx : callChecks moduleName function values output = .ok x) :
    moduleName.text = .ok x.1 ∧ function.text = .ok x.2.1 ∧ argValues values = .ok x.2.2 ∧
      argOutput output = .ok () := by
  unfold callChecks at hx
  obtain ⟨m, hm, hx⟩ := bind_ok hx
  obtain ⟨f, hf, hx⟩ := bind_ok hx
  obtain ⟨xs, hxs, hx⟩ := bind_ok hx
  obtain ⟨u, hu, hx⟩ := bind_ok hx
  cases hx
  exact ⟨argText_ok hm, argText_ok hf, hxs, hu⟩

theorem bindChecks_ok {moduleName function : CString} {output : Bool} {x : String × String}
    (hx : bindChecks moduleName function output = .ok x) :
    moduleName.text = .ok x.1 ∧ function.text = .ok x.2 ∧ output = true := by
  unfold bindChecks at hx
  obtain ⟨m, hm, hx⟩ := bind_ok hx
  obtain ⟨f, hf, hx⟩ := bind_ok hx
  obtain ⟨u, hu, hx⟩ := bind_ok hx
  cases hx
  cases output with
  | false => cases hu
  | true => exact ⟨argText_ok hm, argText_ok hf, rfl⟩

theorem callBoundChecks_ok {values : ValuesArg} {output : OutputArg} {xs : List Double}
    (hx : callBoundChecks values output = .ok xs) :
    argValues values = .ok xs ∧ argOutput output = .ok () := by
  unfold callBoundChecks at hx
  obtain ⟨ys, hys, hx⟩ := bind_ok hx
  obtain ⟨u, hu, hx⟩ := bind_ok hx
  cases hx
  exact ⟨hys, hu⟩

end CInterface

/-! ## The calls -/

namespace Scenario

/-- Nothing was written through an out-pointer. -/
def InterfaceValue.Blank : InterfaceValue → Prop
  | .id _ out => out = none
  | .result _ out => out = none
  | _ => True

namespace InterfaceCall

open CInterface

/-- The calls that take strings, values, out-pointers or an id, and need a running interpreter. -/
def Screened : InterfaceCall → Prop
  | .appendPath _ | .callFunction .. | .bind .. | .callBound .. | .unbind _ => True
  | _ => False

/-- The strings of a call that is screened. -/
def strings : InterfaceCall → List CString
  | .appendPath path => [path]
  | .callFunction moduleName function _ _ => [moduleName, function]
  | .bind moduleName function _ => [moduleName, function]
  | _ => []

/-- A string is null or not UTF-8, values are missing, or an out-pointer is null. -/
def BadArguments : InterfaceCall → Prop
  | .appendPath path => path.NoText
  | .callFunction moduleName function values output =>
    moduleName.NoText ∨ function.NoText ∨ values.Missing ∨ output.Missing
  | .bind moduleName function output => moduleName.NoText ∨ function.NoText ∨ output = false
  | .callBound _ values output => values.Missing ∨ output.Missing
  | _ => False

/-- The call gives the status of the failure and writes nothing through an out-pointer. Whatever the
guest is, nothing changes but the last error of the thread. -/
def TurnedAway (thread : ThreadId) (call : InterfaceCall) (f : Failure) (h : Host σ) : Prop :=
  ∃ v : InterfaceValue, v.code = f.code ∧ v.Blank ∧ ∀ G : Guest σ, (call.perform G thread).run h =
    .ok (v, { h with lastErrors := (h.lastErrors.clear thread).set thread f.detailed })

/-- A call that makes a binding. -/
def Binds : InterfaceCall → Prop
  | .bind .. => True
  | _ => False

/-- The call is a screened one: its checks, then its counterpart, which turns away nothing but what
it turns away at once, as long as there are ids for the bindings. -/
structure Form (thread : ThreadId) (call : InterfaceCall) (checks : Except Failure β)
    (counterpart : Guest σ → β → Attempt σ Failure α)
    (give : CInterface.Answer α → InterfaceValue) : Prop where
  performs : ∀ G, call.perform G thread =
    answer thread (check checks >>= counterpart G) >>= fun a => pure (give a)
  code : ∀ a, (give a).code = a.status
  blank : ∀ n, (give ⟨n, none⟩).Blank
  refusing : Refusing checks
  bad : call.BadArguments → ∀ b, checks ≠ .ok b
  screens : (∀ s ∈ call.strings, s.Proper) → ∀ (h : Host σ), ¬(call.Binds ∧ h.IdsUsedUp) →
    ∀ b, checks = .ok b → Attempt.Screens (fun G => counterpart G b) h

namespace Form

variable {call : InterfaceCall} {checks : Except Failure β}
  {counterpart : Guest σ → β → Attempt σ Failure α} {give : CInterface.Answer α → InterfaceValue}

theorem turnedAway (hform : Form thread call checks counterpart give) {f : Failure}
    (haway : CInterface.TurnedAway thread
      (fun G => answer thread (check checks >>= counterpart G)) f h) :
    call.TurnedAway thread f h := by
  refine ⟨give ⟨f.code, none⟩, hform.code _, hform.blank _, fun G => ?_⟩
  rw [hform.performs, Bridge.run_bind (haway G)]
  rfl

/-- A check that lets nothing pass refuses an argument. -/
theorem of_badArguments (hform : Form thread call checks counterpart give)
    (hbad : call.BadArguments) (h : Host σ) :
    ∃ text, call.TurnedAway thread (.invalidArgument text) h := by
  cases hchecks : checks with
  | ok b => exact absurd hchecks (hform.bad hbad b)
  | error f =>
    obtain ⟨text, rfl⟩ := hform.refusing f hchecks
    exact ⟨text, hform.turnedAway (turnedAway_of_check hchecks h)⟩

theorem of_status (hform : Form thread call checks counterpart give)
    (hproper : ∀ s ∈ call.strings, s.Proper) (hids : ¬(call.Binds ∧ h.IdsUsedUp))
    {v : InterfaceValue} (hr : (call.perform G thread).run h = .ok (v, h'))
    (hcode : v.code = -10 ∨ v.code = -11) : ∃ f, f.code = v.code ∧ call.TurnedAway thread f h := by
  rw [hform.performs] at hr
  obtain ⟨a, h₁, ha, hlast⟩ := Bridge.bind_ok hr
  obtain ⟨rfl, rfl⟩ := Bridge.pure_ok hlast
  rw [hform.code] at hcode ⊢
  obtain ⟨f, hf, haway⟩ := turnedAway_of_status (fun b hb =>
    hform.screens hproper { h with lastErrors := h.lastErrors.clear thread } hids b hb) ha hcode
  exact ⟨f, hf, hform.turnedAway haway⟩

end Form

theorem appendPath_form (path : CString) : Form thread (.appendPath path) (pathChecks path)
    (fun G : Guest σ => Interpreter.appendPath G) (fun a => .status a.status) where
  performs G := by rw [← appendPath_eq]; rfl
  code _ := rfl
  blank _ := trivial
  refusing := .pathChecks path
  bad hbad p hp := by
    obtain ⟨t, ht, -⟩ := CInterface.bind_ok hp
    exact CString.NoText.text_ne_ok hbad (argText_ok ht)
  screens _ _ _ p hp :=
    Attempt.Screens.of_late fun _ => Interpreter.appendPath_late (pathChecks_ok hp)

theorem callFunction_form (moduleName function : CString) (values : ValuesArg)
    (output : OutputArg) : Form thread (.callFunction moduleName function values output)
      (callChecks moduleName function values output)
      (fun (G : Guest σ) x => Embedder.callFunction G (Scalar.encodeFloat G) (Scalar.decodeInt G)
        x.1 x.2.1 x.2.2) (fun a => .result a.status a.out) where
  performs G := by rw [← CInterface.callFunction_eq]; rfl
  code _ := rfl
  blank _ := rfl
  refusing := .callChecks moduleName function values output
  bad hbad x hx := by
    obtain ⟨hm, hf, hv, ho⟩ := callChecks_ok hx
    rcases hbad with hbad | hbad | hbad | hbad
    · exact hbad.text_ne_ok hm
    · exact hbad.text_ne_ok hf
    · exact argValues_ne_ok hbad _ hv
    · exact argOutput_ne_ok hbad ho
  screens hproper _ _ x hx := by
    obtain ⟨hm, hf, -, -⟩ := callChecks_ok hx
    have hmodule : moduleName.Proper := hproper _ (by simp [strings])
    have hfunction : function.Proper := hproper _ (by simp [strings])
    exact Attempt.Screens.of_late fun _ =>
      callFunction_late (hmodule.nul_notMem hm) (hfunction.nul_notMem hf) _ _ _

theorem bind_form (moduleName function : CString) (output : Bool) :
    Form thread (.bind moduleName function output) (bindChecks moduleName function output)
      (fun (G : Guest σ) x => Registry.bindNew G x.1 x.2) (fun a => .id a.status a.out) where
  performs G := by rw [← bind_eq]; rfl
  code _ := rfl
  blank _ := rfl
  refusing := .bindChecks moduleName function output
  bad hbad x hx := by
    obtain ⟨hm, hf, rfl⟩ := bindChecks_ok hx
    rcases hbad with hbad | hbad | hbad
    · exact hbad.text_ne_ok hm
    · exact hbad.text_ne_ok hf
    · cases hbad
  screens hproper _ hids x hx := by
    obtain ⟨hm, hf, -⟩ := bindChecks_ok hx
    have hmodule : moduleName.Proper := hproper _ (by simp [strings])
    have hfunction : function.Proper := hproper _ (by simp [strings])
    exact Registry.bindNew_screens (hmodule.nul_notMem hm) (hfunction.nul_notMem hf)
      fun hused => hids ⟨trivial, hused⟩

theorem callBound_form (id : Int) (values : ValuesArg) (output : OutputArg) :
    Form thread (.callBound id values output) (callBoundChecks values output)
      (fun G : Guest σ => Registry.findAndCall G (Scalar.encodeFloat G) (Scalar.decodeInt G) id)
      (fun a => .result a.status a.out) where
  performs G := by rw [← callBound_eq]; rfl
  code _ := rfl
  blank _ := rfl
  refusing := .callBoundChecks values output
  bad hbad xs hxs := by
    obtain ⟨hv, ho⟩ := callBoundChecks_ok hxs
    rcases hbad with hbad | hbad
    · exact argValues_ne_ok hbad _ hv
    · exact argOutput_ne_ok hbad ho
  screens _ _ _ xs _ := Registry.findAndCall_screens (fun G => Scalar.encodeFloat G)
    (fun G => Scalar.decodeInt G) xs

/-- An id is looked up, and not checked before. -/
theorem unbind_form (id : Int) : Form thread (.unbind id) (.ok ())
    (fun (G : Guest σ) _ => Registry.removeAndDrop G id) (fun a => .status a.status) where
  performs _ := rfl
  code _ := rfl
  blank _ := trivial
  refusing := .pure ()
  bad hbad := hbad.elim
  screens _ _ _ _ _ := Registry.removeAndDrop_screens

variable {call : InterfaceCall} {v : InterfaceValue}

/-- Bad arguments turn a call away from every host. -/
theorem turnedAway_of_badArguments (hcall : call.Screened) (hbad : call.BadArguments)
    (h : Host σ) : ∃ text, call.TurnedAway thread (.invalidArgument text) h := by
  cases call with
  | appendPath path => exact (appendPath_form path).of_badArguments hbad h
  | callFunction m f values output =>
    exact (callFunction_form m f values output).of_badArguments hbad h
  | bind m f output => exact (bind_form m f output).of_badArguments hbad h
  | callBound id values output => exact (callBound_form id values output).of_badArguments hbad h
  | unbind id => exact (unbind_form id).of_badArguments hbad h
  | _ => exact hcall.elim

/-- A call with the status of a rejection was turned away. -/
theorem turnedAway_of_status (hcall : call.Screened) (hproper : ∀ s ∈ call.strings, s.Proper)
    (hids : ¬(call.Binds ∧ h.IdsUsedUp)) (hr : (call.perform G thread).run h = .ok (v, h'))
    (hcode : v.code = -10 ∨ v.code = -11) : ∃ f, f.code = v.code ∧ call.TurnedAway thread f h := by
  cases call with
  | appendPath path => exact (appendPath_form path).of_status hproper hids hr hcode
  | callFunction m f values output =>
    exact (callFunction_form m f values output).of_status hproper hids hr hcode
  | bind m f output => exact (bind_form m f output).of_status hproper hids hr hcode
  | callBound id values output =>
    exact (callBound_form id values output).of_status hproper hids hr hcode
  | unbind id => exact (unbind_form id).of_status hproper hids hr hcode
  | _ => exact hcall.elim

/-- A bind with the status of a rejection has filed nothing, and its id is not written. -/
theorem binds_nothing (hcall : call.Binds) (hr : (call.perform G thread).run h = .ok (v, h'))
    (hcode : v.code = -10 ∨ v.code = -11) : v.Blank ∧ h'.registry = h.registry := by
  cases call with
  | bind moduleName function output =>
    obtain ⟨a, h₁, ha, hlast⟩ := Bridge.bind_ok hr
    obtain ⟨rfl, rfl⟩ := Bridge.pure_ok hlast
    rcases CInterface.bind_cases ha with ⟨b, r, -, -, rfl, -⟩ | ⟨hout, -, hsame⟩
    · rcases hcode with hzero | hzero <;> cases hzero
    · exact ⟨hout, hsame⟩
  | _ => exact hcall.elim

end InterfaceCall

end Scenario

/-! ## How far the ids get -/

/-- The next id is at most `n + 1`. -/
def Station.IdsUpTo (s : Station) (n : Nat) : Prop := ∀ r, s.registry = some r → r.nextId ≤ n + 1

theorem Moves.idsUpTo {s s' : Station} {events : List Event} {n : Nat} (hm : Moves s events s')
    (hs : s.IdsUpTo n) : s'.IdsUpTo (n + 1) := by
  intro r hr
  cases hm with
  | stay =>
    have := hs r hr
    push_cast
    omega
  | start hstage thread =>
    cases hr
    show (1 : Int) ≤ _
    push_cast
    omega
  | stop hstage => cases hr
  | bind k =>
    have := hs r hr
    push_cast
    omega
  | issue hreg t =>
    have hle := hs _ hreg
    cases hr
    show _ + 1 ≤ _
    push_cast
    omega
  | revoke hreg hid =>
    have hle := hs _ hreg
    cases hr
    show _ ≤ _
    push_cast
    omega

namespace Process

/-- A step hands out one id at the most. -/
theorem run_idsUpTo : ∀ {steps : List (Step σ)} {p p' : Process σ} {n : Nat},
    p.host.station.IdsUpTo n → p.run G steps = .ok p' →
    p'.host.station.IdsUpTo (n + steps.length) := by
  intro steps
  induction steps with
  | nil =>
    intro p p' n hp hr
    cases hr
    exact hp
  | cons s rest ih =>
    intro p p' n hp hr
    obtain ⟨q, hs, hrest⟩ := run_cons_ok hr
    obtain ⟨events, -, hmoves⟩ := step_moves hs
    have hq := ih (hmoves.idsUpTo hp) hrest
    rw [List.length_cons, Nat.add_comm rest.length 1, ← Nat.add_assoc]
    exact hq

/-- It takes 2⁶³ - 2 steps to use up the ids. -/
theorem steps_of_idsUsedUp {world : σ} {steps : List (Step σ)} {p : Process σ}
    (hr : (fresh world).run G steps = .ok p) (hused : p.host.IdsUsedUp) :
    2 ^ 63 - 2 ≤ steps.length := by
  obtain ⟨r, hreg, hfull⟩ := hused
  have hfresh : (fresh world).host.station.IdsUpTo 0 := by
    intro r hr
    cases hr
  have hle := run_idsUpTo hfresh hr r hreg
  unfold Registry.idBound at hfull
  omega

/-- **What is rejected has no effect.** A call of the C interface with a null string, a string that
is not UTF-8, missing values or a null out-pointer is turned away as an invalid argument from every
state, whatever the stage of the lifecycle. And in every reachable state, if the status of a call
tells of an invalid argument or of an unknown id, the call was turned away: it was answered without
the guest, nothing was written and nothing changed but the last error of the thread. There is one
exception, which no run of less than 2⁶³ - 2 steps comes to: a bind for which no id is left. It
writes no id, and the registry stays as it is. -/
theorem rejection_laws (G : Guest σ) (world : σ) (steps : List (Step σ)) (thread : ThreadId)
    (call : InterfaceCall) (hcall : call.Screened) (hproper : ∀ s ∈ call.strings, s.Proper) :
    (call.BadArguments → ∀ h : Host σ,
      ∃ text, call.TurnedAway thread (.invalidArgument text) h) ∧
    Ends ((fresh world).run G steps) fun p =>
      Ends ((call.perform G thread).run p.host) fun r => r.1.code = -10 ∨ r.1.code = -11 →
        (∃ f, f.code = r.1.code ∧ call.TurnedAway thread f p.host) ∨
        (2 ^ 63 - 2 ≤ steps.length ∧ p.host.IdsUsedUp ∧ call.Binds ∧ r.1.Blank ∧
          r.2.registry = p.host.registry) := by
  refine ⟨fun hbad h => InterfaceCall.turnedAway_of_badArguments hcall hbad h, ?_⟩
  rintro p hp ⟨v, h'⟩ hr hcode
  by_cases hused : call.Binds ∧ p.host.IdsUsedUp
  · have hlong := steps_of_idsUsedUp hp hused.2
    obtain ⟨hblank, hsame⟩ := InterfaceCall.binds_nothing hused.1 hr hcode
    exact .inr ⟨hlong, hused.2, hused.1, hblank, hsame⟩
  · exact .inl (InterfaceCall.turnedAway_of_status hcall hproper hused hr hcode)

/-- An id that was never handed out, and a null string. -/
theorem unknownId_rejection_laws : ∃ p r,
    (fresh false).run willing [.perform (.start mainThread Config.default)] = .ok p ∧
    ((InterfaceCall.callBound 7 ⟨none, 0⟩ ⟨true, true⟩).perform willing mainThread).run p.host =
      .ok r ∧
    p.host.lifecycle.stage = .running ∧ r.1.code = -11 ∧
    (∃ f, f.code = -11 ∧ InterfaceCall.TurnedAway mainThread
      (.callBound 7 ⟨none, 0⟩ ⟨true, true⟩) f p.host) ∧
    ∃ text, InterfaceCall.TurnedAway mainThread (.bind CString.null (CString.ofMemory []) true)
      (.invalidArgument text) p.host := by
  refine ⟨_, _, rfl, rfl, by decide, by decide, ?_, ?_⟩
  · have laws := rejection_laws willing false [.perform (.start mainThread Config.default)]
      mainThread (.callBound 7 ⟨none, 0⟩ ⟨true, true⟩) trivial (by rintro s ⟨⟩)
    rcases laws.2 _ rfl _ rfl (.inr (by decide)) with haway | ⟨hlong, -⟩
    · exact haway
    · exact absurd hlong (by decide)
  · have laws := rejection_laws willing false [.perform (.start mainThread Config.default)]
      mainThread (.bind CString.null (CString.ofMemory []) true) trivial (by
        intro s hs
        rcases List.mem_pair.mp hs with rfl | rfl
        · exact CString.proper_null
        · exact CString.proper_ofMemory [])
    exact laws.1 (.inl fun t => by rintro ⟨⟩) _

end Process

end Embedder
