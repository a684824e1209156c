import Embedder.Proofs.CallPaths
import Embedder.Proofs.Requests

/-!
# Importing a module and finding its functions

A module is imported and then looked up in the interpreter's module table, by two calls of the guest
that need not agree (`Host.bound`). What is documented of the two is `Guest.TableLaws`: an import
gives what the table has under the name, and the look-up gives it again if it is a module object. If
it is none, the look-up makes an empty module and puts that into its place.

So the module that is bound is the imported one exactly if that is a module object
(`ModuleHandle.import_laws`). A module that puts something else into the table while it is imported
is silently replaced (`ModuleHandle.import_replaces`).
-/

namespace Embedder

variable {σ α β : Type} {G : Guest σ} {h k : Host σ} {name attr : String}

/-! ## The module table -/

/-- What can be seen of the modules of an interpreter: the module table, and which objects are
modules. -/
structure ModuleTable (σ : Type) where
  entry : String → σ → Option Obj
  isModule : Obj → σ → Bool

/-- The two states have the same modules under the same names. -/
structure ModuleTable.Same (T : ModuleTable σ) (w w' : σ) : Prop where
  entry : ∀ name, T.entry name w' = T.entry name w
  isModule : ∀ o, T.isModule o w' = T.isModule o w

/-- What is documented of the calls of a guest that concern its module table. -/
structure Guest.TableLaws (G : Guest σ) (T : ModuleTable σ) : Prop where
  /-- An import gives what the table has under the name when it is done. The table holds a reference
  to it, and the host gets another one. -/
  imports : ∀ {name w o}, (G.importModule name w).value = .value o →
    T.entry name (G.importModule name w).world = some o ∧
      1 < G.refcount o (G.importModule name w).world
  /-- The look-up of a module that is there is a look. -/
  present : ∀ {name w o}, T.entry name w = some o → T.isModule o w = true →
    G.addModule name w = ⟨.value o, w, []⟩
  /-- Where there is no module, a fresh one is made and takes the place. -/
  absent : ∀ {name w m}, (∀ o, T.entry name w = some o → T.isModule o w = false) →
    (G.addModule name w).value = .value m →
    T.entry name (G.addModule name w).world = some m ∧
      T.isModule m (G.addModule name w).world = true ∧ ∀ o, 0 < G.refcount o w → m ≠ o
  /-- The namespace of a module is there for the asking. -/
  space : ∀ {o w}, T.isModule o w = true → ∃ d, G.namespaceOf o w = ⟨.value d, w, []⟩
  /-- An object that the table holds does not end with a reference of somebody else. -/
  keeps : ∀ {name w o}, T.entry name w = some o → 1 < G.refcount o w →
    T.Same w (G.release o w).world

/-! ## Names -/

namespace ModuleHandle

/-- A name with a NUL is refused as an argument. -/
def nulRefusal (s : String) : Failure :=
  .invalidArgument (ExceptionReport.embeddedNul (Text.quoted s)).message

theorem checkedName_run_of_nul {s : String} (hnul : '\x00' ∈ s.toList) :
    (checkedName s : Attempt σ Failure String).run.run h = .ok (.error (nulRefusal s), h) := by
  unfold checkedName Handle.withoutNul Handle.cText
  rw [if_pos hnul]
  rfl

theorem checkedName_run {s : String} (hs : '\x00' ∉ s.toList) :
    (checkedName s : Attempt σ Failure String).run.run h = .ok (.ok s, h) := by
  unfold checkedName Handle.withoutNul Handle.cText
  rw [if_neg hs]
  rfl

end ModuleHandle

/-! ## Importing -/

/-- The record of an import that failed. -/
def ExceptionReport.importRecord (name : String) (cause : ExceptionReport) : Log.Record :=
  ⟨.debug, "import failed", [.quoted "module" name, .plain "error" cause.headline]⟩

/-- The record of a module that was bound. -/
def ModuleHandle.boundRecord (name : String) : Log.Record :=
  ⟨.debug, "bound module", [.quoted "module" name]⟩

/-- How an import turns out. -/
def Host.imported (G : Guest σ) (name : String) (h : Host σ) :
    Except Exit (Except Failure Obj × Host σ) :=
  (h.requested G "PyImport_ImportModule" (G.importModule name)).map fun x =>
    match x.1 with
    | .ok o => (.ok o, x.2)
    | .error cause => (.error (.moduleNotFound name cause), x.2.note (cause.importRecord name))

/-- How the look-up of an imported object in the module table turns out, at the end of which the
reference of the import is released. -/
def Host.bound (G : Guest σ) (o : Obj) (name : String) (h : Host σ) :
    Except Exit (Except Failure ModuleHandle × Host σ) :=
  (h.requested G "PyImport_AddModule" (G.addModule name)).map fun x =>
    let k := x.2.after (G.release o x.2.world)
    match x.1 with
    | .ok m => (.ok ⟨name, Handle.ofBorrowed m⟩, k.note (ModuleHandle.boundRecord name))
    | .error cause => (.error (.moduleNotFound name cause), k)

namespace ModuleHandle

open Exception

theorem resolve_run (hp : h.pending = none) (hname : '\x00' ∉ name.toList) :
    (resolve G name).run.run h =
      Attempt.proceed (h.imported G name) fun o k => .ok (.ok ⟨o, .owned⟩, k.hold 1) := by
  unfold resolve
  rw [Attempt.run_bind_of_ok (checkedName_run hname)]
  show ((requestNew G "PyImport_ImportModule" (G.importModule name)).run >>= _).run h = _
  rw [StateT.run_bind, show ((requestNew G _ _).run.run h) = _ from requestNew_run hp]
  unfold Host.imported
  rcases h.requested G "PyImport_ImportModule" (G.importModule name) with e | ⟨cause | o, k⟩ <;> rfl

theorem bind_run {o : Obj} (hp : h.pending = none) (hname : '\x00' ∉ name.toList) :
    (bind G ⟨o, .owned⟩ name).run.run (h.hold 1) = h.bound G o name := by
  have hlookup : (do
      let checked ← checkedName name
      (requestBorrowed G "PyImport_AddModule" (G.addModule checked)).mapError
        (Failure.moduleNotFound name) : Attempt σ Failure Handle).run.run (h.hold 1) =
      (h.requested G "PyImport_AddModule" (G.addModule name)).map fun x =>
        ((x.1.map Handle.ofBorrowed).mapError (.moduleNotFound name), x.2.hold 1) := by
    rw [Attempt.run_bind_of_ok (checkedName_run hname), Attempt.run_mapError]
    unfold requestBorrowed
    rw [Attempt.run_bind, request_run (h := h.hold 1) hp, requested_hold]
    rcases h.requested G "PyImport_AddModule" (G.addModule name) with e | ⟨cause | m, k⟩ <;> rfl
  unfold bind Handle.within
  rw [Attempt.run_bind, ExceptT.run_mk, Handle.run_owning, hlookup]
  unfold Host.bound
  -- the handle of the import ends, so none is left of it
  have hended : ∀ k : Host σ, ((k.hold 1).after (G.release o (k.hold 1).world)).hold (-1) =
      k.after (G.release o k.world) := by
    intro k
    show ((k.after (G.release o k.world)).hold 1).hold (-1) = _
    rw [Host.hold_hold]
    exact Host.hold_zero
  rcases h.requested G "PyImport_AddModule" (G.addModule name) with e | ⟨cause | m, k⟩
  · rfl
  · show Except.ok (Except.error _, _) = _
    rw [hended]
    rfl
  · show Except.ok (Except.ok _, (((k.hold 1).after _).hold (-1)).note (boundRecord name)) = _
    rw [hended]
    rfl

theorem imported_pending {r : Except Failure Obj} (hp : h.pending = none)
    (hr : h.imported G name = .ok (r, k)) : k.pending = none := by
  obtain ⟨⟨x, h₁⟩, hx, heq⟩ := map_ok hr
  have hkept := requested_pending hp hx
  cases x with
  | ok o =>
    cases heq
    exact hkept
  | error cause =>
    cases heq
    exact hkept

/-- An import, and a look-up of what it gave. -/
theorem importAs_run (hp : h.pending = none) (hname : '\x00' ∉ name.toList) :
    (importAs G name).run.run h =
      Attempt.proceed (h.imported G name) fun o k => k.bound G o name := by
  unfold importAs
  rw [Attempt.run_bind, resolve_run hp hname, Attempt.proceed_assoc]
  refine Attempt.proceed_congr fun o k hk => ?_
  exact bind_run (imported_pending hp hk) hname

theorem bound_pending {o : Obj} {r : Except Failure ModuleHandle} (hp : h.pending = none)
    (hr : h.bound G o name = .ok (r, k)) : k.pending = none := by
  obtain ⟨⟨x, h₁⟩, hx, heq⟩ := map_ok hr
  have hkept := requested_pending hp hx
  cases x with
  | ok m =>
    cases heq
    exact hkept
  | error cause =>
    cases heq
    exact hkept

theorem importAs_run_of_nul (hnul : '\x00' ∈ name.toList) :
    (importAs G name).run.run h = .ok (.error (nulRefusal name), h) := by
  unfold importAs resolve
  exact Attempt.run_bind_of_error (Attempt.run_bind_of_error (checkedName_run_of_nul hnul))

/-- Nothing is pending after an import. -/
theorem importAs_pending {r : Except Failure ModuleHandle} (hp : h.pending = none)
    (hr : (importAs G name).run.run h = .ok (r, k)) : k.pending = none := by
  by_cases hname : '\x00' ∈ name.toList
  · rw [importAs_run_of_nul hname] at hr
    cases hr
    exact hp
  · rw [importAs_run hp hname] at hr
    refine Attempt.proceed_ends (P := fun k => k.pending = none) ?_ ?_ _ hr
    · exact fun y hy => imported_pending hp hy
    · exact fun o k hk y hy => bound_pending hk hy

end ModuleHandle

/-! ## Looking a name up -/

/-- What a name in a namespace comes to, for a module of the given name. -/
def Guest.find (G : Guest σ) (moduleName attr : String) (space : Obj) (w : σ) :
    Except Failure CallableHandle :=
  if '\x00' ∈ attr.toList then .error (ModuleHandle.nulRefusal attr)
  else
    match G.lookup space attr w with
    | none => .error (.attributeNotFound moduleName attr)
    | some o =>
      if G.isCallable o w then .ok ⟨moduleName, attr, Handle.ofBorrowed o⟩
      else .error (.notCallable moduleName attr)

namespace ModuleHandle

open Exception

/-- A name is looked up in the namespace of the module, and to look changes nothing. -/
theorem resolveCallable_run {m : ModuleHandle} {d : Obj} (hp : h.pending = none)
    (hspace : G.namespaceOf m.handle.obj h.world = ⟨.value d, h.world, []⟩) :
    (m.resolveCallable G attr).run.run h = .ok (G.find m.name attr d h.world, h) := by
  have hask : (requestBorrowed G "PyModule_GetDict" (G.namespaceOf m.handle.obj)).run.run h =
      .ok (.ok (Handle.ofBorrowed d), h) := by
    unfold requestBorrowed
    rw [Attempt.run_bind, request_run hp]
    unfold Host.requested
    rw [hspace]
    show Except.ok (Except.ok _, h.after ⟨_, h.world, []⟩) = _
    rw [Host.after_of_quiet rfl]
  unfold resolveCallable Guest.find
  have hasked : ((requestBorrowed G "PyModule_GetDict" (G.namespaceOf m.handle.obj)).mapError
      Failure.raised).run.run h = .ok (.ok (Handle.ofBorrowed d), h) := by
    rw [Attempt.run_mapError, hask]
    rfl
  rw [Attempt.run_bind_of_ok hasked]
  by_cases hnul : '\x00' ∈ attr.toList
  · rw [if_pos hnul, Attempt.run_bind_of_error (checkedName_run_of_nul hnul)]
  · rw [if_neg hnul, Attempt.run_bind_of_ok (checkedName_run hnul), Attempt.run_get_bind]
    dsimp only [Handle.ofBorrowed]
    cases G.lookup d attr h.world with
    | none => rfl
    | some o =>
      dsimp only
      split
      next => rfl
      next => rfl

end ModuleHandle

/-! ## What is bound -/

/-- The ways in which the import of a module and its look-up turn out. The import is the first call
of the guest. -/
inductive ModuleHandle.Import (G : Guest σ) (T : ModuleTable σ) (name : String) (h : Host σ) :
    Except Exit (Except Failure ModuleHandle × Host σ) → Prop where
  /-- The name is refused, and nothing is imported. -/
  | refused (hnul : '\x00' ∈ name.toList) :
      Import G T name h (.ok (.error (nulRefusal name), h))
  /-- The import raised. Its exception is taken, and that is all that happens. -/
  | raised {p : Pending} {cause : ExceptionReport} {k : Host σ} (hname : '\x00' ∉ name.toList)
      (gave : (G.importModule name h.world).value = .raised p)
      (taken : (h.after (G.importModule name h.world)).taken G p = .ok (cause, k)) :
      Import G T name h
        (.ok (.error (.moduleNotFound name cause), k.note (cause.importRecord name)))
  /-- The import failed and raised nothing. -/
  | failed (hname : '\x00' ∉ name.toList) (gave : (G.importModule name h.world).value = .failed) :
      Import G T name h (.ok (.error (.moduleNotFound name (.missing "PyImport_ImportModule")),
        (h.after (G.importModule name h.world)).note
          ((ExceptionReport.missing "PyImport_ImportModule").importRecord name)))
  /-- The imported object is a module, and is bound. The module table is as the import left it. -/
  | bound {o : Obj} {k : Host σ} (hname : '\x00' ∉ name.toList)
      (gave : (G.importModule name h.world).value = .value o)
      (module : T.isModule o (G.importModule name h.world).world = true)
      (same : T.Same (G.importModule name h.world).world k.world) :
      Import G T name h (.ok (.ok ⟨name, Handle.ofBorrowed o⟩, k))
  /-- The imported object is no module. Another one is bound, which was put into its place. -/
  | replaced {o m : Obj} {k : Host σ} (hname : '\x00' ∉ name.toList)
      (gave : (G.importModule name h.world).value = .value o)
      (noModule : T.isModule o (G.importModule name h.world).world = false)
      (added : (G.addModule name (G.importModule name h.world).world).value = .value m)
      (other : m ≠ o)
      (entry : T.entry name (G.addModule name (G.importModule name h.world).world).world = some m) :
      Import G T name h (.ok (.ok ⟨name, Handle.ofBorrowed m⟩, k))
  /-- The imported object is no module, and none could be made. -/
  | notReplaced {o : Obj} {cause : ExceptionReport} {k : Host σ} (hname : '\x00' ∉ name.toList)
      (gave : (G.importModule name h.world).value = .value o)
      (noModule : T.isModule o (G.importModule name h.world).world = false) :
      Import G T name h (.ok (.error (.moduleNotFound name cause), k))
  /-- The exception of a call was printed, and this ended the process. -/
  | ended (e : Exit) (printing : h.printing = true) : Import G T name h (.error e)

namespace ModuleHandle

open Exception

variable {T : ModuleTable σ}

theorem imported_of_value {o : Obj} (gave : (G.importModule name h.world).value = .value o) :
    h.imported G name = .ok (.ok o, h.after (G.importModule name h.world)) := by
  unfold Host.imported Host.requested
  rw [gave]
  rfl

theorem imported_of_failed (gave : (G.importModule name h.world).value = .failed) :
    h.imported G name = .ok (.error (.moduleNotFound name (.missing "PyImport_ImportModule")),
      (h.after (G.importModule name h.world)).note
        ((ExceptionReport.missing "PyImport_ImportModule").importRecord name)) := by
  unfold Host.imported Host.requested
  rw [gave]
  rfl

theorem imported_of_raised {p : Pending} (gave : (G.importModule name h.world).value = .raised p) :
    h.imported G name = ((h.after (G.importModule name h.world)).taken G p).map fun x =>
      (.error (.moduleNotFound name x.1), x.2.note (x.1.importRecord name)) := by
  unfold Host.imported Host.requested
  rw [gave]
  dsimp only
  cases (h.after (G.importModule name h.world)).taken G p with
  | error e => rfl
  | ok x => rfl

/-- An exception that ended the process was printed. -/
theorem taken_exit {p : Pending} {e : Exit} (hr : h.taken G p = .error e) : h.printing = true :=
  (drained_exit hr).1

/-- The look-up of a module that the table has is a look, and the table keeps the module. -/
theorem bound_of_module {o : Obj} (hT : G.TableLaws T) (hentry : T.entry name h.world = some o)
    (hmodule : T.isModule o h.world = true) :
    h.bound G o name = .ok (.ok ⟨name, Handle.ofBorrowed o⟩,
      (h.after (G.release o h.world)).note (boundRecord name)) := by
  unfold Host.bound Host.requested
  rw [hT.present hentry hmodule, Host.after_of_quiet (e := ⟨Reply.value o, h.world, []⟩) rfl]
  rfl

/-- What is bound in place of an object that is no module. -/
theorem bound_of_noModule {o : Obj} (hT : G.TableLaws T)
    (gave : (G.importModule name h.world).value = .value o)
    (noModule : T.isModule o (G.importModule name h.world).world = false)
    (hname : '\x00' ∉ name.toList) :
    Import G T name h ((h.after (G.importModule name h.world)).bound G o name) := by
  obtain ⟨hentry, hcount⟩ := hT.imports gave
  unfold Host.bound
  cases hasked : (h.after (G.importModule name h.world)).requested G "PyImport_AddModule"
      (G.addModule name) with
  | error e =>
    refine .ended e ?_
    unfold Host.requested at hasked
    dsimp only [Host.after] at hasked
    split at hasked
    next => cases hasked
    next p _ =>
      generalize htaken : Host.taken G p _ = y at hasked
      cases y with
      | error e' =>
        have hon := taken_exit htaken
        exact hon
      | ok x => cases hasked
    next => cases hasked
  | ok x =>
    obtain ⟨r, k⟩ := x
    cases r with
    | error cause => exact .notReplaced hname gave noModule
    | ok m =>
      have added : (G.addModule name (G.importModule name h.world).world).value = .value m := by
        cases requested_ok hasked with
        | value gave => exact gave
      obtain ⟨hput, -, hfresh⟩ := hT.absent (fun o' ho' => by
        rw [hentry] at ho'
        cases ho'
        exact noModule) added
      exact .replaced hname gave noModule added (hfresh o (by omega)) hput

/-- An import, its look-up, and nothing else. -/
theorem import_cases (hT : G.TableLaws T) (name : String) (hp : h.pending = none) :
    Import G T name h ((importAs G name).run.run h) := by
  by_cases hname : '\x00' ∈ name.toList
  · rw [importAs_run_of_nul hname]
    exact .refused hname
  · rw [importAs_run hp hname]
    cases gave : (G.importModule name h.world).value with
    | failed =>
      rw [imported_of_failed gave]
      exact .failed hname gave
    | raised p =>
      rw [imported_of_raised gave]
      cases htaken : (h.after (G.importModule name h.world)).taken G p with
      | error e => exact .ended e (taken_exit (h := h.after (G.importModule name h.world)) htaken)
      | ok x => exact .raised hname gave htaken
    | value o =>
      rw [imported_of_value gave]
      obtain ⟨hentry, hcount⟩ := hT.imports gave
      cases hmodule : T.isModule o (G.importModule name h.world).world with
      | false => exact bound_of_noModule hT gave hmodule hname
      | true =>
        show Import G T name h ((h.after (G.importModule name h.world)).bound G o name)
        rw [bound_of_module (h := h.after (G.importModule name h.world)) hT hentry hmodule]
        exact .bound hname gave hmodule (hT.keeps hentry hcount)

/-- **What an import binds.** From every host with nothing pending, and for every name: a name with
a NUL is refused; where the import fails, its exception is taken and told, and nothing else happens;
and where it gives an object, that very object is bound, with the module table as the import left
it, exactly if the object is a module. Any other object is replaced. Whatever module is bound, names
are looked up in its namespace. -/
theorem import_laws (hT : G.TableLaws T) (name : String) (hp : h.pending = none) :
    Import G T name h ((importAs G name).run.run h) ∧
    ∀ m k, (importAs G name).run.run h = .ok (.ok m, k) → T.isModule m.handle.obj k.world = true →
      ∃ d, G.namespaceOf m.handle.obj k.world = ⟨.value d, k.world, []⟩ ∧
        ∀ attr, (m.resolveCallable G attr).run.run k = .ok (G.find name attr d k.world, k) := by
  refine ⟨import_cases hT name hp, fun m k hr hmodule => ?_⟩
  obtain ⟨d, hspace⟩ := hT.space hmodule
  refine ⟨d, hspace, fun attr => ?_⟩
  rw [resolveCallable_run (importAs_pending hp hr) hspace, importAs_ok hr]

end ModuleHandle

/-! ## A module that swaps itself out -/

/-- The states of a guest in which a module swaps itself out. -/
inductive Swap where
  | down
  | up
  /-- What the module left in its place is replaced by an empty module. -/
  | replaced
  deriving DecidableEq

namespace Swap

/-- What the module `swaps` leaves in the module table, and the module that takes its place
there. -/
def leftObj : Obj := ⟨2⟩

def freshObj : Obj := ⟨3⟩

/-- What the module table has under a name: under `swaps` an object that is no module, until it is
replaced, and a module under any other. -/
def entry (name : String) (w : Swap) : Obj :=
  if name = "swaps" then if w = .replaced then freshObj else leftObj else willingObj

def table : ModuleTable Swap where
  entry name w := some (entry name w)
  isModule o _ := o ≠ leftObj

/-- Grant what is asked. -/
def grant {α : Type} (a : α) (w : Swap) : Outcome Swap α := ⟨.value a, w, []⟩

/-- A guest with this module table, in which the name `absent` means nothing. -/
def guest : Guest Swap where
  isUp w := w ≠ .down
  boot _ _ := .up
  shutdown _ := ⟨true, .down, []⟩
  retain _ w := w
  release _ w := ⟨(), w, []⟩
  releaseKept _ _ w := ⟨(), w, []⟩
  refcount o w := if o = freshObj ∧ w ≠ .replaced then 0 else 2
  importModule name w := grant (entry name w) w
  addModule name w := if name = "swaps" then grant freshObj .replaced else grant willingObj w
  namespaceOf _ := grant willingObj
  lookup _ attr _ := if attr = "absent" then none else some willingObj
  isCallable _ _ := true
  getAttr _ _ := grant willingObj
  length _ := grant 0
  str _ := grant willingObj
  text _ := grant ""
  newText _ := grant willingObj
  joinTexts _ _ := grant willingObj
  newList _ := grant willingObj
  newTuple _ := grant willingObj
  setListItem _ _ _ := grant ()
  setTupleItem _ _ _ := grant ()
  append _ _ := grant ()
  ofFloat _ := grant willingObj
  ofInt _ := grant willingObj
  ofBool _ := grant willingObj
  trueObj := willingObj
  falseObj := ⟨1⟩
  isFloat _ _ := false
  toFloat _ := grant Double.zero
  toInt _ := grant 0
  iterator _ := grant willingObj
  call _ _ := grant willingObj
  searchPath _ := some willingObj
  normalize p w := ⟨p, w, []⟩
  isStopIteration _ _ := false
  print _ w := ⟨none, w, []⟩

theorem refcount_entry (name : String) (w : Swap) : 1 < guest.refcount (entry name w) w := by
  by_cases hname : name = "swaps"
  · subst hname
    cases w <;> decide
  · rw [entry, if_neg hname]
    exact show (1 : Int) < 2 by decide

theorem tableLaws : guest.TableLaws table where
  imports := by
    rintro name w _ ⟨⟩
    exact ⟨rfl, refcount_entry name w⟩
  present := by
    rintro name w _ ⟨⟩ hmodule
    by_cases hname : name = "swaps"
    · subst hname
      cases w with
      | replaced => rfl
      | _ => cases hmodule
    · rw [entry, if_neg hname]
      exact if_neg hname
  absent := by
    intro name w m hnone gave
    by_cases hname : name = "swaps"
    · subst hname
      cases gave
      refine ⟨rfl, rfl, fun o hcount hsame => ?_⟩
      subst hsame
      cases w with
      | replaced => cases hnone freshObj rfl
      | _ => cases hcount
    · have hmodule := hnone (entry name w) rfl
      rw [entry, if_neg hname] at hmodule
      cases hmodule
  space := fun _ => ⟨_, rfl⟩
  keeps := fun _ _ => ⟨fun _ => rfl, fun _ => rfl⟩

end Swap

namespace ModuleHandle

/-- A module that stays in its place is imported and bound. -/
theorem import_plain :
    Import Swap.guest Swap.table "pkg.sub" (Host.fresh .up)
      (.ok (.ok ⟨"pkg.sub", Handle.ofBorrowed willingObj⟩,
        (Host.fresh .up).note (boundRecord "pkg.sub"))) ∧
    ∃ d, Swap.guest.namespaceOf willingObj .up = ⟨.value d, .up, []⟩ ∧
      ∀ attr, ((⟨"pkg.sub", Handle.ofBorrowed willingObj⟩ : ModuleHandle).resolveCallable Swap.guest
        attr).run.run ((Host.fresh .up).note (boundRecord "pkg.sub")) =
          .ok (Swap.guest.find "pkg.sub" attr d .up,
            (Host.fresh .up).note (boundRecord "pkg.sub")) := by
  have laws := import_laws Swap.tableLaws "pkg.sub" (h := Host.fresh .up) rfl
  exact ⟨laws.1, laws.2 _ _ rfl rfl⟩

/-- The import of a module that swapped itself out binds another object than it gave, and the module
table is not as the import left it. -/
theorem import_replaces :
    (Swap.guest.importModule "swaps" .up).value = .value Swap.leftObj ∧
    Swap.table.entry "swaps" (Swap.guest.importModule "swaps" .up).world = some Swap.leftObj ∧
    ((importAs Swap.guest "swaps").run.run (Host.fresh .up)).toOption.map
        (fun x => (x.1.toOption.map (·.handle.obj), Swap.table.entry "swaps" x.2.world)) =
      some (some Swap.freshObj, some Swap.freshObj) :=
  ⟨rfl, rfl, rfl⟩

end ModuleHandle

end Embedder
