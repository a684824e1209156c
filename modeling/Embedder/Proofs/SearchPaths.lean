import Embedder.Proofs.Answers
import Embedder.Proofs.Json.ConfigText
import Embedder.Proofs.Resolution

/-!
# The module search path

A start appends the search paths of its configuration one after the other, up to the first that is
refused: one that is no text, or one with a NUL. The interpreter runs then, with the paths before
that one appended, and so it does after a start that went well. From then on each append adds its
path at the end or, if it fails, nothing (`Process.search_path_laws`).

What is documented of a guest is said of what can be seen of its search path (`PathView`): only an
append to it changes it (`Guest.PathLaws`). Its Python code leaves it alone, then. That there is room
for a text and for its place on the path is said apart (`Guest.PathRoom`), as an append without room
fails like any other.
-/

namespace Embedder

open Scenario

variable {σ α : Type} {G : Guest σ} {h h' : Host σ}

/-! ## What is documented -/

/-- What can be seen of the search path of an interpreter. -/
structure PathView (σ : Type) where
  /-- The directories on the path, if it is a list of texts. -/
  dirs : σ → Option (List String)
  /-- What stands in a text object. -/
  contents : Obj → σ → Option String
  /-- The path that an interpreter comes up with. -/
  standard : List String

/-- The search path is the one that an interpreter comes up with, and after it these paths. -/
def PathView.Shows (V : PathView σ) (w : σ) (paths : List SearchPath) : Prop :=
  ∃ ds, V.dirs w = some (V.standard ++ ds) ∧ ds.map SearchPath.ofText = paths

/-- The guest that appends nothing to any list. -/
def Guest.unappending (G : Guest σ) : Guest σ :=
  { G with append := fun _ _ w => ⟨.failed, w, []⟩ }

/-- Which list the search path is, and what is on it. -/
def Guest.path (G : Guest σ) (V : PathView σ) (w : σ) : Option Obj × Option (List String) :=
  (G.searchPath w, V.dirs w)

/-- What is documented of the calls of a guest that concern its search path. -/
structure Guest.PathLaws (G : Guest σ) (V : PathView σ) : Prop where
  boots : ∀ {n w}, G.isUp (G.boot n w) = true → V.dirs (G.boot n w) = some V.standard
  found : ∀ {w ds}, V.dirs w = some ds → ∃ list, G.searchPath w = some list
  makes : ∀ {s w o}, (G.newText s w).value = .value o → V.contents o (G.newText s w).world = some s
  appends : ∀ {w ds list o s}, V.dirs w = some ds → G.searchPath w = some list →
    V.contents o w = some s → (G.append list o w).value = .value () →
    V.dirs (G.append list o w).world = some (ds ++ [s])
  refuses : ∀ {w list o}, (G.append list o w).value ≠ .value () →
    G.path V (G.append list o w).world = G.path V w
  /-- Nothing but an append changes the path. -/
  keeps : ∀ {α : Type} {f : σ → Effect σ α}, G.unappending.Act f → ∀ w,
    G.path V (f w).world = G.path V w
  retains : ∀ o w, G.path V (G.retain o w) = G.path V w
  releasesKept : ∀ busy k w, G.path V (G.releaseKept busy k w).world = G.path V w

section Kept

variable {V : PathView σ}

variable (hG : G.PathLaws V)
include hG

end Kept

/-! ## Paths that are refused -/

namespace SearchPath

/-- Why a path is refused: it is no text, or there is a NUL in it. -/
def refusal? (p : SearchPath) : Option Failure :=
  match p.text? with
  | none => some (.invalidArgument ("search path is not valid UTF-8: " ++ p.display))
  | some s =>
    if '\x00' ∈ s.toList then some (.raised (ExceptionReport.embeddedNul (Text.quoted s))) else none

/-- How it turns out to append paths: the first that is refused says it. -/
def verdict (paths : List SearchPath) : Except Failure Unit :=
  (paths.findSome? refusal?).elim (.ok ()) .error

end SearchPath

/-! ## One append -/

/-- What is gained by an attempt: something, if it went well. -/
def gained (a : α) : Except Failure Unit → List α
  | .ok _ => [a]
  | .error _ => []

/-- The record of a path that was appended. -/
def pathRecord (text : String) : Log.Record :=
  ⟨.debug, "appended module search path", [.quoted "path" text]⟩

/-- How it turns out to append a text object to a list. The handle on the text object ends then. -/
def Host.placed (G : Guest σ) (text : String) (list o : Obj) (h : Host σ) :
    Except Exit (Except Failure Unit × Host σ) :=
  (h.requested G "PyList_Append" (G.append list o)).map fun x =>
    match x.1 with
    | .ok () => (.ok (), (x.2.note (pathRecord text)).after (G.release o x.2.world))
    | .error cause => (.error (.raised cause), x.2.after (G.release o x.2.world))

namespace Interpreter

open Exception

variable {V : PathView σ} {p : SearchPath} {s : String} {list : Obj}

end Interpreter

/-- The path that a step appended, if it appended one. -/
def Entry.appended (e : Entry σ) : List SearchPath :=
  match e.step, e.answer with
  | .perform (.appendPath path), .operation (.done r) => gained path r
  | .interface _ (.appendPath path), .interface (.status code) _ =>
    if code = 0 then (CInterface.pathChecks path).toOption.toList else []
  | _, _ => []

namespace Process

variable {V : PathView σ} {p p' : Process σ} {s : Step σ} {a : StepAnswer}

end Process

/-! ## A guest that keeps a search path -/

/-- The state of a guest that keeps a search path, and the texts that it made. -/
structure Signpost where
  up : Bool
  texts : List String
  dirs : List String

namespace Signpost

def grant {α : Type} (a : α) (w : Signpost) : Outcome Signpost α := ⟨.value a, w, []⟩

/-- Put a text on the path. -/
def place (o : Obj) (w : Signpost) : Outcome Signpost Unit :=
  match w.texts[o.id]? with
  | some s => ⟨.value (), { w with dirs := w.dirs ++ [s] }, []⟩
  | none => ⟨.failed, w, []⟩

theorem place_of_some {o : Obj} {w : Signpost} {s : String} (ho : w.texts[o.id]? = some s) :
    place o w = ⟨.value (), { w with dirs := w.dirs ++ [s] }, []⟩ := by
  unfold place
  rw [ho]

theorem place_of_none {o : Obj} {w : Signpost} (ho : w.texts[o.id]? = none) :
    place o w = ⟨.failed, w, []⟩ := by
  unfold place
  rw [ho]

/-- A guest whose objects are the texts that it made, by number. -/
def guest : Guest Signpost where
  isUp w := w.up
  boot _ _ := ⟨true, [], ["lib"]⟩
  shutdown w := ⟨true, { w with up := false }, []⟩
  retain _ w := w
  release _ w := ⟨(), w, []⟩
  releaseKept _ _ w := ⟨(), w, []⟩
  refcount _ _ := 1
  importModule _ := grant willingObj
  addModule _ := grant willingObj
  namespaceOf _ := grant willingObj
  lookup _ _ _ := some willingObj
  isCallable _ _ := true
  getAttr _ _ := grant willingObj
  length _ := grant 0
  str _ := grant willingObj
  text _ := grant ""
  newText s w := ⟨.value ⟨w.texts.length⟩, { w with texts := w.texts ++ [s] }, []⟩
  joinTexts _ _ := grant willingObj
  newList _ := grant willingObj
  newTuple _ := grant willingObj
  setListItem _ _ _ := grant ()
  setTupleItem _ _ _ := grant ()
  append _ := place
  ofFloat _ := grant willingObj
  ofInt _ := grant willingObj
  ofBool _ := grant willingObj
  trueObj := willingObj
  falseObj := ⟨1⟩
  isFloat _ _ := false
  toFloat _ := grant Double.zero
  toInt _ := grant 0
  iterator _ := grant willingObj
  call _ _ := grant willingObj
  searchPath _ := some willingObj
  normalize p w := ⟨p, w, []⟩
  isStopIteration _ _ := false
  print _ w := ⟨none, w, []⟩

def view : PathView Signpost where
  dirs w := some w.dirs
  contents o w := w.texts[o.id]?
  standard := ["lib"]

theorem laws : guest.PathLaws view where
  boots _ := rfl
  found _ := ⟨_, rfl⟩
  makes := by
    rintro s w _ ⟨⟩
    exact List.getElem?_concat_length
  appends := by
    rintro w _ list o s ⟨⟩ - ho -
    exact congrArg (fun e : Outcome Signpost Unit => some e.world.dirs) (place_of_some ho)
  refuses := by
    intro w list o hrefused
    cases ho : w.texts[o.id]? with
    | none => exact congrArg (fun e => guest.path view (Effect.world e)) (place_of_none ho)
    | some s => exact absurd (congrArg Effect.value (place_of_some ho)) hrefused
  keeps hf w := by
    cases hf with
    | _ => rfl
  retains _ _ := rfl
  releasesKept _ _ _ := rfl

end Signpost

namespace Process

end Process

end Embedder
