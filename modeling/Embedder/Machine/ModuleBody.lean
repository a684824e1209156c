import Embedder.Machine.Evaluate
import Embedder.Machine.Folder
import Embedder.Machine.ModuleTable

/-!
# Running modules

What happens when the code of a module runs: its definitions are made in order. Imports and class
statements go by built-in names, so that code that stands for them takes part.

Beside the places in a module's code a traceback can show those of the import machinery. It does so
only where no module's code was running.
-/

namespace Embedder.Machine

/-! ## Places -/

def importFile : String := "<frozen importlib._bootstrap>"

def loaderFile : String := "<frozen importlib._bootstrap_external>"

/-- A place in the part of the import machinery that runs modules. -/
def importPlace (line : Nat) (function : String) : Frame := .place importFile line function

/-- A place in the part of the import machinery that knows files. -/
def filePlace (line : Nat) (function : String) : Frame := .place loaderFile line function

/-- The place where module code is run. -/
def runPlace : Frame := importPlace 241 "_call_with_frames_removed"

/-- A place in the code of a module. -/
def modulePlace (m : Obj) (file : String) (line : Nat) : Frame :=
  ⟨file, line, "<module>", some m, []⟩

/-- Leave out the machinery's places: in each run of them all up to the last where module code is
run, or simply all. `run` holds those of the current run. -/
def trimPlaces (all : Bool) (run : List Frame) : List Frame → List Frame
  | [] => run
  | f :: rest =>
    if f.file = importFile ∨ f.file = loaderFile then
      if all ∨ f.function = runPlace.function then trimPlaces all [] rest
      else trimPlaces all (run ++ [f]) rest
    else run ++ f :: trimPlaces all [] rest

/-- Run a part of the import machinery. -/
def asMachinery {α : Type} (x : Exec α) : Exec α :=
  tryCatch x fun r => do
    let all ← raisedIs .importError r
    throw { r with frames := trimPlaces all [] r.frames }

/-- Run a program in some places, the outermost first. -/
def inFrames {α : Type} (frames : List Frame) (x : Exec α) : Exec α :=
  frames.foldr inFrame x

/-! ## Definitions -/

/-- Define names in a module, in order. -/
def define (m : Obj) (values : List (String × Exec Obj)) : Exec Unit :=
  values.forM fun (name, value) => do
    let o ← value
    storeAttr m name o

/-- A new built-in function. -/
def newBuiltin (moduleName name : String) : Exec Obj :=
  alloc Builtin.builtinFunction.obj (.builtinFunction moduleName name) []

/-- Import a module by what the built-in name for that stands for; code that does so says what its
names are and which of the module's it wants. -/
def importBy (f : Obj) (importName : String → Exec Obj) (name : String) (names wanted : Obj) :
    Exec Obj := do
  match ← payloadOf f with
  | .builtinFunction "builtins" "__import__" => importName name
  | _ => do
    let shown ← newText name
    let level ← newInt 0
    holdingAll [shown, level] (callObj f [shown, names, names, wanted, level])

/-- Import a module in the code of another, by the built-in name for that. -/
def importInCode (importName : String → Exec Obj) (m : Obj) (name : String) : Exec Obj := do
  let w ← get
  match w.attr? w.builtins "__import__" with
  | none => throwNew .importError "__import__ not found"
  | some f => do
    match (w.cell f).payload with
    | .builtinFunction .. => importBy f importName name noneObj noneObj
    | _ => do
      let space ← namespaceOf m
      holding space (importBy f importName name space noneObj)

/-- The class that a class statement makes by what the built-in name for that stands for. -/
def buildClass (moduleName : String) (m : Obj) (b : ClassBody) : Exec Obj := do
  let w ← get
  match w.attr? w.builtins "__build_class__" with
  | none => throwNew .nameError "__build_class__ not found"
  | some f =>
    match (w.cell f).payload with
    | .builtinFunction "builtins" "__build_class__" => do
      let members ← b.methods.mapM fun f => do
        let o ← newProgram f m
        pure (f.name, o)
      newClass b.name moduleName Builtin.object.obj members none
    | _ => do
      let body ← alloc Builtin.function.obj (.function b.name b.name (.body b m)) []
      let shown ← newText b.name
      holdingAll [body, shown] (callObj f [body, shown])

/-- Make a definition in a module. -/
def Definition.execute (importName : String → Exec Obj) (moduleName file : String) (m : Obj) :
    Definition → Exec Unit
  | .imported line name => do
    let o ← inFrame (modulePlace m file line) (importInCode importName m name)
    storeAttr m name o
  | .value name e => do
    let o ← eval e 1 ⟨file, "<module>", m, [], []⟩
    storeAttr m name o
  | .function f => do
    let o ← newProgram f m
    storeAttr m f.name o
  | .cls b => do
    let c ← inFrame (modulePlace m file b.line) (buildClass moduleName m b)
    storeAttr m b.name c

/-! ## Files -/

/-- The error for malformed code. -/
def refuseCode (m : Obj) : Exec Unit := do
  let text ← newText "invalid syntax"
  let file ← refOrNone ((← get).attr? m "__file__")
  let code ← newText "def broken(:\n"
  let place ← newTupleOf [file, ← newInt 2, ← newInt 12, code, ← newInt 2, ← newInt 13]
  let e ← holdingAll [text, place] (makeError Builtin.syntaxError.obj [text, place])
  throw ⟨e, []⟩

/-- Put something into the module table in the code of a module, or take it from there. -/
def changeTable (m : Obj) (file : String) (line : Nat) (name : String)
    (x : Obj → Exec Unit) : Exec Unit := do
  let key ← newText name
  holding key (inFrame (modulePlace m file line) (x key))

/-- Run a file as the module of a name. -/
def Source.execute (importName : String → Exec Obj) (name : String) (m : Obj) : Source → Exec Unit
  | .defines file definitions => definitions.forM fun d => d.execute importName name file m
  | .importsAbsent file =>
    Definition.execute importName name file m (.imported 1 "absent_dependency_zz")
  | .raises file e => do
    let _ ← runAll [.raise 1 e] ⟨file, "<module>", m, [], []⟩
  | .malformed => refuseCode m
  | .swapsObject => do
    let c ← inFrame (modulePlace m "swaps.py" 2) (buildClass name m ⟨"swaps.py", 2, "Obj", []⟩)
    holding c do
      let o ← inFrame (modulePlace m "swaps.py" 4) (callObj c [])
      holding o (changeTable m "swaps.py" 4 name fun key => putSeen key o)
  | .swapsModule => do
    let other ← newModule name
    let who ← newProgram (countAfter "swaps_mod.py" 12) other
    storeAttr other "who" who
    changeTable m "swaps_mod.py" 5 name fun key => putSeen key other
  | .vanishes => changeTable m "vanish.py" 2 name dropSeen
  | .formatter => define m [("format_tb", newBuiltin "traceback" "format_tb")]

end Embedder.Machine
