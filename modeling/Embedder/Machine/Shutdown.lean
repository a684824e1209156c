import Embedder.Machine.Boot
import Embedder.Machine.Collect

/-!
# Taking an interpreter down

When an interpreter goes down it flushes its output, collects garbage, and empties the module table
in order. Then it lets go of what user code put among the built-in names, of what modules hold that
are still in use, and last of its own settings and the built-in names.
-/

namespace Embedder.Machine

/-! ## Output -/

/-- Whether a file object says that it is closed. -/
def isClosed (o : Obj) : Exec Bool :=
  recover
    (do
      let v ← getAttr o "closed"
      holding v (truth v))
    (fun _ => pure true) (pure false)

/-- Flush the stream of a setting, where there is one that is open. -/
def flushSetting (name : String) (report : Obj → Raised → Exec Unit) : Exec Bool := do
  match (← setting? name).filter (· ≠ noneObj) with
  | none => pure true
  | some file => do
    incref file
    holding file do
      if ((← get).streamName? file).isSome then pure true
      else if ← isClosed file then pure true
      else do
        let flush ← Exec.outcome do
          let f ← getAttr file "flush"
          holding f (callObj f [])
        match flush with
        | .ok r => do
          release r
          pure true
        | .error r => do
          report file r
          release r.value
          pure false

/-- Flush the standard output and the error stream; false if that failed. -/
def flushStreams : Exec Bool := do
  let output ← flushSetting "stdout" reportIgnored
  let errors ← flushSetting "stderr" fun _ _ => pure ()
  pure (output && errors)

/-! ## Modules -/

/-- The settings that let go of their values before all else. -/
def firstToGo : List String :=
  words ("path argv ps1 ps2 last_type last_value last_traceback path_hooks path_importer_cache " ++
    "meta_path __interactivehook__")

/-- The streams that have their first values under second names. -/
def streamNames : List String := ["stdin", "stdout", "stderr"]

/-- Let go of the settings that hold objects of the program. -/
def resetSettings : Exec Unit := do
  let w ← get
  storeAttr w.builtins "_" noneObj
  firstToGo.forM fun name => storeAttr w.system name noneObj
  streamNames.forM fun name => do
    let first ← refOrNone (← setting? ("__" ++ name ++ "__"))
    storeAttr w.system name first

/-- Set the modules in the table to none, in order; those that there were. -/
def dismissModules : Exec (List Obj) := do
  let modules ← (← get).modules.filterM fun e => isModule e.2
  modules.forM fun e => putModule e.1 noneObj
  pure (modules.map (·.2))

/-- Empty the module table in order. -/
def clearTable : Exec Unit := do
  let rest := (← get).modules
  modify fun w => { w with modules := [] }
  releaseList (rest.map (·.2))

/-- The built-in names that come only after the others. -/
def lateBuiltins : List String := words "open exit quit copyright credits license help"

/-- Give the built-in names their first values again. -/
def restoreBuiltins : Exec Unit := do
  let m := (← get).builtins
  let old ← takeAttrs m
  define m [("__name__", newText "builtins"), ("__doc__", pure noneObj),
    ("__package__", newText ""), ("__loader__", pure noneObj), ("__spec__", pure noneObj)]
  define m (builtinNames.filter fun e => e.1 ∉ lateBuiltins)
  releaseList old

/-- Whether a name is private to its module: it starts with one underscore. -/
def isPrivate (name : String) : Bool :=
  match name.toList with
  | ['_'] => true
  | '_' :: c :: _ => c != '_'
  | _ => false

/-- Set the names of a module to none in order, the private ones first. -/
def clearModule (m : Obj) : Exec Unit := do
  let w ← get
  let names := (w.attrsOf (w.cell m)).map (·.1)
  (names.filter isPrivate).forM fun name => storeAttr m name noneObj
  (names.filter (· ≠ "__builtins__")).forM fun name => storeAttr m name noneObj

/-- Whether a module is still in use, and not only by its own functions. -/
def isInUse (m : Obj) : Exec Bool := do
  let w ← get
  let c := w.cell m
  pure (w.ownReferences m c < c.refs)

/-- Let go of all modules after a first collection of garbage. -/
def releaseModules (first : Collected) : Exec Unit := do
  resetSettings
  let modules ← dismissModules
  clearTable
  restoreBuiltins
  let second ← collectAgain first
  let w ← get
  modules.reverse.forM fun m => do
    if m ≠ w.system && m ≠ w.builtins && (← isInUse m) then do
      incref m
      holding m (clearModule m)
  clearModule w.system
  clearModule w.builtins
  let _ ← collectAgain second
  pure ()

/-! ## The end -/

/-- Take an interpreter down; false if its output could not be flushed. -/
def shutdownProgram : Exec Bool := do
  modify fun w => { w with busy := true }
  let flushed ← flushStreams
  releaseModules (← collectFirst)
  modify fun w => { w with up := false, busy := false }
  pure flushed

end Embedder.Machine
