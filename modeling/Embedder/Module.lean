import Embedder.Handle.Object

/-!
# Modules and their functions

A module is imported, then looked up in the interpreter's module table, which keeps it alive from
then on, and the reference of the import is released. Its functions are found in its own namespace.
-/

namespace Embedder

/-- A module in the module table. -/
structure ModuleHandle where
  name : String
  handle : Handle
  deriving DecidableEq, Repr

/-- A function of a module, found callable. -/
structure CallableHandle where
  moduleName : String
  attr : String
  handle : Handle
  deriving DecidableEq, Repr

/-- The name of a callable in messages. -/
def CallableHandle.qualifiedName (c : CallableHandle) : String := c.moduleName ++ "." ++ c.attr

namespace ModuleHandle

open Exception

variable {σ : Type} (G : Guest σ)

/-- A name for the interpreter: one without a NUL. -/
def checkedName (s : String) : Attempt σ Failure String :=
  (Handle.withoutNul s).mapError fun r => .invalidArgument r.message

/-- Import a module. -/
def resolve (name : String) : Attempt σ Failure Handle := do
  let checked ← checkedName name
  ExceptT.mk do
    match ← (requestNew G "PyImport_ImportModule" (G.importModule checked)).run with
    | .ok h => pure (.ok h)
    | .error cause => do
      Bridge.debug "import failed" [.quoted "module" name, .plain "error" cause.headline]
      pure (.error (.moduleNotFound name cause))

/-- Look an imported module up in the module table. The import's handle ends. -/
def bind (imported : Handle) (name : String) : Attempt σ Failure ModuleHandle := do
  let h ← imported.within G do
    let checked ← checkedName name
    (requestBorrowed G "PyImport_AddModule" (G.addModule checked)).mapError (.moduleNotFound name)
  (Bridge.debug "bound module" [.quoted "module" name] : Bridge σ Unit)
  pure ⟨name, h⟩

/-- Import a module and look it up in the module table. -/
def importAs (name : String) : Attempt σ Failure ModuleHandle := do
  let imported ← resolve G name
  bind G imported name

/-- A function in a module's namespace. -/
def resolveCallable (m : ModuleHandle) (attr : String) : Attempt σ Failure CallableHandle := do
  let space ← (requestBorrowed G "PyModule_GetDict" (G.namespaceOf m.handle.obj)).mapError .raised
  let checked ← checkedName attr
  let w := (← get).world
  match G.lookup space.obj checked w with
  | none => throw (.attributeNotFound m.name attr)
  | some o =>
    if G.isCallable o w then pure ⟨m.name, attr, Handle.ofBorrowed o⟩
    else throw (.notCallable m.name attr)

end ModuleHandle

end Embedder
