import Embedder.Machine.StandIn

/-!
# The module table

The interpreter's own table holds modules by name, in order of insertion. Code reaches it by a
setting, and that can be anything: where it is no longer the table, code that asks for a module asks
what stands in its place, while the interpreter itself goes on with its own.
-/

namespace Embedder.Machine

/-- The name of the module that a module is a part of, or nothing, and its own last name. -/
def splitName (name : String) : String × String :=
  let parts := name.splitOn "."
  (".".intercalate parts.dropLast, parts.getLastD "")

/-! ## The interpreter's own table -/

/-- Put a module under a name of the table, in place of an older one; the reference moves. -/
def putModule (name : String) (m : Obj) : Exec Unit := do
  let modules := (← get).modules
  let old := modules.lookup name
  let modules := if old.isSome then modules.map fun e => if e.1 = name then (name, m) else e
    else modules ++ [(name, m)]
  modify fun w => { w with modules := modules }
  releaseList old.toList

/-- Take a module out of the table; its reference moves. -/
def takeModule? (name : String) : Exec (Option Obj) := do
  let modules := (← get).modules
  match modules.lookup name with
  | none => pure none
  | some m => do
    modify fun w => { w with modules := modules.filter fun e => e.1 ≠ name }
    pure (some m)

/-- Take a module out of the table and release it; whether it was there. -/
def dropModule (name : String) : Exec Bool := do
  match ← takeModule? name with
  | none => pure false
  | some m => do
    release m
    pure true

/-- A new empty module. -/
def newModule (name : String) : Exec Obj := do
  let text ← newText name
  alloc Builtin.moduleClass.obj (.moduleNamed name)
    [("__name__", text), ("__doc__", noneObj), ("__package__", noneObj), ("__loader__", noneObj),
      ("__spec__", noneObj)]

/-- Whether an object is a module. -/
def isModule (o : Obj) : Exec Bool := do pure ((← payloadOf o) matches .moduleNamed _)

/-- The module under a name of the table; where there is none, a new empty one takes the place. The
reference stays with the table. -/
def addModule (name : String) : Exec Obj := do
  match (← get).modules.lookup name with
  | some m =>
    if ← isModule m then pure m
    else do
      let m ← newModule name
      putModule name m
      pure m
  | none => do
    let m ← newModule name
    putModule name m
    pure m

/-! ## The table as code sees it -/

/-- A setting of the interpreter, which the machinery needs. -/
def neededSetting (name : String) : Exec Obj := do
  let w ← get
  match w.attr? w.system name with
  | some o => newRef o
  | none => getAttr w.system name

/-- Do something with the table as code sees it: with the interpreter's own, or with the object that
stands in its place. -/
def withSeenTable {α : Type} (own : Exec α) (other : Obj → Exec α) : Exec α := do
  let o ← neededSetting "modules"
  if o = (← get).tableView then do
    release o
    own
  else holding o (other o)

/-- The name under which the interpreter's own table has something. What is no text has a place
apart, by what it looks like. -/
def tableName (key : Obj) : Exec String := do
  match ← payloadOf key with
  | .str s => pure (hostText s)
  | _ => do
    let _ ← hashOf key
    let shown ← innerRepr key
    pure (String.ofList ('\x00' :: (hostText shown).toList))

/-- What the table has for a name, by the method for that. -/
def seenModule? (key : Obj) : Exec (Option Obj) :=
  withSeenTable
    (do
      match (← get).modules.lookup (← tableName key) with
      | some o => some <$> newRef o
      | none => pure none)
    fun table => do
      match ← payloadOf table with
      | .dict items =>
        match ← itemOf? key (← hashOf key) items with
        | some e => some <$> newRef e.value
        | none => pure none
      | _ => do
        let missing ← alloc Builtin.object.obj .plain []
        holding missing do
          let f ← getAttr table "get"
          let v ← holding f (callObj f [key, missing])
          if v = missing then do
            release v
            pure none
          else pure (some v)

/-- Whether the table has a name. -/
def isSeen (key : Obj) : Exec Bool :=
  withSeenTable (do pure ((← get).modules.lookup (← tableName key)).isSome)
    fun table => hasUnder table key

/-- What the table has under a name. -/
def seenItem (key : Obj) : Exec Obj :=
  withSeenTable
    (do
      match (← get).modules.lookup (← tableName key) with
      | some o => newRef o
      | none => throwWith .keyError [← newRef key])
    fun table => itemUnder table key

/-- Put a module into the table. -/
def putSeen (key m : Obj) : Exec Unit :=
  withSeenTable
    (do
      let name ← tableName key
      incref m
      putModule name m)
    fun table => putUnder table key m

/-- Take a module from the table. -/
def dropSeen (key : Obj) : Exec Unit :=
  withSeenTable
    (do
      if !(← dropModule (← tableName key)) then throwWith .keyError [← newRef key])
    fun table => dropUnder table key

/-- Take a module from the table and give it, by the method for that. -/
def popSeen (key : Obj) : Exec Obj := do
  let needed (found : Option Obj) : Exec Obj :=
    match found with
    | some o => pure o
    | none => do throwWith .keyError [← newRef key]
  withSeenTable
    (do needed (← takeModule? (← tableName key)))
    fun table => do
      match ← payloadOf table with
      | .dict items => needed (← takeItem? table key items)
      | _ => do
        let f ← getAttr table "pop"
        holding f (callObj f [key])

end Embedder.Machine
