import Embedder.Machine.PathSearch

/-!
# The import of modules

What is not in the module table is looked for by the finders, one after the other: among the parts
of the interpreter, along the search path, or as objects made by a script say. A name with dots is
imported part by part, each in the places of the one before, and becomes an attribute of that.
-/

namespace Embedder.Machine

/-! ## Finders -/

/-- The error for a module that is nowhere. -/
def notFound {α : Type} (name tail : String) : Exec α := do
  let shown := quotedPoints (pointsOf name)
  let text ← newStr (pointsOf "No module named " ++ shown ++ pointsOf tail)
  let key ← newText name
  throwNamed "ModuleNotFoundError" [text] [("name", key)]

/-- A place in the walk over the finders. -/
def finderPlace (line : Nat) : Frame := importPlace line "_find_spec"

/-- What a finder of the old kind describes: it gives a loader. -/
def askOldWay (finder name path : Obj) : Exec Obj := do
  let place (line : Nat) : Frame := importPlace line "_find_spec_legacy"
  inFrame (place 1047) (objectName finder)
  let loader ← inFrame (place 1050) do
    let f ← getAttr finder "find_module"
    holding f (callObj f [name, path])
  if loader = noneObj then pure noneObj
  else holding loader (inFrame (place 1053) (specFromLoader name loader))

/-- What an object that serves as a finder describes. -/
def askFinder (finder name path : Obj) : Exec Obj := do
  match ← Exec.outcome (inFrame (finderPlace 1074) (getAttr finder "find_spec")) with
  | .ok f => inFrame (finderPlace 1080) (holding f (callObj f [name, path, noneObj]))
  | .error r =>
    if !(← inFrame (finderPlace 1075) (isCaught "AttributeError" r)) then throw r
    else do
      keepTrace r.value r.frames
      whileHandling r.value (inFrame (finderPlace 1076) (askOldWay finder name path))

/-- What a finder describes for the name of a module, or none. -/
def findBy (finder name path : Obj) : Exec Obj := do
  let text := ((← get).textOf? name).getD ""
  if finder = Builtin.builtinImporter.obj then
    if text ∈ builtinModules then newBuiltinSpec name else pure noneObj
  else if finder = Builtin.frozenImporter.obj then
    if text ∈ frozenModules then newFrozenSpec name else pure noneObj
  else if finder = Builtin.pathFinder.obj then inFrame (finderPlace 1080) (findOnPath name path)
  else askFinder finder name path

/-- The description that counts for a module that a finder described: that of the module in the
table, if there is one by now. -/
def describedNow (reload : Bool) (name spec : Obj) : Exec Obj := do
  if reload then pure spec
  else if !(← inFrame (finderPlace 1083) (isSeen name)) then pure spec
  else do
    let m ← inFrame (finderPlace 1084) (seenItem name)
    let asked : Exec (Option Obj) := some <$> inFrame (finderPlace 1086) (getAttr m "__spec__")
    let noSpec (r : Raised) : Exec Bool := inFrame (finderPlace 1087) (isCaught "AttributeError" r)
    match ← holding m (recover asked noSpec (pure none)) with
    | none => pure spec
    | some own =>
      if own = noneObj then pure spec
      else do
        release spec
        pure own

/-- What the finders describe for the name of a module, the first that describes something; none if
nobody does. -/
def findSpec (name path : Obj) : Exec Obj := do
  let finders ← inFrame (finderPlace 1058) (neededSetting "meta_path")
  holding finders do
    if finders = noneObj then
      let text ← newText "sys.meta_path is None, Python is likely shutting down"
      inFrame (finderPlace 1061) (throwNamed "ImportError" [text] [])
    let _ ← inFrame (finderPlace 1064) (truth finders)
    let reload ← inFrame (finderPlace 1070) (isSeen name)
    let it ← inFrame (finderPlace 1071) (iteratorOf finders)
    let rec go : (fuel : Nat) → Exec Obj
      | 0 => pure noneObj
      | fuel + 1 => do
        match ← inFrame (finderPlace 1071) (nextOrEnd it) with
        | none => pure noneObj
        | some finder => do
          let spec ← holding finder (findBy finder name path)
          if spec = noneObj then go fuel else describedNow reload name spec
    holding it (go walkFuel)

/-! ## Parts of modules -/

/-- A place in the search for a module. -/
def searchPlace (line : Nat) : Frame := importPlace line "_find_and_load_unlocked"

/-- The places for the parts of a module. -/
def partPlaces (name parent : String) (p : Obj) : Exec Obj := do
  match ← Exec.outcome (inFrame (searchPlace 1134) (getAttr p "__path__")) with
  | .ok path => pure path
  | .error r =>
    if ← inFrame (searchPlace 1135) (isCaught "AttributeError" r) then do
      release r.value
      inFrame (searchPlace 1137) (notFound name ("; " ++ quotedText parent ++ " is not a package"))
    else throw r

/-- What the import of a part of a module needs of the module. -/
structure Whole where
  path : Obj
  spec : Obj

/-- What the import of a part needs of the module that it is a part of, which is imported first; or
the part, if that has brought it. -/
def wholeOf (importName : String → Exec Obj) (name parent : String) (key parentKey : Obj) :
    Exec (Obj ⊕ Whole) := do
  if !(← inFrame (searchPlace 1127) (isSeen parentKey)) then
    release (← inFrames [searchPlace 1128, runPlace] (importName parent))
  if ← inFrame (searchPlace 1130) (isSeen key) then
    .inl <$> inFrame (searchPlace 1131) (seenItem key)
  else do
    let p ← inFrame (searchPlace 1132) (seenItem parentKey)
    holding p do
      let path ← partPlaces name parent p
      match ← Exec.outcome (inFrame (searchPlace 1138) (getAttr p "__spec__")) with
      | .ok spec => pure (.inr ⟨path, spec⟩)
      | .error r => do
        release path
        throw r

/-- Do something with the list of the parts of a module that are being imported. -/
def withUnfinished (line : Nat) (whole : Obj) (byBirth : Payload → Payload × Option Obj)
    (method : String) (args : List Obj) : Exec Unit :=
  inFrame (searchPlace line) do
    let parts ← getAttr whole "_uninitialized_submodules"
    holding parts do
      match ← payloadOf parts with
      | .list slots => do
        let (p, gone) := byBirth (.list slots)
        setPayload parts p
        releaseList gone.toList
      | _ => do
        let f ← getAttr parts method
        release (← holding f (callObj f args))

/-- Load what a description describes, while the module that it is a part of knows of that. -/
def loadAsPart (importName : String → Exec Obj) (spec whole last : Obj) : Exec Obj := do
  if ← inFrame (searchPlace 1144) (truth whole) then do
    incref last
    withUnfinished 1147 whole (fun p => (p.pushing last, none)) "append" [last]
  let taken : Payload → Payload × Option Obj
    | .list slots => (.list slots.pop, slots.back?.join)
    | p => (p, none)
  andFinally (inFrame (searchPlace 1149) (loadSpec importName spec)) do
    if ← inFrame (searchPlace 1151) (truth whole) then withUnfinished 1152 whole taken "pop" []

/-! ## Import -/

/-- Load what the finders describe for the name of a module. -/
def loadFound (importName : String → Exec Obj) (name : String) (key path whole last : Obj) :
    Exec Obj := do
  let spec ← inFrame (searchPlace 1140) (findSpec key path)
  if spec = noneObj then inFrame (searchPlace 1142) (notFound name "")
  else holding spec (loadAsPart importName spec whole last)

/-- Let a module know one of its parts, if it takes it. -/
def joinPart (whole key : Obj) (last : String) (part : Obj) : Exec Unit :=
  let args : Exec (List Obj) := do pure [← newRef whole, ← newRef key, ← newRef part]
  let change : Exec Obj := do
    changeAttr whole last (some part)
    pure noneObj
  recover (inFrame (searchPlace 1157) do release (← byBuiltin "setattr" args change))
    (fun r => inFrame (searchPlace 1158) (isCaught "AttributeError" r)) (pure ())

/-- Find a module that is not in the table and load it. -/
def findAndLoad (importName : String → Exec Obj) (name : String) (key : Obj) : Exec Obj := do
  let (parent, last) := splitName name
  if parent = "" then loadFound importName name key noneObj noneObj noneObj
  else do
    let parentKey ← newText parent
    let lastKey ← newText last
    holdingAll [parentKey, lastKey] do
      match ← wholeOf importName name parent key parentKey with
      | .inl m => pure m
      | .inr whole => do
        let m ← holdingAll [whole.path, whole.spec]
          (loadFound importName name key whole.path whole.spec lastKey)
        let join : Exec Unit := do
          let p ← inFrame (searchPlace 1155) (seenItem parentKey)
          holding p (joinPart p lastKey last m)
        match ← Exec.outcome join with
        | .ok () => pure m
        | .error r => do
          release m
          throw r

/-- Whether an object in the table says that it is still being run. -/
def isBeingRun (m : Obj) : Exec Bool := do
  let spec ← attrOr m "__spec__" noneObj
  truthOf (← holding spec (attrOr spec "_initializing" falseObj))

/-- Take the lock for the import of a module, for which there is none so far: the code catches what
is under the name of the class of that error. -/
def lockModule (key : Obj) : Exec Unit := do
  let noLock : Exec Unit := do throwWith .keyError [← newRef key]
  inFrame (importPlace 170 "__enter__")
    (catching (importPlace · "_get_module_lock") 188 "KeyError" noLock (pure ()))

/-- The module of a name as code sees it: what the table has, or else what is found. -/
def findOrLoad (importName : String → Exec Obj) (name : String) : Exec Obj := do
  let place (line : Nat) : Frame := importPlace line "_find_and_load"
  let key ← newText name
  holding key do
    let seen ← inFrame (place 1172) (seenModule? key)
    let isReady ← match seen with
      | none => pure false
      | some m => do pure (!(← inFrame (place 1174) (isBeingRun m)))
    let m ←
      match seen, isReady with
      | some m, true => pure m
      | _, _ => do
        releaseList seen.toList
        inFrame (place 1175) (lockModule key)
        match ← inFrame (place 1176) (seenModule? key) with
        | some m => pure m
        | none => inFrame (place 1178) (findAndLoad importName name key)
    if m = noneObj then do
      let text ← newText ("import of " ++ name ++ " halted; None in sys.modules")
      let own ← newRef key
      inFrame (place 1189) (throwNamed "ModuleNotFoundError" [text] [("name", own)])
    else pure m

/-- Whether an object in the table says that it is still being run; what that raises is lost. -/
def askInitializing (m : Obj) : Exec Unit := do
  let spec ← recover (attrOrNone? m "__spec__") (fun _ => pure true) (pure none)
  let _ ← isInitializing spec getAttr
  releaseList spec.toList

/-- Import the module of a name. After a name with dots its first part is imported too. `fuel`
bounds the depth to which imports stand in each other. -/
def importWithin : (fuel : Nat) → String → Exec Obj
  | 0, name => notFound name ""
  | fuel + 1, name =>
    if name = "" then throwNew .valueError "Empty module name"
    else
      asMachinery do
        let m ← match ((← get).modules.lookup name).filter (· ≠ noneObj) with
          | some o => do
            askInitializing o
            newRef o
          | none => findOrLoad (importWithin fuel) name
        if '.' ∈ name.toList then
          match ← Exec.outcome (importWithin fuel ((name.splitOn ".").headD "")) with
          | .ok front => do
            release front
            pure m
          | .error r => do
            release m
            throw r
        else pure m

/-- Import the module of a name as code does, with fuel for its length. -/
def importNamed (name : String) : Exec Obj := importWithin (name.length + 8) name

/-- Import the module of a name: what the table holds under it afterwards. -/
def importModule (name : String) : Exec Obj := do
  let w ← get
  let f ← getAttr w.builtins "__import__"
  let key ← newText "__builtins__"
  incref w.builtins
  let names ← newDictOf [(key, w.builtins)]
  let wanted ← newListOf []
  let m ← holdingAll [f, names, wanted] (importBy f importNamed name names wanted)
  release m
  match (← get).modules.lookup name with
  | some o => newRef o
  | none => do
    let key ← newText name
    throwWith .keyError [key]

end Embedder.Machine
