import Embedder.Machine.Assignment
import Embedder.Machine.ModuleBody

/-!
# Descriptions of modules

What finds a module describes it by an object: its name, what loads it, where it comes from and
where its parts are. Such a description is of the class for that or anything else that has the
attributes. A module is told by attributes of its own what its description says.
-/

namespace Embedder.Machine

/-! ## Attributes -/

/-- Whether an attribute of an object is none. -/
def isNoneAttr (o : Obj) (name : String) : Exec Bool := do
  let v ← getAttr o name
  release v
  pure (v = noneObj)

/-- Do something in a line of code. In the next line the code catches what is under the name of a
class of exceptions, and goes on with something else then. -/
def catching {α : Type} (place : Nat → Frame) (line : Nat) (name : String) (x otherwise : Exec α) :
    Exec α :=
  recover (inFrame (place line) x) (fun r => inFrame (place (line + 1)) (isCaught name r)) otherwise

/-- Give an object an attribute in a line of code, if it takes it. -/
def tell (place : Nat → Frame) (line : Nat) (o : Obj) (name : String) (value : Exec Obj) :
    Exec Unit := do
  let change : Exec Unit := do
    let v ← value
    holding v (changeAttr o name (some v))
  catching place line "AttributeError" change (pure ())

/-- The truth of an attribute of an object. -/
def attrTruth (o : Obj) (name : String) : Exec Bool := do truthOf (← getAttr o name)

/-! ## New descriptions -/

/-- The attribute that says where the parts of a module are. -/
def partsAttr : String := "submodule_search_locations"

/-- A new description. -/
def newSpec (name loader origin : Obj) (isPackage : Bool) : Exec Obj := do
  [name, loader, origin].forM incref
  let parts ← if isPackage then newListOf [] else pure noneObj
  let unfinished ← newListOf []
  alloc Builtin.moduleSpec.obj .plain
    [("name", name), ("loader", loader), ("origin", origin), ("loader_state", noneObj),
      (partsAttr, parts), ("_uninitialized_submodules", unfinished),
      ("_set_fileattr", falseObj), ("_cached", noneObj)]

/-- Put a value into a description, in place of what it says there; the reference moves. -/
def setInSpec (spec : Obj) (name : String) (v : Obj) : Exec Unit := storeAttr spec name v

/-- The name of an object, or else of its class, as it stands in a warning. -/
def objectName (o : Obj) : Exec Unit := do
  let place (line : Nat) : Frame := importPlace line "_object_name"
  let name ← catching place 25 "AttributeError" (some <$> getAttr o "__qualname__") (pure none)
  match name with
  | some name => do
    let _ ← holding name (innerStr name)
  | none => pure ()

/-- The answer of a loader in a line of code. It may refuse it by an import error. -/
def loaderAnswer? (place : Nat → Frame) (line : Nat) (loader : Obj) (method : String) (name : Obj) :
    Exec (Option Obj) := do
  let ask : Exec (Option Obj) := do
    let f ← getAttr loader method
    some <$> holding f (callObj f [name])
  catching place line "ImportError" ask (pure none)

/-- Put the folder of a file into a list of places. -/
def addFolder (parts location : Obj) : Exec Unit := do
  let place (line : Nat) : Frame := filePlace line "spec_from_file_location"
  if ← inFrame (place 842) (truth location) then do
    let folder ← inFrame (place 843) do
      match ← payloadOf location with
      | .str s => newStr ((s.reverse.dropWhile (· ≠ 47)).drop 1).reverse
      | _ =>
        inFrames [filePlace 134 "_path_split", filePlace 134 "<genexpr>"]
          (getAttr location "rfind")
    editCell parts fun c => { c with payload := c.payload.pushing folder }

/-- The description of a module by a loader that knows its file. -/
def specFromFile (name loader : Obj) : Exec Obj := do
  let place (line : Nat) : Frame := filePlace line "spec_from_file_location"
  let unknown ← newText "<unknown>"
  let location ←
    if ← inFrame (place 795) (hasAttr loader "get_filename") then do
      match ← loaderAnswer? place 798 loader "get_filename" name with
      | some o => do
        release unknown
        pure o
      | none => pure unknown
    else pure unknown
  holding location do
    let spec ← newSpec name loader location false
    let fill : Exec Unit := do
      setInSpec spec "_set_fileattr" trueObj
      if ← inFrame (place 831) (hasAttr loader "is_package") then
        match ← loaderAnswer? place 833 loader "is_package" name with
        | some answer =>
          if ← inFrame (place 837) (truthOf answer) then do
            let parts ← newListOf []
            setInSpec spec partsAttr parts
            addFolder parts location
        | none => pure ()
    match ← Exec.outcome fill with
    | .ok () => pure spec
    | .error r => do
      release spec
      throw r

/-- The description of a module by its loader. -/
def specFromLoader (name loader : Obj) : Exec Obj := do
  let place (line : Nat) : Frame := importPlace line "spec_from_loader"
  let origin ← inFrame (place 425) (attrOr loader "_ORIGIN" noneObj)
  holding origin do
    let hasFile ← inFrame (place 427) do
      if ← truth origin then pure false else hasAttr loader "get_filename"
    if hasFile then inFrame (place 433) (specFromFile name loader)
    else do
      let answer ←
        if ← inFrame (place 439) (hasAttr loader "is_package") then
          loaderAnswer? place 441 loader "is_package" name
        else pure none
      let isPackage ← match answer with
        | some a => inFrames [place 448, importPlace 363 "__init__"] (truthOf a)
        | none => pure false
      newSpec name loader origin isPackage

/-! ## What a module is told -/

/-- Whether a path has one of some endings, which code makes a tuple of first. -/
def endsInOne (path : String) (endings : List String) : Exec Bool := do
  match ← standIn? "tuple" with
  | none => pure (endings.any fun e => path.endsWith e)
  | some f => do
    let list ← newListOf (← endings.mapM newText)
    let r ← holding list (callObj f [list])
    holding r do
      match ← payloadOf r with
      | .str s => pure (s.isSuffixOf (pointsOf path))
      | .tuple items =>
        let texts ← (slotItems items).mapM fun o => do
          match ← payloadOf o with
          | .str s => pure s
          | _ => do
            let t ← typeName o
            throwNew .typeError ("tuple for endswith must only contain str, not " ++ clip 100 t)
        pure (texts.any fun s => s.isSuffixOf (pointsOf path))
      | _ => do
        let t ← typeName r
        throwNew .typeError
          ("endswith first arg must be str or a tuple of str, not " ++ clip 100 t)

/-- Where the compiled code of a file is; nowhere if it has no code. -/
def compiledFor (origin : Obj) : Exec (Option String) := do
  let place (line : Nat) : Frame := filePlace line "_get_cached"
  match (← get).textOf? origin with
  | some path => do
    if ← inFrame (place 568) (endsInOne path [".py"]) then pure (some (compiledPath path))
    else if ← inFrame (place 573) (endsInOne path [".pyc"]) then pure (some path)
    else pure none
  | none => do
    release (← inFrame (place 568) (getAttr origin "endswith"))
    pure none

/-- Where the compiled code of a module is, by its description. -/
def cachedOf (spec : Obj) : Exec Obj := do
  let w ← get
  let known := (w.attr? spec "_cached").getD noneObj
  if (w.cell spec).cls ≠ Builtin.moduleSpec.obj then getAttr spec "cached"
  else if known ≠ noneObj then newRef known
  else
    match (w.attr? spec "origin").filter (· ≠ noneObj) with
    | none => pure noneObj
    | some origin =>
      match ← Exec.outcome (inFrame (importPlace 398 "cached") (compiledFor origin)) with
      | .ok compiled => do
        let cached ← newTextOrNone compiled
        setInSpec spec "_cached" cached
        newRef cached
      | .error r => do
        rememberAttribute spec "cached" r
        throw r

/-- The loader of a module as the module is told: one for a folder without one. -/
def loaderToTell (spec m : Obj) : Exec Obj := do
  let place (line : Nat) : Frame := importPlace line "_init_module_attrs"
  let loader ← inFrame (place 504) (getAttr spec "loader")
  if loader ≠ noneObj then pure loader
  else if ← inFrame (place 507) (isNoneAttr spec partsAttr) then pure noneObj
  else do
    let parts ← inFrame (place 513) (getAttr spec partsAttr)
    let loader ← alloc Builtin.namespaceLoader.obj .plain [("_path", parts)]
    inFrame (place 514) (changeAttr spec "loader" (some loader))
    inFrame (place 525) (changeAttr m "__file__" (some noneObj))
    pure loader

/-- Tell a module what its description says, where it does not know better. -/
def initModule (spec m : Obj) : Exec Unit := do
  let place (line : Nat) : Frame := importPlace line "_init_module_attrs"
  let lacks (line : Nat) (name : String) : Exec Bool := inFrame (place line) (lacksAttr m name)
  let tellAt (line : Nat) (name : String) (value : Exec Obj) : Exec Unit :=
    tell place line m name value
  if ← lacks 497 "__name__" then tellAt 499 "__name__" (getAttr spec "name")
  if ← lacks 503 "__loader__" then
    let loader ← loaderToTell spec m
    holding loader (tellAt 527 "__loader__" (newRef loader))
  if ← lacks 531 "__package__" then tellAt 533 "__package__" (getAttr spec "parent")
  tellAt 538 "__spec__" (newRef spec)
  if ← lacks 542 "__path__" then
    if !(← inFrame (place 543) (isNoneAttr spec partsAttr)) then
      tellAt 546 "__path__" (getAttr spec partsAttr)
  if ← inFrame (place 550) (attrTruth spec "has_location") then
    if ← lacks 551 "__file__" then tellAt 553 "__file__" (getAttr spec "origin")
    if ← lacks 557 "__cached__" then
      let cached ← inFrame (place 558) (cachedOf spec)
      release cached
      if cached ≠ noneObj then tellAt 560 "__cached__" (cachedOf spec)

end Embedder.Machine
