import Embedder.Machine.Loading

/-!
# The search along a path

A path is a list of places. For each place there is a finder, which says what the place has for the
name of a module: one that is known, or else one that a hook gives, which is known from then on. The
first that describes something that can be loaded ends the search. Folders that are no packages by
themselves are collected, and together they are a module: its places are those folders, and are
looked for again when the path that they were found on has changed.
-/

namespace Embedder.Machine

/-! ## The finder of folders -/

/-- Whether a code point of a text can stand in the name of a file: a surrogate only where it stands
for a byte. -/
def isNamable (n : Nat) : Bool := !isSurrogate n || (0xdc80 ≤ n && n ≤ 0xdcff)

/-- Check that a text can be the name of a file. -/
def checkPath (o : Obj) (s : Points) : Exec Unit :=
  match s.findIdx? fun n => !isNamable n with
  | some _ => do
    let _ ← contentsOf o
  | none => if 0 ∈ s then throwNew .valueError "embedded null byte" else pure ()

/-- The text that a path is. -/
def pathText (path : Obj) : Exec String := do
  match ← payloadOf path with
  | .str s => pure (hostText s)
  | _ => pure ""

/-- A new finder for a folder, with when it last looked at it and the names that it then saw. -/
def newFolderFinder (path looked names : Obj) : Exec Obj := do
  incref path
  let loaders ← newListOf []
  let relaxed ← newEmptySet
  alloc Builtin.fileFinder.obj .plain
    [("_loaders", loaders), ("path", path), ("_path_mtime", looked), ("_path_cache", names),
      ("_relaxed_path_cache", relaxed)]

/-- The error for a path that names nothing. -/
def noFile {α : Type} (path : Obj) : Exec α := do
  let number ← newInt 2
  let text ← newText "No such file or directory"
  let e ← holdingAll [number, text] (makeError Builtin.osError.obj [number, text, path])
  throw ⟨e, []⟩

/-- Look for something in the file system that is not there. The code catches what is under the name
of the class of the error. -/
def missFile (path : Obj) : Exec Unit :=
  catching (filePlace · "_path_is_mode_type") 153 "OSError"
    (inFrame (filePlace 147 "_path_stat") (noFile path)) (pure ())

/-- What the hook for archives says of a place: none of those that there are is an archive. -/
def refuseArchive {α : Type} (path : Obj) : Exec α := do
  let place (line : Nat) : Frame := .place "<frozen zipimport>" line "__init__"
  if !(← inFrame (place 65) (do isInstanceOfNamed path "str" (← isA path .str))) then
    inFrame (place 66) do
      let cls ← byBuiltin "type" (do pure [← newRef path]) (do newRef (← classOf path))
      let shown ← holding cls (innerRepr cls)
      throwPoints .typeError (pointsOf "expected str, not " ++ shown)
  if (folderAt? (← pathText path)).isNone then
    recover (inFrames [place 74, filePlace 147 "_path_stat"] (noFile path))
      (fun r => inFrame (place 75) (isCaughtByAny ["OSError", "ValueError"] r)) (pure ())
  let cls ← newClass "ZipImportError" "zipimport" Builtin.importError.obj [] none
  let text ← newText "not a Zip file"
  let e ← holdingAll [cls, text] (makeError cls [text])
  inFrame (place 88) (throw ⟨e, []⟩)

/-- The finder for a place that is a folder. -/
def folderFinderFor (path : Obj) : Exec Obj := do
  let outer : List Frame :=
    [filePlace 1698 "path_hook_for_FileFinder", filePlace 168 "_path_isdir"]
  match ← payloadOf path with
  | .str s =>
    inFrames (outer ++ [filePlace 153 "_path_is_mode_type", filePlace 147 "_path_stat"])
      (checkPath path s)
  | _ => pure ()
  let isFolder := (folderAt? (← pathText path)).isSome
  if !isFolder then inFrames outer (missFile path)
  if isFolder then
    let place (line : Nat) : Exec Obj → Exec Obj :=
      inFrames [filePlace 1700 "path_hook_for_FileFinder", filePlace line "__init__"]
    let names ← place 1575 (byBuiltin "set" (pure []) newEmptySet)
    release (← holding names (place 1576 (byBuiltin "set" (pure []) newEmptySet)))
    newFolderFinder path (← newInt (-1)) names
  else inFrame (filePlace 1699 "path_hook_for_FileFinder") do
    let text ← newText "only directories are supported"
    throwNamed "ImportError" [text] [("path", ← newRef path)]

/-- Whether the platform is one on which the names of files are the same in small letters. -/
def foldsNames (line : Nat) : Exec Bool :=
  inFrames [filePlace 1616 "find_spec", filePlace line "_fill_cache"] do
    let platform ← neededSetting "platform"
    let f ← holding platform (getAttr platform "startswith")
    let start ← newText "win"
    truthOf (← holdingAll [f, start] (callObj f [start]))

/-- Let a finder look at its folder, if it did not so far. -/
def lookAtFolder (finder : Obj) (folder : Folder) : Exec Unit := do
  let w ← get
  match (w.attr? finder "_path_mtime").bind w.intValue? with
  | some _ => do
    let folds ← foldsNames 1666
    let texts ← newListOf (← folder.entries.mapM newText)
    let names ← holding texts do
      let args : Exec (List Obj) := if folds then pure [] else do pure [← newRef texts]
      inFrames [filePlace 1616 "find_spec", filePlace (if folds then 1673 else 1667) "_fill_cache"]
        (byBuiltin "set" args do newSetOf (← itemsOf texts))
    storeAttr finder "_path_cache" names
    let _ ← foldsNames 1683
    storeAttr finder "_path_mtime" (← newFloat Double.zero)
  | none => pure ()

/-- Whether a finder saw a name in its folder. -/
def sawName (finder : Obj) (line : Nat) (name : String) : Exec Bool := do
  let names := ((← get).attr? finder "_path_cache").getD noneObj
  let key ← newText name
  holding key (inFrame (filePlace line "find_spec") (hasUnder names key))

/-- What loads a file: some are there only in compiled form. -/
def Source.loader (s : Source) : Builtin := if s.isCompiled then .compiledLoader else .fileLoader

/-- The description of a module in a file. -/
def specInFile (name : Obj) (source : Source) (path : String) (parts : Option String) :
    Exec Obj := do
  let origin ← newText path
  incref name
  incref origin
  let loader ← alloc source.loader.obj .plain [("name", name), ("path", origin)]
  let spec ← holdingAll [loader, origin] (newSpec name loader origin false)
  setInSpec spec "_set_fileattr" trueObj
  match parts with
  | some folder => do
    setInSpec spec partsAttr (← newListOf [← newText folder])
    pure spec
  | none => pure spec

/-- The description of a module that consists of folders. -/
def specOfFolders (name folders : Obj) : Exec Obj := do
  let spec ← newSpec name noneObj noneObj false
  incref folders
  setInSpec spec partsAttr folders
  pure spec

/-- How the names of the files end that can become modules, in the order in which they are looked
for. -/
def moduleEndings : List String :=
  [".cpython-311-x86_64-linux-gnu.so", ".abi3.so", ".so", ".py", ".pyc"]

/-- Look for the file of a package in its folder, which comes after some that are not there. -/
def missPackageFiles (path : String) (source? : Option Source) : Exec Unit := do
  let ending := (source?.map Source.suffix).getD ""
  (moduleEndings.takeWhile (· ≠ ending)).forM fun e => do
    let file ← newText (joinPath path ("__init__" ++ e))
    holding file
      (inFrames [filePlace 1631 "find_spec", filePlace 161 "_path_isfile"] (missFile file))

/-- What a folder has for the name of a module. -/
def findInFolder (finder name : Obj) : Exec Obj := do
  let w ← get
  let place := ((w.attr? finder "path").bind w.textOf?).getD ""
  let last := (splitName ((w.textOf? name).getD "")).2
  let folder? := folderAt? place
  folder?.forM (lookAtFolder finder)
  let inner := folder?.bind fun f => f.folders.lookup last
  let inner := if ← sawName finder 1626 last then inner else none
  let path := joinPath place last
  if inner.isSome then missPackageFiles path (inner.bind Folder.package)
  match inner.bind Folder.package with
  | some source =>
    specInFile name source (joinPath path ("__init__" ++ source.suffix)) (some path)
  | none => do
    inFrame (filePlace 1643 "find_spec") checkVerbose
    let source := folder?.bind fun f => f.files.lookup last
    let ending := (source.map Source.suffix).getD ".py"
    match source, ← sawName finder 1644 (last ++ ending) with
    | some source, true => specInFile name source (joinPath place (last ++ ending)) none
    | _, _ =>
      if inner.isSome then do
        let folders ← newListOf [← newText path]
        holding folders (specOfFolders name folders)
      else pure noneObj

/-! ## The finder for a place -/

/-- The folder in which the process runs: one in which there is nothing. -/
def workingFolder : String := "/nowhere"

/-- Ask the hooks for a finder for a place, one after the other; a hook that does not know refuses
by an import error. -/
def askHooks (path : Obj) : Exec Obj := do
  let place (line : Nat) : Frame := filePlace line "_path_hooks"
  inFrame (place 1411) do
    let hooks ← neededSetting "path_hooks"
    release hooks
    if hooks ≠ noneObj then
      let _ ← truthOf (← neededSetting "path_hooks")
  let hooks ← inFrame (place 1413) (neededSetting "path_hooks")
  let it ← inFrame (place 1413) (holding hooks (iteratorOf hooks))
  let rec go : (fuel : Nat) → Exec Obj
    | 0 => pure noneObj
    | fuel + 1 => do
      match ← inFrame (place 1413) (nextOrEnd it) with
      | none => pure noneObj
      | some hook =>
        let asked : Exec (Option Obj) :=
          inFrame (place 1415) (holding hook (some <$> callObj hook [path]))
        let isRefusal (r : Raised) : Exec Bool := inFrame (place 1416) (isCaught "ImportError" r)
        match ← recover asked isRefusal (pure none) with
        | some finder => pure finder
        | none => go fuel
  holding it (go walkFuel)

/-- The finder for a place. -/
def finderFor (entry : Obj) : Exec Obj := do
  let place (line : Nat) : Frame := filePlace line "_path_importer_cache"
  let path ← match ← payloadOf entry with
    | .str [] => newText workingFolder
    | _ => newRef entry
  let known : Exec Obj := inFrame (place 1437) do
    let cache ← neededSetting "path_importer_cache"
    holding cache (itemUnder cache path)
  holding path do
    match ← Exec.outcome known with
    | .ok finder => pure finder
    | .error r =>
      if !(← inFrame (place 1438) (isCaught "KeyError" r)) then throw r
      else do
        keepTrace r.value r.frames
        whileHandling r.value do
          let finder ← inFrame (place 1439) (askHooks path)
          let keepFinder : Exec Unit := inFrame (place 1440) do
            let cache ← neededSetting "path_importer_cache"
            holding cache (putUnder cache path finder)
          match ← Exec.outcome keepFinder with
          | .ok () => pure finder
          | .error r => do
            release finder
            throw r

/-- What a finder of the old kind has for the name of a module: it gives a loader, or a loader and
places. -/
def askOldFinder (finder name : Obj) : Exec Obj := do
  let place (line : Nat) : Frame := filePlace line "_legacy_get_spec"
  let ask (line : Nat) (method : String) : Exec Obj := inFrame (place line) do
    let f ← getAttr finder method
    holding f (callObj f [name])
  let (loader, parts) ←
    if ← inFrame (place 1447) (hasAttr finder "find_loader") then do
      inFrame (place 1448) (objectName finder)
      let answer ← ask 1451 "find_loader"
      match ← inFrame (place 1451) (holding answer (unpack 2 answer)) with
      | [loader, parts] => pure (loader, parts)
      | _ => pure (noneObj, noneObj)
    else do
      inFrame (place 1453) (objectName finder)
      pure (← ask 1456 "find_module", ← newListOf [])
  holdingAll [loader, parts] do
    if loader ≠ noneObj then inFrame (place 1459) (specFromLoader name loader)
    else specOfFolders name parts

/-- What a finder has for the name of a module. -/
def askPlaceFinder (finder name : Obj) : Exec Obj := do
  let place (line : Nat) : Frame := filePlace line "_get_spec"
  if ← inFrame (place 1475) (hasAttr finder "find_spec") then
    inFrame (place 1476) do
      if (← classOf finder) = Builtin.fileFinder.obj then findInFolder finder name
      else
      let f ← getAttr finder "find_spec"
      holding f (callObj f [name, noneObj])
  else inFrame (place 1478) (askOldFinder finder name)

/-! ## The search -/

/-- Add what a description says of places to a list of places. -/
def addParts (spec folders : Obj) : Exec Unit := do
  let place (line : Nat) : Frame := filePlace line "_get_spec"
  let parts ← inFrame (place 1483) (getAttr spec partsAttr)
  holding parts do
    if parts = noneObj then
      inFrame (place 1485) do
        let text ← newText "spec missing loader"
        throwNamed "ImportError" [text] []
    let more ← inFrame (place 1490) (itemsOf parts)
    more.forM fun o => editCell folders fun c => { c with payload := c.payload.pushing o }

/-- What the places that an iterator still has to give have for the name of a module: a description
with a loader, or one of all the folders that there are. -/
def searchFrom (name it : Obj) : Exec Obj := do
  let place (line : Nat) : Frame := filePlace line "_get_spec"
  let folders ← newListOf []
  let rec go : (fuel : Nat) → Exec Obj
    | 0 => pure noneObj
    | fuel + 1 => do
      match ← inFrame (place 1470) (nextOrEnd it) with
      | none => specOfFolders name folders
      | some entry => do
        let spec ← holding entry do
          if ← inFrame (place 1471)
              (do isInstanceOfNamed entry "str" (← isA entry .str)) then do
            let finder ← inFrame (place 1473) (finderFor entry)
            holding finder do
              if finder = noneObj then pure noneObj else askPlaceFinder finder name
          else pure noneObj
        if spec = noneObj then go fuel
        else
          match ← Exec.outcome (inFrame (place 1481) (isNoneAttr spec "loader")) with
          | .ok false => pure spec
          | .ok true => do
            holding spec (addParts spec folders)
            go fuel
          | .error r => do
            release spec
            throw r
  holding folders (go walkFuel)

/-! ## Folders as modules -/

/-- The places that the places of folders were found in: the search path, or the places of the
module that they are a part of. -/
def outerPlaces (name : Obj) : Exec Obj :=
  inFrame (filePlace 1295 "_get_parent_path") do
    let parent := (splitName (← pathText name)).1
    let (parent, attr) := if parent = "" then ("sys", "path") else (parent, "__path__")
    let key ← newText parent
    let m ← holding key (seenItem key)
    holding m do
      let args : Exec (List Obj) := do pure [← newRef m, ← newText attr]
      byBuiltin "getattr" args (getAttr m attr)

/-- An attribute of the places of folders. -/
def placesAttr (places : Obj) (name : String) : Exec Obj := do
  refOrNone ((← get).attr? places name)

mutual

/-- The places as a tuple. -/
def placesTuple (fuel : Nat) (o : Obj) : Exec Obj := do
  match fuel with
  | 0 => pure emptyTuple
  | fuel + 1 => do
    byBuiltin "tuple" (do pure [← newRef o]) do
      let it ← placesIterator fuel o
      let items ← holding it (collectFrom it walkFuel #[])
      newTupleOf items.toList

/-- An iterator over places. Those of folders are looked for again first, where the places that they
were found in have changed. -/
def placesIterator (fuel : Nat) (o : Obj) : Exec Obj := do
  match fuel with
  | 0 => iteratorOf o
  | fuel + 1 => do
    if (← classOf o) ≠ Builtin.namespacePath.obj then iteratorOf o
    else
      let it ← inFrame (filePlace 1312 "__iter__") do
        let place (line : Nat) : Frame := filePlace line "_recalculate"
        let name ← placesAttr o "_name"
        let last ← placesAttr o "_last_parent_path"
        holdingAll [name, last] do
          let outer ← inFrame (place 1299) do
            let outer ← outerPlaces name
            holding outer (placesTuple fuel outer)
          holding outer do
            if ← inFrame (place 1300) do truthOf (← innerCompare .ne outer last) then
              let it ← iteratorOf outer
              let spec ← inFrame (place 1301) (holding it (searchFrom name it))
              holding spec do
                if ← inFrame (place 1304) (isNoneAttr spec "loader") then
                  if ← inFrame (place 1305) (attrTruth spec partsAttr) then
                    storeAttr o "_path" (← inFrame (place 1306) (getAttr spec partsAttr))
              storeAttr o "_last_parent_path" (← newRef outer)
        let path ← placesAttr o "_path"
        holding path (byBuiltin "iter" (do pure [← newRef path]) (iteratorOf path))
      if ← isIterator it then pure it
      else do
        let t ← typeName it
        release it
        throwNew .typeError ("iter() returned non-iterator of type '" ++ clip 100 t ++ "'")

end

/-- The depth to which folders can stand in each other as modules. -/
def nestingFuel : Nat := 64

/-- The places of folders that are a module. -/
def newFolderPlaces (name folders : Obj) : Exec Obj := do
  let outer ← outerPlaces name
  let last ← holding outer (placesTuple nestingFuel outer)
  [name, folders].forM incref
  alloc Builtin.namespacePath.obj .plain
    [("_name", name), ("_path", folders), ("_last_parent_path", last), ("_last_epoch", ← newInt 0),
      ("_path_finder", noneObj)]

/-- What a path, or else the search path, has for the name of a module; none if it has nothing. -/
def findOnPath (name path : Obj) : Exec Obj := do
  let place (line : Nat) : Frame := filePlace line "find_spec"
  let path ←
    if path = noneObj then inFrame (place 1503) (neededSetting "path") else newRef path
  let spec ← inFrame (place 1504) do
    let it ← inFrame (filePlace 1470 "_get_spec")
      (holding path (placesIterator nestingFuel path))
    holding it (searchFrom name it)
  let asFolders : Exec Bool := do
    if !(← inFrame (place 1507) (isNoneAttr spec "loader")) then pure true
    else do
      let folders ← inFrame (place 1508) (getAttr spec partsAttr)
      holding folders do
        if ← inFrame (place 1509) (truth folders) then do
          inFrame (place 1512) (changeAttr spec "origin" (some noneObj))
          inFrame (place 1513) do
            let places ← inFrame (filePlace 1279 "__init__") (newFolderPlaces name folders)
            holding places (changeAttr spec partsAttr (some places))
          pure true
        else pure false
  match ← Exec.outcome asFolders with
  | .ok true => pure spec
  | .ok false => do
    release spec
    pure noneObj
  | .error r => do
    release spec
    throw r

end Embedder.Machine
