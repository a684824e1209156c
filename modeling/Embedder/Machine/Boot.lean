import Embedder.Machine.Call

/-!
# Bringing an interpreter up

An interpreter comes up with the objects that are always there, the built-in names, its own settings
and the modules that everything needs.
-/

namespace Embedder.Machine

/-- An interpreter that was never up. -/
def World.down : World where
  up := false
  generation := 0
  busy := false
  heap := #[]
  atStart := 0
  modules := []
  loaded := []
  tableView := noneObj
  system := noneObj
  builtins := noneObj
  formatter := noneObj
  knownFiles := []
  inRepr := []
  depth := 0
  waiting := []
  slots := []
  notes := []
  errors := ""
  notices := []

/-! ## Built-in names -/

/-- The built-in functions. -/
def builtinFunctions : List String :=
  words ("__build_class__ __import__ abs all any ascii bin breakpoint callable chr compile " ++
    "delattr dir divmod eval exec format getattr globals hasattr hash hex id input isinstance " ++
    "issubclass iter aiter len locals max min next anext oct ord pow print repr round setattr " ++
    "sorted sum vars")

/-- The built-in functions that come after the classes. -/
def laterFunctions : List String := words "open quit exit copyright credits license help"

/-- The built-in classes that have a built-in name, without the exceptions. -/
def namedClasses : List Builtin :=
  [.bool, .memoryview, .bytearray, .bytes, .classmethod, .complex, .dict, .enumerate, .filter,
    .float, .frozenset, .property, .int, .list, .map, .object, .range, .reversed, .set, .slice,
    .staticmethod, .str, .super, .tuple, .typeClass, .zip]

/-- The names of the built-in module, in the order in which they are looked through for one that is
like another. -/
def builtinNames : List (String × Exec Obj) :=
  let functions (names : List String) := names.map fun n => (n, newBuiltin "builtins" n)
  let values (entries : List (String × Obj)) := entries.map fun e => (e.1, pure e.2)
  let classes (cs : List Builtin) := values (cs.map fun c => (c.name, c.obj))
  functions builtinFunctions ++
    values [("None", noneObj), ("Ellipsis", ellipsisObj), ("NotImplemented", notImplementedObj),
      ("False", falseObj), ("True", trueObj)] ++
    classes namedClasses ++
    values [("__debug__", trueObj)] ++
    classes (Builtin.all.filter Builtin.isException) ++
    values [("EnvironmentError", Builtin.osError.obj), ("IOError", Builtin.osError.obj)] ++
    functions laterFunctions

/-! ## Settings -/

/-- The functions of the module with the settings. -/
def systemFunctions : List String :=
  words ("addaudithook audit breakpointhook _clear_type_cache _current_frames " ++
    "_current_exceptions displayhook exception exc_info excepthook exit getdefaultencoding " ++
    "getdlopenflags getallocatedblocks getfilesystemencoding getfilesystemencodeerrors " ++
    "_getquickenedcount getrefcount getrecursionlimit getsizeof _getframe intern " ++
    "is_finalizing setswitchinterval getswitchinterval setdlopenflags setprofile getprofile " ++
    "setrecursionlimit settrace gettrace call_tracing _debugmallocstats " ++
    "set_coroutine_origin_tracking_depth get_coroutine_origin_tracking_depth " ++
    "set_asyncgen_hooks get_asyncgen_hooks unraisablehook get_int_max_str_digits " ++
    "set_int_max_str_digits")

/-- The hooks of which a second name keeps the first state. -/
def keptHooks : List String := words "displayhook excepthook breakpointhook unraisablehook"

/-- A new open text stream of the process. -/
def newStream (name mode : String) : Exec Obj := do
  let shown ← newText name
  let how ← newText mode
  alloc Builtin.textStream.obj .plain [("name", shown), ("mode", how)]

/-- A tuple of which each item has a name. -/
def newRecord (cls : Builtin) (items : List (String × Exec Obj)) : Exec Obj := do
  let items ← items.mapM fun (name, x) => do pure (name, ← x)
  items.forM fun e => incref e.2
  alloc cls.obj (.tuple (items.map fun e => some e.2).toArray) items

/-- Numbers by name. -/
def numbers (values : List (String × Int)) : List (String × Exec Obj) :=
  values.map fun (name, n) => (name, newInt n)

/-- The version of the interpreter. -/
def newVersion : Exec Obj :=
  newRecord .versionInfo
    (numbers [("major", 3), ("minor", 11), ("micro", 2)] ++
      [("releaselevel", newText "final"), ("serial", newInt 0)])

/-- What floats are. -/
def newFloatInfo : Exec Obj :=
  newRecord .floatInfo
    ([("max", newFloat ⟨0x7fefffffffffffff⟩)] ++
      numbers [("max_exp", 1024), ("max_10_exp", 308)] ++
      [("min", newFloat ⟨0x0010000000000000⟩)] ++
      numbers [("min_exp", -1021), ("min_10_exp", -307), ("dig", 15), ("mant_dig", 53)] ++
      [("epsilon", newFloat ⟨0x3cb0000000000000⟩)] ++
      numbers [("radix", 2), ("rounds", 1)])

/-- What integers are. -/
def newIntInfo : Exec Obj :=
  newRecord .intInfo
    (numbers [("bits_per_digit", 30), ("sizeof_digit", 4), ("default_max_str_digits", 4300),
      ("str_digits_check_threshold", 640)])

/-- What hashes are. -/
def newHashInfo : Exec Obj :=
  newRecord .hashInfo
    (numbers [("width", 64), ("modulus", hashModulus), ("inf", 314159), ("nan", 0),
        ("imag", 1000003)] ++
      [("algorithm", newText "siphash13")] ++
      numbers [("hash_bits", 64), ("seed_bits", 128), ("cutoff", 0)])

/-- What threads are. -/
def newThreadInfo : Exec Obj :=
  newRecord .threadInfo
    [("name", newText "pthread"), ("lock", newText "semaphore"), ("version", newText "NPTL 2.36")]

/-- The switches that the interpreter came up with. -/
def newFlags : Exec Obj :=
  let off (names : String) : List (String × Exec Obj) := (words names).map fun n => (n, newInt 0)
  newRecord .systemFlags
    (off ("debug inspect interactive optimize dont_write_bytecode no_user_site no_site " ++
        "ignore_environment verbose bytes_warning quiet") ++
      [("hash_randomization", newInt 1), ("isolated", newInt 0), ("dev_mode", pure falseObj)] ++
      off "utf8_mode warn_default_encoding" ++
      [("safe_path", pure falseObj), ("int_max_str_digits", newInt maxIntDigits)])

/-- What the interpreter is. -/
def newImplementation (version : Obj) : Exec Obj := do
  let name ← newText "cpython"
  let tag ← newText "cpython-311"
  let number ← newInt 51053296
  let machine ← newText "x86_64-linux-gnu"
  incref version
  alloc Builtin.simpleNamespace.obj .plain
    [("name", name), ("cache_tag", tag), ("version", version), ("hexversion", number),
      ("_multiarch", machine)]

/-- The hooks that find a finder for a place. -/
def newHooks : Exec Obj := do
  let name := "path_hook_for_FileFinder"
  let hook ← alloc Builtin.function.obj
    (.function name ("FileFinder.path_hook.<locals>." ++ name) .folderHook) []
  newListOf [Builtin.zipImporter.obj, hook]

/-- The finders that are known for the places that the search path starts with: the start itself
had them look at their folders. -/
def newKnownFinders : Exec Obj := do
  let entries ← standardPaths.mapM fun path => do
    let key ← newText path
    let finder ← if path.endsWith ".zip" then pure noneObj
      else do
        let names ← ((folderAt? path).map Folder.entries).getD [] |>.mapM newText
        let seen ← newListOf names
        let names ← holding seen (newSetOf names)
        newFolderFinder key (← newFloat Double.zero) names
    pure (key, finder)
  newDictOf entries

/-- The settings, given the streams for input, output and errors and the version. The ones that
nothing here asks for are none. -/
def systemValues (input output errors version : Obj) : List (String × Exec Obj) :=
  let absent (names : String) : List (String × Exec Obj) :=
    (words names).map fun n => (n, pure noneObj)
  let emptyList (name : String) : String × Exec Obj := (name, newListOf [])
  let emptyDict (name : String) : String × Exec Obj := (name, newDictOf [])
  let text (name value : String) : String × Exec Obj := (name, newText value)
  [emptyDict "modules", ("stderr", newRef errors), ("__stderr__", newRef errors),
    text "version" "3.11.2 (main, Apr 28 2025, 14:11:48) [GCC 12.2.0]",
    ("hexversion", newInt 51053296),
    ("_git", do newTupleOf [← newText "CPython", ← newText "", ← newText ""]),
    text "_framework" "", ("api_version", newInt 1013)] ++
  absent "copyright" ++
  [text "platform" "linux", ("maxsize", newInt (2 ^ 63 - 1)), ("float_info", newFloatInfo),
    ("int_info", newIntInfo), ("hash_info", newHashInfo), ("maxunicode", newInt 0x10ffff)] ++
  absent "builtin_module_names stdlib_module_names" ++
  [text "byteorder" "little", text "abiflags" "", ("version_info", newRef version),
    ("implementation", newImplementation version), ("flags", newFlags),
    text "float_repr_style" "short", ("thread_info", newThreadInfo),
    ("meta_path", newListOf
      ([Builtin.builtinImporter, .frozenImporter, .pathFinder].map Builtin.obj)),
    ("path_importer_cache", newKnownFinders), ("path_hooks", newHooks),
    ("path", do newListOf (← standardPaths.mapM newText)),
    text "executable" "/usr/bin/python3", text "_base_executable" "/usr/bin/python3",
    text "prefix" "/usr", text "base_prefix" "/usr", text "exec_prefix" "/usr",
    text "base_exec_prefix" "/usr", text "platlibdir" "lib", ("pycache_prefix", pure noneObj),
    ("argv", do newListOf [← newText ""]), emptyList "orig_argv", emptyList "warnoptions",
    emptyDict "_xoptions", text "_stdlib_dir" "/usr/lib/python3.11",
    ("dont_write_bytecode", pure falseObj), ("__stdin__", newRef input), ("stdin", newRef input),
    ("__stdout__", newRef output), ("stdout", newRef output),
    ("__interactivehook__", newBuiltin "sys" "__interactivehook__")]

/-- Give the module with the settings what it holds. -/
def fillSystem (m : Obj) : Exec Unit := do
  define m (systemFunctions.map fun n => (n, newBuiltin "sys" n))
  keptHooks.forM fun name => do
    let hook ← refOrNone ((← get).attr? m name)
    storeAttr m ("__" ++ name ++ "__") hook
  let input ← newStream "<stdin>" "r"
  let output ← newStream "<stdout>" "w"
  let errors ← newStream "<stderr>" "w"
  let version ← newVersion
  define m (systemValues input output errors version)
  releaseList [input, output, errors, version]

/-! ## The start -/

/-- Put a module into the module table and describe it. One more reference to it is held: by the
interpreter, if `kept` says so, or by its own functions. -/
def enterModule (kept : Bool) (name : String) (m : Obj) (describe : Obj → Exec Obj)
    (values : List (String × Exec Obj)) : Exec Unit := do
  incref m
  if !kept then modify fun w => { w with loaded := m :: w.loaded }
  let key ← newText name
  let spec ← holding key (describe key)
  initModule spec m
  release spec
  document m name
  define m values
  putModule name m

/-- A new module in the module table, by a description for its name. -/
def newStandardModule (kept : Bool) (name : String) (describe : Obj → Exec Obj)
    (values : List (String × Exec Obj)) : Exec Obj := do
  let m ← newModule name
  enterModule kept name m describe values
  pure m

/-- The description of a module that was run already. -/
def ranAlready (describe : Obj → Exec Obj) (name : Obj) : Exec Obj := do
  let spec ← describe name
  setInSpec spec "_initializing" falseObj
  pure spec

/-- A module whose code is a part of the interpreter. -/
def newFrozenModule (kept : Bool) (name : String) (values : List (String × Exec Obj)) :
    Exec Obj :=
  newStandardModule kept name (ranAlready newFrozenSpec)
    (("__file__", newText (frozenFile name)) :: values)

/-- The module in which a program starts. -/
def newMain (builtins : Obj) : Exec Unit := do
  let main ← newModule "__main__"
  define main [("__annotations__", newDictOf []), ("__builtins__", newRef builtins),
    ("__loader__", pure Builtin.builtinImporter.obj)]
  putModule "__main__" main

/-- Fill a fresh interpreter. -/
def bootProgram : Exec Unit := do
  let builtins ← newModule "builtins"
  define builtins builtinNames
  modify fun w => { w with builtins := builtins }
  let system ← newStandardModule true "sys" newBuiltinSpec []
  enterModule true "builtins" builtins newBuiltinSpec []
  modify fun w => { w with system := system }
  fillSystem system
  newMain builtins
  let paths ← newFrozenModule false "posixpath" []
  incref paths
  putModule "os.path" paths
  let _ ← newFrozenModule true "os" [("path", newRef paths)]
  let formatter ← newStandardModule false "traceback"
    (ranAlready fun name => specInFile name .formatter (frozenFile "traceback") none)
    [("__builtins__", namespaceOf builtins), ("format_tb", newBuiltin "traceback" "format_tb")]
  modify fun w => { w with
    formatter := formatter
    tableView := (w.attr? system "modules").getD noneObj }

/-- Bring an interpreter up as a generation. -/
def World.boot (generation : Nat) (w : World) : World :=
  let fresh : World :=
    { World.down with
      up := true
      generation := generation
      heap := staticCells.toArray
      slots := w.slots
      notes := w.notes
      errors := w.errors
      notices := w.notices }
  let booted := (bootProgram.run fresh).2
  { booted with up := true, atStart := booted.heap.size }

end Embedder.Machine
