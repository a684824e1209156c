import Embedder.Machine.Docs
import Embedder.Machine.ModuleSpec

/-!
# Loading modules

A described module is made, told where it comes from, put into the module table and run by its
loader. What fails leaves the table; what succeeds moves to its end, whatever stands there then. The
interpreter's own loaders make modules of its own parts and run files; any other object loads by its
methods, in the old way or in the new one.
-/

namespace Embedder.Machine

/-- Run a program and then another, however the first turned out. What the second raises remembers
what the first did. -/
def andFinally {α : Type} (x : Exec α) (y : Exec Unit) : Exec α := do
  match ← Exec.outcome x with
  | .ok a => do
    y
    pure a
  | .error r =>
    match ← Exec.outcome y with
    | .ok () => throw r
    | .error later => do
      keepTrace r.value r.frames
      whileHandling r.value (throw later)

/-- Check whether the interpreter says what it does, by its setting for that; it says nothing. -/
def checkVerbose : Exec Unit :=
  inFrame (importPlace 246 "_verbose_message") do
    let flags ← neededSetting "flags"
    let level ← holding flags (getAttr flags "verbose")
    let one ← newInt 1
    let _ ← truthOf (← holding level (innerCompare .ge level one))

/-! ## The interpreter's own modules -/

/-- The modules that are a part of the interpreter. -/
def builtinModules : List String := ["builtins", "math", "sys"]

/-- The modules whose code is a part of the interpreter. -/
def frozenModules : List String := ["os", "posixpath"]

/-- The functions of the module of mathematics. -/
def mathFunctions : List String :=
  words ("acos acosh asin asinh atan atan2 atanh cbrt ceil comb copysign cos cosh degrees dist " ++
    "erf erfc exp exp2 expm1 fabs factorial floor fmod frexp fsum gamma gcd hypot isclose " ++
    "isfinite isinf isnan isqrt lcm ldexp lgamma log log10 log1p log2 modf nextafter perm " ++
    "pow prod radians remainder sin sinh sqrt tan tanh trunc ulp")

/-- What a built-in module defines. -/
def builtinValues : String → List (String × Exec Obj)
  | "math" =>
    mathFunctions.map (fun f => (f, newBuiltin "math" f)) ++
    [("pi", newFloat ⟨0x400921fb54442d18⟩), ("e", newFloat ⟨0x4005bf0a8b145769⟩),
      ("tau", newFloat ⟨0x401921fb54442d18⟩), ("inf", newFloat ⟨0x7ff0000000000000⟩),
      ("nan", newFloat ⟨0x7ff8000000000000⟩)]
  | _ => []

/-- What the interpreter gives again to one of its two own modules that is loaded once more. -/
def coreValues (w : World) (name : String) : List (String × Exec Obj) :=
  let kept : List (String × Obj) := match name with
    | "sys" => (w.attrsOf (w.cell w.system)).takeWhile (·.1 ≠ "meta_path")
    | "builtins" => w.attrsOf (w.cell w.builtins)
    | _ => []
  let own := words "__name__ __doc__ __package__ __loader__ __spec__"
  (kept.filter (·.1 ∉ own)).map fun e => (e.1, newRef e.2)

/-- Let a module say what it is. -/
def document (m : Obj) (name : String) : Exec Unit := do
  match moduleDoc? name with
  | some doc => do
    let text ← newText doc
    storeAttr m "__doc__" text
  | none => pure ()

/-- The file that the code of a module was made of that is a part of the interpreter. -/
def frozenFile (name : String) : String := "/usr/lib/python3.11/" ++ name ++ ".py"

/-- The description of a module that is a part of the interpreter. -/
def newBuiltinSpec (name : Obj) : Exec Obj := do
  let origin ← newText "built-in"
  holding origin (newSpec name Builtin.builtinImporter.obj origin false)

/-- The description of a module whose code is a part of the interpreter. -/
def newFrozenSpec (name : Obj) : Exec Obj := do
  let origin ← newText "frozen"
  let spec ← holding origin (newSpec name Builtin.frozenImporter.obj origin false)
  let file ← newText (frozenFile (((← get).textOf? name).getD ""))
  incref name
  let state ← alloc Builtin.simpleNamespace.obj .plain [("filename", file), ("origname", name)]
  setInSpec spec "loader_state" state
  pure spec

/-! ## Loaders -/

/-- The class of one of the interpreter's own loaders. -/
def ownLoader? (loader : Obj) : Exec (Option Builtin) := do
  let classes := [Builtin.builtinImporter, .frozenImporter].filter (·.obj = loader)
  let cls ← classOf loader
  let kinds := [Builtin.fileLoader, .compiledLoader, .namespaceLoader].filter (·.obj = cls)
  pure (classes ++ kinds).head?

/-- A new module of a name, which has to be a text. -/
def newModuleNamed (name : Obj) : Exec Obj := do
  match (← get).textOf? name with
  | some text => newModule text
  | none => do
    let t ← typeName name
    let t := if name = noneObj then "None" else t
    throwNew .typeError ("module() argument 'name' must be str, not " ++ clip 50 t)

/-- A new module of a name, by the class that a module says it is of. -/
def newModuleByClass (name : Obj) : Exec Obj := do
  let system := (← get).system
  let cls ← byBuiltin "type" (do pure [← newRef system]) (newRef Builtin.moduleClass.obj)
  holding cls
    (if cls = Builtin.moduleClass.obj then newModuleNamed name else callObj cls [name])

/-- The module that a loader makes, or none. -/
def createModule (loader spec : Obj) : Exec Obj := do
  match ← ownLoader? loader with
  | some .frozenImporter => do
    let name ← getAttr spec "name"
    let m ← holding name (newModuleNamed name)
    storeAttr m "__file__" (← newText (frozenFile (((← get).textOf? name).getD "")))
    pure m
  | some _ => pure noneObj
  | none => do
    let f ← getAttr loader "create_module"
    holding f (callObj f [spec])

/-- A new module by its description, which it is told. -/
def moduleFromSpec (spec : Obj) : Exec Obj := do
  let place (line : Nat) : Frame := importPlace line "module_from_spec"
  let loaderHas (line : Nat) (name : String) : Exec Bool := inFrame (place line) do
    let loader ← getAttr spec "loader"
    holding loader (hasAttr loader name)
  let made ←
    if ← loaderHas 570 "create_module" then
      inFrame (place 573) do
        let loader ← getAttr spec "loader"
        holding loader (createModule loader spec)
    else if ← loaderHas 574 "exec_module" then
      inFrame (place 575) do
        let text ← newText "loaders that define exec_module() must also define create_module()"
        throwNamed "ImportError" [text] []
    else pure noneObj
  let m ←
    if made ≠ noneObj then pure made
    else
      inFrame (place 578) do
        let name ← getAttr spec "name"
        holding name (inFrame (importPlace 49 "_new_module") (newModuleByClass name))
  match ← Exec.outcome (inFrame (place 579) (initModule spec m)) with
  | .ok () => pure m
  | .error r => do
    release m
    throw r

/-- Run code as a module. The module is kept by its own functions from then on. -/
def runAsModule (m : Obj) (x : Exec Unit) : Exec Unit := do
  incref m
  modify fun w => { w with loaded := m :: w.loaded }
  match ← Exec.outcome x with
  | .ok () => pure ()
  | .error r => do
    release m
    throw r

/-- The number of bytes before compiled code in a file. -/
def headerSize : Nat := 16

/-- The number that a word of zeros in such a file stands for. -/
def numberOfWord (word : Obj) : Exec Obj := do
  let place (line : Nat) : Frame := filePlace line "_unpack_uint32"
  if !(← inFrame (place 86) do answerIs .eq (← lengthBy word 4) 4) then
    inFrame (place 86) (throwWith .assertionError [])
  inFrame (place 87) do
    match ← standIn? "int" with
    | none => newInt 0
    | some f =>
      if f = Builtin.bool.obj || ((← get).intValue? f).isSome then newInt 0
      else do
      let read ← getAttr f "from_bytes"
      let order ← newText "little"
      holdingAll [read, order] (callObj read [word, order])

/-- Whether flags of compiled code are set that have no meaning. -/
def hasUnknownFlags (flags : Obj) : Exec Bool := do
  match (← get).intValue? flags with
  | some i => pure (i < 0 || 4 ≤ i)
  | none => do
    let rest ← newInt (-4)
    holding rest do
      match known (← callSpecial flags "__and__" [rest]) with
      | some r => truthOf r
      | none => badOperands "&" flags rest

/-- Go through the header of a file with compiled code. -/
def readHeader (name : String) (data : Obj) : Exec Unit := do
  let place (line : Nat) : Frame := filePlace line "_classify_pyc"
  let isShort ← inFrame (place 663) do answerIs .lt (← lengthBy data headerSize) headerSize
  if isShort then do
    inFrame (place 665) checkVerbose
    inFrame (place 666) do
      let text ← newText ("reached EOF while reading pyc header of " ++ quotedText name)
      throwNamed "EOFError" [text] []
  let flags ← inFrame (place 667) do
    let word ← newBytes (List.replicate 4 0)
    holding word (numberOfWord word)
  holding flags do
    if ← inFrame (place 669) (hasUnknownFlags flags) then
      let text ← newStr
        (pointsOf "invalid flags " ++ (← reprPoints flags) ++ pointsOf " in " ++
          pointsOf (quotedText name))
      inFrame (place 671) (throwWith .importError [text])

/-- Get at the code behind the header of a file with compiled code. -/
def readBody (loader : Obj) (path : String) (data : Obj) : Exec Unit := do
  let place (line : Nat) : Frame := filePlace line "get_code"
  let compilePlace (line : Nat) : Frame := filePlace line "_compile_bytecode"
  let view ← inFrame (place 1202) do
    let view ← byBuiltin "memoryview" (do pure [← newRef data]) (newRef data)
    holding view do
      let t ← typeName view
      match ← payloadOf view with
      | .bytes _ | .str _ | .list _ | .tuple _ | .range .. => pure (view, t)
      | .dict _ => throwNew .typeError "unhashable type: 'slice'"
      | _ => if (← get).isGeneric view then pure (view, "types.GenericAlias") else refuseName view
  inFrame (place 1201) do
    if view.1 ≠ data then
      inFrame (compilePlace 729) do
        if view.2 = "bytes" then throwNew .eofError "EOF read where object expected"
        else
          throwNew .typeError ("a bytes-like object is required, not '" ++ clip 100 view.2 ++ "'")
    let code ← alloc Builtin.code.obj .plain []
    let isCode ← holding code
      (inFrame (compilePlace 730) (isInstanceBy code Builtin.code.obj true))
    if isCode then inFrame (compilePlace 731) checkVerbose
    else
      inFrame (compilePlace 736) do
        let text ← newText ("Non-code object in " ++ quotedText path)
        let own (name : String) : Exec Obj := do refOrNone ((← get).attr? loader name)
        throwNamed "ImportError" [text] [("name", ← own "name"), ("path", ← own "path")]

/-- Run the file that a loader stands for as a module. -/
def runFile (importName : String → Exec Obj) (loader m : Obj) : Exec Unit := do
  let w ← get
  let text (name : String) : String := ((w.attr? loader name).bind w.textOf?).getD ""
  match sourceAt? (text "path") with
  | none => pure ()
  | some source => do
    inFrame (filePlace 936 "exec_module") do release (← getAttr m "__name__")
    if source.isCompiled then
      inFrame (filePlace 936 "exec_module") do
        let _ ← inFrames [filePlace 1193 "get_code", filePlace 1129 "get_data"]
          (isInstanceBy loader emptyTuple false)
        let data ← newBytes (List.replicate headerSize 0)
        holding data do
          inFrame (filePlace 1200 "get_code") (readHeader (text "name") data)
          readBody loader (text "path") data
    inFrame (filePlace 940 "exec_module") do
      match ← standIn? "exec" with
      | none => do
        storeAttr m "__builtins__" (← namespaceOf (← get).builtins)
        inFrame runPlace (source.execute importName (text "name") m)
      | some f =>
        inFrame runPlace do
          let code ← alloc Builtin.code.obj .plain []
          let space ← namespaceOf m
          release (← holdingAll [code, space] (callObj f [code, space]))

/-- Let a loader run a module. -/
def executeModule (importName : String → Exec Obj) (loader m : Obj) : Exec Unit := do
  match ← ownLoader? loader with
  | some .namespaceLoader => pure ()
  | some cls =>
    runAsModule m do
      if cls = .fileLoader || cls = .compiledLoader then runFile importName loader m
      else do
        let w ← get
        let name := ((w.attr? m "__name__").bind w.textOf?).getD ""
        document m name
        define m (builtinValues name ++ coreValues w name)
  | none => do
    let f ← getAttr loader "exec_module"
    release (← holding f (callObj f [m]))

/-! ## Loading -/

/-- A place in the part that loads. -/
def loadPlace (line : Nat) : Frame := importPlace line "_load_unlocked"

/-- Do something with the name that a description gives. -/
def withSpecName {α : Type} (spec : Obj) (x : Obj → Exec α) : Exec α := do
  let name ← getAttr spec "name"
  holding name (x name)

/-- Move a module to the end of the table, whatever is there for it then. -/
def moveToEnd (spec : Obj) (first second : Frame) : Exec Obj := do
  let m ← inFrame first (withSpecName spec popSeen)
  match ← Exec.outcome (inFrame second (withSpecName spec fun name => putSeen name m)) with
  | .ok () => pure m
  | .error r => do
    release m
    throw r

/-- Let a loader load in the old way, by itself. What it leaves in the table is the module, which is
told what it does not know. -/
def loadInOldWay (spec : Obj) : Exec Obj := do
  let place (line : Nat) : Frame := importPlace line "_load_backward_compatible"
  let loading : Exec Unit := inFrame (place 634) do
    let loader ← getAttr spec "loader"
    let f ← holding loader (getAttr loader "load_module")
    release (← holding f (withSpecName spec fun name => callObj f [name]))
  match ← Exec.outcome loading with
  | .ok () => pure ()
  | .error r =>
    andFinally (throw r) do
      if ← inFrame (place 636) (withSpecName spec isSeen) then
        release (← moveToEnd spec (place 637) (place 638))
  let m ← moveToEnd spec (place 642) (place 643)
  let finish : Exec Unit := do
    if ← inFrame (place 644) (lacksAttr m "__loader__") then
      tell place 646 m "__loader__" (getAttr spec "loader")
    if ← inFrame (place 649) (lacksAttr m "__package__") then
      recover
        (do
          let name ← inFrame (place 654) (getAttr m "__name__")
          inFrame (place 654) (holding name (changeAttr m "__package__" (some name)))
          if !(← inFrame (place 655) (hasAttr m "__path__")) then
            inFrame (place 656) do
              let owner ← withSpecName spec ownerName
              holding owner (changeAttr m "__package__" (some owner)))
        (fun r => inFrame (place 657) (isCaught "AttributeError" r)) (pure ())
    if ← inFrame (place 659) (lacksAttr m "__spec__") then
      tell place 661 m "__spec__" (newRef spec)
  match ← Exec.outcome finish with
  | .ok () => pure m
  | .error r => do
    release m
    throw r
where
  /-- The name of the module that a module of a name is a part of. -/
  ownerName (name : Obj) : Exec Obj := do
    match (← get).textOf? name with
    | some text => newText (splitName text).1
    | none => getAttr name "rpartition"

/-- Run a module that stands in the table. -/
def runLoaded (importName : String → Exec Obj) (spec m : Obj) : Exec Unit := do
  if ← inFrame (loadPlace 685) (isNoneAttr spec "loader") then
    if ← inFrame (loadPlace 686) (isNoneAttr spec partsAttr) then
      inFrame (loadPlace 687) do
        let text ← newText "missing loader"
        let name ← getAttr spec "name"
        throwNamed "ImportError" [text] [("name", name)]
  else
    inFrame (loadPlace 690) do
      let loader ← getAttr spec "loader"
      holding loader (executeModule importName loader m)

/-- Load what a description describes. -/
def loadSpec (importName : String → Exec Obj) (spec : Obj) : Exec Obj := do
  let isSpace ← inFrame (loadPlace 668) (isNoneAttr spec "loader")
  let executes ←
    if isSpace then pure true
    else
      inFrame (loadPlace 670) do
        let loader ← getAttr spec "loader"
        holding loader (hasAttr loader "exec_module")
  if !executes then do
    inFrame (loadPlace 671) do
      let loader ← getAttr spec "loader"
      holding loader (objectName loader)
    inFrame (loadPlace 674) (loadInOldWay spec)
  else do
    let m ← inFrame (loadPlace 676) (moduleFromSpec spec)
    holding m do
      inFrame (loadPlace 681) (changeAttr spec "_initializing" (some trueObj))
      andFinally
        (do
          inFrame (loadPlace 683) (withSpecName spec fun name => putSeen name m)
          match ← Exec.outcome (runLoaded importName spec m) with
          | .ok () => pure ()
          | .error r =>
            andFinally (throw r)
              (recover (inFrame (loadPlace 693) (withSpecName spec dropSeen))
                (fun r => inFrame (loadPlace 694) (isCaught "KeyError" r)) (pure ()))
          let o ← moveToEnd spec (loadPlace 701) (loadPlace 702)
          match ← Exec.outcome (inFrame (loadPlace 703) checkVerbose) with
          | .ok () => pure o
          | .error r => do
            release o
            throw r)
        (inFrame (loadPlace 705) (changeAttr spec "_initializing" (some falseObj)))

end Embedder.Machine
