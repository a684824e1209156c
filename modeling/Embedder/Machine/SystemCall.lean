import Embedder.Machine.MathCall
import Embedder.Machine.TraceText

/-!
# Calls of the functions of built-in modules

What the functions of the interpreter's own module and those for tracebacks make of arguments. The
ones that nothing here depends on only check them.
-/

namespace Embedder.Machine

/-! ## The end of the process -/

/-- Ask for the end of the process. -/
def requestExit (status : Option Obj) : Exec Obj := do
  let args ← argsFor status
  let e ← makeError Builtin.systemExit.obj args
  throw ⟨e, []⟩
where
  /-- The arguments that a status stands for. -/
  argsFor (status : Option Obj) : Exec (List Obj) := do
    match status.filter (· ≠ noneObj) with
    | none => pure []
    | some s =>
      match ← payloadOf s with
      | .tuple slots => pure (slotItems slots)
      | _ => pure [s]

/-- Ask for the end of the process by name, as one does by hand. -/
def requestExitByName (args : List Obj) : Exec Obj := do
  if 1 < args.length then
    badCallOf ("Quitter.__call__() takes from 1 to 2 positional arguments but " ++
      s!"{args.length + 1} were given")
  inFrame (.place "<frozen _sitebuiltins>" 26 "__call__") do
    let e ← makeError Builtin.systemExit.obj [args.headD noneObj]
    throw ⟨e, []⟩

/-! ## Settings -/

/-- Write what an exception showed to a hook. -/
def writeShownIgnored (args : Obj) : Exec Obj := do
  let c ← cellOf args
  if c.cls ≠ Builtin.unraisableArgs.obj then
    badCallOf "sys.unraisablehook argument type must be UnraisableHookArgs"
  let attrs := (← get).attrsOf c
  let part (name : String) : Obj := (attrs.lookup name).getD noneObj
  let frames ← match ← payloadOf (part "exc_traceback") with
    | .traceback frames => pure frames
    | _ => pure []
  if ← writeIgnored ignoredFront (part "object") (part "exc_value") frames then pure noneObj
  else throwNew .runtimeError "lost sys.stderr"

/-- Show a value, and keep it under a name of its own. -/
def display (o : Obj) : Exec Obj := do
  if o ≠ noneObj then
    let w ← get
    storeAttr w.builtins "_" noneObj
    match ← setting? "stdout" with
    | none => throwNew .runtimeError "lost sys.stdout"
    | some file => do
      incref file
      holding file do
        writeShown file (innerRepr o)
        write file "\n"
    incref o
    storeAttr w.builtins "_" o
  pure noneObj

/-- A text as one that is kept once and for all. -/
def interned (o : Obj) : Exec Obj := do
  let t ← typeName o
  if (← classOf o) = Builtin.str.obj then newRef o
  else if ← isA o .str then badCallOf ("can't intern " ++ clip 400 t)
  else
    badCallOf ("intern() argument must be str, not " ++
      clip 50 (if o = noneObj then "None" else t))

/-- An object as a number for a setting: 32 bits. -/
def asInt32 (o : Obj) : Exec Int := do
  let i ← asIndex o
  if -(2 ^ 31) ≤ i ∧ i < 2 ^ 31 then pure i
  else throwNew .overflowError "Python int too large to convert to C int"

/-- Change a setting that is a number; refused if it is not as it should be. -/
def setNumber (o : Obj) (isGood : Int → Bool) (refusal : String) : Exec Obj := do
  let i ← asInt32 o
  if isGood i then pure noneObj else throwNew .valueError refusal

/-- Start to look for errors by hand, which takes no arguments. -/
def enterDebugger (args : List Obj) : Exec Obj := do
  if !args.isEmpty then
    let given := if args.length = 1 then "1 was" else s!"{args.length} were"
    badCallOf ("set_trace() takes 0 positional arguments but " ++ given ++ " given")
  pure noneObj

/-- What a function of the interpreter's own module makes of arguments. -/
def callSystemFunction (name : String) (args : List Obj) : Exec Obj :=
  match name, args with
  | "exit", args => requestExit args.head?
  | "excepthook", [_, value, trace] => do
    let frames ← match ← payloadOf trace with
      | .traceback frames => pure frames
      | _ => pure []
    displayRaised value frames
    pure noneObj
  | "unraisablehook", [o] => writeShownIgnored o
  | "displayhook", [o] => display o
  | "getrecursionlimit", _ => newInt 1000
  | "get_int_max_str_digits", _ => newInt 4300
  | "getdlopenflags", _ => newInt 2
  | "get_coroutine_origin_tracking_depth", _ => newInt 0
  | "getswitchinterval", _ => newFloat ⟨0x3f747ae147ae147b⟩
  | "getdefaultencoding", _ | "getfilesystemencoding", _ => newText "utf-8"
  | "getfilesystemencodeerrors", _ => newText "surrogateescape"
  | "is_finalizing", _ => pure falseObj
  | "exc_info", _ => newTupleOf [noneObj, noneObj, noneObj]
  | "getrefcount", [o] => do newInt (← cellOf o).refs
  | "intern", [o] => interned o
  | "setrecursionlimit", [o] =>
    setNumber o (1 ≤ ·) "recursion limit must be greater or equal than 1"
  | "setdlopenflags", [o] => setNumber o (fun _ => true) ""
  | "set_coroutine_origin_tracking_depth", [o] => setNumber o (0 ≤ ·) "depth must be >= 0"
  | "set_int_max_str_digits", [o] =>
    setNumber o (fun i => i = 0 || 640 ≤ i) "maxdigits must be 0 or larger than 640"
  | "setswitchinterval", [o] => do
    if Double.lt Double.zero (← asFloat o) then pure noneObj
    else throwNew .valueError "switch interval must be strictly positive"
  | "_getframe", args => do
    let _ ← args.mapM asInt32
    throwNew .valueError "call stack is not deep enough"
  | "audit", [] => badCallOf "audit() missing 1 required positional argument: 'event'"
  | "call_tracing", [f, args] => do
    match ← payloadOf args with
    | .tuple slots => callObj f (slotItems slots)
    | _ => do
      let t ← typeName args
      badCallOf ("call_tracing() argument 2 must be tuple, not " ++ clip 50 t)
  | "set_asyncgen_hooks", o :: _ => do
    if o ≠ noneObj && !(← get).isCallable o then
      let t ← typeName o
      badCallOf ("callable firstiter expected, got " ++ clip 50 t)
    pure noneObj
  | "breakpointhook", args => enterDebugger args
  | "__interactivehook__", _ :: _ => do
    let given := if args.length = 1 then "1 was" else s!"{args.length} were"
    badCallOf ("enablerlcompleter.<locals>.register_readline() takes 0 positional arguments but " ++
      given ++ " given")
  | _, _ => pure noneObj

/-! ## All modules -/

/-- Call a function of a built-in module. -/
def callBuiltin (moduleName name : String) (args : List Obj) : Exec Obj := do
  (arityOf? moduleName name).toList.forM (·.check moduleName name args.length)
  match moduleName with
  | "builtins" =>
    if name ∈ ["exit", "quit"] then requestExitByName args
    else if name ∈ words "copyright credits license" && !args.isEmpty then
      badCallOf ("_Printer.__call__() takes 1 positional argument but " ++
        s!"{args.length + 1} were given")
    else if name = "breakpoint" then enterDebugger args
    else callBuiltinFunction name args
  | "math" => callMathFunction name args
  | "sys" => callSystemFunction name args
  | "traceback" =>
    match args with
    | [] => badCallOf "format_tb() missing 1 required positional argument: 'tb'"
    | [o] | [o, _] => formatTrace o
    | args =>
      badCallOf s!"format_tb() takes from 1 to 2 positional arguments but {args.length} were given"
  | _ => pure noneObj

end Embedder.Machine
