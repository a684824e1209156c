import Embedder.Machine.ClassCall
import Embedder.Machine.SystemCall

/-!
# Calls

Functions, methods, classes and objects with a `__call__` can be called. `Engine.ofDepth` ties the
knot: an engine of some depth calls with the engine of one level less, and the engine of depth zero
raises a recursion error.
-/

namespace Embedder.Machine

/-- Set up a new object by its `__init__`, if it has one; whether it has. -/
def setUpInstance (o : Obj) (args : List Obj) : Exec Bool := do
  match ← callSpecial o "__init__" args with
  | none => pure false
  | some r =>
    holding r do
      if r ≠ noneObj then
        let t ← typeName r
        throwNew .typeError ("__init__() should return None, not '" ++ clip 200 t ++ "'")
      pure true

/-- An instance of a class with no special base: its `__new__` makes an object, and its `__init__`
sets up what is an instance. Without either there is nothing to do with arguments. -/
def newPlainInstance (cls : Obj) (info : ClassInfo) (args : List Obj) : Exec Obj := do
  let w ← get
  match w.member? cls "__new__" with
  | some maker => do
    let o ← callObj maker (cls :: args)
    let w ← get
    if w.isSubclass (w.cell o).cls cls then
      keeping o do
        if !(← setUpInstance o args) && !args.isEmpty then
          throwNew .typeError
            "object.__init__() takes exactly one argument (the instance to initialize)"
    else pure o
  | none =>
    if args.isEmpty || (w.member? cls "__init__").isSome then do
      let o ← alloc cls .plain []
      keeping o do
        let _ ← setUpInstance o args
    else throwNew .typeError (clip 200 info.name ++ "() takes no arguments")

/-- Call a scripted class. -/
def callScriptedClass (cls : Obj) (info : ClassInfo) (args : List Obj) : Exec Obj := do
  let base := (← get).builtinBase lineageFuel cls
  if base.isException then makeError cls args
  else if base = .object then newPlainInstance cls info args
  else do
    let value ← callBuiltinClass base args
    instanceWith cls value

/-- Sort a list in its place. It stays as it was if that fails. -/
def sortList (list : Obj) : Exec Unit := do
  match ← payloadOf list with
  | .list slots => do
    let sorted ← sortObjs (slotItems slots)
    setPayload list (.list (sorted.map some).toArray)
  | _ => pure ()

/-- Whether a text starts with another one; a byte string starts with no text. -/
def startsWith (self start : Obj) : Exec Obj := do
  match ← payloadOf self, ← payloadOf start with
  | .str s, .str t => pure (boolObj (t.isPrefixOf s))
  | _, _ =>
    let kind ← if ← isA self .bytes then pure "bytes" else pure "str"
    let t ← typeName start
    throwNew .typeError
      ("startswith first arg must be " ++ kind ++ " or a tuple of " ++ kind ++ ", not " ++ t)

/-- Call something that a class has from birth, for an object. -/
def callBound (name : String) (self : Obj) (args : List Obj) : Exec Obj :=
  match name, args with
  | "__next__", [] => nextItem self none
  | "__iter__", [] => iteratorOf self
  | "__len__", [] => do newInt (← lengthOf self)
  | "__repr__", [] => do newStr (← innerRepr self)
  | "__str__", [] => do newStr (← innerStr self)
  | "__hash__", [] => do newInt (← hashOf self)
  | "sort", [] => do
    sortList self
    pure noneObj
  | "write", [text] => do
    writeShown self (innerStr text)
    newInt (← lengthOf text)
  | "startswith", [start] => startsWith self start
  | _, _ => pure noneObj

/-- Call a function that is not behind a method. -/
def callPlain (f : Obj) (args : List Obj) : Exec Obj := do
  match ← payloadOf f with
  | .function name qualifiedName (.script body) => runScript f name qualifiedName body args
  | .function _ _ (.program p home) => callProgram p home args
  | .function _ _ (.body b home) => callClassBody b home args
  | .function _ _ .folderHook => folderFinderFor (args.headD noneObj)
  | .builtinFunction moduleName name => callBuiltin moduleName name args
  | .bound _ name self => callBound name self args
  | .builtinClass c => callBuiltinClass c args
  | .cls info => callScriptedClass f info args
  | .unbound target => callObj target args
  | _ =>
    match ← callSpecial f "__call__" args with
    | some r => pure r
    | none => do
      let t ← typeName f
      throwNew .typeError ("'" ++ clip 200 t ++ "' object is not callable")

/-- Call an object with some arguments. -/
def callObject (f : Obj) (args : List Obj) : Exec Obj := do
  match ← payloadOf f with
  | .method g self => callPlain g (self :: args)
  | _ => callPlain f args

/-- The next item of an iterator: a generator runs on to it. -/
def advanceIterator (it : Obj) : Exec (Option Obj) := do
  match ← payloadOf it with
  | .generator rest _ => resumeGenerator it rest
  | .zipped .. | .mapped .. | .filtered .. | .calls _ => nextOfPipeline it
  | _ => nextOf? it

/-- The text of an object as code would write it; modules say where they come from. -/
def showObject (o : Obj) : Exec Points := do
  match ← payloadOf o with
  | .moduleNamed _ => moduleRepr o
  | _ => reprPoints o

/-- The text of an object for a reader. -/
def tellObject (o : Obj) : Exec Points := do
  match ← payloadOf o with
  | .moduleNamed _ => moduleRepr o
  | _ => strPoints o

/-- Raise a recursion error. -/
def tooDeep {α : Type} (doing : String) : Exec α :=
  throwNew .recursionError ("maximum recursion depth exceeded " ++ doing)

/-- The engine at the end of the recursion. -/
def Engine.exhausted : Engine where
  call _ _ := refuse "while calling a Python object"
  repr _ := refuse "while getting the repr of an object"
  str _ := refuse "while getting the str of an object"
  compare _ _ _ := refuse "in comparison"
  advance _ := refuse "while calling a Python object"
  report _ _ := pure ()
where
  /-- An engine that does nothing. -/
  idle : Engine :=
    ⟨fun _ _ => pure noneObj, fun _ => pure [], fun _ => pure [], fun _ _ _ => pure noneObj,
      fun _ => pure none, fun _ _ => pure ()⟩
  /-- Raise without an engine. -/
  refuse {α : Type} (doing : String) : Core α := (tooDeep doing : Exec α) idle

/-- The engine that can call back to a depth. -/
def Engine.ofDepth : Nat → Engine
  | 0 => Engine.exhausted
  | n + 1 =>
    { call := fun f args => callObject f args (Engine.ofDepth n)
      repr := fun o => showObject o (Engine.ofDepth n)
      str := fun o => tellObject o (Engine.ofDepth n)
      compare := fun op a b => compareObjs op a b (Engine.ofDepth n)
      advance := fun it => advanceIterator it (Engine.ofDepth n)
      report := fun o r => reportIgnored o r (Engine.ofDepth n) }

/-- The depth to which calls may be nested. -/
def recursionLimit : Nat := 1000

/-- Run a program from outside of Python code. -/
def Exec.run {α : Type} (x : Exec α) (w : World) : Except Raised α × World :=
  (x (Engine.ofDepth recursionLimit)).run w

end Embedder.Machine
