import Embedder.Machine.Iteration

/-!
# New exceptions

`makeError` makes an exception of a class from arguments. Some classes take arguments of certain
kinds only, and many keep what they were given also as fields: the number and the message of a
system error, the place of a syntax error, the code of a request to exit. A system error chooses its
class by its number, and a group of exceptions by what is in it.
-/

namespace Embedder.Machine

/-- The class of an operating system error by its number. -/
def errorOfNumber? : Int → Option Builtin
  | 1 => some .permissionError
  | 2 => some .fileNotFoundError
  | 3 => some .processLookupError
  | 4 => some .interruptedError
  | 10 => some .childProcessError
  | 11 => some .blockingError
  | 13 => some .permissionError
  | 17 => some .fileExistsError
  | 20 => some .notADirectoryError
  | 21 => some .isADirectoryError
  | 32 => some .brokenPipeError
  | 103 => some .connectionAbortedError
  | 104 => some .connectionResetError
  | 108 => some .brokenPipeError
  | 110 => some .timeoutError
  | 111 => some .connectionRefusedError
  | 114 => some .blockingError
  | 115 => some .blockingError
  | _ => none

/-- The class, the arguments and the fields of a new exception; all references are its own. -/
structure ErrorParts where
  cls : Obj
  args : List Obj
  fields : List (String × Obj)

/-- The same objects, each with one more reference. -/
def newRefs (os : List Obj) : Exec (List Obj) := do
  os.forM incref
  pure os

/-- An exception with its arguments and some of them as fields. -/
def keepAs (cls : Obj) (args : List Obj) (fields : List (String × Obj)) : Exec ErrorParts := do
  let args ← newRefs args
  fields.forM fun e => incref e.2
  pure ⟨cls, args, fields⟩

/-! ## Arguments of certain kinds -/

/-- The kinds of arguments that an exception with fixed ones takes. -/
inductive ArgKind where
  | text
  | index
  | object

/-- The argument with a number, as an object of a kind (new). -/
def readArg (n : Nat) (o : Obj) : ArgKind → Exec Obj
  | .text => do
    if ← isA o .str then newRef o
    else do
      let t ← typeName o
      let t := if o = noneObj then "None" else t
      throwNew .typeError ("argument " ++ toString n ++ " must be str, not " ++ clip 50 t)
  | .index => do
    let i ← asIndex o
    if isWord i then newInt i else tooLargeForSize
  | .object => newRef o

/-- Arguments of some kinds, from number `n` on. -/
def readArgs : (n : Nat) → List ArgKind → List Obj → Exec (List Obj)
  | n, k :: ks, o :: os => do
    let a ← readArg n o k
    match ← Exec.outcome (readArgs (n + 1) ks os) with
    | .ok rest => pure (a :: rest)
    | .error r => do
      release a
      throw r
  | _, _, _ => pure []

/-- An exception that keeps arguments of fixed kinds as fields of some names. -/
def fixedParts (cls : Obj) (kinds : List (String × ArgKind)) (args : List Obj) :
    Exec ErrorParts := do
  let n := kinds.length
  if args.length ≠ n then
    throwNew .typeError
      s!"function takes exactly {n} arguments ({args.length} given)"
  else do
    let values ← readArgs 1 (kinds.map (·.2)) args
    let args ← newRefs args
    pure ⟨cls, args, (kinds.map (·.1)).zip values⟩

/-- An error about bytes that could not be decoded. -/
def decodeErrorParts (cls : Obj) (args : List Obj) : Exec ErrorParts := do
  let parts ← fixedParts cls
    [("encoding", .text), ("object", .object), ("start", .index), ("end", .index),
      ("reason", .text)] args
  let subject := (parts.fields.lookup "object").getD noneObj
  if ← isA subject .bytes then pure parts
  else do
    let t ← typeName subject
    releaseList (parts.args ++ parts.fields.map (·.2))
    throwNew .typeError ("a bytes-like object is required, not '" ++ clip 100 t ++ "'")

/-! ## System errors -/

/-- Whether an object is a number or can become one. -/
def isNumberLike (o : Obj) : Exec Bool := do
  match ← payloadOf o with
  | .int _ | .bool _ | .float _ | .complex .. => pure true
  | _ => do
    let names := ["__index__", "__int__", "__float__"]
    let members ← names.mapM (scriptedMember? o)
    pure (members.any Option.isSome)

/-- A system error with a number and a message: the number chooses the class, and files are no
arguments any more. A call that would have blocked has a count of characters in place of a file. -/
def systemErrorParts (cls : Obj) (args : List Obj) : Exec ErrorParts :=
  match args with
  | number :: message :: rest =>
    if 3 < rest.length then keepAs cls args []
    else do
      let cls ←
        if cls = Builtin.osError.obj then do
          let found := (← intValue? number).bind errorOfNumber?
          pure ((found.map Builtin.obj).getD cls)
        else pure cls
      let fields := [("errno", number), ("strerror", message)]
      match (rest[0]?).filter (· ≠ noneObj) with
      | none => keepAs cls args fields
      | some file =>
        if cls = Builtin.blockingError.obj ∧ (← isNumberLike file) then do
          let written ← asSize file .valueError
          let parts ← keepAs cls args fields
          if written = -1 then pure parts
          else do
            let n ← newInt written
            pure { parts with fields := parts.fields ++ [("characters_written", n)] }
        else
          let second := ((rest[2]?).filter (· ≠ noneObj)).map fun o => ("filename2", o)
          keepAs cls [number, message] (fields ++ ("filename", file) :: second.toList)
  | _ => keepAs cls args []

/-! ## Syntax errors -/

/-- The fields that say where a syntax error is. -/
def placeNames : List String :=
  ["filename", "lineno", "offset", "text", "end_lineno", "end_offset"]

/-- A syntax error with a message and, if there is a second argument, with the parts of its
place. -/
def syntaxErrorParts (cls : Obj) (args : List Obj) : Exec ErrorParts :=
  match args with
  | [message, place] => do
    let details ← itemsOf place
    let n := details.length
    let refuse (message : String) : Exec Unit := do
      releaseList details.reverse
      throwNew .typeError message
    if n < 4 then refuse s!"function takes at least 4 arguments ({n} given)"
    else if 6 < n then refuse s!"function takes at most 6 arguments ({n} given)"
    else if n = 5 then refuse "end_offset must be provided when end_lineno is provided"
    let parts ← keepAs cls args [("msg", message)]
    pure { parts with fields := parts.fields ++ placeNames.zip details }
  | args => keepAs cls args ((args.head?.map fun m => ("msg", m)).toList)

/-! ## Groups -/

/-- Whether an object counts as a sequence. -/
def isSequence (o : Obj) : Exec Bool := do
  match ← payloadOf o with
  | .str _ | .bytes _ | .list _ | .tuple _ | .range .. => pure true
  | _ => do pure (← scriptedMember? o "__getitem__").isSome

/-- Check that the members of a group from number `i` on are exceptions; whether all of them are
ordinary ones. -/
def checkMembers : (i : Nat) → List Obj → Exec Bool
  | _, [] => pure true
  | i, o :: rest => do
    if (← get).isException o then do
      let ordinary ← isA o .exception
      let others ← checkMembers (i + 1) rest
      pure (ordinary && others)
    else
      throwNew .valueError s!"Item {i} of second argument (exceptions) is not an exception"

/-- The class of a group: one of ordinary exceptions is an ordinary exception itself. -/
def groupClass (cls : Obj) (ordinary : Bool) : Exec Obj := do
  let w ← get
  if cls = Builtin.baseExceptionGroup.obj then
    pure (if ordinary then Builtin.exceptionGroup.obj else cls)
  else if ordinary ∨ !(w.builtinBase lineageFuel cls).isSubclass .exception then pure cls
  else
    let name := clip 200 (w.className cls)
    let shown :=
      if cls = Builtin.exceptionGroup.obj then "an ExceptionGroup" else "'" ++ name ++ "'"
    throwNew .typeError ("Cannot nest BaseExceptions in " ++ shown)

/-- A group of exceptions. -/
def groupParts (cls : Obj) (args : List Obj) : Exec ErrorParts :=
  match args with
  | [message, members] => do
    if !(← isA message .str) then
      let t ← typeName message
      let t := if message = noneObj then "None" else t
      throwNew .typeError
        ("BaseExceptionGroup.__new__() argument 1 must be str, not " ++ clip 50 t)
    if !(← isSequence members) then
      throwNew .typeError "second argument (exceptions) must be a sequence"
    let os ← itemsOf members
    let checked ← Exec.outcome do
      if os.isEmpty then
        throwNew .valueError "second argument (exceptions) must be a non-empty sequence"
      let ordinary ← checkMembers 0 os
      groupClass cls ordinary
    match checked with
    | .error r => do
      releaseList os.reverse
      throw r
    | .ok cls => do
      let tuple ← newTupleOf os
      let parts ← keepAs cls args [("message", message)]
      pure { parts with fields := parts.fields ++ [("exceptions", tuple)] }
  | args =>
    throwNew .typeError
      s!"BaseExceptionGroup.__new__() takes exactly 2 arguments ({args.length} given)"

/-! ## All exceptions -/

/-- The parts of a new exception of a class. -/
def errorParts (cls : Obj) (args : List Obj) : Exec ErrorParts := do
  let c := (← get).builtinBase lineageFuel cls
  let first (name : String) : List (String × Obj) := (args.head?.map fun a => (name, a)).toList
  if c.isSubclass .unicodeDecodeError then decodeErrorParts cls args
  else if c.isSubclass .unicodeEncodeError then
    fixedParts cls [("encoding", .text), ("object", .text), ("start", .index), ("end", .index),
      ("reason", .text)] args
  else if c.isSubclass .unicodeTranslateError then
    fixedParts cls [("object", .text), ("start", .index), ("end", .index), ("reason", .text)] args
  else if c.isSubclass .baseExceptionGroup then groupParts cls args
  else if c.isSubclass .osError then systemErrorParts cls args
  else if c.isSubclass .syntaxError then syntaxErrorParts cls args
  else if c.isSubclass .importError then
    keepAs cls args (if args.length = 1 then first "msg" else [])
  else if c.isSubclass .stopIteration then keepAs cls args (first "value")
  else if c.isSubclass .systemExit then
    match args with
    | [] | [_] => keepAs cls args (first "code")
    | args => do
      let parts ← keepAs cls args []
      let code ← newTupleOf (← newRefs args)
      pure { parts with fields := [("code", code)] }
  else keepAs cls args []

/-- A new exception of a class with some arguments. -/
def makeError (cls : Obj) (args : List Obj) : Exec Obj := do
  let parts ← errorParts cls args
  let tuple ← newTupleOf parts.args
  alloc parts.cls (.error ⟨tuple, parts.fields, none, none, []⟩) []

/-- Raise the error for a name that stands for nothing. -/
def notDefined {α : Type} (name : String) : Exec α := do
  let message ← newText ("name '" ++ name ++ "' is not defined")
  let shown ← newText name
  throwDetailed .nameError [message] [("name", shown)]

/-- Give an exception a cause, whose reference moves. -/
def setCause (o : Obj) (cause : Option Obj) : Exec Unit := do
  match ← payloadOf o with
  | .error info => do
    setPayload o (.error { info with cause := cause })
    releaseList info.cause.toList
  | _ => releaseList cause.toList

/-- Let an exception keep the places that it passed. -/
def keepTrace (o : Obj) (frames : List Frame) : Exec Unit := do
  match ← payloadOf o with
  | .error info => setPayload o (.error { info with trace := frames })
  | _ => pure ()

/-- The exceptions that were raised one while another was handled are at most this many. -/
def maxContexts : Nat := 1000

/-- The first of the exceptions that were raised before the last one was handled, if none of them
is the exception that is handled already. -/
def firstRaised? (handled : Obj) : Nat → Obj → Exec (Option (Obj × ErrorInfo))
  | 0, _ => pure none
  | fuel + 1, o => do
    if o = handled then pure none
    else match ← payloadOf o with
      | .error info =>
        match info.context with
        | some earlier => firstRaised? handled fuel earlier
        | none => pure (some (o, info))
      | _ => pure none

/-- Do something about an exception, whose reference moves: what that raises remembers it. -/
def whileHandling {α : Type} (handled : Obj) (x : Exec α) : Exec α := do
  match ← Exec.outcome x with
  | .ok a => do
    release handled
    pure a
  | .error r => do
    match ← firstRaised? handled maxContexts r.value with
    | some (o, info) => setPayload o (.error { info with context := some handled })
    | none => release handled
    throw r

/-- An exception from anything that can stand in a raise statement; the reference moves. -/
def raisable (o : Obj) : Exec Obj := do
  let w ← get
  if w.isException o then pure o
  else if w.isExceptionClass o then holding o (makeError o [])
  else do
    release o
    throwNew .typeError "exceptions must derive from BaseException"

/-- Raise an exception, which keeps the places that it passed before; the reference moves. -/
def throwAgain {α : Type} (o : Obj) : Exec α := do
  match ← payloadOf o with
  | .error info => throw ⟨o, info.trace⟩
  | _ => throw ⟨o, []⟩

end Embedder.Machine
