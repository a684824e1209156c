import Embedder.Machine.Import

/-!
# Tracebacks as texts

The lines of a traceback, one for each place, as many as a setting allows. The source of a place is
looked for, though there is none to be found: so a traceback has no text where that search fails.
-/

namespace Embedder.Machine

/-- The number of places that a setting allows; nothing if it allows all. -/
def placesAllowed : Exec (Option Nat) := do
  let refuse : Exec (Option Nat) :=
    throwNew .valueError
      "Stop argument for islice() must be None or an integer: 0 <= x <= sys.maxsize."
  let limit ← attrOr (← get).system "tracebacklimit" noneObj
  holding limit do
    if limit = noneObj then pure none
    else if ← answerIs .lt (← newRef limit) 0 then pure (some 0)
    else
      match (← get).intValue? limit with
      | some i => if i < 2 ^ 63 then pure (some i.toNat) else refuse
      | none => refuse

/-- Whether an error says that an object is not what a path could be. -/
def isNoPath (r : Raised) : Exec Bool := isCaughtByAny ["TypeError", "AttributeError"] r

/-- The text of a place in the file system that an entry of the search path stands for, where it
stands for one. -/
def entryPath? (o : Obj) : Exec (Option (Obj × Points)) := do
  match ← payloadOf o with
  | .str s => do
    incref o
    pure (some (o, s))
  | _ =>
    let given : Exec (Option Obj) := callQuietly o "__fspath__" []
    match ← recover given isNoPath (pure none) with
    | none => pure none
    | some r =>
      match ← payloadOf r with
      | .str s => pure (some (r, s))
      | _ => do
        release r
        pure none

/-- Check what separates the parts of a path, which depends on whether it is a byte string. -/
def checkSeparator (path : Obj) : Exec Unit := do
  if ← isInstanceOfNamed path "bytes" false then
    throwNew .typeError "startswith first arg must be str or a tuple of str, not bytes"

/-- Check that the parts of a path are texts or byte strings. -/
def checkPartKinds (parts : List Obj) : Exec Unit :=
  parts.forM fun o => do
    if !(← isInstanceOfNamed o "str" true) then
      if !(← isInstanceOfNamed o "bytes" false) then
        throwNew .typeError "join() argument must be str, bytes, or os.PathLike object"

/-- Go through the parts that come behind the path of a folder. -/
def walkParts (name : Obj) : Exec Unit := do
  match ← standIn? "map" with
  | none => pure ()
  | some f => do
    let reader ← newBuiltin "posix" "fspath"
    incref name
    let parts ← newTupleOf [name]
    let walked ← holdingAll [reader, parts] (callObj f [reader, parts])
    holding walked (forEach walked () fun _ part => do
      let test ← getAttr part "startswith"
      let separator ← newText "/"
      release (← holdingAll [test, separator] (callObj test [separator])))

/-- Whether a name can be put behind the path of a folder. -/
def isJoinable (folder name : Obj) : Exec Bool := do
  let joins : Exec Bool := do
    let isBytes ← isInstanceOfNamed folder "bytes" false
    let walk : Exec Bool := do
      if isBytes then throwNew .typeError "startswith first arg must be str"
      walkParts name
      pure true
    match ← Exec.outcome walk with
    | .ok b => pure b
    | .error r => do
      if ← isCaughtByAny ["TypeError", "AttributeError", "BytesWarning"] r then
        checkPartKinds [folder, name]
      throw r
  recover joins isNoPath (pure false)

/-- Look for the source of a place on the search path, in vain. -/
def searchSource (file : String) : Exec Unit := do
  let name ← newText file
  holding name do
    checkSeparator name
    let path ← neededSetting "path"
    holding path do
      forEach path () fun _ entry => do
        match ← entryPath? entry with
        | some (o, s) =>
          holding o do
            if ← isJoinable o name then checkPath o s
        | none => pure ()

/-! ## The lines of files

The source of a place is asked for line by line. That of a module's file comes from what loaded the
module, and there is none; the formatter knows such a file from the first time on, by a note of
length one. That of another place is looked for on the search path. -/

/-- The note on a file that the formatter knows. -/
def newFileNote : Exec Obj := do newTupleOf [noneObj]

/-- Whether the length of a note on a file is one. -/
def isNoteShort (relation : Comparison) : Exec Bool := do
  let note ← newFileNote
  holding note do answerIs relation (← lengthBy note 1) 1

/-- Whether a file has a name that stands for no file. -/
def isNameless (file : String) : Bool := file.startsWith "<" && file.endsWith ">"

/-- Let the formatter know the file of a place, if what loaded its module can give its source. -/
def noteFile (f : Frame) : Exec Unit := do
  let w ← get
  if f.file ∈ w.knownFiles then
    let _ ← isNoteShort .eq
  else if isNameless f.file then pure ()
  else
    match f.home with
    | none => pure ()
    | some m =>
      let loader := (w.attr? m "__loader__").getD noneObj
      let source ← byBuiltin "getattr"
        (do pure [← newRef loader, ← newText "get_source", noneObj]) (pure trueObj)
      if ← truthOf source then
        modify fun w => { w with knownFiles := w.knownFiles ++ [f.file] }

/-- Check that the note on a file is one that is not filled in. -/
def checkNote (file : String) : Exec Unit := do
  if file ∈ (← get).knownFiles then
    if !(← isNoteShort .eq) then
      throwNew .valueError "not enough values to unpack (expected 4, got 1)"

/-- The line of a place as the formatter finds it out. -/
def findLine (f : Frame) : Exec Frame := do
  match ← standIn? "next" with
  | none => pure f
  | some g => do
    let positions ← newListOf []
    let found ← holding positions (callObj g [positions])
    holding found do
      match ← payloadOf found with
      | .tuple items =>
        match slotItems items with
        | [line, _, _, _] =>
          match (← get).intValue? line with
          | some i => pure { f with line := i.toNat }
          | none => pure f
        | _ => throwNew .valueError "not enough values to unpack"
      | _ => throwNew .typeError "object is not subscriptable"

/-- Let the formatter know the files of some places, of which it keeps the names in a set. -/
def noteFiles (frames : List Frame) : Exec Unit := do
  match ← standIn? "set" with
  | none => do
    frames.forM noteFile
    (frames.map (·.file)).eraseDups.forM checkNote
  | some f => do
    let names ← callObj f []
    holding names do
      frames.forM fun f => do
        let add ← getAttr names "add"
        let name ← newText f.file
        release (← holdingAll [add, name] (callObj add [name]))
        noteFile f
      forEach names () fun _ name => do
        let _ ← hashOf name
        checkNote (((← get).textOf? name).getD "")

/-- Ask for the text of a file, of which there is nothing. -/
def askText (file : String) : Exec Unit := do
  let isKnown : Exec Bool := do pure (file ∈ (← get).knownFiles)
  if ← isKnown then
    if ← isNoteShort .ne then throwNew .indexError "tuple index out of range"
    if ← isNoteShort .ne then
      modify fun w => { w with knownFiles := w.knownFiles.filter (· ≠ file) }
  if isNameless file then pure ()
  else
    let name ← newText file
    holding name (recover (noFile name) (isCaught "OSError") (pure ()))
    let isNoted ← if ← isKnown then isNoteShort .eq else pure false
    if !isNoted then searchSource file

/-- Ask for the line of a place in its file, of which there is nothing. -/
def askLine (f : Frame) : Exec Unit := do
  askText f.file
  let lines ← newListOf []
  if ← holding lines do answerIs .ge (← lengthBy lines 0) f.line then
    throwNew .indexError "list index out of range"

/-- What the module that writes tracebacks keeps under names of its own and works with. A script
that puts something else there has nothing that would do. -/
def formatterParts : List String := words
  ("extract_tb StackSummary FrameSummary linecache itertools collections " ++
    "_walk_tb_with_full_positions _get_code_position")

/-- The lines of a traceback, as a list of texts. -/
def formatTrace (o : Obj) : Exec Obj := do
  let w ← get
  match w.modules.lookup "traceback" with
  | some m =>
    match formatterParts.findSome? (w.attr? m) with
    | some part => do
      let t ← typeName part
      throwNew .typeError ("'" ++ clip 200 t ++ "' object is not callable")
    | none => pure ()
  | none => pure ()
  match ← payloadOf o with
  | .traceback frames => do
    let frames := match ← placesAllowed with
      | none => frames
      | some n => frames.take n
    let frames ← frames.mapM findLine
    noteFiles frames
    frames.forM askLine
    let lines ← (traceLines frames).mapM fun l => newText l.text
    newListOf lines
  | _ => newListOf []

end Embedder.Machine
