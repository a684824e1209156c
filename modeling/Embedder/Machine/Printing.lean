import Embedder.Machine.Suggest

/-!
# Printing exceptions

An exception that nobody handles is printed on the error stream: its traceback, the place of a
syntax error, its class and text, a suggestion, and its notes, all after the exception that caused
it. The exceptions of a group are printed inside a frame. The stream can be any object with a
`write`: it gets the text piece by piece, and if it fails the rest is not printed.
-/

namespace Embedder.Machine

/-! ## Streams -/

/-- A text for the error stream, which writes surrogates by their numbers. -/
def streamText (s : Points) : String :=
  String.ofList (s.flatMap fun n => if isSurrogate n then escapedPoint n else [Char.ofNat n])

/-- Append to the error output of the process. -/
def addErrors (s : String) : Exec Unit := modify fun w => { w with errors := w.errors ++ s }

/-- The name that an open text stream has. -/
def World.streamName? (w : World) (o : Obj) : Option Points :=
  if (w.cell o).cls = Builtin.textStream.obj then
    match (w.attr? o "name").map fun n => (w.cell n).payload with
    | some (.str s) => some s
    | _ => none
  else none

/-- Write what an object shows on a stream. A stream that is no text stream is asked for its `write`
before the object is asked for its text. -/
def writeShown (file : Obj) (text : Exec Points) : Exec Unit := do
  match (← get).streamName? file with
  | some name => do
    let s ← text
    if name = pointsOf "<stderr>" then addErrors (streamText s)
  | none => do
    let writer ← getAttr file "write"
    holding writer do
      let s ← newStr (← text)
      let r ← holding s (callObj writer [s])
      release r

/-- Write a text on a stream. -/
def write (file : Obj) (s : String) : Exec Unit := writeShown file (pure (pointsOf s))

/-- Flush a stream; what that raises is lost. -/
def flushQuietly (file : Obj) : Exec Unit := do
  if ((← get).streamName? file).isSome then pure ()
  else
    recover
      (do
        let f ← getAttr file "flush"
        let r ← holding f (callObj f [])
        release r)
      (fun _ => pure true) (pure ())

/-- A setting of the interpreter. -/
def setting? (name : String) : Exec (Option Obj) := do
  let w ← get
  pure (w.attr? w.system name)

/-- Write a text on the error stream, or to the error output of the process where the stream does
not take it. -/
def writeError (s : String) : Exec Unit := do
  let written : Exec Unit := do
    match ← setting? "stderr" with
    | some file => do
      incref file
      holding file (write file s)
    | none => throwNew .runtimeError "lost sys.stderr"
  recover written (fun _ => pure true) (addErrors s)

/-! ## Margins

Inside a group, lines are indented by two columns for each level and start with a margin. -/

/-- Write blanks, ten at most at a time. -/
def writeIndent (file : Obj) : (fuel indent : Nat) → Exec Unit
  | 0, _ => pure ()
  | fuel + 1, indent =>
    if indent = 0 then pure ()
    else do
      write file (String.ofList (List.replicate (min indent 10) ' '))
      writeIndent file fuel (indent - 10)

/-- Write what stands in front of a line at a depth of groups. -/
def writeMargin (file : Obj) (depth : Nat) (margin : Option String) : Exec Unit := do
  writeIndent file (depth + 1) (2 * depth)
  match margin with
  | some s => write file s
  | none => pure ()

/-- The margin of a depth of groups. -/
def marginOf (depth : Nat) : String := if depth = 0 then "" else "| "

/-- Write the margin of a depth of groups. -/
def margin (file : Obj) (depth : Nat) : Exec Unit := writeMargin file depth (some (marginOf depth))

/-! ## Tracebacks -/

/-- The number of places that a traceback shows, if it shows any. -/
def traceLimit? : Exec (Option Nat) := do
  match ← setting? "tracebacklimit" with
  | none => pure (some 1000)
  | some o =>
    match (← get).intValue? o with
    | none => pure (some 1000)
    | some i => pure (if 0 < i then some i.toNat else none)

/-- Write a traceback: a heading and the last places. -/
def writeTrace (file : Obj) (depth : Nat) (lineMargin headMargin : Option String)
    (heading : String) (frames : List Frame) : Exec Unit := do
  match ← traceLimit? with
  | none => pure ()
  | some limit => do
    writeMargin file depth headMargin
    write file heading
    (traceLines (frames.drop (frames.length - limit))).forM fun l => do
      if l matches .place _ then writeMargin file depth lineMargin
      write file l.text

/-- The heading of a traceback. -/
def traceHeading : String := "Traceback (most recent call last):\n"

/-- The traceback of an exception, if it has one. -/
def writeErrorTrace (file : Obj) (depth : Nat) (o : Obj) : Exec Unit := do
  match ← payloadOf o with
  | .error info =>
    if info.trace.isEmpty then pure ()
    else do
      let group ← isA o .baseExceptionGroup
      let heading := if group then "Exception Group " ++ traceHeading else traceHeading
      let head := if group ∧ depth = 1 then "+ " else marginOf depth
      writeTrace file depth (some (marginOf depth)) (some head) heading info.trace
  | _ => pure ()

/-! ## Syntax errors -/

/-- What a syntax error says of its place. -/
structure SyntaxPlace where
  message : Obj
  file : Obj
  line : Int
  offset : Int
  endLine : Int
  endOffset : Int
  text : Option Obj

/-- An integer that is a machine word. -/
def wordOf? (o : Obj) : Exec (Option Int) := do
  pure (((← get).intValue? o).filter isWord)

/-- The same, or another number where the object is none. -/
def wordOr? (o : Obj) (default : Int) : Exec (Option Int) :=
  if o = noneObj then pure (some default) else wordOf? o

/-- The place of a syntax error that says one. -/
def syntaxPlace? (o : Obj) : Exec (Option SyntaxPlace) := do
  match ← payloadOf o with
  | .error info =>
    if !(← isA o .syntaxError) then pure none
    else do
      let field (name : String) : Obj := (info.fields.lookup name).getD noneObj
      let exact := (← classOf o) = Builtin.syntaxError.obj
      match ← wordOf? (field "lineno"), ← wordOr? (field "offset") (-1) with
      | some line, some offset => do
        let endLine ← if exact then wordOr? (field "end_lineno") line else pure (some line)
        let endOffset ← if exact then wordOr? (field "end_offset") (-1) else pure (some (-1))
        match endLine, endOffset with
        | some endLine, some endOffset =>
          let text := field "text"
          pure (some ⟨field "msg", field "filename", line, offset, endLine, endOffset,
            if text = noneObj then none else some text⟩)
        | _, _ => pure none
      | _, _ => pure none
  | _ => pure none

/-- The first line from which on an offset lies inside a text, and the offset there. -/
def lineAt : (fuel : Nat) → (bytes : List UInt8) → (offset : Int) → List UInt8 × Int
  | 0, bytes, offset => (bytes, offset)
  | fuel + 1, bytes, offset =>
    match bytes.findIdx? (· = 10) with
    | none => (bytes, offset)
    | some i =>
      if offset ≤ i then (bytes, offset)
      else lineAt fuel (bytes.drop (i + 1)) (offset - (i + 1))

/-- The number of carets that are worth writing. -/
def maxCarets : Nat := 2 ^ 20

/-- Write the text in which a syntax error is, with carets below it. -/
def writeSource (file : Obj) (offset endOffset : Int) (text : String) : Exec Unit := do
  let carets := if 0 < endOffset ∧ offset < endOffset then (endOffset - offset).toNat else 1
  let bytes := (Utf8.bytes text).takeWhile (· ≠ 0)
  let isIndent (b : UInt8) : Bool := b == 0x20 || b == 9 || b == 12
  let indent := (bytes.takeWhile isIndent).length
  let bytes := bytes.drop indent
  let size : Int := bytes.length - (if bytes.getLast? = some 10 then 1 else 0)
  let (bytes, offset) := lineAt (bytes.length + 1) bytes (min (offset - 1 - indent) size)
  write file "    "
  write file (Utf8.lossy bytes)
  if bytes.getLast? ≠ some 10 then write file "\n"
  if 0 ≤ offset then do
    write file "    "
    (List.range offset.toNat).forM fun _ => write file " "
    (List.range (min carets maxCarets)).forM fun _ => write file "^"
    write file "\n"

/-- Write the file, the line and the text of a syntax error. -/
def writePlace (file : Obj) (depth : Nat) (p : SyntaxPlace) : Exec Unit := do
  let name ← if p.file = noneObj then pure (pointsOf "<string>") else innerStr p.file
  margin file depth
  writeShown file
    (pure (pointsOf "  File \"" ++ name ++ pointsOf s!"\", line {p.line}\n"))
  match p.text with
  | none => pure ()
  | some t => do
    let text ← contentsOf t
    let endOffset : Int := if p.line < p.endLine then text.utf8ByteSize else p.endOffset
    writeSource file p.offset endOffset text

/-! ## One exception -/

/-- Write the module of a class, unless it goes without saying, and its name. -/
def writeClass (file cls : Obj) : Exec Unit := do
  let w ← get
  let (home, name) := match w.classView cls with
    | .builtin c => (c.moduleName, c.name)
    | .scripted info => (info.moduleName, info.name)
    | .notAClass => ("builtins", "object")
  if home ≠ "builtins" ∧ home ≠ "__main__" then do
    write file home
    write file "."
  write file name

/-- Write the class of an exception and a text: its own, or that of the message it has in its
place. -/
def writeMessage (file : Obj) (depth : Nat) (cls value : Obj) : Exec Unit := do
  margin file depth
  writeClass file cls
  if value = noneObj then pure ()
  else do
    match ← Exec.outcome (innerStr value) with
    | .error r => do
      release r.value
      write file ": <exception str() failed>"
    | .ok s => do
      if !s.isEmpty then write file ": "
      writeShown file (pure s)

/-- Write a suggestion for the name that an error is about. -/
def writeSuggestion (file value : Obj) : Exec Unit := do
  match ← suggestionFor? value with
  | some name => do
    write file ". Did you mean: '"
    write file name
    write file "'?"
  | none => pure ()

/-- The characters that end a line. -/
def isLineEnd (n : Nat) : Bool :=
  (10 ≤ n && n ≤ 13) || (0x1c ≤ n && n ≤ 0x1e) || n = 0x85 || n = 0x2028 || n = 0x2029

/-- The lines of a text with their ends; `line` is what was read of the current one, reversed. -/
def linesOf (line : Points) : Points → List Points
  | [] => if line.isEmpty then [] else [line.reverse]
  | 13 :: 10 :: rest => (10 :: 13 :: line).reverse :: linesOf [] rest
  | n :: rest =>
    if isLineEnd n then (n :: line).reverse :: linesOf [] rest else linesOf (n :: line) rest

/-- Write the notes of an exception line by line. -/
def writeNotes (file : Obj) (depth : Nat) (notes : Obj) : Exec Unit := do
  match ← payloadOf notes with
  | .list slots =>
    (slotItems slots).forM fun note => do
      match ← Exec.outcome (innerStr note) with
      | .error r => do
        release r.value
        write file "<note str() failed>"
      | .ok s =>
        (linesOf [] s).forM fun line => do
          margin file depth
          writeShown file (pure line)
      write file "\n"
  | _ => pure ()

/-- Write one exception without those behind it and in it. -/
def writeOne (file : Obj) (depth : Nat) (o : Obj) : Exec Unit := do
  writeErrorTrace file depth o
  let c ← cellOf o
  let notes := (← get).attr? o "__notes__"
  let value ← match ← syntaxPlace? o with
    | some p => do
      writePlace file depth p
      pure p.message
    | none => pure o
  writeMessage file depth c.cls value
  writeSuggestion file value
  write file "\n"
  match notes with
  | some notes => writeNotes file depth notes
  | none => pure ()

/-! ## Exceptions behind others and in others -/

/-- What is known while exceptions are written: those that were looked at, and whether the
frame of a group has still to be closed. -/
structure Written where
  seen : List Obj
  mustClose : Bool

/-- What stands between an exception and the one it caused. -/
def causeText : String :=
  "The above exception was the direct cause of the following exception:\n"

/-- What stands between an exception and one that was raised while it was handled. -/
def contextText : String :=
  "During handling of the above exception, another exception occurred:\n"

/-- The number of exceptions of a group that are written. -/
def maxGroupWidth : Nat := 15

/-- The depth to which groups are written. -/
def maxGroupDepth : Nat := 10

/-- The line above an exception of a group. -/
def groupLine (i : Nat) (label : String) : String :=
  (if i = 0 then "+-" else "  ") ++ "+---------------- " ++ label ++ " ----------------\n"

/-- The exception that comes before another one, which is its cause or its context, and what stands
between them. -/
def precedingOf? (o : Obj) : Exec (Option (Obj × String)) := do
  match ← payloadOf o with
  | .error info =>
    let cause := info.cause.map fun c => (c, causeText)
    pure (cause.or (info.context.map fun c => (c, contextText)))
  | _ => pure none

/-- The exceptions in a group. -/
def membersOf (o : Obj) : Exec (List Obj) := do
  match ← payloadOf o with
  | .error info =>
    match info.fields.lookup "exceptions" with
    | some es =>
      match ← payloadOf es with
      | .tuple slots => pure (slotItems slots)
      | _ => pure []
    | none => pure []
  | _ => pure []

mutual

/-- Write an exception after the one that comes before it; `fuel` bounds how many stand behind and
in each other. -/
def writeAll (file : Obj) : (fuel depth : Nat) → Written → Obj → Exec Written
  | 0, _, s, _ => pure s
  | fuel + 1, depth, s, o => do
    let s := { s with seen := o :: s.seen }
    let s ← match ← precedingOf? o with
      | none => pure s
      | some (before, between) =>
        if before ∈ s.seen then pure s
        else do
          let inner ← writeAll file fuel depth s before
          margin file depth
          write file "\n"
          margin file depth
          write file between
          margin file depth
          write file "\n"
          pure { inner with mustClose := s.mustClose }
    if ← isA o .baseExceptionGroup then writeGroup file fuel depth s o
    else do
      writeOne file depth o
      pure s

/-- Write a group and the exceptions in it. -/
def writeGroup (file : Obj) : (fuel depth : Nat) → Written → Obj → Exec Written
  | 0, _, s, _ => pure s
  | fuel + 1, depth, s, o => do
    if maxGroupDepth < depth then do
      margin file depth
      write file s!"... (max_group_depth is {maxGroupDepth})\n"
      pure s
    else do
      let depth := max depth 1
      writeOne file depth o
      let members ← membersOf o
      let count := members.length
      let shown := if count ≤ maxGroupWidth then count else maxGroupWidth + 1
      writeMembers file fuel depth count shown 0 { s with mustClose := false } (members.take shown)

/-- Write the exceptions of a group from number `i` on, of which some are shown. -/
def writeMembers (file : Obj) : (fuel depth count shown i : Nat) → Written → List Obj → Exec Written
  | 0, _, _, _, _, s, _ => pure s
  | _, _, _, _, _, s, [] => pure s
  | fuel + 1, depth, count, shown, i, s, e :: rest => do
    let last : Bool := i + 1 = shown
    let s := { s with mustClose := s.mustClose || last }
    let inner := depth + 1
    writeIndent file (depth + 1) (2 * depth)
    let s ←
      if i < maxGroupWidth then do
        write file (groupLine i (toString (i + 1)))
        writeAll file fuel inner s e
      else do
        write file (groupLine i "...")
        let left := count - maxGroupWidth
        let plural := if left = 1 then "" else "s"
        margin file inner
        write file s!"and {left} more exception{plural}\n"
        pure s
    let s ←
      if last && s.mustClose then do
        writeIndent file (inner + 1) (2 * inner)
        write file "+------------------------------------\n"
        pure { s with mustClose := false }
      else pure s
    writeMembers file fuel depth count shown (i + 1) s rest

end

/-- The number of exceptions that may stand behind and in each other. -/
def chainFuel : Nat := 2 ^ 16

/-- Print an exception on the error stream, and flush the stream. -/
def displayError (o : Obj) : Exec Unit := do
  let lost : Exec Unit := addErrors "lost sys.stderr\n"
  match ← setting? "stderr" with
  | none => lost
  | some file =>
    if file = noneObj then pure ()
    else do
      incref file
      holding file do
        recover
          (do
            let _ ← writeAll file chainFuel 0 ⟨[], false⟩ o
            pure ())
          (fun _ => pure true) lost
        flushQuietly file

/-- Print an exception that passed some places; where it keeps places already, those count. -/
def displayRaised (o : Obj) (frames : List Frame) : Exec Unit := do
  match ← payloadOf o with
  | .error info => if info.trace.isEmpty then keepTrace o frames else pure ()
  | _ => pure ()
  displayError o

/-! ## Exceptions that nobody can handle -/

/-- Write an exception that was raised in a place where it cannot be handled; false if the stream
does not take it. -/
def writeIgnored (front : String) (place value : Obj) (frames : List Frame) : Exec Bool := do
  match (← setting? "stderr").filter (· ≠ noneObj) with
  | none => pure true
  | some file => do
    incref file
    holding file do
      recover
        (do
          if place ≠ noneObj then writePlace file
          if !frames.isEmpty then
            recover (writeTrace file 0 none none traceHeading frames) (fun _ => pure true) (pure ())
          writeClass file (← classOf value)
          write file ": "
          match ← Exec.outcome (writeShown file (innerStr value)) with
          | .ok () => pure ()
          | .error r => do
            release r.value
            write file "<exception str() failed>"
          write file "\n"
          let f ← getAttr file "flush"
          let r ← holding f (callObj f [])
          release r
          pure true)
        (fun _ => pure true) (pure false)
where
  /-- Write the place, after the front of the report. -/
  writePlace (file : Obj) : Exec Unit := do
    write file front
    match ← Exec.outcome (writeShown file (innerRepr place)) with
    | .ok () => pure ()
    | .error r => do
      release r.value
      write file "<object repr() failed>"
    write file "\n"

/-- What an exception shows to a hook for those that nobody can handle. -/
def newIgnored (place value : Obj) (trace : Obj) : Exec Obj := do
  let cls ← classOf value
  [place, value, trace, cls].forM incref
  alloc Builtin.unraisableArgs.obj .plain
    [("exc_type", cls), ("exc_value", value), ("exc_traceback", trace), ("err_msg", noneObj),
      ("object", place)]

/-- A traceback of some places, or none. -/
def newTrace (frames : List Frame) : Exec Obj :=
  if frames.isEmpty then pure noneObj else alloc Builtin.traceback.obj (.traceback frames) []

/-- The front of a report. -/
def ignoredFront : String := "Exception ignored in: "

/-- Report an exception that nobody can handle, raised in some place, to the hook for such ones.
Where there is no hook it is written, and where the hook fails that failure is. -/
def reportIgnored (place : Obj) (r : Raised) : Exec Unit := do
  keepTrace r.value r.frames
  let plainly : Exec Unit := do
    let _ ← writeIgnored ignoredFront place r.value r.frames
  match (← setting? "unraisablehook").filter (· ≠ noneObj) with
  | none => plainly
  | some hook => do
    incref hook
    holding hook do
      let trace ← newTrace r.frames
      let args ← holding trace (newIgnored place r.value trace)
      match ← Exec.outcome (holding args (callObj hook [args])) with
      | .ok v => release v
      | .error s => do
        let _ ← writeIgnored "Exception ignored in sys.unraisablehook: " hook s.value s.frames
        release s.value

end Embedder.Machine
