import Embedder.Number.Shortest
import Embedder.Text.Printable
import Embedder.Machine.Number

/-!
# The text of objects

`reprPoints` is the text of an object as code would write it, `strPoints` the text for a reader. The
parts of a container are written through the engine, which bounds the depth.
-/

namespace Embedder.Machine

/-- Floats are positional from a ten-thousandth up to sixteen digits. -/
def floatStyle : DecimalStyle := ⟨-4, 15, 2, "nan", "inf"⟩

/-- A float inside a complex number: a whole one has no fraction. -/
def complexPart (d : Double) : String :=
  let s := floatStyle.text d
  if s.endsWith ".0" then String.ofList (s.toList.take (s.length - 2)) else s

/-- A complex number. -/
def complexText (re im : Double) : String :=
  if re = Double.zero then complexPart im ++ "j"
  else
    let sign := if im.isNegative && !im.isNaN then "" else "+"
    "(" ++ complexPart re ++ sign ++ complexPart im ++ "j)"

/-- Some lower-case hexadecimal digits of a number. -/
def hexOf (width n : Nat) : List Char :=
  let ds := Nat.toDigits 16 n
  List.replicate (width - ds.length) '0' ++ ds

/-- A code point escaped by its number. -/
def escapedPoint (n : Nat) : List Char :=
  if n < 0x100 then '\\' :: 'x' :: hexOf 2 n
  else if n < 0x10000 then '\\' :: 'u' :: hexOf 4 n
  else '\\' :: 'U' :: hexOf 8 n

/-- A character of a text between quotes of a kind. -/
def quotedPoint (quote : Char) (n : Nat) : Points :=
  if n = quote.toNat ∨ n = '\\'.toNat then ['\\'.toNat, n]
  else if n = 9 then pointsOf "\\t"
  else if n = 10 then pointsOf "\\n"
  else if n = 13 then pointsOf "\\r"
  else if Text.isPrintable n then [n]
  else (escapedPoint n).map Char.toNat

/-- The quotes for a text: double ones only if it holds single ones and no double ones. -/
def quoteFor (s : Points) : Char :=
  if '\''.toNat ∈ s ∧ '"'.toNat ∉ s then '"' else '\''

/-- A text between quotes. -/
def quotedPoints (s : Points) : Points :=
  let q := quoteFor s
  q.toNat :: s.flatMap (quotedPoint q) ++ [q.toNat]

/-- The name of something between quotes. -/
def quotedText (s : String) : String := hostText (quotedPoints (pointsOf s))

/-- A byte between quotes of a kind. -/
def quotedByte (quote : Char) (b : UInt8) : List Char :=
  let n := b.toNat
  if n = quote.toNat ∨ n = '\\'.toNat then ['\\', Char.ofNat n]
  else if n = 9 then ['\\', 't']
  else if n = 10 then ['\\', 'n']
  else if n = 13 then ['\\', 'r']
  else if 0x20 ≤ n ∧ n < 0x7f then [Char.ofNat n]
  else '\\' :: 'x' :: hexOf 2 n

/-- A byte string between quotes. -/
def quotedBytes (bs : List UInt8) : String :=
  let q := quoteFor (bs.map UInt8.toNat)
  String.ofList ('b' :: q :: bs.flatMap (quotedByte q) ++ [q])

/-- The digits that an integer may have to be written out. -/
def maxIntDigits : Nat := 4300

/-- An integer. -/
def intPoints (i : Int) : Exec Points :=
  let s := toString i
  if maxIntDigits < i.natAbs.log2 / 4 ∨
      maxIntDigits < s.length - (if i < 0 then 1 else 0) then
    throwNew .valueError ("Exceeds the limit (4300 digits) for integer string conversion; " ++
      "use sys.set_int_max_str_digits() to increase the limit")
  else pure (pointsOf s)

/-- An object at an address. -/
def addressText : String := " object at 0x7f0000000000>"

/-- What stands for an empty slot. -/
def emptySlot : Points := pointsOf "<NULL>"

/-- The text of an object inside another. -/
def innerRepr (o : Obj) : Exec Points := fun e => e.repr o

/-- Texts with a comma and a blank between them. -/
def commaJoined : List Points → Points
  | [] => []
  | [x] => x
  | x :: y :: rest => x ++ pointsOf ", " ++ commaJoined (y :: rest)

/-- The text of a slot. -/
def slotRepr : Option Obj → Exec Points
  | none => pure emptySlot
  | some o => innerRepr o

/-- Write an object that may contain itself: inside its own text it is `again`. -/
def guarded (o : Obj) (again : String) (x : Exec Points) : Exec Points := do
  if o ∈ (← get).inRepr then pure (pointsOf again)
  else do
    modify fun w => { w with inRepr := o :: w.inRepr }
    Exec.thenAlways x (modify fun w => { w with inRepr := w.inRepr.erase o })

/-- The text of a tuple. -/
def tupleRepr (o : Obj) (slots : Array (Option Obj)) : Exec Points :=
  if slots.size = 0 then pure (pointsOf "()")
  else
    guarded o "(...)" do
      let parts ← slots.toList.mapM slotRepr
      let comma := if slots.size = 1 then "," else ""
      pure (pointsOf "(" ++ commaJoined parts ++ pointsOf comma ++ pointsOf ")")

/-- The name of a class in its own text. -/
def World.qualifiedClass (w : World) (cls : Obj) : String :=
  match w.classView cls with
  | .builtin c => if c.moduleName = "builtins" then c.name else c.moduleName ++ "." ++ c.name
  | .scripted info => info.moduleName ++ "." ++ info.name
  | .notAClass => "object"

/-- The text of something that a class has from birth. -/
def descriptorText (owner : String) (kind : MemberKind) (name : String) : String :=
  let what := match kind with
    | .wrapper => "slot wrapper"
    | .getset => "attribute"
    | .member => "member"
    | _ => "method"
  "<" ++ what ++ " '" ++ name ++ "' of '" ++ owner ++ "' objects>"

/-- The texts of some attributes that an object holds, each after a label. -/
def labelledAttrs (c : Cell) (labels : List (String × String)) : Exec (List Points) := do
  let attrs := (← get).attrsOf c
  labels.filterMapM fun (name, label) => do
    match (attrs.lookup name).filter (· ≠ noneObj) with
    | some v => do
      let s ← innerRepr v
      pure (some (pointsOf label ++ s))
    | none => pure none

/-- The text of an object without parts, which does not say where its class is from if that has a
way to say something else that is not to be had. An open stream shows its name and its mode, and
where a module comes from is shown by its parts. -/
def plainRepr (o : Obj) (c : Cell) : Exec Points := do
  let w ← get
  if o = noneObj then pure (pointsOf "None")
  else if o = notImplementedObj then pure (pointsOf "NotImplemented")
  else if o = ellipsisObj then pure (pointsOf "Ellipsis")
  else if c.cls = Builtin.textStream.obj then do
    let parts ← labelledAttrs c [("name", " name="), ("mode", " mode=")]
    pure (pointsOf "<_io.TextIOWrapper" ++ parts.flatten ++ pointsOf " encoding='utf-8'>")
  else if c.cls = Builtin.moduleSpec.obj then do
    let parts ← labelledAttrs c [("name", "name="), ("loader", "loader="), ("origin", "origin="),
      ("submodule_search_locations", "submodule_search_locations=")]
    pure (pointsOf "ModuleSpec(" ++ commaJoined parts ++ pointsOf ")")
  else if c.cls = Builtin.fileFinder.obj then do
    let parts ← labelledAttrs c [("path", "")]
    pure (pointsOf "FileFinder(" ++ commaJoined parts ++ pointsOf ")")
  else if c.cls = Builtin.namespacePath.obj then do
    let parts ← labelledAttrs c [("_path", "")]
    pure (pointsOf "_NamespacePath(" ++ commaJoined parts ++ pointsOf ")")
  else if c.cls = Builtin.simpleNamespace.obj then
    guarded o "namespace(...)" do
      let parts ← (w.attrsOf c).mapM fun (name, v) => do
        pure (pointsOf (name ++ "=") ++ (← innerRepr v))
      pure (pointsOf "namespace(" ++ commaJoined parts ++ pointsOf ")")
  else
    let isHidden := (w.member? c.cls "__repr__").isSome
    let cls := if isHidden then w.className c.cls else w.qualifiedClass c.cls
    pure (pointsOf ("<" ++ cls ++ addressText))

/-- The text of what a built-in part of an object stands for. -/
def payloadRepr (o : Obj) (c : Cell) : Exec Points := do
  let w ← get
  match c.payload with
  | .plain => plainRepr o c
  | .bool b => pure (pointsOf (if b then "True" else "False"))
  | .int i => intPoints i
  | .float d => pure (pointsOf (floatStyle.text d))
  | .complex re im => pure (pointsOf (complexText re im))
  | .str s => pure (quotedPoints s)
  | .bytes bs =>
    let shown := quotedBytes bs
    pure (pointsOf (if c.cls = Builtin.bytearray.obj then "bytearray(" ++ shown ++ ")" else shown))
  | .list slots =>
    if slots.size = 0 then pure (pointsOf "[]")
    else
      guarded o "[...]" do
        let parts ← slots.toList.mapM slotRepr
        pure (pointsOf "[" ++ commaJoined parts ++ pointsOf "]")
  | .tuple slots =>
    if c.attrs.isEmpty then tupleRepr o slots
    else do
      let parts ← c.attrs.mapM fun (name, v) => do
        pure (pointsOf (name ++ "=") ++ (← innerRepr v))
      pure (pointsOf (w.className c.cls ++ "(") ++ commaJoined parts ++ pointsOf ")")
  | .set table =>
    let keys := table.places.toList.filterMap fun e => e.map (·.key)
    let name := w.className c.cls
    if keys.isEmpty then pure (pointsOf (name ++ "()"))
    else
      guarded o (name ++ "(...)") do
        let parts ← keys.mapM innerRepr
        let shown := pointsOf "\x7b" ++ commaJoined parts ++ pointsOf "\x7d"
        pure (if c.cls = Builtin.set.obj then shown
          else pointsOf (name ++ "(") ++ shown ++ pointsOf ")")
  | .dict items =>
    if items.isEmpty then pure (pointsOf "\x7b\x7d")
    else
      guarded o "\x7b...\x7d" do
        let parts ← items.mapM fun e => do
          let k ← innerRepr e.key
          let v ← innerRepr e.value
          pure (k ++ pointsOf ": " ++ v)
        pure (pointsOf "\x7b" ++ commaJoined parts ++ pointsOf "\x7d")
  | .range start stop step =>
    let last := if step = 1 then "" else ", " ++ toString step
    pure (pointsOf ("range(" ++ toString start ++ ", " ++ toString stop ++ last ++ ")"))
  | .slice start stop step => do
    let parts ← [start, stop, step].mapM innerRepr
    pure (pointsOf "slice(" ++ commaJoined parts ++ pointsOf ")")
  | .unbound target => do
    let shown ← innerRepr target
    pure (pointsOf ("<" ++ w.className c.cls ++ "(") ++ shown ++ pointsOf ")>")
  | .above top seen =>
    let seenAs := match seen with
      | some (_, c) => "<" ++ w.className c ++ " object>"
      | none => "NULL"
    pure (pointsOf ("<super: <class '" ++ w.className top ++ "'>, " ++ seenAs ++ ">"))
  | .function _ name _ => pure (pointsOf ("<function " ++ name ++ " at 0x7f0000000000>"))
  | .builtinFunction _ name => pure (pointsOf ("<built-in function " ++ name ++ ">"))
  | .descriptor owner kind name =>
    pure (pointsOf (descriptorText (w.className owner) kind name))
  | .bound .wrapper name self => do
    let t ← typeName self
    pure (pointsOf ("<method-wrapper '" ++ name ++ "' of " ++ t ++ addressText))
  | .bound _ name self =>
    match (w.cell self).payload with
    | .moduleNamed _ => pure (pointsOf ("<built-in function " ++ name ++ ">"))
    | _ => do
      let t ← typeName self
      pure (pointsOf ("<built-in method " ++ name ++ " of " ++ t ++ addressText))
  | .method f self => do
    let name := match (w.cell f).payload with
      | .function _ q _ => q
      | _ => "?"
    let shown ← innerRepr self
    pure (pointsOf ("<bound method " ++ name ++ " of ") ++ shown ++ pointsOf ">")
  | .moduleNamed name => pure (pointsOf "<module " ++ quotedPoints (pointsOf name) ++ pointsOf ">")
  | .builtinClass _ | .cls _ => pure (pointsOf ("<class '" ++ w.qualifiedClass o ++ "'>"))
  | .error info => do
    -- the class by its name after the last dot
    let name := pointsOf (((w.className c.cls).splitOn ".").getLastD "")
    match (w.cell info.args).payload with
    | .tuple #[some a] => do
      let a ← innerRepr a
      pure (name ++ pointsOf "(" ++ a ++ pointsOf ")")
    | _ => do
      let args ← innerRepr info.args
      pure (name ++ args)
  | _ => pure (pointsOf ("<" ++ w.className c.cls ++ addressText))

/-- The text that a special method gives; `what` names the method. -/
def textResult (what : String) (r : Obj) : Exec Points :=
  holding r do
    match ← payloadOf r with
    | .str s => pure s
    | _ => do
      let t ← typeName r
      throwNew .typeError (what ++ " returned non-string (type " ++ clip 200 t ++ ")")

/-- The text of an object as code would write it. -/
def reprPoints (o : Obj) : Exec Points := do
  match ← callQuietly o "__repr__" [] with
  | some r => textResult "__repr__" r
  | none => do
    let c ← cellOf o
    payloadRepr o c

/-- The text of an object for a reader, through the engine. -/
def innerStr (o : Obj) : Exec Points := fun e => e.str o

/-- The text of an exception from its arguments. -/
def plainErrorText (info : ErrorInfo) : Exec Points := do
  match ← payloadOf info.args with
  | .tuple #[] => pure []
  | .tuple #[some a] => innerStr a
  | _ => innerRepr info.args

/-- The text that a field of an error is, or the empty text. -/
def ErrorInfo.points (info : ErrorInfo) (name : String) : Exec Points := do
  match info.fields.lookup name with
  | some o =>
    match ← payloadOf o with
    | .str s => pure s
    | _ => pure []
  | none => pure []

/-- The integer that a field of an error is, or zero. -/
def ErrorInfo.int (info : ErrorInfo) (name : String) : Exec Int := do
  match info.fields.lookup name with
  | some o => pure ((← intValue? o).getD 0)
  | none => pure 0

/-- The text of an error about a part of a text or of bytes that could not be coded: `verb` is what
could not be done. -/
def codingErrorText (info : ErrorInfo) (verb : String) : Exec Points := do
  let encoding ← info.points "encoding"
  let start ← info.int "start"
  let stop ← info.int "end"
  let reason ← info.points "reason"
  let actor := if verb = "translate" then [] else
    pointsOf "'" ++ encoding ++ pointsOf "' codec "
  let head := actor ++ pointsOf ("can't " ++ verb ++ " ")
  let tail := pointsOf ": " ++ reason
  let subject ← match info.fields.lookup "object" with
    | some o => payloadOf o
    | none => pure Payload.plain
  let unit : Option (String × List Char) :=
    if stop ≠ start + 1 then none
    else
      match subject with
      | .bytes bs => (bs[start.toNat]?).map fun b => ("byte ", '0' :: 'x' :: hexOf 2 b.toNat)
      | .str s =>
        (s[start.toNat]?).map fun n => ("character ", '\'' :: escapedPoint n ++ ['\''])
      | _ => none
  match unit with
  | some (kind, shown) =>
    pure (head ++ pointsOf kind ++ shown.map Char.toNat ++
      pointsOf (" in position " ++ toString start) ++ tail)
  | none =>
    let kind := match subject with
      | .bytes _ => "bytes"
      | _ => "characters"
    pure (head ++ pointsOf (kind ++ " in position " ++ toString start ++ "-" ++
      toString (stop - 1)) ++ tail)

/-- The part of a path after its last slash. -/
def fileName (s : Points) : Points := (s.reverse.takeWhile (· ≠ 47)).reverse

/-- The text of a syntax error: its message, and its file and line where it has them. A line that is
no machine word is shown as -1. -/
def syntaxErrorText (info : ErrorInfo) : Exec Points := do
  let shown ← innerStr ((info.fields.lookup "msg").getD noneObj)
  let file ← match info.fields.lookup "filename" with
    | some f => do
      match ← payloadOf f with
      | .str s => pure (some (fileName s))
      | _ => pure none
    | none => pure none
  let line ← match info.fields.lookup "lineno" with
    | some n => do
      let c ← cellOf n
      match c.payload with
      | .int i =>
        let i := if isWord i then i else -1
        pure (if c.cls = Builtin.int.obj then some (pointsOf s!"line {i}") else none)
      | _ => pure none
    | none => pure none
  match file, line with
  | some f, some l => pure (shown ++ pointsOf " (" ++ f ++ pointsOf ", " ++ l ++ pointsOf ")")
  | some f, none => pure (shown ++ pointsOf " (" ++ f ++ pointsOf ")")
  | none, some l => pure (shown ++ pointsOf " (" ++ l ++ pointsOf ")")
  | none, none => pure shown

/-- The text of an operating system error: its number, its message and its files. -/
def systemErrorText (info : ErrorInfo) (number message : Obj) : Exec Points := do
  let number ← innerStr number
  let message ← innerStr message
  let files ← ((info.fields.lookup "filename").toList ++
    (info.fields.lookup "filename2").toList).mapM innerRepr
  let file := if files.isEmpty then [] else
    pointsOf ": " ++ List.intercalate (pointsOf " -> ") files
  pure (pointsOf "[Errno " ++ number ++ pointsOf "] " ++ message ++ file)

/-- The text of an exception. -/
def errorText (cls : Builtin) (info : ErrorInfo) : Exec Points := do
  if cls.isSubclass .keyError then
    match ← payloadOf info.args with
    | .tuple #[some a] => innerRepr a
    | _ => plainErrorText info
  else if cls.isSubclass .osError then
    match info.fields.lookup "errno", info.fields.lookup "strerror" with
    | some number, some message => systemErrorText info number message
    | _, _ => plainErrorText info
  else if cls.isSubclass .importError then
    match info.fields.lookup "msg" with
    | some m =>
      if (← classOf m) = Builtin.str.obj then innerStr m else plainErrorText info
    | none => plainErrorText info
  else if cls.isSubclass .syntaxError then syntaxErrorText info
  else if cls.isSubclass .unicodeDecodeError then codingErrorText info "decode"
  else if cls.isSubclass .unicodeEncodeError then codingErrorText info "encode"
  else if cls.isSubclass .unicodeTranslateError then codingErrorText info "translate"
  else if cls.isSubclass .baseExceptionGroup then
    match info.fields.lookup "exceptions" with
    | some es => do
      let message ← innerStr ((info.fields.lookup "message").getD noneObj)
      let n := (← payloadOf es).length?.getD 0
      let parts := s!" ({n} sub-exception" ++ (if n = 1 then ")" else "s)")
      pure (message ++ pointsOf parts)
    | none => plainErrorText info
  else plainErrorText info

/-- The text of an object for a reader. -/
def strPoints (o : Obj) : Exec Points := do
  match ← callSpecial o "__str__" [] with
  | some r => textResult "__str__" r
  | none => do
    let c ← cellOf o
    match c.payload with
    | .str s => pure s
    | .error info => do
      let cls ← builtinOf o
      errorText cls info
    | _ =>
      match ← callQuietly o "__repr__" [] with
      | some r => textResult "__str__" r
      | none => payloadRepr o c

/-- The maximal run of surrogates at the front of a text. -/
def isSurrogate (n : Nat) : Bool := 0xd800 ≤ n && n ≤ 0xdfff

/-- Raise the error for a part of a text or of bytes that cannot be coded. -/
def throwCoding {α : Type} (cls : Builtin) (encoding : String) (o : Obj) (start stop : Nat)
    (reason : String) : Exec α := do
  let encoding ← newText encoding
  let start ← newInt start
  let stop ← newInt stop
  let reason ← newText reason
  let parts := [encoding, o, start, stop, reason]
  parts.forM incref
  incref o
  throwDetailed cls parts (["encoding", "object", "start", "end", "reason"].zip parts)

/-- The contents of a text object for the host; surrogates cannot be encoded. -/
def contentsOf (o : Obj) : Exec String := do
  match ← payloadOf o with
  | .str s =>
    match s.findIdx? isSurrogate with
    | none => pure (hostText s)
    | some i =>
      let n := ((s.drop i).takeWhile isSurrogate).length
      throwCoding .unicodeEncodeError "utf-8" o i (i + n) "surrogates not allowed"
  | _ => throwNew .typeError "bad argument type for built-in operation"

end Embedder.Machine
