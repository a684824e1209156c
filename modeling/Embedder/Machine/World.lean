import Embedder.Guest
import Embedder.Text.Utf8
import Embedder.Machine.Class
import Embedder.Machine.Program
import Embedder.Machine.Script

/-!
# Objects in memory and programs over them

An object is a cell in the heap: a count of references, a class, a payload and attributes. The state
of an interpreter (`World`) is the heap together with the module table and what the outside can see
of it. An `Exec α` is a program over it that may raise. It runs with an `Engine`, which is how it
calls back into Python code: each call is made by an engine with one level less, so that recursion
ends.

Programs follow one discipline of references: what they are given they borrow, what they return is a
new reference.
-/

namespace Embedder.Machine

/-- A place in Python code, as a traceback shows it, and the names that code there can use: those of
its module and its own. -/
structure Frame where
  file : String
  line : Nat
  function : String
  home : Option Obj
  names : List String
  deriving DecidableEq, Repr

/-- A place whose names do not matter. -/
def Frame.place (file : String) (line : Nat) (function : String) : Frame :=
  ⟨file, line, function, none, []⟩

/-- The line of a place in a traceback. -/
def Frame.text (f : Frame) : String :=
  "  File \"" ++ f.file ++ "\", line " ++ toString f.line ++ ", in " ++ f.function ++ "\n"

/-- Whether two places look the same in a traceback. -/
def Frame.looksLike (f g : Frame) : Bool :=
  f.file = g.file && f.line = g.line && f.function = g.function

/-- A line of a traceback. -/
inductive TraceLine where
  | place (f : Frame)
  /-- The place before it so many times more. -/
  | again (count : Nat)

/-- The text of a line of a traceback. -/
def TraceLine.text : TraceLine → String
  | .place f => f.text
  | .again n => s!"  [Previous line repeated {n} more time" ++ (if n = 1 then "" else "s") ++ "]\n"

/-- The number of equal places in a row that a traceback shows one by one. -/
def shownInARow : Nat := 3

/-- The lines of a traceback of some places: the first of those that look the same in a row are
shown, and the others are counted. -/
def traceLines (frames : List Frame) : List TraceLine :=
  (frames.splitBy Frame.looksLike).flatMap fun run =>
    let more := run.length - shownInARow
    (run.take shownInARow).map .place ++ if more = 0 then [] else [.again more]

/-- A function that is running, or a part of it that runs by itself: its module, its names and the
values that some names have. -/
structure Activation where
  file : String
  function : String
  home : Obj
  names : List String
  values : List (String × Obj)

/-- A line of a running function. -/
def Activation.frame (a : Activation) (line : Nat) : Frame :=
  ⟨a.file, line, a.function, some a.home, a.names⟩

/-- What a generator has still to do. -/
inductive Remaining where
  /-- Perform one action for each item. -/
  | script (frame : Frame) (actions : List Action)
  /-- Compute an element for each item of an iterator. -/
  | elements (a : Activation) (line : Nat) (element : Expr) (name : String) (source : Obj)
  /-- Run the rest of a function. -/
  | statements (a : Activation) (rest : List Stmt)
  | nothing

/-- What a Python function does. -/
inductive Code where
  | script (body : Action)
  /-- A function of a module, which is its home. -/
  | program (f : Function) (home : Obj)
  /-- What stands in a class statement of a module. -/
  | body (b : ClassBody) (home : Obj)
  /-- The interpreter's own hook for places that are folders. -/
  | folderHook

/-- A class made by Python code. -/
structure ClassInfo where
  name : String
  moduleName : String
  base : Obj
  /-- Methods and properties, by name. -/
  members : List (String × Obj)
  /-- What computes the name that the class shows, if it is not the name. -/
  shownName : Option Obj

/-- What an exception holds. -/
structure ErrorInfo where
  /-- A tuple. -/
  args : Obj
  /-- What it has beside the arguments, such as a file name. -/
  fields : List (String × Obj)
  cause : Option Obj
  /-- The exception that was being handled when this one was raised. -/
  context : Option Obj
  /-- The places that it passed before. -/
  trace : List Frame

/-- What kind of thing a class has under a name from birth. -/
inductive MemberKind where
  /-- A special method. -/
  | wrapper
  | method
  | classMethod
  | staticMethod
  /-- Data that is computed. -/
  | getset
  /-- Data that is stored. -/
  | member
  /-- Anything else that the class itself holds. -/
  | value
  deriving DecidableEq, Repr

/-- An object in a set, with its hash. -/
structure Entry where
  key : Obj
  hash : Int
  deriving DecidableEq, Repr

/-- The places of a set, of which some are taken. -/
structure Table where
  places : Array (Option Entry)
  used : Nat

/-- A key of a dictionary with its hash and its value. -/
structure Item where
  key : Obj
  hash : Int
  value : Obj
  deriving DecidableEq, Repr

/-- What an object consists of beside its attributes. -/
inductive Payload where
  | plain
  | bool (b : Bool)
  | int (i : Int)
  | float (d : Double)
  | complex (re im : Double)
  | str (s : Points)
  | bytes (bs : List UInt8)
  | list (slots : Array (Option Obj))
  | tuple (slots : Array (Option Obj))
  | set (table : Table)
  | dict (items : List Item)
  | range (start stop step : Int)
  /-- An iterator over a container, at an index; at the end it lets the container go. -/
  | cursor (source : Option Obj) (index : Nat)
  /-- An iterator over a text or a byte string, with the characters or bytes still to come; at the
  end it lets the text go. -/
  | letters (source : Option Obj) (rest : List Nat)
  /-- An iterator over a container from its end, with that many items still to look at. -/
  | countdown (source : Option Obj) (left : Nat)
  /-- An iterator that numbers the items of another, with the pair that it gave last. -/
  | enumeration (source : Obj) (next : Int) (last : Obj)
  /-- An iterator over the items of others together, with the tuple that it gave last. -/
  | zipped (sources : List Obj) (last : Obj)
  /-- An iterator over what a function makes of the items of others together. -/
  | mapped (function : Obj) (sources : List Obj)
  /-- An iterator over the items of another that pass a test. -/
  | filtered (test source : Obj)
  /-- An iterator over what a function gives until it gives some object, or nothing any more. -/
  | calls (rest : Option (Obj × Obj))
  /-- An iterator over numbers. -/
  | progression (next step : Int) (left : Nat)
  /-- A generator with what it has still to do; whether it gave an item already. -/
  | generator (rest : Remaining) (started : Bool)
  /-- Something that a class has from birth, for an object of it. -/
  | bound (kind : MemberKind) (name : String) (self : Obj)
  /-- Something that a class has from birth, as the class shows it. -/
  | descriptor (owner : Obj) (kind : MemberKind) (name : String)
  | method (function self : Obj)
  | function (name qualifiedName : String) (code : Code)
  /-- A function of a built-in module. -/
  | builtinFunction (moduleName name : String)
  | moduleNamed (name : String)
  | builtinClass (c : Builtin)
  | cls (info : ClassInfo)
  | error (info : ErrorInfo)
  | traceback (frames : List Frame)
  | property (getter : Obj)
  | slice (start stop step : Obj)
  /-- What a class shows as it is, or bound to the class. -/
  | unbound (target : Obj)
  /-- The view of an object from above a class: the class, the object and the class that the object
  counts as one of. -/
  | above (top : Obj) (seen : Option (Obj × Obj))

namespace Payload

/-- The item in a slot of a list or tuple. -/
def slot? : Payload → Nat → Option Obj
  | .list slots, i | .tuple slots, i => (slots[i]?).join
  | _, _ => none

/-- A list or tuple with an item in a slot. -/
def withSlot (p : Payload) (i : Nat) (o : Obj) : Payload :=
  match p with
  | .list slots => .list (slots.setIfInBounds i (some o))
  | .tuple slots => .tuple (slots.setIfInBounds i (some o))
  | p => p

/-- A list with one more item. -/
def pushing (p : Payload) (o : Obj) : Payload :=
  match p with
  | .list slots => .list (slots.push (some o))
  | p => p

end Payload

/-- An object in memory. -/
structure Cell where
  refs : Nat
  /-- An immortal object is not counted and never ends. -/
  immortal : Bool
  finalized : Bool
  cls : Obj
  payload : Payload
  attrs : List (String × Obj)
  /-- The dictionary that holds its attributes once it was asked for; they are nowhere else then. -/
  space : Option Obj
  /-- What was made of it when it was asked for, and is the same object ever after. -/
  kept : List (String × Obj)

/-- A binding of the host that Python code can drop: a named slot holds it, and the host may hold it
too while it calls it. -/
structure Slot where
  moduleName : String
  function : String
  callable : Obj
  generation : Nat
  inCall : Bool
  deriving DecidableEq, Repr

/-- The state of an interpreter and what the outside sees of it. -/
structure World where
  up : Bool
  generation : Nat
  /-- Whether the lifecycle is busy. -/
  busy : Bool
  heap : Array Cell
  /-- The number of objects that there were before any program ran. -/
  atStart : Nat
  /-- The module table, in order of insertion. -/
  modules : List (String × Obj)
  /-- The modules that were loaded, each of which its own functions keep. -/
  loaded : List Obj
  /-- What code sees as the module table. -/
  tableView : Obj
  /-- The module that holds the interpreter's own settings. -/
  system : Obj
  /-- The module that holds the built-in names. -/
  builtins : Obj
  /-- The module that came up as the formatter of tracebacks. -/
  formatter : Obj
  /-- The files of modules that the formatter of tracebacks knows. -/
  knownFiles : List String
  /-- The objects whose text is being made. -/
  inRepr : List Obj
  /-- The number of objects that are ending, each inside the one before. -/
  depth : Nat
  /-- The objects that wait for their end, the last first. -/
  waiting : List Obj
  slots : List (String × Slot)
  /-- Texts recorded by Python code, the oldest first. -/
  notes : List String
  /-- What was written to the error stream. -/
  errors : String
  notices : List Notice

/-- An exception on its way through Python code, with the places it passed, the outermost first. -/
structure Raised where
  value : Obj
  frames : List Frame
  deriving DecidableEq, Repr

/-- Programs over the state of an interpreter that may raise. -/
abbrev Core := ExceptT Raised (StateM World)

/-- How to call back into Python code. -/
structure Engine where
  call : Obj → List Obj → Core Obj
  repr : Obj → Core Points
  str : Obj → Core Points
  compare : Comparison → Obj → Obj → Core Obj
  /-- The next item of an iterator, or nothing at its end. -/
  advance : Obj → Core (Option Obj)
  /-- Report an exception that nobody can handle, which some object raised. -/
  report : Obj → Raised → Core Unit

/-- Programs that may call back into Python code. -/
abbrev Exec := ReaderT Engine Core

/-! ## Objects that are always there -/

def classCount : Nat := Builtin.all.length

/-- The object of a built-in class. -/
def Builtin.obj (c : Builtin) : Obj := ⟨c.ctorIdx⟩

def noneObj : Obj := ⟨classCount⟩

def notImplementedObj : Obj := ⟨classCount + 1⟩

def ellipsisObj : Obj := ⟨classCount + 2⟩

def trueObj : Obj := ⟨classCount + 3⟩

def falseObj : Obj := ⟨classCount + 4⟩

def emptyTuple : Obj := ⟨classCount + 5⟩

def emptyStr : Obj := ⟨classCount + 6⟩

def emptyBytes : Obj := ⟨classCount + 7⟩

/-- The integers that exist once and for all: from -5 to 256. -/
def smallInt? (i : Int) : Option Obj :=
  if -5 ≤ i ∧ i ≤ 256 then some ⟨classCount + 8 + (i + 5).toNat⟩ else none

/-- The texts of one character that exist once and for all. -/
def charObj? (c : Nat) : Option Obj := if c < 256 then some ⟨classCount + 270 + c⟩ else none

/-- The byte strings of one byte, which exist once and for all. -/
def byteObj (b : UInt8) : Obj := ⟨classCount + 526 + b.toNat⟩

def boolObj (b : Bool) : Obj := if b then trueObj else falseObj

/-- A cell that is never counted. -/
def immortalCell (cls : Builtin) (payload : Payload) : Cell :=
  ⟨1, true, false, cls.obj, payload, [], none, []⟩

/-- The objects that are always there, in the order of their identities. -/
def staticCells : List Cell :=
  Builtin.all.map (fun c => immortalCell .typeClass (.builtinClass c)) ++
  [immortalCell .noneType .plain, immortalCell .notImplemented .plain,
    immortalCell .ellipsis .plain, immortalCell .bool (.bool true),
    immortalCell .bool (.bool false), immortalCell .tuple (.tuple #[]),
    immortalCell .str (.str []), immortalCell .bytes (.bytes [])] ++
  (List.range 262).map (fun (n : Nat) => immortalCell .int (.int ((n : Int) - 5))) ++
  (List.range 256).map (fun n => immortalCell .str (.str [n])) ++
  (List.range 256).map (fun n => immortalCell .bytes (.bytes [UInt8.ofNat n]))

/-! ## Cells -/

namespace Exec

variable {α : Type}

/-- What the outcome of a program is. -/
def outcome (x : Exec α) : Exec (Except Raised α) := fun e w =>
  match x e w with
  | (r, w) => (.ok r, w)

/-- Go on with an outcome. -/
def resume : Except Raised α → Exec α
  | .ok a => pure a
  | .error r => throw r

/-- Run a program and then another, however the first turned out. -/
def thenAlways (x : Exec α) (y : Exec Unit) : Exec α := do
  let r ← outcome x
  y
  resume r

end Exec

/-- The cell of an object. -/
def World.cell (w : World) (o : Obj) : Cell :=
  (w.heap[o.id]?).getD ⟨0, true, true, noneObj, .plain, [], none, []⟩

/-- The text that an object is. -/
def World.textOf? (w : World) (o : Obj) : Option String :=
  match (w.cell o).payload with
  | .str s => some (hostText s)
  | _ => none

/-- The attributes of a cell. -/
def World.attrsOf (w : World) (c : Cell) : List (String × Obj) :=
  match c.space with
  | none => c.attrs
  | some d =>
    match (w.cell d).payload with
    | .dict items => items.filterMap fun e => (w.textOf? e.key).map fun name => (name, e.value)
    | _ => []

/-- Whether a text has the characters of a name: as `hostText` gives it, but without a text of the
host being made. -/
def spells : Points → List Char → Bool
  | [], [] => true
  | n :: s, c :: cs => Char.ofNat n = c && spells s cs
  | _, _ => false

/-- Whether an item of a dictionary is under a name. -/
def World.isUnder (w : World) (name : List Char) (e : Item) : Bool :=
  match (w.cell e.key).payload with
  | .str s => spells s name
  | _ => false

/-- An attribute that an object has by itself. -/
def World.attr? (w : World) (o : Obj) (name : String) : Option Obj :=
  let c := w.cell o
  match c.space with
  | none => c.attrs.lookup name
  | some d =>
    match (w.cell d).payload with
    | .dict items => (items.find? (w.isUnder name.toList)).map (·.value)
    | _ => none

/-- Change the cell of an object. -/
def World.setCell (w : World) (o : Obj) (f : Cell → Cell) : World :=
  { w with heap := w.heap.modify o.id f }

/-- One more reference. -/
def World.incref (w : World) (o : Obj) : World :=
  w.setCell o fun c => if c.immortal then c else { c with refs := c.refs + 1 }

/-- The cell of an object. -/
def cellOf (o : Obj) : Exec Cell := do pure ((← get).cell o)

/-- Change the cell of an object. -/
def editCell (o : Obj) (f : Cell → Cell) : Exec Unit := modify fun w => w.setCell o f

def setPayload (o : Obj) (p : Payload) : Exec Unit := editCell o fun c => { c with payload := p }

def payloadOf (o : Obj) : Exec Payload := do pure (← cellOf o).payload

/-- The item in a slot of a list or tuple. -/
def slotAt (o : Obj) (i : Nat) : Exec (Option Obj) := do pure ((← payloadOf o).slot? i)

def classOf (o : Obj) : Exec Obj := do pure (← cellOf o).cls

/-- One more reference. -/
def incref (o : Obj) : Exec Unit := modify fun w => w.incref o

/-- The same object with one more reference. -/
def newRef (o : Obj) : Exec Obj := do
  incref o
  pure o

/-- A new object of a class. -/
def alloc (cls : Obj) (payload : Payload) (attrs : List (String × Obj)) : Exec Obj := do
  incref cls
  let w ← get
  let id := w.heap.size
  set { w with heap := w.heap.push ⟨1, false, false, cls, payload, attrs, none, []⟩ }
  pure ⟨id⟩

def newInt (i : Int) : Exec Obj :=
  match smallInt? i with
  | some o => pure o
  | none => alloc Builtin.int.obj (.int i) []

def newFloat (d : Double) : Exec Obj := alloc Builtin.float.obj (.float d) []

def newStr (s : Points) : Exec Obj :=
  match s with
  | [] => pure emptyStr
  | [c] =>
    match charObj? c with
    | some o => pure o
    | none => alloc Builtin.str.obj (.str s) []
  | s => alloc Builtin.str.obj (.str s) []

def newText (s : String) : Exec Obj := newStr (pointsOf s)

def newBytes (bs : List UInt8) : Exec Obj :=
  match bs with
  | [] => pure emptyBytes
  | [b] => pure (byteObj b)
  | bs => alloc Builtin.bytes.obj (.bytes bs) []

/-- A list that takes over references to its items. -/
def newListOf (items : List Obj) : Exec Obj :=
  alloc Builtin.list.obj (.list (items.map some).toArray) []

/-- A tuple that takes over references to its items. -/
def newTupleOf (items : List Obj) : Exec Obj :=
  match items with
  | [] => pure emptyTuple
  | items => alloc Builtin.tuple.obj (.tuple (items.map some).toArray) []

/-! ## Classes -/

/-- What a class object stands for. -/
inductive ClassView where
  | builtin (c : Builtin)
  | scripted (info : ClassInfo)
  | notAClass

def World.classView (w : World) (o : Obj) : ClassView :=
  match (w.cell o).payload with
  | .builtinClass c => .builtin c
  | .cls info => .scripted info
  | _ => .notAClass

/-- The built-in class that a class is, or is derived from, in at most `fuel` steps. -/
def World.builtinBase (w : World) : Nat → Obj → Builtin
  | 0, _ => .object
  | fuel + 1, o =>
    match w.classView o with
    | .builtin c => c
    | .scripted info => w.builtinBase fuel info.base
    | .notAClass => .object

/-- The scripted classes above a class, itself first. -/
def World.scriptedLineage (w : World) : Nat → Obj → List ClassInfo
  | 0, _ => []
  | fuel + 1, o =>
    match w.classView o with
    | .scripted info => info :: w.scriptedLineage fuel info.base
    | _ => []

/-- The data for its objects that a class made by a script adds to that of its base: a namespace and
weak references, unless the base has them already or has no room for them. -/
def Builtin.addedData (base : Builtin) : List String :=
  (if base.isException then [] else ["__dict__"]) ++
  (if base.isSubclass .int || base = .exceptionGroup then [] else ["__weakref__"])

/-- The depth to which classes can be derived from each other. -/
def lineageFuel : Nat := 64

/-- The built-in class of an object. -/
def World.builtinOf (w : World) (o : Obj) : Builtin := w.builtinBase lineageFuel (w.cell o).cls

def builtinOf (o : Obj) : Exec Builtin := do pure ((← get).builtinOf o)

/-- The name of a class in messages. -/
def World.className (w : World) (cls : Obj) : String :=
  match w.classView cls with
  | .builtin c => c.shownName
  | .scripted info => info.name
  | .notAClass => "object"

/-- The name of an object's class. -/
def typeName (o : Obj) : Exec String := do
  let w ← get
  pure (w.className (w.cell o).cls)

/-- A member of a scripted class or of those above it. -/
def World.member? (w : World) (cls : Obj) (name : String) : Option Obj :=
  (w.scriptedLineage lineageFuel cls).findSome? fun info => info.members.lookup name

/-- A method or property that an object's class has by a script. -/
def scriptedMember? (o : Obj) (name : String) : Exec (Option Obj) := do
  let w ← get
  pure (w.member? (w.cell o).cls name)

/-- Whether an object is a class. -/
def World.isClass (w : World) (o : Obj) : Bool :=
  match w.classView o with
  | .notAClass => false
  | _ => true

/-- Whether a class is an exception class. -/
def World.isExceptionClass (w : World) (o : Obj) : Bool :=
  w.isClass o && (w.builtinBase lineageFuel o).isException

/-- Whether an object is an exception. -/
def World.isException (w : World) (o : Obj) : Bool := (w.builtinOf o).isException

/-- Whether `c` is the class `d` or stands below it. -/
def World.isSubclassIn (w : World) : Nat → Obj → Obj → Bool
  | 0, _, _ => false
  | fuel + 1, c, d =>
    c = d ||
    match w.classView c with
    | .scripted info => w.isSubclassIn fuel info.base d
    | .builtin b =>
      match w.classView d with
      | .builtin b' => b.isSubclass b'
      | _ => false
    | .notAClass => false

def World.isSubclass (w : World) (c d : Obj) : Bool := w.isSubclassIn lineageFuel c d

/-- Whether an object can be called. -/
def World.isCallable (w : World) (o : Obj) : Bool :=
  match (w.cell o).payload with
  | .function .. | .method .. | .builtinFunction .. | .bound .. | .builtinClass _ | .cls _ => true
  | .descriptor _ kind _ => kind = .wrapper || kind = .method
  | .unbound _ => (w.cell o).cls = Builtin.staticmethod.obj
  | _ => (w.member? (w.cell o).cls "__call__").isSome

/-- Whether an object is an instance of a built-in class. -/
def isA (o : Obj) (c : Builtin) : Exec Bool := do pure ((← builtinOf o).isSubclass c)

/-- A new class; references to the members move. Beside those that come from outside, a class is
held by its own tables: by the order of its search and by the data that it adds. Those references
never go. -/
def newClass (name moduleName : String) (base : Obj) (members : List (String × Obj))
    (shownName : Option Obj) : Exec Obj := do
  incref base
  let o ← alloc Builtin.typeClass.obj (.cls ⟨name, moduleName, base, members, shownName⟩) []
  let own := 1 + ((← get).builtinBase lineageFuel base).addedData.length
  editCell o fun c => { c with refs := c.refs + own }
  pure o

/-! ## Raising -/

/-- A new exception of a class with some arguments and fields, which it takes over. -/
def newError (cls : Builtin) (args : List Obj) (fields : List (String × Obj)) : Exec Obj := do
  let tuple ← newTupleOf args
  alloc cls.obj (.error ⟨tuple, fields, none, none, []⟩) []

/-- Raise an exception of a class with some arguments and fields, which it takes over. -/
def throwDetailed {α : Type} (cls : Builtin) (args : List Obj) (fields : List (String × Obj)) :
    Exec α := do
  let value ← newError cls args fields
  throw ⟨value, []⟩

/-- Raise an exception of a class with some arguments, which it takes over. -/
def throwWith {α : Type} (cls : Builtin) (args : List Obj) : Exec α := throwDetailed cls args []

/-- Raise an exception of a class with a message. -/
def throwNew {α : Type} (cls : Builtin) (message : String) : Exec α := do
  let text ← newText message
  throwWith cls [text]

/-- Run a program in a place of Python code: what it raises passes that place. -/
def inFrame {α : Type} (frame : Frame) (x : Exec α) : Exec α :=
  tryCatch x fun r => throw { r with frames := frame :: r.frames }

/-- A text cut to a number of bytes, for messages. -/
def clip (n : Nat) (s : String) : String :=
  if s.utf8ByteSize ≤ n then s
  else Utf8.lossy ((Utf8.bytes s).take n)

end Embedder.Machine
