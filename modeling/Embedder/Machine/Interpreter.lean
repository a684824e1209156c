import Embedder.Machine.Shutdown

/-!
# The interpreter as a guest

`python` offers what a host can ask of an interpreter: each call runs a program over the state to
its end and hands a raised exception over in parts.
-/

namespace Embedder.Machine

/-- The effect of having come to a state. -/
def World.effect {α : Type} (w : World) (value : α) : Effect World α :=
  ⟨value, { w with notices := [] }, w.notices⟩

/-- An exception in parts; the reference moves. -/
def pendingOf (r : Raised) : Exec Pending := do
  let kind ← classOf r.value
  incref kind
  if r.frames.isEmpty then pure ⟨kind, some r.value, none⟩
  else do
    let trace ← newTrace r.frames
    pure ⟨kind, some r.value, some trace⟩

/-- The answer that an outcome stands for. -/
def replyOf {α : Type} : Except Raised α → Exec (Reply α)
  | .ok a => pure (.value a)
  | .error r => do
    let p ← pendingOf r
    pure (.raised p)

/-- Run a program for the host. -/
def Exec.outcomeFor {α : Type} (x : Exec α) (w : World) : Outcome World α :=
  match (Exec.outcome x >>= replyOf).run w with
  | (.ok reply, w) => w.effect reply
  | (.error _, w) => w.effect .failed

/-- Run a program that raises nothing for the host. -/
def Exec.effectFor {α : Type} (x : Exec α) (d : α) (w : World) : Effect World α :=
  match x.run w with
  | (.ok a, w) => w.effect a
  | (.error _, w) => w.effect d

/-! ## Containers -/

/-- The error for a container of the wrong kind or of an impossible size. -/
def badCall {α : Type} (place : String) : Exec α :=
  throwNew .systemError (place ++ ": bad argument to internal function")

/-- The number of slots that a new container can have. -/
def maxSlots : Int := 2 ^ 27

/-- A list with empty slots. -/
def newEmptyList (n : Int) : Exec Obj :=
  if n < 0 then badCall "../Objects/listobject.c:160"
  else if maxSlots < n then throwWith .memoryError []
  else alloc Builtin.list.obj (.list (Array.replicate n.toNat none)) []

/-- A tuple with empty slots. -/
def newEmptyTuple (n : Int) : Exec Obj :=
  if n < 0 then badCall "../Objects/tupleobject.c:36"
  else if n = 0 then pure emptyTuple
  else if maxSlots < n then throwWith .memoryError []
  else alloc Builtin.tuple.obj (.tuple (Array.replicate n.toNat none)) []

/-- The number of slots of a list. -/
def listSize? (o : Obj) : Exec (Option Nat) := do
  match ← payloadOf o with
  | .list slots => pure (some slots.size)
  | _ => pure none

/-- The number of slots of a tuple that nobody else holds. -/
def ownTupleSize? (o : Obj) : Exec (Option Nat) := do
  let c ← cellOf o
  match c.payload with
  | .tuple slots => pure (if c.immortal ∨ c.refs ≠ 1 then none else some slots.size)
  | _ => pure none

/-- Put an item into a slot of a container with so many slots; its reference moves. `label` is what
an error calls the container. -/
def placeItem (container : Obj) (size : Nat) (index : Int) (item : Obj) (label : String) :
    Exec Unit :=
  if 0 ≤ index ∧ index < size then do
    let old ← slotAt container index.toNat
    editCell container fun c => { c with payload := c.payload.withSlot index.toNat item }
    releaseList old.toList
  else do
    release item
    throwNew .indexError (label ++ " assignment index out of range")

/-- Fill a slot of a list; the item's reference moves. -/
def fillList (list : Obj) (index : Int) (item : Obj) : Exec Unit := do
  match ← listSize? list with
  | some size => placeItem list size index item "list"
  | none => do
    release item
    badCall "../Objects/listobject.c:264"

/-- Fill a slot of a tuple, which nobody else may hold; the item's reference moves. -/
def fillTuple (tuple : Obj) (index : Int) (item : Obj) : Exec Unit := do
  match ← ownTupleSize? tuple with
  | some size => placeItem tuple size index item "tuple"
  | none => do
    release item
    badCall "../Objects/tupleobject.c:117"

/-- Append to a list, which takes a reference of its own. -/
def appendTo (list item : Obj) : Exec Unit := do
  match ← listSize? list with
  | some _ => do
    incref item
    editCell list fun c => { c with payload := c.payload.pushing item }
  | none => badCall "../Objects/listobject.c:338"

/-! ## Texts and calls -/

/-- The contents of texts, from the index `i` on. -/
def textParts (i : Nat) : List Obj → Exec (List Points)
  | [] => pure []
  | o :: rest => do
    match ← payloadOf o with
    | .str s => do
      let parts ← textParts (i + 1) rest
      pure (s :: parts)
    | _ => do
      let t ← typeName o
      throwNew .typeError ("sequence item " ++ toString i ++ ": expected str instance, " ++
        clip 80 t ++ " found")

/-- Put texts together with a separator between them. -/
def joinTexts (separator texts : Obj) : Exec Obj := do
  match ← payloadOf separator with
  | .str s => do
    let items ← itemsOf texts
    holdingAll items do
      let parts ← textParts 0 items
      newStr (List.intercalate s parts)
  | _ => throwNew .typeError "separator: expected str instance"

/-- Call an object with a tuple of arguments, or with none. -/
def callWithTuple (f : Obj) (args : Option Obj) : Exec Obj := do
  match args with
  | none => callObj f []
  | some t =>
    match ← payloadOf t with
    | .tuple slots => callObj f (slotItems slots)
    | _ => throwNew .typeError "argument list must be a tuple"

/-! ## Exceptions -/

/-- The arguments that a value in place of an exception stands for. -/
def argsOfValue : Option Obj → Exec (List Obj)
  | none => pure []
  | some v =>
    if v = noneObj then pure []
    else do
      match ← payloadOf v with
      | .tuple slots => pure (slotItems slots)
      | _ => pure [v]

/-- Give an exception in parts an instance for a value. A value that is an instance of the class or
of one below it stays, and its own class counts; any other is an argument for a new instance. -/
def normalizeParts (p : Pending) : Exec Pending := do
  let w ← get
  if !w.isExceptionClass p.kind then pure p
  else do
    let fits := match p.value with
      | some v => w.isException v && w.isSubclass (w.cell v).cls p.kind
      | none => false
    if fits then
      match p.value with
      | some v => do
        let cls ← classOf v
        incref cls
        release p.kind
        pure { p with kind := cls }
      | none => pure p
    else do
      let args ← argsOfValue p.value
      let made ← Exec.outcome (callObj p.kind args)
      releaseList p.value.toList
      match made with
      | .ok e => pure { p with value := some e }
      | .error r => do
        release p.kind
        let q ← pendingOf r
        match q.trace with
        | none => pure { q with trace := p.trace }
        | some _ => do
          releaseList p.trace.toList
          pure q

/-- The places in a traceback. -/
def framesOf (trace : Option Obj) : Exec (List Frame) := do
  match trace with
  | none => pure []
  | some t =>
    match ← payloadOf t with
    | .traceback frames => pure frames
    | _ => pure []

/-- The status that the value of an exception asks for when it ends the process. A value that is no
number is written. -/
def exitStatus (value : Option Obj) : Exec Nat := do
  let code ← match value with
    | none => pure noneObj
    | some v =>
      match ← payloadOf v with
      | .error info => pure ((info.fields.lookup "code").getD noneObj)
      | _ => pure v
  if code = noneObj then pure 0
  else
    match (← get).intValue? code with
    | some i => pure (if isWord i then (i % 256).toNat else 255)
    | none => do
      match (← setting? "stderr").filter (· ≠ noneObj) with
      | some file => recover (writeShown file (innerStr code)) (fun _ => pure true) (pure ())
      | none => pure ()
      writeError "\n"
      pure 1

/-- The status of the process where an exception of a class ends it. -/
def exitStatus? (kind : Obj) (value : Option Obj) : Exec (Option Nat) := do
  if (← get).isSubclass kind Builtin.systemExit.obj then do
    let status ← exitStatus value
    some <$> if ← flushStreams then pure status else pure 120
  else pure none

/-- Show an exception to the hook for those that nobody handles. Where the hook fails, its failure
and the exception are printed. -/
def showToHook (hook kind value : Obj) (trace : Option Obj) : Exec (Option Nat) := do
  incref hook
  match ← Exec.outcome (holding hook (callObj hook [kind, value, trace.getD noneObj])) with
  | .ok r => do
    release r
    pure none
  | .error r =>
    match ← exitStatus? (← classOf r.value) (some r.value) with
    | some status => pure (some status)
    | none => do
      writeError "Error in sys.excepthook:\n"
      displayRaised r.value r.frames
      writeError "\nOriginal exception was:\n"
      displayError value
      release r.value
      pure none

/-- Print an exception in parts, whose references move; the status if it ends the process. -/
def printParts (p : Pending) : Exec (Option Nat) := do
  match ← exitStatus? p.kind p.value with
  | some status => pure (some status)
  | none => do
    let p ← normalizeParts p
    let status ← match p.value with
      | none => pure none
      | some v => do
        keepTrace v (← framesOf p.trace)
        match ← setting? "excepthook" with
        | some hook => showToHook hook p.kind v p.trace
        | none => do
          writeError "sys.excepthook is missing\n"
          displayError v
          pure none
    releaseList (p.kind :: p.value.toList ++ p.trace.toList)
    pure status

/-- The traceback that an exception keeps, as an object. -/
def keptTrace? (value : Option Obj) : Exec (Option Obj) := do
  match value with
  | none => pure none
  | some v =>
    match ← payloadOf v with
    | .error info => if info.trace.isEmpty then pure none else some <$> newTrace info.trace
    | _ => pure none

/-- An exception in parts from a class and a value, whose references are borrowed. Anything but an
exception class is refused by another exception, which says what it is if that can be said. -/
def partsFor (kind : Obj) (value : Option Obj) : Exec Pending := do
  let w ← get
  if w.isExceptionClass kind then do
    incref kind
    value.toList.forM incref
    let trace ← keptTrace? value
    pure ⟨kind, value, trace⟩
  else do
    let message : Exec (List Obj) := do
      let shown ← innerRepr kind
      let text ← newStr (pointsOf "_PyErr_SetObject: exception " ++ shown ++
        pointsOf " is not a BaseException subclass")
      pure [text]
    let args ← recover message (fun _ => pure true) (pure [])
    pendingOf ⟨← newError .systemError args [], []⟩

/-! ## The guest -/

/-- Let go of a reference while the lifecycle is busy or not. -/
def releaseWhile (busy : Bool) (o : Obj) (w : World) : Effect World Unit :=
  let before := w.busy
  let e := (release o).effectFor () { w with busy := busy }
  { e with world := { e.world with busy := before } }

/-- The interpreter that hosts embed. -/
def python : Guest World where
  isUp w := w.up
  boot generation w := w.boot generation
  shutdown w := shutdownProgram.effectFor true w
  retain o w := w.incref o
  release o w := releaseWhile false o w
  releaseKept busy k w := releaseWhile busy k.obj w
  refcount o w := (w.cell o).refs
  importModule name w := (importModule name).outcomeFor w
  addModule name w := (addModule name).outcomeFor w
  namespaceOf o w := w.effect (.value o)
  lookup space name w := w.attr? space name
  isCallable o w := w.isCallable o
  getAttr o name w := (getAttr o name).outcomeFor w
  length o w := (lengthOf o).outcomeFor w
  str o w := (convertStr o).outcomeFor w
  text o w := (contentsOf o).outcomeFor w
  newText s w := (newText s).outcomeFor w
  joinTexts separator texts w := (joinTexts separator texts).outcomeFor w
  newList n w := (newEmptyList n).outcomeFor w
  newTuple n w := (newEmptyTuple n).outcomeFor w
  setListItem list index item w := (fillList list index item).outcomeFor w
  setTupleItem tuple index item w := (fillTuple tuple index item).outcomeFor w
  append list item w := (appendTo list item).outcomeFor w
  ofFloat d w := (newFloat d).outcomeFor w
  ofInt n w := (newInt n.toInt).outcomeFor w
  ofBool b w := w.effect (.value (boolObj b))
  trueObj := trueObj
  falseObj := falseObj
  isFloat o w := (w.floatValue? o).isSome
  toFloat o w := (asFloat o).outcomeFor w
  toInt o w := (asInt64 o).outcomeFor w
  iterator o w := (iteratorOf o).outcomeFor w
  call f args w := (callWithTuple f args).outcomeFor w
  searchPath w := w.attr? w.system "path"
  normalize p w := (normalizeParts p).effectFor p w
  isStopIteration p w := w.isSubclass p.kind Builtin.stopIteration.obj
  print p w := (printParts p).effectFor none w

end Embedder.Machine
