import Embedder.Machine.Attribute
import Embedder.Machine.Run

/-!
# Running programs

What the functions of importable modules do when they are called: their statements in order, each in
its line, over values that expressions compute. A list made item by item and a generator run in
places of their own, which a traceback shows.
-/

namespace Embedder.Machine

/-- The object that a name stands for in running code: its own names come first, then those of the
module, then the built-in ones. -/
def Activation.lookup (a : Activation) (name : String) : Exec Obj := do
  let found (w : World) : Option Obj :=
    match a.values.lookup name with
    | some o => some o
    | none =>
      match w.attr? a.home name with
      | some o => some o
      | none => w.attr? w.builtins name
  match found (← get) with
  | some o => newRef o
  | none => notDefined name

/-- A part of running code that runs by itself, with names of its own. -/
def Activation.inner (a : Activation) (function : String) (names : List String) : Activation :=
  { a with function := function, names := ".0" :: names }

/-- The same code with a value for a name. -/
def Activation.bind (a : Activation) (name : String) (o : Obj) : Activation :=
  { a with values := (name, o) :: a.values }

/-- The parts of an object that is to have so many (new). -/
def unpack (count : Nat) (o : Obj) : Exec (List Obj) := do
  match ← iteratorOf? o with
  | none => do
    let t ← typeName o
    throwNew .typeError ("cannot unpack non-iterable " ++ clip 200 t ++ " object")
  | some it =>
    holding it do
      let rec take : (left : Nat) → List Obj → Exec (List Obj)
        | 0, done => do
          match ← nextOrEnd it with
          | none => pure done.reverse
          | some extra => do
            release extra
            throwNew .valueError s!"too many values to unpack (expected {count})"
        | left + 1, done => do
          match ← nextOrEnd it with
          | some o => take left (o :: done)
          | none =>
            throwNew .valueError
              s!"not enough values to unpack (expected {count}, got {done.length})"
      take count []

/-- Go on with an item of an iterator bound to some names: to one as it is, to several part by
part. -/
def Activation.withItem {α : Type} (a : Activation) (names : List String) (o : Obj)
    (x : Activation → Exec α) : Exec α :=
  match names with
  | [name] => x (a.bind name o)
  | names => do
    let parts ← unpack names.length o
    holdingAll parts (x { a with values := names.zip parts ++ a.values })

/-- Collect what a program makes of each item of an iterator, where it makes something. -/
def gatherFrom (it : Obj) (f : Obj → Exec (Option Obj)) : (fuel : Nat) →
    Array Obj → Exec (Array Obj)
  | 0, acc => pure acc
  | fuel + 1, acc => do
    let step : Exec (Option (Option Obj)) := do
      match ← nextOrEnd it with
      | none => pure none
      | some o => some <$> holding o (f o)
    match ← Exec.outcome step with
    | .ok none => pure acc
    | .ok (some made) => gatherFrom it f fuel (acc ++ made.toArray)
    | .error r => do
      releaseList acc.toList.reverse
      throw r

mutual

/-- The value of an expression in a line of running code. -/
def eval : Expr → (line : Nat) → Activation → Exec Obj
  | .nothing, _, _ => pure noneObj
  | .int i, _, _ => newInt i
  | .float d, _, _ => newFloat d
  | .text s, _, _ => newText s
  | .name n, _, a => a.lookup n
  | .attribute e name, line, a => do
    let o ← eval e line a
    holding o (getAttr o name)
  | .call f args, line, a => do
    let g ← eval f line a
    holding g do
      let os ← evalAll args line a
      holdingAll os (callObj g os)
  | .binary op x y, line, a => do
    let u ← eval x line a
    holding u do
      let v ← eval y line a
      holding v (operate op u v)
  | .compare op x y, line, a => do
    let u ← eval x line a
    holding u do
      let v ← eval y line a
      holding v (innerCompare op u v)
  | .list items, line, a => do
    let os ← evalAll items line a
    newListOf os
  | .collect element names source condition, line, a => do
    let o ← eval source line a
    let it ← holding o (iteratorOf o)
    let inner := a.inner "<listcomp>" names
    holding it (inFrame (inner.frame line) do
      let items ← gatherFrom it
        (fun o => inner.withItem names o fun b => do
          if ← evalCondition condition line b then some <$> eval element line b
          else pure none)
        walkFuel #[]
      newListOf items.toList)
  | .lazily element name source, line, a => do
    let o ← eval source line a
    let it ← holding o (iteratorOf o)
    a.values.forM fun e => incref e.2
    alloc Builtin.generator.obj
      (.generator (.elements (a.inner "<genexpr>" [name]) line element name it) false) []

/-- The values of some expressions in order. -/
def evalAll : List Expr → (line : Nat) → Activation → Exec (List Obj)
  | [], _, _ => pure []
  | e :: rest, line, a => do
    let o ← eval e line a
    match ← Exec.outcome (evalAll rest line a) with
    | .ok os => pure (o :: os)
    | .error r => do
      release o
      throw r

/-- Whether a condition holds, if there is one. -/
def evalCondition : Option Expr → (line : Nat) → Activation → Exec Bool
  | none, _, _ => pure true
  | some e, line, a => do truthOf (← eval e line a)

end

/-- How statements ended. -/
inductive Flow where
  /-- All of them ran. -/
  | finished
  /-- One gave a result. -/
  | gave (o : Obj)
  /-- One handed out an item; the rest waits in code that keeps references to its values. -/
  | paused (item : Obj) (a : Activation) (rest : List Stmt)

mutual

/-- Run a statement and then others. -/
def runStmt : Stmt → (rest : Activation → Exec Flow) → (after : List Stmt) → Activation → Exec Flow
  | .assign line name e, rest, _, a => do
    let o ← inFrame (a.frame line) (eval e line a)
    holding o (rest (a.bind name o))
  | .increase line name e, rest, _, a => do
    inFrame (a.frame line) do
      let old ← a.lookup name
      let new ← holding old do
        let o ← eval e line a
        holding o (increase old o)
      storeAttr a.home name new
    rest a
  | .whenTrue line condition body, rest, after, a => do
    if ← inFrame (a.frame line) (evalCondition (some condition) line a) then
      match ← runAll body a with
      | .finished => rest a
      | .gave o => pure (.gave o)
      | .paused item b inner => pure (.paused item b (inner ++ after))
    else rest a
  | .give line e, _, _, a => .gave <$> inFrame (a.frame line) (eval e line a)
  | .raise line e, _, _, a =>
    inFrame (a.frame line) do
      let o ← eval e line a
      let v ← raisable o
      throwAgain v
  | .yield line e, _, after, a => do
    let o ← inFrame (a.frame line) (eval e line a)
    a.values.forM fun e => incref e.2
    pure (.paused o a after)

/-- Run statements in order. -/
def runAll : List Stmt → Activation → Exec Flow
  | [], _ => pure .finished
  | s :: rest, a => runStmt s (runAll rest) rest a

end

/-! ## Calls -/

/-- The error for more arguments than a function takes. -/
def tooMany (name : String) (taken given : Nat) : Exec Unit :=
  let s := if taken = 1 then "" else "s"
  let were := if given = 1 then "was" else "were"
  throwNew .typeError (name ++
    s!"() takes {taken} positional argument{s} but {given} {were} given")

/-- Check the number of arguments of a function. -/
def Function.checkCount (f : Function) (given : Nat) : Exec Unit :=
  let n := f.parameters.length
  if given < n then
    let missing := (f.parameters.drop given).map fun p => "'" ++ p ++ "'"
    let s := if missing.length = 1 then "" else "s"
    throwNew .typeError (f.qualifiedName ++
      s!"() missing {missing.length} required positional argument{s}: " ++
      " and ".intercalate missing)
  else if n < given then
    tooMany f.qualifiedName n given
  else pure ()

/-- Call a function of a module. One that pauses gives a generator. -/
def callProgram (f : Function) (home : Obj) (args : List Obj) : Exec Obj := do
  f.checkCount args.length
  args.forM incref
  let a : Activation := ⟨f.file, f.name, home, f.names, f.parameters.zip args⟩
  if f.pauses then
    alloc Builtin.generator.obj (.generator (.statements a f.body) false) []
  else
    holdingAll args do
      match ← runAll f.body a with
      | .gave o => pure o
      | .finished => pure noneObj
      | .paused item b _ => do
        releaseList (item :: b.values.map (·.2))
        pure noneObj

/-- A new function of a module. -/
def newProgram (f : Function) (home : Obj) : Exec Obj :=
  alloc Builtin.function.obj (.function f.name f.qualifiedName (.program f home)) []

/-- Call what stands in a class statement as a function of its own: the module gets what is defined
there. -/
def callClassBody (b : ClassBody) (home : Obj) (args : List Obj) : Exec Obj := do
  if !args.isEmpty then tooMany b.name 0 args.length
  let a : Activation := ⟨b.file, b.name, home, [], []⟩
  let origin ← inFrame (a.frame b.line) (a.lookup "__name__")
  storeAttr home "__module__" origin
  storeAttr home "__qualname__" (← newText b.name)
  b.methods.forM fun f => do
    let o ← newProgram f home
    storeAttr home f.name o
  pure noneObj

/-! ## Generators -/

/-- The next item of what is left of a generator, and what is left then. The references in it
move. -/
def Remaining.step : Remaining → Exec (Option Obj × Remaining)
  | .nothing => pure (none, .nothing)
  | .script _ [] => pure (none, .nothing)
  | .script frame (action :: rest) => do
    let o ← inFrame frame (runAction [] (stepAction action).1)
    pure (some o, .script frame rest)
  | .elements a line element name source => do
    let own := source :: a.values.map (·.2)
    let step : Exec (Option Obj) := inFrame (a.frame line) do
      match ← nextOrEnd source with
      | none => pure none
      | some o => some <$> holding o (eval element line (a.bind name o))
    match ← Exec.outcome step with
    | .ok (some o) => pure (some o, .elements a line element name source)
    | .ok none => do
      releaseList own
      pure (none, .nothing)
    | .error r => do
      releaseList own
      throw r
  | .statements a rest =>
    holdingAll (a.values.map (·.2)) do
      match ← runAll rest a with
      | .paused item b rest => pure (some item, .statements b rest)
      | .gave o => do
        release o
        pure (none, .nothing)
      | .finished => pure (none, .nothing)

/-- The error for a generator that raised what would end a walk over it. -/
def stoppedInside {α : Type} (r : Raised) : Exec α := do
  keepTrace r.value r.frames
  let text ← newText "generator raised StopIteration"
  let args ← newTupleOf [text]
  incref r.value
  let e ← alloc Builtin.runtimeError.obj (.error ⟨args, [], some r.value, some r.value, []⟩) []
  throw ⟨e, []⟩

/-- The next item of a generator. -/
def resumeGenerator (it : Obj) (rest : Remaining) : Exec (Option Obj) := do
  setPayload it (.generator .nothing true)
  match ← Exec.outcome rest.step with
  | .ok (item, rest) => do
    setPayload it (.generator rest true)
    pure item
  | .error r => if ← raisedIs .stopIteration r then stoppedInside r else throw r

end Embedder.Machine
