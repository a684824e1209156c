import Embedder.Machine.Docs
import Embedder.Machine.Error
import Embedder.Machine.FunctionTexts
import Embedder.Machine.Layout
import Embedder.Machine.Members

/-!
# Attributes

An attribute is looked for in the class, where data has precedence, then in the object, then in the
class again: functions are bound to the object. A class is searched like an object, with its own
members and those of its bases in place of attributes. Classes can take part in the search by
`__getattribute__` and `__getattr__`, modules by a function `__getattr__`.

An error about an attribute that is not there remembers the object and the name.
-/

namespace Embedder.Machine

/-! ## Members of classes -/

/-- A member of a class, as an object of the class finds it. -/
inductive ClassMember where
  /-- One that a script gave. -/
  | scripted (m : Obj)
  /-- One that every class made by a script has. -/
  | implicit (info : ClassInfo)
  /-- One that a built-in class has from birth. -/
  | born (owner : Builtin) (kind : MemberKind)

/-- The names that every class made by a script has. -/
def implicitNames (base : Builtin) : List String := "__module__" :: base.addedData ++ ["__doc__"]

/-- The member that a class has under a name. -/
def World.classMember? (w : World) (cls : Obj) (name : String) : Option ClassMember :=
  match w.member? cls name with
  | some m => some (.scripted m)
  | none =>
    let base := w.builtinBase lineageFuel cls
    let born := (base.memberKind? name).map fun (c, k) => ClassMember.born c k
    match w.classView cls with
    | .scripted info => if name ∈ implicitNames base then some (.implicit info) else born
    | _ => born

/-- The classes above a class in the order of a search, itself first. -/
def World.searchOrder (w : World) : (fuel : Nat) → Obj → List Obj
  | 0, _ => []
  | fuel + 1, cls =>
    match w.classView cls with
    | .scripted info => cls :: w.searchOrder fuel info.base
    | .builtin c => c.lineage.map Builtin.obj
    | .notAClass => []

/-- A text that an object keeps under a name. -/
def keptText (o : Obj) (name text : String) : Exec Obj := keptAs o name (newText text)

/-- The qualified name of an object that has a name too: one object, where they are equal. -/
def qualifiedText (o : Obj) (name qualifiedName : String) : Exec Obj :=
  if qualifiedName = name then keptText o "__name__" name
  else keptText o "__qualname__" qualifiedName

/-- An optional text as an object. -/
def newTextOrNone : Option String → Exec Obj
  | some s => newText s
  | none => pure noneObj

/-- An object, or none in its place. -/
def refOrNone (o : Option Obj) : Exec Obj := newRef (o.getD noneObj)

/-! ## Data -/

/-- A number itself if it is of the plain class, else a plain copy. -/
def plainNumber (o cls : Obj) (plain : Builtin) (copy : Exec Obj) : Exec Obj :=
  if cls = plain.obj then newRef o else copy

/-- The documentation of a function of a module. -/
def Code.doc? : Code → Option String
  | .program f _ => f.doc
  | .body b _ => some b.name
  | .script _ => none
  | .folderHook => some "Path hook for importlib.machinery.FileFinder."

/-- The module that a function says it is from. -/
def Code.moduleName : Code → Exec Obj
  | .script _ => pure noneObj
  | .folderHook => newText "_frozen_importlib_external"
  | .program _ home | .body _ home => do
    refOrNone ((← get).attr? home "__name__")

/-- An object for the code of a function with a name: where it begins, how many arguments it takes
and the names that it keeps to itself. -/
def newCode (name qualifiedName : String) (code : Code) : Exec Obj := do
  let optimized := 3
  let takesMore := 4
  let pauses := 32
  let (file, line, parameters, names, flags) :=
    match code with
    | .script _ => ("world.py", 1, 0, ["a"], optimized + takesMore)
    | .program f _ =>
      (f.file, f.line, f.parameters.length, f.names, optimized + (if f.pauses then pauses else 0))
    | .body b _ => (b.file, b.line, 0, [], 0)
    | .folderHook =>
      ("<frozen importlib._bootstrap_external>", 1696, 1, ["path"], optimized + 16)
  let texts (items : List String) : Exec Obj := do newTupleOf (← items.mapM newText)
  let numbers : List (String × Nat) :=
    [("co_argcount", parameters), ("co_posonlyargcount", 0), ("co_kwonlyargcount", 0),
      ("co_nlocals", names.length), ("co_flags", flags), ("co_firstlineno", line)]
  let numbers ← numbers.mapM fun (key, n) => do pure (key, ← newInt n)
  let known : List (String × Obj) := [("co_name", ← newText name),
    ("co_qualname", ← newText qualifiedName), ("co_filename", ← newText file),
    ("co_varnames", ← texts names), ("co_freevars", ← texts []), ("co_cellvars", ← texts [])]
  let o ← alloc Builtin.code.obj .plain []
  editCell o fun c => { c with kept := numbers ++ known }
  pure o

/-- The built-in class that a special method of an object is from. -/
def World.wrapperOwner (w : World) (self : Obj) (name : String) : Builtin :=
  let cls := if w.isClass self then .typeClass else w.builtinOf self
  ((cls.memberKind? name).map (·.1)).getD cls

/-- The built-in class that a method of an object or of a class is from. -/
def World.memberOwner (w : World) (self : Obj) (name : String) : Builtin :=
  if w.isClass self then
    match (w.builtinBase lineageFuel self).memberKind? name with
    | some (owner, _) => owner
    | none => w.wrapperOwner self name
  else w.wrapperOwner self name

/-- The texts of the data that a class made by a script adds to its objects. -/
def implicitTexts : String → Texts
  | "__dict__" => ⟨none, some "dictionary for instance variables (if defined)"⟩
  | "__weakref__" => ⟨none, some "list of weak references to the object (if defined)"⟩
  | _ => ⟨none, none⟩

/-- The texts of something as data. -/
def Texts.data (t : Texts) : List (String × Exec Obj) :=
  [("__doc__", newTextOrNone t.doc), ("__text_signature__", newTextOrNone t.signature)]

/-- The data of a function of a module. -/
def functionData (self : Option Obj) (origin name : String) : List (String × Exec Obj) :=
  [("__name__", newText name), ("__qualname__", newText name), ("__self__", refOrNone self),
    ("__module__", newText origin)] ++ (functionTexts origin name).data

/-- The texts of a member that a class has from birth, by its kind. -/
def memberTexts (owner : Builtin) (kind : MemberKind) (name : String) : Texts :=
  if kind = .wrapper ∨ name = "__new__" then
    let texts := wrapperTexts? name
    ⟨texts.bind (·.1), texts.map (·.2)⟩
  else owner.memberTexts name

/-- The data of a special method of an object. -/
def wrapperData (w : World) (name : String) (self : Obj) : List (String × Exec Obj) :=
  let owner := w.wrapperOwner self name
  [("__name__", newText name), ("__qualname__", newText (owner.name ++ "." ++ name)),
    ("__objclass__", pure owner.obj), ("__self__", newRef self)] ++
  (memberTexts owner .wrapper name).data

/-- The data of a method of an object, which is named after the object's class. -/
def methodData (w : World) (kind : MemberKind) (name : String) (self : Obj) :
    List (String × Exec Obj) :=
  let owner := w.className (if w.isClass self then self else (w.cell self).cls)
  let isModule := (w.cell self).payload matches .moduleNamed _
  let hasSelf := kind ≠ .staticMethod || name = "__new__"
  [("__name__", newText name),
    ("__qualname__", newText (if isModule then name else owner ++ "." ++ name)),
    ("__self__", refOrNone (if hasSelf then some self else none)),
    ("__module__", pure noneObj)] ++
  (memberTexts (w.memberOwner self name) kind name).data

/-- The fields of an exception and what else is known of it. -/
def errorData (o : Obj) (info : ErrorInfo) : List (String × Exec Obj) :=
  [("args", newRef info.args), ("__cause__", refOrNone info.cause),
    ("__context__", refOrNone info.context),
    ("__suppress_context__", do
      match (← cellOf o).kept.lookup "__suppress_context__" with
      | some v => newRef v
      | none => pure (boolObj info.cause.isSome)),
    ("__dict__", namespaceOf o),
    ("__traceback__", do
      if info.trace.isEmpty then pure noneObj
      else do
        let t ← keptAs o "__traceback__" (alloc Builtin.traceback.obj (.traceback []) [])
        setPayload t (.traceback info.trace)
        pure t),
    ("characters_written", do
      match info.fields.lookup "characters_written" with
      | some n => newRef n
      | none => throwNew .attributeError "characters_written")] ++
  info.fields.map fun e => (e.1, newRef e.2)

/-- What the description of a module says by way of what it holds: the package that the module is
in, or is itself, the place of its compiled code, and whether it has a place. -/
def specData (o : Obj) : List (String × Exec Obj) :=
  let held (name : String) : Exec Obj := do refOrNone ((← get).attr? o name)
  [("parent", do
      let w ← get
      let name ← held "name"
      if (w.attr? o "submodule_search_locations").getD noneObj ≠ noneObj then pure name
      else holding name (newText (".".intercalate
        (((w.textOf? name).getD "").splitOn ".").dropLast))),
    ("cached", held "_cached"), ("has_location", held "_set_fileattr"),
    ("__dict__", namespaceOf o)]

/-- The data of an object by its class and its payload. -/
def payloadData (w : World) (o : Obj) (c : Cell) : List (String × Exec Obj) :=
  match c.payload with
  | .function name qualifiedName code =>
    [("__name__", keptText o "__name__" name),
      ("__qualname__", qualifiedText o name qualifiedName),
      ("__module__", keptAs o "__module__" code.moduleName),
      ("__doc__", keptAs o "__doc__" (newTextOrNone code.doc?)),
      ("__code__", keptAs o "__code__" (newCode name qualifiedName code)),
      ("__dict__", namespaceOf o), ("__annotations__", keptAs o "__annotations__" (newDictOf [])),
      ("__globals__", match code with
        | .program _ home | .body _ home => namespaceOf home
        | _ => pure noneObj)]
  | .builtinFunction moduleName name =>
    functionData (w.modules.lookup moduleName) moduleName name
  | .bound .wrapper name self => wrapperData w name self
  | .bound kind name self => methodData w kind name self
  | .descriptor owner kind name =>
    [("__name__", newText name), ("__objclass__", newRef owner),
      ("__qualname__", newText (w.className owner ++ "." ++ name))] ++
    match w.classView owner with
    | .builtin b => (memberTexts b kind name).data
    | _ => (implicitTexts name).data
  | .method f self => [("__func__", newRef f), ("__self__", newRef self)]
  | .property getter =>
    let kept (name : String) : String × Exec Obj := (name, refOrNone (c.kept.lookup name))
    [("fget", newRef getter), kept "fset", kept "fdel", kept "__doc__",
      ("__isabstractmethod__", pure falseObj)]
  | .slice start stop step =>
    [("start", newRef start), ("stop", newRef stop), ("step", newRef step)]
  | .unbound target =>
    [("__func__", newRef target), ("__wrapped__", newRef target), ("__dict__", namespaceOf o),
      ("__isabstractmethod__", pure falseObj)]
  | .above top seen =>
    [("__thisclass__", newRef top), ("__self__", refOrNone (seen.map (·.1))),
      ("__self_class__", refOrNone (seen.map (·.2)))]
  | .error info => errorData o info
  | .range start stop step =>
    [("start", keptAs o "start" (newInt start)), ("stop", keptAs o "stop" (newInt stop)),
      ("step", keptAs o "step" (newInt step))]
  | .complex re im => [("real", newFloat re), ("imag", newFloat im)]
  | .float d =>
    [("real", plainNumber o c.cls .float (newFloat d)), ("imag", newFloat Double.zero)]
  | .int i =>
    [("real", plainNumber o c.cls .int (newInt i)),
      ("numerator", plainNumber o c.cls .int (newInt i)), ("imag", newInt 0),
      ("denominator", newInt 1)]
  | .bool b =>
    let i : Int := if b then 1 else 0
    [("real", newInt i), ("numerator", newInt i), ("imag", newInt 0), ("denominator", newInt 1)]
  | .moduleNamed _ =>
    [("__dict__", namespaceOf o),
      ("__annotations__", do
        match w.attr? o "__annotations__" with
        | some a => newRef a
        | none => do
          let a ← newDictOf []
          storeAttr o "__annotations__" a
          newRef a)]
  | .generator rest started =>
    [("__name__", keptText o "__name__" "gen"), ("__qualname__", keptText o "__name__" "gen"),
      ("gi_running", pure falseObj),
      ("gi_suspended", pure (boolObj (started && !(rest matches .nothing))))]
  | .plain =>
    if c.cls = Builtin.textStream.obj then
      [("closed", pure falseObj), ("encoding", newText "utf-8"),
        ("name", refOrNone (w.attr? o "name"))]
    else if c.cls = Builtin.moduleSpec.obj then specData o
    else if c.cls = Builtin.namespacePath.obj then [("_epoch", newInt 0)]
    else []
  | _ => []

/-- The data that an object has under a name that its class has from birth. -/
def dataOf (o : Obj) (name : String) : Exec Obj := do
  let w ← get
  let c := w.cell o
  if name = "__class__" then newRef c.cls
  else
    match (payloadData w o c).lookup name with
    | some x => x
    | none => refOrNone (c.kept.lookup name)

/-! ## The search in an object -/

/-- A member that an object's class has from birth, for the object. -/
def bornMember (o : Obj) (owner : Builtin) (kind : MemberKind) (name : String) : Exec Obj := do
  let bind (cls self : Obj) : Exec Obj := do
    incref self
    alloc cls (.bound kind name self) []
  match kind with
  | .wrapper => bind Builtin.methodWrapper.obj o
  | .method => bind Builtin.builtinFunction.obj o
  | .classMethod => bind Builtin.builtinFunction.obj (← classOf o)
  | .staticMethod => bind Builtin.builtinFunction.obj owner.obj
  | .getset | .member | .value => dataOf o name

/-- A function bound to the object that stands before its arguments. -/
def bindFunction (f self : Obj) : Exec Obj := do
  incref f
  incref self
  alloc Builtin.method.obj (.method f self) []

/-- The methods of a class that are bound to the class and not to its objects. -/
def classMethodNames : List String := ["__init_subclass__", "__class_getitem__"]

/-- A member that a script gave to a class under a name, as the class shows it. -/
def bindInClass (cls : Obj) (name : String) (m : Obj) : Exec Obj := do
  match ← payloadOf m with
  | .function .. => if name ∈ classMethodNames then bindFunction m cls else newRef m
  | .unbound target => if ← isA m .classmethod then bindFunction target cls else newRef target
  | _ => newRef m

/-- A member that a script gave to a class under a name, for an object of the class. What makes new
objects is bound to nothing. -/
def bindMember (o : Obj) (name : String) (m : Obj) : Exec Obj := do
  match ← payloadOf m with
  | .function .. =>
    if name = "__new__" || name ∈ classMethodNames then bindInClass (← classOf o) name m
    else bindFunction m o
  | _ => bindInClass (← classOf o) name m

/-- The documentation and the module of an object, which hang on its class and not on the object. -/
def classText? (o : Obj) (name : String) : Exec (Option Obj) := do
  let w ← get
  let c := w.cell o
  let isDoc := name = "__doc__"
  if isDoc || name = "__module__" then
    match (payloadData w o c).lookup name with
    | some x => some <$> x
    | none =>
      let cls := w.builtinOf o
      if isDoc then some <$> keptAs cls.obj name (newTextOrNone cls.doc?)
      else if cls = .exceptionGroup then some <$> keptAs cls.obj name (newText cls.moduleName)
      else pure none
  else pure none

/-- The ordinary search for an attribute. -/
def plainAttr? (o : Obj) (name : String) : Exec (Option Obj) := do
  let w ← get
  let c := w.cell o
  let own := w.attr? o name
  let orOwn (x : Exec Obj) : Exec (Option Obj) :=
    match own with
    | some v => some <$> newRef v
    | none => some <$> x
  match w.classMember? c.cls name with
  | some (.scripted m) =>
    match (w.cell m).payload with
    | .property getter => some <$> callObj getter [o]
    | _ => orOwn (bindMember o name m)
  | some (.implicit info) =>
    match name with
    | "__dict__" => some <$> namespaceOf o
    | "__weakref__" => pure (some noneObj)
    | "__module__" => orOwn (keptText c.cls name info.moduleName)
    | _ => orOwn (pure noneObj)
  | some (.born owner kind) =>
    match kind with
    | .getset | .member => some <$> dataOf o name
    | _ => orOwn (bornMember o owner kind name)
  | none =>
    match own with
    | some v => some <$> newRef v
    | none => if c.payload matches .method .. then pure none else classText? o name

/-! ## The search in a class -/

/-- How a class made by a script shows a member that its objects have without being given it. What
it shows refers to the class by a reference that the class has to itself anyway. -/
def implicitMember (cls : Obj) (name : String) : Exec Obj :=
  keptAs cls name (alloc Builtin.getsetDescriptor.obj (.descriptor cls .getset name) [])

/-- The members of a class as a namespace; those of a built-in class are not listed. -/
def classNamespace (o : Obj) : Exec Obj := do
  match (← get).classView o with
  | .scripted info => do
    let home ← keptText o "__module__" info.moduleName
    let base := (← get).builtinBase lineageFuel o
    let added ← base.addedData.mapM fun name => do pure (name, ← implicitMember o name)
    info.members.forM fun e => incref e.2
    let attrs := info.members ++ ("__module__", home) :: added ++ [("__doc__", noneObj)]
    let entries ← attrs.mapM fun (n, v) => do pure ((← newText n), v)
    let items ← putItems #[] entries
    alloc Builtin.mappingProxy.obj (.dict items.toList) []
  | _ => alloc Builtin.mappingProxy.obj (.dict []) []

/-- The layout of the objects of a class. -/
def World.layoutOf (w : World) (o : Obj) : Layout :=
  let layout := (w.builtinBase lineageFuel o).layout
  match w.classView o with
  | .scripted _ => layout.derived
  | _ => layout

/-- What a class says of itself. -/
def classData (w : World) (o : Obj) : List (String × Exec Obj) :=
  let order := w.searchOrder lineageFuel o
  let tuple (os : List Obj) : Exec Obj := do newTupleOf (← newRefs os)
  let kept (name : String) (x : Exec Obj) : String × Exec Obj := (name, keptAs o name x)
  let layout := w.layoutOf o
  let common := [("__class__", newRef (w.cell o).cls), ("__dict__", classNamespace o),
    ("__basicsize__", newInt layout.size), ("__itemsize__", newInt layout.item),
    ("__dictoffset__", newInt layout.space), ("__weakrefoffset__", newInt layout.weak)]
  match w.classView o with
  | .builtin c =>
    let bases := match c with
      | .exceptionGroup => [Builtin.baseExceptionGroup, .exception]
      | c => c.base?.toList
    common ++ [("__name__", newText c.name), ("__qualname__", newText c.name),
      kept "__module__" (newText c.moduleName), ("__doc__", newTextOrNone c.doc?),
      ("__text_signature__", newTextOrNone c.signature?), kept "__mro__" (tuple order),
      kept "__bases__" (tuple (bases.map Builtin.obj)),
      ("__base__", refOrNone (c.base?.map Builtin.obj))]
  | .scripted info =>
    common ++ [
      ("__name__", match info.shownName with
        | some f => callObj f [o]
        | none => keptText o "__name__" info.name),
      ("__qualname__", do
        match (← cellOf o).kept.lookup "__qualname__" with
        | some v => newRef v
        | none => keptText o "__name__" info.name),
      ("__module__", match info.members.lookup "__module__" with
        | some m => newRef m
        | none => keptText o "__module__" info.moduleName),
      ("__doc__", refOrNone (info.members.lookup "__doc__")),
      ("__text_signature__", pure noneObj),
      kept "__mro__" (do
        -- the reference of the class to itself is one that it has anyway
        let t ← tuple order
        editCell o fun c => { c with refs := c.refs - 1 }
        pure t),
      kept "__bases__" (tuple [info.base]), ("__base__", newRef info.base),
      kept "__annotations__" (newDictOf [])]
  | .notAClass => []

/-- A member that a class has from birth, as the class shows it. -/
def bornInClass (o : Obj) (owner : Builtin) (kind : MemberKind) (name : String) : Exec Obj := do
  let describe (cls : Builtin) : Exec Obj :=
    alloc cls.obj (.descriptor owner.obj kind name) []
  match kind with
  | .wrapper => describe .slotWrapper
  | .method => describe .methodDescriptor
  | .getset => describe .getsetDescriptor
  | .member => describe .memberDescriptor
  | .classMethod => do
    incref o
    alloc Builtin.builtinFunction.obj (.bound kind name o) []
  | .staticMethod => alloc Builtin.builtinFunction.obj (.bound kind name owner.obj) []
  | .value => pure noneObj

/-- An attribute of a class. Data that all classes have comes first. -/
def classAttr? (o : Obj) (name : String) : Exec (Option Obj) := do
  let w ← get
  match (classData w o).lookup name with
  | some x => some <$> x
  | none =>
    let ofAll := Builtin.typeClass.memberKind? name
    if name = "__abstractmethods__" then throwNew .attributeError name
    else if name = "__annotations__" then pure none
    else
      match ofAll with
      | some (_, .getset) | some (_, .member) => pure (some noneObj)
      | _ =>
        match w.classMember? o name with
        | some (.scripted m) => some <$> bindInClass o name m
        | some (.implicit _) => some <$> implicitMember o name
        | some (.born owner kind) => some <$> bornInClass o owner kind name
        | none =>
          match ofAll with
          | some (owner, kind) => some <$> bornMember o owner kind name
          | none => pure none

/-! ## Attributes that are not there -/

/-- Whether a module says that it is still being run. -/
def isInitializing (spec : Option Obj) (getAttr : Obj → String → Exec Obj) : Exec Bool :=
  match spec with
  | none => pure false
  | some spec =>
    recover
      (do
        let state ← getAttr spec "_initializing"
        holding state (truth state))
      (fun _ => pure true) (pure false)

/-- The error for an attribute that an object that is no module does not have. -/
def noAttribute {α : Type} (o : Obj) (name : String) : Exec α := do
  let w ← get
  if w.isClass o then
    throwNew .attributeError
      ("type object '" ++ clip 50 (w.className o) ++ "' has no attribute '" ++ name ++ "'")
  else do
    let t ← typeName o
    throwNew .attributeError ("'" ++ clip 50 t ++ "' object has no attribute '" ++ name ++ "'")

/-- The error for an attribute that a module does not have. -/
def noModuleAttribute {α : Type} (o : Obj) (name : String) (getAttr : Obj → String → Exec Obj) :
    Exec α := do
  let w ← get
  let attrs := w.attrsOf (w.cell o)
  match (attrs.lookup "__name__").map fun n => (w.cell n).payload with
  | some (.str s) => do
    let initializing ← isInitializing (attrs.lookup "__spec__") getAttr
    let front := if initializing then "partially initialized module '" else "module '"
    let back := if initializing then " (most likely due to a circular import)" else ""
    let text ← newStr (pointsOf front ++ s ++ pointsOf ("' has no attribute '" ++ name ++ "'") ++
      pointsOf back)
    throwWith .attributeError [text]
  | _ => throwNew .attributeError ("module has no attribute '" ++ name ++ "'")

/-- Let an attribute error remember the object and the name, unless it does already. -/
def rememberAttribute (o : Obj) (name : String) (r : Raised) : Exec Unit := do
  match ← payloadOf r.value with
  | .error info =>
    let known := info.fields.any fun e => e.1 = "name" ∨ e.1 = "obj"
    if !known && (← raisedIs .attributeError r) then do
      let key ← newText name
      incref o
      setPayload r.value
        (.error { info with fields := info.fields ++ [("name", key), ("obj", o)] })
  | _ => pure ()

/-- The search for an attribute without the last resort of a class. A method has all that its
function has. -/
def firstAttr (getAttr : Obj → String → Exec Obj) (o : Obj) (name : String) : Exec Obj := do
  let key ← newText name
  match ← holding key (callSpecial o "__getattribute__" [key]) with
  | some v => pure v
  | none => do
    let w ← get
    let found ← if w.isClass o then classAttr? o name else plainAttr? o name
    match found with
    | some v => pure v
    | none =>
      let c := w.cell o
      match c.payload, w.attr? o "__getattr__" with
      | .moduleNamed _, none => noModuleAttribute o name getAttr
      | .method f _, _ => getAttr f name
      | _, _ => noAttribute o name

/-- What a class or a module has for attributes that are not there. -/
def lastResort? (o : Obj) : Exec (Option (Obj → Exec Obj)) := do
  let w ← get
  let c := w.cell o
  match w.member? c.cls "__getattr__" with
  | some _ => pure (some fun key => do
      match ← callSpecial o "__getattr__" [key] with
      | some v => pure v
      | none => pure noneObj)
  | none =>
    if c.payload matches .moduleNamed _ then
      pure ((w.attr? o "__getattr__").map fun f => fun key => callObj f [key])
    else pure none

/-- An attribute of an object; `fuel` bounds the depth to which the search for one starts others. -/
def getAttrWithin : (fuel : Nat) → Obj → String → Exec Obj
  | 0, o, name => noAttribute o name
  | fuel + 1, o, name => do
    let search : Exec Obj := do
      match ← Exec.outcome (firstAttr (getAttrWithin fuel) o name) with
      | .ok v => pure v
      | .error r =>
        match ← lastResort? o with
        | some f =>
          if ← raisedIs .attributeError r then do
            release r.value
            let key ← newText name
            holding key (f key)
          else throw r
        | none => throw r
    match ← Exec.outcome search with
    | .ok v => pure v
    | .error r => do
      rememberAttribute o name r
      throw r

/-- An attribute of an object. -/
def getAttr (o : Obj) (name : String) : Exec Obj := getAttrWithin 8 o name

/-- An attribute of an object, or nothing where there is none. -/
def attrOrNone? (o : Obj) (name : String) : Exec (Option Obj) :=
  recover (some <$> getAttr o name) (raisedIs .attributeError) (pure none)

end Embedder.Machine
