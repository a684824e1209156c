import Embedder.Machine.Class

/-!
# The layout of objects

How many bytes the objects of a class take, and where in them are the namespace and the list of weak
references, as a class says of itself in a process with addresses of eight bytes. A derived class
adds what its base has not.
-/

namespace Embedder.Machine

/-- The layout of the objects of a class. -/
structure Layout where
  /-- The bytes of an object, apart from its items. -/
  size : Nat
  /-- The bytes of an item; none if its objects are all of one size. -/
  item : Nat := 0
  /-- Where the namespace is, from the end if it is negative; zero if there is none. -/
  space : Int := 0
  /-- Where the weak references are; zero if there are none. -/
  weak : Nat := 0

namespace Layout

/-- The layout of the objects of a derived class: a namespace and weak references are added where
the base has none. Objects with items have their namespace after them, and get no weak references.
Otherwise the namespace stands before the object, where the collector has its own words too. -/
def derived (l : Layout) : Layout :=
  if l.item ≠ 0 then
    if l.space = 0 then { l with size := l.size + 8, space := -8 } else l
  else
    let l := if l.weak = 0 then { l with size := l.size + 8, weak := l.size } else l
    if l.space = 0 then { l with space := -(l.size + 24 : Int) } else l

end Layout

namespace Builtin

/-- The bytes of an exception of a class, by what it has room for beside its arguments. -/
def errorSize (c : Builtin) : Nat :=
  if c.isSubclass .osError then 112
  else if c.isSubclass .syntaxError then 136
  else if c.isSubclass .importError then 96
  else if c.isSubclass .nameError then 80
  else match c with
    | .attributeError | .baseExceptionGroup => 88
    | .systemExit | .stopIteration => 80
    | .unicodeDecodeError | .unicodeEncodeError | .unicodeTranslateError => 112
    | _ => 72

/-- The layout of the objects of a class. -/
def layout : Builtin → Layout
  | .object | .noneType | .notImplemented | .ellipsis => ⟨16, 0, 0, 0⟩
  | .typeClass => ⟨904, 40, 264, 368⟩
  | .int => ⟨24, 4, 0, 0⟩
  | .bool => ⟨32, 4, 0, 0⟩
  | .float | .mappingProxy => ⟨24, 0, 0, 0⟩
  | .str => ⟨80, 0, 0, 0⟩
  | .bytes => ⟨33, 1, 0, 0⟩
  | .list | .slice | .super | .traceback => ⟨40, 0, 0, 0⟩
  | .tuple | .versionInfo | .floatInfo | .intInfo | .hashInfo | .threadInfo | .systemFlags
    | .unraisableArgs => ⟨24, 8, 0, 0⟩
  | .set | .frozenset => ⟨200, 0, 0, 192⟩
  | .dict | .range | .zip | .getsetDescriptor | .memberDescriptor | .setIterator | .rangeIterator
    | .longRangeIterator => ⟨48, 0, 0, 0⟩
  | .enumerate | .bytearray | .slotWrapper | .methodDescriptor | .classMethodDescriptor
    | .dictKeyIterator | .dictReverseKeyIterator => ⟨56, 0, 0, 0⟩
  | .complex | .reversed | .filter | .map | .methodWrapper | .listIterator | .listReverseIterator
    | .tupleIterator | .asciiIterator | .strIterator | .bytesIterator | .itemIterator
    | .callIterator => ⟨32, 0, 0, 0⟩
  | .memoryview => ⟨144, 8, 0, 136⟩
  | .classmethod | .staticmethod => ⟨32, 0, 24, 0⟩
  | .property => ⟨64, 0, 0, 0⟩
  | .function => ⟨136, 0, 88, 96⟩
  | .builtinFunction => ⟨56, 0, 0, 40⟩
  | .method => ⟨48, 0, 0, 32⟩
  | .moduleClass => ⟨56, 0, 16, 40⟩
  | .generator => ⟨152, 8, 0, 24⟩
  | .code => ⟨184, 2, 0, 144⟩
  | .textStream => ⟨192, 0, 184, 176⟩
  | .simpleNamespace => ⟨24, 0, 16, 0⟩
  | .moduleSpec | .builtinImporter | .frozenImporter | .pathFinder | .fileLoader | .compiledLoader
    | .namespaceLoader | .fileFinder | .zipImporter | .namespacePath => (Layout.mk 16 0 0 0).derived
  | .exceptionGroup => { size := 96, space := 16, weak := 88 }
  | c => { size := c.errorSize, space := 16 }

end Builtin

end Embedder.Machine
