/-!
# Built-in classes

The classes that an interpreter starts with, each with its name and its base. The numbers, the
containers, their iterators and the exceptions are all that Python code can reach here.
-/

namespace Embedder.Machine

/-- A built-in class. -/
inductive Builtin where
  | object
  | typeClass
  | noneType
  | notImplemented
  | ellipsis
  | int
  | bool
  | float
  | complex
  | str
  | bytes
  | list
  | tuple
  | set
  | frozenset
  | dict
  | range
  | enumerate
  | reversed
  | filter
  | map
  | zip
  | slice
  | bytearray
  | memoryview
  | classmethod
  | staticmethod
  | super
  | property
  | function
  | builtinFunction
  | method
  | methodWrapper
  | slotWrapper
  | methodDescriptor
  | classMethodDescriptor
  | getsetDescriptor
  | memberDescriptor
  | mappingProxy
  | moduleClass
  | generator
  | code
  | traceback
  | listIterator
  | listReverseIterator
  | tupleIterator
  | asciiIterator
  | strIterator
  | bytesIterator
  | dictKeyIterator
  | dictReverseKeyIterator
  | setIterator
  | rangeIterator
  | longRangeIterator
  | itemIterator
  | callIterator
  | textStream
  | moduleSpec
  | builtinImporter
  | frozenImporter
  | pathFinder
  | fileLoader
  | compiledLoader
  | namespaceLoader
  | fileFinder
  | zipImporter
  | namespacePath
  | simpleNamespace
  | versionInfo
  | floatInfo
  | intInfo
  | hashInfo
  | threadInfo
  | systemFlags
  | unraisableArgs
  | baseException
  | baseExceptionGroup
  | exception
  | generatorExit
  | keyboardInterrupt
  | systemExit
  | arithmeticError
  | assertionError
  | attributeError
  | bufferError
  | eofError
  | importError
  | lookupError
  | memoryError
  | nameError
  | osError
  | referenceError
  | runtimeError
  | stopAsyncIteration
  | stopIteration
  | syntaxError
  | systemError
  | typeError
  | valueError
  | warning
  | floatingPointError
  | overflowError
  | zeroDivisionError
  | bytesWarning
  | deprecationWarning
  | encodingWarning
  | futureWarning
  | importWarning
  | pendingDeprecationWarning
  | resourceWarning
  | runtimeWarning
  | syntaxWarning
  | unicodeWarning
  | userWarning
  | blockingError
  | childProcessError
  | connectionError
  | fileExistsError
  | fileNotFoundError
  | interruptedError
  | isADirectoryError
  | notADirectoryError
  | permissionError
  | processLookupError
  | timeoutError
  | indentationError
  | indexError
  | keyError
  | moduleNotFoundError
  | notImplementedError
  | recursionError
  | unboundLocalError
  | unicodeError
  | brokenPipeError
  | connectionAbortedError
  | connectionRefusedError
  | connectionResetError
  | tabError
  | unicodeDecodeError
  | unicodeEncodeError
  | unicodeTranslateError
  | exceptionGroup
  deriving DecidableEq, Repr

namespace Builtin

/-- The name of a class. -/
def name : Builtin → String
  | .object => "object"
  | .typeClass => "type"
  | .noneType => "NoneType"
  | .notImplemented => "NotImplementedType"
  | .ellipsis => "ellipsis"
  | .int => "int"
  | .bool => "bool"
  | .float => "float"
  | .complex => "complex"
  | .str => "str"
  | .bytes => "bytes"
  | .list => "list"
  | .tuple => "tuple"
  | .set => "set"
  | .frozenset => "frozenset"
  | .dict => "dict"
  | .range => "range"
  | .enumerate => "enumerate"
  | .reversed => "reversed"
  | .filter => "filter"
  | .map => "map"
  | .zip => "zip"
  | .slice => "slice"
  | .bytearray => "bytearray"
  | .memoryview => "memoryview"
  | .classmethod => "classmethod"
  | .staticmethod => "staticmethod"
  | .super => "super"
  | .property => "property"
  | .function => "function"
  | .builtinFunction => "builtin_function_or_method"
  | .method => "method"
  | .methodWrapper => "method-wrapper"
  | .slotWrapper => "wrapper_descriptor"
  | .methodDescriptor => "method_descriptor"
  | .classMethodDescriptor => "classmethod_descriptor"
  | .getsetDescriptor => "getset_descriptor"
  | .memberDescriptor => "member_descriptor"
  | .mappingProxy => "mappingproxy"
  | .moduleClass => "module"
  | .generator => "generator"
  | .code => "code"
  | .traceback => "traceback"
  | .listIterator => "list_iterator"
  | .listReverseIterator => "list_reverseiterator"
  | .tupleIterator => "tuple_iterator"
  | .asciiIterator => "str_ascii_iterator"
  | .strIterator => "str_iterator"
  | .bytesIterator => "bytes_iterator"
  | .dictKeyIterator => "dict_keyiterator"
  | .dictReverseKeyIterator => "dict_reversekeyiterator"
  | .setIterator => "set_iterator"
  | .rangeIterator => "range_iterator"
  | .longRangeIterator => "longrange_iterator"
  | .itemIterator => "iterator"
  | .callIterator => "callable_iterator"
  | .textStream => "TextIOWrapper"
  | .moduleSpec => "ModuleSpec"
  | .builtinImporter => "BuiltinImporter"
  | .frozenImporter => "FrozenImporter"
  | .pathFinder => "PathFinder"
  | .fileLoader => "SourceFileLoader"
  | .compiledLoader => "SourcelessFileLoader"
  | .namespaceLoader => "NamespaceLoader"
  | .fileFinder => "FileFinder"
  | .zipImporter => "zipimporter"
  | .namespacePath => "_NamespacePath"
  | .simpleNamespace => "SimpleNamespace"
  | .versionInfo => "version_info"
  | .floatInfo => "float_info"
  | .intInfo => "int_info"
  | .hashInfo => "hash_info"
  | .threadInfo => "thread_info"
  | .systemFlags => "flags"
  | .unraisableArgs => "UnraisableHookArgs"
  | .baseException => "BaseException"
  | .baseExceptionGroup => "BaseExceptionGroup"
  | .exception => "Exception"
  | .generatorExit => "GeneratorExit"
  | .keyboardInterrupt => "KeyboardInterrupt"
  | .systemExit => "SystemExit"
  | .arithmeticError => "ArithmeticError"
  | .assertionError => "AssertionError"
  | .attributeError => "AttributeError"
  | .bufferError => "BufferError"
  | .eofError => "EOFError"
  | .importError => "ImportError"
  | .lookupError => "LookupError"
  | .memoryError => "MemoryError"
  | .nameError => "NameError"
  | .osError => "OSError"
  | .referenceError => "ReferenceError"
  | .runtimeError => "RuntimeError"
  | .stopAsyncIteration => "StopAsyncIteration"
  | .stopIteration => "StopIteration"
  | .syntaxError => "SyntaxError"
  | .systemError => "SystemError"
  | .typeError => "TypeError"
  | .valueError => "ValueError"
  | .warning => "Warning"
  | .floatingPointError => "FloatingPointError"
  | .overflowError => "OverflowError"
  | .zeroDivisionError => "ZeroDivisionError"
  | .bytesWarning => "BytesWarning"
  | .deprecationWarning => "DeprecationWarning"
  | .encodingWarning => "EncodingWarning"
  | .futureWarning => "FutureWarning"
  | .importWarning => "ImportWarning"
  | .pendingDeprecationWarning => "PendingDeprecationWarning"
  | .resourceWarning => "ResourceWarning"
  | .runtimeWarning => "RuntimeWarning"
  | .syntaxWarning => "SyntaxWarning"
  | .unicodeWarning => "UnicodeWarning"
  | .userWarning => "UserWarning"
  | .blockingError => "BlockingIOError"
  | .childProcessError => "ChildProcessError"
  | .connectionError => "ConnectionError"
  | .fileExistsError => "FileExistsError"
  | .fileNotFoundError => "FileNotFoundError"
  | .interruptedError => "InterruptedError"
  | .isADirectoryError => "IsADirectoryError"
  | .notADirectoryError => "NotADirectoryError"
  | .permissionError => "PermissionError"
  | .processLookupError => "ProcessLookupError"
  | .timeoutError => "TimeoutError"
  | .indentationError => "IndentationError"
  | .indexError => "IndexError"
  | .keyError => "KeyError"
  | .moduleNotFoundError => "ModuleNotFoundError"
  | .notImplementedError => "NotImplementedError"
  | .recursionError => "RecursionError"
  | .unboundLocalError => "UnboundLocalError"
  | .unicodeError => "UnicodeError"
  | .brokenPipeError => "BrokenPipeError"
  | .connectionAbortedError => "ConnectionAbortedError"
  | .connectionRefusedError => "ConnectionRefusedError"
  | .connectionResetError => "ConnectionResetError"
  | .tabError => "TabError"
  | .unicodeDecodeError => "UnicodeDecodeError"
  | .unicodeEncodeError => "UnicodeEncodeError"
  | .unicodeTranslateError => "UnicodeTranslateError"
  | .exceptionGroup => "ExceptionGroup"

/-- Whether the objects of a class are tuples of which each item has a name. -/
def isRecord : Builtin → Bool
  | .versionInfo | .floatInfo | .intInfo | .hashInfo | .threadInfo | .systemFlags => true
  | _ => false

/-- The module that a class says it is from. -/
def moduleName : Builtin → String
  | .textStream => "_io"
  | .moduleSpec | .builtinImporter | .frozenImporter => "_frozen_importlib"
  | .pathFinder | .fileLoader | .compiledLoader | .namespaceLoader | .fileFinder
    | .namespacePath => "_frozen_importlib_external"
  | .zipImporter => "zipimport"
  | .simpleNamespace => "types"
  | c => if c.isRecord then "sys" else "builtins"

/-- The name of a class in messages. -/
def shownName : Builtin → String
  | .textStream => "_io.TextIOWrapper"
  | .simpleNamespace => "types.SimpleNamespace"
  | c => if c.isRecord then "sys." ++ c.name else c.name

/-- The base of a class. -/
def base? : Builtin → Option Builtin
  | .object => none
  | .bool => some .int
  | .versionInfo | .floatInfo | .intInfo | .hashInfo | .threadInfo | .systemFlags => some .tuple
  | .baseExceptionGroup | .exception | .generatorExit | .keyboardInterrupt | .systemExit =>
    some .baseException
  | .arithmeticError | .assertionError | .attributeError | .bufferError | .eofError
    | .importError | .lookupError | .memoryError | .nameError | .osError | .referenceError
    | .runtimeError | .stopAsyncIteration | .stopIteration | .syntaxError | .systemError
    | .typeError | .valueError | .warning => some .exception
  | .floatingPointError | .overflowError | .zeroDivisionError => some .arithmeticError
  | .bytesWarning | .deprecationWarning | .encodingWarning | .futureWarning | .importWarning
    | .pendingDeprecationWarning | .resourceWarning | .runtimeWarning | .syntaxWarning
    | .unicodeWarning | .userWarning => some .warning
  | .blockingError | .childProcessError | .connectionError | .fileExistsError
    | .fileNotFoundError | .interruptedError | .isADirectoryError | .notADirectoryError
    | .permissionError | .processLookupError | .timeoutError => some .osError
  | .indentationError => some .syntaxError
  | .indexError | .keyError => some .lookupError
  | .moduleNotFoundError => some .importError
  | .notImplementedError | .recursionError => some .runtimeError
  | .unboundLocalError => some .nameError
  | .unicodeError => some .valueError
  | .brokenPipeError | .connectionAbortedError | .connectionRefusedError
    | .connectionResetError => some .connectionError
  | .tabError => some .indentationError
  | .unicodeDecodeError | .unicodeEncodeError | .unicodeTranslateError => some .unicodeError
  | .exceptionGroup => some .baseExceptionGroup
  | _ => some .object

/-- All built-in classes. -/
def all : List Builtin := [
  .object, .typeClass, .noneType, .notImplemented, .ellipsis, .int, .bool, .float, .complex,
  .str, .bytes, .list, .tuple, .set, .frozenset, .dict, .range, .enumerate, .reversed, .filter,
  .map, .zip, .slice, .bytearray, .memoryview, .classmethod, .staticmethod, .super, .property,
  .function, .builtinFunction, .method, .methodWrapper, .slotWrapper, .methodDescriptor,
  .classMethodDescriptor, .getsetDescriptor, .memberDescriptor, .mappingProxy, .moduleClass,
  .generator, .code, .traceback, .listIterator, .listReverseIterator, .tupleIterator,
  .asciiIterator, .strIterator, .bytesIterator, .dictKeyIterator, .dictReverseKeyIterator,
  .setIterator, .rangeIterator, .longRangeIterator, .itemIterator, .callIterator, .textStream,
  .moduleSpec,
  .builtinImporter, .frozenImporter, .pathFinder, .fileLoader, .compiledLoader, .namespaceLoader,
  .fileFinder, .zipImporter, .namespacePath, .simpleNamespace, .versionInfo, .floatInfo, .intInfo,
  .hashInfo, .threadInfo, .systemFlags, .unraisableArgs,
  .baseException, .baseExceptionGroup, .exception, .generatorExit, .keyboardInterrupt, .systemExit,
  .arithmeticError, .assertionError, .attributeError, .bufferError, .eofError, .importError,
  .lookupError, .memoryError, .nameError, .osError, .referenceError, .runtimeError,
  .stopAsyncIteration, .stopIteration, .syntaxError, .systemError, .typeError, .valueError,
  .warning, .floatingPointError, .overflowError, .zeroDivisionError, .bytesWarning,
  .deprecationWarning, .encodingWarning, .futureWarning, .importWarning,
  .pendingDeprecationWarning, .resourceWarning, .runtimeWarning, .syntaxWarning, .unicodeWarning,
  .userWarning, .blockingError, .childProcessError, .connectionError, .fileExistsError,
  .fileNotFoundError, .interruptedError, .isADirectoryError, .notADirectoryError,
  .permissionError, .processLookupError, .timeoutError, .indentationError, .indexError,
  .keyError, .moduleNotFoundError, .notImplementedError, .recursionError, .unboundLocalError,
  .unicodeError, .brokenPipeError, .connectionAbortedError, .connectionRefusedError,
  .connectionResetError, .tabError, .unicodeDecodeError, .unicodeEncodeError,
  .unicodeTranslateError, .exceptionGroup]

/-- The classes above a class, itself first, in at most `fuel` steps. -/
def lineageFrom : Nat → Builtin → List Builtin
  | 0, _ => []
  | fuel + 1, c =>
    match c.base? with
    | none => [c]
    | some b => c :: lineageFrom fuel b

/-- The classes above a class, itself first. A group of exceptions is also an exception. -/
def lineage : Builtin → List Builtin
  | .exceptionGroup => .exceptionGroup :: .baseExceptionGroup :: lineageFrom 8 .exception
  | c => lineageFrom 8 c

/-- Whether a class is another or stands below it. -/
def isSubclass (c d : Builtin) : Bool := d ∈ c.lineage

def isException (c : Builtin) : Bool := c.isSubclass .baseException

/-- The class with a name. -/
def ofName? (name : String) : Option Builtin := all.find? (·.name = name)

end Builtin

end Embedder.Machine
