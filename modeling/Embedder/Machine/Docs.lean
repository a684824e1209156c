import Embedder.Machine.Class

/-!
# Documentation of what is built in

The texts that built-in classes and functions give when they are asked what they are for, and how
they say that they are called.
-/

namespace Embedder.Machine

/-- What a class says of itself. -/
def Builtin.doc? : Builtin → Option String
  | .object => some
      ("The base class of the class hierarchy.\n\nWhen called, it accepts no arguments " ++
      "and returns a new featureless\ninstance that has no instance attributes and " ++
      "cannot be given any.\n")
  | .typeClass => some
      "type(object) -> the object's type\ntype(name, bases, dict, **kwds) -> a new type"
  | .int => some
      ("int([x]) -> integer\nint(x, base=10) -> integer\n\nConvert a number or string " ++
      "to an integer, or return 0 if no arguments\nare given.  If x is a number, " ++
      "return x.__int__().  For floating point\nnumbers, this truncates towards " ++
      "zero.\n\nIf x is not a number or if base is given, then x must be a " ++
      "string,\nbytes, or bytearray instance representing an integer literal in " ++
      "the\ngiven base.  The literal can be preceded by '+' or '-' and be " ++
      "surrounded\nby whitespace.  The base defaults to 10.  Valid bases are 0 and " ++
      "2-36.\nBase 0 means to interpret the base from the string as an integer " ++
      "literal.\n>>> int('0b100', base=0)\n4")
  | .bool => some
      ("bool(x) -> bool\n\nReturns True when the argument x is true, False " ++
      "otherwise.\nThe builtins True and False are the only two instances of the class " ++
      "bool.\nThe class bool is a subclass of the class int, and cannot be subclassed.")
  | .float => some "Convert a string or number to a floating point number, if possible."
  | .complex => some
      ("Create a complex number from a real part and an optional imaginary " ++
      "part.\n\nThis is equivalent to (real + imag*1j) where imag defaults to 0.")
  | .str => some
      ("str(object='') -> str\nstr(bytes_or_buffer[, encoding[, errors]]) -> " ++
      "str\n\nCreate a new string object from the given object. If encoding or\nerrors " ++
      "is specified, then the object must expose a data buffer\nthat will be decoded " ++
      "using the given encoding and error handler.\nOtherwise, returns the result of " ++
      "object.__str__() (if defined)\nor repr(object).\nencoding defaults to " ++
      "sys.getdefaultencoding().\nerrors defaults to 'strict'.")
  | .bytes => some
      ("bytes(iterable_of_ints) -> bytes\nbytes(string, encoding[, errors]) -> " ++
      "bytes\nbytes(bytes_or_buffer) -> immutable copy of bytes_or_buffer\nbytes(int) " ++
      "-> bytes object of size given by the parameter initialized with null " ++
      "bytes\nbytes() -> empty bytes object\n\nConstruct an immutable array of bytes " ++
      "from:\n  - an iterable yielding integers in range(256)\n  - a text string " ++
      "encoded using the specified encoding\n  - any object implementing the buffer " ++
      "API.\n  - an integer")
  | .list => some
      ("Built-in mutable sequence.\n\nIf no argument is given, the constructor creates " ++
      "a new empty list.\nThe argument must be an iterable if specified.")
  | .tuple => some
      ("Built-in immutable sequence.\n\nIf no argument is given, the constructor " ++
      "returns an empty tuple.\nIf iterable is specified the tuple is initialized from " ++
      "iterable's items.\n\nIf the argument is a tuple, the return value is the same " ++
      "object.")
  | .set => some
      ("set() -> new empty set object\nset(iterable) -> new set object\n\nBuild an " ++
      "unordered collection of unique elements.")
  | .dict => some
      ("dict() -> new empty dictionary\ndict(mapping) -> new dictionary initialized " ++
      "from a mapping object's\n    (key, value) pairs\ndict(iterable) -> new " ++
      "dictionary initialized as if via:\n    d = \x7b\x7d\n    for k, v in " ++
      "iterable:\n        d[k] = v\ndict(**kwargs) -> new dictionary initialized with " ++
      "the name=value pairs\n    in the keyword argument list.  For example:  " ++
      "dict(one=1, two=2)")
  | .range => some
      ("range(stop) -> range object\nrange(start, stop[, step]) -> range " ++
      "object\n\nReturn an object that produces a sequence of integers from start " ++
      "(inclusive)\nto stop (exclusive) by step.  range(i, j) produces i, i+1, i+2, " ++
      "..., j-1.\nstart defaults to 0, and stop is omitted!  range(4) produces 0, 1, " ++
      "2, 3.\nThese are exactly the valid indices for a list of 4 elements.\nWhen step " ++
      "is given, it specifies the increment (or decrement).")
  | .enumerate => some
      ("Return an enumerate object.\n\n  iterable\n    an object supporting " ++
      "iteration\n\nThe enumerate object yields pairs containing a count (from start, " ++
      "which\ndefaults to zero) and a value yielded by the iterable " ++
      "argument.\n\nenumerate is useful for obtaining an indexed list:\n    (0, " ++
      "seq[0]), (1, seq[1]), (2, seq[2]), ...")
  | .reversed => some "Return a reverse iterator over the values of the given sequence."
  | .function => some
      ("Create a function object.\n\n  code\n    a code object\n  globals\n    the " ++
      "globals dictionary\n  name\n    a string that overrides the name from the code " ++
      "object\n  argdefs\n    a tuple that specifies the default argument values\n  " ++
      "closure\n    a tuple that supplies the bindings for free variables")
  | .method => some "Create a bound instance method object."
  | .moduleClass => some
      ("Create a module object.\n\nThe name must be a string; the optional doc argument " ++
      "can have any type.")
  | .code => some "Create a code object.  Not for the faint of heart."
  | .traceback => some
      ("TracebackType(tb_next, tb_frame, tb_lasti, tb_lineno)\n--\n\nCreate a new " ++
      "traceback object.")
  | .baseException => some "Common base class for all exceptions"
  | .baseExceptionGroup => some "A combination of multiple unrelated exceptions."
  | .exception => some "Common base class for all non-exit exceptions."
  | .generatorExit => some "Request that a generator exit."
  | .keyboardInterrupt => some "Program interrupted by user."
  | .systemExit => some "Request to exit from the interpreter."
  | .arithmeticError => some "Base class for arithmetic errors."
  | .assertionError => some "Assertion failed."
  | .attributeError => some "Attribute not found."
  | .bufferError => some "Buffer error."
  | .eofError => some "Read beyond end of file."
  | .importError => some "Import can't find module, or can't find name in module."
  | .lookupError => some "Base class for lookup errors."
  | .memoryError => some "Out of memory."
  | .nameError => some "Name not found globally."
  | .osError => some "Base class for I/O related errors."
  | .referenceError => some "Weak ref proxy used after referent went away."
  | .runtimeError => some "Unspecified run-time error."
  | .stopAsyncIteration => some "Signal the end from iterator.__anext__()."
  | .stopIteration => some "Signal the end from iterator.__next__()."
  | .syntaxError => some "Invalid syntax."
  | .systemError => some
      ("Internal error in the Python interpreter.\n\nPlease report this to the Python " ++
      "maintainer, along with the traceback,\nthe Python version, and the hardware/OS " ++
      "platform and version.")
  | .typeError => some "Inappropriate argument type."
  | .valueError => some "Inappropriate argument value (of correct type)."
  | .warning => some "Base class for warning categories."
  | .floatingPointError => some "Floating point operation failed."
  | .overflowError => some "Result too large to be represented."
  | .zeroDivisionError => some "Second argument to a division or modulo operation was zero."
  | .bytesWarning => some
      ("Base class for warnings about bytes and buffer related problems, " ++
      "mostly\nrelated to conversion from str or comparing to str.")
  | .deprecationWarning => some "Base class for warnings about deprecated features."
  | .encodingWarning => some "Base class for warnings about encodings."
  | .futureWarning => some
      ("Base class for warnings about constructs that will change semantically\nin the " ++
      "future.")
  | .importWarning => some "Base class for warnings about probable mistakes in module imports"
  | .pendingDeprecationWarning => some
      "Base class for warnings about features which will be deprecated\nin the future."
  | .resourceWarning => some "Base class for warnings about resource usage."
  | .runtimeWarning => some "Base class for warnings about dubious runtime behavior."
  | .syntaxWarning => some "Base class for warnings about dubious syntax."
  | .unicodeWarning => some
      ("Base class for warnings about Unicode related problems, mostly\nrelated to " ++
      "conversion problems.")
  | .userWarning => some "Base class for warnings generated by user code."
  | .blockingError => some "I/O operation would block."
  | .childProcessError => some "Child process error."
  | .connectionError => some "Connection error."
  | .fileExistsError => some "File already exists."
  | .fileNotFoundError => some "File not found."
  | .interruptedError => some "Interrupted by signal."
  | .isADirectoryError => some "Operation doesn't work on directories."
  | .notADirectoryError => some "Operation only works on directories."
  | .permissionError => some "Not enough permissions."
  | .processLookupError => some "Process not found."
  | .timeoutError => some "Timeout expired."
  | .indentationError => some "Improper indentation."
  | .indexError => some "Sequence index out of range."
  | .keyError => some "Mapping key not found."
  | .moduleNotFoundError => some "Module not found."
  | .notImplementedError => some "Method or function hasn't been implemented yet."
  | .recursionError => some "Recursion limit exceeded."
  | .unboundLocalError => some "Local name referenced but not bound to a value."
  | .unicodeError => some "Unicode related error."
  | .brokenPipeError => some "Broken pipe."
  | .connectionAbortedError => some "Connection aborted."
  | .connectionRefusedError => some "Connection refused."
  | .connectionResetError => some "Connection reset."
  | .tabError => some "Improper mixture of spaces and tabs."
  | .unicodeDecodeError => some "Unicode decoding error."
  | .unicodeEncodeError => some "Unicode encoding error."
  | .unicodeTranslateError => some "Unicode translation error."
  | .moduleSpec => some
      ("The specification for a module, used for loading.\n\n    A module's spec is the " ++
      "source for information about the module.  For\n    data associated with the " ++
      "module, including source, use the spec's\n    loader.\n\n    `name` is the " ++
      "absolute name of the module.  `loader` is the loader\n    to use when loading the " ++
      "module.  `parent` is the name of the\n    package the module is in.  The parent " ++
      "is derived from the name.\n\n    `is_package` determines if the module is " ++
      "considered a package or\n    not.  On modules this is reflected by the `__path__` " ++
      "attribute.\n\n    `origin` is the specific location used by the loader from which " ++
      "to\n    load the module, if that information is available.  When filename is\n    " ++
      "set, origin will match.\n\n    `has_location` indicates that a spec's \"origin\" " ++
      "reflects a location.\n    When this is True, `__file__` attribute of the module " ++
      "is set.\n\n    `cached` is the location of the cached bytecode file, if any.  " ++
      "It\n    corresponds to the `__cached__` attribute.\n\n    " ++
      "`submodule_search_locations` is the sequence of path entries to\n    search when " ++
      "importing submodules.  If set, is_package should be\n    True--and False " ++
      "otherwise.\n\n    Packages are simply modules that (may) have submodules.  If a " ++
      "spec\n    has a non-None value in `submodule_search_locations`, the import\n    " ++
      "system will consider modules loaded from the spec as packages.\n\n    Only " ++
      "finders (see importlib.abc.MetaPathFinder and\n    importlib.abc.PathEntryFinder) " ++
      "should modify ModuleSpec instances.\n\n    ")
  | .builtinImporter => some
      ("Meta path import for built-in modules.\n\n    All methods are either class or " ++
      "static methods to avoid the need to\n    instantiate the class.\n\n    ")
  | .frozenImporter => some
      ("Meta path import for frozen modules.\n\n    All methods are either class or " ++
      "static methods to avoid the need to\n    instantiate the class.\n\n    ")
  | .pathFinder => some
    "Meta path finder for sys.path and package __path__ attributes."
  | .fileLoader => some
    "Concrete implementation of SourceLoader using the file system."
  | .compiledLoader => some
    "Loader which handles sourceless file imports."
  | .fileFinder => some
      ("File-based finder.\n\n    Interactions with the file system are cached for " ++
      "performance, being\n    refreshed when the directory the finder is handling has " ++
      "been modified.\n\n    ")
  | .zipImporter => some
      ("zipimporter(archivepath) -> zipimporter object\n\n    Create a new zipimporter " ++
      "instance. 'archivepath' must be a path to\n    a zipfile, or to a specific path " ++
      "inside a zipfile. For example, it can be\n    '/tmp/myimport.zip', or " ++
      "'/tmp/myimport.zip/mydirectory', if mydirectory is a\n    valid directory inside " ++
      "the archive.\n\n    'ZipImportError is raised if 'archivepath' doesn't point to a " ++
      "valid Zip\n    archive.\n\n    The 'archive' attribute of zipimporter objects " ++
      "contains the name of the\n    zipfile targeted.\n    ")
  | .namespacePath => some
      ("Represents a namespace package's path.  It uses the module name\n    to find its " ++
      "parent module, and from there it looks up the parent's\n    __path__.  When this " ++
      "changes, the module's own path is recomputed,\n    using path_finder.  For " ++
      "top-level modules, the parent module's path\n    is sys.path.")
  | .simpleNamespace => some
    "A simple attribute-based namespace.\n\nSimpleNamespace(**kwargs)"
  | _ => none

/-- How a class says that it is called. -/
def Builtin.signature? : Builtin → Option String
  | .object => some "()"
  | .code => some
    ("(argcount, posonlyargcount, kwonlyargcount, nlocals, stacksize,\n     flags, codestring, " ++
      "constants, names, varnames, filename, name,\n     qualname, firstlineno, linetable, " ++
      "exceptiontable, freevars=(),\n     cellvars=(), /)")
  | .float => some "(x=0, /)"
  | .complex => some "(real=0, imag=0)"
  | .list => some "(iterable=(), /)"
  | .tuple => some "(iterable=(), /)"
  | .enumerate => some "(iterable, start=0)"
  | .reversed => some "(sequence, /)"
  | .function => some "(code, globals, name=None, argdefs=None, closure=None)"
  | .method => some "(function, instance, /)"
  | .moduleClass => some "(name, doc=None)"
  | _ => none

/-- The signature, if there is one, and the documentation of a special method, which are those of
its name. -/
def wrapperTexts? : String → Option (Option String × String)
  | "__abs__" => some (some "($self, /)", "abs(self)")
  | "__add__" => some (some "($self, value, /)", "Return self+value.")
  | "__and__" => some (some "($self, value, /)", "Return self&value.")
  | "__bool__" => some (some "($self, /)", "True if self else False")
  | "__call__" => some (some "($self, /, *args, **kwargs)", "Call self as a function.")
  | "__contains__" => some (some "($self, key, /)", "Return key in self.")
  | "__delattr__" => some (some "($self, name, /)", "Implement delattr(self, name).")
  | "__delete__" => some (some "($self, instance, /)", "Delete an attribute of instance.")
  | "__delitem__" => some (some "($self, key, /)", "Delete self[key].")
  | "__divmod__" => some (some "($self, value, /)", "Return divmod(self, value).")
  | "__eq__" => some (some "($self, value, /)", "Return self==value.")
  | "__float__" => some (some "($self, /)", "float(self)")
  | "__floordiv__" => some (some "($self, value, /)", "Return self//value.")
  | "__ge__" => some (some "($self, value, /)", "Return self>=value.")
  | "__get__" => some
    (some "($self, instance, owner=None, /)",
      "Return an attribute of instance, " ++
      "which is of type owner.")
  | "__getattribute__" => some (some "($self, name, /)", "Return getattr(self, name).")
  | "__getitem__" => some (some "($self, key, /)", "Return self[key].")
  | "__gt__" => some (some "($self, value, /)", "Return self>value.")
  | "__hash__" => some (some "($self, /)", "Return hash(self).")
  | "__iadd__" => some (some "($self, value, /)", "Implement self+=value.")
  | "__iand__" => some (some "($self, value, /)", "Return self&=value.")
  | "__imul__" => some (some "($self, value, /)", "Implement self*=value.")
  | "__index__" => some
    (some "($self, /)",
      "Return self converted to an integer, if self " ++
      "is suitable for use as an index into a list.")
  | "__init__" => some
    (some "($self, /, *args, **kwargs)",
      "Initialize self.  See help(type(self)) " ++
      "for accurate signature.")
  | "__int__" => some (some "($self, /)", "int(self)")
  | "__invert__" => some (some "($self, /)", "~self")
  | "__ior__" => some (some "($self, value, /)", "Return self|=value.")
  | "__isub__" => some (some "($self, value, /)", "Return self-=value.")
  | "__iter__" => some (some "($self, /)", "Implement iter(self).")
  | "__ixor__" => some (some "($self, value, /)", "Return self^=value.")
  | "__le__" => some (some "($self, value, /)", "Return self<=value.")
  | "__len__" => some (some "($self, /)", "Return len(self).")
  | "__lshift__" => some (some "($self, value, /)", "Return self<<value.")
  | "__lt__" => some (some "($self, value, /)", "Return self<value.")
  | "__mod__" => some (some "($self, value, /)", "Return self%value.")
  | "__mul__" => some (some "($self, value, /)", "Return self*value.")
  | "__ne__" => some (some "($self, value, /)", "Return self!=value.")
  | "__neg__" => some (some "($self, /)", "-self")
  | "__new__" => some
    (some "($type, *args, **kwargs)",
      "Create and return a new object.  See help(type) " ++
      "for accurate signature.")
  | "__next__" => some (some "($self, /)", "Implement next(self).")
  | "__or__" => some (some "($self, value, /)", "Return self|value.")
  | "__pos__" => some (some "($self, /)", "+self")
  | "__pow__" => some (some "($self, value, mod=None, /)", "Return pow(self, value, mod).")
  | "__radd__" => some (some "($self, value, /)", "Return value+self.")
  | "__rand__" => some (some "($self, value, /)", "Return value&self.")
  | "__rdivmod__" => some (some "($self, value, /)", "Return divmod(value, self).")
  | "__repr__" => some (some "($self, /)", "Return repr(self).")
  | "__rfloordiv__" => some (some "($self, value, /)", "Return value//self.")
  | "__rlshift__" => some (some "($self, value, /)", "Return value<<self.")
  | "__rmod__" => some (some "($self, value, /)", "Return value%self.")
  | "__rmul__" => some (some "($self, value, /)", "Return value*self.")
  | "__ror__" => some (some "($self, value, /)", "Return value|self.")
  | "__rpow__" => some (some "($self, value, mod=None, /)", "Return pow(value, self, mod).")
  | "__rrshift__" => some (some "($self, value, /)", "Return value>>self.")
  | "__rshift__" => some (some "($self, value, /)", "Return self>>value.")
  | "__rsub__" => some (some "($self, value, /)", "Return value-self.")
  | "__rtruediv__" => some (some "($self, value, /)", "Return value/self.")
  | "__rxor__" => some (some "($self, value, /)", "Return value^self.")
  | "__set__" => some
    (some "($self, instance, value, /)", "Set an attribute of instance to value.")
  | "__setattr__" => some
    (some "($self, name, value, /)", "Implement setattr(self, name, value).")
  | "__setitem__" => some (some "($self, key, value, /)", "Set self[key] to value.")
  | "__str__" => some (some "($self, /)", "Return str(self).")
  | "__sub__" => some (some "($self, value, /)", "Return self-value.")
  | "__truediv__" => some (some "($self, value, /)", "Return self/value.")
  | "__xor__" => some (some "($self, value, /)", "Return self^value.")
  | _ => none

/-- What a module that is a part of the interpreter says of itself. -/
def moduleDoc? : String → Option String
  | "builtins" => some
      ("Built-in functions, types, exceptions, and other objects.\n\nThis module provides " ++
      "direct access to all 'built-in'\nidentifiers of Python; for example, builtins.len " ++
      "is\nthe full name for the built-in function len().\n\nThis module is not normally " ++
      "accessed explicitly by most\napplications, but can be useful in modules that " ++
      "provide\nobjects with the same name as a built-in value, but in\nwhich the built-in " ++
      "of that name is also needed.")
  | "math" => some
      ("This module provides access to the mathematical functions\ndefined by the C " ++
      "standard.")
  | "os" => some
      ("OS routines for NT or Posix depending on what system we're on.\n\nThis exports:\n  " ++
      "- all functions from posix or nt, e.g. unlink, stat, etc.\n  - os.path is either " ++
      "posixpath or ntpath\n  - os.name is either 'posix' or 'nt'\n  - os.curdir is a " ++
      "string representing the current directory (always '.')\n  - os.pardir is a string " ++
      "representing the parent directory (always '..')\n  - os.sep is the (or a most " ++
      "common) pathname separator ('/' or '\\\\')\n  - os.extsep is the extension " ++
      "separator (always '.')\n  - os.altsep is the alternate pathname separator (None or " ++
      "'/')\n  - os.pathsep is the component separator used in $PATH etc\n  - os.linesep " ++
      "is the line separator in text files ('\\r' or '\\n' or '\\r\\n')\n  - os.defpath is " ++
      "the default search path for executables\n  - os.devnull is the file path of the " ++
      "null device ('/dev/null', etc.)\n\nPrograms that import and use 'os' stand a better " ++
      "chance of being\nportable between different platforms.  Of course, they must " ++
      "then\nonly use functions that are defined by all platforms (e.g., unlink\nand " ++
      "opendir), and leave all pathname manipulation to os.path\n(e.g., split and join).\n")
  | "posixpath" => some
      ("Common operations on Posix pathnames.\n\nInstead of importing this module directly, " ++
      "import os and refer to\nthis module as os.path.  The \"os.path\" name is an alias " ++
      "for this\nmodule on Posix systems; on other systems (e.g. Windows),\nos.path " ++
      "provides the same operations in a manner specific to that\nplatform, and is an " ++
      "alias to another module (e.g. ntpath).\n\nSome of this can actually be useful on " ++
      "non-Posix systems too, e.g.\nfor manipulation of the pathname component of URLs.\n")
  | "sys" => some
      ("This module provides access to some objects used or maintained by the\ninterpreter " ++
      "and to functions that interact strongly with the interpreter.\n\nDynamic " ++
      "objects:\n\nargv -- command line arguments; argv[0] is the script pathname if " ++
      "known\npath -- module search path; path[0] is the script directory, else " ++
      "''\nmodules -- dictionary of loaded modules\n\ndisplayhook -- called to show " ++
      "results in an interactive session\nexcepthook -- called to handle any uncaught " ++
      "exception other than SystemExit\n  To customize printing in an interactive session " ++
      "or to install a custom\n  top-level exception handler, assign other functions to " ++
      "replace these.\n\nstdin -- standard input file object; used by input()\nstdout -- " ++
      "standard output file object; used by print()\nstderr -- standard error object; used " ++
      "for error messages\n  By assigning other file objects (or objects that behave like " ++
      "files)\n  to these, it is possible to redirect all of the interpreter's " ++
      "I/O.\n\nlast_type -- type of last uncaught exception\nlast_value -- value of last " ++
      "uncaught exception\nlast_traceback -- traceback of last uncaught exception\n  These " ++
      "three are only available in an interactive session after a\n  traceback has been " ++
      "printed.\n\nStatic objects:\n\nbuiltin_module_names -- tuple of module names built " ++
      "into this interpreter\ncopyright -- copyright notice pertaining to this " ++
      "interpreter\nexec_prefix -- prefix used to find the machine-specific Python " ++
      "library\nexecutable -- absolute path of the executable binary of the Python " ++
      "interpreter\nfloat_info -- a named tuple with information about the float " ++
      "implementation.\nfloat_repr_style -- string indicating the style of repr() output " ++
      "for floats\nhash_info -- a named tuple with information about the hash " ++
      "algorithm.\nhexversion -- version information encoded as a single " ++
      "integer\nimplementation -- Python implementation information.\nint_info -- a named " ++
      "tuple with information about the int implementation.\nmaxsize -- the largest " ++
      "supported length of containers.\nmaxunicode -- the value of the largest Unicode " ++
      "code point\nplatform -- platform identifier\nprefix -- prefix used to find the " ++
      "Python library\nthread_info -- a named tuple with information about the thread " ++
      "implementation.\nversion -- the version of this interpreter as a " ++
      "string\nversion_info -- version information as a named tuple\n__stdin__ -- the " ++
      "original stdin; don't touch!\n__stdout__ -- the original stdout; don't " ++
      "touch!\n__stderr__ -- the original stderr; don't touch!\n__displayhook__ -- the " ++
      "original displayhook; don't touch!\n__excepthook__ -- the original excepthook; " ++
      "don't touch!\n\nFunctions:\n\ndisplayhook() -- print an object to the screen, and " ++
      "save it in builtins._\nexcepthook() -- print an exception and its traceback to " ++
      "sys.stderr\nexception() -- return the current thread's active exception\nexc_info() " ++
      "-- return information about the current thread's active exception\nexit() -- exit " ++
      "the interpreter by raising SystemExit\ngetdlopenflags() -- returns flags to be used " ++
      "for dlopen() calls\ngetprofile() -- get the global profiling " ++
      "function\ngetrefcount() -- return the reference count for an object (plus one " ++
      ":-)\ngetrecursionlimit() -- return the max recursion depth for the " ++
      "interpreter\ngetsizeof() -- return the size of an object in bytes\ngettrace() -- " ++
      "get the global debug tracing function\nsetdlopenflags() -- set the flags to be used " ++
      "for dlopen() calls\nsetprofile() -- set the global profiling " ++
      "function\nsetrecursionlimit() -- set the max recursion depth for the " ++
      "interpreter\nsettrace() -- set the global debug tracing function\n")
  | "traceback" => some "Extract, format and print information about Python stack traces."
  | _ => none

end Embedder.Machine
