import Embedder.Machine.MemberTexts

/-!
# What the functions of built-in modules say of themselves

The documentation of the functions, and how they say that they are called.
-/

namespace Embedder.Machine

/-- The texts of the functions of a module, by name. -/
def functionTextsOf : String → List (String × Texts)
  | "builtins" => [
    ("__build_class__", ⟨none,
      some ("__build_class__(func, name, /, *bases, [metaclass], **kwds) -> " ++
        "class\n\nInternal helper function used by the class statement.")⟩),
    ("__import__", ⟨
      some ("($module, /, name, globals=None, locals=None, fromlist=(),\n           " ++
        "level=0)"),
      some ("Import a module.\n\nBecause this function is meant for use by the " ++
        "Python\ninterpreter and not for general use, it is better to " ++
        "use\nimportlib.import_module() to programmatically import a module.\n\nThe " ++
        "globals argument is only used to determine the context;\nthey are not " ++
        "modified.  The locals argument is unused.  The fromlist\nshould be a list of " ++
        "names to emulate ``from name import ...``, or an\nempty list to emulate " ++
        "``import name``.\nWhen importing a module from a package, note that " ++
        "__import__('A.B', ...)\nreturns package A when fromlist is empty, but its " ++
        "submodule B when\nfromlist is not empty.  The level argument is used to " ++
        "determine whether to\nperform absolute or relative imports: 0 is absolute, " ++
        "while a positive number\nis the number of parent directories to search " ++
        "relative to the current module.")⟩),
    ("abs", ⟨some "($module, x, /)", some "Return the absolute value of the argument."⟩),
    ("aiter", ⟨some "($module, async_iterable, /)",
      some "Return an AsyncIterator for an AsyncIterable object."⟩),
    ("all", ⟨some "($module, iterable, /)",
      some ("Return True if bool(x) is True for all values x in the iterable.\n\nIf the " ++
        "iterable is empty, return True.")⟩),
    ("anext", ⟨some "($module, aiterator, default=<unrepresentable>, /)",
      some ("async anext(aiterator[, default])\n\nReturn the next item from the async " ++
        "iterator.  If default is given and the async\niterator is exhausted, it is " ++
        "returned instead of raising StopAsyncIteration.")⟩),
    ("any", ⟨some "($module, iterable, /)",
      some ("Return True if bool(x) is True for any x in the iterable.\n\nIf the iterable " ++
        "is empty, return False.")⟩),
    ("ascii", ⟨some "($module, obj, /)",
      some ("Return an ASCII-only representation of an object.\n\nAs repr(), return a " ++
        "string containing a printable representation of an\nobject, but escape the " ++
        "non-ASCII characters in the string returned by\nrepr() using \\\\x, \\\\u or " ++
        "\\\\U escapes. This generates a string similar\nto that returned by repr() in " ++
        "Python 2.")⟩),
    ("bin", ⟨some "($module, number, /)",
      some ("Return the binary representation of an integer.\n\n   >>> bin(2796202)\n   " ++
        "'0b1010101010101010101010'")⟩),
    ("breakpoint", ⟨none,
      some ("breakpoint(*args, **kws)\n\nCall sys.breakpointhook(*args, **kws).  " ++
        "sys.breakpointhook() must accept\nwhatever arguments are passed.\n\nBy " ++
        "default, this drops you into the pdb debugger.")⟩),
    ("callable", ⟨some "($module, obj, /)",
      some ("Return whether the object is callable (i.e., some kind of function).\n\nNote " ++
        "that classes are callable, as are instances of classes with a\n__call__() " ++
        "method.")⟩),
    ("chr", ⟨some "($module, i, /)",
      some "Return a Unicode string of one character with ordinal i; 0 <= i <= 0x10ffff."⟩),
    ("compile", ⟨
      some ("($module, /, source, filename, mode, flags=0,\n        dont_inherit=False, " ++
        "optimize=-1, *, _feature_version=-1)"),
      some ("Compile source into a code object that can be executed by exec() or " ++
        "eval().\n\nThe source code may represent a Python module, statement or " ++
        "expression.\nThe filename will be used for run-time error messages.\nThe mode " ++
        "must be 'exec' to compile a module, 'single' to compile a\nsingle " ++
        "(interactive) statement, or 'eval' to compile an expression.\nThe flags " ++
        "argument, if present, controls which future statements influence\nthe " ++
        "compilation of the code.\nThe dont_inherit argument, if true, stops the " ++
        "compilation inheriting\nthe effects of any future statements in effect in the " ++
        "code calling\ncompile; if absent or false these statements do influence the " ++
        "compilation,\nin addition to any features explicitly specified.")⟩),
    ("delattr", ⟨some "($module, obj, name, /)",
      some ("Deletes the named attribute from the given object.\n\ndelattr(x, 'y') is " ++
        "equivalent to ``del x.y``")⟩),
    ("dir", ⟨none,
      some ("dir([object]) -> list of strings\n\nIf called without an argument, return the " ++
        "names in the current scope.\nElse, return an alphabetized list of names " ++
        "comprising (some of) the attributes\nof the given object, and of attributes " ++
        "reachable from it.\nIf the object supplies a method named __dir__, it will be " ++
        "used; otherwise\nthe default dir() logic is used and returns:\n  for a module " ++
        "object: the module's attributes.\n  for a class object:  its attributes, and " ++
        "recursively the attributes\n    of its bases.\n  for any other object: its " ++
        "attributes, its class's attributes, and\n    recursively the attributes of " ++
        "its class's base classes.")⟩),
    ("divmod", ⟨some "($module, x, y, /)",
      some "Return the tuple (x//y, x%y).  Invariant: div*y + mod == x."⟩),
    ("eval", ⟨some "($module, source, globals=None, locals=None, /)",
      some ("Evaluate the given source in the context of globals and locals.\n\nThe source " ++
        "may be a string representing a Python expression\nor a code object as " ++
        "returned by compile().\nThe globals must be a dictionary and locals can be " ++
        "any mapping,\ndefaulting to the current globals and locals.\nIf only globals " ++
        "is given, locals defaults to it.")⟩),
    ("exec", ⟨some "($module, source, globals=None, locals=None, /, *, closure=None)",
      some ("Execute the given source in the context of globals and locals.\n\nThe source " ++
        "may be a string representing one or more Python statements\nor a code object " ++
        "as returned by compile().\nThe globals must be a dictionary and locals can be " ++
        "any mapping,\ndefaulting to the current globals and locals.\nIf only globals " ++
        "is given, locals defaults to it.\nThe closure must be a tuple of cellvars, " ++
        "and can only be used\nwhen source is a code object requiring exactly that " ++
        "many cellvars.")⟩),
    ("format", ⟨some "($module, value, format_spec='', /)",
      some ("Return value.__format__(format_spec)\n\nformat_spec defaults to the empty " ++
        "string.\nSee the Format Specification Mini-Language section of " ++
        "help('FORMATTING') for\ndetails.")⟩),
    ("getattr", ⟨none,
      some ("getattr(object, name[, default]) -> value\n\nGet a named attribute from an " ++
        "object; getattr(x, 'y') is equivalent to x.y.\nWhen a default argument is " ++
        "given, it is returned when the attribute doesn't\nexist; without it, an " ++
        "exception is raised in that case.")⟩),
    ("globals", ⟨some "($module, /)",
      some ("Return the dictionary containing the current scope's global " ++
        "variables.\n\nNOTE: Updates to this dictionary *will* affect name lookups in " ++
        "the current\nglobal scope and vice-versa.")⟩),
    ("hasattr", ⟨some "($module, obj, name, /)",
      some ("Return whether the object has an attribute with the given name.\n\nThis is " ++
        "done by calling getattr(obj, name) and catching AttributeError.")⟩),
    ("hash", ⟨some "($module, obj, /)",
      some ("Return the hash value for the given object.\n\nTwo objects that compare equal " ++
        "must also have the same hash value, but the\nreverse is not necessarily true.")⟩),
    ("hex", ⟨some "($module, number, /)",
      some ("Return the hexadecimal representation of an integer.\n\n   >>> " ++
        "hex(12648430)\n   '0xc0ffee'")⟩),
    ("id", ⟨some "($module, obj, /)",
      some ("Return the identity of an object.\n\nThis is guaranteed to be unique among " ++
        "simultaneously existing objects.\n(CPython uses the object's memory address.)")⟩),
    ("input", ⟨some "($module, prompt='', /)",
      some ("Read a string from standard input.  The trailing newline is stripped.\n\nThe " ++
        "prompt string, if given, is printed to standard output without a\ntrailing " ++
        "newline before reading input.\n\nIf the user hits EOF (*nix: Ctrl-D, Windows: " ++
        "Ctrl-Z+Return), raise EOFError.\nOn *nix systems, readline is used if " ++
        "available.")⟩),
    ("isinstance", ⟨some "($module, obj, class_or_tuple, /)",
      some ("Return whether an object is an instance of a class or of a subclass " ++
        "thereof.\n\nA tuple, as in ``isinstance(x, (A, B, ...))``, may be given as " ++
        "the target to\ncheck against. This is equivalent to ``isinstance(x, A) or " ++
        "isinstance(x, B)\nor ...`` etc.")⟩),
    ("issubclass", ⟨some "($module, cls, class_or_tuple, /)",
      some ("Return whether 'cls' is derived from another class or is the same class.\n\nA " ++
        "tuple, as in ``issubclass(x, (A, B, ...))``, may be given as the target " ++
        "to\ncheck against. This is equivalent to ``issubclass(x, A) or issubclass(x, " ++
        "B)\nor ...``.")⟩),
    ("iter", ⟨none,
      some ("iter(iterable) -> iterator\niter(callable, sentinel) -> iterator\n\nGet an " ++
        "iterator from an object.  In the first form, the argument must\nsupply its " ++
        "own iterator, or be a sequence.\nIn the second form, the callable is called " ++
        "until it returns the sentinel.")⟩),
    ("len", ⟨some "($module, obj, /)", some "Return the number of items in a container."⟩),
    ("locals", ⟨some "($module, /)",
      some ("Return a dictionary containing the current scope's local variables.\n\nNOTE: " ++
        "Whether or not updates to this dictionary will affect name lookups in\nthe " ++
        "local scope and vice-versa is *implementation dependent* and not\ncovered by " ++
        "any backwards compatibility guarantees.")⟩),
    ("max", ⟨none,
      some ("max(iterable, *[, default=obj, key=func]) -> value\nmax(arg1, arg2, *args, " ++
        "*[, key=func]) -> value\n\nWith a single iterable argument, return its " ++
        "biggest item. The\ndefault keyword-only argument specifies an object to " ++
        "return if\nthe provided iterable is empty.\nWith two or more arguments, " ++
        "return the largest argument.")⟩),
    ("min", ⟨none,
      some ("min(iterable, *[, default=obj, key=func]) -> value\nmin(arg1, arg2, *args, " ++
        "*[, key=func]) -> value\n\nWith a single iterable argument, return its " ++
        "smallest item. The\ndefault keyword-only argument specifies an object to " ++
        "return if\nthe provided iterable is empty.\nWith two or more arguments, " ++
        "return the smallest argument.")⟩),
    ("next", ⟨none,
      some ("next(iterator[, default])\n\nReturn the next item from the iterator. If " ++
        "default is given and the iterator\nis exhausted, it is returned instead of " ++
        "raising StopIteration.")⟩),
    ("oct", ⟨some "($module, number, /)",
      some ("Return the octal representation of an integer.\n\n   >>> oct(342391)\n   " ++
        "'0o1234567'")⟩),
    ("open", ⟨
      some ("($module, /, file, mode='r', buffering=-1, encoding=None,\n     errors=None, " ++
        "newline=None, closefd=True, opener=None)"),
      some ("Open file and return a stream.  Raise OSError upon failure.\n\nfile is either " ++
        "a text or byte string giving the name (and the path\nif the file isn't in the " ++
        "current working directory) of the file to\nbe opened or an integer file " ++
        "descriptor of the file to be\nwrapped. (If a file descriptor is given, it is " ++
        "closed when the\nreturned I/O object is closed, unless closefd is set to " ++
        "False.)\n\nmode is an optional string that specifies the mode in which the " ++
        "file\nis opened. It defaults to 'r' which means open for reading in " ++
        "text\nmode.  Other common values are 'w' for writing (truncating the file " ++
        "if\nit already exists), 'x' for creating and writing to a new file, and\n'a' " ++
        "for appending (which on some Unix systems, means that all writes\nappend to " ++
        "the end of the file regardless of the current seek position).\nIn text mode, " ++
        "if encoding is not specified the encoding used is platform\ndependent: " ++
        "locale.getencoding() is called to get the current locale encoding.\n(For " ++
        "reading and writing raw bytes use binary mode and leave " ++
        "encoding\nunspecified.) The available modes are:\n\n========= " ++
        "===============================================================\nCharacter " ++
        "Meaning\n--------- " ++
        "---------------------------------------------------------------\n'r'       " ++
        "open for reading (default)\n'w'       open for writing, truncating the file " ++
        "first\n'x'       create a new file and open it for writing\n'a'       open " ++
        "for writing, appending to the end of the file if it exists\n'b'       binary " ++
        "mode\n't'       text mode (default)\n'+'       open a disk file for updating " ++
        "(reading and writing)\n========= " ++
        "===============================================================\n\nThe " ++
        "default mode is 'rt' (open for reading text). For binary random\naccess, the " ++
        "mode 'w+b' opens and truncates the file to 0 bytes, while\n'r+b' opens the " ++
        "file without truncation. The 'x' mode implies 'w' and\nraises an " ++
        "`FileExistsError` if the file already exists.\n\nPython distinguishes between " ++
        "files opened in binary and text modes,\neven when the underlying operating " ++
        "system doesn't. Files opened in\nbinary mode (appending 'b' to the mode " ++
        "argument) return contents as\nbytes objects without any decoding. In text " ++
        "mode (the default, or when\n't' is appended to the mode argument), the " ++
        "contents of the file are\nreturned as strings, the bytes having been first " ++
        "decoded using a\nplatform-dependent encoding or using the specified encoding " ++
        "if given.\n\nbuffering is an optional integer used to set the buffering " ++
        "policy.\nPass 0 to switch buffering off (only allowed in binary mode), 1 to " ++
        "select\nline buffering (only usable in text mode), and an integer > 1 to " ++
        "indicate\nthe size of a fixed-size chunk buffer.  When no buffering argument " ++
        "is\ngiven, the default buffering policy works as follows:\n\n* Binary files " ++
        "are buffered in fixed-size chunks; the size of the buffer\n  is chosen using " ++
        "a heuristic trying to determine the underlying device's\n  \"block size\" and " ++
        "falling back on `io.DEFAULT_BUFFER_SIZE`.\n  On many systems, the buffer will " ++
        "typically be 4096 or 8192 bytes long.\n\n* \"Interactive\" text files (files " ++
        "for which isatty() returns True)\n  use line buffering.  Other text files use " ++
        "the policy described above\n  for binary files.\n\nencoding is the name of " ++
        "the encoding used to decode or encode the\nfile. This should only be used in " ++
        "text mode. The default encoding is\nplatform dependent, but any encoding " ++
        "supported by Python can be\npassed.  See the codecs module for the list of " ++
        "supported encodings.\n\nerrors is an optional string that specifies how " ++
        "encoding errors are to\nbe handled---this argument should not be used in " ++
        "binary mode. Pass\n'strict' to raise a ValueError exception if there is an " ++
        "encoding error\n(the default of None has the same effect), or pass 'ignore' " ++
        "to ignore\nerrors. (Note that ignoring encoding errors can lead to data " ++
        "loss.)\nSee the documentation for codecs.register or run " ++
        "'help(codecs.Codec)'\nfor a list of the permitted encoding error " ++
        "strings.\n\nnewline controls how universal newlines works (it only applies to " ++
        "text\nmode). It can be None, '', '\\n', '\\r', and '\\r\\n'.  It works " ++
        "as\nfollows:\n\n* On input, if newline is None, universal newlines mode is\n  " ++
        "enabled. Lines in the input can end in '\\n', '\\r', or '\\r\\n', and\n  " ++
        "these are translated into '\\n' before being returned to the\n  caller. If it " ++
        "is '', universal newline mode is enabled, but line\n  endings are returned to " ++
        "the caller untranslated. If it has any of\n  the other legal values, input " ++
        "lines are only terminated by the given\n  string, and the line ending is " ++
        "returned to the caller untranslated.\n\n* On output, if newline is None, any " ++
        "'\\n' characters written are\n  translated to the system default line " ++
        "separator, os.linesep. If\n  newline is '' or '\\n', no translation takes " ++
        "place. If newline is any\n  of the other legal values, any '\\n' characters " ++
        "written are translated\n  to the given string.\n\nIf closefd is False, the " ++
        "underlying file descriptor will be kept open\nwhen the file is closed. This " ++
        "does not work when a file name is given\nand must be True in that case.\n\nA " ++
        "custom opener can be used by passing a callable as *opener*. The\nunderlying " ++
        "file descriptor for the file object is then obtained by\ncalling *opener* " ++
        "with (*file*, *flags*). *opener* must return an open\nfile descriptor " ++
        "(passing os.open as *opener* results in functionality\nsimilar to passing " ++
        "None).\n\nopen() returns a file object whose type depends on the mode, " ++
        "and\nthrough which the standard file operations such as reading and " ++
        "writing\nare performed. When open() is used to open a file in a text mode " ++
        "('w',\n'r', 'wt', 'rt', etc.), it returns a TextIOWrapper. When used to " ++
        "open\na file in a binary mode, the returned class varies: in read " ++
        "binary\nmode, it returns a BufferedReader; in write binary and append " ++
        "binary\nmodes, it returns a BufferedWriter, and in read/write mode, it " ++
        "returns\na BufferedRandom.\n\nIt is also possible to use a string or " ++
        "bytearray as a file for both\nreading and writing. For strings StringIO can " ++
        "be used like a file\nopened in a text mode, and for bytes a BytesIO can be " ++
        "used like a file\nopened in a binary mode.")⟩),
    ("ord", ⟨some "($module, c, /)",
      some "Return the Unicode code point for a one-character string."⟩),
    ("pow", ⟨some "($module, /, base, exp, mod=None)",
      some ("Equivalent to base**exp with 2 arguments or base**exp % mod with 3 " ++
        "arguments\n\nSome types, such as ints, are able to use a more efficient " ++
        "algorithm when\ninvoked using the three argument form.")⟩),
    ("print", ⟨some "($module, /, *args, sep=' ', end='\\n', file=None, flush=False)",
      some ("Prints the values to a stream, or to sys.stdout by default.\n\n  sep\n    " ++
        "string inserted between values, default a space.\n  end\n    string appended " ++
        "after the last value, default a newline.\n  file\n    a file-like object " ++
        "(stream); defaults to the current sys.stdout.\n  flush\n    whether to " ++
        "forcibly flush the stream.")⟩),
    ("repr", ⟨some "($module, obj, /)",
      some ("Return the canonical string representation of the object.\n\nFor many object " ++
        "types, including most builtins, eval(repr(obj)) == obj.")⟩),
    ("round", ⟨some "($module, /, number, ndigits=None)",
      some ("Round a number to a given precision in decimal digits.\n\nThe return value is " ++
        "an integer if ndigits is omitted or None.  Otherwise\nthe return value has " ++
        "the same type as the number.  ndigits may be negative.")⟩),
    ("setattr", ⟨some "($module, obj, name, value, /)",
      some ("Sets the named attribute on the given object to the specified " ++
        "value.\n\nsetattr(x, 'y', v) is equivalent to ``x.y = v``")⟩),
    ("sorted", ⟨some "($module, iterable, /, *, key=None, reverse=False)",
      some ("Return a new list containing all items from the iterable in ascending " ++
        "order.\n\nA custom key function can be supplied to customize the sort order, " ++
        "and the\nreverse flag can be set to request the result in descending order.")⟩),
    ("sum", ⟨some "($module, iterable, /, start=0)",
      some ("Return the sum of a 'start' value (default: 0) plus an iterable of " ++
        "numbers\n\nWhen the iterable is empty, return the start value.\nThis function " ++
        "is intended specifically for use with numeric values and may\nreject " ++
        "non-numeric types.")⟩),
    ("vars", ⟨none,
      some ("vars([object]) -> dictionary\n\nWithout arguments, equivalent to " ++
        "locals().\nWith an argument, equivalent to object.__dict__.")⟩)]
  | "math" => [
    ("acos", ⟨some "($module, x, /)",
      some ("Return the arc cosine (measured in radians) of x.\n\nThe result is between 0 " ++
        "and pi.")⟩),
    ("acosh", ⟨some "($module, x, /)", some "Return the inverse hyperbolic cosine of x."⟩),
    ("asin", ⟨some "($module, x, /)",
      some ("Return the arc sine (measured in radians) of x.\n\nThe result is between " ++
        "-pi/2 and pi/2.")⟩),
    ("asinh", ⟨some "($module, x, /)", some "Return the inverse hyperbolic sine of x."⟩),
    ("atan", ⟨some "($module, x, /)",
      some ("Return the arc tangent (measured in radians) of x.\n\nThe result is between " ++
        "-pi/2 and pi/2.")⟩),
    ("atan2", ⟨some "($module, y, x, /)",
      some ("Return the arc tangent (measured in radians) of y/x.\n\nUnlike atan(y/x), the " ++
        "signs of both x and y are considered.")⟩),
    ("atanh", ⟨some "($module, x, /)", some "Return the inverse hyperbolic tangent of x."⟩),
    ("cbrt", ⟨some "($module, x, /)", some "Return the cube root of x."⟩),
    ("ceil", ⟨some "($module, x, /)",
      some "Return the ceiling of x as an Integral.\n\nThis is the smallest integer >= x."⟩),
    ("comb", ⟨some "($module, n, k, /)",
      some ("Number of ways to choose k items from n items without repetition and without " ++
        "order.\n\nEvaluates to n! / (k! * (n - k)!) when k <= n and evaluates\nto " ++
        "zero when k > n.\n\nAlso called the binomial coefficient because it is " ++
        "equivalent\nto the coefficient of k-th term in polynomial expansion of " ++
        "the\nexpression (1 + x)**n.\n\nRaises TypeError if either of the arguments " ++
        "are not integers.\nRaises ValueError if either of the arguments are negative.")⟩),
    ("copysign", ⟨some "($module, x, y, /)",
      some ("Return a float with the magnitude (absolute value) of x but the sign of " ++
        "y.\n\nOn platforms that support signed zeros, copysign(1.0, -0.0)\nreturns " ++
        "-1.0.\n")⟩),
    ("cos", ⟨some "($module, x, /)", some "Return the cosine of x (measured in radians)."⟩),
    ("cosh", ⟨some "($module, x, /)", some "Return the hyperbolic cosine of x."⟩),
    ("degrees", ⟨some "($module, x, /)", some "Convert angle x from radians to degrees."⟩),
    ("dist", ⟨some "($module, p, q, /)",
      some ("Return the Euclidean distance between two points p and q.\n\nThe points " ++
        "should be specified as sequences (or iterables) of\ncoordinates.  Both inputs " ++
        "must have the same dimension.\n\nRoughly equivalent to:\n    sqrt(sum((px - " ++
        "qx) ** 2.0 for px, qx in zip(p, q)))")⟩),
    ("erf", ⟨some "($module, x, /)", some "Error function at x."⟩),
    ("erfc", ⟨some "($module, x, /)", some "Complementary error function at x."⟩),
    ("exp", ⟨some "($module, x, /)", some "Return e raised to the power of x."⟩),
    ("exp2", ⟨some "($module, x, /)", some "Return 2 raised to the power of x."⟩),
    ("expm1", ⟨some "($module, x, /)",
      some ("Return exp(x)-1.\n\nThis function avoids the loss of precision involved in " ++
        "the direct evaluation of exp(x)-1 for small x.")⟩),
    ("fabs", ⟨some "($module, x, /)", some "Return the absolute value of the float x."⟩),
    ("factorial", ⟨some "($module, n, /)",
      some "Find n!.\n\nRaise a ValueError if x is negative or non-integral."⟩),
    ("floor", ⟨some "($module, x, /)",
      some "Return the floor of x as an Integral.\n\nThis is the largest integer <= x."⟩),
    ("fmod", ⟨some "($module, x, y, /)",
      some "Return fmod(x, y), according to platform C.\n\nx % y may differ."⟩),
    ("frexp", ⟨some "($module, x, /)",
      some ("Return the mantissa and exponent of x, as pair (m, e).\n\nm is a float and e " ++
        "is an int, such that x = m * 2.**e.\nIf x is 0, m and e are both 0.  Else 0.5 " ++
        "<= abs(m) < 1.0.")⟩),
    ("fsum", ⟨some "($module, seq, /)",
      some ("Return an accurate floating point sum of values in the iterable " ++
        "seq.\n\nAssumes IEEE-754 floating point arithmetic.")⟩),
    ("gamma", ⟨some "($module, x, /)", some "Gamma function at x."⟩),
    ("gcd", ⟨some "($module, *integers)", some "Greatest Common Divisor."⟩),
    ("hypot", ⟨none,
      some ("hypot(*coordinates) -> value\n\nMultidimensional Euclidean distance from the " ++
        "origin to a point.\n\nRoughly equivalent to:\n    sqrt(sum(x**2 for x in " ++
        "coordinates))\n\nFor a two dimensional point (x, y), gives the " ++
        "hypotenuse\nusing the Pythagorean theorem:  sqrt(x*x + y*y).\n\nFor example, " ++
        "the hypotenuse of a 3/4/5 right triangle is:\n\n    >>> hypot(3.0, 4.0)\n    " ++
        "5.0\n")⟩),
    ("isclose", ⟨some "($module, /, a, b, *, rel_tol=1e-09, abs_tol=0.0)",
      some ("Determine whether two floating point numbers are close in value.\n\n  " ++
        "rel_tol\n    maximum difference for being considered \"close\", relative to " ++
        "the\n    magnitude of the input values\n  abs_tol\n    maximum difference for " ++
        "being considered \"close\", regardless of the\n    magnitude of the input " ++
        "values\n\nReturn True if a is close in value to b, and False " ++
        "otherwise.\n\nFor the values to be considered close, the difference between " ++
        "them\nmust be smaller than at least one of the tolerances.\n\n-inf, inf and " ++
        "NaN behave similarly to the IEEE 754 Standard.  That\nis, NaN is not close to " ++
        "anything, even itself.  inf and -inf are\nonly close to themselves.")⟩),
    ("isfinite", ⟨some "($module, x, /)",
      some "Return True if x is neither an infinity nor a NaN, and False otherwise."⟩),
    ("isinf", ⟨some "($module, x, /)",
      some "Return True if x is a positive or negative infinity, and False otherwise."⟩),
    ("isnan", ⟨some "($module, x, /)",
      some "Return True if x is a NaN (not a number), and False otherwise."⟩),
    ("isqrt", ⟨some "($module, n, /)",
      some "Return the integer part of the square root of the input."⟩),
    ("lcm", ⟨some "($module, *integers)", some "Least Common Multiple."⟩),
    ("ldexp", ⟨some "($module, x, i, /)",
      some "Return x * (2**i).\n\nThis is essentially the inverse of frexp()."⟩),
    ("lgamma", ⟨some "($module, x, /)",
      some "Natural logarithm of absolute value of Gamma function at x."⟩),
    ("log", ⟨none,
      some ("log(x, [base=math.e])\nReturn the logarithm of x to the given base.\n\nIf the " ++
        "base not specified, returns the natural logarithm (base e) of x.")⟩),
    ("log10", ⟨some "($module, x, /)", some "Return the base 10 logarithm of x."⟩),
    ("log1p", ⟨some "($module, x, /)",
      some ("Return the natural logarithm of 1+x (base e).\n\nThe result is computed in a " ++
        "way which is accurate for x near zero.")⟩),
    ("log2", ⟨some "($module, x, /)", some "Return the base 2 logarithm of x."⟩),
    ("modf", ⟨some "($module, x, /)",
      some ("Return the fractional and integer parts of x.\n\nBoth results carry the sign " ++
        "of x and are floats.")⟩),
    ("nextafter", ⟨some "($module, x, y, /)",
      some "Return the next floating-point value after x towards y."⟩),
    ("perm", ⟨some "($module, n, k=None, /)",
      some ("Number of ways to choose k items from n items without repetition and with " ++
        "order.\n\nEvaluates to n! / (n - k)! when k <= n and evaluates\nto zero when " ++
        "k > n.\n\nIf k is not specified or is None, then k defaults to n\nand the " ++
        "function returns n!.\n\nRaises TypeError if either of the arguments are not " ++
        "integers.\nRaises ValueError if either of the arguments are negative.")⟩),
    ("pow", ⟨some "($module, x, y, /)", some "Return x**y (x to the power of y)."⟩),
    ("prod", ⟨some "($module, iterable, /, *, start=1)",
      some ("Calculate the product of all the elements in the input iterable.\n\nThe " ++
        "default start value for the product is 1.\n\nWhen the iterable is empty, " ++
        "return the start value.  This function is\nintended specifically for use with " ++
        "numeric values and may reject\nnon-numeric types.")⟩),
    ("radians", ⟨some "($module, x, /)", some "Convert angle x from degrees to radians."⟩),
    ("remainder", ⟨some "($module, x, y, /)",
      some ("Difference between x and the closest integer multiple of y.\n\nReturn x - n*y " ++
        "where n*y is the closest integer multiple of y.\nIn the case where x is " ++
        "exactly halfway between two multiples of\ny, the nearest even value of n is " ++
        "used. The result is always exact.")⟩),
    ("sin", ⟨some "($module, x, /)", some "Return the sine of x (measured in radians)."⟩),
    ("sinh", ⟨some "($module, x, /)", some "Return the hyperbolic sine of x."⟩),
    ("sqrt", ⟨some "($module, x, /)", some "Return the square root of x."⟩),
    ("tan", ⟨some "($module, x, /)", some "Return the tangent of x (measured in radians)."⟩),
    ("tanh", ⟨some "($module, x, /)", some "Return the hyperbolic tangent of x."⟩),
    ("trunc", ⟨some "($module, x, /)",
      some ("Truncates the Real x to the nearest Integral toward 0.\n\nUses the __trunc__ " ++
        "magic method.")⟩),
    ("ulp", ⟨some "($module, x, /)",
      some "Return the value of the least significant bit of the float x."⟩)]
  | "sys" => [
    ("_clear_type_cache", ⟨some "($module, /)", some "Clear the internal type lookup cache."⟩),
    ("_current_exceptions", ⟨some "($module, /)",
      some ("Return a dict mapping each thread's identifier to its current raised " ++
        "exception.\n\nThis function should be used for specialized purposes only.")⟩),
    ("_current_frames", ⟨some "($module, /)",
      some ("Return a dict mapping each thread's thread id to its current stack " ++
        "frame.\n\nThis function should be used for specialized purposes only.")⟩),
    ("_debugmallocstats", ⟨some "($module, /)",
      some ("Print summary info to stderr about the state of pymalloc's structures.\n\nIn " ++
        "Py_DEBUG mode, also perform some expensive internal consistency\nchecks.")⟩),
    ("_getframe", ⟨some "($module, depth=0, /)",
      some ("Return a frame object from the call stack.\n\nIf optional integer depth is " ++
        "given, return the frame object that many\ncalls below the top of the stack.  " ++
        "If that is deeper than the call\nstack, ValueError is raised.  The default " ++
        "for depth is zero, returning\nthe frame at the top of the call stack.\n\nThis " ++
        "function should be used for internal and specialized purposes\nonly.")⟩),
    ("addaudithook", ⟨some "($module, /, hook)", some "Adds a new audit hook callback."⟩),
    ("audit", ⟨none,
      some "audit(event, *args)\n\nPasses the event to any audit hooks that are attached."⟩),
    ("breakpointhook", ⟨none,
      some ("breakpointhook(*args, **kws)\n\nThis hook function is called by built-in " ++
        "breakpoint().\n")⟩),
    ("call_tracing", ⟨some "($module, func, args, /)",
      some ("Call func(*args), while tracing is enabled.\n\nThe tracing state is saved, " ++
        "and restored afterwards.  This is intended\nto be called from a debugger from " ++
        "a checkpoint, to recursively debug\nsome other code.")⟩),
    ("displayhook", ⟨some "($module, object, /)",
      some "Print an object to sys.stdout and also save it in builtins._"⟩),
    ("exc_info", ⟨some "($module, /)",
      some ("Return current exception information: (type, value, traceback).\n\nReturn " ++
        "information about the most recent exception caught by an except\nclause in " ++
        "the current stack frame or in an older stack frame.")⟩),
    ("excepthook", ⟨some "($module, exctype, value, traceback, /)",
      some "Handle an exception by displaying it with a traceback on sys.stderr."⟩),
    ("exception", ⟨some "($module, /)",
      some ("Return the current exception.\n\nReturn the most recent exception caught by " ++
        "an except clause\nin the current stack frame or in an older stack frame, or " ++
        "None\nif no such exception exists.")⟩),
    ("exit", ⟨some "($module, status=None, /)",
      some ("Exit the interpreter by raising SystemExit(status).\n\nIf the status is " ++
        "omitted or None, it defaults to zero (i.e., success).\nIf the status is an " ++
        "integer, it will be used as the system exit status.\nIf it is another kind of " ++
        "object, it will be printed and the system\nexit status will be one (i.e., " ++
        "failure).")⟩),
    ("get_asyncgen_hooks", ⟨some "($module, /)",
      some ("Return the installed asynchronous generators hooks.\n\nThis returns a " ++
        "namedtuple of the form (firstiter, finalizer).")⟩),
    ("get_coroutine_origin_tracking_depth", ⟨some "($module, /)",
      some "Check status of origin tracking for coroutine objects in this thread."⟩),
    ("get_int_max_str_digits", ⟨some "($module, /)",
      some "Return the maximum string digits limit for non-binary int<->str conversions."⟩),
    ("getallocatedblocks", ⟨some "($module, /)",
      some "Return the number of memory blocks currently allocated."⟩),
    ("getdefaultencoding", ⟨some "($module, /)",
      some "Return the current default encoding used by the Unicode implementation."⟩),
    ("getdlopenflags", ⟨some "($module, /)",
      some ("Return the current value of the flags that are used for dlopen calls.\n\nThe " ++
        "flag constants are defined in the os module.")⟩),
    ("getfilesystemencodeerrors", ⟨some "($module, /)",
      some "Return the error mode used Unicode to OS filename conversion."⟩),
    ("getfilesystemencoding", ⟨some "($module, /)",
      some "Return the encoding used to convert Unicode filenames to OS filenames."⟩),
    ("getprofile", ⟨some "($module, /)",
      some ("Return the profiling function set with sys.setprofile.\n\nSee the profiler " ++
        "chapter in the library manual.")⟩),
    ("getrecursionlimit", ⟨some "($module, /)",
      some ("Return the current value of the recursion limit.\n\nThe recursion limit is " ++
        "the maximum depth of the Python interpreter\nstack.  This limit prevents " ++
        "infinite recursion from causing an overflow\nof the C stack and crashing " ++
        "Python.")⟩),
    ("getrefcount", ⟨some "($module, object, /)",
      some ("Return the reference count of object.\n\nThe count returned is generally one " ++
        "higher than you might expect,\nbecause it includes the (temporary) reference " ++
        "as an argument to\ngetrefcount().")⟩),
    ("getsizeof", ⟨none,
      some "getsizeof(object [, default]) -> int\n\nReturn the size of object in bytes."⟩),
    ("getswitchinterval", ⟨some "($module, /)",
      some "Return the current thread switch interval; see sys.setswitchinterval()."⟩),
    ("gettrace", ⟨some "($module, /)",
      some ("Return the global debug tracing function set with sys.settrace.\n\nSee the " ++
        "debugger chapter in the library manual.")⟩),
    ("intern", ⟨some "($module, string, /)",
      some ("``Intern'' the given string.\n\nThis enters the string in the (global) table " ++
        "of interned strings whose\npurpose is to speed up dictionary lookups. Return " ++
        "the string itself or\nthe previously interned string object with the same " ++
        "value.")⟩),
    ("is_finalizing", ⟨some "($module, /)", some "Return True if Python is exiting."⟩),
    ("set_asyncgen_hooks", ⟨none,
      some ("set_asyncgen_hooks([firstiter] [, finalizer])\n\nSet a finalizer for async " ++
        "generators objects.")⟩),
    ("set_coroutine_origin_tracking_depth", ⟨some "($module, /, depth)",
      some ("Enable or disable origin tracking for coroutine objects in this " ++
        "thread.\n\nCoroutine objects will track 'depth' frames of traceback " ++
        "information\nabout where they came from, available in their cr_origin " ++
        "attribute.\n\nSet a depth of 0 to disable.")⟩),
    ("set_int_max_str_digits", ⟨some "($module, /, maxdigits)",
      some "Set the maximum string digits limit for non-binary int<->str conversions."⟩),
    ("setdlopenflags", ⟨some "($module, flags, /)",
      some ("Set the flags used by the interpreter for dlopen calls.\n\nThis is used, for " ++
        "example, when the interpreter loads extension\nmodules. Among other things, " ++
        "this will enable a lazy resolving of\nsymbols when importing a module, if " ++
        "called as sys.setdlopenflags(0).\nTo share symbols across extension modules, " ++
        "call as\nsys.setdlopenflags(os.RTLD_GLOBAL).  Symbolic names for the " ++
        "flag\nmodules can be found in the os module (RTLD_xxx constants, " ++
        "e.g.\nos.RTLD_LAZY).")⟩),
    ("setprofile", ⟨none,
      some ("setprofile(function)\n\nSet the profiling function.  It will be called on " ++
        "each function call\nand return.  See the profiler chapter in the library " ++
        "manual.")⟩),
    ("setrecursionlimit", ⟨some "($module, limit, /)",
      some ("Set the maximum depth of the Python interpreter stack to n.\n\nThis limit " ++
        "prevents infinite recursion from causing an overflow of the C\nstack and " ++
        "crashing Python.  The highest possible limit is platform-\ndependent.")⟩),
    ("setswitchinterval", ⟨some "($module, interval, /)",
      some ("Set the ideal thread switching delay inside the Python interpreter.\n\nThe " ++
        "actual frequency of switching threads can be lower if the\ninterpreter " ++
        "executes long sequences of uninterruptible code\n(this is " ++
        "implementation-specific and workload-dependent).\n\nThe parameter must " ++
        "represent the desired switching delay in seconds\nA typical value is 0.005 (5 " ++
        "milliseconds).")⟩),
    ("settrace", ⟨none,
      some ("settrace(function)\n\nSet the global debug tracing function.  It will be " ++
        "called on each\nfunction call.  See the debugger chapter in the library " ++
        "manual.")⟩),
    ("unraisablehook", ⟨some "($module, unraisable, /)",
      some ("Handle an unraisable exception.\n\nThe unraisable argument has the following " ++
        "attributes:\n\n* exc_type: Exception type.\n* exc_value: Exception value, can " ++
        "be None.\n* exc_traceback: Exception traceback, can be None.\n* err_msg: " ++
        "Error message, can be None.\n* object: Object causing the exception, can be " ++
        "None.")⟩)]
  | _ => []

/-- The texts of a function of a module. -/
def functionTexts (moduleName name : String) : Texts :=
  ((functionTextsOf moduleName).lookup name).getD ⟨none, none⟩

end Embedder.Machine
