import Embedder.Machine.Class

/-!
# What the members of built-in classes say of themselves

The documentation of the methods and the data that built-in classes have from birth, and how methods
say that they are called. Most classes with a member of a name agree on it.
-/

namespace Embedder.Machine

/-- How something says that it is called, and what it says that it is for. -/
structure Texts where
  signature : Option String
  doc : Option String
  deriving DecidableEq, Repr

/-- The texts of members that several classes have, by name. -/
def commonTexts : List (String × Texts) := [
  ("__class_getitem__", ⟨none, some "See PEP 585"⟩),
  ("__contains__", ⟨none, some "x.__contains__(y) <==> y in x."⟩),
  ("__getitem__", ⟨none, some "x.__getitem__(y) <==> x[y]"⟩),
  ("__getnewargs__", ⟨some "($self, /)", none⟩),
  ("__length_hint__", ⟨none, some "Private method returning an estimate of len(list(it))."⟩),
  ("__reduce__", ⟨none, some "Return state information for pickling."⟩),
  ("__setstate__", ⟨none, some "Set state information for unpickling."⟩),
  ("__sizeof__", ⟨none, some "S.__sizeof__() -> size of S in memory, in bytes"⟩),
  ("capitalize", ⟨none,
    some ("B.capitalize() -> copy of B\n\nReturn a copy of B with only its first character " ++
      "capitalized (ASCII)\nand the rest lower-cased.")⟩),
  ("center", ⟨some "($self, width, fillchar=b' ', /)",
    some ("Return a centered string of length width.\n\nPadding is done using the " ++
      "specified fill character.")⟩),
  ("copy", ⟨none, some "Return a shallow copy of a set."⟩),
  ("count", ⟨none,
    some ("B.count(sub[, start[, end]]) -> int\n\nReturn the number of non-overlapping " ++
      "occurrences of subsection sub in\nbytes B[start:end].  Optional arguments start " ++
      "and end are interpreted\nas in slice notation.")⟩),
  ("difference", ⟨none,
    some ("Return the difference of two or more sets as a new set.\n\n(i.e. all elements " ++
      "that are in this set but not the others.)")⟩),
  ("encoding", ⟨none, some "exception encoding"⟩),
  ("end", ⟨none, some "exception end"⟩),
  ("endswith", ⟨none,
    some ("B.endswith(suffix[, start[, end]]) -> bool\n\nReturn True if B ends with the " ++
      "specified suffix, False otherwise.\nWith optional start, test B beginning at " ++
      "that position.\nWith optional end, stop comparing B at that position.\nsuffix " ++
      "can also be a tuple of bytes to try.")⟩),
  ("expandtabs", ⟨some "($self, /, tabsize=8)",
    some ("Return a copy where all tab characters are expanded using spaces.\n\nIf tabsize " ++
      "is not given, a tab size of 8 characters is assumed.")⟩),
  ("filename", ⟨none, some "exception filename"⟩),
  ("find", ⟨none,
    some ("B.find(sub[, start[, end]]) -> int\n\nReturn the lowest index in B where " ++
      "subsection sub is found,\nsuch that sub is contained within B[start,end].  " ++
      "Optional\narguments start and end are interpreted as in slice " ++
      "notation.\n\nReturn -1 on failure.")⟩),
  ("imag", ⟨none, some "the imaginary part of a complex number"⟩),
  ("index", ⟨none,
    some ("B.index(sub[, start[, end]]) -> int\n\nReturn the lowest index in B where " ++
      "subsection sub is found,\nsuch that sub is contained within B[start,end].  " ++
      "Optional\narguments start and end are interpreted as in slice " ++
      "notation.\n\nRaises ValueError when the subsection is not found.")⟩),
  ("intersection", ⟨none,
    some ("Return the intersection of two sets as a new set.\n\n(i.e. all elements that " ++
      "are in both sets.)")⟩),
  ("isalnum", ⟨none,
    some ("B.isalnum() -> bool\n\nReturn True if all characters in B are alphanumeric\nand " ++
      "there is at least one character in B, False otherwise.")⟩),
  ("isalpha", ⟨none,
    some ("B.isalpha() -> bool\n\nReturn True if all characters in B are alphabetic\nand " ++
      "there is at least one character in B, False otherwise.")⟩),
  ("isascii", ⟨none,
    some ("B.isascii() -> bool\n\nReturn True if B is empty or all characters in B are " ++
      "ASCII,\nFalse otherwise.")⟩),
  ("isdigit", ⟨none,
    some ("B.isdigit() -> bool\n\nReturn True if all characters in B are digits\nand there " ++
      "is at least one character in B, False otherwise.")⟩),
  ("isdisjoint", ⟨none, some "Return True if two sets have a null intersection."⟩),
  ("islower", ⟨none,
    some ("B.islower() -> bool\n\nReturn True if all cased characters in B are lowercase " ++
      "and there is\nat least one cased character in B, False otherwise.")⟩),
  ("isspace", ⟨none,
    some ("B.isspace() -> bool\n\nReturn True if all characters in B are whitespace\nand " ++
      "there is at least one character in B, False otherwise.")⟩),
  ("issubset", ⟨some "($self, other, /)",
    some "Test whether every element in the set is in other."⟩),
  ("issuperset", ⟨some "($self, other, /)",
    some "Test whether every element in other is in the set."⟩),
  ("istitle", ⟨none,
    some ("B.istitle() -> bool\n\nReturn True if B is a titlecased string and there is at " ++
      "least one\ncharacter in B, i.e. uppercase characters may only follow " ++
      "uncased\ncharacters and lowercase characters only cased ones. Return " ++
      "False\notherwise.")⟩),
  ("isupper", ⟨none,
    some ("B.isupper() -> bool\n\nReturn True if all cased characters in B are uppercase " ++
      "and there is\nat least one cased character in B, False otherwise.")⟩),
  ("items", ⟨none, some "D.items() -> a set-like object providing a view on D's items"⟩),
  ("keys", ⟨none, some "D.keys() -> a set-like object providing a view on D's keys"⟩),
  ("ljust", ⟨some "($self, width, fillchar=b' ', /)",
    some ("Return a left-justified string of length width.\n\nPadding is done using the " ++
      "specified fill character.")⟩),
  ("lower", ⟨none,
    some ("B.lower() -> copy of B\n\nReturn a copy of B with all ASCII characters " ++
      "converted to lowercase.")⟩),
  ("maketrans", ⟨some "(frm, to, /)",
    some ("Return a translation table useable for the bytes or bytearray translate " ++
      "method.\n\nThe returned table will be one where each byte in frm is mapped to " ++
      "the byte at\nthe same position in to.\n\nThe bytes objects frm and to must be " ++
      "of the same length.")⟩),
  ("object", ⟨none, some "exception object"⟩),
  ("real", ⟨none, some "the real part of a complex number"⟩),
  ("reason", ⟨none, some "exception reason"⟩),
  ("replace", ⟨some "($self, old, new, count=-1, /)",
    some ("Return a copy with all occurrences of substring old replaced by new.\n\n  " ++
      "count\n    Maximum number of occurrences to replace.\n    -1 (the default " ++
      "value) means replace all occurrences.\n\nIf the optional argument count is " ++
      "given, only the first count occurrences are\nreplaced.")⟩),
  ("rfind", ⟨none,
    some ("B.rfind(sub[, start[, end]]) -> int\n\nReturn the highest index in B where " ++
      "subsection sub is found,\nsuch that sub is contained within B[start,end].  " ++
      "Optional\narguments start and end are interpreted as in slice " ++
      "notation.\n\nReturn -1 on failure.")⟩),
  ("rindex", ⟨none,
    some ("B.rindex(sub[, start[, end]]) -> int\n\nReturn the highest index in B where " ++
      "subsection sub is found,\nsuch that sub is contained within B[start,end].  " ++
      "Optional\narguments start and end are interpreted as in slice " ++
      "notation.\n\nRaise ValueError when the subsection is not found.")⟩),
  ("rjust", ⟨some "($self, width, fillchar=b' ', /)",
    some ("Return a right-justified string of length width.\n\nPadding is done using the " ++
      "specified fill character.")⟩),
  ("rstrip", ⟨some "($self, bytes=None, /)",
    some ("Strip trailing bytes contained in the argument.\n\nIf the argument is omitted " ++
      "or None, strip trailing ASCII whitespace.")⟩),
  ("start", ⟨none, some "exception start"⟩),
  ("startswith", ⟨none,
    some ("B.startswith(prefix[, start[, end]]) -> bool\n\nReturn True if B starts with " ++
      "the specified prefix, False otherwise.\nWith optional start, test B beginning " ++
      "at that position.\nWith optional end, stop comparing B at that " ++
      "position.\nprefix can also be a tuple of bytes to try.")⟩),
  ("strip", ⟨some "($self, bytes=None, /)",
    some ("Strip leading and trailing bytes contained in the argument.\n\nIf the argument " ++
      "is omitted or None, strip leading and trailing ASCII whitespace.")⟩),
  ("swapcase", ⟨none,
    some ("B.swapcase() -> copy of B\n\nReturn a copy of B with uppercase ASCII characters " ++
      "converted\nto lowercase ASCII and vice versa.")⟩),
  ("symmetric_difference", ⟨none,
    some ("Return the symmetric difference of two sets as a new set.\n\n(i.e. all elements " ++
      "that are in exactly one of the sets.)")⟩),
  ("title", ⟨none,
    some ("B.title() -> copy of B\n\nReturn a titlecased version of B, i.e. ASCII words " ++
      "start with uppercase\ncharacters, all remaining cased characters have lowercase.")⟩),
  ("translate", ⟨some "($self, table, /, delete=b'')",
    some ("Return a copy with each character mapped by the given translation table.\n\n  " ++
      "table\n    Translation table, which must be a bytes object of length " ++
      "256.\n\nAll characters occurring in the optional argument delete are " ++
      "removed.\nThe remaining characters are mapped through the given translation " ++
      "table.")⟩),
  ("union", ⟨none,
    some ("Return the union of sets as a new set.\n\n(i.e. all elements that are in either " ++
      "set.)")⟩),
  ("upper", ⟨none,
    some ("B.upper() -> copy of B\n\nReturn a copy of B with all ASCII characters " ++
      "converted to uppercase.")⟩),
  ("values", ⟨none, some "D.values() -> an object providing a view on D's values"⟩),
  ("zfill", ⟨some "($self, width, /)",
    some ("Pad a numeric string with zeros on the left, to fill a field of the given " ++
      "width.\n\nThe original string is never truncated.")⟩)]

/-- The texts of members of a class that differ from those of other classes, by name. -/
def Builtin.ownTexts : Builtin → List (String × Texts)
  | .object => [
    ("__class__", ⟨none, some "the object's class"⟩),
    ("__dir__", ⟨some "($self, /)", some "Default dir() implementation."⟩),
    ("__format__", ⟨some "($self, format_spec, /)", some "Default object formatter."⟩),
    ("__getstate__", ⟨some "($self, /)", some "Helper for pickle."⟩),
    ("__init_subclass__", ⟨none,
      some ("This method is called when a class is subclassed.\n\nThe default " ++
        "implementation does nothing. It may be\noverridden to extend subclasses.\n")⟩),
    ("__reduce__", ⟨some "($self, /)", some "Helper for pickle."⟩),
    ("__reduce_ex__", ⟨some "($self, protocol, /)", some "Helper for pickle."⟩),
    ("__sizeof__", ⟨some "($self, /)", some "Size of object in memory, in bytes."⟩),
    ("__subclasshook__", ⟨none,
      some ("Abstract classes can override this to customize issubclass().\n\nThis is " ++
        "invoked early on by abc.ABCMeta.__subclasscheck__().\nIt should return True, " ++
        "False or NotImplemented.  If it returns\nNotImplemented, the normal algorithm " ++
        "is used.  Otherwise, it\noverrides the normal algorithm (and the outcome is " ++
        "cached).\n")⟩)]
  | .typeClass => [
    ("__dir__", ⟨some "($self, /)", some "Specialized __dir__ implementation for types."⟩),
    ("__instancecheck__", ⟨some "($self, instance, /)", some "Check if an object is an instance."⟩),
    ("__prepare__", ⟨none,
      some "__prepare__() -> dict\nused to create the namespace for the class statement"⟩),
    ("__sizeof__", ⟨some "($self, /)", some "Return memory consumption of the type object."⟩),
    ("__subclasscheck__", ⟨some "($self, subclass, /)", some "Check if a class is a subclass."⟩),
    ("__subclasses__", ⟨some "($self, /)", some "Return a list of immediate subclasses."⟩),
    ("mro", ⟨some "($self, /)", some "Return a type's method resolution order."⟩)]
  | .notImplemented => [
    ("__reduce__", ⟨none, none⟩)]
  | .ellipsis => [
    ("__reduce__", ⟨none, none⟩)]
  | .int => [
    ("__ceil__", ⟨none, some "Ceiling of an Integral returns itself."⟩),
    ("__floor__", ⟨none, some "Flooring an Integral returns itself."⟩),
    ("__format__", ⟨some "($self, format_spec, /)", none⟩),
    ("__round__", ⟨some "($self, ndigits=<unrepresentable>, /)",
      some ("Rounding an Integral returns itself.\n\nRounding with an ndigits argument " ++
        "also returns an integer.")⟩),
    ("__sizeof__", ⟨some "($self, /)", some "Returns size in memory, in bytes."⟩),
    ("__trunc__", ⟨none, some "Truncating an Integral returns itself."⟩),
    ("as_integer_ratio", ⟨some "($self, /)",
      some ("Return integer ratio.\n\nReturn a pair of integers, whose ratio is exactly " ++
        "equal to the original int\nand with a positive denominator.\n\n>>> " ++
        "(10).as_integer_ratio()\n(10, 1)\n>>> (-10).as_integer_ratio()\n(-10, 1)\n>>> " ++
        "(0).as_integer_ratio()\n(0, 1)")⟩),
    ("bit_count", ⟨some "($self, /)",
      some ("Number of ones in the binary representation of the absolute value of " ++
        "self.\n\nAlso known as the population count.\n\n>>> bin(13)\n'0b1101'\n>>> " ++
        "(13).bit_count()\n3")⟩),
    ("bit_length", ⟨some "($self, /)",
      some ("Number of bits necessary to represent self in binary.\n\n>>> " ++
        "bin(37)\n'0b100101'\n>>> (37).bit_length()\n6")⟩),
    ("conjugate", ⟨none, some "Returns self, the complex conjugate of any int."⟩),
    ("denominator", ⟨none, some "the denominator of a rational number in lowest terms"⟩),
    ("from_bytes", ⟨some "($type, /, bytes, byteorder='big', *, signed=False)",
      some ("Return the integer represented by the given array of bytes.\n\n  bytes\n    " ++
        "Holds the array of bytes to convert.  The argument must either\n    support " ++
        "the buffer protocol or be an iterable object producing bytes.\n    Bytes and " ++
        "bytearray are examples of built-in objects that support the\n    buffer " ++
        "protocol.\n  byteorder\n    The byte order used to represent the integer.  If " ++
        "byteorder is 'big',\n    the most significant byte is at the beginning of the " ++
        "byte array.  If\n    byteorder is 'little', the most significant byte is at " ++
        "the end of the\n    byte array.  To request the native byte order of the host " ++
        "system, use\n    `sys.byteorder' as the byte order value.  Default is to use " ++
        "'big'.\n  signed\n    Indicates whether two's complement is used to represent " ++
        "the integer.")⟩),
    ("numerator", ⟨none, some "the numerator of a rational number in lowest terms"⟩),
    ("to_bytes", ⟨some "($self, /, length=1, byteorder='big', *, signed=False)",
      some ("Return an array of bytes representing an integer.\n\n  length\n    Length of " ++
        "bytes object to use.  An OverflowError is raised if the\n    integer is not " ++
        "representable with the given number of bytes.  Default\n    is length 1.\n  " ++
        "byteorder\n    The byte order used to represent the integer.  If byteorder is " ++
        "'big',\n    the most significant byte is at the beginning of the byte array.  " ++
        "If\n    byteorder is 'little', the most significant byte is at the end of " ++
        "the\n    byte array.  To request the native byte order of the host system, " ++
        "use\n    `sys.byteorder' as the byte order value.  Default is to use " ++
        "'big'.\n  signed\n    Determines whether two's complement is used to " ++
        "represent the integer.\n    If signed is False and a negative integer is " ++
        "given, an OverflowError\n    is raised.")⟩)]
  | .float => [
    ("__ceil__", ⟨some "($self, /)", some "Return the ceiling as an Integral."⟩),
    ("__floor__", ⟨some "($self, /)", some "Return the floor as an Integral."⟩),
    ("__format__", ⟨some "($self, format_spec, /)",
      some "Formats the float according to format_spec."⟩),
    ("__getformat__", ⟨some "($type, typestr, /)",
      some ("You probably don't want to use this function.\n\n  typestr\n    Must be " ++
        "'double' or 'float'.\n\nIt exists mainly to be used in Python's test " ++
        "suite.\n\nThis function returns whichever of 'unknown', 'IEEE, big-endian' or " ++
        "'IEEE,\nlittle-endian' best describes the format of floating point numbers " ++
        "used by the\nC type named by typestr.")⟩),
    ("__round__", ⟨some "($self, ndigits=None, /)",
      some ("Return the Integral closest to x, rounding half toward even.\n\nWhen an " ++
        "argument is passed, work like built-in round(x, ndigits).")⟩),
    ("__trunc__", ⟨some "($self, /)", some "Return the Integral closest to x between 0 and x."⟩),
    ("as_integer_ratio", ⟨some "($self, /)",
      some ("Return integer ratio.\n\nReturn a pair of integers, whose ratio is exactly " ++
        "equal to the original float\nand with a positive denominator.\n\nRaise " ++
        "OverflowError on infinities and a ValueError on NaNs.\n\n>>> " ++
        "(10.0).as_integer_ratio()\n(10, 1)\n>>> (0.0).as_integer_ratio()\n(0, 1)\n>>> " ++
        "(-.25).as_integer_ratio()\n(-1, 4)")⟩),
    ("conjugate", ⟨some "($self, /)", some "Return self, the complex conjugate of any float."⟩),
    ("fromhex", ⟨some "($type, string, /)",
      some ("Create a floating-point number from a hexadecimal string.\n\n>>> " ++
        "float.fromhex('0x1.ffffp10')\n2047.984375\n>>> " ++
        "float.fromhex('-0x1p-1074')\n-5e-324")⟩),
    ("hex", ⟨some "($self, /)",
      some ("Return a hexadecimal representation of a floating-point number.\n\n>>> " ++
        "(-0.1).hex()\n'-0x1.999999999999ap-4'\n>>> " ++
        "3.14159.hex()\n'0x1.921f9f01b866ep+1'")⟩),
    ("is_integer", ⟨some "($self, /)", some "Return True if the float is an integer."⟩)]
  | .complex => [
    ("__complex__", ⟨some "($self, /)", some "Convert this value to exact type complex."⟩),
    ("__format__", ⟨some "($self, format_spec, /)",
      some "Convert to a string according to format_spec."⟩),
    ("conjugate", ⟨some "($self, /)",
      some "Return the complex conjugate of its argument. (3-4j).conjugate() == 3+4j."⟩)]
  | .str => [
    ("__format__", ⟨some "($self, format_spec, /)",
      some "Return a formatted version of the string as described by format_spec."⟩),
    ("__getnewargs__", ⟨none, none⟩),
    ("__sizeof__", ⟨some "($self, /)", some "Return the size of the string in memory, in bytes."⟩),
    ("capitalize", ⟨some "($self, /)",
      some ("Return a capitalized version of the string.\n\nMore specifically, make the " ++
        "first character have upper case and the rest lower\ncase.")⟩),
    ("casefold", ⟨some "($self, /)",
      some "Return a version of the string suitable for caseless comparisons."⟩),
    ("center", ⟨some "($self, width, fillchar=' ', /)",
      some ("Return a centered string of length width.\n\nPadding is done using the " ++
        "specified fill character (default is a space).")⟩),
    ("count", ⟨none,
      some ("S.count(sub[, start[, end]]) -> int\n\nReturn the number of non-overlapping " ++
        "occurrences of substring sub in\nstring S[start:end].  Optional arguments " ++
        "start and end are\ninterpreted as in slice notation.")⟩),
    ("encode", ⟨some "($self, /, encoding='utf-8', errors='strict')",
      some ("Encode the string using the codec registered for encoding.\n\n  encoding\n    " ++
        "The encoding in which to encode the string.\n  errors\n    The error handling " ++
        "scheme to use for encoding errors.\n    The default is 'strict' meaning that " ++
        "encoding errors raise a\n    UnicodeEncodeError.  Other possible values are " ++
        "'ignore', 'replace' and\n    'xmlcharrefreplace' as well as any other name " ++
        "registered with\n    codecs.register_error that can handle " ++
        "UnicodeEncodeErrors.")⟩),
    ("endswith", ⟨none,
      some ("S.endswith(suffix[, start[, end]]) -> bool\n\nReturn True if S ends with the " ++
        "specified suffix, False otherwise.\nWith optional start, test S beginning at " ++
        "that position.\nWith optional end, stop comparing S at that position.\nsuffix " ++
        "can also be a tuple of strings to try.")⟩),
    ("find", ⟨none,
      some ("S.find(sub[, start[, end]]) -> int\n\nReturn the lowest index in S where " ++
        "substring sub is found,\nsuch that sub is contained within S[start:end].  " ++
        "Optional\narguments start and end are interpreted as in slice " ++
        "notation.\n\nReturn -1 on failure.")⟩),
    ("format", ⟨none,
      some ("S.format(*args, **kwargs) -> str\n\nReturn a formatted version of S, using " ++
        "substitutions from args and kwargs.\nThe substitutions are identified by " ++
        "braces ('\x7b' and '\x7d').")⟩),
    ("format_map", ⟨none,
      some ("S.format_map(mapping) -> str\n\nReturn a formatted version of S, using " ++
        "substitutions from mapping.\nThe substitutions are identified by braces " ++
        "('\x7b' and '\x7d').")⟩),
    ("index", ⟨none,
      some ("S.index(sub[, start[, end]]) -> int\n\nReturn the lowest index in S where " ++
        "substring sub is found,\nsuch that sub is contained within S[start:end].  " ++
        "Optional\narguments start and end are interpreted as in slice " ++
        "notation.\n\nRaises ValueError when the substring is not found.")⟩),
    ("isalnum", ⟨some "($self, /)",
      some ("Return True if the string is an alpha-numeric string, False otherwise.\n\nA " ++
        "string is alpha-numeric if all characters in the string are alpha-numeric " ++
        "and\nthere is at least one character in the string.")⟩),
    ("isalpha", ⟨some "($self, /)",
      some ("Return True if the string is an alphabetic string, False otherwise.\n\nA " ++
        "string is alphabetic if all characters in the string are alphabetic and " ++
        "there\nis at least one character in the string.")⟩),
    ("isascii", ⟨some "($self, /)",
      some ("Return True if all characters in the string are ASCII, False " ++
        "otherwise.\n\nASCII characters have code points in the range " ++
        "U+0000-U+007F.\nEmpty string is ASCII too.")⟩),
    ("isdecimal", ⟨some "($self, /)",
      some ("Return True if the string is a decimal string, False otherwise.\n\nA string " ++
        "is a decimal string if all characters in the string are decimal and\nthere is " ++
        "at least one character in the string.")⟩),
    ("isdigit", ⟨some "($self, /)",
      some ("Return True if the string is a digit string, False otherwise.\n\nA string is " ++
        "a digit string if all characters in the string are digits and there\nis at " ++
        "least one character in the string.")⟩),
    ("isidentifier", ⟨some "($self, /)",
      some ("Return True if the string is a valid Python identifier, False " ++
        "otherwise.\n\nCall keyword.iskeyword(s) to test whether string s is a " ++
        "reserved identifier,\nsuch as \"def\" or \"class\".")⟩),
    ("islower", ⟨some "($self, /)",
      some ("Return True if the string is a lowercase string, False otherwise.\n\nA string " ++
        "is lowercase if all cased characters in the string are lowercase and\nthere " ++
        "is at least one cased character in the string.")⟩),
    ("isnumeric", ⟨some "($self, /)",
      some ("Return True if the string is a numeric string, False otherwise.\n\nA string " ++
        "is numeric if all characters in the string are numeric and there is at\nleast " ++
        "one character in the string.")⟩),
    ("isprintable", ⟨some "($self, /)",
      some ("Return True if the string is printable, False otherwise.\n\nA string is " ++
        "printable if all of its characters are considered printable in\nrepr() or if " ++
        "it is empty.")⟩),
    ("isspace", ⟨some "($self, /)",
      some ("Return True if the string is a whitespace string, False otherwise.\n\nA " ++
        "string is whitespace if all characters in the string are whitespace and " ++
        "there\nis at least one character in the string.")⟩),
    ("istitle", ⟨some "($self, /)",
      some ("Return True if the string is a title-cased string, False otherwise.\n\nIn a " ++
        "title-cased string, upper- and title-case characters may only\nfollow uncased " ++
        "characters and lowercase characters only cased ones.")⟩),
    ("isupper", ⟨some "($self, /)",
      some ("Return True if the string is an uppercase string, False otherwise.\n\nA " ++
        "string is uppercase if all cased characters in the string are uppercase " ++
        "and\nthere is at least one cased character in the string.")⟩),
    ("join", ⟨some "($self, iterable, /)",
      some ("Concatenate any number of strings.\n\nThe string whose method is called is " ++
        "inserted in between each given string.\nThe result is returned as a new " ++
        "string.\n\nExample: '.'.join(['ab', 'pq', 'rs']) -> 'ab.pq.rs'")⟩),
    ("ljust", ⟨some "($self, width, fillchar=' ', /)",
      some ("Return a left-justified string of length width.\n\nPadding is done using the " ++
        "specified fill character (default is a space).")⟩),
    ("lower", ⟨some "($self, /)", some "Return a copy of the string converted to lowercase."⟩),
    ("lstrip", ⟨some "($self, chars=None, /)",
      some ("Return a copy of the string with leading whitespace removed.\n\nIf chars is " ++
        "given and not None, remove characters in chars instead.")⟩),
    ("maketrans", ⟨some "(x, y=<unrepresentable>, z=<unrepresentable>, /)",
      some ("Return a translation table usable for str.translate().\n\nIf there is only " ++
        "one argument, it must be a dictionary mapping Unicode\nordinals (integers) or " ++
        "characters to Unicode ordinals, strings or None.\nCharacter keys will be then " ++
        "converted to ordinals.\nIf there are two arguments, they must be strings of " ++
        "equal length, and\nin the resulting dictionary, each character in x will be " ++
        "mapped to the\ncharacter at the same position in y. If there is a third " ++
        "argument, it\nmust be a string, whose characters will be mapped to None in " ++
        "the result.")⟩),
    ("partition", ⟨some "($self, sep, /)",
      some ("Partition the string into three parts using the given separator.\n\nThis will " ++
        "search for the separator in the string.  If the separator is found,\nreturns " ++
        "a 3-tuple containing the part before the separator, the separator\nitself, " ++
        "and the part after it.\n\nIf the separator is not found, returns a 3-tuple " ++
        "containing the original string\nand two empty strings.")⟩),
    ("removeprefix", ⟨some "($self, prefix, /)",
      some ("Return a str with the given prefix string removed if present.\n\nIf the " ++
        "string starts with the prefix string, return " ++
        "string[len(prefix):].\nOtherwise, return a copy of the original string.")⟩),
    ("removesuffix", ⟨some "($self, suffix, /)",
      some ("Return a str with the given suffix string removed if present.\n\nIf the " ++
        "string ends with the suffix string and that suffix is not empty,\nreturn " ++
        "string[:-len(suffix)]. Otherwise, return a copy of the original\nstring.")⟩),
    ("rfind", ⟨none,
      some ("S.rfind(sub[, start[, end]]) -> int\n\nReturn the highest index in S where " ++
        "substring sub is found,\nsuch that sub is contained within S[start:end].  " ++
        "Optional\narguments start and end are interpreted as in slice " ++
        "notation.\n\nReturn -1 on failure.")⟩),
    ("rindex", ⟨none,
      some ("S.rindex(sub[, start[, end]]) -> int\n\nReturn the highest index in S where " ++
        "substring sub is found,\nsuch that sub is contained within S[start:end].  " ++
        "Optional\narguments start and end are interpreted as in slice " ++
        "notation.\n\nRaises ValueError when the substring is not found.")⟩),
    ("rjust", ⟨some "($self, width, fillchar=' ', /)",
      some ("Return a right-justified string of length width.\n\nPadding is done using the " ++
        "specified fill character (default is a space).")⟩),
    ("rpartition", ⟨some "($self, sep, /)",
      some ("Partition the string into three parts using the given separator.\n\nThis will " ++
        "search for the separator in the string, starting at the end. If\nthe " ++
        "separator is found, returns a 3-tuple containing the part before " ++
        "the\nseparator, the separator itself, and the part after it.\n\nIf the " ++
        "separator is not found, returns a 3-tuple containing two empty strings\nand " ++
        "the original string.")⟩),
    ("rsplit", ⟨some "($self, /, sep=None, maxsplit=-1)",
      some ("Return a list of the substrings in the string, using sep as the separator " ++
        "string.\n\n  sep\n    The separator used to split the string.\n\n    When set " ++
        "to None (the default value), will split on any whitespace\n    character " ++
        "(including \\n \\r \\t \\f and spaces) and will discard\n    empty strings " ++
        "from the result.\n  maxsplit\n    Maximum number of splits.\n    -1 (the " ++
        "default value) means no limit.\n\nSplitting starts at the end of the string " ++
        "and works to the front.")⟩),
    ("rstrip", ⟨some "($self, chars=None, /)",
      some ("Return a copy of the string with trailing whitespace removed.\n\nIf chars is " ++
        "given and not None, remove characters in chars instead.")⟩),
    ("split", ⟨some "($self, /, sep=None, maxsplit=-1)",
      some ("Return a list of the substrings in the string, using sep as the separator " ++
        "string.\n\n  sep\n    The separator used to split the string.\n\n    When set " ++
        "to None (the default value), will split on any whitespace\n    character " ++
        "(including \\n \\r \\t \\f and spaces) and will discard\n    empty strings " ++
        "from the result.\n  maxsplit\n    Maximum number of splits.\n    -1 (the " ++
        "default value) means no limit.\n\nSplitting starts at the front of the string " ++
        "and works to the end.\n\nNote, str.split() is mainly useful for data that has " ++
        "been intentionally\ndelimited.  With natural text that includes punctuation, " ++
        "consider using\nthe regular expression module.")⟩),
    ("splitlines", ⟨some "($self, /, keepends=False)",
      some ("Return a list of the lines in the string, breaking at line " ++
        "boundaries.\n\nLine breaks are not included in the resulting list unless " ++
        "keepends is given and\ntrue.")⟩),
    ("startswith", ⟨none,
      some ("S.startswith(prefix[, start[, end]]) -> bool\n\nReturn True if S starts with " ++
        "the specified prefix, False otherwise.\nWith optional start, test S beginning " ++
        "at that position.\nWith optional end, stop comparing S at that " ++
        "position.\nprefix can also be a tuple of strings to try.")⟩),
    ("strip", ⟨some "($self, chars=None, /)",
      some ("Return a copy of the string with leading and trailing whitespace " ++
        "removed.\n\nIf chars is given and not None, remove characters in chars " ++
        "instead.")⟩),
    ("swapcase", ⟨some "($self, /)",
      some ("Convert uppercase characters to lowercase and lowercase characters to " ++
        "uppercase.")⟩),
    ("title", ⟨some "($self, /)",
      some ("Return a version of the string where each word is titlecased.\n\nMore " ++
        "specifically, words start with uppercased characters and all remaining\ncased " ++
        "characters have lower case.")⟩),
    ("translate", ⟨some "($self, table, /)",
      some ("Replace each character in the string using the given translation table.\n\n  " ++
        "table\n    Translation table, which must be a mapping of Unicode ordinals " ++
        "to\n    Unicode ordinals, strings, or None.\n\nThe table must implement " ++
        "lookup/indexing via __getitem__, for instance a\ndictionary or list.  If this " ++
        "operation raises LookupError, the character is\nleft untouched.  Characters " ++
        "mapped to None are deleted.")⟩),
    ("upper", ⟨some "($self, /)", some "Return a copy of the string converted to uppercase."⟩),
    ("zfill", ⟨some "($self, width, /)",
      some ("Pad a numeric string with zeros on the left, to fill a field of the given " ++
        "width.\n\nThe string is never truncated.")⟩)]
  | .bytes => [
    ("__bytes__", ⟨some "($self, /)", some "Convert this value to exact type bytes."⟩),
    ("__getnewargs__", ⟨none, none⟩),
    ("decode", ⟨some "($self, /, encoding='utf-8', errors='strict')",
      some ("Decode the bytes using the codec registered for encoding.\n\n  encoding\n    " ++
        "The encoding with which to decode the bytes.\n  errors\n    The error " ++
        "handling scheme to use for the handling of decoding errors.\n    The default " ++
        "is 'strict' meaning that decoding errors raise a\n    UnicodeDecodeError. " ++
        "Other possible values are 'ignore' and 'replace'\n    as well as any other " ++
        "name registered with codecs.register_error that\n    can handle " ++
        "UnicodeDecodeErrors.")⟩),
    ("fromhex", ⟨some "($type, string, /)",
      some ("Create a bytes object from a string of hexadecimal numbers.\n\nSpaces between " ++
        "two numbers are accepted.\nExample: bytes.fromhex('B9 01EF') -> " ++
        "b'\\\\xb9\\\\x01\\\\xef'.")⟩),
    ("hex", ⟨some "($self, /, sep=<unrepresentable>, bytes_per_sep=1)",
      some ("Create a string of hexadecimal numbers from a bytes object.\n\n  sep\n    An " ++
        "optional single character or byte to separate hex bytes.\n  " ++
        "bytes_per_sep\n    How many bytes between separators.  Positive values count " ++
        "from the\n    right, negative values count from the left.\n\nExample:\n>>> " ++
        "value = b'\\xb9\\x01\\xef'\n>>> value.hex()\n'b901ef'\n>>> " ++
        "value.hex(':')\n'b9:01:ef'\n>>> value.hex(':', 2)\n'b9:01ef'\n>>> " ++
        "value.hex(':', -2)\n'b901:ef'")⟩),
    ("join", ⟨some "($self, iterable_of_bytes, /)",
      some ("Concatenate any number of bytes objects.\n\nThe bytes whose method is called " ++
        "is inserted in between each pair.\n\nThe result is returned as a new bytes " ++
        "object.\n\nExample: b'.'.join([b'ab', b'pq', b'rs']) -> b'ab.pq.rs'.")⟩),
    ("lstrip", ⟨some "($self, bytes=None, /)",
      some ("Strip leading bytes contained in the argument.\n\nIf the argument is omitted " ++
        "or None, strip leading  ASCII whitespace.")⟩),
    ("partition", ⟨some "($self, sep, /)",
      some ("Partition the bytes into three parts using the given separator.\n\nThis will " ++
        "search for the separator sep in the bytes. If the separator is " ++
        "found,\nreturns a 3-tuple containing the part before the separator, the " ++
        "separator\nitself, and the part after it.\n\nIf the separator is not found, " ++
        "returns a 3-tuple containing the original bytes\nobject and two empty bytes " ++
        "objects.")⟩),
    ("removeprefix", ⟨some "($self, prefix, /)",
      some ("Return a bytes object with the given prefix string removed if present.\n\nIf " ++
        "the bytes starts with the prefix string, return " ++
        "bytes[len(prefix):].\nOtherwise, return a copy of the original bytes.")⟩),
    ("removesuffix", ⟨some "($self, suffix, /)",
      some ("Return a bytes object with the given suffix string removed if present.\n\nIf " ++
        "the bytes ends with the suffix string and that suffix is not empty,\nreturn " ++
        "bytes[:-len(prefix)].  Otherwise, return a copy of the original\nbytes.")⟩),
    ("rpartition", ⟨some "($self, sep, /)",
      some ("Partition the bytes into three parts using the given separator.\n\nThis will " ++
        "search for the separator sep in the bytes, starting at the end. If\nthe " ++
        "separator is found, returns a 3-tuple containing the part before " ++
        "the\nseparator, the separator itself, and the part after it.\n\nIf the " ++
        "separator is not found, returns a 3-tuple containing two empty bytes\nobjects " ++
        "and the original bytes object.")⟩),
    ("rsplit", ⟨some "($self, /, sep=None, maxsplit=-1)",
      some ("Return a list of the sections in the bytes, using sep as the delimiter.\n\n  " ++
        "sep\n    The delimiter according which to split the bytes.\n    None (the " ++
        "default value) means split on ASCII whitespace characters\n    (space, tab, " ++
        "return, newline, formfeed, vertical tab).\n  maxsplit\n    Maximum number of " ++
        "splits to do.\n    -1 (the default value) means no limit.\n\nSplitting is " ++
        "done starting at the end of the bytes and working to the front.")⟩),
    ("split", ⟨some "($self, /, sep=None, maxsplit=-1)",
      some ("Return a list of the sections in the bytes, using sep as the delimiter.\n\n  " ++
        "sep\n    The delimiter according which to split the bytes.\n    None (the " ++
        "default value) means split on ASCII whitespace characters\n    (space, tab, " ++
        "return, newline, formfeed, vertical tab).\n  maxsplit\n    Maximum number of " ++
        "splits to do.\n    -1 (the default value) means no limit.")⟩),
    ("splitlines", ⟨some "($self, /, keepends=False)",
      some ("Return a list of the lines in the bytes, breaking at line boundaries.\n\nLine " ++
        "breaks are not included in the resulting list unless keepends is given " ++
        "and\ntrue.")⟩)]
  | .list => [
    ("__reversed__", ⟨some "($self, /)", some "Return a reverse iterator over the list."⟩),
    ("__sizeof__", ⟨some "($self, /)", some "Return the size of the list in memory, in bytes."⟩),
    ("append", ⟨some "($self, object, /)", some "Append object to the end of the list."⟩),
    ("clear", ⟨some "($self, /)", some "Remove all items from list."⟩),
    ("copy", ⟨some "($self, /)", some "Return a shallow copy of the list."⟩),
    ("count", ⟨some "($self, value, /)", some "Return number of occurrences of value."⟩),
    ("extend", ⟨some "($self, iterable, /)",
      some "Extend list by appending elements from the iterable."⟩),
    ("index", ⟨some "($self, value, start=0, stop=sys.maxsize, /)",
      some "Return first index of value.\n\nRaises ValueError if the value is not present."⟩),
    ("insert", ⟨some "($self, index, object, /)", some "Insert object before index."⟩),
    ("pop", ⟨some "($self, index=-1, /)",
      some ("Remove and return item at index (default last).\n\nRaises IndexError if list " ++
        "is empty or index is out of range.")⟩),
    ("remove", ⟨some "($self, value, /)",
      some ("Remove first occurrence of value.\n\nRaises ValueError if the value is not " ++
        "present.")⟩),
    ("reverse", ⟨some "($self, /)", some "Reverse *IN PLACE*."⟩),
    ("sort", ⟨some "($self, /, *, key=None, reverse=False)",
      some ("Sort the list in ascending order and return None.\n\nThe sort is in-place " ++
        "(i.e. the list itself is modified) and stable (i.e. the\norder of two equal " ++
        "elements is maintained).\n\nIf a key function is given, apply it once to each " ++
        "list item and sort them,\nascending or descending, according to their " ++
        "function values.\n\nThe reverse flag can be set to sort in descending order.")⟩)]
  | .tuple => [
    ("count", ⟨some "($self, value, /)", some "Return number of occurrences of value."⟩),
    ("index", ⟨some "($self, value, start=0, stop=sys.maxsize, /)",
      some "Return first index of value.\n\nRaises ValueError if the value is not present."⟩)]
  | .set => [
    ("add", ⟨none,
      some ("Add an element to a set.\n\nThis has no effect if the element is already " ++
        "present.")⟩),
    ("clear", ⟨none, some "Remove all elements from this set."⟩),
    ("difference_update", ⟨none, some "Remove all elements of another set from this set."⟩),
    ("discard", ⟨none,
      some ("Remove an element from a set if it is a member.\n\nUnlike set.remove(), the " ++
        "discard() method does not raise\nan exception when an element is missing from " ++
        "the set.")⟩),
    ("intersection_update", ⟨none,
      some "Update a set with the intersection of itself and another."⟩),
    ("pop", ⟨none,
      some ("Remove and return an arbitrary set element.\nRaises KeyError if the set is " ++
        "empty.")⟩),
    ("remove", ⟨none,
      some ("Remove an element from a set; it must be a member.\n\nIf the element is not a " ++
        "member, raise a KeyError.")⟩),
    ("symmetric_difference_update", ⟨none,
      some "Update a set with the symmetric difference of itself and another."⟩),
    ("update", ⟨none, some "Update a set with the union of itself and others."⟩)]
  | .dict => [
    ("__contains__", ⟨some "($self, key, /)",
      some "True if the dictionary has the specified key, else False."⟩),
    ("__reversed__", ⟨some "($self, /)", some "Return a reverse iterator over the dict keys."⟩),
    ("__sizeof__", ⟨none, some "D.__sizeof__() -> size of D in memory, in bytes"⟩),
    ("clear", ⟨none, some "D.clear() -> None.  Remove all items from D."⟩),
    ("copy", ⟨none, some "D.copy() -> a shallow copy of D"⟩),
    ("fromkeys", ⟨some "($type, iterable, value=None, /)",
      some "Create a new dictionary with keys from iterable and values set to value."⟩),
    ("get", ⟨some "($self, key, default=None, /)",
      some "Return the value for key if key is in the dictionary, else default."⟩),
    ("pop", ⟨some "($self, key, default=<unrepresentable>, /)",
      some ("D.pop(k[,d]) -> v, remove specified key and return the corresponding " ++
        "value.\n\nIf the key is not found, return the default if given; " ++
        "otherwise,\nraise a KeyError.")⟩),
    ("popitem", ⟨some "($self, /)",
      some ("Remove and return a (key, value) pair as a 2-tuple.\n\nPairs are returned in " ++
        "LIFO (last-in, first-out) order.\nRaises KeyError if the dict is empty.")⟩),
    ("setdefault", ⟨some "($self, key, default=None, /)",
      some ("Insert key with a value of default if key is not in the dictionary.\n\nReturn " ++
        "the value for key if key is in the dictionary, else default.")⟩),
    ("update", ⟨none,
      some ("D.update([E, ]**F) -> None.  Update D from dict/iterable E and F.\nIf E is " ++
        "present and has a .keys() method, then does:  for k in E: D[k] = E[k]\nIf E " ++
        "is present and lacks a .keys() method, then does:  for k, v in E: D[k] = " ++
        "v\nIn either case, this is followed by: for k in F:  D[k] = F[k]")⟩)]
  | .range => [
    ("__reduce__", ⟨none, none⟩),
    ("__reversed__", ⟨none, some "Return a reverse iterator."⟩),
    ("count", ⟨none,
      some "rangeobject.count(value) -> integer -- return number of occurrences of value"⟩),
    ("index", ⟨none,
      some ("rangeobject.index(value) -> integer -- return index of value.\nRaise " ++
        "ValueError if the value is not present.")⟩),
    ("start", ⟨none, none⟩)]
  | .slice => [
    ("indices", ⟨none,
      some ("S.indices(len) -> (start, stop, stride)\n\nAssuming a sequence of length len, " ++
        "calculate the start and stop\nindices, and the stride length of the extended " ++
        "slice described by\nS. Out of bounds indices are clipped in a manner " ++
        "consistent with the\nhandling of normal slices.")⟩),
    ("start", ⟨none, none⟩)]
  | .bytearray => [
    ("__alloc__", ⟨none,
      some "B.__alloc__() -> int\n\nReturn the number of bytes actually allocated."⟩),
    ("__reduce__", ⟨some "($self, /)", some "Return state information for pickling."⟩),
    ("__reduce_ex__", ⟨some "($self, proto=0, /)", some "Return state information for pickling."⟩),
    ("__sizeof__", ⟨some "($self, /)",
      some "Returns the size of the bytearray object in memory, in bytes."⟩),
    ("append", ⟨some "($self, item, /)",
      some ("Append a single item to the end of the bytearray.\n\n  item\n    The item to " ++
        "be appended.")⟩),
    ("clear", ⟨some "($self, /)", some "Remove all items from the bytearray."⟩),
    ("copy", ⟨some "($self, /)", some "Return a copy of B."⟩),
    ("decode", ⟨some "($self, /, encoding='utf-8', errors='strict')",
      some ("Decode the bytearray using the codec registered for encoding.\n\n  " ++
        "encoding\n    The encoding with which to decode the bytearray.\n  errors\n    " ++
        "The error handling scheme to use for the handling of decoding errors.\n    " ++
        "The default is 'strict' meaning that decoding errors raise a\n    " ++
        "UnicodeDecodeError. Other possible values are 'ignore' and 'replace'\n    as " ++
        "well as any other name registered with codecs.register_error that\n    can " ++
        "handle UnicodeDecodeErrors.")⟩),
    ("extend", ⟨some "($self, iterable_of_ints, /)",
      some ("Append all the items from the iterator or sequence to the end of the " ++
        "bytearray.\n\n  iterable_of_ints\n    The iterable of items to append.")⟩),
    ("fromhex", ⟨some "($type, string, /)",
      some ("Create a bytearray object from a string of hexadecimal numbers.\n\nSpaces " ++
        "between two numbers are accepted.\nExample: bytearray.fromhex('B9 01EF') -> " ++
        "bytearray(b'\\\\xb9\\\\x01\\\\xef')")⟩),
    ("hex", ⟨some "($self, /, sep=<unrepresentable>, bytes_per_sep=1)",
      some ("Create a string of hexadecimal numbers from a bytearray object.\n\n  sep\n    " ++
        "An optional single character or byte to separate hex bytes.\n  " ++
        "bytes_per_sep\n    How many bytes between separators.  Positive values count " ++
        "from the\n    right, negative values count from the left.\n\nExample:\n>>> " ++
        "value = bytearray([0xb9, 0x01, 0xef])\n>>> value.hex()\n'b901ef'\n>>> " ++
        "value.hex(':')\n'b9:01:ef'\n>>> value.hex(':', 2)\n'b9:01ef'\n>>> " ++
        "value.hex(':', -2)\n'b901:ef'")⟩),
    ("insert", ⟨some "($self, index, item, /)",
      some ("Insert a single item into the bytearray before the given index.\n\n  " ++
        "index\n    The index where the value is to be inserted.\n  item\n    The item " ++
        "to be inserted.")⟩),
    ("join", ⟨some "($self, iterable_of_bytes, /)",
      some ("Concatenate any number of bytes/bytearray objects.\n\nThe bytearray whose " ++
        "method is called is inserted in between each pair.\n\nThe result is returned " ++
        "as a new bytearray object.")⟩),
    ("lstrip", ⟨some "($self, bytes=None, /)",
      some ("Strip leading bytes contained in the argument.\n\nIf the argument is omitted " ++
        "or None, strip leading ASCII whitespace.")⟩),
    ("partition", ⟨some "($self, sep, /)",
      some ("Partition the bytearray into three parts using the given separator.\n\nThis " ++
        "will search for the separator sep in the bytearray. If the separator " ++
        "is\nfound, returns a 3-tuple containing the part before the separator, " ++
        "the\nseparator itself, and the part after it as new bytearray objects.\n\nIf " ++
        "the separator is not found, returns a 3-tuple containing the copy of " ++
        "the\noriginal bytearray object and two empty bytearray objects.")⟩),
    ("pop", ⟨some "($self, index=-1, /)",
      some ("Remove and return a single item from B.\n\n  index\n    The index from where " ++
        "to remove the item.\n    -1 (the default value) means remove the last " ++
        "item.\n\nIf no index argument is given, will pop the last item.")⟩),
    ("remove", ⟨some "($self, value, /)",
      some ("Remove the first occurrence of a value in the bytearray.\n\n  value\n    The " ++
        "value to remove.")⟩),
    ("removeprefix", ⟨some "($self, prefix, /)",
      some ("Return a bytearray with the given prefix string removed if present.\n\nIf the " ++
        "bytearray starts with the prefix string, return\nbytearray[len(prefix):].  " ++
        "Otherwise, return a copy of the original\nbytearray.")⟩),
    ("removesuffix", ⟨some "($self, suffix, /)",
      some ("Return a bytearray with the given suffix string removed if present.\n\nIf the " ++
        "bytearray ends with the suffix string and that suffix is not\nempty, return " ++
        "bytearray[:-len(suffix)].  Otherwise, return a copy of\nthe original " ++
        "bytearray.")⟩),
    ("reverse", ⟨some "($self, /)", some "Reverse the order of the values in B in place."⟩),
    ("rpartition", ⟨some "($self, sep, /)",
      some ("Partition the bytearray into three parts using the given separator.\n\nThis " ++
        "will search for the separator sep in the bytearray, starting at the end.\nIf " ++
        "the separator is found, returns a 3-tuple containing the part before " ++
        "the\nseparator, the separator itself, and the part after it as new " ++
        "bytearray\nobjects.\n\nIf the separator is not found, returns a 3-tuple " ++
        "containing two empty bytearray\nobjects and the copy of the original " ++
        "bytearray object.")⟩),
    ("rsplit", ⟨some "($self, /, sep=None, maxsplit=-1)",
      some ("Return a list of the sections in the bytearray, using sep as the " ++
        "delimiter.\n\n  sep\n    The delimiter according which to split the " ++
        "bytearray.\n    None (the default value) means split on ASCII whitespace " ++
        "characters\n    (space, tab, return, newline, formfeed, vertical tab).\n  " ++
        "maxsplit\n    Maximum number of splits to do.\n    -1 (the default value) " ++
        "means no limit.\n\nSplitting is done starting at the end of the bytearray and " ++
        "working to the front.")⟩),
    ("split", ⟨some "($self, /, sep=None, maxsplit=-1)",
      some ("Return a list of the sections in the bytearray, using sep as the " ++
        "delimiter.\n\n  sep\n    The delimiter according which to split the " ++
        "bytearray.\n    None (the default value) means split on ASCII whitespace " ++
        "characters\n    (space, tab, return, newline, formfeed, vertical tab).\n  " ++
        "maxsplit\n    Maximum number of splits to do.\n    -1 (the default value) " ++
        "means no limit.")⟩),
    ("splitlines", ⟨some "($self, /, keepends=False)",
      some ("Return a list of the lines in the bytearray, breaking at line " ++
        "boundaries.\n\nLine breaks are not included in the resulting list unless " ++
        "keepends is given and\ntrue.")⟩)]
  | .memoryview => [
    ("c_contiguous", ⟨none, some "A bool indicating whether the memory is C contiguous."⟩),
    ("cast", ⟨some "($self, /, format, shape=<unrepresentable>)",
      some "Cast a memoryview to a new format or shape."⟩),
    ("contiguous", ⟨none, some "A bool indicating whether the memory is contiguous."⟩),
    ("f_contiguous", ⟨none, some "A bool indicating whether the memory is Fortran contiguous."⟩),
    ("format", ⟨none,
      some ("A string containing the format (in struct module style)\n for each element in " ++
        "the view.")⟩),
    ("hex", ⟨some "($self, /, sep=<unrepresentable>, bytes_per_sep=1)",
      some ("Return the data in the buffer as a str of hexadecimal numbers.\n\n  sep\n    " ++
        "An optional single character or byte to separate hex bytes.\n  " ++
        "bytes_per_sep\n    How many bytes between separators.  Positive values count " ++
        "from the\n    right, negative values count from the left.\n\nExample:\n>>> " ++
        "value = memoryview(b'\\xb9\\x01\\xef')\n>>> value.hex()\n'b901ef'\n>>> " ++
        "value.hex(':')\n'b9:01:ef'\n>>> value.hex(':', 2)\n'b9:01ef'\n>>> " ++
        "value.hex(':', -2)\n'b901:ef'")⟩),
    ("itemsize", ⟨none, some "The size in bytes of each element of the memoryview."⟩),
    ("nbytes", ⟨none,
      some ("The amount of space in bytes that the array would use in\n a contiguous " ++
        "representation.")⟩),
    ("ndim", ⟨none,
      some ("An integer indicating how many dimensions of a multi-dimensional\n array the " ++
        "memory represents.")⟩),
    ("obj", ⟨none, some "The underlying object of the memoryview."⟩),
    ("readonly", ⟨none, some "A bool indicating whether the memory is read only."⟩),
    ("release", ⟨some "($self, /)",
      some "Release the underlying buffer exposed by the memoryview object."⟩),
    ("shape", ⟨none,
      some ("A tuple of ndim integers giving the shape of the memory\n as an N-dimensional " ++
        "array.")⟩),
    ("strides", ⟨none,
      some ("A tuple of ndim integers giving the size in bytes to access\n each element " ++
        "for each dimension of the array.")⟩),
    ("suboffsets", ⟨none, some "A tuple of integers used internally for PIL-style arrays."⟩),
    ("tobytes", ⟨some "($self, /, order='C')",
      some ("Return the data in the buffer as a byte string.\n\nOrder can be \x7b'C', 'F', " ++
        "'A'\x7d. When order is 'C' or 'F', the data of the\noriginal array is " ++
        "converted to C or Fortran order. For contiguous views,\n'A' returns an exact " ++
        "copy of the physical memory. In particular, in-memory\nFortran order is " ++
        "preserved. For non-contiguous views, the data is converted\nto C first. " ++
        "order=None is the same as order='C'.")⟩),
    ("tolist", ⟨some "($self, /)", some "Return the data in the buffer as a list of elements."⟩),
    ("toreadonly", ⟨some "($self, /)", some "Return a readonly version of the memoryview."⟩)]
  | .property => [
    ("__set_name__", ⟨none, some "Method to set name of a property."⟩),
    ("deleter", ⟨none,
      some "Descriptor to obtain a copy of the property with a different deleter."⟩),
    ("getter", ⟨none, some "Descriptor to obtain a copy of the property with a different getter."⟩),
    ("setter", ⟨none, some "Descriptor to obtain a copy of the property with a different setter."⟩)]
  | .builtinFunction => [
    ("__reduce__", ⟨none, none⟩)]
  | .method => [
    ("__func__", ⟨none, some "the function (or other callable) implementing a method"⟩),
    ("__reduce__", ⟨some "($self, /)", none⟩),
    ("__self__", ⟨none, some "the instance to which a method is bound"⟩)]
  | .methodWrapper => [
    ("__reduce__", ⟨none, none⟩)]
  | .slotWrapper => [
    ("__reduce__", ⟨none, none⟩)]
  | .methodDescriptor => [
    ("__reduce__", ⟨none, none⟩)]
  | .memberDescriptor => [
    ("__reduce__", ⟨none, none⟩)]
  | .mappingProxy => [
    ("__reversed__", ⟨none, some "D.__reversed__() -> reverse iterator"⟩),
    ("copy", ⟨none, some "D.copy() -> a shallow copy of D"⟩),
    ("get", ⟨none, some "D.get(k[,d]) -> D[k] if k in D, else d.  d defaults to None."⟩)]
  | .moduleClass => [
    ("__dir__", ⟨none, some "__dir__() -> list\nspecialized dir() implementation"⟩)]
  | .generator => [
    ("__name__", ⟨none, some "name of the generator"⟩),
    ("__qualname__", ⟨none, some "qualified name of the generator"⟩),
    ("__sizeof__", ⟨none, some "gen.__sizeof__() -> size of gen in memory, in bytes"⟩),
    ("close", ⟨none, some "close() -> raise GeneratorExit inside generator."⟩),
    ("gi_yieldfrom", ⟨none, some "object being iterated by yield from, or None"⟩),
    ("send", ⟨none,
      some ("send(arg) -> send 'arg' into generator,\nreturn next yielded value or raise " ++
        "StopIteration.")⟩),
    ("throw", ⟨none,
      some ("throw(value)\nthrow(type[,value[,tb]])\n\nRaise exception in generator, " ++
        "return next yielded value or raise\nStopIteration.")⟩)]
  | .baseException => [
    ("__cause__", ⟨none, some "exception cause"⟩),
    ("__context__", ⟨none, some "exception context"⟩),
    ("__reduce__", ⟨none, none⟩),
    ("__setstate__", ⟨none, none⟩),
    ("add_note", ⟨none, some "Exception.add_note(note) --\n    add a note to the exception"⟩),
    ("with_traceback", ⟨none,
      some ("Exception.with_traceback(tb) --\n    set self.__traceback__ to tb and return " ++
        "self.")⟩)]
  | .baseExceptionGroup => [
    ("exceptions", ⟨none, some "nested exceptions"⟩),
    ("message", ⟨none, some "exception message"⟩)]
  | .systemExit => [
    ("code", ⟨none, some "exception code"⟩)]
  | .attributeError => [
    ("name", ⟨none, some "attribute name"⟩),
    ("obj", ⟨none, some "object"⟩)]
  | .importError => [
    ("__reduce__", ⟨none, none⟩),
    ("msg", ⟨none, some "exception message"⟩),
    ("name", ⟨none, some "module name"⟩),
    ("path", ⟨none, some "module path"⟩)]
  | .nameError => [
    ("name", ⟨none, some "name"⟩)]
  | .osError => [
    ("__reduce__", ⟨none, none⟩),
    ("errno", ⟨none, some "POSIX exception code"⟩),
    ("filename2", ⟨none, some "second exception filename"⟩),
    ("strerror", ⟨none, some "exception strerror"⟩)]
  | .stopIteration => [
    ("value", ⟨none, some "generator return value"⟩)]
  | .syntaxError => [
    ("end_lineno", ⟨none, some "exception end lineno"⟩),
    ("end_offset", ⟨none, some "exception end offset"⟩),
    ("lineno", ⟨none, some "exception lineno"⟩),
    ("msg", ⟨none, some "exception msg"⟩),
    ("offset", ⟨none, some "exception offset"⟩),
    ("print_file_and_line", ⟨none, some "exception print_file_and_line"⟩),
    ("text", ⟨none, some "exception text"⟩)]
  | .exceptionGroup => [
    ("__weakref__", ⟨none, some "list of weak references to the object"⟩)]
  | _ => []

/-- The texts of a member that a class has from birth. -/
def Builtin.memberTexts (c : Builtin) (name : String) : Texts :=
  ((c.ownTexts.lookup name).or (commonTexts.lookup name)).getD ⟨none, none⟩

end Embedder.Machine
