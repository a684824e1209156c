import Embedder.Machine.World

/-!
# What built-in classes have from birth

The members that each built-in class adds to those of its base, by kind: special methods, methods,
methods of the class, functions and data.
-/

namespace Embedder.Machine

/-- The words of a text. -/
def words (s : String) : List String := s.splitOn " "

/-- The members that a class adds to those of its base. -/
def Builtin.ownMembers : Builtin → List (MemberKind × List String)
  | .object => [
    (.wrapper, words ("__delattr__ __eq__ __ge__ __getattribute__ __gt__ __hash__ __init__ " ++
      "__le__ __lt__ __ne__ __repr__ __setattr__ __str__")),
    (.method, words "__dir__ __format__ __getstate__ __reduce__ __reduce_ex__ __sizeof__"),
    (.classMethod, words "__init_subclass__ __subclasshook__"),
    (.staticMethod, words "__new__"),
    (.getset, words "__class__")]
  | .typeClass => [
    (.wrapper, words ("__call__ __delattr__ __getattribute__ __init__ __or__ __repr__ " ++
      "__ror__ __setattr__")),
    (.method, words ("__dir__ __instancecheck__ __sizeof__ __subclasscheck__ " ++
      "__subclasses__ mro")),
    (.classMethod, words "__prepare__"),
    (.staticMethod, words "__new__"),
    (.getset, words ("__abstractmethods__ __annotations__ __bases__ __dict__ __name__ " ++
      "__qualname__ __text_signature__")),
    (.member, words ("__base__ __basicsize__ __dictoffset__ __flags__ __itemsize__ __mro__ " ++
      "__weakrefoffset__"))]
  | .noneType => [
    (.wrapper, words "__bool__ __repr__"),
    (.staticMethod, words "__new__")]
  | .notImplemented => [
    (.wrapper, words "__bool__ __repr__"),
    (.method, words "__reduce__"),
    (.staticMethod, words "__new__")]
  | .ellipsis => [
    (.wrapper, words "__getattribute__ __repr__"),
    (.method, words "__reduce__"),
    (.staticMethod, words "__new__")]
  | .int => [
    (.wrapper, words ("__abs__ __add__ __and__ __bool__ __divmod__ __eq__ __float__ " ++
      "__floordiv__ __ge__ __getattribute__ __gt__ __hash__ __index__ " ++
      "__int__ __invert__ __le__ __lshift__ __lt__ __mod__ __mul__ __ne__ " ++
      "__neg__ __or__ __pos__ __pow__ __radd__ __rand__ __rdivmod__ " ++
      "__repr__ __rfloordiv__ __rlshift__ __rmod__ __rmul__ __ror__ " ++
      "__rpow__ __rrshift__ __rshift__ __rsub__ __rtruediv__ __rxor__ " ++
      "__sub__ __truediv__ __xor__")),
    (.method, words ("__ceil__ __floor__ __format__ __getnewargs__ __round__ __sizeof__ " ++
      "__trunc__ as_integer_ratio bit_count bit_length conjugate to_bytes")),
    (.classMethod, words "from_bytes"),
    (.staticMethod, words "__new__"),
    (.getset, words "denominator imag numerator real")]
  | .bool => [
    (.wrapper, words "__and__ __or__ __rand__ __repr__ __ror__ __rxor__ __xor__"),
    (.staticMethod, words "__new__")]
  | .float => [
    (.wrapper, words ("__abs__ __add__ __bool__ __divmod__ __eq__ __float__ __floordiv__ " ++
      "__ge__ __getattribute__ __gt__ __hash__ __int__ __le__ __lt__ " ++
      "__mod__ __mul__ __ne__ __neg__ __pos__ __pow__ __radd__ __rdivmod__ " ++
      "__repr__ __rfloordiv__ __rmod__ __rmul__ __rpow__ __rsub__ " ++
      "__rtruediv__ __sub__ __truediv__")),
    (.method, words ("__ceil__ __floor__ __format__ __getnewargs__ __round__ __trunc__ " ++
      "as_integer_ratio conjugate hex is_integer")),
    (.classMethod, words "__getformat__ fromhex"),
    (.staticMethod, words "__new__"),
    (.getset, words "imag real")]
  | .complex => [
    (.wrapper, words ("__abs__ __add__ __bool__ __eq__ __ge__ __getattribute__ __gt__ " ++
      "__hash__ __le__ __lt__ __mul__ __ne__ __neg__ __pos__ __pow__ " ++
      "__radd__ __repr__ __rmul__ __rpow__ __rsub__ __rtruediv__ __sub__ " ++
      "__truediv__")),
    (.method, words "__complex__ __format__ __getnewargs__ conjugate"),
    (.staticMethod, words "__new__"),
    (.member, words "imag real")]
  | .str => [
    (.wrapper, words ("__add__ __contains__ __eq__ __ge__ __getattribute__ __getitem__ " ++
      "__gt__ __hash__ __iter__ __le__ __len__ __lt__ __mod__ __mul__ " ++
      "__ne__ __repr__ __rmod__ __rmul__ __str__")),
    (.method, words ("__format__ __getnewargs__ __sizeof__ capitalize casefold center " ++
      "count encode endswith expandtabs find format format_map index " ++
      "isalnum isalpha isascii isdecimal isdigit isidentifier islower " ++
      "isnumeric isprintable isspace istitle isupper join ljust lower " ++
      "lstrip partition removeprefix removesuffix replace rfind rindex " ++
      "rjust rpartition rsplit rstrip split splitlines startswith strip " ++
      "swapcase title translate upper zfill")),
    (.staticMethod, words "__new__ maketrans")]
  | .bytes => [
    (.wrapper, words ("__add__ __contains__ __eq__ __ge__ __getattribute__ __getitem__ " ++
      "__gt__ __hash__ __iter__ __le__ __len__ __lt__ __mod__ __mul__ " ++
      "__ne__ __repr__ __rmod__ __rmul__ __str__")),
    (.method, words ("__bytes__ __getnewargs__ capitalize center count decode endswith " ++
      "expandtabs find hex index isalnum isalpha isascii isdigit islower " ++
      "isspace istitle isupper join ljust lower lstrip partition " ++
      "removeprefix removesuffix replace rfind rindex rjust rpartition " ++
      "rsplit rstrip split splitlines startswith strip swapcase title " ++
      "translate upper zfill")),
    (.classMethod, words "fromhex"),
    (.staticMethod, words "__new__ maketrans")]
  | .list => [
    (.wrapper, words ("__add__ __contains__ __delitem__ __eq__ __ge__ __getattribute__ " ++
      "__gt__ __iadd__ __imul__ __init__ __iter__ __le__ __len__ __lt__ " ++
      "__mul__ __ne__ __repr__ __rmul__ __setitem__")),
    (.method, words ("__getitem__ __reversed__ __sizeof__ append clear copy count extend " ++
      "index insert pop remove reverse sort")),
    (.classMethod, words "__class_getitem__"),
    (.staticMethod, words "__new__"),
    (.value, words "__hash__")]
  | .tuple => [
    (.wrapper, words ("__add__ __contains__ __eq__ __ge__ __getattribute__ __getitem__ " ++
      "__gt__ __hash__ __iter__ __le__ __len__ __lt__ __mul__ __ne__ " ++
      "__repr__ __rmul__")),
    (.method, words "__getnewargs__ count index"),
    (.classMethod, words "__class_getitem__"),
    (.staticMethod, words "__new__")]
  | .set => [
    (.wrapper, words ("__and__ __eq__ __ge__ __getattribute__ __gt__ __iand__ __init__ " ++
      "__ior__ __isub__ __iter__ __ixor__ __le__ __len__ __lt__ __ne__ " ++
      "__or__ __rand__ __repr__ __ror__ __rsub__ __rxor__ __sub__ __xor__")),
    (.method, words ("__contains__ __reduce__ __sizeof__ add clear copy difference " ++
      "difference_update discard intersection intersection_update " ++
      "isdisjoint issubset issuperset pop remove symmetric_difference " ++
      "symmetric_difference_update union update")),
    (.classMethod, words "__class_getitem__"),
    (.staticMethod, words "__new__"),
    (.value, words "__hash__")]
  | .frozenset => [
    (.wrapper, words ("__and__ __eq__ __ge__ __getattribute__ __gt__ __hash__ __iter__ " ++
      "__le__ __len__ __lt__ __ne__ __or__ __rand__ __repr__ __ror__ " ++
      "__rsub__ __rxor__ __sub__ __xor__")),
    (.method, words ("__contains__ __reduce__ __sizeof__ copy difference intersection " ++
      "isdisjoint issubset issuperset symmetric_difference union")),
    (.classMethod, words "__class_getitem__"),
    (.staticMethod, words "__new__")]
  | .dict => [
    (.wrapper, words ("__delitem__ __eq__ __ge__ __getattribute__ __gt__ __init__ __ior__ " ++
      "__iter__ __le__ __len__ __lt__ __ne__ __or__ __repr__ __ror__ " ++
      "__setitem__")),
    (.method, words ("__contains__ __getitem__ __reversed__ __sizeof__ clear copy get " ++
      "items keys pop popitem setdefault update values")),
    (.classMethod, words "__class_getitem__ fromkeys"),
    (.staticMethod, words "__new__"),
    (.value, words "__hash__")]
  | .range => [
    (.wrapper, words ("__bool__ __contains__ __eq__ __ge__ __getattribute__ __getitem__ " ++
      "__gt__ __hash__ __iter__ __le__ __len__ __lt__ __ne__ __repr__")),
    (.method, words "__reduce__ __reversed__ count index"),
    (.staticMethod, words "__new__"),
    (.member, words "start step stop")]
  | .enumerate => [
    (.wrapper, words "__getattribute__ __iter__ __next__"),
    (.method, words "__reduce__"),
    (.classMethod, words "__class_getitem__"),
    (.staticMethod, words "__new__")]
  | .reversed => [
    (.wrapper, words "__getattribute__ __iter__ __next__"),
    (.method, words "__length_hint__ __reduce__ __setstate__"),
    (.staticMethod, words "__new__")]
  | .filter => [
    (.wrapper, words "__getattribute__ __iter__ __next__"),
    (.method, words "__reduce__"),
    (.staticMethod, words "__new__")]
  | .map => [
    (.wrapper, words "__getattribute__ __iter__ __next__"),
    (.method, words "__reduce__"),
    (.staticMethod, words "__new__")]
  | .zip => [
    (.wrapper, words "__getattribute__ __iter__ __next__"),
    (.method, words "__reduce__ __setstate__"),
    (.staticMethod, words "__new__")]
  | .slice => [
    (.wrapper, words "__eq__ __ge__ __getattribute__ __gt__ __le__ __lt__ __ne__ __repr__"),
    (.method, words "__reduce__ indices"),
    (.staticMethod, words "__new__"),
    (.member, words "start step stop"),
    (.value, words "__hash__")]
  | .bytearray => [
    (.wrapper, words ("__add__ __contains__ __delitem__ __eq__ __ge__ __getattribute__ " ++
      "__getitem__ __gt__ __iadd__ __imul__ __init__ __iter__ __le__ " ++
      "__len__ __lt__ __mod__ __mul__ __ne__ __repr__ __rmod__ __rmul__ " ++
      "__setitem__ __str__")),
    (.method, words ("__alloc__ __reduce__ __reduce_ex__ __sizeof__ append capitalize " ++
      "center clear copy count decode endswith expandtabs extend find hex " ++
      "index insert isalnum isalpha isascii isdigit islower isspace istitle " ++
      "isupper join ljust lower lstrip partition pop remove removeprefix " ++
      "removesuffix replace reverse rfind rindex rjust rpartition rsplit " ++
      "rstrip split splitlines startswith strip swapcase title translate " ++
      "upper zfill")),
    (.classMethod, words "fromhex"),
    (.staticMethod, words "__new__ maketrans"),
    (.value, words "__hash__")]
  | .memoryview => [
    (.wrapper, words ("__delitem__ __eq__ __ge__ __getattribute__ __getitem__ __gt__ " ++
      "__hash__ __iter__ __le__ __len__ __lt__ __ne__ __repr__ __setitem__")),
    (.method, words "__enter__ __exit__ cast hex release tobytes tolist toreadonly"),
    (.staticMethod, words "__new__"),
    (.getset, words ("c_contiguous contiguous f_contiguous format itemsize nbytes ndim obj " ++
      "readonly shape strides suboffsets"))]
  | .classmethod => [
    (.wrapper, words "__get__ __init__ __repr__"),
    (.staticMethod, words "__new__"),
    (.getset, words "__dict__ __isabstractmethod__"),
    (.member, words "__func__ __wrapped__")]
  | .staticmethod => [
    (.wrapper, words "__call__ __get__ __init__ __repr__"),
    (.staticMethod, words "__new__"),
    (.getset, words "__dict__ __isabstractmethod__"),
    (.member, words "__func__ __wrapped__")]
  | .super => [
    (.wrapper, words "__get__ __getattribute__ __init__ __repr__"),
    (.staticMethod, words "__new__"),
    (.member, words "__self__ __self_class__ __thisclass__")]
  | .property => [
    (.wrapper, words "__delete__ __get__ __getattribute__ __init__ __set__"),
    (.method, words "__set_name__ deleter getter setter"),
    (.staticMethod, words "__new__"),
    (.getset, words "__isabstractmethod__"),
    (.member, words "fdel fget fset")]
  | .function => [
    (.wrapper, words "__call__ __get__ __repr__"),
    (.staticMethod, words "__new__"),
    (.getset, words ("__annotations__ __code__ __defaults__ __dict__ __kwdefaults__ " ++
      "__name__ __qualname__")),
    (.member, words "__builtins__ __closure__ __globals__ __module__")]
  | .builtinFunction => [
    (.wrapper, words ("__call__ __eq__ __ge__ __getattribute__ __gt__ __hash__ __le__ " ++
      "__lt__ __ne__ __repr__")),
    (.method, words "__reduce__"),
    (.getset, words "__name__ __qualname__ __self__ __text_signature__"),
    (.member, words "__module__")]
  | .method => [
    (.wrapper, words ("__call__ __delattr__ __eq__ __ge__ __getattribute__ __gt__ __hash__ " ++
      "__le__ __lt__ __ne__ __repr__ __setattr__")),
    (.method, words "__reduce__"),
    (.staticMethod, words "__new__"),
    (.member, words "__func__ __self__")]
  | .methodWrapper => [
    (.wrapper, words ("__call__ __eq__ __ge__ __getattribute__ __gt__ __hash__ __le__ " ++
      "__lt__ __ne__ __repr__")),
    (.method, words "__reduce__"),
    (.getset, words "__name__ __objclass__ __qualname__ __text_signature__"),
    (.member, words "__self__")]
  | .slotWrapper => [
    (.wrapper, words "__call__ __get__ __getattribute__ __repr__"),
    (.method, words "__reduce__"),
    (.getset, words "__qualname__ __text_signature__"),
    (.member, words "__name__ __objclass__")]
  | .methodDescriptor => [
    (.wrapper, words "__call__ __get__ __getattribute__ __repr__"),
    (.method, words "__reduce__"),
    (.getset, words "__qualname__ __text_signature__"),
    (.member, words "__name__ __objclass__")]
  | .classMethodDescriptor => [
    (.wrapper, words "__call__ __get__ __getattribute__ __repr__"),
    (.getset, words "__qualname__ __text_signature__"),
    (.member, words "__name__ __objclass__")]
  | .getsetDescriptor => [
    (.wrapper, words "__delete__ __get__ __getattribute__ __repr__ __set__"),
    (.getset, words "__qualname__"),
    (.member, words "__name__ __objclass__")]
  | .memberDescriptor => [
    (.wrapper, words "__delete__ __get__ __getattribute__ __repr__ __set__"),
    (.method, words "__reduce__"),
    (.getset, words "__qualname__"),
    (.member, words "__name__ __objclass__")]
  | .mappingProxy => [
    (.wrapper, words ("__contains__ __eq__ __ge__ __getattribute__ __getitem__ __gt__ " ++
      "__ior__ __iter__ __le__ __len__ __lt__ __ne__ __or__ __repr__ " ++
      "__ror__ __str__")),
    (.method, words "__reversed__ copy get items keys values"),
    (.classMethod, words "__class_getitem__"),
    (.staticMethod, words "__new__"),
    (.value, words "__hash__")]
  | .moduleClass => [
    (.wrapper, words "__delattr__ __getattribute__ __init__ __repr__ __setattr__"),
    (.method, words "__dir__"),
    (.staticMethod, words "__new__"),
    (.getset, words "__annotations__"),
    (.member, words "__dict__")]
  | .generator => [
    (.wrapper, words "__del__ __getattribute__ __iter__ __next__ __repr__"),
    (.method, words "__sizeof__ close send throw"),
    (.getset, words "__name__ __qualname__ gi_frame gi_running gi_suspended gi_yieldfrom"),
    (.member, words "gi_code")]
  | .code => [
    (.wrapper, words ("__repr__ __hash__ __getattribute__ __lt__ __le__ __eq__ __ne__ __gt__ " ++
      "__ge__")),
    (.method, words "__sizeof__ co_lines co_positions replace _varname_from_oparg"),
    (.staticMethod, words "__new__"),
    (.getset, words ("co_lnotab _co_code_adaptive co_varnames co_cellvars co_freevars co_code")),
    (.member, words ("co_argcount co_posonlyargcount co_kwonlyargcount co_stacksize co_flags " ++
      "co_nlocals co_consts co_names co_filename co_name co_qualname co_firstlineno " ++
      "co_linetable co_exceptiontable"))]
  | .traceback => [
    (.wrapper, words "__getattribute__"),
    (.method, words "__dir__"),
    (.staticMethod, words "__new__"),
    (.getset, words "tb_lineno tb_next"),
    (.member, words "tb_frame tb_lasti")]
  | .listIterator => [
    (.wrapper, words "__getattribute__ __iter__ __next__"),
    (.method, words "__length_hint__ __reduce__ __setstate__")]
  | .listReverseIterator => [
    (.wrapper, words "__getattribute__ __iter__ __next__"),
    (.method, words "__length_hint__ __reduce__ __setstate__")]
  | .tupleIterator => [
    (.wrapper, words "__getattribute__ __iter__ __next__"),
    (.method, words "__length_hint__ __reduce__ __setstate__")]
  | .asciiIterator => [
    (.wrapper, words "__getattribute__ __iter__ __next__"),
    (.method, words "__length_hint__ __reduce__ __setstate__")]
  | .strIterator => [
    (.wrapper, words "__getattribute__ __iter__ __next__"),
    (.method, words "__length_hint__ __reduce__ __setstate__")]
  | .bytesIterator => [
    (.wrapper, words "__getattribute__ __iter__ __next__"),
    (.method, words "__length_hint__ __reduce__ __setstate__")]
  | .dictKeyIterator => [
    (.wrapper, words "__getattribute__ __iter__ __next__"),
    (.method, words "__length_hint__ __reduce__")]
  | .dictReverseKeyIterator => [
    (.wrapper, words "__iter__ __next__"),
    (.method, words "__length_hint__ __reduce__")]
  | .setIterator => [
    (.wrapper, words "__getattribute__ __iter__ __next__"),
    (.method, words "__length_hint__ __reduce__")]
  | .rangeIterator => [
    (.wrapper, words "__getattribute__ __iter__ __next__"),
    (.method, words "__length_hint__ __reduce__ __setstate__")]
  | .longRangeIterator => [
    (.wrapper, words "__getattribute__ __iter__ __next__"),
    (.method, words "__length_hint__ __reduce__ __setstate__")]
  | .itemIterator => [
    (.wrapper, words "__getattribute__ __iter__ __next__"),
    (.method, words "__length_hint__ __reduce__ __setstate__")]
  | .callIterator => [
    (.wrapper, words "__getattribute__ __iter__ __next__"),
    (.method, words "__reduce__")]
  | .textStream => [
    (.wrapper, words "__init__ __next__ __repr__"),
    (.method, words ("close detach fileno flush isatty read readable readline reconfigure " ++
      "seek seekable tell truncate writable write")),
    (.staticMethod, words "__new__"),
    (.getset, words "_CHUNK_SIZE closed errors name newlines"),
    (.member, words "_finalizing buffer encoding line_buffering write_through")]
  | .moduleSpec => [
    (.method, words "__eq__ __init__ __repr__"),
    (.getset, words "__dict__ __weakref__"),
    (.value, words "__hash__ cached has_location parent")]
  | .builtinImporter => [
    (.classMethod, words "find_module find_spec get_code get_source is_package load_module"),
    (.staticMethod, words "create_module exec_module module_repr"),
    (.getset, words "__dict__ __weakref__"),
    (.value, words "_ORIGIN")]
  | .frozenImporter => [
    (.classMethod, words ("_fix_up_module _resolve_filename find_module find_spec get_code " ++
      "get_source is_package load_module")),
    (.staticMethod, words "create_module exec_module module_repr"),
    (.getset, words "__dict__ __weakref__"),
    (.value, words "_ORIGIN _SEP")]
  | .pathFinder => [
    (.classMethod, words ("_get_spec _legacy_get_spec _path_importer_cache find_module " ++
      "find_spec")),
    (.staticMethod, words "_path_hooks find_distributions invalidate_caches"),
    (.getset, words "__dict__ __weakref__")]
  | .fileLoader => [
    (.method, words ("__eq__ __hash__ __init__ _cache_bytecode create_module exec_module " ++
      "get_code get_data get_filename get_resource_reader get_source is_package load_module " ++
      "path_mtime path_stats set_data source_to_code")),
    (.getset, words "__dict__ __weakref__")]
  | .compiledLoader => [
    (.method, words ("__eq__ __hash__ __init__ create_module exec_module get_code get_data " ++
      "get_filename get_resource_reader get_source is_package load_module")),
    (.getset, words "__dict__ __weakref__")]
  | .namespaceLoader => [
    (.method, words ("__init__ create_module exec_module get_code get_resource_reader " ++
      "get_source is_package load_module")),
    (.staticMethod, words "module_repr"),
    (.getset, words "__dict__ __weakref__")]
  | .fileFinder => [
    (.method, words ("__init__ __repr__ _fill_cache _get_spec find_loader find_module " ++
      "find_spec invalidate_caches")),
    (.classMethod, words "path_hook"),
    (.getset, words "__dict__ __weakref__")]
  | .zipImporter => [
    (.method, words ("__init__ __repr__ create_module exec_module find_loader find_module " ++
      "find_spec get_code get_data get_filename get_resource_reader get_source " ++
      "invalidate_caches is_package load_module")),
    (.getset, words "__dict__ __weakref__")]
  | .namespacePath => [
    (.method, words ("__contains__ __getitem__ __init__ __iter__ __len__ __repr__ " ++
      "__setitem__ _find_parent_path_names _get_parent_path _recalculate append")),
    (.getset, words "__dict__ __weakref__"),
    (.value, words "_epoch")]
  | .simpleNamespace => [
    (.wrapper, words ("__delattr__ __eq__ __ge__ __getattribute__ __gt__ __init__ __le__ " ++
      "__lt__ __ne__ __repr__ __setattr__")),
    (.method, words "__reduce__"),
    (.staticMethod, words "__new__"),
    (.member, words "__dict__"),
    (.value, words "__hash__")]
  | .unraisableArgs => [
    (.wrapper, words "__repr__"),
    (.method, words "__reduce__"),
    (.staticMethod, words "__new__"),
    (.member, words "err_msg exc_traceback exc_type exc_value object"),
    (.value, words "__match_args__ n_fields n_sequence_fields n_unnamed_fields")]
  | .baseException => [
    (.wrapper, words "__delattr__ __getattribute__ __init__ __repr__ __setattr__ __str__"),
    (.method, words "__reduce__ __setstate__ add_note with_traceback"),
    (.staticMethod, words "__new__"),
    (.getset, words "__cause__ __context__ __dict__ __traceback__ args"),
    (.member, words "__suppress_context__")]
  | .baseExceptionGroup => [
    (.wrapper, words "__init__ __str__"),
    (.method, words "derive split subgroup"),
    (.classMethod, words "__class_getitem__"),
    (.staticMethod, words "__new__"),
    (.member, words "exceptions message")]
  | .systemExit => [
    (.wrapper, words "__init__"),
    (.member, words "code")]
  | .attributeError => [
    (.wrapper, words "__init__ __str__"),
    (.member, words "name obj")]
  | .importError => [
    (.wrapper, words "__init__ __str__"),
    (.method, words "__reduce__"),
    (.member, words "msg name path")]
  | .nameError => [
    (.wrapper, words "__init__ __str__"),
    (.member, words "name")]
  | .osError => [
    (.wrapper, words "__init__ __str__"),
    (.method, words "__reduce__"),
    (.staticMethod, words "__new__"),
    (.getset, words "characters_written"),
    (.member, words "errno filename filename2 strerror")]
  | .stopIteration => [
    (.wrapper, words "__init__"),
    (.member, words "value")]
  | .syntaxError => [
    (.wrapper, words "__init__ __str__"),
    (.member, words ("end_lineno end_offset filename lineno msg offset print_file_and_line " ++
      "text"))]
  | .keyError => [
    (.wrapper, words "__init__ __str__")]
  | .unicodeDecodeError => [
    (.wrapper, words "__init__ __str__"),
    (.staticMethod, words "__new__"),
    (.member, words "encoding end object reason start")]
  | .unicodeEncodeError => [
    (.wrapper, words "__init__ __str__"),
    (.staticMethod, words "__new__"),
    (.member, words "encoding end object reason start")]
  | .unicodeTranslateError => [
    (.wrapper, words "__init__ __str__"),
    (.staticMethod, words "__new__"),
    (.member, words "encoding end object reason start")]
  | .exceptionGroup => [
    (.getset, words "__weakref__")]
  | c =>
    let isRefined := c.lineage.any (· ∈ [.osError, .syntaxError, .nameError, .importError])
    if !c.isException then []
    else (.wrapper, ["__init__"]) :: if isRefined then [] else [(.staticMethod, ["__new__"])]

/-- The kind of a member that a class itself has. -/
def Builtin.ownKind? (c : Builtin) (name : String) : Option MemberKind :=
  (c.ownMembers.find? fun e => name ∈ e.2).map (·.1)

/-- Where a class has a member, and its kind. -/
def Builtin.memberKind? (c : Builtin) (name : String) : Option (Builtin × MemberKind) :=
  c.lineage.findSome? fun d => (d.ownKind? name).map fun k => (d, k)

/-- The names of all members of a class. -/
def Builtin.memberNames (c : Builtin) : List String :=
  c.lineage.flatMap fun d => d.ownMembers.flatMap (·.2)

end Embedder.Machine
