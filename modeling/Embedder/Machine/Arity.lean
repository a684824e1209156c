import Embedder.Machine.Members

/-!
# Numbers of arguments

The functions of the built-in modules check the number of their arguments first, and each says in
the manner of its kind what it expected.
-/

namespace Embedder.Machine

/-- The error for arguments that are not as they should be. -/
def badCallOf {α : Type} (message : String) : Exec α := throwNew .typeError message

/-- How many arguments a function takes, and how it speaks of them. -/
inductive Arity where
  | none
  /-- Exactly one. -/
  | one
  /-- As many as it expected. -/
  | expected (least most : Nat)
  /-- Arguments with names, of which the first ones cannot be left out. -/
  | named (required : List String) (most : Nat)
  deriving DecidableEq, Repr

/-- Some arguments, counted. -/
def countedArguments (n : Nat) : String := s!"{n} argument" ++ if n = 1 then "" else "s"

/-- Check that a function expected so many arguments. -/
def checkExpected (name : String) (least most given : Nat) : Exec Unit :=
  if least ≤ given ∧ given ≤ most then pure ()
  else
    let kind := if least = most then "" else if given < least then "at least " else "at most "
    let bound := if given < least then least else most
    badCallOf (name ++ " expected " ++ kind ++ countedArguments bound ++ s!", got {given}")

/-- Check the number of arguments of a function of a module. -/
def Arity.check (moduleName name : String) (given : Nat) : Arity → Exec Unit
  | .none =>
    if given = 0 then pure ()
    else badCallOf (path ++ s!"() takes no arguments ({given} given)")
  | .one =>
    if given = 1 then pure ()
    else badCallOf (path ++ s!"() takes exactly one argument ({given} given)")
  | .expected least most => checkExpected name least most given
  | .named required most =>
    if most < given then
      badCallOf (name ++ "() takes at most " ++ countedArguments most ++ s!" ({given} given)")
    else
      match required[given]? with
      | some missing =>
        badCallOf (name ++ "() missing required argument '" ++ missing ++ s!"' (pos {given + 1})")
      | Option.none => pure ()
where
  path : String := if moduleName = "builtins" then name else moduleName ++ "." ++ name

/-- Functions with their numbers of arguments. -/
def aritiesOf (moduleName : String) : List (Arity × String) :=
  match moduleName with
  | "builtins" =>
    [(.none, "globals locals"),
      (.one, "abs aiter all any ascii bin callable chr hash hex id len oct ord repr"),
      (.expected 2 2, "divmod isinstance issubclass hasattr delattr"),
      (.expected 1 2, "iter next format anext"), (.expected 1 1, "sorted"),
      (.expected 2 3, "getattr"), (.expected 3 3, "setattr"), (.expected 0 1, "dir vars input"),
      (.expected 1 3, "eval"), (.named ["base", "exp"] 3, "pow"),
      (.named ["number"] 2, "round"), (.named ["source", "filename", "mode"] 6, "compile"),
      (.named ["file"] 8, "open")]
  | "math" =>
    [(.one, "acos acosh asin asinh atan atanh cbrt ceil cos cosh degrees erf erfc exp exp2 " ++
        "expm1 fabs factorial floor frexp fsum gamma isfinite isinf isnan isqrt lgamma log10 " ++
        "log1p log2 modf radians sin sinh sqrt tan tanh trunc ulp"),
      (.expected 2 2, "atan2 comb copysign dist fmod ldexp nextafter pow remainder"),
      (.expected 1 2, "perm"), (.named ["a", "b"] 4, "isclose")]
  | "sys" =>
    [(.none, "_clear_type_cache _current_exceptions _current_frames _debugmallocstats " ++
        "_getquickenedcount exc_info exception get_asyncgen_hooks " ++
        "get_coroutine_origin_tracking_depth get_int_max_str_digits getallocatedblocks " ++
        "getdefaultencoding getdlopenflags getfilesystemencodeerrors getfilesystemencoding " ++
        "getprofile getrecursionlimit getswitchinterval gettrace is_finalizing"),
      (.one, "displayhook getrefcount intern setdlopenflags setprofile setrecursionlimit " ++
        "setswitchinterval settrace unraisablehook"),
      (.expected 0 1, "exit _getframe"), (.expected 2 2, "call_tracing"),
      (.expected 3 3, "excepthook"), (.named ["maxdigits"] 1, "set_int_max_str_digits"),
      (.named ["object"] 2, "getsizeof"), (.named ["hook"] 1, "addaudithook"),
      (.named ["depth"] 1, "set_coroutine_origin_tracking_depth")]
  | _ => []

/-- The number of arguments that a built-in function takes, if it is one that says so. -/
def arityOf? (moduleName name : String) : Option Arity :=
  (aritiesOf moduleName).findSome? fun (arity, names) =>
    if name ∈ words names then some arity else none

end Embedder.Machine
