/-!
# Failures of the bridge

Everything that can go wrong when a host talks to an embedded Python interpreter, as causes:
`Failure` for the bridge itself, `MarshalFailure` for data that does not cross the boundary, and
`ExceptionReport` for what the interpreter raised. Each has its wording (`message`), and a `Failure`
also has the status code of the C interface and a diagnostic text that includes the traceback.
-/

namespace Embedder

/-- The kind of a number on the host's side. -/
inductive ElementKind where
  | int64
  | float64
  | bool
  deriving DecidableEq, Repr

/-- The name of an element kind. -/
def ElementKind.name : ElementKind → String
  | .int64 => "int64"
  | .float64 => "float64"
  | .bool => "bool"

/-- A Python exception as the host is told of it. -/
structure ExceptionReport where
  /-- The name of the exception's class. -/
  typeName : String
  /-- The text of the exception. -/
  message : String
  /-- The traceback with its heading, if there is one and it could be written. -/
  traceback : Option String
  deriving DecidableEq, Repr

namespace ExceptionReport

/-- The report on one line. -/
def headline (r : ExceptionReport) : String := r.typeName ++ ": " ++ r.message

/-- The report with the traceback in front, as the interpreter would print it. -/
def full (r : ExceptionReport) : String := r.traceback.getD "" ++ r.headline

/-- The report for a call that signalled failure and left no exception behind. -/
def missing (context : String) : ExceptionReport :=
  ⟨"SystemError", context ++ " failed without setting an exception", none⟩

/-- The report for a host text that no C string can hold. -/
def embeddedNul (shown : String) : ExceptionReport :=
  ⟨"ValueError", "embedded null byte in " ++ shown, none⟩

theorem full_eq_headline {r : ExceptionReport} (h : r.traceback = none) : r.full = r.headline := by
  simp [full, h]

end ExceptionReport

/-- Data that does not cross the boundary. -/
inductive MarshalFailure where
  /-- An element could not be converted. -/
  | notConvertible (index : Nat) (expected : ElementKind) (cause : ExceptionReport)
  /-- A converted element could not be stored. -/
  | notPlaced (index : Nat) (cause : ExceptionReport)
  /-- A sequence ended before its announced length. -/
  | endedEarly (expected actual : Nat)
  /-- An object has no length, or nothing can walk it. -/
  | notASequence (cause : ExceptionReport)
  /-- No list of the wanted length could be made. -/
  | notAllocated (length : Nat) (cause : ExceptionReport)
  deriving DecidableEq, Repr

namespace MarshalFailure

/-- The wording of a marshalling failure. -/
def message : MarshalFailure → String
  | .notConvertible i k c => s!"element {i} is not convertible to {k.name}: {c.headline}"
  | .notPlaced i c => s!"element {i} could not be placed in the foreign list: {c.headline}"
  | .endedEarly n k => s!"sequence reported {n} items but iteration yielded {k}"
  | .notASequence c => "object is not a sized sequence: " ++ c.headline
  | .notAllocated n c => s!"foreign list of length {n} could not be allocated: {c.headline}"

/-- The element at fault, where the failure is tied to one. -/
def index? : MarshalFailure → Option Nat
  | .notConvertible i _ _ | .notPlaced i _ => some i
  | _ => none

/-- The exception behind the failure, where there is one. -/
def cause? : MarshalFailure → Option ExceptionReport
  | .notConvertible _ _ c | .notPlaced _ c | .notASequence c | .notAllocated _ c => some c
  | .endedEarly _ _ => none

end MarshalFailure

/-- A failure of a bridge operation. -/
inductive Failure where
  /-- No interpreter is running. -/
  | notRunning
  /-- An interpreter is running already. -/
  | alreadyRunning
  /-- The interpreter was finalized, and the configuration does not allow a restart. -/
  | restartRefused
  /-- The interpreter did not come up. -/
  | initializationFailed (reason : String)
  /-- Importing a module raised. -/
  | moduleNotFound (name : String) (cause : ExceptionReport)
  /-- A module's namespace has no such name. -/
  | attributeNotFound (moduleName attr : String)
  /-- A name in a module is bound to something that cannot be called. -/
  | notCallable (moduleName attr : String)
  /-- Data did not cross the boundary. -/
  | marshal (cause : MarshalFailure)
  /-- Python code raised. -/
  | raised (cause : ExceptionReport)
  /-- An argument was refused before anything ran. -/
  | invalidArgument (text : String)
  /-- No binding has this id. -/
  | invalidBinding (id : Int)
  deriving DecidableEq, Repr

namespace Failure

/-- The wording of a failure. -/
def message : Failure → String
  | .notRunning => "Python interpreter is not running. Call start() first."
  | .alreadyRunning => "Python interpreter is already running"
  | .restartRefused => "Python interpreter was finalized and restarting it is disabled " ++
      "(allow_reinitialize = false)"
  | .initializationFailed r => "Python interpreter failed to initialize: " ++ r
  | .moduleNotFound n c => "Module '" ++ n ++ "' could not be imported: " ++ c.headline
  | .attributeNotFound m a => "Module '" ++ m ++ "' has no attribute '" ++ a ++ "'"
  | .notCallable m a => "'" ++ m ++ "." ++ a ++ "' is not callable"
  | .marshal c => "Marshal error: " ++ c.message
  | .raised c => "Python raised " ++ c.headline
  | .invalidArgument t => "Invalid argument: " ++ t
  | .invalidBinding i => s!"Invalid binding id: {i}"

/-- The status code of a failure in the C interface. -/
def code : Failure → Int
  | .notRunning => -1
  | .moduleNotFound .. => -2
  | .attributeNotFound .. => -3
  | .notCallable .. => -4
  | .marshal _ => -5
  | .raised _ => -6
  | .alreadyRunning => -7
  | .restartRefused => -8
  | .initializationFailed _ => -9
  | .invalidArgument _ => -10
  | .invalidBinding _ => -11

/-- Misuse of the lifecycle: trying again without a change cannot succeed. -/
def isFatal : Failure → Bool
  | .notRunning | .alreadyRunning | .restartRefused | .initializationFailed _ => true
  | _ => false

/-- The wording with the traceback, where one was captured. -/
def detailed : Failure → String
  | .raised c => "Python raised " ++ c.full
  | .moduleNotFound n c => "Module '" ++ n ++ "' could not be imported: " ++ c.full
  | f => f.message

/-- The wording of the failure underneath, where there is one. -/
def source? : Failure → Option String
  | .marshal c => some c.message
  | .raised c => some c.headline
  | _ => none

theorem code_neg (f : Failure) : f.code < 0 := by cases f <;> simp [code]

end Failure

end Embedder
