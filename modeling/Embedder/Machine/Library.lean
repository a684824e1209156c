import Embedder.Machine.Program

/-!
# The functions of importable modules

A small library of Python code: functions on a list of numbers, which find its outliers, copy and
convert it, or fail in various ways. A module is a list of definitions.
-/

namespace Embedder.Machine

/-- A definition in a module. -/
inductive Definition where
  /-- Another module under its name. -/
  | imported (line : Nat) (name : String)
  | value (name : String) (e : Expr)
  | function (f : Function)
  | cls (body : ClassBody)
  deriving Repr

/-- A call of a named function with one argument. -/
def Expr.apply (function : String) (arg : Expr) : Expr := .call (.name function) [arg]

/-- The line before some statements. -/
def lineBefore (body : List Stmt) : Nat := (body.head?.map Stmt.line).getD 1 - 1

/-- A function with the parameter `values`. -/
def Function.onValues (file name : String) (body : List Stmt) : Function :=
  ⟨file, lineBefore body, name, name, ["values"], ["values"], none, body, false⟩

/-- A function that gives a list of a number and the length of its argument. -/
def countAfter (file : String) (first : Int) : Function :=
  .onValues file "who" [.give 2 (.list [.int first, .apply "len" (.name "values")])]

/-- A function that gives a list of fixed numbers. -/
def constantFunction (file name : String) (numbers : List Int) : Function :=
  .onValues file name [.give 2 (.list (numbers.map .int))]

namespace Outliers

def file : String := "outliers.py"

/-- The names in the code of the functions. -/
def values : Expr := .name "values"

def item : Expr := .name "v"

/-- A function of the file. -/
def onValues (name : String) (body : List Stmt) : Function := .onValues file name body

/-- The places of the items that are more than a multiple of the standard deviation above the
mean. -/
def detect : Function :=
  let squares : Expr :=
    .lazily (.binary .pow (.binary .sub item (.name "mean")) (.int 2)) "v" values
  let bound : Expr :=
    .binary .add (.name "mean") (.binary .mul (.name "THRESHOLD") (.name "std"))
  { onValues "detect" [
      .assign 12 "n" (.apply "len" values),
      .whenTrue 13 (.compare .eq (.name "n") (.int 0)) [.give 14 (.list [])],
      .assign 15 "mean" (.binary .div (.apply "sum" values) (.name "n")),
      .assign 16 "std" (.call (.attribute (.name "math") "sqrt")
        [.binary .div (.apply "sum" squares) (.name "n")]),
      .give 17 (.collect (.name "i") ["i", "v"] (.apply "enumerate" values)
        (some (.compare .gt item bound)))] with
    line := 10
    names := ["values", "n"]
    doc := some "Indices of values above mean + THRESHOLD * stddev." }

/-- Count the calls in the module. -/
def tally : Function :=
  { onValues "tally" [
      .increase 34 "calls" (.int 1),
      .give 35 (.list [.name "calls"])] with
    line := 31
    doc := some "Counts its own invocations." }

/-- A list with what becomes of each item. -/
def mapped (name : String) (line : Nat) (element : Expr) (itemName : String) : Function :=
  onValues name [.give line (.collect element [itemName] values none)]

/-- A method without further parameters. -/
def methodOf (cls name : String) (body : List Stmt) (pauses : Bool) : Function :=
  ⟨file, lineBefore body, name, cls ++ "." ++ name, ["self"], ["self"], none, body, pauses⟩

/-- A sequence that claims more items than it has. -/
def shortSequence : Definition :=
  let name := "_ShortSequence"
  .cls ⟨file, 58, name, [
    methodOf name "__len__" [.give 60 (.int 5)] false,
    methodOf name "__iter__" [.give 63 (.apply "iter" (.list [.int 1, .int 2]))] false]⟩

/-- A sequence that fails after its first item. -/
def exploding : Definition :=
  let name := "_Exploding"
  .cls ⟨file, 70, name, [
    methodOf name "__len__" [.give 72 (.int 3)] false,
    methodOf name "__iter__" [
      .yield 75 (.int 1),
      .raise 76 (.apply "RuntimeError" (.text "iteration exploded"))] true]⟩

/-- All definitions of the module. -/
def definitions : List Definition := [
  .value "__doc__" (.text "Stub functions called from the bridge integration tests."),
  .imported 3 "math",
  .value "THRESHOLD" (.float ⟨0x4000000000000000⟩),
  .value "not_callable" (.int 42),
  .function detect,
  .value "calls" (.int 0),
  .function (onValues "identity" [.give 24 (.apply "list" values)]),
  .function (mapped "to_ints" 28 (.apply "int" item) "v"),
  .function tally,
  .function (mapped "double" 39 (.binary .mul item (.int 2)) "v"),
  .function (onValues "boom" [.raise 43 (.apply "ValueError"
    (.binary .mod (.text "boom: %d values") (.apply "len" values)))]),
  .function (onValues "mixed" [.give 47 (.list [.int 1, .int 2, .text "three", .int 4])]),
  .function (mapped "halves" 51 (.float ⟨0x3fe0000000000000⟩) "_"),
  .function (onValues "none" [.give 55 .nothing]),
  shortSequence,
  .function (onValues "short" [.give 67 (.call (.name "_ShortSequence") [])]),
  exploding,
  .function (onValues "exploding" [.give 80 (.call (.name "_Exploding") [])])]

end Outliers

end Embedder.Machine
