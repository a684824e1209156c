import Embedder.Number.Double

/-!
# Programs: the functions of importable modules

A `Function` is a small piece of Python code: statements over expressions, each statement in a line
of its file. It knows nothing of objects; what it does when it is called is in `Evaluate`.
-/

namespace Embedder.Machine

/-- How two objects are compared. -/
inductive Comparison where
  | lt
  | le
  | eq
  | ne
  | gt
  | ge
  deriving DecidableEq, Repr

namespace Comparison

/-- The sign of a comparison. -/
def symbol : Comparison → String
  | .lt => "<"
  | .le => "<="
  | .eq => "=="
  | .ne => "!="
  | .gt => ">"
  | .ge => ">="

/-- The special method of a comparison. -/
def method : Comparison → String
  | .lt => "__lt__"
  | .le => "__le__"
  | .eq => "__eq__"
  | .ne => "__ne__"
  | .gt => "__gt__"
  | .ge => "__ge__"

/-- The comparison that says the same of two objects in the other order. -/
def swapped : Comparison → Comparison
  | .lt => .gt
  | .le => .ge
  | .eq => .eq
  | .ne => .ne
  | .gt => .lt
  | .ge => .le

/-- What a comparison says of two things that compare in an order. -/
def holds : Comparison → Ordering → Bool
  | .lt, o => o.isLT
  | .le, o => o.isLE
  | .eq, o => o.isEq
  | .ne, o => o.isNe
  | .gt, o => o.isGT
  | .ge, o => o.isGE

end Comparison

/-- An operator with two operands. -/
inductive Operator where
  | add
  | sub
  | mul
  | div
  | mod
  | pow
  deriving DecidableEq, Repr

namespace Operator

/-- The sign of an operator. -/
def symbol : Operator → String
  | .add => "+"
  | .sub => "-"
  | .mul => "*"
  | .div => "/"
  | .mod => "%"
  | .pow => "**"

/-- How an error names an operator. -/
def shown : Operator → String
  | .pow => "** or pow()"
  | op => op.symbol

/-- The name of an operator inside those of its special methods. -/
def stem : Operator → String
  | .add => "add__"
  | .sub => "sub__"
  | .mul => "mul__"
  | .div => "truediv__"
  | .mod => "mod__"
  | .pow => "pow__"

/-- The special method that an operator asks of its left operand. -/
def method (op : Operator) : String := "__" ++ op.stem

/-- The special method that an operator asks of its right operand. -/
def reflected (op : Operator) : String := "__r" ++ op.stem

end Operator

/-- Something that code computes. -/
inductive Expr where
  | nothing
  | int (i : Int)
  | float (d : Double)
  | text (s : String)
  /-- A name: of the function, of its module or a built-in one. -/
  | name (n : String)
  | attribute (e : Expr) (name : String)
  | call (f : Expr) (args : List Expr)
  | binary (op : Operator) (a b : Expr)
  | compare (op : Comparison) (a b : Expr)
  | list (items : List Expr)
  /-- A list of what an element is for each item of a source. Each item is bound to the names, part
  by part if there are several, and may have to meet a condition. -/
  | collect (element : Expr) (names : List String) (source : Expr) (condition : Option Expr)
  /-- The same without a list: the elements are computed when they are asked for. -/
  | lazily (element : Expr) (name : String) (source : Expr)
  deriving Repr

/-- A statement and the line it stands in. -/
inductive Stmt where
  | assign (line : Nat) (name : String) (e : Expr)
  /-- Add to a name of the module, in place. -/
  | increase (line : Nat) (name : String) (e : Expr)
  | whenTrue (line : Nat) (condition : Expr) (body : List Stmt)
  | give (line : Nat) (e : Expr)
  | raise (line : Nat) (e : Expr)
  /-- Hand out an item and pause. -/
  | yield (line : Nat) (e : Expr)
  deriving Repr

/-- The line in which a statement stands. -/
def Stmt.line : Stmt → Nat
  | .assign line .. | .increase line .. | .whenTrue line .. | .give line _ | .raise line _
    | .yield line _ => line

/-- A function as code. -/
structure Function where
  file : String
  /-- The line in which its definition begins. -/
  line : Nat
  name : String
  /-- The name with that of the class it stands in. -/
  qualifiedName : String
  parameters : List String
  /-- The names that it keeps to itself, the parameters first. -/
  names : List String
  doc : Option String
  body : List Stmt
  /-- Whether a call gives a generator, which runs the body. -/
  pauses : Bool
  deriving Repr

/-- What stands in a class statement: methods. -/
structure ClassBody where
  file : String
  line : Nat
  name : String
  methods : List Function
  deriving Repr

end Embedder.Machine
