import Embedder.Number.Double

/-!
# Scripts: the Python side of a test

A `Spec` describes a Python object to be made, an `Action` what a Python function does when it is
called, an `ErrorSpec` an exception to be raised. Together they are a small language in which the
Python side of a session is written.
-/

namespace Embedder.Machine

/-- The code points of a Python text, which may hold surrogates. -/
abbrev Points := List Nat

/-- The code points of a host text. -/
def pointsOf (s : String) : Points := s.toList.map Char.toNat

/-- A text of the host, from one without surrogates. -/
def hostText (s : Points) : String := String.ofList (s.map Char.ofNat)

/-- The built-in classes that a script can derive a class from. -/
inductive Derived where
  | float
  | int
  | str
  | list
  deriving DecidableEq, Repr

mutual

/-- A Python object to be made. -/
inductive Spec where
  | none
  | bool (b : Bool)
  | int (i : Int)
  | float (d : Double)
  | complex (re im : Double)
  | str (s : Points)
  | bytes (bs : List UInt8)
  | list (items : List Spec)
  | tuple (items : List Spec)
  | set (items : List Spec)
  /-- An iterator over a list. -/
  | iter (items : List Spec)
  /-- A generator that performs one action for each item. -/
  | gen (actions : List Action)
  | dict (keys values : List Spec)
  | range (start stop step : Int)
  /-- A list of one item repeated. -/
  | repeated (item : Spec) (count : Nat)
  /-- An empty list inside that many lists. -/
  | nest (depth : Nat)
  /-- An instance of a class derived from a built-in one. -/
  | derived (base : Derived) (name : String) (value : Spec)
  /-- Something in the built-in namespace. -/
  | builtin (name : String)
  /-- A class with nothing in it. -/
  | plainClass (name : String)
  /-- An exception that is not raised. -/
  | exception (e : ErrorSpec)
  /-- What the module table has under a name. -/
  | moduleNamed (name : String)
  | function (body : Action)
  /-- An instance of a new class. -/
  | object (name : String) (methodNames : List String) (methods : List Action)
      (propertyNames : List String) (properties : List Action)
      (attrNames : List String) (attrs : List Spec)

/-- What a function does when it is called. -/
inductive Action where
  /-- Return an object, made anew. -/
  | give (s : Spec)
  | raise (e : ErrorSpec)
  /-- Return an argument. -/
  | echo (index : Nat)
  /-- Return a list with the number of arguments. -/
  | argCount
  /-- Record a text. -/
  | note (text : String)
  /-- Drop a binding of the host. -/
  | dropSlot (slot : String)
  /-- One action for each call; the last one repeats. -/
  | sequence (actions : List Action)

/-- An exception to be raised. -/
inductive ErrorSpec where
  /-- An exception of a built-in class, with a cause and notes. -/
  | builtin (cls : String) (args : List Spec) (cause : List ErrorSpec) (notes : List String)
  /-- An exception of a new class; `text` is its `__str__` and `shownName` what its `__name__`
  gives, if they are there. -/
  | custom (cls base : String) (text shownName : List Action) (args : List Spec)
      (cause : List ErrorSpec) (notes : List String)
  /-- Any object, raised as it is. -/
  | value (s : Spec)

end

end Embedder.Machine
