import Embedder.Machine.Iteration

/-!
# Iterators over other iterators

A zip gives the items of several iterators together, a map what a function makes of them, a filter
those that pass a test. A zip uses its last tuple again if nobody else holds that any more.
-/

namespace Embedder.Machine

/-- Iterators over some objects. -/
def iteratorsOf : List Obj → Exec (List Obj)
  | [] => pure []
  | o :: rest => do
    let it ← iteratorOf o
    match ← Exec.outcome (iteratorsOf rest) with
    | .ok its => pure (it :: its)
    | .error r => do
      release it
      throw r

/-- Put the next items of some iterators into the slots of a tuple from number `i` on, until one of
them is at its end; whether none is. -/
def fillTogether (tuple : Obj) : (i : Nat) → List Obj → Exec Bool
  | _, [] => pure true
  | i, source :: rest => do
    match ← innerNext source with
    | none => pure false
    | some o => do
      fillSlot tuple i o
      fillTogether tuple (i + 1) rest

/-- The next items of some iterators together, in the tuple of the last ones if that is free. -/
def nextTogether (sources : List Obj) (last : Obj) : Exec (Option Obj) := do
  if sources.isEmpty then pure none
  else do
    let tuple ← tupleToFill last sources.length
    match ← Exec.outcome (fillTogether tuple 0 sources) with
    | .ok true => pure (some tuple)
    | .ok false => do
      release tuple
      pure none
    | .error r => do
      release tuple
      throw r

/-- What a function makes of the next items of some iterators after those that it has already, which
it takes over. -/
def nextMapped (function : Obj) : List Obj → (items : List Obj) → Exec (Option Obj)
  | [], items => holdingAll items (some <$> callObj function items)
  | source :: rest, items => do
    match ← Exec.outcome (innerNext source) with
    | .ok (some o) => nextMapped function rest (items ++ [o])
    | .ok none => do
      releaseList items
      pure none
    | .error r => do
      releaseList items
      throw r

/-- Whether an item passes a test; without a function it has to count as true. -/
def passes (test o : Obj) : Exec Bool := do
  if test = noneObj ∨ test = Builtin.bool.obj then truth o else truthOf (← callObj test [o])

/-- The next item of an iterator that passes a test. -/
def nextPassing (test source : Obj) : (fuel : Nat) → Exec (Option Obj)
  | 0 => pure none
  | fuel + 1 => do
    match ← innerNext source with
    | none => pure none
    | some o =>
      match ← Exec.outcome (passes test o) with
      | .ok true => pure (some o)
      | .ok false => do
        release o
        nextPassing test source fuel
      | .error r => do
        release o
        throw r

/-- What a function gives next, unless that is the last object; then, or when the function says that
it has no more, the iterator lets both go. -/
def nextCall (it function last : Obj) : Exec (Option Obj) := do
  let finish : Exec (Option Obj) := do
    setPayload it (.calls none)
    releaseList [function, last]
    pure none
  match ← Exec.outcome (callObj function []) with
  | .ok r =>
    match ← Exec.outcome (sameOrEqual last r) with
    | .ok false => pure (some r)
    | .ok true => holding r finish
    | .error e => do
      release r
      throw e
  | .error e => if ← raisedIs .stopIteration e then holding e.value finish else throw e

/-- The next item of an iterator that is made of others. -/
def nextOfPipeline (it : Obj) : Exec (Option Obj) := do
  match ← payloadOf it with
  | .zipped sources last => nextTogether sources last
  | .mapped f sources => nextMapped f sources []
  | .filtered test source => nextPassing test source walkFuel
  | .calls (some (f, last)) => nextCall it f last
  | _ => pure none

/-! ## Making them -/

/-- An iterator over the items of some objects together. -/
def newZip (sources : List Obj) : Exec Obj := do
  let sources ← iteratorsOf sources
  let last ← newTupleOf (sources.map fun _ => noneObj)
  alloc Builtin.zip.obj (.zipped sources last) []

/-- An iterator over what a function makes of the items of some objects together. -/
def newMap (function : Obj) (sources : List Obj) : Exec Obj := do
  let sources ← iteratorsOf sources
  incref function
  alloc Builtin.map.obj (.mapped function sources) []

/-- An iterator over the items of an object that pass a test. -/
def newFilter (test source : Obj) : Exec Obj := do
  let source ← iteratorOf source
  incref test
  alloc Builtin.filter.obj (.filtered test source) []

/-- An iterator over what a function gives until it gives some object. -/
def newCalls (function last : Obj) : Exec Obj := do
  incref function
  incref last
  alloc Builtin.callIterator.obj (.calls (some (function, last))) []

end Embedder.Machine
