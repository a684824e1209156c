import Embedder.Machine.Text

/-!
# The places of a set

A set is a table with a power of two of places. An object goes to the place that its hash names, or,
where that is taken, to one of the nine after it; if those are taken too, to a place that the rest
of the hash picks. A table that is three fifths full grows fourfold. So the order of a set follows
from the hashes of its objects and from the order in which they came.
-/

namespace Embedder.Machine

/-- The number of a hash as a machine word. -/
def hashWord (h : Int) : Nat := (h % (2 ^ 64 : Int)).toNat

/-- The number of places tried after the first. -/
def linearProbes : Nat := 9

/-- The length of the run of places that is tried from a place on. -/
def runFrom (size place : Nat) : Nat :=
  if place + linearProbes < size then linearProbes + 1 else 1

/-- The place from which the next run starts, given the rest of the hash. -/
def nextRun (size place rest : Nat) : Nat := (place * 5 + 1 + rest) % size

/-- The number of runs that a search may try. -/
def runFuel : Nat := 2 ^ 16

/-- The least power of two from 8 on that is above a number, in at most `fuel` doublings. -/
def tableSize : Nat → Nat → Nat → Nat
  | 0, size, _ => size
  | fuel + 1, size, n => if size ≤ n then tableSize fuel (size * 2) n else size

namespace Table

/-- A table with nothing in it. -/
def empty : Table := ⟨Array.replicate 8 none, 0⟩

/-- The objects of a table, in the order of its places. -/
def entries (t : Table) : List Entry := t.places.toList.filterMap id

/-- The first object at a place or after it, and the place after that one; `fuel` bounds the places.
-/
def nextFrom (t : Table) : (fuel i : Nat) → Option (Obj × Nat)
  | 0, _ => none
  | fuel + 1, i =>
    match t.places[i]? with
    | some (some e) => some (e.key, i + 1)
    | some none => t.nextFrom fuel (i + 1)
    | none => none

/-- The first object at a place or after it, and the place after that one. -/
def next? (t : Table) (i : Nat) : Option (Obj × Nat) := t.nextFrom (t.places.size - i) i

/-- The first free place in a run. -/
def freeInRun (places : Array (Option Entry)) (start : Nat) : Nat → Option Nat
  | 0 => none
  | count + 1 =>
    match places[start]? with
    | some none => some start
    | some (some _) => freeInRun places (start + 1) count
    | none => none

/-- The first free place for a hash; `fuel` bounds the runs. -/
def freePlace (places : Array (Option Entry)) : (fuel place rest : Nat) → Option Nat
  | 0, _, _ => none
  | fuel + 1, place, rest =>
    match freeInRun places place (runFrom places.size place) with
    | some i => some i
    | none =>
      let rest := rest / 32
      freePlace places fuel (nextRun places.size place rest) rest

/-- Put an entry that is in no place yet into a free one. -/
def insertNew (places : Array (Option Entry)) (e : Entry) : Array (Option Entry) :=
  let word := hashWord e.hash
  match freePlace places runFuel (word % places.size) word with
  | some i => places.setIfInBounds i (some e)
  | none => places

/-- The same objects in a table with more places than a number. -/
def resize (t : Table) (least : Nat) : Table :=
  ⟨t.entries.foldl insertNew (Array.replicate (tableSize 64 8 least) none), t.used⟩

/-- The table in which so many more objects have room, if they are known beforehand. -/
def reserve (t : Table) (more : Nat) : Table :=
  if (t.places.size - 1) * 3 ≤ (t.used + more) * 5 then t.resize ((t.used + more) * 2) else t

/-- Fill a free place, and grow if that makes the table three fifths full. -/
def fill (t : Table) (i : Nat) (e : Entry) : Table :=
  let t : Table := ⟨t.places.setIfInBounds i (some e), t.used + 1⟩
  if t.used * 5 < (t.places.size - 1) * 3 then t
  else t.resize (t.used * (if 50000 < t.used then 2 else 4))

/-- Put the objects of another table into an empty one. -/
def copyInto (t other : Table) : Table :=
  let t := t.reserve other.used
  if t.used = 0 ∧ t.places.size = other.places.size then ⟨other.places, other.used⟩
  else ⟨other.entries.foldl insertNew t.places, t.used + other.used⟩

/-- Where a search for an object ended. -/
inductive Found where
  | taken (place : Nat)
  | free (place : Nat)

/-- Search a run of places for an entry that `same` accepts. -/
def searchRun (places : Array (Option Entry)) (same : Entry → Exec Bool) (start : Nat) :
    Nat → Exec (Option Found)
  | 0 => pure none
  | count + 1 =>
    match places[start]? with
    | some (some e) => do
      if ← same e then pure (some (.taken start))
      else searchRun places same (start + 1) count
    | some none => pure (some (.free start))
    | none => pure none

/-- Search the runs of a hash for an entry that `same` accepts; `fuel` bounds them. -/
def searchFrom (places : Array (Option Entry)) (same : Entry → Exec Bool) :
    (fuel place rest : Nat) → Exec (Option Found)
  | 0, _, _ => pure none
  | fuel + 1, place, rest => do
    match ← searchRun places same place (runFrom places.size place) with
    | some f => pure (some f)
    | none =>
      let rest := rest / 32
      searchFrom places same fuel (nextRun places.size place rest) rest

/-- Search a table for an object with a hash; `equal` compares it with one of the same hash. -/
def search (t : Table) (equal : Obj → Obj → Exec Bool) (key : Obj) (hash : Int) :
    Exec (Option Found) :=
  let same (e : Entry) : Exec Bool :=
    if e.hash ≠ hash then pure false
    else if e.key = key then pure true
    else equal e.key key
  let word := hashWord hash
  searchFrom t.places same runFuel (word % t.places.size) word

/-- Whether a table holds an object with a hash. -/
def holds (t : Table) (equal : Obj → Obj → Exec Bool) (key : Obj) (hash : Int) : Exec Bool := do
  match ← t.search equal key hash with
  | some (.taken _) => pure true
  | _ => pure false

end Table

end Embedder.Machine
