import Embedder.Machine.Attribute
import Embedder.Machine.Sorting

/-!
# Suggestions for names

An error about a name that is not there suggests one that is: the nearest by the cost of turning one
into the other, if no more than about a third of the letters have to change. A letter put in, left
out or replaced costs two, one that changes its case costs one.
-/

namespace Embedder.Machine

namespace Suggestion

/-- The cost of putting in, leaving out or replacing a letter. -/
def moveCost : Nat := 2

/-- The cost of changing the case of a letter. -/
def caseCost : Nat := 1

/-- A letter of ASCII in lower case. -/
def lower (b : UInt8) : UInt8 := if 0x41 ≤ b ∧ b ≤ 0x5a then b + 0x20 else b

/-- The cost of one letter in place of another. -/
def replaceCost (a b : UInt8) : Nat :=
  if a = b then 0 else if lower a = lower b then caseCost else moveCost

/-- What remains of two words without what they have in common at the front. -/
def withoutCommon : List UInt8 → List UInt8 → List UInt8 × List UInt8
  | a :: as, b :: bs => if a = b then withoutCommon as bs else (a :: as, b :: bs)
  | as, bs => (as, bs)

/-- The next row of costs: `above` is the row before, of which `corner` has just been passed, and
`left` the cost found last. -/
def nextRow (c : UInt8) : (corner left : Nat) → List UInt8 → (above : List Nat) → List Nat
  | corner, left, a :: as, up :: above =>
    let cost := min (min left up + moveCost) (corner + replaceCost c a)
    cost :: nextRow c up cost as above
  | _, _, _, _ => []

/-- The last row of costs after the letters of a word, of which `n` were read. -/
def rows (a : List UInt8) : (n : Nat) → (row : List Nat) → List UInt8 → List Nat
  | _, row, [] => row
  | n, row, c :: cs => rows a (n + 1) (nextRow c (n * moveCost) (n * moveCost) a row) cs

/-- The letters that a word may have where it differs from another. -/
def maxLength : Nat := 40

/-- The cost of turning one word into another; nothing if they differ in too long a part. -/
def distance? (a b : List UInt8) : Option Nat :=
  let (a, b) := withoutCommon a b
  let (a, b) := withoutCommon a.reverse b.reverse
  let (a, b) := (a.reverse, b.reverse)
  if a.isEmpty ∨ b.isEmpty then some ((a.length + b.length) * moveCost)
  else if maxLength < a.length ∨ maxLength < b.length then none
  else
    let first := (List.range a.length).map fun i => (i + 1) * moveCost
    (rows a 0 first b).getLast?

/-- The number of candidates from which on nothing is suggested. -/
def maxCandidates : Nat := 750

/-- The better of the best candidate so far and the next one. -/
def better (name : List UInt8) (best : Option (String × Nat)) (candidate : String) :
    Option (String × Nat) :=
  let bytes := Utf8.bytes candidate
  if bytes = name then best
  else
    let limit := (name.length + bytes.length + 3) * moveCost / 6
    match distance? name bytes, best with
    | none, _ => best
    | some d, none => if d ≤ limit then some (candidate, d) else none
    | some d, some (_, e) => if d ≤ limit ∧ d < e then some (candidate, d) else best

/-- The candidate that is nearest to a name. -/
def nearest? (name : String) (candidates : List String) : Option String :=
  if maxCandidates ≤ candidates.length then none
  else (candidates.foldl (better (Utf8.bytes name)) none).map (·.1)

end Suggestion

/-! ## What there is -/

/-- The names that a class and those above it have. -/
def World.classNames (w : World) (cls : Obj) : List String :=
  let lineage := w.scriptedLineage lineageFuel cls
  let scripted := lineage.flatMap fun info => info.members.map (·.1)
  let base := w.builtinBase lineageFuel cls
  let implicit := if lineage.isEmpty then [] else implicitNames base
  "__doc__" :: scripted ++ implicit ++ base.memberNames

/-- Names in order, each once. -/
def sortedNames (names : List String) : List String :=
  let sorted := names.mergeSort fun a b => compare (pointsOf a) (pointsOf b) != .gt
  sorted.eraseDups

/-- The texts among some objects, where all of them are texts. -/
def textsOf (os : List Obj) : Exec (Option (List String)) := do
  let w ← get
  pure (os.mapM fun o =>
    match (w.cell o).payload with
    | .str s => some (hostText s)
    | _ => none)

/-- The names in a dictionary. -/
def keyNames (o : Obj) : Exec (List String) := do
  let w ← get
  match (w.cell o).payload with
  | .dict items =>
    pure (items.filterMap fun e =>
      match (w.cell e.key).payload with
      | .str s => some (hostText s)
      | _ => none)
  | _ => pure []

/-- The names that an object that stands for a class has: those of a class, or those in the
dictionary that it gives as its own. -/
def namesOfClass (cls : Obj) : Exec (List String) := do
  let w ← get
  if w.isClass cls then pure (w.classNames cls)
  else do
    match ← attrOrNone? cls "__dict__" with
    | none => pure []
    | some d => holding d (keyNames d)

/-- The names that an object has by itself and by its class, each of which it is asked for. -/
def ownNames (o : Obj) : Exec (List String) := do
  let own ← match ← attrOrNone? o "__dict__" with
    | none => pure []
    | some d => holding d (keyNames d)
  match ← attrOrNone? o "__class__" with
  | none => pure own
  | some cls => do
    let inherited ← holding cls (namesOfClass cls)
    pure (own ++ inherited)

/-- The names that an object has, in order; nothing if it gives something else for them. -/
def namesOf (o : Obj) : Exec (Option (List String)) := do
  let listed (x : Exec Obj) : Exec (Option (List String)) := do
    let r ← x
    holding r do
      let items ← itemsOf r
      holdingAll items do
        let sorted ← sortObjs items
        textsOf sorted
  match ← callSpecial o "__dir__" [] with
  | some r => listed (pure r)
  | none => do
    let w ← get
    let c := w.cell o
    if w.isClass o then pure (some (sortedNames (w.classNames o)))
    else if c.payload matches .moduleNamed _ then
      match w.attr? o "__dir__" with
      | some f => listed (callObj f [])
      | none => pure (some (sortedNames ((w.attrsOf c).map (·.1))))
    else some <$> (sortedNames <$> ownNames o)

/-- A name in place of the one that an attribute error or a name error is about. The places are
those that the error passed. -/
def suggestionFor? (o : Obj) : Exec (Option String) := do
  let w ← get
  let c := w.cell o
  match c.payload with
  | .error info =>
    match (info.fields.lookup "name").map fun n => (w.cell n).payload with
    | some (.str s) =>
      let name := hostText s
      if c.cls = Builtin.attributeError.obj then
        match info.fields.lookup "obj" with
        | some subject =>
          match ← recover (namesOf subject) (fun _ => pure true) (pure none) with
          | some names => pure (Suggestion.nearest? name names)
          | none => pure none
        | none => pure none
      else if c.cls = Builtin.nameError.obj then
        match info.trace.getLast? with
        | some frame =>
          let namesIn (m : Option Obj) : List String :=
            ((m.map fun m => w.attrsOf (w.cell m)).getD []).map (·.1)
          pure (((Suggestion.nearest? name frame.names).or
            (Suggestion.nearest? name (namesIn frame.home))).or
            (Suggestion.nearest? name (namesIn (some w.builtins))))
        | none => pure none
      else pure none
    | _ => pure none
  | _ => pure none

end Embedder.Machine
