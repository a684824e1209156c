import Embedder.Machine.Release

/-!
# Collecting garbage

Objects that only refer to each other are garbage: no count of references goes to zero, but nothing
can reach them. They are found by taking from each count what other objects account for. What is
left counts references from outside, and whatever those objects reach is in use.

The objects stand in an order. At first it is that of their making, but the oldest objects of the
program stand after its others. A collection moves each object that it had already doubted, when
something in use turned out to reach it, to the end. Garbage is finalized in this order, and only
then let go.
-/

namespace Embedder.Machine

/-! ## References -/

/-- The modules whose names some places use. -/
def homesOf (frames : List Frame) : List Obj := frames.filterMap (·.home)

/-- The modules whose names a payload uses without a counted reference. -/
def Payload.homes : Payload → List Obj
  | .function _ _ (.program _ home) | .function _ _ (.body _ home) => [home]
  | .generator (.elements a _ _ _ _) _ => [a.home]
  | .generator (.statements a _) _ => [a.home]
  | .traceback frames => homesOf frames
  | .error info => homesOf info.trace
  | _ => []

/-- What a cell reaches. -/
def Cell.reaches (c : Cell) : List Obj := c.references ++ c.payload.homes

/-- Whether a cell is in use by somebody and counted. -/
def Cell.isCounted (c : Cell) : Bool := !c.immortal && 0 < c.refs

/-- The references that an object has from itself: those of a class from its own tables, that of a
loaded module from its functions. -/
def World.ownReferences (w : World) (o : Obj) (c : Cell) : Nat :=
  match c.payload with
  | .cls _ =>
    -- the order of the search and the data count by themselves once somebody asked for them
    let tables := "__mro__" :: (w.builtinBase lineageFuel o).addedData
    (tables.filter fun name => (c.kept.lookup name).isNone).length
  | .moduleNamed _ => if o ∈ w.loaded then 1 else 0
  | _ => 0

/-- For each object the references that come from outside of all objects. -/
def World.outsideCounts (w : World) : Array Nat :=
  let counts := w.heap.mapIdx fun i c => c.refs - w.ownReferences ⟨i⟩ c
  w.heap.foldl (fun counts c =>
    if c.isCounted then
      c.references.foldl (fun counts o => counts.modify o.id (· - 1)) counts
    else counts) counts

/-! ## What is in use -/

/-- What a scan of all objects knows of one. -/
inductive Mark where
  /-- It is not among the objects that are scanned. -/
  | absent
  /-- It was not looked at so far. -/
  | waiting
  | inUse
  /-- Nothing that was looked at reaches it. -/
  | doubted
  deriving DecidableEq, Repr, Inhabited

/-- The state of a scan. -/
structure Scan where
  marks : Array Mark
  /-- For each object the references that are known to come from outside. -/
  counts : Array Nat
  /-- The objects in use, the last first. -/
  found : List Obj

/-- Something in use reaches an object. If it was doubted, it is looked at once more, at the end;
`back` holds what is to be looked at there, the last first. -/
def Scan.reach (s : Scan × List Obj) (o : Obj) : Scan × List Obj :=
  let (scan, back) := s
  let reached := { scan with counts := scan.counts.modify o.id (max · 1) }
  match scan.marks.getD o.id .absent with
  | .waiting => (reached, back)
  | .doubted =>
    ({ reached with marks := reached.marks.setIfInBounds o.id .waiting }, o :: back)
  | _ => s

/-- Look at some objects in order. Each is looked at twice at most, so fuel for that is enough. -/
def World.scan (w : World) : (fuel : Nat) → (front back : List Obj) → Scan → Scan
  | 0, _, _, s => s
  | _, [], [], s => s
  | fuel + 1, [], back, s => w.scan fuel back.reverse [] s
  | fuel + 1, o :: front, back, s =>
    if 0 < s.counts.getD o.id 0 then
      let s := { s with marks := s.marks.setIfInBounds o.id .inUse, found := o :: s.found }
      let (s, back) := (w.cell o).reaches.foldl Scan.reach (s, back)
      w.scan fuel front back s
    else w.scan fuel front back { s with marks := s.marks.setIfInBounds o.id .doubted }

/-- The objects in use and the garbage among some objects, both in order. -/
def World.sift (w : World) (objects : List Obj) : List Obj × List Obj :=
  let absent := Array.replicate w.heap.size Mark.absent
  let marks := objects.foldl (fun marks o => marks.setIfInBounds o.id .waiting) absent
  let s := w.scan (4 * w.heap.size + 4) objects [] ⟨marks, w.outsideCounts, []⟩
  (s.found.reverse, objects.filter fun o => s.marks.getD o.id .absent = .doubted)

/-! ## Garbage -/

/-- The objects in memory from a number on, in the order of their making. -/
def World.objectsFrom (w : World) (first : Nat) : List Obj :=
  (List.range' first (w.heap.size - first)).filterMap fun i =>
    if (w.cell ⟨i⟩).isCounted then some ⟨i⟩ else none

/-- The number of its objects that a program makes until they count as old. -/
def youngLimit : Nat := 14

/-- The objects in memory as they stand before the first collection. -/
def World.objectsAtFirst (w : World) : List Obj :=
  let (standard, own) := (w.objectsFrom 0).partition (·.id < w.atStart)
  standard ++ own.drop youngLimit ++ own.take youngLimit

/-- Finalize an object that is garbage, unless that was done. -/
def finalizeGarbage (o : Obj) : Exec Unit := do
  let w ← get
  let c := w.cell o
  match if c.finalized then none else w.member? c.cls "__del__" with
  | none => pure ()
  | some finalizer => do
    incref o
    let results ← runFinalizer o finalizer
    releaseList (results ++ [o])

/-- Let go of garbage: what it refers to outside of itself loses those references. -/
def discard (garbage : List Obj) : Exec Unit := do
  let w ← get
  let isGarbage := garbage.foldl (fun (marks : Array Bool) o => marks.setIfInBounds o.id true)
    (Array.replicate w.heap.size false)
  let kept := garbage.flatMap fun o =>
    (w.cell o).references.filter fun p => !isGarbage.getD p.id false
  garbage.forM fun o => editCell o fun c =>
    { c with refs := 0, payload := .plain, attrs := [], space := none, kept := [] }
  releaseList kept

/-- What is known after a collection: the objects that were in use, in their order, and the number
of objects that there had been till then. -/
structure Collected where
  order : List Obj
  made : Nat

/-- Collect the garbage among objects in order. -/
def collectAmong (objects : List Obj) : Exec Collected := do
  let w ← get
  let (order, garbage) := w.sift objects
  garbage.forM finalizeGarbage
  discard garbage
  pure ⟨order, w.heap.size⟩

/-- Collect garbage for the first time. -/
def collectFirst : Exec Collected := do
  collectAmong (← get).objectsAtFirst

/-- Collect garbage once more. -/
def collectAgain (before : Collected) : Exec Collected := do
  let w ← get
  let older := before.order.filter fun o => (w.cell o).isCounted
  collectAmong (older ++ w.objectsFrom before.made)

end Embedder.Machine
