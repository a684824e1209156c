import Embedder.Machine.Iteration

/-!
# Sorting

An array is sorted by comparisons alone. It is cut into runs that rise, or fall and are turned
around; a short run is filled up by putting the next items in their places. Neighbouring runs are
merged in the order of a nearly balanced tree: the power of a boundary says how deep it lies in the
tree. A merge gallops, that is it searches ahead in growing steps, while one side wins again and
again. Equal items keep their order; and where the comparisons do not agree with each other, the
order that comes out is still determined by them.
-/

namespace Embedder.Machine

namespace Sorting

variable {m : Type → Type} [Monad m] {α : Type}

/-- The number of wins in a row after which a merge starts to gallop. -/
def gallopStart : Nat := 7

/-! ## Places -/

/-- The first place from `lo` up to `hi` whose item does not come `before`, by halving. -/
def halve (before : α → m Bool) (a : Array α) : (fuel lo hi : Nat) → m Nat
  | 0, lo, _ => pure lo
  | fuel + 1, lo, hi =>
    if lo < hi then do
      let i := lo + (hi - lo) / 2
      match a[i]? with
      | none => pure lo
      | some x =>
        if ← before x then halve before a fuel (i + 1) hi else halve before a fuel lo i
    else pure hi

/-- Steps of growing size away from a place, while the items there answer `go`: the last step that
did and the first that did not, or that left the array. -/
def stride (ask : α → m Bool) (go : Bool) (item : Nat → Option α) (limit : Nat) :
    (fuel last step : Nat) → m (Nat × Nat)
  | 0, last, step => pure (last, min step limit)
  | fuel + 1, last, step =>
    if step < limit then
      match item step with
      | none => pure (last, limit)
      | some x => do
        if (← ask x) = go then stride ask go item limit fuel step (2 * step + 1)
        else pure (last, step)
    else pure (last, limit)

/-- The first place whose item does not come `before`, searched for from a place on. -/
def gallop (before : α → m Bool) (a : Array α) (hint : Nat) : m Nat := do
  match a[hint]? with
  | none => pure 0
  | some x =>
    if ← before x then do
      let (last, step) ←
        stride before true (fun i => a[hint + i]?) (a.size - hint) a.size 0 1
      halve before a (a.size + 1) (hint + last + 1) (hint + step)
    else do
      let (last, step) ← stride before false (fun i => a[hint - i]?) (hint + 1) a.size 0 1
      halve before a (a.size + 1) (hint + 1 - step) (hint - last)

/-! ## Runs -/

/-- The length of the run that starts with `x`; it falls strictly or never falls. -/
def runLength (less : α → α → m Bool) (falls : Bool) (x : α) : List α → m Nat
  | [] => pure 1
  | y :: rest => do
    if (← less y x) = falls then do
      let n ← runLength less falls y rest
      pure (n + 1)
    else pure 1

/-- The run at the front of a list, turned around if it falls, and what follows. -/
def firstRun (less : α → α → m Bool) : List α → m (List α × List α)
  | x :: y :: rest => do
    let falls ← less y x
    let n ← runLength less falls y rest
    let run := (x :: y :: rest).take (n + 1)
    pure (if falls then run.reverse else run, rest.drop (n - 1))
  | items => pure (items, [])

/-- Put items in their places in a sorted array. -/
def insertAll (less : α → α → m Bool) (sorted : Array α) : List α → m (Array α)
  | [] => pure sorted
  | x :: rest => do
    let after (y : α) : m Bool := do pure (!(← less x y))
    let i ← halve after sorted (sorted.size + 1) 0 sorted.size
    insertAll less (sorted.extract 0 i ++ #[x] ++ sorted.extract i sorted.size) rest

/-- The least length of a run in an array of a length: 32 to 64, so that the number of runs is a
power of two or a little less. -/
def leastRun (n : Nat) : Nat :=
  let rec go : (fuel n odd : Nat) → Nat
    | 0, n, odd => n + odd
    | fuel + 1, n, odd => if n < 64 then n + odd else go fuel (n / 2) (max odd (n % 2))
  go n n 0

/-- The power of the boundary between two neighbouring runs in an array of `n` items: the first
binary digit in which the places of their middles, as fractions of the whole, differ. -/
def boundaryPower (start n₁ n₂ n : Nat) : Nat :=
  let rec go : (fuel a b power : Nat) → Nat
    | 0, _, _, power => power
    | fuel + 1, a, b, power =>
      if n ≤ a then go fuel (2 * (a - n)) (2 * (b - n)) (power + 1)
      else if n ≤ b then power
      else go fuel (2 * a) (2 * b) (power + 1)
  go 128 (2 * start + n₁) (2 * start + 2 * n₁ + n₂) 1

/-! ## Merging

Two neighbouring runs are merged from the front or from the end. What remains of them is kept with
the end first at which the merge works, so that the same steps serve both directions. -/

/-- What remains of the left and of the right run, what has been put out, the last first, and the
number of wins after which the merge gallops. -/
structure Merge (α : Type) where
  left : List α
  right : List α
  out : List α
  gallopAfter : Nat

/-- A direction of merging. -/
structure Direction (m : Type → Type) (α : Type) where
  /-- Whether the right item is put out before the left one. -/
  rightFirst : α → α → m Bool
  /-- How many items of the left run are put out before an item of the right one. -/
  leftBefore : α → List α → m Nat
  /-- How many items of the right run are put out before an item of the left one. -/
  rightBefore : α → List α → m Nat
  /-- Whether the last item of the left run is known to be put out last; else that of the right run
  is. -/
  keepsLeft : Bool

variable (d : Direction m α)

/-- Whether a merge is decided: a side is empty, or the side that keeps its last item is down to
it. -/
def Merge.isDecided (s : Merge α) : Bool :=
  match s.left, s.right with
  | [], _ | _, [] | [_], [_] => true
  | [_], _ => d.keepsLeft
  | _, [_] => !d.keepsLeft
  | _, _ => false

/-- Items in front of others in reverse, as they are put out one by one. -/
def putOut (items out : List α) : List α := items.reverseAux out

/-- Take from both sides item by item, until the merge is decided or a side has won often enough in
a row. -/
def Merge.plain : (fuel wonLeft wonRight : Nat) → Merge α → m (Merge α)
  | 0, _, _, s => pure s
  | fuel + 1, wonLeft, wonRight, s =>
    match s.left, s.right with
    | x :: xs, y :: ys => do
      if ← d.rightFirst x y then
        let s := { s with right := ys, out := y :: s.out }
        if s.isDecided d ∨ s.gallopAfter ≤ wonRight + 1 then pure s
        else Merge.plain fuel 0 (wonRight + 1) s
      else
        let s := { s with left := xs, out := x :: s.out }
        if s.isDecided d ∨ s.gallopAfter ≤ wonLeft + 1 then pure s
        else Merge.plain fuel (wonLeft + 1) 0 s
    | _, _ => pure s

/-- Take from one side all that goes before the next item of the other side, and then that item, in
turns, as long as that takes many items at once. -/
def Merge.galloping : (fuel : Nat) → Merge α → m (Merge α)
  | 0, s => pure s
  | fuel + 1, s => do
    let s := { s with gallopAfter := s.gallopAfter - (if 1 < s.gallopAfter then 1 else 0) }
    match s.right with
    | [] => pure s
    | y :: ys => do
      let i ← d.leftBefore y s.left
      let s := { s with left := s.left.drop i, out := putOut (s.left.take i) s.out }
      if 0 < i ∧ s.isDecided d then pure s
      else
        let s := { s with right := ys, out := y :: s.out }
        if s.isDecided d then pure s
        else
          match s.left with
          | [] => pure s
          | x :: xs => do
            let j ← d.rightBefore x s.right
            let s := { s with right := s.right.drop j, out := putOut (s.right.take j) s.out }
            if 0 < j ∧ s.isDecided d then pure s
            else
              let s := { s with left := xs, out := x :: s.out }
              if s.isDecided d then pure s
              else if gallopStart ≤ i ∨ gallopStart ≤ j then Merge.galloping fuel s
              else pure { s with gallopAfter := s.gallopAfter + 1 }

/-- Merge until it is decided. -/
def Merge.run : (fuel : Nat) → Merge α → m (Merge α)
  | 0, s => pure s
  | fuel + 1, s =>
    if s.isDecided d then pure s
    else do
      let n := s.left.length + s.right.length
      let s ← s.plain d (n + 1) 0 0
      if s.isDecided d then pure s
      else do
        let s ← Merge.galloping d (n + 1) { s with gallopAfter := s.gallopAfter + 1 }
        Merge.run fuel s

/-- All that a decided merge puts out, in order. -/
def Merge.result (s : Merge α) : List α :=
  let rest := if d.keepsLeft ∧ s.left.length = 1 then s.right ++ s.left else s.left ++ s.right
  s.out.reverse ++ rest

/-- Merging from the front. -/
def forward (less : α → α → m Bool) : Direction m α where
  rightFirst x y := less y x
  leftBefore y xs := gallop (fun x => do pure (!(← less y x))) xs.toArray 0
  rightBefore x ys := gallop (fun y => less y x) ys.toArray 0
  keepsLeft := true

/-- Merging from the end. -/
def backward (less : α → α → m Bool) : Direction m α where
  rightFirst x y := do pure (!(← less y x))
  leftBefore y xs := do
    let i ← gallop (fun x => do pure (!(← less y x))) xs.reverse.toArray (xs.length - 1)
    pure (xs.length - i)
  rightBefore x ys := do
    let i ← gallop (fun y => less y x) ys.reverse.toArray (ys.length - 1)
    pure (ys.length - i)
  keepsLeft := false

/-- Merge two runs of which the first items of the left one and the last items of the right one are
not in their places yet. -/
def mergeOverlap (less : α → α → m Bool) (left right : List α) (gallopAfter : Nat) :
    m (List α × Nat) := do
  let fuel := left.length + right.length
  if left.length ≤ right.length then do
    let d := forward less
    let s ← Merge.run d fuel ⟨left, right.drop 1, right.take 1, gallopAfter⟩
    pure (s.result d, s.gallopAfter)
  else do
    let d := backward less
    let left := left.reverse
    let s ← Merge.run d fuel ⟨left.drop 1, right.reverse, left.take 1, gallopAfter⟩
    pure ((s.result d).reverse, s.gallopAfter)

/-- Merge two neighbouring runs. What is in its place already, at the front of the left run and at
the end of the right one, stays there. -/
def mergeRuns (less : α → α → m Bool) (left right : List α) (gallopAfter : Nat) :
    m (List α × Nat) := do
  match right with
  | [] => pure (left, gallopAfter)
  | y :: _ => do
    let i ← gallop (fun x => do pure (!(← less y x))) left.toArray 0
    let rest := left.drop i
    match rest.getLast? with
    | none => pure (left ++ right, gallopAfter)
    | some x => do
      let j ← gallop (fun z => less z x) right.toArray (right.length - 1)
      if j = 0 then pure (left ++ right, gallopAfter)
      else do
        let (merged, gallopAfter) ← mergeOverlap less rest (right.take j) gallopAfter
        pure (left.take i ++ merged ++ right.drop j, gallopAfter)

/-! ## The whole -/

/-- A run that waits to be merged: where it starts, its items, and the power of the boundary after
it. -/
structure Run (α : Type) where
  start : Nat
  items : List α
  power : Nat

/-- The runs that wait to be merged, the last first. -/
structure Waiting (α : Type) where
  runs : List (Run α)
  gallopAfter : Nat

/-- Merge a run with the one after it. -/
def Run.join (less : α → α → m Bool) (left right : Run α) (gallopAfter : Nat) :
    m (Run α × Nat) := do
  let (items, gallopAfter) ← mergeRuns less left.items right.items gallopAfter
  pure (⟨left.start, items, right.power⟩, gallopAfter)

/-- Merge the last runs as long as the boundary between them has more than a power. -/
def Waiting.collapse (less : α → α → m Bool) (power : Nat) : (fuel : Nat) → Waiting α →
    m (Waiting α)
  | 0, w => pure w
  | fuel + 1, w =>
    match w.runs with
    | right :: left :: rest =>
      if power < left.power then do
        let (run, gallopAfter) ← left.join less right w.gallopAfter
        Waiting.collapse less power fuel ⟨run :: rest, gallopAfter⟩
      else pure w
    | _ => pure w

/-- Let a new run wait in an array of `n` items. -/
def Waiting.push (less : α → α → m Bool) (n start : Nat) (items : List α) (w : Waiting α) :
    m (Waiting α) := do
  match w.runs with
  | [] => pure { w with runs := [⟨start, items, 0⟩] }
  | last :: _ => do
    let power := boundaryPower last.start last.items.length items.length n
    let w ← Waiting.collapse less power w.runs.length w
    match w.runs with
    | last :: rest =>
      pure { w with runs := ⟨start, items, 0⟩ :: { last with power := power } :: rest }
    | [] => pure { w with runs := [⟨start, items, 0⟩] }

/-- Merge all runs, the last ones first, unless the one before them is shorter than the last. -/
def Waiting.finish (less : α → α → m Bool) : (fuel : Nat) → Waiting α → m (List α)
  | 0, w => pure (w.runs.reverse.flatMap Run.items)
  | fuel + 1, w =>
    match w.runs with
    | last :: right :: left :: rest =>
      if left.items.length < last.items.length then do
        let (run, gallopAfter) ← left.join less right w.gallopAfter
        Waiting.finish less fuel ⟨last :: run :: rest, gallopAfter⟩
      else do
        let (run, gallopAfter) ← right.join less last w.gallopAfter
        Waiting.finish less fuel ⟨run :: left :: rest, gallopAfter⟩
    | [right, left] => do
      let (run, gallopAfter) ← left.join less right w.gallopAfter
      Waiting.finish less fuel ⟨[run], gallopAfter⟩
    | [run] => pure run.items
    | [] => pure []

/-- Cut an array into runs of some least length and let them wait. -/
def cut (less : α → α → m Bool) (n least : Nat) : (fuel start : Nat) → List α → Waiting α →
    m (Waiting α)
  | 0, _, _, w => pure w
  | fuel + 1, start, items, w =>
    if items.isEmpty then pure w
    else do
      let (run, rest) ← firstRun less items
      let missing := least - run.length
      let run ← insertAll less run.toArray (rest.take missing)
      let w ← w.push less n start run.toList
      cut less n least fuel (start + run.size) (rest.drop missing) w

/-- The items in order. -/
def sort (less : α → α → m Bool) (items : List α) : m (List α) := do
  if items.length < 2 then pure items
  else do
    let n := items.length
    let w ← cut less n (leastRun n) n 0 items ⟨[], gallopStart⟩
    w.finish less w.runs.length

end Sorting

/-- Whether all objects are of one class. -/
def ofOneClass : List Obj → Exec Bool
  | [] => pure true
  | o :: rest => do
    let c ← classOf o
    let cs ← rest.mapM classOf
    pure (cs.all (· = c))

/-- Whether an object comes before another. Objects of one class are asked directly first. -/
def comesBefore (direct : Bool) (a b : Obj) : Exec Bool := do
  let general : Exec Bool := do truthOf (← innerCompare .lt a b)
  if direct then
    match ← ask .lt a b with
    | some r => truthOf r
    | none => general
  else general

/-- Objects in order. -/
def sortObjs (items : List Obj) : Exec (List Obj) := do
  let direct ← ofOneClass items
  Sorting.sort (comesBefore direct) items

end Embedder.Machine
