import Embedder.Scalar
import Embedder.Walk

/-!
# Lists across the boundary

Data is copied: `Sequence.toList` makes a fresh Python list of host values, and `Sequence.fromList`
reads exactly as many elements as the object says it has.
-/

namespace Embedder.Sequence

open Exception

variable {σ α β : Type} (G : Guest σ)

/-- Convert values and place them in a list from `index` on. -/
def fill (E : Encoder σ α) (list : Handle) : Nat → List α → Attempt σ Failure Unit
  | _, [] => pure ()
  | index, a :: as => do
    let item ← (E.encode a).mapError fun c => .marshal (.notConvertible index E.kind c)
    (list.setListItem G (UInt64.ofNat index) item).mapError fun c => .marshal (.notPlaced index c)
    fill E list (index + 1) as

/-- A new list with a copy of some values. On failure nothing of it is left. -/
def toList (E : Encoder σ α) (values : List α) : Attempt σ Failure Handle := do
  let n := values.length
  let list ← (Handle.newList G (UInt64.ofNat n)).mapError fun c => .marshal (.notAllocated n c)
  ExceptT.mk do
    match ← (fill G E list 0 values).run with
    | .ok () => pure (.ok list)
    | .error e => do
      list.drop G
      pure (.error e)

/-- Read `count` more elements, the first of which has the given index, of `expected` in all. -/
def readItems (D : Decoder σ β) (expected : Nat) :
    (count index : Nat) → Walk → Bridge σ (Except Failure (List β) × Walk)
  | 0, _, w => pure (.ok [], w)
  | count + 1, index, w => do
    match ← w.step G with
    | (.finished, w) => pure (.error (.marshal (.endedEarly expected index)), w)
    | (.failed r, w) => pure (.error (.raised r), w)
    | (.item h, w) => do
      match ← h.owning G (D.decode h).run with
      | .error c => pure (.error (.marshal (.notConvertible index D.kind c)), w)
      | .ok b => do
        let (rest, w) ← readItems D expected count (index + 1) w
        pure (rest.map (b :: ·), w)

/-- The elements of a sized sequence. -/
def fromList (D : Decoder σ β) (seq : Handle) : Attempt σ Failure (List β) := do
  let expected ← (seq.length G).mapError fun c => .marshal (.notASequence c)
  let walk ← (Walk.start G seq).mapError fun c => .marshal (.notASequence c)
  ExceptT.mk do
    let (result, walk) ← readItems G D expected expected 0 walk
    walk.drop G
    pure result

end Embedder.Sequence
