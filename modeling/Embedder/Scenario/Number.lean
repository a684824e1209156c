import Embedder.Scalar

/-!
# Numbers of a scenario

A scenario passes numbers of one kind at a time and asks for numbers of one kind. They cross the
boundary by the encoder and the decoder of that kind.
-/

namespace Embedder.Scenario

/-- A number of the host. -/
inductive Number where
  | float (d : Double)
  | int (n : Int64)
  | bool (b : Bool)
  deriving DecidableEq, Repr

/-- Numbers of one kind. -/
structure Numbers where
  kind : ElementKind
  values : List Number
  deriving DecidableEq, Repr

namespace Numbers

def ofFloats (ds : List Double) : Numbers := ⟨.float64, ds.map .float⟩

def ofInts (ns : List Int64) : Numbers := ⟨.int64, ns.map .int⟩

def ofBools (bs : List Bool) : Numbers := ⟨.bool, bs.map .bool⟩

end Numbers

variable {σ : Type} (G : Guest σ)

/-- A number as an object. -/
def Number.encode : Number → Attempt σ ExceptionReport Handle
  | .float d => (Scalar.encodeFloat G).encode d
  | .int n => (Scalar.encodeInt G).encode n
  | .bool b => (Scalar.encodeBool G).encode b

/-- The encoder for numbers of a kind. -/
def encoder (kind : ElementKind) : Encoder σ Number := ⟨kind, Number.encode G⟩

/-- The decoder for numbers of a kind. -/
def decoder : ElementKind → Decoder σ Number
  | .float64 => ⟨.float64, fun h => .float <$> (Scalar.decodeFloat G).decode h⟩
  | .int64 => ⟨.int64, fun h => .int <$> (Scalar.decodeInt G).decode h⟩
  | .bool => ⟨.bool, fun h => .bool <$> (Scalar.decodeBool G).decode h⟩

/-- The encoder of a host type of its own that refuses negative values. -/
def pickyEncoder : Encoder σ Double :=
  ⟨.float64, fun d =>
    if d.lt Double.zero then throw ⟨"ValueError", "negative", none⟩
    else (Scalar.encodeFloat G).encode d⟩

end Embedder.Scenario
