import Embedder.Text.Quoted

/-!
# Log records

The bridge reports what it does as records: a level, a fixed message and fields. A host without a
log of its own installs one with a level; each record at least that severe becomes one line.
-/

namespace Embedder.Log

/-- How much a record matters, the most severe first. -/
inductive Level where
  | error
  | warn
  | info
  | debug
  | trace
  deriving DecidableEq, Repr

namespace Level

/-- The name of a level. -/
def name : Level → String
  | .error => "ERROR"
  | .warn => "WARN"
  | .info => "INFO"
  | .debug => "DEBUG"
  | .trace => "TRACE"

/-- How far down the scale a level stands. -/
def rank : Level → Nat
  | .error => 0
  | .warn => 1
  | .info => 2
  | .debug => 3
  | .trace => 4

/-- Whether a log set to `filter` shows records of level `l`. -/
def shownAt (l filter : Level) : Bool := l.rank ≤ filter.rank

/-- The level for a verbosity number: zero and below warn, then one step for each unit. -/
def ofVerbosity (n : Int) : Level :=
  if n ≤ 0 then .warn else if n = 1 then .info else if n = 2 then .debug else .trace

end Level

/-- A field of a record. -/
inductive Field where
  /-- A text, quoted. -/
  | quoted (name value : String)
  /-- A text as it stands. -/
  | plain (name value : String)
  /-- A text without a name, cleared of terminal controls. -/
  | bare (value : String)
  | count (name : String) (value : Nat)
  deriving DecidableEq, Repr

/-- A character of a bare text: controls that a terminal obeys are written as escapes. -/
def sanitizedChar (c : Char) : List Char :=
  if c = '\x1b' ∨ c = '\x07' ∨ c = '\x08' ∨ c = '\x0c' ∨ c = '\x7f' then
    let digits := Text.hexDigits c.toNat
    ['\\', 'x'] ++ (if digits.length < 2 then '0' :: digits else digits)
  else if 0x80 ≤ c.toNat ∧ c.toNat ≤ 0x9f then
    ['\\', 'u', '\x7b'] ++ Text.hexDigits c.toNat ++ ['\x7d']
  else [c]

/-- The text of a field, with the blank before it. -/
def Field.text : Field → String
  | .quoted n v => " " ++ n ++ "=" ++ Text.quoted v
  | .plain n v => " " ++ n ++ "=" ++ v
  | .bare v => " " ++ String.ofList (v.toList.flatMap sanitizedChar)
  | .count n v => s!" {n}={v}"

/-- One report of the bridge. -/
structure Record where
  level : Level
  message : String
  fields : List Field
  deriving DecidableEq, Repr

/-- The line of a record: the level right-aligned to five places, the message, the fields. -/
def Record.line (r : Record) : String :=
  let name := r.level.name
  String.ofList (List.replicate (5 - name.length) ' ') ++ name ++ " " ++ r.message ++
    String.join (r.fields.map Field.text) ++ "\n"

/-- The records at least as severe as the installed level, if one is installed. -/
def shown (filter : Option Level) (records : List Record) : List Record :=
  match filter with
  | none => []
  | some l => records.filter (·.level.shownAt l)

end Embedder.Log
