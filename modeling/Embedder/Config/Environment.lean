import Embedder.Config
import Embedder.Text.Blank

/-!
# Configuration from environment variables

One variable holds search paths between colons, two hold switches. A switch that is not UTF-8 or
has no known spelling counts as unset.
-/

namespace Embedder

/-- The values of the three variables, where they are set. -/
structure Environment where
  searchPath : Option (List UInt8)
  printTracebacks : Option (List UInt8)
  allowRestart : Option (List UInt8)
  deriving DecidableEq, Repr

namespace Environment

/-- The byte between search paths. -/
def separator : UInt8 := 0x3a

/-- The segments of a byte string between separators: one more than there are separators. -/
def segments : List UInt8 → List (List UInt8)
  | [] => [[]]
  | b :: bs =>
    if b = separator then [] :: segments bs
    else
      match segments bs with
      | [] => [[b]]
      | s :: ss => (b :: s) :: ss

/-- The paths in a variable: its segments that are not empty. -/
def paths (value : List UInt8) : List SearchPath :=
  ((segments value).filter (fun s => !s.isEmpty)).map SearchPath.mk

/-- A character with the ASCII capitals made small. -/
def lowerAscii (c : Char) : Char :=
  if 'A' ≤ c ∧ c ≤ 'Z' then Char.ofNat (c.toNat + 32) else c

/-- The switch that a text spells. -/
def flagOfText? (s : String) : Option Bool :=
  let word := String.ofList ((Text.trimBlank s.toList).map lowerAscii)
  if word ∈ ["1", "true", "yes", "on"] then some true
  else if word ∈ ["0", "false", "no", "off", ""] then some false
  else none

/-- The switch that a variable sets. -/
def flag? (value : Option (List UInt8)) : Option Bool :=
  value.bind fun bytes => (Utf8.text? bytes).bind flagOfText?

end Environment

/-- The default configuration, overridden by the variables that are set. -/
def Config.ofEnvironment (e : Environment) : Config :=
  { Config.default with
    searchPaths := (e.searchPath.map Environment.paths).getD []
    printTracebacks := (Environment.flag? e.printTracebacks).getD false
    allowRestart := (Environment.flag? e.allowRestart).getD false }

end Embedder
