import Embedder.Text.Utf8

/-!
# Configuration of the bridge

What `start` is told: the directories to add to the module search path and four switches. A
`SearchPath` is a string of bytes, as the operating system has it, which is text only if it is
UTF-8.
-/

namespace Embedder

/-- A path, as bytes. -/
structure SearchPath where
  bytes : List UInt8
  deriving DecidableEq, Repr

namespace SearchPath

/-- The path with the given text. -/
def ofText (s : String) : SearchPath := ⟨Utf8.bytes s⟩

/-- The text of a path that is UTF-8. -/
def text? (p : SearchPath) : Option String := Utf8.text? p.bytes

/-- The text of any path, with faults replaced. -/
def display (p : SearchPath) : String := Utf8.lossy p.bytes

@[simp] theorem text?_ofText (s : String) : (ofText s).text? = some s := Utf8.text?_bytes s

end SearchPath

/-- The configuration of the bridge. -/
structure Config where
  /-- Directories appended to the module search path at the start. -/
  searchPaths : List SearchPath
  /-- Also print the exceptions that the host is told of. -/
  printTracebacks : Bool
  /-- Let the interpreter install its own interrupt handler. -/
  installSignalHandlers : Bool
  /-- Allow a start after a stop. -/
  allowRestart : Bool
  /-- Make the interpreter's library visible to extension modules. -/
  globalLibrary : Bool
  deriving DecidableEq, Repr

namespace Config

/-- No paths, and all switches off but the last. -/
def default : Config := ⟨[], false, false, false, true⟩

/-- The configuration with one more search path. -/
def withSearchPath (c : Config) (p : SearchPath) : Config :=
  { c with searchPaths := c.searchPaths ++ [p] }

def withPrintTracebacks (c : Config) (b : Bool) : Config := { c with printTracebacks := b }

def withRestart (c : Config) (b : Bool) : Config := { c with allowRestart := b }

/-- A change to a configuration under construction. -/
inductive Setting where
  | searchPath (p : SearchPath)
  | printTracebacks (b : Bool)
  | allowRestart (b : Bool)
  deriving DecidableEq, Repr

/-- Apply one change. -/
def apply (c : Config) : Setting → Config
  | .searchPath p => c.withSearchPath p
  | .printTracebacks b => c.withPrintTracebacks b
  | .allowRestart b => c.withRestart b

/-- The default configuration after some changes. -/
def build (settings : List Setting) : Config := settings.foldl apply default

end Config

end Embedder
