import Embedder.Config
import Embedder.Failure
import Embedder.Json.Reader
import Embedder.Json.Printer

/-!
# Configuration as JSON

A configuration is an object whose members are its fields, or the list of its fields in order. What
is missing keeps its default; members with other names are passed over. `Config.ofJson?` says what
is wrong with a text that is none, and where.
-/

namespace Embedder.Config

open Json

/-! ## Writing -/

/-- A search path that is no text cannot be written. -/
def notTextMessage : String := "path contains invalid UTF-8 characters"

/-- The JSON text of a configuration whose search paths are all text. -/
def toJson? (c : Config) : Option String :=
  (c.searchPaths.mapM SearchPath.text?).map fun paths =>
    String.ofList (writtenObject [
      writtenMember "search_paths" (writtenList (paths.map writtenString)),
      writtenMember "print_tracebacks" (writtenBool c.printTracebacks),
      writtenMember "install_signal_handlers" (writtenBool c.installSignalHandlers),
      writtenMember "allow_reinitialize" (writtenBool c.allowRestart),
      writtenMember "global_libpython" (writtenBool c.globalLibrary)])

/-! ## Reading -/

/-- The fault of a value that is not of the wanted kind, at its first character. The value is read
as far as it takes to say what it is. -/
def mismatch (expected : String) (s : List Char) : Located :=
  match s with
  | [] => Fault.expectedValue.on []
  | c :: r =>
    let wrong (found : Found) (rest : List Char) : Located :=
      (Fault.wrongType found expected).before rest
    let word (w : List Char) (found : Found) : Located :=
      match readWord w r with
      | .ok x => wrong found x.rest
      | .error e => e
    let number (negative : Bool) (s : List Char) : Located :=
      match readNumber negative s with
      | .ok (n, rest) => wrong n.found rest
      | .error e => e
    if c = 'n' then word ['u', 'l', 'l'] .null
    else if c = 't' then word ['r', 'u', 'e'] (.boolean true)
    else if c = 'f' then word ['a', 'l', 's', 'e'] (.boolean false)
    else if c = '-' then number true r
    else if isDigit c then number false s
    else if c = '"' then
      match readString r with
      | .ok x => wrong (.string (String.ofList x.value)) x.rest
      | .error e => e
    else if c = '[' then wrong .list s
    else if c = '\x7b' then wrong .object s
    else Fault.expectedValue.on s

/-- Reads a truth value. -/
def readBool (s : List Char) : Reading Bool s :=
  match h : skipSpace s with
  | [] => .error (Fault.endInValue.on [])
  | c :: r =>
    have hr := length_le_of_skipSpace h
    if c = 't' then ((readWord ['r', 'u', 'e'] r).map fun _ => true).widen hr
    else if c = 'f' then ((readWord ['a', 'l', 's', 'e'] r).map fun _ => false).widen hr
    else .error (mismatch "a boolean" (c :: r))

/-- Reads a search path. -/
def readPath (s : List Char) : Reading SearchPath s :=
  match h : skipSpace s with
  | [] => .error (Fault.endInValue.on [])
  | c :: r =>
    if c = '"' then
      ((readString r).map fun cs => SearchPath.ofText (String.ofList cs)).widen
        (length_le_of_skipSpace h)
    else .error (mismatch "path string" (c :: r))

/-- Reads search paths up to the bracket that closes their list. -/
def readPathsFrom (s : List Char) : Reading (List SearchPath) s :=
  (readPath s).andThen fun p =>
    match h : skipSpace p.rest with
    | [] => .error (Fault.endInList.on [])
    | c :: r =>
      have hr := length_lt_of_skipSpace h
      if c = ']' then .ok ⟨[p.value], r, Nat.le_of_lt hr⟩
      else if c = ',' then
        match skipSpace r with
        | [] => .error (Fault.endInValue.on [])
        | d :: r' =>
          if d = ']' then .error (Fault.trailingComma.on (d :: r'))
          else ((readPathsFrom r).map (p.value :: ·)).widen (Nat.le_of_lt hr)
      else .error (Fault.expectedListCommaOrEnd.on (c :: r))
termination_by s.length
decreasing_by have := p.length_le; omega

/-- Reads a list of search paths. -/
def readPaths (s : List Char) : Reading (List SearchPath) s :=
  match h : skipSpace s with
  | [] => .error (Fault.endInValue.on [])
  | c :: r =>
    have hr := length_le_of_skipSpace h
    if c = '[' then
      match h' : skipSpace r with
      | [] => .error (Fault.endInList.on [])
      | d :: r' =>
        if d = ']' then
          .ok ⟨[], r', Nat.le_trans (length_le_of_skipSpace h') hr⟩
        else (readPathsFrom r).widen hr
    else .error (mismatch "a sequence" (c :: r))

/-- The fields of a configuration, in their order. -/
inductive Field where
  | searchPaths
  | printTracebacks
  | installSignalHandlers
  | allowRestart
  | globalLibrary
  deriving DecidableEq, Repr

/-- The name of a field. -/
def Field.name : Field → String
  | .searchPaths => "search_paths"
  | .printTracebacks => "print_tracebacks"
  | .installSignalHandlers => "install_signal_handlers"
  | .allowRestart => "allow_reinitialize"
  | .globalLibrary => "global_libpython"

/-- All fields in order. -/
def Field.all : List Field :=
  [.searchPaths, .printTracebacks, .installSignalHandlers, .allowRestart, .globalLibrary]

/-- The field with a name. -/
def Field.ofName? (name : String) : Option Field := Field.all.find? (·.name = name)

/-- The fields read so far. -/
structure Fields where
  searchPaths : Option (List SearchPath)
  printTracebacks : Option Bool
  installSignalHandlers : Option Bool
  allowRestart : Option Bool
  globalLibrary : Option Bool
  deriving DecidableEq, Repr

namespace Fields

/-- No field was read. -/
def none : Fields := ⟨.none, .none, .none, .none, .none⟩

/-- Whether a field was read. -/
def has (fs : Fields) : Field → Bool
  | .searchPaths => fs.searchPaths.isSome
  | .printTracebacks => fs.printTracebacks.isSome
  | .installSignalHandlers => fs.installSignalHandlers.isSome
  | .allowRestart => fs.allowRestart.isSome
  | .globalLibrary => fs.globalLibrary.isSome

/-- The configuration in which the fields that were not read have their defaults. -/
def config (fs : Fields) : Config where
  searchPaths := fs.searchPaths.getD default.searchPaths
  printTracebacks := fs.printTracebacks.getD default.printTracebacks
  installSignalHandlers := fs.installSignalHandlers.getD default.installSignalHandlers
  allowRestart := fs.allowRestart.getD default.allowRestart
  globalLibrary := fs.globalLibrary.getD default.globalLibrary

end Fields

/-- Reads the value of a field. -/
def readField (f : Field) (fs : Fields) (s : List Char) : Reading Fields s :=
  match f with
  | .searchPaths => (readPaths s).map fun v => { fs with searchPaths := some v }
  | .printTracebacks => (readBool s).map fun v => { fs with printTracebacks := some v }
  | .installSignalHandlers => (readBool s).map fun v => { fs with installSignalHandlers := some v }
  | .allowRestart => (readBool s).map fun v => { fs with allowRestart := some v }
  | .globalLibrary => (readBool s).map fun v => { fs with globalLibrary := some v }

/-- Reads the closing bracket of a list. -/
def readListEnd (s : List Char) : Reading Unit s :=
  match h : skipSpace s with
  | [] => .error (Fault.endInList.on [])
  | c :: r =>
    if c = ']' then .ok ⟨(), r, length_le_of_skipSpace h⟩
    else if c = ',' then
      match skipSpace r with
      | ']' :: r' => .error (Fault.trailingComma.on (']' :: r'))
      | r' => .error (Fault.trailingCharacters.on r')
    else .error (Fault.trailingCharacters.on (c :: r))

/-- Reads the values of some fields in order, up to the bracket that closes their list. The list
may end after any of them. -/
def readInOrder : List Field → Fields → (s : List Char) → Reading Fields s
  | [], fs, s => (readListEnd s).map fun _ => fs
  | f :: more, fs, s =>
    (readField f fs s).andThen fun v =>
      if more.isEmpty then (readListEnd v.rest).map fun _ => v.value
      else
        match h : skipSpace v.rest with
        | [] => .error (Fault.endInList.on [])
        | c :: r =>
          have hr := length_le_of_skipSpace h
          if c = ']' then .ok ⟨v.value, r, hr⟩
          else if c = ',' then
            match skipSpace r with
            | [] => .error (Fault.endInValue.on [])
            | d :: r' =>
              if d = ']' then .error (Fault.trailingComma.on (d :: r'))
              else (readInOrder more v.value r).widen hr
          else .error (Fault.expectedListCommaOrEnd.on (c :: r))

/-- The fault of a field that occurs twice. What closes the object right after the second key is
passed over first. -/
def duplicate (f : Field) (s : List Char) : Located :=
  match skipSpace s with
  | '\x7d' :: r => (Fault.duplicateField f.name).before r
  | r => (Fault.duplicateField f.name).before r

/-- Reads the rest of a member, after its key. -/
def readMember (key : String) (fs : Fields) (s : List Char) : Reading Fields s :=
  match Field.ofName? key with
  | some f =>
    if fs.has f then .error (duplicate f s)
    else (readColon s).andThen fun c => readField f fs c.rest
  | none => (readColon s).andThen fun c => (skipValue [] c.rest).map fun _ => fs

/-- Reads members, the first after the quote that opens its key, up to the bracket that closes
their object. -/
def readMembers (fs : Fields) (s : List Char) : Reading Fields s :=
  (readString s).andThen fun k =>
    (readMember (String.ofList k.value) fs k.rest).andThen fun v =>
      match h : skipSpace v.rest with
      | [] => .error (Fault.endInObject.on [])
      | c :: r =>
        have hr := length_lt_of_skipSpace h
        if c = '\x7d' then .ok ⟨v.value, r, Nat.le_of_lt hr⟩
        else if c = ',' then
          match h' : skipSpace r with
          | [] => .error (Fault.endInValue.on [])
          | d :: r' =>
            have hr' := length_lt_of_skipSpace h'
            if d = '"' then (readMembers v.value r').widen (by omega)
            else if d = '\x7d' then .error (Fault.trailingComma.on (d :: r'))
            else .error (Fault.keyMustBeString.on (d :: r'))
        else .error (Fault.expectedObjectCommaOrEnd.on (c :: r))
termination_by s.length
decreasing_by have := k.length_le; have := v.length_le; omega

/-- Reads a configuration, as an object or as a list. -/
def readConfig (s : List Char) : Reading Fields s :=
  match h : skipSpace s with
  | [] => .error (Fault.endInValue.on [])
  | c :: r =>
    have hr := length_le_of_skipSpace h
    if c = '[' then
      match h' : skipSpace r with
      | [] => .error (Fault.endInList.on [])
      | d :: r' =>
        if d = ']' then
          .ok ⟨Fields.none, r', Nat.le_trans (length_le_of_skipSpace h') hr⟩
        else (readInOrder Field.all Fields.none r).widen hr
    else if c = '\x7b' then
      match h' : skipSpace r with
      | [] => .error (Fault.endInObject.on [])
      | d :: r' =>
        have hr' := Nat.le_trans (length_le_of_skipSpace h') hr
        if d = '\x7d' then .ok ⟨Fields.none, r', hr'⟩
        else if d = '"' then (readMembers Fields.none r').widen hr'
        else .error (Fault.keyMustBeString.on (d :: r'))
    else .error (mismatch "struct BridgeConfig" (c :: r))

/-- Reads a text that holds one configuration and nothing else. -/
def readAll (s : List Char) : Except Located Config :=
  match readConfig s with
  | .error e => .error e
  | .ok r =>
    match skipSpace r.rest with
    | [] => .ok r.value.config
    | rest => .error (Fault.trailingCharacters.on rest)

/-- The configuration that a JSON text describes. -/
def ofJson? (text : String) : Except Failure Config :=
  match readAll text.toList with
  | .ok c => .ok c
  | .error e => .error (.invalidArgument ("bridge config: " ++ e.message text.toList))

end Embedder.Config
