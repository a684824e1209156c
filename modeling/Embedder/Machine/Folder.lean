import Embedder.Machine.Library

/-!
# Folders with Python code

The part of the file system that imports can see: a tree of folders, some of them packages, with
files that become modules. A path names a folder by its parts; empty parts and dots are skipped, and
two dots go up from a folder that is there.
-/

namespace Embedder.Machine

/-- What a file of Python code does when it is run as a module. -/
inductive Source where
  /-- Makes some definitions. -/
  | defines (file : String) (definitions : List Definition)
  /-- Imports a module that is nowhere. -/
  | importsAbsent (file : String)
  /-- Raises an exception in its first line. -/
  | raises (file : String) (e : Expr)
  | malformed
  /-- Puts an object that is no module in its own place. -/
  | swapsObject
  /-- Puts another module in its own place. -/
  | swapsModule
  /-- Takes itself out of the module table. -/
  | vanishes
  /-- The interpreter's own formatter of tracebacks. -/
  | formatter
  deriving Repr

/-- Whether a file is there only in compiled form: code that is malformed, and that of the
interpreter itself, is there as text. -/
def Source.isCompiled : Source → Bool
  | .malformed | .formatter => false
  | _ => true

/-- How the name of a file ends. -/
def Source.suffix (s : Source) : String := if s.isCompiled then ".pyc" else ".py"

/-- A file that defines a function that gives a list of a number and the length of its argument. -/
def Source.counting (file : String) (first : Int) : Source :=
  .defines file [.function (countAfter file first)]

/-- A file that defines a function that gives fixed numbers. -/
def Source.constant (file name : String) (numbers : List Int) : Source :=
  .defines file [.function (constantFunction file name numbers)]

/-- A folder: what it does as a package, its files and the folders in it. -/
inductive Folder where
  | mk (package : Option Source) (files : List (String × Source)) (folders : List (String × Folder))

namespace Folder

def package : Folder → Option Source
  | mk p _ _ => p

def files : Folder → List (String × Source)
  | mk _ fs _ => fs

def folders : Folder → List (String × Folder)
  | mk _ _ ds => ds

/-- The folder at the end of some parts of a path below a folder, which stands in some others, the
nearest first. -/
def descend (f : Folder) (above : List Folder) : List String → Option Folder
  | [] => some f
  | part :: rest =>
    if part = "" ∨ part = "." then f.descend above rest
    else if part = ".." then
      match above with
      | [] => f.descend [] rest
      | g :: others => g.descend others rest
    else
      match f.folders.lookup part with
      | some g => g.descend (f :: above) rest
      | none => none

end Folder

/-- The folders that there are. -/
def fileSystem : Folder :=
  .mk none [] [
    ("@FIX", .mk none [] [
      ("lib", .mk none [
          ("outliers", .defines Outliers.file Outliers.definitions),
          ("raises", .raises "raises.py"
            (.apply "RuntimeError" (.text "import failed on purpose"))),
          ("exits", .raises "exits.py" (.apply "SystemExit" (.int 3))),
          ("syntax_bad", .malformed), ("swaps", .swapsObject), ("swaps_mod", .swapsModule),
          ("vanish", .vanishes)] [
        ("pkg", .mk (some (.counting "pkg/__init__.py" 10)) [
          ("__init__", .counting "pkg/__init__.py" 10),
          ("sub", .counting "pkg/sub.py" 11),
          ("broken", .importsAbsent "pkg/broken.py")] [])]),
      ("lib_b", .mk none [
        ("outliers", .constant "outliers.py" "detect" [-1]),
        ("only_b", .constant "only_b.py" "who" [2])] [])]),
    ("usr", .mk none [] [
      ("lib", .mk none [] [
        ("python3.11", .mk none [
          ("os", .defines "os.py" []), ("posixpath", .defines "posixpath.py" []),
          ("traceback", .formatter)] [
          ("lib-dynload", .mk none [] [])]),
        ("python3", .mk none [] [("dist-packages", .mk none [] [])])]),
      ("local", .mk none [] [
        ("lib", .mk none [] [
          ("python3.11", .mk none [] [("dist-packages", .mk none [] [])])])])])]

/-- The entries that the module search path starts with. -/
def standardPaths : List String :=
  ["/usr/lib/python311.zip", "/usr/lib/python3.11", "/usr/lib/python3.11/lib-dynload",
    "/usr/local/lib/python3.11/dist-packages", "/usr/lib/python3/dist-packages"]

/-- The folder that a path names, if there is one. -/
def folderAt? (path : String) : Option Folder :=
  let parts := path.splitOn "/"
  match parts with
  | "" :: _ :: _ => fileSystem.descend [] parts
  | "@FIX" :: _ => fileSystem.descend [] parts
  | _ => none

/-- A path with one more part. -/
def joinPath (path part : String) : String :=
  String.ofList (path.toList.reverse.dropWhile (· = '/')).reverse ++ "/" ++ part

/-- The file that a path names, if there is one. -/
def sourceAt? (path : String) : Option Source :=
  let parts := path.splitOn "/"
  let stem := ((parts.getLastD "").splitOn ".").headD ""
  (folderAt? ("/".intercalate parts.dropLast)).bind fun f => f.files.lookup stem

/-- The file for the compiled code of a file with source code. -/
def compiledPath (path : String) : String :=
  let parts := path.splitOn "/"
  let words := (parts.getLastD "").splitOn "."
  let stem := if words.length = 1 then words else words.dropLast
  "/".intercalate
    (parts.dropLast ++ ["__pycache__", ".".intercalate (stem ++ ["cpython-311", "pyc"])])

/-- The names of what stands in a folder. -/
def Folder.entries (f : Folder) : List String :=
  f.files.map (fun e => e.1 ++ e.2.suffix) ++ f.folders.map (·.1)

end Embedder.Machine
