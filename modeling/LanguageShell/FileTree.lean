import LanguageShell.Diagnostic
import LanguageShell.Text.Utf8
import LanguageShell.Trace

/-!
The files that a program can read: a fixed tree of names without links. A path is resolved name by
name, `.` and `..` included, so two paths that lead to one file have one real path. A path with NUL,
or with surrogates that stand for no bytes, cannot be resolved.
-/

namespace LanguageShell

/-- Files by their real path, further directories, and the directory in which paths start. That
directory bears a name which no path can spell. Where surrogates can spell the bytes of a name, the
file is listed under that spelling too. -/
structure FileTree where
  files : List (RealPath × List UInt8) := []
  directories : List RealPath := []
  workingDirectory : RealPath := [""]

inductive OpenError where
  | notFound
  | isDirectory
  | notDirectory
  | nameTooLong
deriving DecidableEq, Repr

def OpenError.message : OpenError → String
  | notFound => "No such file or directory"
  | isDirectory => "Is a directory"
  | notDirectory => "Not a directory"
  | nameTooLong => "File name too long"

namespace FileTree

/-- The names of a path; empty ones do not count. -/
def components (path : CodeText) : List CodeText :=
  ((path.points.splitOn (.char '/')).filter (· ≠ [])).map .mk

def isAbsolute (path : CodeText) : Bool :=
  path.points.head? = some (.char '/')

def base (tree : FileTree) (path : CodeText) : RealPath :=
  if isAbsolute path then [] else tree.workingDirectory

def advance (place : RealPath) (name : CodeText) : RealPath :=
  if name = "." then place else if name = ".." then place.dropLast else place ++ [name]

/-- The real path, found by the names alone, so also for files that do not exist. -/
def realPath (tree : FileTree) (path : CodeText) : RealPath :=
  (components path).foldl advance (tree.base path)

/-- Why the system cannot be asked about a path, if it cannot. -/
def refusal? (path : CodeText) : Option Fault :=
  match path.unencodable? with
  | some (position, surrogates) => some (.unencodable position surrogates)
  | none => if .char '\x00' ∈ path.points then some .nulInPath else none

def spell (absolute : Bool) (names : List CodeText) : CodeText :=
  ⟨(if absolute then [.char '/'] else []) ++
    [Text.CodePoint.char '/'].intercalate (names.map (·.points))⟩

def parent (absolute : Bool) (names : List CodeText) : List CodeText :=
  if !absolute && (names.isEmpty || names.getLast? = some "..") then names ++ [CodeText.ofString ".."]
  else names.dropLast

/-- Why the names that come next in a path cannot be followed, if they cannot. The system is asked
about every place on the way. -/
def refusalAfter? (absolute : Bool) (before : List CodeText) : List CodeText → Option Fault
  | [] => none
  | name :: rest =>
    if name = "." then refusalAfter? absolute before rest
    else if name = ".." then refusalAfter? absolute (parent absolute before) rest
    else
      let next := before ++ [name]
      (refusal? (spell absolute next)).or (refusalAfter? absolute next rest)

/-- Why a path cannot be resolved, if it cannot. -/
def unresolvable? (path : CodeText) : Option Fault :=
  refusalAfter? (isAbsolute path) [] (components path)

def find? (tree : FileTree) (place : RealPath) : Option (List UInt8) :=
  (tree.files.find? (·.1 = place)).map (·.2)

/-- Whether the real path is that of a directory: one that is listed, or on the way to a file, to
a listed directory or to the working directory. -/
def isDirectory (tree : FileTree) (place : RealPath) : Bool :=
  place.isPrefixOf tree.workingDirectory || tree.directories.any (place.isPrefixOf ·) ||
    tree.files.any fun file => place.isPrefixOf file.1 && place ≠ file.1

/-- Follows the names of a path from a place on, as opening a file does. -/
def walk (tree : FileTree) (place : RealPath) : List CodeText → Except OpenError Unit
  | [] => .ok ()
  | name :: rest =>
    if !tree.isDirectory place then .error .notDirectory
    else if 255 < name.byteSize then .error .nameTooLong
    else
      let next := advance place name
      if tree.isDirectory next || (tree.find? next).isSome then tree.walk next rest
      else .error .notFound

def maxPathBytes : Nat := 4095

def endsWithSlash (path : CodeText) : Bool :=
  path.points.getLast? = some (.char '/')

def openFile (tree : FileTree) (path : CodeText) : Except OpenError (List UInt8) := do
  if path = "" then throw .notFound
  if maxPathBytes < path.byteSize then throw .nameTooLong
  tree.walk (tree.base path) (components path)
  let place := tree.realPath path
  if tree.isDirectory place then throw .isDirectory
  match tree.find? place with
  | none => throw .notFound
  | some bytes => if endsWithSlash path then throw .notDirectory else return bytes

def unifyLineEnds : List Char → List Char
  | [] => []
  | '\r' :: '\n' :: rest => '\n' :: unifyLineEnds rest
  | c :: rest => (if c = '\r' then '\n' else c) :: unifyLineEnds rest

def read (tree : FileTree) (path : CodeText) : Except Failure (List Char) :=
  match refusal? path with
  | some fault => .error (.fault fault)
  | none =>
    match tree.openFile path with
    | .error error => .error (.fatal s!"{path}: {error.message}")
    | .ok bytes =>
      match Text.decodeUtf8 bytes with
      | .error error => .error (.fatal s!"{path}: {error.message}")
      | .ok text => .ok (unifyLineEnds text)

/-- Puts a file into the tree, in place of one that is already there. -/
def write (tree : FileTree) (path : CodeText) (contents : List UInt8) : FileTree :=
  let place := tree.realPath path
  { tree with files := (place, contents) :: tree.files.filter (·.1 ≠ place) }

def addDirectory (tree : FileTree) (path : CodeText) : FileTree :=
  { tree with directories := tree.realPath path :: tree.directories }

/-- Puts a file into the tree, or a directory if the path ends with a slash. -/
def put (tree : FileTree) (path : CodeText) (contents : List UInt8) : FileTree :=
  if endsWithSlash path then tree.addDirectory path else tree.write path contents

end FileTree

end LanguageShell
