import SpanQuery.Text.Utf8

/-!
# Files under paths

A tree of files as a program sees it from its current directory. Directories exist as far as files
lie in them. The steps of a path are separated by slashes; `.` stays where it is and `..` goes one
step up.
-/

namespace SpanQuery

open Text (Bytes)

inductive FileFault where
  | missing
  | notDirectory
  | isDirectory
  | noPath
  | notText
  | unreachable (cause : String)
  | other (cause : String)
  deriving Repr, DecidableEq

def FileFault.message : FileFault → String
  | missing => "No such file or directory (os error 2)"
  | notDirectory => "Not a directory (os error 20)"
  | isDirectory => "Is a directory (os error 21)"
  | noPath => "file name contained an unexpected NUL byte"
  | notText => "stream did not contain valid UTF-8"
  | unreachable cause | other cause => cause

abbrev Look := Except FileFault Bytes

namespace Look

def isPresent : Look → Bool
  | .error .missing | .error .notDirectory | .error .noPath | .error (.unreachable _) => false
  | _ => true

def text (l : Look) : Except FileFault (List Char) := do
  (Text.decode (← l)).mapError fun _ => .notText

end Look

namespace Path

def isAbsolute (path : String) : Bool :=
  path.toList.head? == some '/'

def join (base path : String) : String :=
  if base.isEmpty ∨ base.toList.getLast? = some '/' then base ++ path else base ++ "/" ++ path

/-- The steps of a path. A slash at its end leaves an empty step. -/
def steps (path : String) : List String :=
  (path.toList.splitOn '/').map String.ofList

def fault? (path : String) : Option FileFault :=
  if path.isEmpty then some .missing
  else if path.toList.contains '\x00' then some .noPath
  else none

end Path

abbrev Place := List String

structure FileTree where
  current : Place
  files : List (Place × Bytes)

namespace FileTree

def step (place : Place) (name : String) : Place :=
  if name = "" ∨ name = "." then place
  else if name = ".." then place.dropLast
  else place ++ [name]

def start (t : FileTree) (path : String) : Place :=
  if Path.isAbsolute path then [] else t.current

def place (t : FileTree) (path : String) : Place :=
  (Path.steps path).foldl step (t.start path)

def isDirectory (t : FileTree) (place : Place) : Bool :=
  place.isPrefixOf t.current || t.files.any fun (file, _) => place.isPrefixOf file

def contents (t : FileTree) (place : Place) : Look :=
  match t.files.lookup place with
  | some bytes => .ok bytes
  | none => if t.isDirectory place then .error .isDirectory else .error .missing

/-- Goes on from a place; only a directory can be left. -/
def walk (t : FileTree) (place : Place) : List String → Except FileFault Place
  | [] => .ok place
  | name :: rest =>
      match t.contents place with
      | .ok _ => .error .notDirectory
      | .error .isDirectory => t.walk (step place name) rest
      | .error fault => .error fault

def look (t : FileTree) (path : String) : Look :=
  match Path.fault? path with
  | some fault => .error fault
  | none => do t.contents (← t.walk (t.start path) (Path.steps path))

/-- The place of a file that is written under a path. A slash at the end makes a directory of what
is before it. -/
def target (t : FileTree) (path : String) : Except FileFault Place :=
  match Path.fault? path with
  | some fault => .error fault
  | none => do
      let steps := Path.steps path
      let named := (steps.reverse.dropWhile (·.isEmpty)).reverse
      let place ← t.walk (t.start path) named
      if named.length < steps.length then .error .isDirectory
      else
        match t.contents place with
        | .error .isDirectory => .error .isDirectory
        | _ => .ok place

def put (t : FileTree) (place : Place) (bytes : Bytes) : FileTree :=
  { t with files := (place, bytes) :: t.files.filter fun (file, _) => file != place }

end FileTree

end SpanQuery
