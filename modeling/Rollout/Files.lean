import Rollout.Text.Utf8
import Rollout.Text.Blank

/-!
# File trees

A file tree holds files and directories, and a path leads to them from the top or, if it does not
begin with a slash, from the working directory. A path is followed name by name: empty names and `.`
stay where they are, `..` goes up, and every name but the last has to be a directory. A path that ends
in a slash names a directory. Nothing that the tree does not hold is there.
-/

namespace Rollout

/-- Why a file is not read or written; the numbers are those of the operating system. -/
inductive FileFault where
  | notFound
  | notDirectory
  | isDirectory
  | nameTooLong
  | nulInPath
  | notText
deriving DecidableEq

def FileFault.message : FileFault → String
  | .notFound => "No such file or directory (os error 2)"
  | .notDirectory => "Not a directory (os error 20)"
  | .isDirectory => "Is a directory (os error 21)"
  | .nameTooLong => "File name too long (os error 36)"
  | .nulInPath => "file name contained an unexpected NUL byte"
  | .notText => "stream did not contain valid UTF-8"

/-- What a name stands for. -/
inductive FileEntry where
  | directory
  | file (content : Bytes)
deriving DecidableEq

/-- A tree: the names that lead to the working directory, and entries with the names that lead to
them. -/
structure Files where
  working : List String
  entries : List (List String × FileEntry)

namespace Files

/-- The names of a path. -/
def names (path : String) : List String :=
  (Text.pieces (· == '/') path.toList).map String.ofList

def isAbsolute (path : String) : Bool := path.toList.head? == some '/'

/-- Where a path starts. -/
def start (t : Files) (path : String) : List String := if isAbsolute path then [] else t.working

/-- The longest name and the longest path, in bytes. -/
def longestName : Nat := 255

def longestPath : Nat := 4095

/-- What names lead to from the top; the top itself is a directory. -/
def find? (t : Files) (place : List String) : Option FileEntry :=
  if place.isEmpty then some .directory
  else (t.entries.find? fun e => e.1 = place).map (·.2)

/-- Follows names from a place; gives the place they lead to and what is there. -/
def follow (t : Files) (place : List String) :
    List String → Except FileFault (List String × FileEntry)
  | [] =>
    match t.find? place with
    | some e => .ok (place, e)
    | none => .error .notFound
  | name :: rest =>
    match t.find? place with
    | none => .error .notFound
    | some (.file _) => .error .notDirectory
    | some .directory =>
      if longestName < name.utf8ByteSize then .error .nameTooLong
      else if name = "" || name = "." then follow t place rest
      else if name = ".." then follow t place.dropLast rest
      else follow t (place ++ [name]) rest

/-- What is wrong with a path, whatever the tree holds. -/
def pathFault? (path : String) : Option FileFault :=
  if path.toList.any (· == '\x00') then some .nulInPath
  else if path = "" then some .notFound
  else if longestPath < path.utf8ByteSize then some .nameTooLong
  else none

/-- What a path leads to. -/
def resolve (t : Files) (path : String) : Except FileFault (List String × FileEntry) :=
  match pathFault? path with
  | some fault => .error fault
  | none => t.follow (t.start path) (names path)

/-- Whether a path leads to anything. -/
def contains (t : Files) (path : String) : Bool :=
  match t.resolve path with
  | .ok _ => true
  | .error _ => false

/-- The bytes of a file. -/
def read (t : Files) (path : String) : Except FileFault Bytes := do
  match (← t.resolve path).2 with
  | .file content => .ok content
  | .directory => .error .isDirectory

/-- The text of a file. -/
def readText (t : Files) (path : String) : Except FileFault String := do
  match Text.ofBytes? (← t.read path) with
  | some s => .ok s
  | none => .error .notText

/-- Puts an entry at a place and directories at the places above it. -/
def put (t : Files) (place : List String) (entry : FileEntry) : Files :=
  let above := (List.range place.length).map fun n => (place.take n, FileEntry.directory)
  { t with entries := (place, entry) :: (t.entries.filter fun e => e.1 != place) ++ above }

/-- The tree that holds the working directory only. -/
def empty (working : String) : Files :=
  let place := (names working).filter fun n => n != "" && n != "."
  Files.put ⟨place, []⟩ place .directory

/-- Puts an entry where a path leads to; directories on the way to it are made. -/
def add (t : Files) (path : String) (entry : FileEntry) : Files :=
  t.put (t.start path ++ (names path).filter fun n => n != "" && n != ".") entry

/-- The tree with the given entries. -/
def ofList (working : String) (entries : List (String × FileEntry)) : Files :=
  entries.foldl (fun t e => t.add e.1 e.2) (empty working)

/-- Writes a file, which takes the place of a file that was there. The directory it is in has to
exist. -/
def write (t : Files) (path : String) (content : Bytes) : Except FileFault Files :=
  match pathFault? path with
  | some fault => .error fault
  | none => do
    let parts := names path
    let way := (parts.reverse.dropWhile fun n => n = "").reverse
    match way.getLast? with
    | none => .error .isDirectory
    | some name =>
      let (place, _) ← t.follow (t.start path) (way.dropLast ++ [""])
      if way.length < parts.length ∨ name = "." ∨ name = ".." then .error .isDirectory
      else if longestName < name.utf8ByteSize then .error .nameTooLong
      else
        match t.find? (place ++ [name]) with
        | some .directory => .error .isDirectory
        | _ => .ok (t.put (place ++ [name]) (.file content))

/-- A path below a directory; a slash is put between them only if the directory needs one. -/
def join (directory path : String) : String :=
  if isAbsolute path || directory = "" then path
  else if directory.toList.getLast? == some '/' then directory ++ path
  else directory ++ "/" ++ path

end Files

end Rollout
