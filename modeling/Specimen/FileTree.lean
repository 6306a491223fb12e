import Specimen.Path

/-!
# Files

Where documents come from is asked two questions only: what a path reads as, and
whether it names a file. `Files` is the answer to both. `FileTree` gives the
answers for a directory that holds some files and nothing else, following a path
step by step as a file system does: a step through something that is not a
directory fails, also when a later step leads back. Names have at most 255 bytes
and paths at most 4095.
-/

namespace Specimen

/-- Why a path cannot be read. -/
inductive ReadFailure where
  | missing
  | notDirectory
  | isDirectory
  | nameTooLong
  /-- The path holds a NUL, which ends paths. -/
  | cutShort
  | notText
deriving DecidableEq

namespace ReadFailure

def message : ReadFailure → String
  | missing => "No such file or directory (os error 2)"
  | notDirectory => "Not a directory (os error 20)"
  | isDirectory => "Is a directory (os error 21)"
  | nameTooLong => "File name too long (os error 36)"
  | cutShort => "file name contained an unexpected NUL byte"
  | notText => "stream did not contain valid UTF-8"

end ReadFailure

/-- What every path reads as. -/
structure Files where
  read : Path → Except ReadFailure String

namespace Files

/-- Whether a path names a file, whatever the file holds. -/
def isFile (files : Files) (p : Path) : Bool :=
  match files.read p with
  | .ok _ => true
  | .error reason => reason = .notText

end Files

/-- A directory given by the files in it, each with the names that lead to it. -/
structure FileTree where
  files : List (List (List Char) × String)

namespace FileTree

/-- The names on a path that leads straight down. -/
def namesOf (p : Path) : List (List Char) :=
  p.components.filterMap fun
    | .name s => some s
    | _ => none

def ofList (files : List (Path × String)) : FileTree :=
  ⟨files.map fun (p, text) => (namesOf p, text)⟩

/-- What stands at a place in a directory. -/
inductive Entry where
  | file (text : String)
  | directory
  | nothing

def entry (tree : FileTree) (names : List (List Char)) : Entry :=
  match tree.files.lookup names with
  | some text => .file text
  | none =>
    if names = [] || tree.files.any (fun file => names.isPrefixOf file.1) then .directory
    else .nothing

/-- The place that the pieces of a path lead to from a place. Outside the tree,
which is no place in it, there are directories without any files. -/
def follow (tree : FileTree) (place : Option (List (List Char))) :
    List (List Char) → Except ReadFailure (Option (List (List Char)))
  | [] => .ok place
  | piece :: rest =>
    match place.elim .directory tree.entry with
    | .nothing => .error .missing
    | .file _ => .error .notDirectory
    | .directory =>
      if piece = [] ∨ piece = ['.'] then follow tree place rest
      else if piece = ['.', '.'] then
        follow tree (place.bind fun names => if names = [] then none else some names.dropLast) rest
      else if 255 < (String.ofList piece).utf8ByteSize then .error .nameTooLong
      else
        match place with
        | some names => follow tree (some (names ++ [piece])) rest
        | none => .error .missing

/-- What a path reads as when it is followed from the directory. -/
def read (tree : FileTree) (p : Path) : Except ReadFailure String :=
  if p.text.toList.contains '\x00' then .error .cutShort
  else if 4095 < p.text.utf8ByteSize then .error .nameTooLong
  else if p.text.isEmpty then .error .missing
  else
    let start := if p.isAbsolute then none else some []
    match tree.follow start (pieces '/' p.text.toList) with
    | .error reason => .error reason
    | .ok place =>
      match place.elim .directory tree.entry with
      | .file text => .ok text
      | .directory => .error .isDirectory
      | .nothing => .error .missing

def toFiles (tree : FileTree) : Files := ⟨tree.read⟩

end FileTree

end Specimen
