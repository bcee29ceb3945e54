import Chip8.Text.Quoted
import Chip8.Word

/-!
# Files

The directory a program is started in, as the files and folders below it, and what opening a path
for reading gives. A path is followed name by name; only the way down from the directory is known,
so outside it there are folders to pass through and nothing to find.
-/

namespace Chip8

/-- What a path can lead to. -/
inductive DirectoryEntry where
  | file (bytes : List Byte)
  | folder
deriving DecidableEq, Repr

/-- The entries of a directory, each with the names on the way to it. Folders on the way to an entry
are there without an entry of their own. -/
structure Directory where
  entries : List (List String × DirectoryEntry)
deriving Repr

/-- Why a path cannot be read. -/
inductive FileError where
  | notFound (path : String)
  | notFolder (path : String)
  | isFolder (path : String)
  | nameTooLong (path : String)
  /-- Any other reason the system may have, with its number. -/
  | other (number : Nat) (reason path : String)
  /-- A path with the character of code zero means nothing to the system. -/
  | embeddedNul
deriving DecidableEq, Repr

namespace FileError

/-- The number of an error, its reason and the path. -/
def systemMessage (number : Nat) (reason path : String) : String :=
  "[Errno " ++ toString number ++ "] " ++ reason ++ ": " ++ quoted path

/-- The text of a file error. -/
def message : FileError → String
  | notFound path => systemMessage 2 "No such file or directory" path
  | notFolder path => systemMessage 20 "Not a directory" path
  | isFolder path => systemMessage 21 "Is a directory" path
  | nameTooLong path => systemMessage 36 "File name too long" path
  | other number reason path => systemMessage number reason path
  | embeddedNul => "embedded null byte"

end FileError

namespace Directory

/-- The names of a path, which slashes set apart; two slashes in a row have an empty name between
them. -/
def names (path : String) : List String :=
  (path.toList.foldr
    (fun c names =>
      match c, names with
      | '/', _ => [] :: names
      | _, first :: rest => (c :: first) :: rest
      | _, [] => [[c]])
    [[]]).map String.ofList

/-- The way one name further: an empty name and a single dot lead nowhere, two dots lead back. There
is no way out of the directory. -/
def extend? (way : List String) : String → Option (List String)
  | "" | "." => some way
  | ".." => if way.isEmpty then none else some way.dropLast
  | name => some (way ++ [name])

/-- The way down from the directory that a path describes. -/
def way? (path : String) : Option (List String) :=
  if path.toList.head? = some '/' then none else (names path).foldlM extend? []

/-- A directory given by the paths of its entries. Of two entries at one place the later counts. -/
def ofPaths (entries : List (String × DirectoryEntry)) : Directory :=
  ⟨(entries.filterMap fun (path, entry) => (way? path).map (·, entry)).reverse⟩

/-- What stands at the end of a way down from the directory. -/
def entryAt? (d : Directory) (way : List String) : Option DirectoryEntry :=
  if way.isEmpty then some .folder
  else match d.entries.find? fun (names, _) => names == way with
    | some (_, entry) => some entry
    | none => if d.entries.any fun (names, _) => way.isPrefixOf names then some .folder else none

/-- The longest name, in bytes. -/
def maxName : Nat := 255

/-- The longest path, in bytes. -/
def maxPath : Nat := 4095

/-- Follows names from a folder: one at the end of a way down, or some folder outside. -/
def follow (d : Directory) (path : String) :
    Option (List String) → List String → Except FileError DirectoryEntry
  | _, [] => .ok .folder
  | here, "" :: rest => follow d path here rest
  | here, "." :: rest => follow d path here rest
  | here, ".." :: rest =>
    match here with
    | some (first :: way) => follow d path (some (first :: way).dropLast) rest
    | _ => follow d path none rest
  | here, name :: rest =>
    if maxName < name.utf8ByteSize then .error (.nameTooLong path)
    else match here.bind fun way => (d.entryAt? (way ++ [name])).map (way ++ [name], ·) with
      | none => .error (.notFound path)
      | some (way, .folder) => follow d path (some way) rest
      | some (_, entry) => if rest.isEmpty then .ok entry else .error (.notFolder path)

/-- The bytes of the file at a path. -/
def read (d : Directory) (path : String) : Except FileError (List Byte) :=
  if path.toList.contains '\x00' then .error .embeddedNul
  else if path.isEmpty then .error (.notFound path)
  else if maxPath < path.utf8ByteSize then .error (.nameTooLong path)
  else
    let start := if path.toList.head? = some '/' then none else some []
    match follow d path start (names path) with
    | .error e => .error e
    | .ok .folder => .error (.isFolder path)
    | .ok (.file bytes) => .ok bytes

end Directory

end Chip8
