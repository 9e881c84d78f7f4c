import Artboard.Text.Search
import Artboard.Text.Utf8

/-!
# File trees

Directories and files below one root, and the two things that an export does to
them: it makes a directory with all that lead to it, and it writes a file.  Both
may fail.  Making directories may fail after some of them were made, and a file
is emptied when it is opened, before anything is written to it; so an operation
yields the tree it leaves behind whether it fails or not.

What stands against an operation may be in the tree, or it may lie in the disk:
a right that is missing, or room.
-/

namespace Artboard

/-- Why the system refuses an operation on files. -/
inductive SystemError where
  | notFound
  | alreadyExists
  | notDirectory
  | isDirectory
  | nameTooLong
  /-- The name holds the character that ends names for the system. -/
  | nulInName
  /-- Any other reason, in the words of the system. -/
  | other (text : String)
  deriving DecidableEq, Repr

def SystemError.message : SystemError → String
  | .notFound => "No such file or directory (os error 2)"
  | .alreadyExists => "File exists (os error 17)"
  | .notDirectory => "Not a directory (os error 20)"
  | .isDirectory => "Is a directory (os error 21)"
  | .nameTooLong => "File name too long (os error 36)"
  | .nulInName => "file name contained an unexpected NUL byte"
  | .other text => text

/-- A place in a tree: the names that lead to it from the root. -/
abbrev Place := List String

/-- What is at a place. -/
inductive FileKind where
  | directory
  | file (content : List UInt8)
  deriving DecidableEq, Repr

/-- Directories and files. The root is always there. -/
structure FileTree where
  entries : List (Place × FileKind)
  deriving DecidableEq, Repr

/-- What the disk does with operations that nothing in the tree stands against. -/
structure Disk where
  /-- Why no directory can be made at a place where nothing is, if none can. -/
  directoryFault? : FileTree → Place → Option SystemError
  /-- Why no file can be opened at a place, if none can. -/
  openFault? : FileTree → Place → Option SystemError
  /-- How many of some bytes reach the open file at a place and why no more of them
  do, if not all do. -/
  writeFault? : FileTree → Place → List UInt8 → Option (Nat × SystemError)

/-- A disk on which nothing fails. -/
def Disk.sound : Disk where
  directoryFault? _ _ := none
  openFault? _ _ := none
  writeFault? _ _ _ := none

/-- A path as it is written. -/
structure FilePath where
  /-- The names between slashes that are not empty. -/
  names : List String
  /-- Whether the path can only be one of a directory. -/
  mustBeDirectory : Bool
  /-- Whether nothing is written at all. -/
  isBlank : Bool
  /-- Why the system does not even look for the path. -/
  refusal : Option SystemError
  deriving DecidableEq, Repr

namespace FilePath

def maxBytes : Nat := 4095

/-- The longest name in bytes. -/
def maxNameBytes : Nat := 255

/-- Read a path. -/
def ofText (text : String) : FilePath :=
  let parts := (Text.splitAt '/' text.toList).map String.ofList
  { names := parts.filter (!·.isEmpty)
    mustBeDirectory := parts.getLast? == some ""
    isBlank := text.isEmpty
    refusal :=
      if text.toList.contains '\x00' then some .nulInName
      else if maxBytes < text.utf8ByteSize then some .nameTooLong
      else none }

/-- The path of a name in a directory. A name that begins at the root stands for
itself. -/
def joinText (directory name : String) : String :=
  if name.startsWith "/" || directory.isEmpty then name
  else if directory.endsWith "/" then directory ++ name
  else directory ++ "/" ++ name

end FilePath

namespace FileTree

def empty : FileTree := ⟨[]⟩

def kind? (tree : FileTree) (place : Place) : Option FileKind :=
  if place.isEmpty then some .directory else tree.entries.lookup place

/-- Put something at a place, instead of what is there. -/
def put (tree : FileTree) (place : Place) (kind : FileKind) : FileTree :=
  ⟨tree.entries.filter (fun entry => entry.1 != place) ++ [(place, kind)]⟩

/-- Follow names from a directory. All but the last one must lead to
directories. A dot stands for the directory it is in, two dots for the one
above. -/
def follow (tree : FileTree) : Place → List String → Except SystemError Place
  | place, [] => .ok place
  | place, "." :: names => tree.follow place names
  | place, ".." :: names => tree.follow place.dropLast names
  | place, [name] =>
    if FilePath.maxNameBytes < name.utf8ByteSize then .error .nameTooLong
    else .ok (place ++ [name])
  | place, name :: names =>
    if FilePath.maxNameBytes < name.utf8ByteSize then .error .nameTooLong
    else match tree.kind? (place ++ [name]) with
      | some .directory => tree.follow (place ++ [name]) names
      | some (.file _) => .error .notDirectory
      | none => .error .notFound

/-- The place that names lead to from the root. -/
def locate (tree : FileTree) (names : List String) : Except SystemError Place :=
  tree.follow [] names

def isDirectory (tree : FileTree) (names : List String) : Bool :=
  match tree.locate names with
  | .ok place => tree.kind? place == some .directory
  | .error _ => false

/-- Make one directory, where nothing may be yet. -/
def makeDirectory (disk : Disk) (tree : FileTree) (names : List String) :
    Except SystemError FileTree := do
  let place ← tree.locate names
  match tree.kind? place with
  | some _ => throw .alreadyExists
  | none =>
    match disk.directoryFault? tree place with
    | some error => throw error
    | none => return tree.put place .directory

/-- Make one directory unless it is there. -/
def ensureDirectory (disk : Disk) (tree : FileTree) (names : List String) :
    Except SystemError FileTree :=
  match tree.makeDirectory disk names with
  | .ok tree => .ok tree
  | .error error => if tree.isDirectory names then .ok tree else .error error

/-- The path around a path, both given from the last name to the first. Dots at
the end of either do not count. -/
def outerNames (names : List String) : List String :=
  ((names.dropWhile (· == ".")).drop 1).dropWhile (· == ".")

theorem length_outerNames_lt (last : String) (outer : List String) :
    (outerNames (last :: outer)).length < (last :: outer).length := by
  have counted := (List.dropWhile_sublist (l := last :: outer) (· == ".")).length_le
  have around :=
    (List.dropWhile_sublist (l := ((last :: outer).dropWhile (· == ".")).drop 1)
      (· == ".")).length_le
  simp only [outerNames, List.length_drop, List.length_cons] at *
  omega

/-- Make a directory and all that lead to it, given the names from the last to
the first. -/
def ensureAll (disk : Disk) (tree : FileTree) :
    List String → Except SystemError Unit × FileTree
  | [] => (.ok (), tree)
  | last :: outer =>
    let names := (last :: outer).reverse
    match tree.ensureDirectory disk names with
    | .ok tree => (.ok (), tree)
    | .error .notFound =>
      match tree.ensureAll disk (outerNames (last :: outer)) with
      | (.error error, tree) => (.error error, tree)
      | (.ok (), tree) =>
        match tree.ensureDirectory disk names with
        | .ok tree => (.ok (), tree)
        | .error error => (.error error, tree)
    | .error error => (.error error, tree)
termination_by names => names.length
decreasing_by exact length_outerNames_lt last outer

/-- Make the directory of a path and all that lead to it. -/
def createDirectories (disk : Disk) (tree : FileTree) (path : String) :
    Except SystemError Unit × FileTree :=
  let path := FilePath.ofText path
  match path.refusal with
  | some error => (.error error, tree)
  | none => tree.ensureAll disk path.names.reverse

/-- Where a file with the given path may be written. -/
def writablePlace (tree : FileTree) (path : FilePath) : Except SystemError Place := do
  if let some error := path.refusal then throw error
  if path.isBlank then throw .notFound
  let place ← tree.locate path.names
  match tree.kind? place with
  | some .directory => throw .isDirectory
  | some (.file _) => if path.mustBeDirectory then throw .notDirectory else return place
  | none => if path.mustBeDirectory then throw .isDirectory else return place

/-- Open a file for writing. From then on it is there and has nothing in it, whatever
it had before. -/
def openFile (disk : Disk) (tree : FileTree) (path : String) :
    Except SystemError (Place × FileTree) := do
  let place ← tree.writablePlace (FilePath.ofText path)
  match disk.openFault? tree place with
  | some error => throw error
  | none => return (place, tree.put place (.file []))

/-- Write bytes to the open file at a place. -/
def fill (disk : Disk) (tree : FileTree) (place : Place) (bytes : List UInt8) :
    Except SystemError Unit × FileTree :=
  match disk.writeFault? tree place bytes with
  | some (count, error) => (.error error, tree.put place (.file (bytes.take count)))
  | none => (.ok (), tree.put place (.file bytes))

/-- Write a file, in place of an earlier one. -/
def write (disk : Disk) (tree : FileTree) (path content : String) :
    Except SystemError Unit × FileTree :=
  match tree.openFile disk path with
  | .error error => (.error error, tree)
  | .ok (place, opened) => opened.fill disk place (Text.toBytes content.toList)

/-- The files of a tree, by path. -/
def files (tree : FileTree) : List (String × String) :=
  tree.entries.filterMap fun entry =>
    match entry.2 with
    | .directory => none
    | .file content => some ("/".intercalate entry.1, String.ofList (Text.ofBytes content))

/-- A tree with the given files in it and the directories they need. -/
def ofFiles (files : List (String × String)) : FileTree :=
  files.foldl
    (fun tree file =>
      let outer := (FilePath.ofText file.1).names.dropLast
      ((tree.ensureAll .sound outer.reverse).2.write .sound file.1 file.2).2)
    empty

end FileTree

end Artboard
