import OffloadCodec.Bytes
import OffloadCodec.IoError

/-!
# Files

Files and directories as the file helpers see them, from the working directory on. A path is
resolved part by part. `openForReading` opens what stands at a path, `create` makes an empty file or
truncates the one that is there, and `put` sets what a file holds.

Outside the working directory only the directories on the way up and the root are known.
-/

namespace OffloadCodec

/-- A place as its parts from the working directory on, which is the empty path itself. Parts `..`
in front lead up from there, and a part `/` in front stands for the root. -/
abbrev Path := List String

/-- The place is on the way up from the working directory, or the root. -/
def Path.isAbove (place : Path) : Bool := place = ["/"] || place.all (· = "..")

/-- The directory that a place is in; the root is in itself. -/
def Path.parent (place : Path) : Path :=
  if place = ["/"] then place else if place.isAbove then place ++ [".."] else place.dropLast

inductive Entry
  | file (contents : Bytes)
  | directory
deriving DecidableEq, Repr

/-- Entries by path, no path twice. -/
structure FileTree where
  entries : List (Path × Entry) := []
deriving DecidableEq, Repr

namespace FileTree

/-- What stands at a path. -/
def get? (tree : FileTree) (path : Path) : Option Entry :=
  if path.isAbove then some .directory else tree.entries.lookup path

/-- Puts an entry at a path, in place of one that is there. -/
def put (tree : FileTree) (path : Path) (entry : Entry) : FileTree :=
  if (tree.entries.lookup path).isSome then
    ⟨tree.entries.map fun e => if e.1 = path then (path, entry) else e⟩
  else ⟨tree.entries ++ [(path, entry)]⟩

/-- A part that stays where it is: a dot, or nothing between two slashes. -/
def isBlankPart (part : String) : Bool := part = "" || part = "."

/-- Walks the parts from a directory on. The last part need not exist; a part before it must be a
directory. -/
def walk (tree : FileTree) : (place : Path) → (parts : List String) → Except FileError Path
  | place, [] => .ok place
  | place, part :: parts =>
    match tree.get? place with
    | none => .error .noSuchFile
    | some (.file _) => .error .notADirectory
    | some .directory =>
      if isBlankPart part then walk tree place parts
      else if part = ".." then walk tree place.parent parts
      else if 255 < part.utf8ByteSize then .error .nameTooLong
      else walk tree (place ++ [part]) parts

/-- The place where a path starts, and its parts from there on. -/
def start (path : String) : Except FileError (Path × List String) :=
  if path.toList.contains '\x00' then .error .nulInName
  else if path = "" then .error .noSuchFile
  else if 4096 ≤ path.utf8ByteSize then .error .nameTooLong
  else .ok (if path.toList.head? = some '/' then ["/"] else [], path.splitOn "/")

/-- The place that a path names. -/
def resolve (tree : FileTree) (path : String) : Except FileError Path :=
  match start path with
  | .error e => .error e
  | .ok (place, parts) => tree.walk place parts

/-- A file or directory opened for reading. -/
structure Handle where
  path : Path
  isDirectory : Bool
deriving DecidableEq, Repr

/-- Opens what stands at a path for reading; a directory can be opened but not read. -/
def openForReading (tree : FileTree) (path : String) : Except FileError Handle :=
  match tree.resolve path with
  | .error e => .error e
  | .ok place =>
    match tree.get? place with
    | none => .error .noSuchFile
    | some .directory => .ok ⟨place, true⟩
    | some (.file _) => .ok ⟨place, false⟩

/-- The place of a file to be created. A path that ends with a slash names a directory. -/
def resolveNew (tree : FileTree) (path : String) : Except FileError Path :=
  match start path with
  | .error e => .error e
  | .ok (place, parts) =>
    if parts.getLast? = some "" then
      match tree.walk place (parts.reverse.dropWhile (· = "")).reverse with
      | .error e => .error e
      | .ok _ => .error .isADirectory
    else tree.walk place parts

/-- An empty file at a path, which must not name a directory. -/
def create (tree : FileTree) (path : String) : Except FileError (Path × FileTree) :=
  match tree.resolveNew path with
  | .error e => .error e
  | .ok place =>
    match tree.get? place with
    | some .directory => .error .isADirectory
    | some (.file _) => .ok (place, tree.put place (.file []))
    | none => .ok (place, tree.put place (.file []))

/-- What an opened file holds now. -/
def contents (tree : FileTree) (handle : Handle) : Except FileError Bytes :=
  if handle.isDirectory then .error .isADirectory
  else match tree.get? handle.path with
    | some (.file bytes) => .ok bytes
    | some .directory => .error .isADirectory
    | none => .ok []

/-- The length of an opened file. -/
def lengthOf (tree : FileTree) (handle : Handle) : Nat :=
  match tree.contents handle with
  | .ok bytes => bytes.length
  | .error _ => 0

end FileTree

end OffloadCodec
