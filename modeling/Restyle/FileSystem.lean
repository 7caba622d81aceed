import Restyle.Failure
import Restyle.Path

set_option autoImplicit false

/-! # File systems

A file system without links, as a finite list of what stands where. Locations are lists of names
from the root; paths are resolved from the working directory segment by segment, and each segment
but the last has to lead to a directory. Names and paths have a greatest length, counted in bytes. A
path that is refused as a whole is refused before any of its segments is looked at, and a segment is
refused for its length only once it is looked up in a directory. -/

namespace Restyle

/-- What can stand at a location. -/
inductive Entry where
  | file (content : ByteArray)
  | directory

/-- Where an entry stands: the names that lead to it from the root. -/
abbrev Location := List String

/-- A file system, its working directory, and what standard input holds. -/
structure FileSystem where
  workingDirectory : Location
  entries : List (Location × Entry)
  stdin : ByteArray

namespace FileSystem

/-- What stands at a location. The root is always a directory. -/
def entryAt (fs : FileSystem) (location : Location) : Option Entry :=
  if location = [] then some .directory else fs.entries.lookup location

/-- Put an entry at a location. -/
def put (fs : FileSystem) (location : Location) (entry : Entry) : FileSystem :=
  { fs with entries := (location, entry) :: fs.entries.filter (·.1 != location) }

/-! ## Limits -/

/-- The greatest number of bytes in a name. -/
def maxNameBytes : Nat := 255

/-- The greatest number of bytes in a path. -/
def maxPathBytes : Nat := 4095

/-- Why a path is refused as a whole, whatever stands in the file system. -/
def pathFault? (path : String) : Option FileFault :=
  if path.toList.contains '\x00' then some .nulInName
  else if path.isEmpty then some .notFound
  else if maxPathBytes < path.utf8ByteSize then some .nameTooLong
  else none

/-! ## Resolving paths -/

/-- The location that a segment leads to from a directory. -/
def follow (location : Location) (segment : String) : Location :=
  if segment = "" ∨ segment = "." then location
  else if segment = ".." then location.dropLast
  else location ++ [segment]

/-- Where segments lead to from a location, and what stands there. -/
def walk (fs : FileSystem) (location : Location) : List String → Except FileFault (Location × Entry)
  | [] =>
    match fs.entryAt location with
    | some entry => .ok (location, entry)
    | none => .error .notFound
  | segment :: rest =>
    match fs.entryAt location with
    | some .directory =>
      if maxNameBytes < segment.utf8ByteSize then .error .nameTooLong
      else walk fs (follow location segment) rest
    | some (.file _) => .error .notDirectory
    | none => .error .notFound

/-- Where a path starts. -/
def start (fs : FileSystem) (path : String) : Location :=
  if Path.isAbsolute path then [] else fs.workingDirectory

/-- What stands at the end of a path. -/
def find (fs : FileSystem) (path : String) : Except FileFault (Location × Entry) :=
  match pathFault? path with
  | some fault => .error fault
  | none => fs.walk (fs.start path) (Path.segments path)

/-- The location of a file that is to be written. The directories on the way have to be there, and
the path has to end with a name that is not the name of a directory. -/
def target (fs : FileSystem) (path : String) : Except FileFault Location :=
  match pathFault? path with
  | some fault => .error fault
  | none =>
    match ((Path.segments path).reverse.dropWhile (· = "")) with
    | [] => .error .isDirectory
    | last :: before =>
      match fs.walk (fs.start path) before.reverse with
      | .error fault => .error fault
      | .ok (_, .file _) => .error .notDirectory
      | .ok (location, .directory) =>
        if last = "." ∨ last = ".." ∨ (Path.segments path).getLast? = some "" then
          .error .isDirectory
        else if maxNameBytes < last.utf8ByteSize then .error .nameTooLong
        else
          match fs.entryAt (location ++ [last]) with
          | some .directory => .error .isDirectory
          | _ => .ok (location ++ [last])

/-! ## Texts -/

/-- The text that some bytes encode. -/
def decodeText (bytes : ByteArray) : Except FileFault String :=
  match String.fromUTF8? bytes with
  | some text => .ok text
  | none => .error .notUtf8

/-- The text of the file at a path. -/
def readText (fs : FileSystem) (path : String) : Except FileFault String :=
  match fs.find path with
  | .error fault => .error fault
  | .ok (_, .directory) => .error .isDirectory
  | .ok (_, .file bytes) => decodeText bytes

/-- Write a text to the file at a path. -/
def writeText (fs : FileSystem) (path text : String) : Except FileFault FileSystem :=
  (fs.target path).map fun location => fs.put location (.file text.toUTF8)

end FileSystem

end Restyle
