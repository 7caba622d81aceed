set_option autoImplicit false

/-! # Paths

A path is a text; slashes divide it into segments. Two paths are taken for the same one when they
have the same components: repeated slashes, a slash at the end and inner `.` segments do not count,
but a `.` in front and every `..` do. -/

namespace Restyle.Path

/-- The parts of a text between its slashes, behind the part that is being read, last first. -/
def splitSlashes (part : List Char) : List Char → List String
  | [] => [String.ofList part.reverse]
  | c :: rest =>
    if c = '/' then String.ofList part.reverse :: splitSlashes [] rest
    else splitSlashes (c :: part) rest

/-- The segments of a path, empty ones included. -/
def segments (path : String) : List String := splitSlashes [] path.toList

/-- Whether a path starts at the root. -/
def isAbsolute (path : String) : Bool := path.toList.head? == some '/'

/-- A component of a path. -/
inductive Component where
  | root
  | here
  | parent
  | named (name : String)
deriving DecidableEq, Repr

/-- The component of a segment that is neither empty nor `.`. -/
def component? (segment : String) : Option Component :=
  if segment = "" ∨ segment = "." then none
  else if segment = ".." then some .parent
  else some (.named segment)

/-- The component that comes before those of the segments: the root, or a `.` in front. -/
def leading? (path : String) : Option Component :=
  if isAbsolute path then some .root
  else if (segments path).head? = some "." then some .here
  else none

/-- The components of a path. -/
def components (path : String) : List Component :=
  (leading? path).toList ++ (segments path).filterMap component?

/-- Whether two paths have the same components. -/
def same (a b : String) : Bool := components a = components b

end Restyle.Path
