import Timings.Failure
import Timings.Text.Basic

/-!
Paths: the texts that name files.

A slash separates the steps of a path. Empty steps and `.` lead nowhere, so they
do not count, except where a path begins with `.` or ends in it.
-/

namespace Timings.Files

/-- The pieces of a path between its slashes. -/
def pathPieces (path : String) : List String :=
  (Text.pieces '/' path.toList).map String.ofList

/-- Whether a piece of a path leads anywhere. -/
def isStep (piece : String) : Bool := piece != "" && piece != "."

/-- Whether a path starts at the root. -/
def isAbsolute (path : String) : Bool := path.toList.head? == some '/'

/-! ## Comparing paths -/

/-- What a path looks like once the slashes and dots that do not count are gone. -/
structure PathShape where
  absolute : Bool
  /-- The path begins with `.`, as a step of its own. -/
  dotted : Bool
  steps : List String
deriving DecidableEq, Repr

/-- The shape of a path. -/
def shape (path : String) : PathShape where
  absolute := isAbsolute path
  dotted := (pathPieces path).head? == some "."
  steps := (pathPieces path).filter isStep

/-- Whether two paths are the same by their texts alone. -/
def samePath (path path' : String) : Bool := shape path == shape path'

/-- The name a path ends in, unless it ends in a step up or has no steps. -/
def fileName? (path : String) : Option String :=
  (shape path).steps.getLast?.filter (· != "..")

/-! ## Following paths -/

/-- The longest name a file may have, in bytes. -/
def longestName : Nat := 255

/-- The longest path that can be followed, in bytes. -/
def longestPath : Nat := 4095

/-- A path as it is followed: the steps to a folder, and what comes last. -/
structure Route where
  /-- The steps that have to lead into folders. -/
  folders : List String
  /-- The last step, if it is a name; a path ending in `.` or `..`, or that of the
  root, has none. -/
  name : Option String
  /-- Whether a slash follows the last step. -/
  slashed : Bool
deriving DecidableEq, Repr

/-- The route of the pieces of a path, last one first. -/
def routeOf (slashed : Bool) : List String → Route
  | [] => ⟨[], none, slashed⟩
  | piece :: before =>
    if piece = "" then routeOf true before
    else if piece = "." then ⟨before.reverse.filter isStep, none, slashed⟩
    else if piece = ".." then ⟨before.reverse.filter isStep ++ [piece], none, slashed⟩
    else ⟨before.reverse.filter isStep, some piece, slashed⟩

/-- The route of a path, if the path can be followed at all. -/
def route (path : String) : Except SystemFault Route :=
  if path.toList.contains '\x00' then
    .error (.reported .other "file name contained an unexpected NUL byte")
  else if path = "" then .error .notFound
  else if path.utf8ByteSize > longestPath then .error .nameTooLong
  else .ok (routeOf false (pathPieces path).reverse)

end Timings.Files
