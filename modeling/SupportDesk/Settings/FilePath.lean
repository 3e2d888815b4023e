/-
# File paths

What a path means: it leads somewhere by its names, since empty names and steps to the
directory itself change nothing, and it means a file only if it ends in a name.
-/

namespace SupportDesk.FilePath

/-- The parts of a path between slashes. -/
def parts (path : String) : List String := path.splitOn "/"

/-- Whether a part of a path names something. -/
def isName (part : String) : Bool := part != "" && part != "."

/-- The names along a path, the last first. -/
def reversedNames (path : String) : List String := ((parts path).filter isName).reverse

/-- The path along names, given the last first, from where another path starts. -/
def along (path : String) (names : List String) : String :=
  (if path.startsWith "/" then "/" else "") ++ "/".intercalate names.reverse

/-- The plain path of the file that a path means, if it can mean one. -/
def file? (path : String) : Option String :=
  if ((parts path).getLast?.map isName).getD false then some (along path (reversedNames path))
  else none

/-- The plain path of the file whose name is the last name of a path with an extension. -/
def withExtension? (path ext : String) : Option String :=
  match reversedNames path with
  | [] | ".." :: _ => none
  | last :: before => some (along path ((last ++ "." ++ ext) :: before))

/-- The part of a file name after its last dot.  A name that starts with its only dot has
none. -/
def extension (path : String) : String :=
  match ((parts path).getLastD "").splitOn "." with
  | [] | [_] | ["", _] => ""
  | pieces => pieces.getLastD ""

end SupportDesk.FilePath
