/-!
# File paths

A path is a text of names between slashes. Empty names and `.` stand for nothing.
-/

namespace FileChat.Path

/-- The names on a path, without those that stand for nothing. -/
def names (path : List Char) : List (List Char) :=
  (path.splitOn '/').filter fun n => n ≠ [] ∧ n ≠ ['.']

/-- The last name on a path, unless it is the parent of what stands before it. -/
def lastName? (path : List Char) : Option (List Char) :=
  match (names path).getLast? with
  | some n => if n = ['.', '.'] then none else some n
  | none => none

/-- The name by which a file is shown: its last name, or the whole path if it has none. -/
def displayName (path : String) : String :=
  match lastName? path.toList with
  | some n => String.ofList n
  | none => path

/-- What stands after the last dot of a file name, unless that dot is its first character. -/
def extension? (name : List Char) : Option (List Char) :=
  let tail := name.reverse.takeWhile (· ≠ '.')
  if tail.length + 1 < name.length then some tail.reverse else none

/-- A name, or a path, put onto the end of a path. One that begins at the root stands alone. -/
def join (path name : String) : String :=
  if name.startsWith "/" then name
  else if path.isEmpty || path.endsWith "/" then path ++ name
  else path ++ "/" ++ name

/-- The path with the home directory in the place of a leading tilde. -/
def expandTilde (home path : String) : String :=
  if path == "~" || path.startsWith "~/" then home ++ String.ofList (path.toList.drop 1) else path

end FileChat.Path
