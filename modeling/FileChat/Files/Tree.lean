/-!
# File trees

Directories, regular files and symbolic links, as a finite tree. Names and contents are bytes: a
name need not be text.
-/

namespace FileChat

abbrev Bytes := List UInt8

/-- A name in a directory. -/
abbrev FileName := Bytes

inductive FileTree where
  | file (content : Bytes)
  | dir (entries : List (FileName × FileTree))
  | link (target : Bytes)
  /-- A device or something else that is neither. -/
  | device
  deriving Inhabited

namespace FileTree

def empty : FileTree := .dir []

def isDir : FileTree → Bool
  | dir _ => true
  | _ => false

def entries : FileTree → List (FileName × FileTree)
  | dir es => es
  | _ => []

/-- What stands in a directory under a name. -/
def child? (name : FileName) (t : FileTree) : Option FileTree := t.entries.lookup name

/-- What stands at a place, given by the names that lead to it. No link is followed. -/
def at? : List FileName → FileTree → Option FileTree
  | [], t => some t
  | name :: names, t => (t.child? name).bind (at? names)

/-- The directory's entries with a tree under a name, in place of what was there. -/
def putEntry (name : FileName) (new : FileTree) :
    List (FileName × FileTree) → List (FileName × FileTree)
  | [] => [(name, new)]
  | (n, t) :: es => if n = name then (n, new) :: es else (n, t) :: putEntry name new es

/-- Puts a tree at a place. Directories that are missing on the way are made. -/
def put (new : FileTree) : List FileName → FileTree → FileTree
  | [], _ => new
  | name :: names, t =>
    .dir (putEntry name (put new names ((t.child? name).getD empty)) t.entries)

end FileTree
end FileChat
