import FileChat.Files.Tree
import FileChat.Text.Shown
import FileChat.Text.Utf8

/-!
# File systems

A tree with a working directory, and the operations on it that can fail. Links are followed on the
way to a file, a limited number of them.
-/

namespace FileChat

inductive FileError where
  | notFound
  | alreadyThere
  | notDirectory
  | isDirectory
  | nameTooLong
  | tooManyLinks
  /-- A path with a zero byte in it. -/
  | zeroByte
  | noParent
  /-- Any other error, in the system's words. -/
  | other (reason : String)
  deriving DecidableEq, Repr

namespace FileError

/-- The system's number for the error, unless it was found before the system was asked. -/
def code? : FileError → Option Nat
  | notFound => some 2
  | alreadyThere => some 17
  | notDirectory => some 20
  | isDirectory => some 21
  | nameTooLong => some 36
  | tooManyLinks => some 40
  | zeroByte | noParent | other _ => none

def kind : FileError → String
  | notFound => "NotFound"
  | alreadyThere => "AlreadyExists"
  | notDirectory => "NotADirectory"
  | isDirectory => "IsADirectory"
  | nameTooLong => "InvalidFilename"
  | tooManyLinks => "FilesystemLoop"
  | zeroByte => "InvalidInput"
  | noParent => "Uncategorized"
  | other _ => "Other"

def reason : FileError → String
  | notFound => "No such file or directory"
  | alreadyThere => "File exists"
  | notDirectory => "Not a directory"
  | isDirectory => "Is a directory"
  | nameTooLong => "File name too long"
  | tooManyLinks => "Too many levels of symbolic links"
  | zeroByte => "file name contained an unexpected NUL byte"
  | noParent => "failed to create whole tree"
  | other reason => reason

def message (e : FileError) : String :=
  match e.code? with
  | some n => e.reason ++ " (os error " ++ toString n ++ ")"
  | none => e.reason

/-- The error with all that is known of it. -/
def shown (e : FileError) : String :=
  let known := [("kind", e.kind), ("message", Text.quoted e.reason)]
  match e.code? with
  | some n => Text.shownRecord "Os" (("code", toString n) :: known)
  | none => Text.shownRecord "Error" known

end FileError

structure FileSystem where
  root : FileTree
  /-- The working directory, from the root on. -/
  cwd : List FileName
  deriving Inhabited

/-- Where a path leads: to something, or to a name that is free in a directory that is there. -/
inductive Place where
  | found (place : List FileName) (tree : FileTree)
  | vacant (place : List FileName)

namespace FileSystem

def slash : UInt8 := 47

/-- The bytes of a text. -/
def bytes (text : String) : Bytes := Utf8.encode text.toList

/-- A name put onto the end of a path. -/
def joinPath (path : Bytes) (name : FileName) : Bytes :=
  if path.getLast? = some slash then path ++ name else path ++ slash :: name

def isAbsolute (path : Bytes) : Bool := path.head? == some slash

def selfName : FileName := [46]

def parentName : FileName := [46, 46]

/-- The links that are followed on one way. -/
def maxLinks : Nat := 40

/-- The bytes that a name has at most. -/
def maxName : Nat := 255

/-- Goes on from a place along names. The last name is followed if it is a link and that is asked
for. -/
def follow (root : FileTree) (last : Bool) (links : Nat) (place names : List FileName) :
    Except FileError Place :=
  match names with
  | [] =>
    match root.at? place with
    | some t => .ok (.found place t)
    | none => .error .notFound
  | name :: rest =>
    match root.at? place with
    | none => .error .notFound
    | some (.dir entries) =>
      if name = [] ∨ name = selfName then follow root last links place rest
      else if name = parentName then follow root last links place.dropLast rest
      else if maxName < name.length then .error .nameTooLong
      else
        match entries.lookup name with
        | none =>
          if rest.all (· = []) then .ok (.vacant (place ++ [name])) else .error .notFound
        | some (.link target) =>
          if rest = [] ∧ ¬ last then .ok (.found (place ++ [name]) (.link target))
          else
            match links with
            | 0 => .error .tooManyLinks
            | links + 1 =>
              follow root last links (if isAbsolute target then [] else place)
                (target.splitOn slash ++ rest)
        | some _ => follow root last links (place ++ [name]) rest
    | some _ => .error .notDirectory
termination_by (links, names.length)

/-- Where a path leads. -/
def locate (fs : FileSystem) (last : Bool) (path : Bytes) : Except FileError Place :=
  if path = [] then .error .notFound
  else if path.contains 0 then .error .zeroByte
  else follow fs.root last maxLinks (if isAbsolute path then [] else fs.cwd) (path.splitOn slash)

/-- What a path leads to, links followed. -/
def get? (fs : FileSystem) (path : Bytes) : Option FileTree :=
  match fs.locate true path with
  | .ok (.found _ t) => some t
  | _ => none

def isDir (fs : FileSystem) (path : Bytes) : Bool := (fs.get? path).any FileTree.isDir

def put (fs : FileSystem) (place : List FileName) (t : FileTree) : FileSystem :=
  { fs with root := FileTree.put t place fs.root }

/-- The content of a file. -/
def read (fs : FileSystem) (path : Bytes) : Except FileError Bytes :=
  match fs.locate true path with
  | .error e => .error e
  | .ok (.vacant _) => .error .notFound
  | .ok (.found _ (.file content)) => .ok content
  | .ok (.found _ (.dir _)) => .error .isDirectory
  | .ok (.found ..) => .ok []

/-- Writes a file, in place of what it held. -/
def write (fs : FileSystem) (path content : Bytes) : Except FileError FileSystem :=
  match fs.locate true path with
  | .error e => .error e
  | .ok (.found _ (.dir _)) => .error .isDirectory
  | .ok (.found place (.file _)) => .ok (fs.put place (.file content))
  | .ok (.found ..) => .ok fs
  | .ok (.vacant place) =>
    if path.getLast? = some slash then .error .isDirectory else .ok (fs.put place (.file content))

/-- Makes one directory. -/
def makeDir (fs : FileSystem) (path : Bytes) : Except FileError FileSystem :=
  match fs.locate false path with
  | .error e => .error e
  | .ok (.found ..) => .error .alreadyThere
  | .ok (.vacant place) => .ok (fs.put place .empty)

/-- The paths that a path lies under, itself first, without names that stand for nothing. -/
def ancestors (path : Bytes) : List Bytes :=
  let start : Bytes := if isAbsolute path then [slash] else []
  let names := (path.splitOn slash).filter fun n => n ≠ [] ∧ n ≠ selfName
  names.foldl
    (fun (done : List Bytes) name =>
      match done with
      | last :: _ => (if last = [] then name else joinPath last name) :: done
      | [] => [name])
    [start]

/-- Makes the first of some directories, and the others before it if they are missing. -/
def makeFirst (fs : FileSystem) : List Bytes → Except FileError FileSystem
  | [] => .error .noParent
  | path :: parents =>
    if path = [] then .ok fs
    else
      match fs.makeDir path with
      | .ok fs => .ok fs
      | .error .notFound =>
        match fs.makeFirst parents with
        | .error e => .error e
        | .ok fs =>
          match fs.makeDir path with
          | .ok fs => .ok fs
          | .error e => if fs.isDir path then .ok fs else .error e
      | .error e => if fs.isDir path then .ok fs else .error e

/-- Makes a directory and those it lies in, unless they are there. -/
def makeDirs (fs : FileSystem) (path : Bytes) : Except FileError FileSystem :=
  fs.makeFirst (ancestors path)

end FileSystem
end FileChat
