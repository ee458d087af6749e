import FileChat.Artifact
import FileChat.Fault
import FileChat.Files.System
import FileChat.Ingest.Policy
import FileChat.Text.Utf8

/-!
# Loading

A load takes one file, or the files of a directory and all below it, in the order of their names at
each level. Links below the root are neither followed nor taken. A file that is too large is an
entry of its own kind, and only a root that is not there is an error.
-/

namespace FileChat

/-- A file taken, and what was found in it. -/
structure LoadedFile where
  path : String
  outcome : Outcome

namespace Load

/-- A file met on the way: its path, its name and its content. -/
structure Met where
  path : Bytes
  name : FileName
  content : Bytes

/-- Whether a directory entry is a directory that the policy passes over. -/
def isExcluded (policy : IngestPolicy) (name : FileName) (t : FileTree) : Bool :=
  t.isDir && policy.excludesDir (Utf8.decodeReplacing name)

mutual
/-- The regular files of a tree that stands at a path, each directory in the order of its names. -/
def filesUnder (policy : IngestPolicy) (path : Bytes) (name : FileName) : FileTree → List Met
  | .file content => [⟨path, name, content⟩]
  | .dir entries =>
    ((filesOfEntries policy path entries).mergeSort fun a b => !decide (b.1 < a.1)).flatMap (·.2)
  | .link _ | .device => []
/-- The regular files of each entry of a directory. -/
def filesOfEntries (policy : IngestPolicy) (path : Bytes) :
    List (FileName × FileTree) → List (FileName × List Met)
  | [] => []
  | (name, t) :: rest =>
    (name,
      if isExcluded policy name t then []
      else filesUnder policy (FileSystem.joinPath path name) name t) ::
      filesOfEntries policy path rest
end

/-- The text of some bytes. What is no text is dropped, and so are replacement characters. -/
def decodeDropping (bytes : Bytes) : String :=
  String.ofList ((Utf8.decodeReplacing bytes).filter (· ≠ Utf8.replacement))

/-- What becomes of a file's content. -/
def outcome (policy : IngestPolicy) (content : Bytes) : Outcome :=
  if policy.maxFileSize < content.length then
    .error ("too large (>" ++ toString policy.maxMegabytes ++ " MB)")
  else .ok (decodeDropping content)

/-- Whether a file is taken by its name, which has to be text. -/
def acceptsMet (policy : IngestPolicy) (m : Met) : Bool :=
  match Utf8.decode? m.name with
  | some name => policy.acceptsName name
  | none => false

def entryOf (policy : IngestPolicy) (m : Met) : LoadedFile :=
  ⟨String.ofList (Utf8.decodeReplacing m.path), outcome policy m.content⟩

/-- The files of a directory that stands at a path. -/
def ofDirectory (policy : IngestPolicy) (path : Bytes) (t : FileTree) : List LoadedFile :=
  (((filesUnder policy path [] t).filter (acceptsMet policy)).take policy.maxFiles).map
    (entryOf policy)

/-- The one file at a path, if the policy takes it. -/
def ofFile (policy : IngestPolicy) (path : String) (content : Bytes) : List LoadedFile :=
  if policy.accepts path.toList then [⟨path, outcome policy content⟩] else []

/-- The path that is meant: without white space around it, and the tilde expanded. -/
def target (home path : String) : String :=
  Path.expandTilde home (String.ofList (Text.trim path.toList))

/-- Loads what stands at a path, links followed. -/
def ofTree (policy : IngestPolicy) (path : String) :
    Option FileTree → Except LoadError (List LoadedFile)
  | none => .error (.notFound path)
  | some (.file content) => .ok (ofFile policy path content)
  | some t => .ok (ofDirectory policy (FileSystem.bytes path) t)

/-- Loads a file or a directory. -/
def load (fs : FileSystem) (home : String) (policy : IngestPolicy) (path : String) :
    Except LoadError (List LoadedFile) :=
  let path := target home path
  ofTree policy path (fs.get? (FileSystem.bytes path))

end Load
end FileChat
