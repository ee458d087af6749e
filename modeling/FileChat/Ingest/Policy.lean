import FileChat.Config
import FileChat.Path
import FileChat.Text.Blank
import FileChat.Text.Lowercase

/-!
# Ingestion policy

Which files a load takes and which directories it enters.
-/

namespace FileChat

structure IngestPolicy where
  /-- In lower case, with their dots. -/
  extensions : List (List Char)
  excludedDirs : List (List Char)
  excludedFiles : List (List Char)
  maxFileSize : Nat
  maxFiles : Nat
  deriving Inhabited

namespace IngestPolicy

open Text

/-- An extension as it is compared: trimmed, in lower case and with a dot in front. -/
def normalExtension (extension : String) : List Char :=
  let e := lower (trim extension.toList)
  if e.head? = some '.' then e else '.' :: e

def ofConfig (c : IngestConfig) : IngestPolicy :=
  { extensions := c.allowedExtensions.map normalExtension
    excludedDirs := c.excludeDirs.map (·.toList)
    excludedFiles := c.excludeFiles.map (·.toList)
    maxFileSize := c.maxFileSize
    maxFiles := c.maxFiles }

/-- Whether a directory of that name is passed over. -/
def excludesDir (p : IngestPolicy) (name : List Char) : Bool := p.excludedDirs.contains name

/-- Whether a file of that name is taken. -/
def acceptsName (p : IngestPolicy) (name : List Char) : Bool :=
  !p.excludedFiles.contains name &&
    match Path.extension? name with
    | some e => p.extensions.contains ('.' :: lower e)
    | none => false

/-- Whether the file at a path is taken, its size apart. -/
def accepts (p : IngestPolicy) (path : List Char) : Bool :=
  match Path.lastName? path with
  | some name => p.acceptsName name
  | none => false

/-- The greatest size in whole megabytes. -/
def maxMegabytes (p : IngestPolicy) : Nat := p.maxFileSize / (1024 * 1024)

end IngestPolicy
end FileChat
