import FileChat.Backend.Http
import FileChat.Calendar.LocalTime
import FileChat.Files.System

/-!
# The surroundings of the program

What the program does to the world and what it learns from it, in any monad. A `World` is one that
can be held in the hand: files, a clock that stands still, and servers that answer by what has been
asked so far.
-/

namespace FileChat

structure Host (m : Type → Type) where
  /-- Writes to the standard output. -/
  print : String → m Unit
  /-- Writes to the standard error. -/
  complain : String → m Unit
  /-- What stands at a path, links followed. -/
  look : String → m (Option FileTree)
  /-- Makes a directory and those it lies in, unless they are there. -/
  makeDirs : String → m (Except FileError Unit)
  /-- Writes a text file, in place of what was there. -/
  write : String → String → m (Except FileError Unit)
  send : HttpRequest → m HttpAnswer
  now : m LocalTime
  /-- The milliseconds of a clock that is never set. -/
  ticks : m Nat

/-- Surroundings as a value. -/
structure World where
  files : FileSystem
  clock : LocalTime
  /-- What comes back on the last of the requests so far, the latest of which stands first. -/
  answer : List HttpRequest → HttpAnswer
  requests : List HttpRequest := []
  output : String := ""
  errors : String := ""

namespace World

/-- Changes the files, if that succeeds. -/
def alter (change : FileSystem → Except FileError FileSystem) :
    StateM World (Except FileError Unit) :=
  modifyGet fun w =>
    match change w.files with
    | .ok files => (.ok (), { w with files })
    | .error e => (.error e, w)

def host : Host (StateM World) where
  print text := modify fun w => { w with output := w.output ++ text }
  complain text := modify fun w => { w with errors := w.errors ++ text }
  look path := return (← get).files.get? (FileSystem.bytes path)
  makeDirs path := alter fun fs => fs.makeDirs (FileSystem.bytes path)
  write path content := alter fun fs => fs.write (FileSystem.bytes path) (FileSystem.bytes content)
  send request :=
    modifyGet fun w =>
      let requests := request :: w.requests
      (w.answer requests, { w with requests })
  now := return (← get).clock
  ticks := return 0

end World
end FileChat
