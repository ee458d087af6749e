import FileChat.Text.Blank
import FileChat.Text.Lowercase
import FileChat.Text.Occurrence

/-!
# Commands at the prompt

A line that begins with a slash is a command, and so are `exit` and `quit`; anything else is a
question. A command's name ends at the first white space, and its argument is what follows, without
the white space around it.
-/

namespace FileChat

inductive Command where
  | load (path : String)
  | focus (pattern : String)
  | unfocus
  | files
  | search (needle : String)
  /-- Shows the model, or switches to another. -/
  | model (wanted : Option String)
  | mode (name : String)
  | save
  | clear
  | help
  | exit
  /-- A command without the argument that it needs; the text says how it is used. -/
  | usage (text : String)
  /-- A name in lower case that no command has. -/
  | unknown (name : String)
  deriving DecidableEq, Repr

namespace Command

open Text

def helpText : String :=
  "Commands:\n" ++
  "  /load <path>                   Load a file or directory into context\n" ++
  "  /focus <name>                  Pin files whose name contains <name>\n" ++
  "  /unfocus                       Remove all pins\n" ++
  "  /files                         List loaded files\n" ++
  "  /search <text>                 Search loaded files\n" ++
  "  /model [name]                  Show or switch the model (partial match)\n" ++
  "  /mode <smart|full|summary>     Context strategy\n" ++
  "  /save                          Export the chat as Markdown\n" ++
  "  /clear                         Reset files, pins and history\n" ++
  "  /help                          Show this help\n" ++
  "  exit | quit                    Leave\n" ++
  "Ctrl+C stops a running answer; Ctrl+C at the prompt exits."

/-- Whether a line is a word in ASCII letters of any case. -/
def isWord (word : String) (line : List Char) : Bool := line.map Char.toLower == word.toList

/-- A command with an argument, or its usage if there is none. -/
def withArgument (make : String → Command) (usage : String) : Option String → Command
  | some argument => make argument
  | none => .usage usage

/-- The command of a name in lower case and an argument. -/
def ofName (name : String) (argument : Option String) : Command :=
  match name with
  | "/load" => withArgument load "/load <path>" argument
  | "/focus" => withArgument focus "/focus <name>" argument
  | "/unfocus" => unfocus
  | "/files" => files
  | "/search" => withArgument search "/search <text>" argument
  | "/model" => model argument
  | "/mode" => withArgument mode "/mode <smart|full|summary>" argument
  | "/save" => save
  | "/clear" => clear
  | "/help" => help
  | other => unknown other

/-- The command on a line; none if the line is a question. -/
def ofLine? (line : String) : Option Command :=
  let line := trim line.toList
  if isWord "exit" line || isWord "quit" line then some exit
  else if line.head? ≠ some '/' then none
  else
    let (name, rest) := splitBlank line
    let argument := trim rest
    some (ofName (String.ofList (lower name))
      (if argument.isEmpty then none else some (String.ofList argument)))

end Command

/-- The model that is meant: the one of that very name, or else the first whose name has the text in
it. -/
def matchModel (models : List String) (wanted : String) : Option String :=
  match models.find? (· == wanted) with
  | some m => some m
  | none => models.find? fun m => Text.occurs wanted.toList m.toList

end FileChat
