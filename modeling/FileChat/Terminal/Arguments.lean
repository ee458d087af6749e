/-!
# Command lines

What the program is asked to do. Options are read word by word, and the first that settles the
matter does: a wish for help or for the version, or a word that cannot be read.
-/

namespace FileChat

/-- What a conversation begins with. -/
structure ChatOptions where
  /-- The one question, in place of a conversation. -/
  message : Option String := none
  /-- The paths to load, in order. -/
  load : List String := []
  mode : Option String := none
  model : Option String := none
  deriving DecidableEq, Repr, Inhabited

/-- What help is about: the program as a whole or one of its commands. -/
inductive Topic where
  | program
  | chat
  | onboard
  | models
  | help
  deriving DecidableEq, Repr

/-- What a command line asks for. -/
inductive Invocation where
  | chat (options : ChatOptions)
  | onboard
  | models
  | help (topic : Topic)
  | version
  | misuse
  deriving DecidableEq, Repr

namespace Arguments

/-- An option that stands alone. The verbose one asks for log output, of which there is none. -/
inductive Switch where
  | verbose
  | help
  | version
  deriving DecidableEq, Repr

/-- An option that takes a value. -/
inductive Setting where
  | message
  | load
  | mode
  | model
  deriving DecidableEq, Repr

inductive Name where
  | switch (s : Switch)
  | setting (s : Setting)
  deriving DecidableEq, Repr

/-- The option of a letter. -/
def ofLetter (topic : Topic) (c : Char) : Option Name :=
  match topic, c with
  | _, 'v' => some (.switch .verbose)
  | _, 'h' => some (.switch .help)
  | .program, 'V' => some (.switch .version)
  | .chat, 'm' => some (.setting .message)
  | .chat, 'l' => some (.setting .load)
  | _, _ => none

/-- The option of a word. -/
def ofWord (topic : Topic) (word : String) : Option Name :=
  match topic, word with
  | _, "verbose" => some (.switch .verbose)
  | _, "help" => some (.switch .help)
  | .program, "version" => some (.switch .version)
  | .chat, "message" => some (.setting .message)
  | .chat, "load" => some (.setting .load)
  | .chat, "mode" => some (.setting .mode)
  | .chat, "model" => some (.setting .model)
  | _, _ => none

/-- One thing that was given. -/
inductive Given where
  | switch (s : Switch)
  | setting (s : Setting) (value : String)
  /-- Something that cannot be read. -/
  | unreadable
  deriving DecidableEq, Repr

/-- What a word gives, and the option whose value is the next word. -/
abbrev Reading := List Given × Option Setting

/-- Reads letters: options that stand alone up to one that takes the rest as its value. -/
def readLetters (topic : Topic) : List Char → Reading
  | [] => ([], none)
  | c :: cs =>
    match ofLetter topic c with
    | none => ([.unreadable], none)
    | some (.switch s) =>
      let (given, awaiting) := readLetters topic cs
      (.switch s :: given, awaiting)
    | some (.setting s) =>
      match cs with
      | [] => ([], some s)
      | '=' :: value => ([.setting s (String.ofList value)], none)
      | value => ([.setting s (String.ofList value)], none)

/-- Reads an option in a word of its own, which may have its value after an equals sign. -/
def readWord (topic : Topic) (word : List Char) : Reading :=
  let name := word.takeWhile (· ≠ '=')
  let value? := (word.drop name.length).tail?
  match ofWord topic (String.ofList name), value? with
  | some (.switch s), none => ([.switch s], none)
  | some (.setting s), none => ([], some s)
  | some (.setting s), some value => ([.setting s (String.ofList value)], none)
  | some (.switch _), some _ | none, _ => ([.unreadable], none)

/-- What an argument gives; none if it is no option. -/
def read? (topic : Topic) (argument : String) : Option Reading :=
  match argument.toList with
  | '-' :: '-' :: c :: cs => some (readWord topic (c :: cs))
  | ['-', '-'] | ['-'] => none
  | '-' :: cs => some (readLetters topic cs)
  | _ => none

/-- The argument after which none is an option. -/
def separator : String := "--"

/-- Whether an argument may be the value of the option before it. -/
def isValue (argument : String) : Bool :=
  argument ≠ separator && (read? .program argument).isNone

/-- Reads options up to the first argument that is none, and gives the arguments from it on. -/
def scan (topic : Topic) : List String → List Given × List String
  | [] => ([], [])
  | argument :: rest =>
    match read? topic argument with
    | none => ([], argument :: rest)
    | some (given, none) =>
      let (more, left) := scan topic rest
      (given ++ more, left)
    | some (given, some s) =>
      match rest with
      | [] => (given ++ [.unreadable], [])
      | value :: rest =>
        if isValue value then
          let (more, left) := scan topic rest
          (given ++ .setting s value :: more, left)
        else (given ++ [.unreadable], [])

/-- Sets an option, unless it is one that may be set only once and has been. -/
def set? (o : ChatOptions) (s : Setting) (value : String) : Option ChatOptions :=
  match s with
  | .message => if o.message.isSome then none else some { o with message := some value }
  | .load => some { o with load := o.load ++ [value] }
  | .mode => if o.mode.isSome then none else some { o with mode := some value }
  | .model => if o.model.isSome then none else some { o with model := some value }

/-- Takes what was given in order: the options it sets, or the invocation that it comes to. -/
def settle (topic : Topic) (verbose : Bool) (o : ChatOptions) :
    List Given → Except Invocation ChatOptions
  | [] => .ok o
  | .unreadable :: _ => .error .misuse
  | .switch .help :: _ => .error (.help topic)
  | .switch .version :: _ => .error .version
  | .switch .verbose :: rest =>
    if verbose then .error .misuse else settle topic true o rest
  | .setting s value :: rest =>
    match set? o s value with
    | some o => settle topic verbose o rest
    | none => .error .misuse

/-- The options of a command, and the invocation that they make. Nothing else may follow it. -/
def command (topic : Topic) (make : ChatOptions → Invocation) (arguments : List String) :
    Invocation :=
  let (given, left) := scan topic arguments
  match settle topic false {} given with
  | .error i => i
  | .ok o => if left = [] ∨ left = [separator] then make o else .misuse

/-- Help about what is named. -/
def helpOn : List String → Invocation
  | [] => .help .program
  | ["chat"] => .help .chat
  | ["onboard"] => .help .onboard
  | ["models"] => .help .models
  | ["help"] => .help .help
  | _ => .misuse

end Arguments

/-- What a command line asks for. -/
def Invocation.ofArguments (arguments : List String) : Invocation :=
  let (given, left) := Arguments.scan .program arguments
  match Arguments.settle .program false {} given with
  | .error i => i
  | .ok _ =>
    match left with
    | "chat" :: rest => Arguments.command .chat .chat rest
    | "onboard" :: rest => Arguments.command .onboard (fun _ => .onboard) rest
    | "models" :: rest => Arguments.command .models (fun _ => .models) rest
    | "help" :: rest => Arguments.helpOn rest
    | _ => .misuse

end FileChat
