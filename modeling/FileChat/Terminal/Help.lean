import FileChat.Terminal.Arguments

/-!
# Help

What the program says of itself and of its commands.
-/

namespace FileChat

namespace Topic

def commands : String :=
  "Commands:\n" ++
  "  chat     Chat with the assistant\n" ++
  "  onboard  Initialize configuration\n" ++
  "  models   List available models\n" ++
  "  help     Print this message or the help of the given subcommand(s)\n"

/-- What a topic is, how its command is written, and what stands below. -/
def layout (about usage rest : String) : String :=
  about ++ "\n\nUsage: " ++ usage ++ "\n\n" ++ rest

def plainOptions : String :=
  "Options:\n" ++
  "  -v, --verbose  Enable verbose logging\n" ++
  "  -h, --help     Print help\n"

def chatOptions : String :=
  "Options:\n" ++
  "  -m, --message <MESSAGE>  Send a single message instead of entering interactive mode\n" ++
  "  -l, --load <LOAD>        Load a file or directory before starting (repeatable)\n" ++
  "      --mode <MODE>        Context mode: smart, full or summary\n" ++
  "      --model <MODEL>      Model to use instead of the configured default\n" ++
  "  -v, --verbose            Enable verbose logging\n" ++
  "  -h, --help               Print help\n"

/-- The help on a topic. -/
def page : Topic → String
  | program =>
    layout "Cockpit — terminal assistant with budgeted code context" "cockpit [OPTIONS] <COMMAND>"
      (commands ++ "\n" ++ plainOptions ++ "  -V, --version  Print version\n")
  | chat => layout "Chat with the assistant" "cockpit chat [OPTIONS]" chatOptions
  | onboard => layout "Initialize configuration" "cockpit onboard [OPTIONS]" plainOptions
  | models => layout "List available models" "cockpit models [OPTIONS]" plainOptions
  | help =>
    layout "Print this message or the help of the given subcommand(s)" "cockpit help [COMMAND]"
      commands

end Topic
end FileChat
