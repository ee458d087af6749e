import FileChat.Session
import FileChat.Terminal.Command

/-!
# What the terminal shows

The texts of the conversation apart from the answers themselves. Each ends its last line.
-/

namespace FileChat.Screen

/-- Lines, each with its end. -/
def lines (texts : List String) : String := String.join (texts.map (· ++ "\n"))

/-- What stands before the line that the user types. -/
def prompt : String := "  You > "

/-- What stands before an answer. -/
def answering : String := "\n  Assistant > "

def farewell : String := lines ["", "  Goodbye!", ""]

/-- How a conversation begins. -/
def banner (network provider model : String) (s : Session) : String :=
  lines
    ["",
      "  ╔══════════════════════════════════════════════╗",
      "  ║            Cockpit — Interactive Mode        ║",
      "  ╚══════════════════════════════════════════════╝",
      "",
      "  Network:   " ++ network,
      "  Provider:  " ++ provider,
      "  Model:     " ++ model,
      "  Mode:      " ++ s.mode.name,
      "  Context:   " ++ toString s.pool.size ++ " files (~" ++ toString s.pool.totalTokens ++
        " tokens)",
      "",
      "  Type a question, or /help for commands.",
      ""]

/-- Seconds with one place, from milliseconds. -/
def seconds (milliseconds : Nat) : String :=
  let tenths := (milliseconds + 50) / 100
  toString (tenths / 10) ++ "." ++ toString (tenths % 10)

/-- Time and tokens of an answer. -/
def stats (elapsedMs : Nat) (g : Generated) : String :=
  seconds elapsedMs ++ "s | In: ~" ++ toString g.tokensIn ++ " | Out: ~" ++ toString g.tokensOut ++
    " toks"

/-- What follows an answer on the standard output. -/
def afterAnswer (elapsedMs : Nat) (g : Generated) : String :=
  let ending :=
    match g.status with
    | .aborted => Reply.abortMarker
    | .completed | .failed => ""
  lines [ending, "", "  [" ++ stats elapsedMs g ++ "]", ""]

/-- The fault of an answer, without the space around its note. -/
def fault (e : ProviderError) : String :=
  lines ["  " ++ String.ofList (Text.trim (Reply.errorNote e).toList)]

/-- What came of loading. -/
def loaded (r : IngestReport) : String :=
  "Loaded " ++ toString r.loaded ++ " files (total: " ++ toString r.poolSize ++ ")." ++
    if r.failed = 0 then "" else " " ++ toString r.failed ++ " errors."

/-- The files that are listed at most. -/
def maxListed : Nat := 20

def entry (e : InventoryEntry) : String :=
  "    " ++ (if e.pinned then "📌 " else "") ++ e.name ++ " (" ++ toString e.lines ++ " lines)"

/-- The files of a session. -/
def files (i : Inventory) : String :=
  if i.entries.isEmpty then lines ["  No files loaded."]
  else
    let count := i.entries.length
    let head :=
      "  " ++ toString count ++ " files (~" ++ toString i.totalTokens ++ " tokens)"
    let more :=
      if count ≤ maxListed then []
      else ["    ... and " ++ toString (count - maxListed) ++ " more"]
    let failed :=
      if i.failed = 0 then [] else ["  " ++ toString i.failed ++ " files failed to load."]
    lines (head :: (i.entries.take maxListed).map entry ++ more ++ failed)

def hit (h : SearchHit) : List String :=
  ("    " ++ h.name ++ ":") ::
    h.found.map fun m => "      L" ++ toString m.number ++ ": " ++ m.text

/-- What a search found. -/
def hits (needle : String) (found : List SearchHit) : String :=
  if found.isEmpty then lines ["  No matches for '" ++ needle ++ "'."]
  else lines (("  Matches for '" ++ needle ++ "':") :: found.flatMap hit)

/-- The names that were pinned for a pattern. -/
def pinned (pattern : String) (names : List String) : String :=
  if names.isEmpty then lines ["  No loaded file matches '" ++ pattern ++ "'."]
  else lines ["  Pinned: " ++ ", ".intercalate names]

def help : String :=
  lines ((Text.lines Command.helpText.toList).map fun line => "  " ++ String.ofList line)

end FileChat.Screen
