import FileChat.Calendar.LocalTime
import FileChat.Message

/-!
# Transcripts

The history of a session as a Markdown document.
-/

namespace FileChat.Transcript

def fileName (now : LocalTime) : String := "session_" ++ now.stamp ++ ".md"

def heading : Role → String
  | .user => "USER"
  | .assistant => "ASSISTANT"
  | .system => "SYSTEM"

def turn (m : Message) : String := "## " ++ heading m.role ++ "\n" ++ m.content ++ "\n\n"

/-- The document of a history. -/
def render (history : List Message) (now : LocalTime) : String :=
  "# Chat Session - " ++ now.stamp ++ "\n\n" ++ String.join (history.map turn)

end FileChat.Transcript
