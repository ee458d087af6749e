import FileChat.Calendar.LocalTime
import FileChat.Message
import FileChat.Text.Occurrence

/-!
# Composing a request

What is sent is the preamble, the history that fits, and the question with its context in front.
-/

namespace FileChat.Composition

/-- The place in a template where the time goes. -/
def timeMark : String := "\x7btime\x7d"

def defaultTemplate : String :=
  "You are a security-conscious AI assistant (Secure Cockpit).\n" ++
  "Date/time: " ++ timeMark ++ "\n" ++
  "Context: You have access to local files. Use them for precise answers.\n" ++
  "Style: technical, direct, no filler. Always put code in backticks with a language tag."

/-- The preamble at a time. -/
def preamble (template : String) (now : LocalTime) : String :=
  String.ofList (Text.replace timeMark.toList now.toMinute.toList template.toList)

/-- The question, after its context if there is any. -/
def question (context query : String) : String :=
  if context.isEmpty then query else context ++ "\n\nUser Question: " ++ query

/-- The messages of a request, in order. -/
def compose (preamble : String) (history : List Message) (context query : String) : List Message :=
  .system preamble :: (history ++ [.user (question context query)])

end FileChat.Composition
