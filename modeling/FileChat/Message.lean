import FileChat.Tokens

/-!
# Messages

One turn of a conversation: who speaks, and what.
-/

namespace FileChat

inductive Role where
  | user
  | assistant
  | system
  deriving DecidableEq, Repr, Inhabited

def Role.name : Role → String
  | user => "user"
  | assistant => "assistant"
  | system => "system"

def Role.all : List Role := [.user, .assistant, .system]

structure Message where
  role : Role
  content : String
  deriving DecidableEq, Repr, Inhabited

namespace Message

def user (content : String) : Message := ⟨.user, content⟩

def assistant (content : String) : Message := ⟨.assistant, content⟩

def system (content : String) : Message := ⟨.system, content⟩

/-- The estimated tokens of the content. -/
def tokens (m : Message) : Nat := FileChat.tokens m.content

end Message

/-- The estimated tokens of some messages. -/
def totalTokens (messages : List Message) : Nat :=
  messages.foldr (fun m total => m.tokens + total) 0

end FileChat
