import FileChat.Files.Tree

/-!
# HTTP as it is seen from here

What is asked of a server, and what comes back: nothing at all, or a status and the pieces of a
body, after which the connection may break.
-/

namespace FileChat

structure HttpRequest where
  method : String
  url : String
  /-- The value of the `Authorization` header. -/
  authorization : String
  contentType : Option String := none
  accept : Option String := none
  body : Option String := none
  deriving DecidableEq, Repr, Inhabited

structure HttpResponse where
  status : Nat
  pieces : List Bytes
  /-- Whether the connection breaks after the pieces. -/
  broken : Bool
  deriving DecidableEq, Repr, Inhabited

/-- What comes back. -/
inductive HttpAnswer where
  | response (r : HttpResponse)
  /-- No response: there is no way to the server. -/
  | unreachable
  /-- No response in time. -/
  | timedOut

namespace HttpResponse

def isSuccess (r : HttpResponse) : Bool := 200 ≤ r.status && r.status < 300

/-- The whole body, unless the connection breaks. -/
def body? (r : HttpResponse) : Option Bytes := if r.broken then none else some r.pieces.flatten

end HttpResponse

/-- Whether a header may have a value: a tab is the only control that may stand in it. -/
def isHeaderValue (value : String) : Bool :=
  value.toList.all fun c => c == '\t' || (0x20 ≤ c.toNat && c.toNat != 0x7F)

end FileChat
