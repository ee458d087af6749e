import FileChat.Backend.Http
import FileChat.Text.Blank
import FileChat.Text.ByteLines
import FileChat.Text.Digit
import FileChat.Text.Utf8

/-!
# HTTP/1.1 as bytes

A request as it is sent, and a response out of all that came until the server closed the connection.
What stands between the head and the end is one body, in pieces if the head says that it is chunked.
-/

namespace FileChat.HttpText

def bytes (text : String) : Bytes := Utf8.encode text.toList

/-! ## Requests -/

def header (name value : String) : String := name ++ ": " ++ value ++ "\r\n"

/-- The bytes of a request, after which the server is to close the connection. -/
def ofRequest (host path : String) (r : HttpRequest) : Bytes :=
  let optional (name : String) (value : Option String) : String :=
    (value.map (header name)).getD ""
  let body := bytes (r.body.getD "")
  bytes
    (r.method ++ " " ++ path ++ " HTTP/1.1\r\n" ++ header "Host" host ++
      header "Authorization" r.authorization ++ optional "Content-Type" r.contentType ++
      optional "Accept" r.accept ++
      optional "Content-Length" (r.body.map fun _ => toString body.length) ++
      header "Connection" "close" ++ "\r\n") ++ body

/-! ## Responses -/

/-- The first line, and what follows it. -/
def nextLine : Bytes → Option (Bytes × Bytes)
  | [] => none
  | b :: rest =>
    if b = ByteLines.lineFeed then some ([], rest)
    else (nextLine rest).map fun (line, rest) => (b :: line, rest)

theorem length_nextLine {bs line rest : Bytes} (h : nextLine bs = some (line, rest)) :
    rest.length < bs.length := by
  induction bs generalizing line with
  | nil => simp [nextLine] at h
  | cons b bs ih =>
    rw [nextLine] at h
    split at h
    · simp only [Option.some.injEq, Prod.mk.injEq] at h
      simp [h.2]
    · obtain ⟨p, hp, he⟩ := Option.map_eq_some_iff.mp h
      simp only [Prod.mk.injEq] at he
      have := @ih p.1 (by rw [hp, ← he.2])
      simp only [List.length_cons]
      omega

def textOf (line : Bytes) : List Char := Utf8.decodeReplacing (ByteLines.chomp line)

/-- The lines of the head up to the empty one, and what follows it. -/
def splitHead (bs : Bytes) : Option (List (List Char) × Bytes) :=
  match _h : nextLine bs with
  | none => none
  | some (line, rest) =>
    if (textOf line).isEmpty then some ([], rest)
    else (splitHead rest).map fun (head, rest) => (textOf line :: head, rest)
termination_by bs.length
decreasing_by exact length_nextLine ‹_›

/-- A header's name in lower case and its value. -/
def ofHeader (line : List Char) : String × String :=
  let name := line.takeWhile (· ≠ ':')
  (String.ofList (name.map Char.toLower),
    String.ofList (Text.trim (line.drop (name.length + 1))))

/-- The status in the first line of a head. -/
def status? (line : List Char) : Option Nat :=
  let digits := ((line.dropWhile (· ≠ ' ')).drop 1).takeWhile Char.isDigit
  if digits.length = 3 then (String.ofList digits).toNat? else none

/-- The number in front of a chunk. -/
def chunkSize? (line : List Char) : Option Nat :=
  Text.number? 16 (line.takeWhile (Text.isDigitOf 16))

/-- The chunks of a body, and whether the last one came. -/
def chunks (bs : Bytes) : List Bytes × Bool :=
  match _h : nextLine bs with
  | none => ([], false)
  | some (line, rest) =>
    match chunkSize? (textOf line) with
    | none => ([], false)
    | some 0 => ([], true)
    | some n =>
      if rest.length < n then ([rest], false)
      else
        let (more, whole) := chunks (rest.drop (n + 2))
        (rest.take n :: more, whole)
termination_by bs.length
decreasing_by
  have := length_nextLine ‹nextLine bs = some _›
  simp only [List.length_drop]
  omega

/-- The pieces of a body, and whether it is whole. -/
def bodyOf (headers : List (String × String)) (bs : Bytes) : List Bytes × Bool :=
  if headers.lookup "transfer-encoding" = some "chunked" then chunks bs
  else
    match (headers.lookup "content-length").bind String.toNat? with
    | some n => ([bs.take n], n ≤ bs.length)
    | none => ([bs], true)

/-- The response that some bytes are. -/
def response? (bs : Bytes) : Option HttpResponse := do
  let (head, rest) ← splitHead bs
  let status ← head.head?.bind status?
  let (pieces, whole) := bodyOf (head.tail.map ofHeader) rest
  pure { status, pieces, broken := !whole }

end FileChat.HttpText
