import FileChat.Backend.HttpText
import FileChat.Terminal.Program
import Std.Internal.UV.DNS
import Std.Internal.UV.TCP
import Std.Time.Zoned

/-!
# The executable

The surroundings of the program as the system gives them. There are no secured connections: an
address that asks for one is out of reach.
-/

namespace FileChat.Main

/-! ## Files -/

/-- The file error that a system error amounts to. -/
def fileError : IO.Error → FileError
  | .noFileOrDirectory .. => .notFound
  | .alreadyExists .. => .alreadyThere
  | .inappropriateType _ code _ => if code = 20 then .notDirectory else .isDirectory
  | e => .other (toString e)

def outcome {α : Type} (act : IO α) : IO (Except FileError α) := do
  try return .ok (← act)
  catch e => return .error (fileError e)

/-- The tree at a path that is no link. -/
partial def treeAt (path : String) : IO FileTree := do
  let place ← IO.FS.realPath path
  if (← place.metadata).type == .dir then
    let entries ← (← place.readDir).toList.mapM fun entry => do
      let name := FileSystem.bytes entry.fileName
      match (← entry.path.symlinkMetadata).type with
      | .symlink => return (name, .link [])
      | .other => return (name, .device)
      | _ => return (name, ← treeAt (toString entry.path))
    return .dir entries
  else return .file (← IO.FS.readBinFile place).toList

def look (path : String) : IO (Option FileTree) := do
  try return some (← treeAt path)
  catch _ => return none

/-! ## Connections -/

open Std.Internal.UV Std.Net

/-- What was promised, or the error in its place. -/
def await {α : Type} (promise : IO (IO.Promise (Except IO.Error α))) : IO α := do
  match ← IO.wait (← promise).result? with
  | some (.ok a) => return a
  | some (.error e) => throw e
  | none => throw (IO.userError "no answer")

/-- All that comes until the other side closes the connection. -/
partial def receiveAll (socket : TCP.Socket) (soFar : List UInt8) : IO (List UInt8) := do
  match ← await (socket.recv? 65536) with
  | some piece => receiveAll socket (soFar ++ piece.toList)
  | none => return soFar

def socketAddress (address : IPAddr) (port : Nat) : SocketAddress :=
  match address with
  | .v4 addr => .v4 ⟨addr, port.toUInt16⟩
  | .v6 addr => .v6 ⟨addr, port.toUInt16⟩

/-- A connection to the first of some addresses that takes it. -/
def connect (port : Nat) : List IPAddr → IO TCP.Socket
  | [] => throw (IO.userError "no connection")
  | address :: rest => do
    try
      let socket ← TCP.Socket.new
      await (socket.connect (socketAddress address port))
      return socket
    catch _ => connect port rest

/-- Sends a request to the server of an address and waits for the response. -/
def exchange (url : WebUrl) (request : HttpRequest) : IO HttpAnswer := do
  let port := url.port.getD url.scheme.usualPort
  let name := String.ofList (url.host.filter fun c => c ≠ '[' ∧ c ≠ ']')
  let socket ← connect port (← await (DNS.getAddrInfo name (toString port) 0)).toList
  await (socket.send #[⟨(HttpText.ofRequest url.authority url.target request).toArray⟩])
  match HttpText.response? (← receiveAll socket []) with
  | some response => return .response response
  | none => return .unreachable

/-- How many times it is looked whether a list of models has come, and the milliseconds between. -/
def patience : Nat × UInt32 := (200, 50)

/-- Gives up after some looks, unless it is called off. -/
def giveUp : Nat → IO HttpAnswer
  | 0 => return .timedOut
  | looks + 1 => do
    if ← IO.checkCanceled then return .timedOut
    IO.sleep patience.2
    giveUp looks

def send (request : HttpRequest) : IO HttpAnswer := do
  match WebUrl.ofText request.url with
  | .error _ => return .unreachable
  | .ok url =>
    if url.scheme ≠ .http then return .unreachable
    let reached : IO HttpAnswer := do
      try exchange url request
      catch _ => return .unreachable
    if request.method ≠ "GET" then reached
    else
      let answer ← reached.asTask
      let watch ← (giveUp patience.1).asTask
      let first ← IO.waitAny [answer, watch]
      IO.cancel watch
      return first.toOption.getD .unreachable

/-! ## The program -/

def clock : IO LocalTime := do
  let now ← Std.Time.PlainDateTime.now
  return { year := now.year.toInt, month := now.month.val.toNat, day := now.day.val.toNat
           hour := now.hour.val.toNat, minute := now.minute.val.toNat
           second := now.second.val.toNat }

def host : Host IO where
  print text := do
    let output ← IO.getStdout
    output.putStr text
    output.flush
  complain text := IO.eprint text
  look := look
  makeDirs path := if path.isEmpty then return .ok () else outcome (IO.FS.createDirAll path)
  write path content := outcome (IO.FS.writeFile path content)
  send := send
  now := clock
  ticks := IO.monoMsNow

/-- A line of the standard input, with its end; nothing if the input has ended. -/
partial def readLine (input : IO.FS.Stream) (soFar : Bytes) : IO Bytes := do
  match (← input.read 1).toList with
  | [] => return soFar
  | b :: _ =>
    if b = ByteLines.lineFeed then return soFar ++ [b] else readLine input (soFar ++ [b])

/-- Holds a conversation over the standard input. -/
partial def converse (input : IO.FS.Stream) (r : Repl) : IO UInt32 := do
  IO.print Screen.prompt
  (← IO.getStdout).flush
  match ByteLines.ofInput (← readLine input []) with
  | [] => Program.finish host .farewell
  | line :: _ =>
    match ← r.stepBytes host line with
    | .going r => converse input r
    | .ended e => Program.finish host e

end FileChat.Main

open FileChat in
def main (arguments : List String) : IO UInt32 := do
  let env : Environment :=
    { home := ← IO.getEnv "HOME", apiKey := ← IO.getEnv "COCKPIT_API_KEY"
      provider := ← IO.getEnv "COCKPIT_PROVIDER", model := ← IO.getEnv "COCKPIT_MODEL"
      vpn := ← IO.getEnv "VPN_STATUS" }
  match ← Program.start Main.host env arguments with
  | .stop code => return code
  | .converse r => Main.converse (← IO.getStdin) r
