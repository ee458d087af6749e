import FileChat.Url.Host

/-!
# URLs

A web address as it is sent: scheme and host in lower case, the usual port left out, the steps of
the path resolved, and what may not stand in it encoded. A name and password in front of the host
are no part of it.
-/

namespace FileChat

/-- The schemes whose addresses are written alike. Requests go to the first two. -/
inductive Scheme where
  | http
  | https
  | ftp
  | ws
  | wss
  deriving DecidableEq, Repr

namespace Scheme

def name : Scheme → String
  | http => "http"
  | https => "https"
  | ftp => "ftp"
  | ws => "ws"
  | wss => "wss"

def all : List Scheme := [.http, .https, .ftp, .ws, .wss]

/-- The port that need not be named. -/
def usualPort : Scheme → Nat
  | http | ws => 80
  | https | wss => 443
  | ftp => 21

/-- Whether requests are sent to addresses of the scheme. -/
def isWeb : Scheme → Bool
  | http | https => true
  | ftp | ws | wss => false

end Scheme

/-- An address in its one spelling. -/
structure WebUrl where
  scheme : Scheme
  host : List Char
  port : Option Nat
  /-- From the first slash on. -/
  path : List Char
  query : Option (List Char)
  fragment : Option (List Char)
  deriving DecidableEq, Repr

/-- Why a text is no address to which a request can go. -/
inductive UrlFault where
  | invalid
  /-- It is an address of another kind, with a host or without. -/
  | foreign (text : String) (hasHost : Bool)
  deriving DecidableEq, Repr

namespace WebUrl

open Url

/-- The host, and the port if it has to be named. -/
def authority (u : WebUrl) : String :=
  String.ofList (u.host ++ (u.port.map fun n => ':' :: (toString n).toList).getD [])

/-- What a request asks its server for: the path and the query. -/
def target (u : WebUrl) : String :=
  String.ofList (u.path ++ (u.query.map ('?' :: ·)).getD [])

def text (u : WebUrl) : String :=
  u.scheme.name ++ "://" ++ u.authority ++ u.target ++
    String.ofList ((u.fragment.map ('#' :: ·)).getD [])

/-- The text without the controls and spaces around it, and without tabs and line ends. -/
def clean (text : List Char) : List Char :=
  let edge (c : Char) : Bool := c.toNat ≤ 0x20
  let text := ((text.dropWhile edge).reverse.dropWhile edge).reverse
  text.filter fun c => c ≠ '\t' ∧ c ≠ '\n' ∧ c ≠ '\r'

/-- A scheme in lower case and what follows its colon. -/
def splitScheme (text : List Char) : Option (List Char × List Char) :=
  match text with
  | c :: _ =>
    let name := text.takeWhile fun c => c.isAlphanum || c == '+' || c == '-' || c == '.'
    let rest := text.drop name.length
    if c.isAlpha ∧ rest.head? = some ':' then some (name.map Char.toLower, rest.drop 1) else none
  | [] => none

def isSlash (c : Char) : Bool := c == '/' || c == '\\'

/-- The text before the first character of a kind, and the text from it on. -/
def splitAtFirst (p : Char → Bool) (text : List Char) : List Char × List Char :=
  (text.takeWhile (!p ·), text.dropWhile (!p ·))

/-- The part of an authority after the last `@`. -/
def withoutUser (authority : List Char) : List Char :=
  (authority.reverse.takeWhile (· ≠ '@')).reverse

/-- Host and port of an authority; the colons of an address in brackets do not count. -/
def splitPort (authority : List Char) : List Char × Option (List Char) :=
  let inBrackets :=
    if authority.head? = some '[' then
      let (a, b) := splitAtFirst (· == ']') authority
      (a ++ b.take 1, b.drop 1)
    else splitAtFirst (· == ':') authority
  match inBrackets.2 with
  | ':' :: port => (inBrackets.1, some port)
  | [] => (inBrackets.1, none)
  | rest => (inBrackets.1 ++ rest, none)

/-- A port that is named, unless it is the usual one. -/
def port? (usual : Option Nat) : Option (List Char) → Option (Option Nat)
  | none => some none
  | some ds =>
    if ds.all Char.isDigit then
      let n := ds.foldl (fun n c => n * 10 + (c.toNat - 48)) 0
      if ds.isEmpty ∨ some n = usual then some none
      else if n < 65536 then some (some n)
      else none
    else none

/-- Whether a step of a path stays where it is. -/
def isHere (step : List Char) : Bool :=
  let s := step.map Char.toLower
  s == ['.'] || s == ['%', '2', 'e']

/-- Whether a step of a path goes up. -/
def isUp (step : List Char) : Bool :=
  let s := String.ofList (step.map Char.toLower)
  s == ".." || s == ".%2e" || s == "%2e." || s == "%2e%2e"

/-- The steps of a path, resolved: the ones taken in reverse, the last one always kept. -/
def resolve (done : List (List Char)) : List (List Char) → List (List Char)
  | [] => done.reverse
  | [last] =>
    if isUp last then ([] :: done.drop 1).reverse
    else if isHere last then ([] :: done).reverse
    else (last :: done).reverse
  | step :: rest =>
    if isUp step then resolve (done.drop 1) rest
    else if isHere step then resolve done rest
    else resolve (step :: done) rest

/-- The path of a text that begins with its first step. -/
def pathText (isSeparator : Char → Bool) (text : List Char) : List Char :=
  let steps := resolve [] (text.splitOnP isSeparator)
  (steps.map fun s => '/' :: percentEncode inPathSet s).flatten

/-- What stands before the query, the query, and the fragment. -/
def splitTail (text : List Char) : List Char × Option (List Char) × Option (List Char) :=
  let (front, tail) := splitAtFirst (fun c => c == '?' || c == '#') text
  let (query, fragment) := splitAtFirst (· == '#') tail
  (front, query.tail?, fragment.tail?)

/-- The address after the scheme. -/
def ofRest? (scheme : Scheme) (rest : List Char) : Option WebUrl := do
  let (rest, query, fragment) := splitTail (rest.dropWhile isSlash)
  let (authority, path) := splitAtFirst isSlash rest
  let (hostText, portText) := splitPort (withoutUser authority)
  let host ← host? hostText
  let port ← port? (some scheme.usualPort) portText
  pure
    { scheme, host, port
      path := pathText isSlash (path.drop 1)
      query := query.map (percentEncode inQuerySet)
      fragment := fragment.map (percentEncode inFragmentSet) }

/-! ## Addresses of other kinds -/

/-- A host that is not looked at closely. -/
def foreignHost? (text : List Char) : Option (List Char) :=
  if text.head? = some '[' then host? text
  else if text.any fun c => " #/:<>?@[\\]^|".toList.contains c then none
  else some (percentEncode isControl text)

/-- The host with its port, and the path, of what stands between scheme and query. -/
def foreignFront? (front : List Char) : Option (List Char × List Char) :=
  match front with
  | '/' :: '/' :: rest => do
    let (authority, path) := splitAtFirst (· == '/') rest
    let (hostText, portText) := splitPort (withoutUser authority)
    let host ← foreignHost? hostText
    let port ← port? none portText
    let path := if path.isEmpty then [] else pathText (· == '/') (path.drop 1)
    pure (host ++ (port.map fun n => ':' :: (toString n).toList).getD [], path)
  | '/' :: rest => some ([], pathText (· == '/') rest)
  | text => some ([], percentEncode isControl text)

/-- The address of a scheme that has no rules of its own here. -/
def foreign? (scheme rest : List Char) : Option UrlFault := do
  let (front, query, fragment) := splitTail rest
  let (authority, path) ← foreignFront? front
  let slashes := if "//".toList.isPrefixOf front then "//".toList else []
  let query := (query.map fun q => '?' :: percentEncode inForeignQuerySet q).getD []
  let fragment := (fragment.map fun f => '#' :: percentEncode inFragmentSet f).getD []
  let text := scheme ++ ':' :: slashes ++ authority ++ path ++ query ++ fragment
  pure (.foreign (String.ofList text) (!authority.isEmpty))

/-- The address that a text stands for. -/
def ofText (text : String) : Except UrlFault WebUrl :=
  match splitScheme (clean text.toList) with
  | none => .error .invalid
  | some (name, rest) =>
    match Scheme.all.find? (·.name.toList == name) with
    | none => .error ((foreign? name rest).getD .invalid)
    | some scheme =>
      match ofRest? scheme rest with
      | none => .error .invalid
      | some u => if scheme.isWeb then .ok u else .error (.foreign u.text true)

end WebUrl
end FileChat
