import FileChat.Text.Lowercase
import FileChat.Url.Percent

/-!
# Hosts

A host is a name or an address. A name is written in lower case, its labels that are not ASCII in
the letters that stand for them; an address has one spelling, whatever its parts were written in.
-/

namespace FileChat.Url

/-! ## Labels that are not ASCII -/

namespace Punycode

/-- The letters `a` to `z` and then the digits. -/
def digitChar (d : Nat) : Char := Char.ofNat (if d < 26 then 97 + d else 22 + d)

/-- The bounds of the digit at a position. -/
def threshold (position bias : Nat) : Nat :=
  if position ≤ bias then 1 else if bias + 26 ≤ position then 26 else position - bias

def scaleDown (delta k : Nat) : Nat × Nat :=
  if 455 < delta then scaleDown (delta / 35) (k + 36) else (delta, k)
termination_by delta
decreasing_by omega

/-- The bias after a difference has been written. -/
def adapt (delta points : Nat) (first : Bool) : Nat :=
  let d := if first then delta / 700 else delta / 2
  let (d, k) := scaleDown (d + d / points) 0
  k + 36 * d / (d + 38)

theorem threshold_bounds (position bias : Nat) :
    1 ≤ threshold position bias ∧ threshold position bias ≤ 26 := by
  unfold threshold
  split
  · omega
  · split <;> omega

/-- A difference in digits of growing base. -/
def digits (bias position q : Nat) : List Char :=
  let t := threshold position bias
  if q < t then [digitChar q]
  else digitChar (t + (q - t) % (36 - t)) :: digits bias (position + 36) ((q - t) / (36 - t))
termination_by q
decreasing_by
  have h := threshold_bounds position bias
  exact Nat.lt_of_le_of_lt (Nat.div_le_self _ _) (by omega)

structure State where
  out : List Char
  delta : Nat
  bias : Nat
  handled : Nat

/-- One character of the label, while the code point `m` is being put in. -/
def put (basic m : Nat) (s : State) (c : Char) : State :=
  if c.toNat < m then { s with delta := s.delta + 1 }
  else if c.toNat = m then
    { out := s.out ++ digits s.bias 36 s.delta
      delta := 0
      bias := adapt s.delta (s.handled + 1) (s.handled == basic)
      handled := s.handled + 1 }
  else s

/-- The label in ASCII letters, without its mark. -/
def encode (label : List Char) : List Char :=
  let basic := label.filter (·.toNat < 0x80)
  let points := ((label.filter (0x80 ≤ ·.toNat)).map Char.toNat).mergeSort.eraseDups
  let start : State := ⟨if basic.isEmpty then [] else basic ++ ['-'], 0, 72, basic.length⟩
  let go := fun (p : State × Nat) m =>
    let s := { p.1 with delta := p.1.delta + (m - p.2) * (p.1.handled + 1) }
    let s := label.foldl (put basic.length m) s
    ({ s with delta := s.delta + 1 }, m + 1)
  (points.foldl go (start, 0x80)).1.out

end Punycode

/-- A label of a name in ASCII. -/
def asciiLabel (label : List Char) : List Char :=
  if label.all (·.toNat < 0x80) then label else "xn--".toList ++ Punycode.encode label

/-- The full stops of all scripts part the labels of a name. -/
def isFullStop (c : Char) : Bool := c == '.' || c == '。' || c == '．' || c == '｡'

/-- A name in lower case and ASCII. -/
def asciiName (name : List Char) : List Char :=
  ['.'].intercalate (((Text.lower name).splitOnP isFullStop).map asciiLabel)

/-- Characters that no host may have. -/
def isForbidden (c : Char) : Bool :=
  isControl c || " #%/:<>?@[\\]^|".toList.contains c

/-! ## Addresses of four numbers -/

/-- A number in base ten, eight after a zero, or sixteen after `0x`. -/
def number? (part : List Char) : Option Nat :=
  let (base, ds) :=
    match part with
    | '0' :: 'x' :: ds => (16, ds)
    | '0' :: 'X' :: ds => (16, ds)
    | '0' :: d :: ds => (8, d :: ds)
    | ds => (10, ds)
  if part.isEmpty then none
  else if ds.isEmpty then some 0
  else Text.number? base ds

/-- The parts of a name, without an empty one at the end. -/
def addressParts (name : List Char) : List (List Char) :=
  let parts := name.splitOn '.'
  if 1 < parts.length ∧ parts.getLast? = some [] then parts.dropLast else parts

/-- Whether a name is meant as an address: its last part is a number. -/
def endsInNumber (name : List Char) : Bool :=
  match (addressParts name).getLast? with
  | some last => (!last.isEmpty && last.all Char.isDigit) || (number? last).isSome
  | none => false

/-- The address of one to four numbers, of which the last fills the bytes that are left. -/
def address4? (name : List Char) : Option (List Char) := do
  let parts := addressParts name
  let ns ← parts.mapM number?
  let last ← ns.getLast?
  let front := ns.dropLast
  if 4 < ns.length ∨ front.any (255 < ·) ∨ Nat.pow 256 (5 - ns.length) ≤ last then none
  else
    let places := front.zipIdx.map fun (n, i) => n * Nat.pow 256 (3 - i)
    let value := places.foldr (· + ·) last
    let bytes := [value / 0x1000000, value / 0x10000 % 256, value / 256 % 256, value % 256]
    pure (['.'].intercalate (bytes.map fun n => (toString n).toList))

/-! ## Addresses in brackets -/

/-- Sixteen bits in up to four hexadecimal digits. -/
def group? (ds : List Char) : Option Nat :=
  if 4 < ds.length then none else Text.number? 16 ds

/-- A decimal byte without a zero in front. -/
def byte? (ds : List Char) : Option Nat :=
  if ds.isEmpty ∨ 3 < ds.length ∨ !ds.all Char.isDigit ∨ (ds.head? = some '0' ∧ 1 < ds.length) then
    none
  else
    let n := ds.foldl (fun n c => n * 10 + (c.toNat - 48)) 0
    if n < 256 then some n else none

/-- The last group, which may be an address of four bytes. -/
def lastGroups? (ds : List Char) : Option (List Nat) :=
  if ds.contains '.' then do
    match ← (ds.splitOn '.').mapM byte? with
    | [a, b, c, d] => pure [a * 256 + b, c * 256 + d]
    | _ => none
  else (group? ds).map fun n => [n]

/-- Groups between colons. -/
def groups? (text : List Char) : Option (List Nat) :=
  if text.isEmpty then some []
  else do
    let parts := text.splitOn ':'
    let last ← parts.getLast?
    let front ← parts.dropLast.mapM group?
    pure (front ++ (← lastGroups? last))

/-- The text up to two colons and the text after them. -/
def splitDouble : List Char → Option (List Char × List Char)
  | ':' :: ':' :: rest => some ([], rest)
  | c :: rest => (splitDouble rest).map fun (a, b) => (c :: a, b)
  | [] => none

/-- The eight groups of an address; two colons stand for the groups that are missing. -/
def groups8? (text : List Char) : Option (List Nat) := do
  match splitDouble text with
  | none =>
    let gs ← groups? text
    if gs.length = 8 then pure gs else none
  | some (a, b) =>
    let front ← groups? a
    let back ← groups? b
    if a.contains '.' ∨ 7 < front.length + back.length then none
    else pure (front ++ List.replicate (8 - front.length - back.length) 0 ++ back)

/-- How many groups from the front are zero. -/
def zeroRun (gs : List Nat) : Nat := (gs.takeWhile (· == 0)).length

/-- Where the longest run of zeros begins, and its length; the first of equal ones. -/
def longestRun (gs : List Nat) : Nat × Nat :=
  (List.range gs.length).foldl
    (fun best i =>
      let n := zeroRun (gs.drop i)
      if best.2 < n then (i, n) else best)
    (0, 0)

def groupsText (gs : List Nat) : List Char := [':'].intercalate (gs.map Text.hexDigits)

/-- The address with its longest run of zeros, of two at least, left out. -/
def address6Text (gs : List Nat) : List Char :=
  let (start, n) := longestRun gs
  if n < 2 then groupsText gs
  else groupsText (gs.take start) ++ [':', ':'] ++ groupsText (gs.drop (start + n))

/-- The one spelling of a host, if it is one. -/
def host? (text : List Char) : Option (List Char) :=
  match text with
  | '[' :: rest =>
    if rest.getLast? = some ']' then
      (groups8? rest.dropLast).map fun gs => '[' :: (address6Text gs ++ [']'])
    else none
  | _ => do
    let decoded ← Utf8.decode? (percentDecode text)
    let name := asciiName decoded
    if name.isEmpty ∨ name.any isForbidden then none
    else if endsInNumber name then address4? name
    else pure name

end FileChat.Url
