import FileChat.Toml.Grammar
import FileChat.Toml.Table

/-!
# TOML documents

A document is a sequence of lines. Its tables are gathered under the header that was read last and
put into place when the next one begins.
-/

namespace FileChat.Toml

open FileChat.Parser

/-! ## Values -/

/-- The text of a number with a fraction or an exponent. -/
def floatText : Parser (Bool × List Char × List Char × Int) := do
  let (negative, whole) ← decimal
  let fraction ← optional (do char '.'; digits Char.isDigit)
  let exponent ← optional (do
    let _ ← satisfy fun c => c == 'e' || c == 'E'
    let negative ← sign
    let ds ← digits Char.isDigit
    let n : Int := Text.digitsValue 10 ds
    pure (if negative then -n else n))
  ensure (fraction.isSome || exponent.isSome)
  pure (negative, whole, fraction.getD [], exponent.getD 0)

/-- A number that is not whole. One that is too great is refused, one that is too small a negative
number is the negative infinity. -/
def floatNumber : Parser Binary := do
  let (negative, whole, fraction, exponent) ← floatText
  let x := Binary.ofDecimal .binary64 negative (Text.digitsValue 10 (whole ++ fraction))
    (exponent - fraction.length)
  ensure (x != .infinite false)
  pure x

def specialFloat : Parser Binary := do
  let negative ← sign
  (do literal ['i', 'n', 'f']; pure (.infinite negative)) <|>
    (do literal ['n', 'a', 'n']; pure .nan)

/-- Whether a float begins here, right or wrong: then no integer is tried. -/
def floatAhead : Parser Bool := ahead do
  let _ ← decimal
  satisfy fun c => c == '.' || c == 'e' || c == 'E'

/-- A date, a float or an integer, in this order. -/
def number : Parser Value := do
  match ← optional datetime with
  | some text => pure (.datetime text)
  | none =>
    if ← floatAhead then .float <$> floatNumber
    else (.float <$> specialFloat) <|> (.integer <$> integer)

/-- The table of the pairs between braces. -/
def inlineTable (pairs : List (List String × Value)) : Option Value :=
  (pairs.foldlM (fun (t : Table) (path, v) => t.addDotted path v) (.empty .header)).map
    Table.toValue

/-- A value inside so many containers that `depth` more would be too many. -/
def value : (depth : Nat) → Parser Value
  | 0 => failure
  | depth + 1 => do
    match ← peek? with
    | some '"' | some '\'' => do let cs ← stringText; pure (.string (String.ofList cs))
    | some '[' =>
      ensure (0 < depth)
      char '['
      let limit ← remaining
      let items ← separated limit (do spacing; let v ← value depth; spacing; pure v) (char ',')
      if !items.isEmpty then let _ ← optional (char ',')
      spacing
      char ']'
      pure (.array items)
    | some '\x7b' =>
      ensure (0 < depth)
      char '\x7b'
      let limit ← remaining
      let pair := do
        let path ← key
        char '='
        blanks
        let v ← value depth
        blanks
        pure (path, v)
      let pairs ← separated limit pair (char ',')
      blanks
      char '\x7d'
      ofOption (inlineTable pairs)
    | some 't' => do literal ['t', 'r', 'u', 'e']; pure (.boolean true)
    | some 'f' => do literal ['f', 'a', 'l', 's', 'e']; pure (.boolean false)
    | _ => number

/-! ## Lines -/

/-- The tables so far, and the one whose lines are being read. -/
structure Builder where
  root : Table := .empty .header
  current : Table := .empty .header
  /-- The path of the current header; empty before the first one. -/
  path : List String := []
  /-- Whether the current header has double brackets. -/
  repeated : Bool := false

namespace Builder

/-- Puts the current table into its place. -/
def close (b : Builder) : Option Table :=
  match b.path.reverse with
  | [] => some b.current
  | key :: parents =>
    b.root.update false (fun parent =>
      match parent.get? key with
      | none =>
        some (parent.set key (if b.repeated then .tables b.current [] else .table b.current))
      | some (.tables last earlier) =>
        if b.repeated then some (parent.set key (.tables b.current (last :: earlier))) else none
      | some (.table t) =>
        if !b.repeated ∧ t.origin ≠ .header then some (parent.set key (.table b.current)) else none
      | some (.value _) => none) parents.reverse

/-- Begins a table under a header. A table that was only passed before keeps what it has. -/
def openTable (b : Builder) (path : List String) : Option Builder := do
  let root ← b.close
  match path.reverse with
  | [] => none
  | key :: parents =>
    let found := findTable parents.reverse root
    let kept ← match found.bind (·.get? key) with
      | none => some (Table.empty .header)
      | some (.table t) => if t.origin = .passed then some (.mk .header t.entries) else none
      | some _ => none
    let root ← root.update false (fun parent => some (parent.erase key)) parents.reverse
    pure { root, current := kept, path, repeated := false }
where
  /-- The table at a path, if every name on it leads to one. -/
  findTable : List String → Table → Option Table
    | [], t => some t
    | key :: path, t =>
      match t.get? key with
      | some (.table sub) => findTable path sub
      | some (.tables last _) => findTable path last
      | _ => none

/-- Begins a further table under a header in double brackets. -/
def openRepeated (b : Builder) (path : List String) : Option Builder := do
  let root ← b.close
  match path.reverse with
  | [] => none
  | key :: parents =>
    let root ← root.update false (fun parent =>
      match parent.get? key with
      | none | some (.tables ..) => some parent
      | some _ => none) parents.reverse
    pure { root, current := .empty .header, path, repeated := true }

end Builder

def pairLine : Parser (List String × Value) := do
  let path ← key
  char '='
  blanks
  let v ← value depthLimit
  lineEnd
  pure (path, v)

def headerLine (opening closing : List Char) : Parser (List String) := do
  literal opening
  let path ← key
  literal closing
  lineEnd
  pure path

/-- One line, or what is blank before it. -/
def line (b : Builder) : Parser Builder := do
  match ← peek? with
  | some '#' => do comment; newline <|> endOfText; pure b
  | some '\n' | some '\r' => do newline; pure b
  | some '[' =>
    if ← ahead (literal ['[', '[']) then
      let path ← headerLine ['[', '['] [']', ']']
      ofOption (b.openRepeated path)
    else
      let path ← headerLine ['['] [']']
      ofOption (b.openTable path)
  | _ => do
    let (path, v) ← pairLine
    let current ← ofOption (b.current.addDotted path v)
    pure { b with current }

/-- All lines; each takes at least one character. -/
def allLines : Nat → Builder → Parser Builder
  | 0, b => do endOfText; pure b
  | limit + 1, b => do
    blanks
    if ← ahead endOfText then pure b
    else
      let b ← line b
      allLines limit b

/-- The mark of byte order that may stand in front. -/
def byteOrderMark : Char := '\ufeff'

/-- The table that a document is. -/
def read (text : String) : Option Value := do
  let cs := text.toList
  let cs := if cs.head? = some byteOrderMark then cs.drop 1 else cs
  let (b, _) ← (allLines (cs.length + 1) {}).run cs
  let root ← b.close
  pure root.toValue

end FileChat.Toml
