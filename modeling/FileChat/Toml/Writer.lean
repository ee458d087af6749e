import FileChat.Number.Decimal
import FileChat.Toml.Value

/-!
# Writing TOML

Plain values come first, then the tables one after another under their headers. A list with items
has one item a line.
-/

namespace FileChat.Toml

/-- A character of a string between double quotes. -/
def escapeChar (c : Char) : List Char :=
  if c = '"' then ['\\', '"']
  else if c = '\\' then ['\\', '\\']
  else if c = '\x08' then ['\\', 'b']
  else if c = '\t' then ['\\', 't']
  else if c = '\n' then ['\\', 'n']
  else if c = '\x0c' then ['\\', 'f']
  else if c = '\r' then ['\\', 'r']
  else if c.toNat < 0x20 ∨ c.toNat = 0x7F then
    let ds := (Nat.toDigits 16 c.toNat).map Char.toUpper
    ['\\', 'u'] ++ List.replicate (4 - ds.length) '0' ++ ds
  else [c]

def stringLiteral (s : String) : String :=
  "\"" ++ String.ofList (s.toList.flatMap escapeChar) ++ "\""

/-- A key as it stands, or between quotes if it has other characters than a bare key may have. -/
def keyText (k : String) : String :=
  if !k.isEmpty && k.toList.all (fun c => c.isAlphanum || c == '_' || c == '-') then k
  else stringLiteral k

mutual
/-- A value on the right of an equals sign. -/
def valueText : Value → String
  | .string s => stringLiteral s
  | .integer n => toString n
  | .float x =>
    match x with
    | .nan => "nan"
    | x => Decimal.text Decimal.pointed .binary64 x
  | .boolean b => if b then "true" else "false"
  | .datetime t => t
  | .array [] => "[]"
  | .array items => "[\n" ++ itemsText items ++ "]"
  | .table entries => "\x7b " ++ pairsText entries ++ " \x7d"
def itemsText : List Value → String
  | [] => ""
  | v :: vs => "    " ++ valueText v ++ ",\n" ++ itemsText vs
def pairsText : List (String × Value) → String
  | [] => ""
  | [(k, v)] => keyText k ++ " = " ++ valueText v
  | (k, v) :: rest => keyText k ++ " = " ++ valueText v ++ ", " ++ pairsText rest
end

/-- A line for each plain value. -/
def plainLines : List (String × Value) → String
  | [] => ""
  | (_, .table _) :: rest => plainLines rest
  | (k, v) :: rest => keyText k ++ " = " ++ valueText v ++ "\n" ++ plainLines rest

/-- The tables under a header, each after an empty line. Their own tables follow them. -/
def tableBlocks (header : List String) : List (String × Value) → List String
  | [] => []
  | (k, .table entries) :: rest =>
    let path := header ++ [keyText k]
    let plain := plainLines entries
    let inner := tableBlocks path entries
    let own :=
      if plain.isEmpty ∧ ¬ inner.isEmpty then []
      else ["[" ++ ".".intercalate path ++ "]\n" ++ plain]
    own ++ inner ++ tableBlocks header rest
  | _ :: rest => tableBlocks header rest

/-- The document of a table's entries. -/
def write (entries : List (String × Value)) : String :=
  let plain := plainLines entries
  "\n".intercalate ((if plain.isEmpty then [] else [plain]) ++ tableBlocks [] entries)

end FileChat.Toml
