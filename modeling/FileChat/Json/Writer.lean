import FileChat.Json.Value
import FileChat.Number.Decimal

/-!
# Writing JSON

Compact text, members in the order given. A string escapes the quote, the backslash and the control
characters and nothing else; a floating-point value that is no number is written `null`.
-/

namespace FileChat.Json

/-- Positional notation of 64-bit values: exponents of the first digit from -5 to 15. -/
def doubleStyle : Decimal.Style := ⟨some (-5, 15), true, true⟩

/-- Positional notation of 32-bit values: exponents of the first digit from -6 to 12. -/
def singleStyle : Decimal.Style := ⟨some (-6, 12), true, true⟩

def realText (format : BinaryFormat) : Binary → List Char
  | .finite negative m e =>
    let style := match format with | .binary32 => singleStyle | .binary64 => doubleStyle
    Decimal.finiteText style format negative m e
  | _ => ['n', 'u', 'l', 'l']

/-- A character inside quotes. -/
def escape (c : Char) : List Char :=
  if c = '"' then ['\\', '"']
  else if c = '\\' then ['\\', '\\']
  else if c = '\n' then ['\\', 'n']
  else if c = '\r' then ['\\', 'r']
  else if c = '\t' then ['\\', 't']
  else if c = '\x08' then ['\\', 'b']
  else if c = '\x0c' then ['\\', 'f']
  else if c.toNat < 0x20 then
    ['\\', 'u', '0', '0', (c.toNat / 16).digitChar, (c.toNat % 16).digitChar]
  else [c]

def stringText (s : List Char) : List Char := '"' :: (s.flatMap escape ++ ['"'])

namespace Value

mutual
/-- The compact text of a value. -/
def text : Value → List Char
  | null => ['n', 'u', 'l', 'l']
  | bool true => ['t', 'r', 'u', 'e']
  | bool false => ['f', 'a', 'l', 's', 'e']
  | integer n => (toString n).toList
  | real format x => realText format x
  | string s => stringText s.toList
  | array [] => ['[', ']']
  | array (v :: vs) => '[' :: (v.text ++ itemsText vs)
  | object [] => ['\x7b', '\x7d']
  | object ((k, v) :: ms) => '\x7b' :: (stringText k.toList ++ ':' :: (v.text ++ membersText ms))
  | unreadable => ['n', 'u', 'l', 'l']
/-- The items after the first, up to the closing bracket. -/
def itemsText : List Value → List Char
  | [] => [']']
  | v :: vs => ',' :: (v.text ++ itemsText vs)
/-- The members after the first, up to the closing brace. -/
def membersText : List (String × Value) → List Char
  | [] => ['\x7d']
  | (k, v) :: ms => ',' :: (stringText k.toList ++ ':' :: (v.text ++ membersText ms))
end

def toText (v : Value) : String := String.ofList v.text

end Value
end FileChat.Json
