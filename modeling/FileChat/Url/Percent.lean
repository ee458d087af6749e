import FileChat.Text.Digit
import FileChat.Text.Utf8

/-!
# Percent encoding

Which characters may stand in each part of a URL as they are; the bytes of the others are written in
hexadecimal after a percent sign.
-/

namespace FileChat.Url

/-- A byte in two hexadecimal digits of upper case. -/
def percentByte (b : UInt8) : List Char :=
  '%' :: [b.toNat / 16, b.toNat % 16].map fun d => d.digitChar.toUpper

/-- The controls and what is not ASCII: encoded everywhere. -/
def isControl (c : Char) : Bool := c.toNat < 0x20 || 0x7E < c.toNat

def inFragmentSet (c : Char) : Bool :=
  isControl c || c == ' ' || c == '"' || c == '<' || c == '>' || c == '`'

/-- The set for queries of schemes without rules of their own. -/
def inForeignQuerySet (c : Char) : Bool :=
  isControl c || c == ' ' || c == '"' || c == '#' || c == '<' || c == '>'

def inQuerySet (c : Char) : Bool := inForeignQuerySet c || c == '\''

def inPathSet (c : Char) : Bool :=
  inFragmentSet c || c == '#' || c == '?' || c == '\x7b' || c == '\x7d'

/-- Encodes the characters of a set. -/
def percentEncode (set : Char → Bool) (text : List Char) : List Char :=
  text.flatMap fun c =>
    if set c then (String.utf8EncodeChar c).flatMap percentByte else [c]

/-- The bytes of a text in which percent signs stand for bytes. -/
def percentDecode : List Char → List UInt8
  | '%' :: a :: b :: rest =>
    match Text.digit? a, Text.digit? b with
    | some x, some y => (x * 16 + y).toUInt8 :: percentDecode rest
    | _, _ => 37 :: percentDecode (a :: b :: rest)
  | c :: rest => String.utf8EncodeChar c ++ percentDecode rest
  | [] => []

end FileChat.Url
