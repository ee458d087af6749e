import FileChat.Text.Digit
import FileChat.Text.Parser

/-!
# Pieces of the TOML grammar

What stands inside a line: blanks, comments, strings, keys, and the text of numbers and dates.
-/

namespace FileChat.Toml

open FileChat.Parser

/-! ## Blanks and comments -/

def isBlank (c : Char) : Bool := c == ' ' || c == '\t'

/-- Characters that may stand in comments and literal strings: all but the controls, tab allowed. -/
def isPlain (c : Char) : Bool := c == '\t' || (0x20 ≤ c.toNat && c.toNat != 0x7F)

def blanks : Parser Unit := do let _ ← takeWhile isBlank

def newline : Parser Unit := literal ['\n'] <|> literal ['\r', '\n']

def comment : Parser Unit := do
  char '#'
  let _ ← takeWhile isPlain

def endOfText : Parser Unit
  | [] => some ((), [])
  | _ => none

/-- What may follow on a line after its statement. -/
def lineEnd : Parser Unit := do
  blanks
  let _ ← optional comment
  newline <|> endOfText

/-- Blanks, comments and line ends between the items of an array. -/
def spacing : Parser Unit := do
  let limit ← remaining
  let _ ← many limit (do blanks; let _ ← optional comment; newline)
  blanks

/-! ## Strings -/

/-- A character by its code point in so many hexadecimal digits. -/
def codePoint (digits : Nat) : Parser Char := do
  let cs ← (List.replicate digits ()).mapM fun _ => satisfy (Text.isDigitOf 16)
  let n := Text.digitsValue 16 cs
  if n.isValidChar then pure (Char.ofNat n) else failure

/-- What follows a backslash. -/
def escape : Parser Char := do
  let c ← satisfy fun _ => true
  match c with
  | 'b' => pure '\x08'
  | 't' => pure '\t'
  | 'n' => pure '\n'
  | 'f' => pure '\x0c'
  | 'r' => pure '\r'
  | '"' => pure '"'
  | '\\' => pure '\\'
  | 'u' => codePoint 4
  | 'U' => codePoint 8
  | _ => failure

/-- Between double quotes, on one line. -/
def basicString : Parser (List Char) := do
  char '"'
  let limit ← remaining
  let cs ← many limit
    ((do char '\\'; escape) <|> satisfy fun c => isPlain c && c != '"' && c != '\\')
  char '"'
  pure cs

/-- Between single quotes, on one line: every character stands for itself. -/
def literalString : Parser (List Char) := do
  char '\''
  let cs ← takeWhile fun c => isPlain c && c != '\''
  char '\''
  pure cs

/-- One or two quotes that do not belong to a closing mark. -/
def innerQuotes (quote : Char) : Parser (List Char) := do
  let qs ← takeWhile (· == quote)
  ensure (qs.length == 1 || qs.length == 2)
  pure qs

/-- How many quotes stand next. -/
def quotesAhead (quote : Char) : Parser Nat := fun cs =>
  some ((cs.takeWhile (· == quote)).length, cs)

/-- The closing mark of a string of several lines, and up to two quotes before it. -/
def closingQuotes (quote : Char) : Parser (List Char) := do
  let run ← quotesAhead quote
  let extra := min run 5 - 3
  literal (List.replicate (extra + 3) quote)
  pure (List.replicate extra quote)

/-- A backslash at the end of a line takes the line end and all blank space after it away. -/
def lineJoin : Parser (List Char) := do
  char '\\'
  blanks
  newline
  let limit ← remaining
  let _ ← many limit ((do let _ ← satisfy isBlank) <|> newline)
  pure []

def newlineChar : Parser (List Char) := do newline; pure ['\n']

/-- Between three double quotes, over several lines. -/
def multilineBasic : Parser (List Char) := do
  literal ['"', '"', '"']
  let _ ← optional newline
  let limit ← remaining
  let parts ← many limit
    (lineJoin
      <|> (do char '\\'; let c ← escape; pure [c])
      <|> (do let c ← satisfy fun c => isPlain c && c != '"' && c != '\\'; pure [c])
      <|> newlineChar
      <|> innerQuotes '"')
  let extra ← closingQuotes '"'
  pure (parts.flatten ++ extra)

/-- Between three single quotes, over several lines. -/
def multilineLiteral : Parser (List Char) := do
  literal ['\'', '\'', '\'']
  let _ ← optional newline
  let limit ← remaining
  let parts ← many limit
    ((do let c ← satisfy fun c => isPlain c && c != '\''; pure [c])
      <|> newlineChar
      <|> innerQuotes '\'')
  let extra ← closingQuotes '\''
  pure (parts.flatten ++ extra)

/-- Any of the four forms. -/
def stringText : Parser (List Char) := do
  if ← ahead (literal ['"', '"', '"']) then multilineBasic
  else if ← ahead (char '"') then basicString
  else if ← ahead (literal ['\'', '\'', '\'']) then multilineLiteral
  else literalString

/-! ## Keys -/

def isKeyChar (c : Char) : Bool := c.isAlphanum || c == '_' || c == '-'

def simpleKey : Parser String := do
  let cs ←
    if ← ahead (char '"') then basicString
    else if ← ahead (char '\'') then literalString
    else do
      let cs ← takeWhile isKeyChar
      ensure (!cs.isEmpty)
      pure cs
  pure (String.ofList cs)

/-- The number of containers, and of the names of one key, that is too many. -/
def depthLimit : Nat := 80

/-- Names with points between them. -/
def key : Parser (List String) := do
  let limit ← remaining
  let names ← separated limit (do blanks; let k ← simpleKey; blanks; pure k) (char '.')
  ensure (!names.isEmpty && names.length < depthLimit)
  pure names

/-! ## Numbers -/

/-- Digits, a single underscore allowed between two of them. -/
def digits (isDigit : Char → Bool) : Parser (List Char) := do
  let first ← satisfy isDigit
  let limit ← remaining
  let rest ← many limit (do let _ ← optional (char '_'); satisfy isDigit)
  pure (first :: rest)

def sign : Parser Bool := do
  match ← peek? with
  | some '+' => char '+'; pure false
  | some '-' => char '-'; pure true
  | _ => pure false

/-- A sign and decimal digits without a leading zero. -/
def decimal : Parser (Bool × List Char) := do
  let negative ← sign
  match ← peek? with
  | some '0' => char '0'; pure (negative, ['0'])
  | _ => let ds ← digits Char.isDigit; pure (negative, ds)

/-- Whether a number fits 64 bits with a sign. -/
def fitsInteger (n : Int) : Bool := Int64.minValue.toInt ≤ n && n ≤ Int64.maxValue.toInt

def based (mark : Char) (base : Nat) : Parser Int := do
  literal ['0', mark]
  let ds ← digits (Text.isDigitOf base)
  pure (Text.digitsValue base ds)

def integer : Parser Int := do
  let n ←
    if ← ahead (literal ['0', 'x']) then based 'x' 16
    else if ← ahead (literal ['0', 'o']) then based 'o' 8
    else if ← ahead (literal ['0', 'b']) then based 'b' 2
    else do
      let (negative, ds) ← decimal
      let n : Int := Text.digitsValue 10 ds
      pure (if negative then -n else n)
  ensure (fitsInteger n)
  pure n

/-! ## Dates and times -/

def twoDigits (low high : Nat) : Parser Nat := do
  let a ← satisfy Char.isDigit
  let b ← satisfy Char.isDigit
  let n := Text.digitsValue 10 [a, b]
  ensure (low ≤ n && n ≤ high)
  pure n

def date : Parser Unit := do
  let year ← (List.replicate 4 ()).mapM fun _ => satisfy Char.isDigit
  let year := Text.digitsValue 10 year
  char '-'
  let month ← twoDigits 1 12
  char '-'
  let leap := year % 4 = 0 ∧ (year % 100 ≠ 0 ∨ year % 400 = 0)
  let last :=
    if month = 2 then (if leap then 29 else 28)
    else if month = 4 ∨ month = 6 ∨ month = 9 ∨ month = 11 then 30 else 31
  let _ ← twoDigits 1 last

def time : Parser Unit := do
  let _ ← twoDigits 0 23
  char ':'
  let _ ← twoDigits 0 59
  char ':'
  let _ ← twoDigits 0 60
  let _ ← optional (do
    char '.'
    let ds ← takeWhile Char.isDigit
    ensure (!ds.isEmpty))

def offset : Parser Unit :=
  (do let _ ← satisfy fun c => c == 'Z' || c == 'z') <|> do
    let _ ← satisfy fun c => c == '+' || c == '-'
    let _ ← twoDigits 0 23
    char ':'
    let _ ← twoDigits 0 59

/-- A date, a time, or a date and a time with or without an offset. -/
def datetime : Parser String := fun cs =>
  let body : Parser Unit :=
    (do
      date
      let _ ← optional (do
        let _ ← satisfy fun c => c == 'T' || c == 't' || c == ' '
        time
        optional offset)) <|> time
  match body cs with
  | some (_, rest) => some (String.ofList (cs.take (cs.length - rest.length)), rest)
  | none => none

end FileChat.Toml
