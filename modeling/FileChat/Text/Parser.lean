/-!
# Parsers

A parser takes a part off the front of a text, or fails and takes nothing. A repetition is given a
number that it cannot exceed, such as the length of the text.
-/

namespace FileChat

/-- Takes a part off the front of a text. -/
abbrev Parser := StateT (List Char) Option

namespace Parser

/-- The next character, without taking it. -/
def peek? : Parser (Option Char) := fun cs => some (cs.head?, cs)

/-- The next character, if it is of a kind. -/
def satisfy (p : Char → Bool) : Parser Char
  | c :: cs => if p c then some (c, cs) else none
  | [] => none

def char (c : Char) : Parser Unit := do let _ ← satisfy (· == c)

/-- A text that stands next. -/
def literal (text : List Char) : Parser Unit := fun cs =>
  if text.isPrefixOf cs then some ((), cs.drop text.length) else none

/-- All characters of a kind that stand next. -/
def takeWhile (p : Char → Bool) : Parser (List Char) := fun cs =>
  some (cs.takeWhile p, cs.dropWhile p)

/-- Whether a parser would succeed, without taking anything. -/
def ahead {α : Type} (p : Parser α) : Parser Bool := fun cs => some ((p cs).isSome, cs)

/-- A parser as often as it succeeds, at most so many times. -/
def many {α : Type} : Nat → Parser α → Parser (List α)
  | 0, _ => pure []
  | limit + 1, p => fun cs =>
    match p cs with
    | none => some ([], cs)
    | some (a, rest) => ((a :: ·) <$> many limit p) rest

/-- The characters that are left. -/
def remaining : Parser Nat := fun cs => some (cs.length, cs)

def ensure (b : Bool) : Parser Unit := if b then pure () else failure

def ofOption {α : Type} : Option α → Parser α
  | some a => pure a
  | none => failure

/-- Parts with a separator between them; a separator that no part follows is left. -/
def separated {α : Type} (limit : Nat) (p : Parser α) (separator : Parser Unit) :
    Parser (List α) := do
  match ← optional p with
  | none => pure []
  | some first =>
    let rest ← many limit (do separator; p)
    pure (first :: rest)

end Parser

end FileChat
