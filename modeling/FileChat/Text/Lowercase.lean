import FileChat.Text.CaseTable

/-!
# Lower case

Every character has its own lower-case form, with one exception: a capital sigma at the end of a
word becomes the final one. A word ends there if, passing over the characters that case ignores, a
letter with case stands before the sigma and none after it.
-/

namespace FileChat.Text

def capitalSigma : Char := 'Σ'

/-- The lower-case form of one character, a sigma taken to stand inside a word. -/
def lowerChar (c : Char) : List Char :=
  let n := c.toNat
  if n < 0x80 then [c.toLower]
  else if n = 0x130 then ['i', '\u0307']
  else
    match caseRuns.find? (·.contains n) with
    | some run => [Char.ofNat ((n : Int) + run.offset).toNat]
    | none => [c]

def isCased (c : Char) : Bool :=
  if c.toNat < 0x80 then c.isAlpha else inRanges casedRanges c.toNat

def isCaseIgnorable (c : Char) : Bool := inRanges caseIgnorableRanges c.toNat

/-- Whether the first character that case does not ignore is a letter with case. -/
def startsCased (text : List Char) : Bool :=
  match text.dropWhile isCaseIgnorable with
  | c :: _ => isCased c
  | [] => false

/-- The lower-case form of a character between the text before it, in reverse, and the text after
it. -/
def lowerBetween (before : List Char) (c : Char) (after : List Char) : List Char :=
  if c = capitalSigma then
    if startsCased before && !startsCased after then ['ς'] else ['σ']
  else lowerChar c

/-- The lower-case form in reverse, in front of what `out` holds of the text before. -/
def lowerOnto (out before : List Char) : List Char → List Char
  | [] => out
  | c :: after => lowerOnto ((lowerBetween before c after).reverse ++ out) (c :: before) after

/-- The lower-case form of a text. -/
def lower (text : List Char) : List Char := (lowerOnto [] [] text).reverse

end FileChat.Text
