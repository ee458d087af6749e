import FileChat.Text.Lines

/-!
# Summaries

A long text is summarised by its first 40 and its last 20 lines, with a marker between them that
says how many are hidden. A text that is short, or that has few lines, or that would not become
shorter, is its own summary.
-/

namespace FileChat.Summary

open FileChat.Text

/-- The length up to which a text is its own summary. -/
def maxChars : Nat := 6000

def headLines : Nat := 40

def tailLines : Nat := 20

/-- The number of lines of a text. -/
def lineCount (content : String) : Nat := (lines content.toList).length

def marker (hidden : Nat) : List Char :=
  ("... [" ++ toString hidden ++ " lines hidden] ...").toList

/-- Head, marker and tail of more than 60 lines. -/
def preview (ls : List (List Char)) : List (List Char) :=
  ls.take headLines ++ marker (ls.length - headLines - tailLines) :: ls.drop (ls.length - tailLines)

end FileChat.Summary

namespace FileChat

open Text Summary in
/-- The summary of a text, never longer in bytes than the text. -/
def summarize (content : String) : String :=
  let ls := lines content.toList
  if content.length ≤ maxChars ∨ ls.length ≤ headLines + tailLines then content
  else
    let short := String.ofList (unlines (preview ls))
    if short.utf8ByteSize < content.utf8ByteSize then short else content

end FileChat
