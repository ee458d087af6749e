/-!
# White space

The characters with the property `White_Space`, and what is cut at them: the two ends of a text, and
its words.
-/

namespace FileChat.Text

def isBlank (c : Char) : Bool :=
  let n := c.toNat
  (9 ≤ n && n ≤ 13) || n == 0x20 || n == 0x85 || n == 0xA0 || n == 0x1680 ||
    (0x2000 ≤ n && n ≤ 0x200A) || n == 0x2028 || n == 0x2029 || n == 0x202F || n == 0x205F ||
    n == 0x3000

/-- The text without the white space in front. -/
def trimLeft (text : List Char) : List Char := text.dropWhile isBlank

/-- The text without the white space at its end. -/
def trimRight (text : List Char) : List Char := (text.reverse.dropWhile isBlank).reverse

/-- The text without the white space at both ends. -/
def trim (text : List Char) : List Char := trimRight (trimLeft text)

/-- The text up to its first white space, and the text after that one character. -/
def splitBlank (text : List Char) : List Char × List Char :=
  (text.takeWhile (!isBlank ·), (text.dropWhile (!isBlank ·)).drop 1)

/-- The maximal runs without white space, in order. -/
def words (text : List Char) : List (List Char) :=
  (text.splitOnP isBlank).filter fun w => !w.isEmpty

end FileChat.Text
