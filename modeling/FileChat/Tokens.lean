/-!
# Token estimates

Text is measured in tokens of three and a half characters each, rounded down. The estimate needs no
vocabulary, and every budget is compared with it.
-/

namespace FileChat

/-- The estimated tokens of a text. -/
def tokens (text : String) : Nat := text.length * 2 / 7

end FileChat
