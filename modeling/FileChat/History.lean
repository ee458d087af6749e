import FileChat.Message

/-!
# Trimming the history

Of the turns so far a request carries the newest that fit a token budget, without a gap between
them.
-/

namespace FileChat.History

def defaultBudget : Nat := 4000

/-- The messages from the front that fit into what is left, up to the first that does not. -/
def takeFitting (left : Nat) : List Message → List Message
  | [] => []
  | m :: rest => if m.tokens ≤ left then m :: takeFitting (left - m.tokens) rest else []

/-- The longest suffix of the history that fits the budget. -/
def trim (history : List Message) (budget : Nat) : List Message :=
  (takeFitting budget history.reverse).reverse

end FileChat.History
