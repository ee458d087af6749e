/-!
# Occurrences of a text in a text
-/

namespace FileChat.Text

/-- Whether the needle stands somewhere in the text, as it is written. -/
def occurs (needle : List Char) : List Char → Bool
  | [] => needle.isEmpty
  | c :: cs => needle.isPrefixOf (c :: cs) || occurs needle cs

theorem occurs_iff {needle text : List Char} : occurs needle text ↔ needle <:+: text := by
  induction text with
  | nil => simp [occurs]
  | cons c cs ih => simp [occurs, ih, List.infix_cons_iff]

/-- Goes through the text once: at an occurrence writes the replacement and passes over the needle,
whose remaining length is `skip`. -/
def replaceOnto (needle replacement : List Char) (out : List Char) :
    (skip : Nat) → List Char → List Char
  | _, [] => out.reverse
  | skip + 1, _ :: cs => replaceOnto needle replacement out skip cs
  | 0, c :: cs =>
    if needle.isPrefixOf (c :: cs) then
      replaceOnto needle replacement (replacement.reverse ++ out) (needle.length - 1) cs
    else replaceOnto needle replacement (c :: out) 0 cs

/-- Replaces the occurrences of a needle that is not empty, from the left, none overlapping. -/
def replace (needle replacement text : List Char) : List Char :=
  replaceOnto needle replacement [] 0 text

end FileChat.Text
