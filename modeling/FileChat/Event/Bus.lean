/-!
# The event bus

Everything published goes to every subscriber, who reads at a pace of its own. The bus keeps only
the newest events, up to its capacity: a subscriber that has fallen behind them is told how many it
has lost and goes on with the oldest one kept.
-/

namespace FileChat

/-- The newest events, the newest first, and for each subscriber the number of the event it reads
next. Events are numbered from zero in the order of publication. -/
structure Bus (α : Type) where
  capacity : Nat
  capacity_pos : 0 < capacity
  kept : List α
  published : Nat
  cursors : List Nat

/-- What a subscriber finds. -/
inductive Received (α : Type) where
  | event (a : α)
  | empty
  | lagged (lost : Nat)
  deriving DecidableEq, Repr

namespace Bus

variable {α : Type}

/-- The least power of two that is not below a positive number. -/
def roundUp (capacity : Nat) : Nat := capacity.nextPowerOfTwo

def maxCapacity : Nat := 0x7FFFFFFFFFFFFFFF

/-- A bus for at least so many events; none for no events, and none for more than can be counted. -/
def new? (capacity : Nat) : Option (Bus α) :=
  if 0 < capacity ∧ capacity ≤ maxCapacity then some ⟨roundUp capacity, Nat.pos_of_isPowerOfTwo
    (Nat.isPowerOfTwo_nextPowerOfTwo capacity), [], 0, []⟩ else none

def defaultCapacity : Nat := 256

/-- Publishes an event. Without a subscriber it is gone, for nobody can ever read it. -/
def publish (b : Bus α) (event : α) : Bus α :=
  if b.cursors.isEmpty then b
  else { b with kept := (event :: b.kept).take b.capacity, published := b.published + 1 }

/-- Adds a subscriber, who reads what is published from now on. Gives its index. -/
def subscribe (b : Bus α) : Bus α × Nat :=
  ({ b with cursors := b.cursors ++ [b.published] }, b.cursors.length)

/-- The number of the oldest event kept. -/
def oldest (b : Bus α) : Nat := b.published - b.kept.length

/-- What a subscriber finds next. -/
def receive (b : Bus α) (subscriber : Nat) : Bus α × Received α :=
  match b.cursors[subscriber]? with
  | none => (b, .empty)
  | some cursor =>
    if cursor < b.oldest then
      ({ b with cursors := b.cursors.set subscriber b.oldest }, .lagged (b.oldest - cursor))
    else
      match b.kept[b.published - 1 - cursor]? with
      | some event =>
        if cursor < b.published then
          ({ b with cursors := b.cursors.set subscriber (cursor + 1) }, .event event)
        else (b, .empty)
      | none => (b, .empty)

end Bus
end FileChat
