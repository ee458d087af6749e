import FileChat.Toml.Value

/-!
# Tables in the making

While a document is read its tables remember how they came about, for that decides what may be added
to them: a table that stands in a header is closed to dotted keys, a table made by a dotted key is
closed to headers, and a table that was only passed on the way to another may still be given its own
header, once.
-/

namespace FileChat.Toml

/-- How a table came about. -/
inductive Origin where
  /-- By a header of its own. -/
  | header
  /-- On the way of a header. -/
  | passed
  /-- By a dotted key. -/
  | dotted
  deriving DecidableEq, Repr

mutual
/-- What a key stands for. -/
inductive Node where
  | value (v : Value)
  | table (t : Table)
  /-- Tables of one header in double brackets, the last one first. -/
  | tables (last : Table) (earlier : List Table)
inductive Table where
  | mk (origin : Origin) (entries : List (String × Node))
end

instance : Inhabited Table := ⟨.mk .header []⟩

namespace Table

def origin : Table → Origin
  | mk o _ => o

def entries : Table → List (String × Node)
  | mk _ es => es

def empty (origin : Origin) : Table := mk origin []

def get? (t : Table) (key : String) : Option Node := t.entries.lookup key

/-- Puts a node in the place of its key, or at the end. -/
def set (t : Table) (key : String) (n : Node) : Table :=
  if t.entries.any (·.1 == key) then
    mk t.origin (t.entries.map fun e => if e.1 == key then (key, n) else e)
  else mk t.origin (t.entries ++ [(key, n)])

def erase (t : Table) (key : String) : Table := mk t.origin (t.entries.filter (·.1 != key))

/-- Changes the table at a path, whose missing tables are made on the way. A dotted path stops at a
table that has a header. -/
def update (dotted : Bool) (change : Table → Option Table) : List String → Table → Option Table
  | [], t => change t
  | key :: path, t =>
    match t.get? key with
    | none => do
      let t' ← update dotted change path (empty (if dotted then .dotted else .passed))
      pure (t.set key (.table t'))
    | some (.value _) => none
    | some (.table sub) =>
      if dotted ∧ sub.origin = .header then none
      else do
        let t' ← update dotted change path sub
        pure (t.set key (.table t'))
    | some (.tables last earlier) => do
      let t' ← update dotted change path last
      pure (t.set key (.tables t' earlier))

/-- Adds a value under a new key. -/
def addNew (key : String) (v : Value) (t : Table) : Option Table :=
  if (t.get? key).isSome then none else some (t.set key (.value v))

/-- Adds the value of a dotted key. The last table on its path must be one that dotted keys make. -/
def addDotted (path : List String) (v : Value) (t : Table) : Option Table :=
  match path.reverse with
  | [] => none
  | [key] => t.addNew key v
  | key :: parents =>
    t.update true
      (fun parent => if parent.origin = .dotted then parent.addNew key v else none) parents.reverse

mutual
/-- The value that a finished table is. -/
def toValue : Table → Value
  | mk _ es => .table (entriesToValues es)
def entriesToValues : List (String × Node) → List (String × Value)
  | [] => []
  | (k, n) :: rest => (k, nodeToValue n) :: entriesToValues rest
def nodeToValue : Node → Value
  | .value v => v
  | .table t => t.toValue
  | .tables last earlier => .array (tablesToValues earlier [last.toValue])
def tablesToValues : List Table → List Value → List Value
  | [], out => out
  | t :: ts, out => tablesToValues ts (t.toValue :: out)
end

end Table
end FileChat.Toml
