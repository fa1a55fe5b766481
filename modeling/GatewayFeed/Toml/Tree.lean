import GatewayFeed.Toml.Value

/-!
The tables of a document while it is read. How a table came to be decides what may still be added:
a header opens a table once, a dotted key adds to tables that dotted keys or longer headers made,
and nothing is added to a value.
-/

namespace GatewayFeed.Toml

inductive Standing where
  /-- By its own header, or as the document itself. -/
  | opened
  /-- By the header of a table inside it. -/
  | implied
  /-- By a dotted key. -/
  | dotted
  deriving DecidableEq, Repr

/-- `tables` is an array that headers in double brackets extend; its last element is apart from
those before it. -/
inductive Node where
  | value (v : Toml)
  | table (standing : Standing) (members : List (String × Node))
  | tables (earlier : List (List (String × Node))) (last : List (String × Node))

abbrev Members := List (String × Node)

namespace Node

mutual

def toValue : Node → Toml
  | .value v => v
  | .table _ ms => .table (membersToValue ms)
  | .tables earlier last => .array (elementsToValue earlier ++ [.table (membersToValue last)])

def membersToValue : List (String × Node) → List (String × Toml)
  | [] => []
  | (k, n) :: ms => (k, n.toValue) :: membersToValue ms

def elementsToValue : List (List (String × Node)) → List Toml
  | [] => []
  | ms :: rest => .table (membersToValue ms) :: elementsToValue rest

end

end Node

namespace Members

def find? (key : String) (ms : Members) : Option Node := (List.find? (·.1 = key) ms).map (·.2)

/-- A new member stands at the end, an old one keeps its place. -/
def put (key : String) (n : Node) (ms : Members) : Members :=
  if List.any ms (·.1 = key) then ms.map fun m => if m.1 = key then (key, n) else m
  else ms ++ [(key, n)]

def erase (key : String) (ms : Members) : Members := List.filter (·.1 ≠ key) ms

/-- Adds a pair under a dotted key to a table. Only a table made by a dotted key takes a pair from
one, and no other table does without. -/
def insertPair (standing : Standing) (viaDots : Bool) :
    List String → String → Toml → Members → Option Members
  | [], key, v, ms =>
    if (standing = .dotted : Bool) ≠ viaDots || (find? key ms).isSome then none
    else some (put key (.value v) ms)
  | p :: path, key, v, ms =>
    match find? p ms with
    | none => (insertPair .dotted true path key v []).map fun t => put p (.table .dotted t) ms
    | some (.value _) => none
    | some (.table .opened _) => none
    | some (.table s t) => (insertPair s true path key v t).map fun t => put p (.table s t) ms
    | some (.tables earlier last) =>
      (insertPair .opened true path key v last).map fun t => put p (.tables earlier t) ms

/-- Changes the table at a header's path; tables missing on the way are implied. -/
def within (change : Members → Option Members) : List String → Members → Option Members
  | [], ms => change ms
  | p :: path, ms =>
    match find? p ms with
    | none => (within change path []).map fun t => put p (.table .implied t) ms
    | some (.value _) => none
    | some (.table s t) => (within change path t).map fun t => put p (.table s t) ms
    | some (.tables earlier last) =>
      (within change path last).map fun t => put p (.tables earlier t) ms

/-- Opens a table; one that a longer header implied moves to the end. -/
def openTable (key : String) (ms : Members) : Option Members :=
  match find? key ms with
  | none => some (put key (.table .opened []) ms)
  | some (.table .implied t) => some (put key (.table .opened t) (erase key ms))
  | some _ => none

/-- Adds an empty table to an array of tables. -/
def openElement (key : String) (ms : Members) : Option Members :=
  match find? key ms with
  | none => some (put key (.tables [] []) ms)
  | some (.tables earlier last) => some (put key (.tables (earlier ++ [last]) []) ms)
  | some _ => none

end Members

/-- A dotted key: the tables it passes through, and its last name. -/
structure Key where
  path : List String
  name : String
  deriving DecidableEq, Repr

def Key.names (k : Key) : List String := k.path ++ [k.name]

/-- The members of an inline table. -/
def ofPairs (pairs : List (Key × Toml)) : Option Toml :=
  (pairs.foldlM (fun ms p => Members.insertPair .opened false p.1.path p.1.name p.2 ms) []).map
    fun ms => .table (Node.membersToValue ms)

/-- A line of a document. -/
inductive Statement where
  | pair (key : Key) (value : Toml)
  | table (key : Key)
  | element (key : Key)

/-- A document with the header that its next pairs belong to. -/
structure Draft where
  members : Members := []
  header : List String := []

def Draft.add (d : Draft) : Statement → Option Draft
  | .pair k v =>
    (Members.within (Members.insertPair .opened false k.path k.name v) d.header d.members).map
      fun ms => { d with members := ms }
  | .table k =>
    (Members.within (Members.openTable k.name) k.path d.members).map fun ms => ⟨ms, k.names⟩
  | .element k =>
    (Members.within (Members.openElement k.name) k.path d.members).map fun ms => ⟨ms, k.names⟩

/-- The members of a document, which is itself a table. -/
def ofStatements (statements : List Statement) : Option (List (String × Toml)) :=
  (statements.foldlM Draft.add {}).map fun d => Node.membersToValue d.members

end GatewayFeed.Toml
