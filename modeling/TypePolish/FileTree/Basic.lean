import TypePolish.Text.Utf8

/-!
Trees of files, directories and symbolic links. A tree lists its entries by their location, the
names on the way from the root without a link among them, and knows which directory is the working
one. A mode is an octal number of three digits, of which only the last one counts, that of callers
who neither own the entry nor share its group; the superuser may do everything. `node?_put_same` and
`node?_put_ne` say what a change of one entry does to all of them.
-/

namespace TypePolish

abbrev Name := Bytes

abbrev Location := List Name

inductive Right
  | read
  | write
  | search
  deriving DecidableEq, Repr

abbrev Mode := Nat

def Mode.grants (mode : Mode) : Right → Bool
  | .read => mode.testBit 2
  | .write => mode.testBit 1
  | .search => mode.testBit 0

inductive Caller
  | superuser
  | other
  deriving DecidableEq, Repr

def Caller.may (caller : Caller) (mode : Mode) (right : Right) : Bool :=
  match caller with
  | .superuser => true
  | .other => mode.grants right

inductive Node
  | file (mode : Mode) (content : Bytes)
  | directory (mode : Mode)
  | link (target : Bytes)
  deriving DecidableEq, Repr

structure FileTree where
  entries : List (Location × Node)
  working : Location
  deriving DecidableEq, Repr

namespace FileTree

def nodeIn? : List (Location × Node) → Location → Option Node
  | [], _ => none
  | (other, node) :: later, location =>
      if other = location then some node else nodeIn? later location

def putIn : List (Location × Node) → Location → Node → List (Location × Node)
  | [], location, node => [(location, node)]
  | (other, old) :: later, location, node =>
      if other = location then (location, node) :: later
      else (other, old) :: putIn later location node

def node? (tree : FileTree) (location : Location) : Option Node :=
  nodeIn? tree.entries location

def put (tree : FileTree) (location : Location) (node : Node) : FileTree :=
  { tree with entries := putIn tree.entries location node }

def erase (tree : FileTree) (location : Location) : FileTree :=
  { tree with entries := tree.entries.filter fun entry => entry.1 != location }

def fresh : FileTree :=
  let working : Location := [Text.encode "work".toList]
  { entries := [([], .directory 0o755), (working, .directory 0o755)], working }

theorem nodeIn?_putIn_same (entries : List (Location × Node)) (location : Location) (node : Node) :
    nodeIn? (putIn entries location node) location = some node := by
  induction entries with
  | nil => simp [putIn, nodeIn?]
  | cons entry later ih =>
      simp only [putIn]
      split
      · simp [nodeIn?]
      next differ => simp [nodeIn?, differ, ih]

theorem nodeIn?_putIn_ne {entries : List (Location × Node)} {location other : Location}
    (node : Node) (differ : other ≠ location) :
    nodeIn? (putIn entries location node) other = nodeIn? entries other := by
  induction entries with
  | nil => simp [putIn, nodeIn?, Ne.symm differ]
  | cons entry later ih =>
      simp only [putIn]
      split
      next same => simp [nodeIn?, same, Ne.symm differ]
      next => simp [nodeIn?, ih]

@[simp] theorem node?_put_same (tree : FileTree) (location : Location) (node : Node) :
    (tree.put location node).node? location = some node :=
  nodeIn?_putIn_same tree.entries location node

theorem node?_put_ne {tree : FileTree} {location other : Location} (node : Node)
    (differ : other ≠ location) : (tree.put location node).node? other = tree.node? other :=
  nodeIn?_putIn_ne node differ

end FileTree

end TypePolish
