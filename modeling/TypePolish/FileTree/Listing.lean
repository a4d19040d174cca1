import TypePolish.FileTree.Path

/-!
What lies below the working directory: the path and the kind of each entry, in the order of the
bytes of the paths.
-/

namespace TypePolish

inductive EntryKind
  | file
  | directory
  | link
  deriving DecidableEq, Repr

def Node.kind : Node → EntryKind
  | .file _ _ => .file
  | .directory _ => .directory
  | .link _ => .link

def joinNames : List Name → Bytes
  | [] => []
  | [name] => name
  | name :: later => name ++ slash :: joinNames later

namespace FileTree

def namesBelow? (tree : FileTree) (location : Location) : Option (List Name) :=
  match tree.working.isPrefixOf? location with
  | some (name :: later) => some (name :: later)
  | _ => none

def listing (tree : FileTree) : List (Bytes × EntryKind) :=
  let found := tree.entries.filterMap fun (location, node) =>
    (tree.namesBelow? location).map fun names => (joinNames names, node.kind)
  found.mergeSort fun left right => decide (left.1 ≤ right.1)

end FileTree

end TypePolish
