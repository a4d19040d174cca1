import TypePolish.FileTree.Access

/-!
Building trees: directories, links, modes and removals, all with the rights of the superuser. The
entry that the last name of a path names may be a link, which is not followed.
-/

namespace TypePolish

namespace FileTree

def lastEntry (tree : FileTree) (path : Bytes) : Except Fault Location := do
  checkPath path
  let steps := stepsOfPath path
  match steps.getLast? with
  | some (.enter name) =>
      match ← tree.walk .superuser mostLinks (startOfPath tree.working path) steps.dropLast with
      | .directory location _ => .ok (location ++ [name])
      | .file _ _ _ => .error .notDirectory
      | .vacant _ => .error .noSuchEntry
  | _ => .error .isDirectory

def makeDirectory (tree : FileTree) (start : Location) (steps : List Step) :
    Except Fault FileTree := do
  match ← tree.walk .superuser mostLinks start steps with
  | .directory _ _ => .ok tree
  | .file _ _ _ => .error .entryExists
  | .vacant location => .ok (tree.put location (.directory newDirectoryMode))

def makeDirectories (tree : FileTree) (path : Bytes) : Except Fault FileTree := do
  checkPath path
  let start := startOfPath tree.working path
  let steps := (stepsOfPath path).filter (· != .insist)
  (List.range steps.length).foldlM
    (fun tree index => tree.makeDirectory start (steps.take (index + 1))) tree

def addLink (tree : FileTree) (target path : Bytes) : Except Fault FileTree := do
  checkPath target
  let location ← tree.lastEntry path
  match tree.node? location with
  | some _ => .error .entryExists
  | none => .ok (tree.put location (.link target))

def setMode (tree : FileTree) (path : Bytes) (mode : Mode) : Except Fault FileTree := do
  match ← tree.lookup .superuser path with
  | .file location _ content => .ok (tree.put location (.file mode content))
  | .directory location _ => .ok (tree.put location (.directory mode))
  | .vacant _ => .error .noSuchEntry

def remove (tree : FileTree) (path : Bytes) : Except Fault FileTree := do
  let location ← tree.lastEntry path
  match tree.node? location with
  | some (.directory _) => .error .isDirectory
  | some _ => .ok (tree.erase location)
  | none => .error .noSuchEntry

end FileTree

end TypePolish
