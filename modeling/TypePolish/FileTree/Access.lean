import TypePolish.FileTree.Lookup

/-!
Reading a file and replacing its content. Both follow links and both mind the modes. Replacing
keeps the mode of a file that is there, and makes a new one where the path leads to a vacant
location. It either fails and changes nothing, or replaces the whole content.
-/

namespace TypePolish

namespace FileTree

def newFileMode : Mode := 0o644

def newDirectoryMode : Mode := 0o755

def read (tree : FileTree) (caller : Caller) (path : Bytes) : Except Fault Bytes := do
  match ← tree.lookup caller path with
  | .file _ mode content =>
      if caller.may mode .read then .ok content else .error .permissionDenied
  | .directory _ mode =>
      .error (if caller.may mode .read then .isDirectory else .permissionDenied)
  | .vacant _ => .error .noSuchEntry

def replace (tree : FileTree) (caller : Caller) (path content : Bytes) :
    Except Fault FileTree := do
  match ← tree.lookup caller path with
  | .file location mode _ =>
      if caller.may mode .write then .ok (tree.put location (.file mode content))
      else .error .permissionDenied
  | .directory _ _ => .error .isDirectory
  | .vacant location =>
      match tree.node? location.dropLast with
      | some (.directory mode) =>
          if caller.may mode .write then .ok (tree.put location (.file newFileMode content))
          else .error .permissionDenied
      | _ => .error .noSuchEntry

end FileTree

end TypePolish
