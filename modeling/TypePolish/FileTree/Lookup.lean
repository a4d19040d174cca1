import TypePolish.FileTree.Path
import TypePolish.Fault.Basic

/-!
Looking a path up. Every step but the last must lead to a directory, a step taken in a directory
needs the right to search it, and symbolic links are followed, the last one too, but only so many
in all. The result is a file, a directory, or the vacant location that the last name would take.
-/

namespace TypePolish

inductive Spot
  | file (location : Location) (mode : Mode) (content : Bytes)
  | directory (location : Location) (mode : Mode)
  | vacant (location : Location)
  deriving DecidableEq, Repr

def mostLinks : Nat := 40

namespace FileTree

/-- Takes the steps from a location, which is not itself a link. What remains to be done at a
symbolic link, namely to go through its target from the directory that holds it and then on, is
left to `follow`. -/
def walkWith (tree : FileTree) (caller : Caller)
    (follow : Location → Bytes → List Step → Except Fault Spot) :
    Location → List Step → Except Fault Spot
  | location, [] =>
      match tree.node? location with
      | some (.file mode content) => .ok (.file location mode content)
      | some (.directory mode) => .ok (.directory location mode)
      | some (.link _) => .error .tooManyLinks
      | none => .error .noSuchEntry
  | location, step :: later =>
      match tree.node? location with
      | some (.directory mode) =>
          if step = .insist ∨ caller.may mode .search then
            match step with
            | .insist | .stay => tree.walkWith caller follow location later
            | .up => tree.walkWith caller follow location.dropLast later
            | .enter name =>
                if longestName < name.length then .error .nameTooLong
                else
                  match tree.node? (location ++ [name]) with
                  | some (.link target) => follow location target later
                  | some _ => tree.walkWith caller follow (location ++ [name]) later
                  | none =>
                      if later = [] then .ok (.vacant (location ++ [name]))
                      else .error .noSuchEntry
          else .error .permissionDenied
      | some _ => .error .notDirectory
      | none => .error .noSuchEntry

def walk (tree : FileTree) (caller : Caller) : (links : Nat) → Location → List Step →
    Except Fault Spot
  | 0 => tree.walkWith caller fun _ _ _ => .error .tooManyLinks
  | links + 1 => tree.walkWith caller fun directory target later =>
      tree.walk caller links (startOfPath directory target) (stepsOfPath target ++ later)

def checkPath (path : Bytes) : Except Fault Unit :=
  if path = [] then .error .noSuchEntry
  else if 0 ∈ path then .error (.told "file name contained an unexpected NUL byte".toList)
  else if longestPath < path.length then .error .nameTooLong
  else .ok ()

def lookup (tree : FileTree) (caller : Caller) (path : Bytes) : Except Fault Spot := do
  checkPath path
  tree.walk caller mostLinks (startOfPath tree.working path) (stepsOfPath path)

def isPresent (tree : FileTree) (caller : Caller) (path : Bytes) : Bool :=
  match tree.lookup caller path with
  | .ok (.file _ _ _) | .ok (.directory _ _) => true
  | _ => false

end FileTree

end TypePolish
