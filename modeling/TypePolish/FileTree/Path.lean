import TypePolish.FileTree.Basic

/-!
Paths as the steps that they ask for. Slashes separate names; empty names count for nothing, two
dots go up (the root is above itself), one dot stays but goes through the directory all the same,
and a slash at the end insists on a directory. A slash at the front begins at the root.
-/

namespace TypePolish

inductive Step
  | enter (name : Name)
  | up
  | stay
  | insist
  deriving DecidableEq, Repr

def slash : UInt8 := '/'.toUInt8

def dot : UInt8 := '.'.toUInt8

def splitPath : Bytes → List Name
  | [] => [[]]
  | byte :: rest =>
      if byte = slash then [] :: splitPath rest
      else
        match splitPath rest with
        | [] => [[byte]]
        | name :: later => (byte :: name) :: later

def Step.ofName? (name : Name) : Option Step :=
  if name = [] then none
  else if name = [dot] then some .stay
  else if name = [dot, dot] then some .up
  else some (.enter name)

def startOfPath (directory : Location) (path : Bytes) : Location :=
  if path.head? = some slash then [] else directory

def stepsOfPath (path : Bytes) : List Step :=
  let steps := (splitPath path).filterMap Step.ofName?
  if path.getLast? = some slash ∧ steps ≠ [] then steps ++ [.insist] else steps

def longestName : Nat := 255

def longestPath : Nat := 4095

end TypePolish
