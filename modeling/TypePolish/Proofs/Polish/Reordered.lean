import TypePolish.Proofs.Polish.Plan

/-!
Runs one after the other on one tree. A run leaves the plans of all the others as they were, so
each has the answer that it would have alone, and it rewrites its file, if any, whatever was done
before. Since rewritings commute, the order of the runs makes no difference (`runAll_perm`).
-/

namespace TypePolish

structure Call where
  caller : Caller
  path : Bytes
  output : Sink
  deriving DecidableEq, Repr

abbrev Answer := Except Failure Outcome × Sink

namespace Call

def run (table : Table) (call : Call) (tree : FileTree) : Answer × FileTree :=
  let (result, later) :=
    (Session.start tree call.output).polishFile call.caller table call.path
  ((result, later.output), later.tree)

def runAll (table : Table) : List Call → FileTree → List Answer × FileTree
  | [], tree => ([], tree)
  | call :: later, tree =>
      let (answer, next) := call.run table tree
      let (answers, last) := runAll table later next
      (answer :: answers, last)

def plan (call : Call) (table : Table) (tree : FileTree) : Plan :=
  tree.plan call.caller table call.path

def answer (call : Call) (plan : Plan) : Answer :=
  match call.output.write plan.report.encode with
  | (.ok (), later) => (plan.result, later)
  | (.error fault, later) => (.error (.progress fault), later)

def goal (call : Call) (plan : Plan) : Option Location :=
  match call.output.write plan.report.encode with
  | (.ok (), _) => plan.goal
  -- a call that is not through with its report rewrites nothing
  | (.error _, _) => none

variable (table : Table)

theorem run_eq (call : Call) (tree : FileTree) :
    call.run table tree =
      (call.answer (call.plan table tree),
        tree.rewriteGoal table (call.goal (call.plan table tree))) := by
  unfold run answer goal plan
  rw [Session.polishFile_eq_course]
  simp only [Session.start, Session.conclude, Session.announce, FileTree.course_eq_plan]
  cases call.output.write (tree.plan call.caller table call.path).report.encode with
  | mk result later => cases result <;> rfl

/-- A call does not change the plan of any other. -/
theorem plan_run (call other : Call) (tree : FileTree) :
    other.plan table (call.run table tree).2 = other.plan table tree := by
  rw [run_eq]
  exact FileTree.plan_rewriteGoal tree table _ other.caller other.path

theorem runAll_eq (calls : List Call) (tree : FileTree) :
    runAll table calls tree =
      (calls.map fun call => call.answer (call.plan table tree),
        calls.foldl (fun last call => last.rewriteGoal table (call.goal (call.plan table tree)))
          tree) := by
  induction calls generalizing tree with
  | nil => rfl
  | cons call later ih =>
      have below := ih (call.run table tree).2
      simp only [plan_run] at below
      simp only [runAll, below]
      simp only [run_eq, List.map_cons, List.foldl_cons]

theorem rewriteGoal_comm (tree : FileTree) (first second : Option Location) :
    (tree.rewriteGoal table first).rewriteGoal table second =
      (tree.rewriteGoal table second).rewriteGoal table first := by
  cases first with
  | none => rfl
  | some location =>
      cases second with
      | none => rfl
      | some other => exact FileTree.rewriteAt_comm tree table location other

/-- Calls may be made in any order. The tree that they leave is the same, and each has the same
answer in both orders, namely the one that it has when it is made alone. -/
theorem runAll_perm {calls others : List Call} (reordered : calls.Perm others) (tree : FileTree) :
    (runAll table calls tree).2 = (runAll table others tree).2 ∧
      (runAll table calls tree).1 = calls.map (fun call => (call.run table tree).1) ∧
      (runAll table others tree).1 = others.map (fun call => (call.run table tree).1) := by
  simp only [runAll_eq, run_eq, and_true]
  apply reordered.foldl_eq'
  intro call _ other _ last
  exact rewriteGoal_comm table last _ _

def linkedTree : FileTree :=
  let working : Location := ["work".toList].map Text.encode
  { entries :=
      [([], .directory 0o755), (working, .directory 0o755),
        (working ++ [Text.encode "a.ts".toList], .file 0o666 (Text.encode "date: string;".toList)),
        (working ++ [Text.encode "b.ts".toList], .link (Text.encode "a.ts".toList))]
    working }

def linkedCalls : List Call :=
  [⟨.superuser, Text.encode "a.ts".toList, .unbounded⟩,
    ⟨.other, Text.encode "b.ts".toList, .unbounded⟩,
    ⟨.other, Text.encode "c.ts".toList, .unbounded⟩,
    ⟨.superuser, Text.encode "a.ts".toList, .bounded 20 .noSpace⟩]

theorem linkedCalls_reverse :
    linkedCalls.Perm linkedCalls.reverse ∧
      (runAll .standard linkedCalls linkedTree).2 =
        (runAll .standard linkedCalls.reverse linkedTree).2 ∧
      (runAll .standard linkedCalls linkedTree).1 =
        linkedCalls.map (fun call => (call.run .standard linkedTree).1) ∧
      (runAll .standard linkedCalls.reverse linkedTree).1 =
        linkedCalls.reverse.map (fun call => (call.run .standard linkedTree).1) :=
  have reordered : linkedCalls.Perm linkedCalls.reverse := (List.reverse_perm linkedCalls).symm
  ⟨reordered, runAll_perm .standard reordered linkedTree⟩

end Call

end TypePolish
