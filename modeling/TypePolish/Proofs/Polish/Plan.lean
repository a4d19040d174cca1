import TypePolish.Proofs.FileTree.Alike
import TypePolish.Proofs.FileTree.Rewriting
import TypePolish.Proofs.Polish.Report
import TypePolish.Text.Utf8.RoundTrip

/-!
The course of a run, read off the lookup of its path. The lookup decides what the run says, how it
ends and which file it rewrites (`FileTree.course_eq_plan`). A rewritten text is still a text, so a
run changes the plan of no other (`FileTree.plan_rewriteGoal`).
-/

namespace TypePolish

structure Plan where
  report : Text
  result : Except Failure Outcome
  goal : Option Location

def Plan.ofSpot (caller : Caller) (table : Table) (path : Bytes) : Except Fault Spot → Plan
  | .ok (.file location mode content) =>
      if caller.may mode .read then
        match content.decode? with
        | some _ =>
            if caller.may mode .write then
              ⟨startLine path ++ table.report, .ok .polished, some location⟩
            else
              ⟨startLine path ++ table.report, .error (.unwritable path .permissionDenied), none⟩
        | none => ⟨startLine path, .error (.unreadable path .notText), none⟩
      else ⟨startLine path, .error (.unreadable path .permissionDenied), none⟩
  | .ok (.directory _ mode) =>
      ⟨startLine path,
        .error (.unreadable path
          (if caller.may mode .read then .isDirectory else .permissionDenied)), none⟩
  | .ok (.vacant _) | .error _ => ⟨startLine path ++ missingLine path, .ok .missing, none⟩

theorem Plan.ofSpot_alike {found other : Except Fault Spot} (alike : Spot.Alike found other)
    (caller : Caller) (table : Table) (path : Bytes) :
    Plan.ofSpot caller table path found = Plan.ofSpot caller table path other := by
  cases alike with
  | same found => rfl
  | text location mode isText alsoText =>
      obtain ⟨text, decoded⟩ := isText
      obtain ⟨otherText, alsoDecoded⟩ := alsoText
      simp only [ofSpot, decoded, alsoDecoded]

def Table.rewrite (table : Table) (bytes : Bytes) : Bytes :=
  match bytes.decode? with
  | some text => (table.apply (provenanceLine ++ text)).encode
  | none => bytes

namespace FileTree

def plan (tree : FileTree) (caller : Caller) (table : Table) (path : Bytes) : Plan :=
  Plan.ofSpot caller table path (tree.lookup caller path)

def rewriteAt (tree : FileTree) (table : Table) (location : Location) : FileTree :=
  match tree.node? location with
  | some (.file mode content) => tree.put location (.file mode (table.rewrite content))
  | _ => tree

def rewriteGoal (tree : FileTree) (table : Table) : Option Location → FileTree
  | some location => tree.rewriteAt table location
  | none => tree

section

variable {tree : FileTree} (table : Table) {location : Location}

theorem rewriteAt_of_file {mode : Mode} {content : Bytes}
    (listed : tree.node? location = some (.file mode content)) :
    tree.rewriteAt table location = tree.put location (.file mode (table.rewrite content)) := by
  simp only [rewriteAt, listed]

theorem rewriteAt_of_no_file
    (absent : ∀ mode content, tree.node? location ≠ some (.file mode content)) :
    tree.rewriteAt table location = tree := by
  unfold rewriteAt
  split
  next mode content listed => exact absurd listed (absent mode content)
  next => rfl

theorem file_or_no_file (tree : FileTree) (location : Location) :
    (∃ mode content, tree.node? location = some (.file mode content)) ∨
      ∀ mode content, tree.node? location ≠ some (.file mode content) := by
  by_cases file : ∃ mode content, tree.node? location = some (.file mode content)
  · exact .inl file
  · exact .inr fun mode content listed => file ⟨mode, content, listed⟩

/-- The course of a run is its plan carried out. -/
theorem course_eq_plan (tree : FileTree) (caller : Caller) (table : Table) (path : Bytes) :
    tree.course caller table path =
      ⟨(tree.plan caller table path).report, (tree.plan caller table path).result,
        tree.rewriteGoal table (tree.plan caller table path).goal⟩ := by
  unfold course plan isPresent read
  cases found : tree.lookup caller path with
  | error fault => rfl
  | ok spot =>
      cases spot with
      | vacant location => rfl
      | directory location mode => rfl
      | file location mode content =>
          have listed := node?_of_lookup found
          simp only [bind, Except.bind, Plan.ofSpot]
          by_cases readable : caller.may mode .read
          · cases decoded : content.decode? with
            | none => simp [readable, textOf, decoded, rewriteGoal]
            | some text =>
                by_cases writable : caller.may mode .write
                · have rewritten := rewriteAt_of_file table listed
                  simp only [Table.rewrite, decoded] at rewritten
                  simp [readable, writable, textOf, decoded, rewriteGoal, rewritten, written,
                    replace_of_lookup found]
                · simp [readable, writable, textOf, decoded, rewriteGoal, written,
                    replace_of_lookup found]
          · simp [readable, rewriteGoal]

theorem node?_rewriteAt_ne {other : Location} (differ : other ≠ location) :
    (tree.rewriteAt table location).node? other = tree.node? other := by
  unfold rewriteAt
  split
  · exact node?_put_ne _ differ
  · rfl

theorem isText_rewrite {content : Bytes} (isText : IsText content) :
    IsText (table.rewrite content) := by
  obtain ⟨text, decoded⟩ := isText
  simp only [Table.rewrite, decoded]
  exact ⟨_, Bytes.decode?_encode _⟩

theorem alike_rewriteAt (tree : FileTree) (table : Table) (location : Location) :
    tree.Alike (tree.rewriteAt table location) := by
  constructor
  · unfold rewriteAt
    split <;> rfl
  · intro other
    by_cases same : other = location
    · subst same
      rcases file_or_no_file tree other with ⟨mode, content, listed⟩ | absent
      · rw [rewriteAt_of_file table listed, node?_put_same, listed]
        cases decoded : content.decode? with
        | none =>
            simp only [Table.rewrite, decoded]
            exact .same _
        | some text =>
            have isText : IsText content := ⟨text, decoded⟩
            exact .text mode isText (isText_rewrite table isText)
      · rw [rewriteAt_of_no_file table absent]
        exact .same _
    · rw [node?_rewriteAt_ne table same]
      exact .same _

theorem plan_rewriteGoal (tree : FileTree) (table : Table) (goal : Option Location)
    (caller : Caller) (path : Bytes) :
    (tree.rewriteGoal table goal).plan caller table path = tree.plan caller table path := by
  cases goal with
  | none => rfl
  | some location =>
      have alike : Spot.Alike (tree.lookup caller path)
          ((tree.rewriteAt table location).lookup caller path) :=
        lookup_alike (alike_rewriteAt tree table location) path
      exact (Plan.ofSpot_alike alike caller table path).symm

theorem rewriteAt_comm (tree : FileTree) (table : Table) (first second : Location) :
    (tree.rewriteAt table first).rewriteAt table second =
      (tree.rewriteAt table second).rewriteAt table first := by
  by_cases same : first = second
  · rw [same]
  · rcases file_or_no_file tree first with ⟨mode, content, listed⟩ | absent
    · rcases file_or_no_file tree second with ⟨otherMode, otherContent, otherListed⟩ | otherAbsent
      · have still := otherListed
        rw [← node?_rewriteAt_ne table (Ne.symm same)] at still
        have alsoStill := listed
        rw [← node?_rewriteAt_ne table same] at alsoStill
        rw [rewriteAt_of_file table still, rewriteAt_of_file table alsoStill,
          rewriteAt_of_file table listed, rewriteAt_of_file table otherListed]
        exact put_comm listed otherListed same _ _
      · have still (mode : Mode) (content : Bytes) :
            (tree.rewriteAt table first).node? second ≠ some (.file mode content) := by
          rw [node?_rewriteAt_ne table (Ne.symm same)]
          exact otherAbsent mode content
        rw [rewriteAt_of_no_file table still, rewriteAt_of_no_file table otherAbsent]
    · have still (mode : Mode) (content : Bytes) :
          (tree.rewriteAt table second).node? first ≠ some (.file mode content) := by
        rw [node?_rewriteAt_ne table same]
        exact absent mode content
      rw [rewriteAt_of_no_file table still, rewriteAt_of_no_file table absent]

end

end FileTree

/-- An output without bound takes the whole report, and the plan is carried out. -/
theorem Session.polishFile_of_endless {session : Session} (endless : session.output.room = none)
    (caller : Caller) (table : Table) (path : Bytes) :
    session.polishFile caller table path =
      ((session.tree.plan caller table path).result,
        { session with
          output := { session.output with
            taken := session.output.taken ++ (session.tree.plan caller table path).report.encode }
          tree := session.tree.rewriteGoal table (session.tree.plan caller table path).goal }) := by
  rw [polishFile_eq_course, conclude, announce, Sink.write_of_no_room endless,
    FileTree.course_eq_plan]

end TypePolish
