import TypePolish.Proofs.Polish.Lines
import TypePolish.Proofs.Polish.Plan

/-!
A run that polishes a file changes it. The line of provenance makes the text longer and the rules
may make it shorter, but the two never come out even (`provenanceLine_append_apply_ne`). So the tree
tells whether a run came to its end (`Session.polishFile_changes_iff`).
-/

namespace TypePolish

theorem provenanceLine_append_apply_ne (content : Text) :
    provenanceLine ++ Table.standard.apply content ≠ content := by
  -- below its line of provenance, such a content would be another one
  induction size : content.length using Nat.strongRecOn generalizing content with
  | ind length ih =>
      intro same
      obtain ⟨below, whole⟩ : ∃ below, content = provenanceLine ++ below := ⟨_, same.symm⟩
      have shorter : below.length < length := by
        have positive : 0 < provenanceLine.length := by decide
        rw [← size, whole, List.length_append]
        omega
      have again : provenanceLine ++ Table.standard.apply below = below := by
        rw [whole, Table.standard_provenance_append] at same
        exact List.append_cancel_left same
      exact ih below.length shorter below rfl again

theorem Table.rewrite_standard_ne {content : Bytes} (isText : IsText content) :
    Table.standard.rewrite content ≠ content := by
  obtain ⟨text, decoded⟩ := isText
  intro same
  have read := congrArg Bytes.decode? same
  rw [decoded, Table.rewrite, decoded, Bytes.decode?_encode, standard_provenance_append,
    Option.some.injEq] at read
  exact provenanceLine_append_apply_ne text read

namespace FileTree

theorem rewriteAt_standard_ne {tree : FileTree} {location : Location} {mode : Mode}
    {content : Bytes} (listed : tree.node? location = some (.file mode content))
    (isText : IsText content) : tree.rewriteAt .standard location ≠ tree := by
  intro same
  have node := congrArg (FileTree.node? · location) same
  rw [rewriteAt_of_file _ listed, node?_put_same, listed, Option.some.injEq,
    Node.file.injEq] at node
  exact Table.rewrite_standard_ne isText node.2

theorem goal_of_plan (tree : FileTree) (caller : Caller) (table : Table) (path : Bytes) :
    (∃ location mode content, (tree.plan caller table path).result = .ok .polished ∧
      (tree.plan caller table path).goal = some location ∧
      tree.node? location = some (.file mode content) ∧ IsText content) ∨
    (tree.plan caller table path).result ≠ .ok .polished ∧
      (tree.plan caller table path).goal = none := by
  unfold plan
  cases found : tree.lookup caller path with
  | error fault => exact .inr ⟨by simp [Plan.ofSpot], rfl⟩
  | ok spot =>
      cases spot with
      | vacant location => exact .inr ⟨by simp [Plan.ofSpot], rfl⟩
      | directory location mode => exact .inr ⟨by simp [Plan.ofSpot], rfl⟩
      | file location mode content =>
          simp only [Plan.ofSpot]
          split
          · split
            next text decoded =>
              split
              · exact .inl ⟨location, mode, content, rfl, rfl, node?_of_lookup found, text, decoded⟩
              · exact .inr ⟨by simp, rfl⟩
            next => exact .inr ⟨by simp, rfl⟩
          · exact .inr ⟨by simp, rfl⟩

theorem course_changes_iff (tree : FileTree) (caller : Caller) (path : Bytes) :
    (tree.course caller .standard path).tree ≠ tree ↔
      (tree.course caller .standard path).result = .ok .polished := by
  rw [course_eq_plan]
  dsimp only
  rcases goal_of_plan tree caller .standard path with
    ⟨location, mode, content, polished, goal, listed, isText⟩ | ⟨other, goal⟩
  · rw [goal, polished]
    exact iff_of_true (rewriteAt_standard_ne listed isText) rfl
  · rw [goal]
    exact iff_of_false (fun differ => differ rfl) other

end FileTree

theorem Session.polishFile_changes_iff (session : Session) (caller : Caller) (path : Bytes) :
    (session.polishFile caller .standard path).2.tree ≠ session.tree ↔
      (session.polishFile caller .standard path).1 = .ok .polished := by
  rw [polishFile_eq_course]
  unfold conclude announce
  cases session.output.write (session.tree.course caller .standard path).report.encode with
  | mk taken output =>
      cases taken with
      | ok _ => exact FileTree.course_changes_iff session.tree caller path
      | error fault =>
          refine iff_of_false ?_ ?_
          · intro differ
            exact differ rfl
          · intro polished
            cases polished

end TypePolish
