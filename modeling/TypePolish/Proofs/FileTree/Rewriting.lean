import TypePolish.FileTree.Access

/-!
Reading and replacing the file to which a path leads. A lookup that ends at a file ends at an entry
of the tree (`node?_of_lookup`), and a replacement rewrites that entry and nothing else
(`rewrites_put`).
-/

namespace TypePolish

namespace FileTree

/-- The trees differ in the content of one file only. Entries and their order, kinds, modes, the
targets of links and the contents of all other files are the same. -/
structure Rewrites (before : FileTree) (location : Location) (old new : Bytes)
    (after : FileTree) : Prop where
  rewritten : ∃ mode, before.node? location = some (.file mode old) ∧
    after.node? location = some (.file mode new)
  others : ∀ other, other ≠ location → after.node? other = before.node? other
  locations : after.entries.map Prod.fst = before.entries.map Prod.fst
  working : after.working = before.working

theorem locations_putIn {entries : List (Location × Node)} {location : Location} {old : Node}
    (listed : nodeIn? entries location = some old) (node : Node) :
    (putIn entries location node).map Prod.fst = entries.map Prod.fst := by
  induction entries with
  | nil => contradiction
  | cons entry later ih =>
      simp only [putIn]
      split
      next same => simp [same]
      next differ =>
        have below : nodeIn? later location = some old := by
          simpa [nodeIn?, differ] using listed
        simp [ih below]

theorem rewrites_put {tree : FileTree} {location : Location} {mode : Mode} {old : Bytes}
    (listed : tree.node? location = some (.file mode old)) (new : Bytes) :
    tree.Rewrites location old new (tree.put location (.file mode new)) where
  rewritten := ⟨mode, listed, node?_put_same tree location _⟩
  others _ differ := node?_put_ne _ differ
  locations := locations_putIn listed _
  working := rfl

variable {tree : FileTree} {caller : Caller}

theorem node?_of_walkWith {follow : Location → Bytes → List Step → Except Fault Spot}
    {start location : Location} {steps : List Step} {mode : Mode} {content : Bytes}
    (followed : ∀ directory target later,
      follow directory target later = .ok (.file location mode content) →
        tree.node? location = some (.file mode content))
    (found : tree.walkWith caller follow start steps = .ok (.file location mode content)) :
    tree.node? location = some (.file mode content) := by
  induction steps generalizing start with
  | nil =>
      simp only [walkWith] at found
      split at found
      next listed =>
        cases found
        exact listed
      all_goals cases found
  | cons step later ih =>
      simp only [walkWith] at found
      split at found
      · split at found
        · split at found
          · exact ih found
          · exact ih found
          · exact ih found
          · split at found
            · contradiction
            · split at found
              · exact followed _ _ _ found
              · exact ih found
              · split at found <;> cases found
        · contradiction
      all_goals cases found

theorem node?_of_walk {links : Nat} {start location : Location} {steps : List Step} {mode : Mode}
    {content : Bytes} (found : tree.walk caller links start steps = .ok (.file location mode content)) :
    tree.node? location = some (.file mode content) := by
  induction links generalizing start steps with
  | zero =>
      refine node?_of_walkWith ?_ found
      intro directory target later impossible
      contradiction
  | succ links ih =>
      refine node?_of_walkWith ?_ found
      intro directory target later followed
      exact ih followed

theorem node?_of_lookup {path : Bytes} {location : Location} {mode : Mode} {content : Bytes}
    (found : tree.lookup caller path = .ok (.file location mode content)) :
    tree.node? location = some (.file mode content) := by
  unfold lookup at found
  cases checked : checkPath path with
  | error fault =>
      rw [checked] at found
      contradiction
  | ok _ =>
      rw [checked] at found
      exact node?_of_walk found

theorem read_eq_ok_iff (path content : Bytes) :
    tree.read caller path = .ok content ↔
      ∃ location mode, tree.lookup caller path = .ok (.file location mode content) ∧
        caller.may mode .read = true := by
  unfold read
  cases found : tree.lookup caller path with
  | error fault => simp [bind, Except.bind]
  | ok spot =>
      cases spot with
      | file location mode old =>
          simp only [bind, Except.bind, Except.ok.injEq, Spot.file.injEq]
          constructor
          · intro given
            split at given
            next permitted =>
              cases given
              exact ⟨location, mode, ⟨rfl, rfl, rfl⟩, permitted⟩
            next => contradiction
          · rintro ⟨_, _, ⟨rfl, rfl, rfl⟩, permitted⟩
            rw [if_pos permitted]
      | directory location mode => simp [bind, Except.bind]
      | vacant location => simp [bind, Except.bind]

theorem replace_of_lookup {path : Bytes} {location : Location} {mode : Mode} {old : Bytes}
    (found : tree.lookup caller path = .ok (.file location mode old)) (content : Bytes) :
    tree.replace caller path content =
      if caller.may mode .write then .ok (tree.put location (.file mode content))
      else .error .permissionDenied := by
  unfold replace
  rw [found]
  rfl

end FileTree

end TypePolish
