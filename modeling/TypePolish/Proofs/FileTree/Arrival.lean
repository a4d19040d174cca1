import TypePolish.Proofs.FileTree.Reach

/-!
Where a path leads. A caller who takes the steps of a path either comes to a file or a directory
(`Arrives`) or is stuck on the way for a reason that can be named (`Stuck`). One of the two is
always so (`leadsTo_or_leadsNowhere`), and the lookup of the path tells which (`lookup_of_leadsTo`,
`lookup_of_leadsNowhere`).
-/

namespace TypePolish

namespace FileTree

def Admits (tree : FileTree) (location : Location) (caller : Caller) : Prop :=
  ∃ mode, tree.node? location = some (.directory mode) ∧ caller.may mode .search = true

inductive Arrives (tree : FileTree) (caller : Caller) :
    (links : Nat) → Location → List Step → Spot → Prop
  | file {links location mode content} : tree.node? location = some (.file mode content) →
      Arrives tree caller links location [] (.file location mode content)
  | directory {links location mode} : tree.node? location = some (.directory mode) →
      Arrives tree caller links location [] (.directory location mode)
  | insist {links location mode later spot} : tree.node? location = some (.directory mode) →
      Arrives tree caller links location later spot →
      Arrives tree caller links location (.insist :: later) spot
  | stay {links location later spot} : tree.Admits location caller →
      Arrives tree caller links location later spot →
      Arrives tree caller links location (.stay :: later) spot
  | up {links location later spot} : tree.Admits location caller →
      Arrives tree caller links location.dropLast later spot →
      Arrives tree caller links location (.up :: later) spot
  -- the name is not that of a link, since nobody arrives from there
  | enter {links location name later spot} : tree.Admits location caller →
      name.length ≤ longestName → Arrives tree caller links (location ++ [name]) later spot →
      Arrives tree caller links location (.enter name :: later) spot
  | follow {links location name target later spot} : tree.Admits location caller →
      name.length ≤ longestName → tree.node? (location ++ [name]) = some (.link target) →
      Arrives tree caller links (startOfPath location target) (stepsOfPath target ++ later) spot →
      Arrives tree caller (links + 1) location (.enter name :: later) spot

/-- Going through the steps from a location, and through so many links at most, the caller comes to
a place from which the next step cannot be taken. -/
inductive Stuck (tree : FileTree) (caller : Caller) : (links : Nat) → Location → List Step → Prop
  -- a walk may begin, or go up to, where nothing is or where a link is, which is not followed there
  | absent {links location steps} : tree.node? location = none →
      Stuck tree caller links location steps
  | onLink {links location target steps} : tree.node? location = some (.link target) →
      Stuck tree caller links location steps
  | inFile {links location mode content step later} :
      tree.node? location = some (.file mode content) →
      Stuck tree caller links location (step :: later)
  | barred {links location step later} : step ≠ .insist → tree.Bars location caller →
      Stuck tree caller links location (step :: later)
  | longName {links location name later} : tree.Admits location caller →
      longestName < name.length → Stuck tree caller links location (.enter name :: later)
  | missing {links location name later} : tree.Admits location caller →
      name.length ≤ longestName → tree.node? (location ++ [name]) = none →
      Stuck tree caller links location (.enter name :: later)
  | manyLinks {location name target later} : tree.Admits location caller →
      name.length ≤ longestName → tree.node? (location ++ [name]) = some (.link target) →
      Stuck tree caller 0 location (.enter name :: later)
  | insist {links location mode later} : tree.node? location = some (.directory mode) →
      Stuck tree caller links location later →
      Stuck tree caller links location (.insist :: later)
  | stay {links location later} : tree.Admits location caller →
      Stuck tree caller links location later → Stuck tree caller links location (.stay :: later)
  | up {links location later} : tree.Admits location caller →
      Stuck tree caller links location.dropLast later →
      Stuck tree caller links location (.up :: later)
  | enter {links location name node later} : tree.Admits location caller →
      name.length ≤ longestName → tree.node? (location ++ [name]) = some node →
      (∀ target, node ≠ .link target) → Stuck tree caller links (location ++ [name]) later →
      Stuck tree caller links location (.enter name :: later)
  | follow {links location name target later} : tree.Admits location caller →
      name.length ≤ longestName → tree.node? (location ++ [name]) = some (.link target) →
      Stuck tree caller links (startOfPath location target) (stepsOfPath target ++ later) →
      Stuck tree caller (links + 1) location (.enter name :: later)

def Decided (tree : FileTree) (caller : Caller) (links : Nat) (start : Location)
    (steps : List Step) : Prop :=
  (∃ spot, tree.Arrives caller links start steps spot) ∨ tree.Stuck caller links start steps

structure LeadsTo (tree : FileTree) (caller : Caller) (path : Bytes) (spot : Spot) : Prop where
  checked : path ≠ [] ∧ 0 ∉ path ∧ path.length ≤ longestPath
  arrives : tree.Arrives caller mostLinks (startOfPath tree.working path) (stepsOfPath path) spot

def LeadsNowhere (tree : FileTree) (caller : Caller) (path : Bytes) : Prop :=
  path = [] ∨ 0 ∈ path ∨ longestPath < path.length ∨
    tree.Stuck caller mostLinks (startOfPath tree.working path) (stepsOfPath path)

def IsLost (found : Except Fault Spot) : Prop :=
  (∃ fault, found = .error fault) ∨ ∃ location, found = .ok (.vacant location)

section

variable {tree : FileTree} {caller : Caller} {location : Location} {name : Name} {later : List Step}

/-! ### A walk, step by step -/

theorem walk_insist {mode : Mode} (listed : tree.node? location = some (.directory mode))
    (links : Nat) :
    tree.walk caller links location (.insist :: later) = tree.walk caller links location later := by
  obtain ⟨follow, whole⟩ := exists_walk_eq tree caller links
  simp [whole, walkWith, listed]

theorem walk_stay (admits : tree.Admits location caller) (links : Nat) :
    tree.walk caller links location (.stay :: later) = tree.walk caller links location later := by
  obtain ⟨follow, whole⟩ := exists_walk_eq tree caller links
  obtain ⟨mode, listed, searched⟩ := admits
  simp [whole, walkWith, listed, searched]

theorem walk_up (admits : tree.Admits location caller) (links : Nat) :
    tree.walk caller links location (.up :: later) =
      tree.walk caller links location.dropLast later := by
  obtain ⟨follow, whole⟩ := exists_walk_eq tree caller links
  obtain ⟨mode, listed, searched⟩ := admits
  simp [whole, walkWith, listed, searched]

theorem walk_enter (admits : tree.Admits location caller) (short : name.length ≤ longestName)
    {node : Node} (entry : tree.node? (location ++ [name]) = some node)
    (noLink : ∀ target, node ≠ .link target) (links : Nat) :
    tree.walk caller links location (.enter name :: later) =
      tree.walk caller links (location ++ [name]) later := by
  obtain ⟨follow, whole⟩ := exists_walk_eq tree caller links
  obtain ⟨mode, listed, searched⟩ := admits
  cases node with
  | link target => exact absurd rfl (noLink target)
  | file => simp [whole, walkWith, listed, searched, Nat.not_lt.mpr short, entry]
  | directory => simp [whole, walkWith, listed, searched, Nat.not_lt.mpr short, entry]

theorem walk_follow (admits : tree.Admits location caller) (short : name.length ≤ longestName)
    {target : Bytes} (link : tree.node? (location ++ [name]) = some (.link target)) (links : Nat) :
    tree.walk caller (links + 1) location (.enter name :: later) =
      tree.walk caller links (startOfPath location target) (stepsOfPath target ++ later) := by
  obtain ⟨mode, listed, searched⟩ := admits
  simp [walk, walkWith, listed, searched, Nat.not_lt.mpr short, link]

theorem walk_manyLinks (admits : tree.Admits location caller) (short : name.length ≤ longestName)
    {target : Bytes} (link : tree.node? (location ++ [name]) = some (.link target)) :
    tree.walk caller 0 location (.enter name :: later) = .error .tooManyLinks := by
  obtain ⟨mode, listed, searched⟩ := admits
  simp [walk, walkWith, listed, searched, Nat.not_lt.mpr short, link]

theorem walk_longName (admits : tree.Admits location caller) (long : longestName < name.length)
    (links : Nat) :
    tree.walk caller links location (.enter name :: later) = .error .nameTooLong := by
  obtain ⟨follow, whole⟩ := exists_walk_eq tree caller links
  obtain ⟨mode, listed, searched⟩ := admits
  simp [whole, walkWith, listed, searched, long]

theorem walk_missing (admits : tree.Admits location caller) (short : name.length ≤ longestName)
    (missing : tree.node? (location ++ [name]) = none) (links : Nat) :
    IsLost (tree.walk caller links location (.enter name :: later)) := by
  obtain ⟨follow, whole⟩ := exists_walk_eq tree caller links
  obtain ⟨mode, listed, searched⟩ := admits
  by_cases last : later = []
  · exact .inr ⟨location ++ [name], by
      simp [whole, walkWith, listed, searched, Nat.not_lt.mpr short, missing, last]⟩
  · exact .inl ⟨.noSuchEntry, by
      simp [whole, walkWith, listed, searched, Nat.not_lt.mpr short, missing, last]⟩

end

section

variable {tree : FileTree} {caller : Caller} {links : Nat} {start : Location} {steps : List Step}

/-! ### Whole walks -/

theorem Arrives.entry {spot : Spot} (arrives : tree.Arrives caller links start steps spot) :
    ∃ node, tree.node? start = some node ∧ ∀ target, node ≠ .link target := by
  cases arrives with
  | file listed => exact ⟨_, listed, nofun⟩
  | directory listed => exact ⟨_, listed, nofun⟩
  | insist listed _ => exact ⟨_, listed, nofun⟩
  | stay admits _ =>
      obtain ⟨mode, listed, _⟩ := admits
      exact ⟨_, listed, nofun⟩
  | up admits _ =>
      obtain ⟨mode, listed, _⟩ := admits
      exact ⟨_, listed, nofun⟩
  | enter admits _ _ =>
      obtain ⟨mode, listed, _⟩ := admits
      exact ⟨_, listed, nofun⟩
  | follow admits _ _ _ =>
      obtain ⟨mode, listed, _⟩ := admits
      exact ⟨_, listed, nofun⟩

theorem Arrives.not_vacant {location : Location} :
    ¬ tree.Arrives caller links start steps (.vacant location) := by
  generalize vacant : Spot.vacant location = spot
  intro arrives
  induction arrives with
  | file => contradiction
  | directory => contradiction
  | insist _ _ ih => exact ih vacant
  | stay _ _ ih => exact ih vacant
  | up _ _ ih => exact ih vacant
  | enter _ _ _ ih => exact ih vacant
  | follow _ _ _ _ ih => exact ih vacant

theorem walk_of_arrives {spot : Spot} (arrives : tree.Arrives caller links start steps spot) :
    tree.walk caller links start steps = .ok spot := by
  induction arrives with
  | @file links location mode content listed =>
      obtain ⟨follow, whole⟩ := exists_walk_eq tree caller links
      simp [whole, walkWith, listed]
  | @directory links location mode listed =>
      obtain ⟨follow, whole⟩ := exists_walk_eq tree caller links
      simp [whole, walkWith, listed]
  | insist listed _ ih => rwa [walk_insist listed]
  | stay admits _ ih => rwa [walk_stay admits]
  | up admits _ ih => rwa [walk_up admits]
  | enter admits short below ih =>
      obtain ⟨node, entry, noLink⟩ := below.entry
      rwa [walk_enter admits short entry noLink]
  | follow admits short link _ ih => rwa [walk_follow admits short link]

theorem walk_of_stuck (stuck : tree.Stuck caller links start steps) :
    IsLost (tree.walk caller links start steps) := by
  induction stuck with
  | @absent links location steps absent =>
      obtain ⟨follow, whole⟩ := exists_walk_eq tree caller links
      cases steps <;> exact .inl ⟨.noSuchEntry, by simp [whole, walkWith, absent]⟩
  | @onLink links location target steps listed =>
      obtain ⟨follow, whole⟩ := exists_walk_eq tree caller links
      cases steps with
      | nil => exact .inl ⟨.tooManyLinks, by simp [whole, walkWith, listed]⟩
      | cons step later => exact .inl ⟨.notDirectory, by simp [whole, walkWith, listed]⟩
  | @inFile links location mode content step later listed =>
      obtain ⟨follow, whole⟩ := exists_walk_eq tree caller links
      exact .inl ⟨.notDirectory, by simp [whole, walkWith, listed]⟩
  | barred moves bars =>
      obtain ⟨mode, listed, closed⟩ := bars
      exact .inl ⟨.permissionDenied, walk_of_bars (.here listed moves) ⟨mode, listed, closed⟩⟩
  | longName admits long => exact .inl ⟨.nameTooLong, walk_longName admits long _⟩
  | missing admits short missing => exact walk_missing admits short missing _
  | manyLinks admits short link => exact .inl ⟨.tooManyLinks, walk_manyLinks admits short link⟩
  | insist listed _ ih => rwa [walk_insist listed]
  | stay admits _ ih => rwa [walk_stay admits]
  | up admits _ ih => rwa [walk_up admits]
  | enter admits short entry noLink _ ih => rwa [walk_enter admits short entry noLink]
  | follow admits short link _ ih => rwa [walk_follow admits short link]

theorem Decided.imp {otherLinks : Nat} {otherStart : Location} {otherSteps : List Step}
    (below : tree.Decided caller links start steps)
    (arrives : ∀ spot, tree.Arrives caller links start steps spot →
      tree.Arrives caller otherLinks otherStart otherSteps spot)
    (stuck : tree.Stuck caller links start steps →
      tree.Stuck caller otherLinks otherStart otherSteps) :
    tree.Decided caller otherLinks otherStart otherSteps :=
  Or.imp (fun ⟨spot, arrived⟩ => ⟨spot, arrives spot arrived⟩) stuck below

theorem decided_enter {name : Name} {later : List Step} (admits : tree.Admits start caller)
    (linked : ∀ target, name.length ≤ longestName →
      tree.node? (start ++ [name]) = some (.link target) →
      tree.Decided caller links start (.enter name :: later))
    (rest : tree.Decided caller links (start ++ [name]) later) :
    tree.Decided caller links start (.enter name :: later) := by
  by_cases short : name.length ≤ longestName
  · cases entry : tree.node? (start ++ [name]) with
    | none => exact .inr (.missing admits short entry)
    | some node =>
        by_cases link : ∃ target, node = .link target
        · obtain ⟨target, rfl⟩ := link
          exact linked target short entry
        · have noLink : ∀ target, node ≠ .link target := not_exists.mp link
          exact rest.imp (fun _ => .enter admits short) (.enter admits short entry noLink)
  · exact .inr (.longName admits (Nat.lt_of_not_le short))

/-- Every walk is decided if the links on it are. -/
theorem decided_of_links
    (linked : ∀ location name target later, tree.Admits location caller →
      name.length ≤ longestName → tree.node? (location ++ [name]) = some (.link target) →
      tree.Decided caller links location (.enter name :: later)) :
    tree.Decided caller links start steps := by
  induction steps generalizing start with
  | nil =>
      cases listed : tree.node? start with
      | none => exact .inr (.absent listed)
      | some node =>
          cases node with
          | file mode content => exact .inl ⟨_, .file listed⟩
          | directory mode => exact .inl ⟨_, .directory listed⟩
          | link target => exact .inr (.onLink listed)
  | cons step later ih =>
      cases listed : tree.node? start with
      | none => exact .inr (.absent listed)
      | some node =>
          cases node with
          | file mode content => exact .inr (.inFile listed)
          | link target => exact .inr (.onLink listed)
          | directory mode =>
              by_cases moves : step = .insist
              · subst moves
                exact ih.imp (fun _ => .insist listed) (.insist listed)
              · cases searched : caller.may mode .search with
                | false => exact .inr (.barred moves ⟨mode, listed, searched⟩)
                | true =>
                    have admits : tree.Admits start caller := ⟨mode, listed, searched⟩
                    cases step with
                    | insist => contradiction
                    | stay => exact ih.imp (fun _ => .stay admits) (.stay admits)
                    | up => exact ih.imp (fun _ => .up admits) (.up admits)
                    | enter name =>
                        apply decided_enter admits _ ih
                        intro target short link
                        exact linked start name target later admits short link

theorem decided (tree : FileTree) (caller : Caller) (links : Nat) (start : Location)
    (steps : List Step) : tree.Decided caller links start steps := by
  induction links generalizing start steps with
  | zero =>
      apply decided_of_links
      intro location name target later admits short link
      exact .inr (.manyLinks admits short link)
  | succ links ih =>
      apply decided_of_links
      intro location name target later admits short link
      have below := ih (startOfPath location target) (stepsOfPath target ++ later)
      exact below.imp (fun _ => .follow admits short link) (.follow admits short link)

/-! ### Paths -/

variable {path : Bytes} {spot : Spot}

theorem checkPath_eq_ok_iff :
    checkPath path = .ok () ↔ path ≠ [] ∧ 0 ∉ path ∧ path.length ≤ longestPath := by
  unfold checkPath
  split
  · simp_all
  · split
    · simp_all
    · split
      · simp_all
      · simp_all

theorem lookup_of_leadsTo (leads : tree.LeadsTo caller path spot) :
    tree.lookup caller path = .ok spot := by
  rw [lookup_of_checked (checkPath_eq_ok_iff.mpr leads.checked)]
  exact walk_of_arrives leads.arrives

theorem lookup_of_leadsNowhere (nowhere : tree.LeadsNowhere caller path) :
    IsLost (tree.lookup caller path) := by
  rcases checkPath_cases path with checked | ⟨fault, unchecked, _⟩
  · obtain ⟨something, noZero, fits⟩ := checkPath_eq_ok_iff.mp checked
    rw [lookup_of_checked checked]
    rcases nowhere with empty | zero | tooLong | stuck
    · exact absurd empty something
    · exact absurd zero noZero
    · omega
    · exact walk_of_stuck stuck
  · exact .inl ⟨fault, lookup_of_unchecked unchecked⟩

theorem leadsTo_or_leadsNowhere (tree : FileTree) (caller : Caller) (path : Bytes) :
    (∃ spot, tree.LeadsTo caller path spot) ∨ tree.LeadsNowhere caller path := by
  by_cases empty : path = []
  · exact .inr (.inl empty)
  by_cases zero : 0 ∈ path
  · exact .inr (.inr (.inl zero))
  by_cases fits : path.length ≤ longestPath
  · rcases tree.decided caller mostLinks (startOfPath tree.working path) (stepsOfPath path) with
      ⟨spot, arrives⟩ | stuck
    · exact .inl ⟨spot, ⟨empty, zero, fits⟩, arrives⟩
    · exact .inr (.inr (.inr (.inr stuck)))
  · exact .inr (.inr (.inr (.inl (Nat.lt_of_not_le fits))))

end

end FileTree

end TypePolish
