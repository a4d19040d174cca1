import TypePolish.Proofs.FileTree.Arrival
import TypePolish.Proofs.Polish.Missing

/-!
The four ways in which a run ends whose output takes every line. Where the path leads, what the
caller may do there and whether the file is text decide which one it is, what the run returns and
what it has said by then (`Session.polishFile_ends_one_way`).
-/

namespace TypePolish

inductive Ending
  | missing
  | unreadable
  | unwritable
  | polished
  deriving DecidableEq, Repr

def FailsWith (opening : Text) (result : Except Failure Outcome) : Prop :=
  ∃ failure, result = .error failure ∧ failure.isBareFault = false ∧ opening <+: failure.detail

namespace Ending

def Due (tree : FileTree) (caller : Caller) (path : Bytes) : Ending → Prop
  | missing => tree.LeadsNowhere caller path
  | unreadable =>
      (∃ location mode, tree.LeadsTo caller path (.directory location mode)) ∨
        ∃ location mode content, tree.LeadsTo caller path (.file location mode content) ∧
          (caller.may mode .read = false ∨ ¬ IsText content)
  | unwritable =>
      ∃ location mode content, tree.LeadsTo caller path (.file location mode content) ∧
        caller.may mode .read = true ∧ IsText content ∧ caller.may mode .write = false
  | polished =>
      ∃ location mode content, tree.LeadsTo caller path (.file location mode content) ∧
        caller.may mode .read = true ∧ IsText content ∧ caller.may mode .write = true

def Returns (result : Except Failure Outcome) : Ending → Prop
  | missing => result = .ok .missing
  | unreadable => FailsWith "Failed to read file".toList result
  | unwritable => FailsWith "Failed to write file".toList result
  | polished => result = .ok .polished

def log (table : Table) (path : Bytes) (ending : Ending) : Text :=
  "Processing ".toList ++ path.lossy ++ "\n".toList ++
    match ending with
    | missing => "File ".toList ++ path.lossy ++ " does not exist\n".toList
    | unreadable => []
    | unwritable | polished =>
        table.flatMap fun rule =>
          "Replacing '".toList ++ rule.pattern ++ "' -> '".toList ++ rule.template ++
            "'\n".toList

/-- This is the one way in which the run can end, by what is at the path and by the result. -/
structure Settles (session : Session) (caller : Caller) (table : Table) (path : Bytes)
    (ending : Ending) : Prop where
  due : ∀ other : Ending, other.Due session.tree caller path ↔ other = ending
  returns : ∀ other : Ending,
    other.Returns (session.polishFile caller table path).1 ↔ other = ending
  told : (session.polishFile caller table path).2.output.taken =
    session.output.taken ++ (ending.log table path).encode
  noProgressFault : ∀ fault, (session.polishFile caller table path).1 ≠ .error (.progress fault)

/-- The words of the log are those that the run announces. -/
theorem log_eq (table : Table) (path : Bytes) (ending : Ending) :
    ending.log table path =
      match ending with
      | missing => startLine path ++ missingLine path
      | unreadable => startLine path
      | unwritable | polished => startLine path ++ table.report := by
  cases ending with
  | missing => rfl
  | unreadable => exact List.append_nil _
  | unwritable => exact congrArg (startLine path ++ ·) table.report_words.symm
  | polished => exact congrArg (startLine path ++ ·) table.report_words.symm

theorem openings_differ {text : Text} (read : "Failed to read file".toList <+: text) :
    ¬ "Failed to write file".toList <+: text := by
  intro write
  rcases List.prefix_or_prefix_of_prefix read write with inside | inside
  · exact absurd inside (by decide)
  · exact absurd inside (by decide)

section

variable {other : Ending}

theorem returns_missing_iff : other.Returns (.ok .missing) ↔ other = .missing := by
  cases other <;> simp [Returns, FailsWith]

theorem returns_polished_iff : other.Returns (.ok .polished) ↔ other = .polished := by
  cases other <;> simp [Returns, FailsWith]

theorem returns_unreadable_iff (path : Bytes) (fault : Fault) :
    other.Returns (.error (.unreadable path fault)) ↔ other = .unreadable := by
  have opens : "Failed to read file".toList <+: (Failure.unreadable path fault).detail :=
    ⟨' ' :: (path.quoted ++ ": ".toList ++ fault.text), rfl⟩
  cases other with
  | missing => exact iff_of_false nofun nofun
  | polished => exact iff_of_false nofun nofun
  | unreadable => exact iff_of_true ⟨_, rfl, rfl, opens⟩ rfl
  | unwritable =>
      refine iff_of_false ?_ nofun
      rintro ⟨failure, same, _, write⟩
      cases same
      exact openings_differ opens write

theorem returns_unwritable_iff (path : Bytes) (fault : Fault) :
    other.Returns (.error (.unwritable path fault)) ↔ other = .unwritable := by
  have opens : "Failed to write file".toList <+: (Failure.unwritable path fault).detail :=
    ⟨' ' :: (path.quoted ++ ": ".toList ++ fault.text), rfl⟩
  cases other with
  | missing => exact iff_of_false nofun nofun
  | polished => exact iff_of_false nofun nofun
  | unwritable => exact iff_of_true ⟨_, rfl, rfl, opens⟩ rfl
  | unreadable =>
      refine iff_of_false ?_ nofun
      rintro ⟨failure, same, _, read⟩
      cases same
      exact openings_differ read opens

theorem not_returns_progress (fault : Fault) : ¬ other.Returns (.error (.progress fault)) := by
  cases other with
  | missing => exact nofun
  | polished => exact nofun
  | unreadable =>
      rintro ⟨failure, same, told, _⟩
      cases same
      contradiction
  | unwritable =>
      rintro ⟨failure, same, told, _⟩
      cases same
      contradiction

end

variable {tree : FileTree} {caller : Caller} {path : Bytes} {ending : Ending}

theorem exists_due (tree : FileTree) (caller : Caller) (path : Bytes) :
    ∃ ending : Ending, ending.Due tree caller path := by
  rcases tree.leadsTo_or_leadsNowhere caller path with ⟨spot, leads⟩ | nowhere
  · cases spot with
    | vacant location => exact absurd leads.arrives FileTree.Arrives.not_vacant
    | directory location mode => exact ⟨.unreadable, .inl ⟨location, mode, leads⟩⟩
    | file location mode content =>
        by_cases isText : IsText content
        · cases readable : caller.may mode .read with
          | false => exact ⟨.unreadable, .inr ⟨location, mode, content, leads, .inl readable⟩⟩
          | true =>
              cases writable : caller.may mode .write with
              | false =>
                  exact ⟨.unwritable, location, mode, content, leads, readable, isText, writable⟩
              | true =>
                  exact ⟨.polished, location, mode, content, leads, readable, isText, writable⟩
        · exact ⟨.unreadable, .inr ⟨location, mode, content, leads, .inr isText⟩⟩
  · exact ⟨.missing, nowhere⟩

/-- The plan of a run for a path with this ending. -/
theorem plan_of_due (table : Table) (due : ending.Due tree caller path) :
    (tree.plan caller table path).report = ending.log table path ∧
      ∀ other : Ending, other.Returns (tree.plan caller table path).result ↔ other = ending := by
  unfold FileTree.plan
  rw [log_eq]
  cases ending with
  | missing =>
      rcases FileTree.lookup_of_leadsNowhere due with ⟨fault, found⟩ | ⟨location, found⟩
      · rw [found]
        exact ⟨rfl, fun _ => returns_missing_iff⟩
      · rw [found]
        exact ⟨rfl, fun _ => returns_missing_iff⟩
  | unreadable =>
      rcases due with ⟨location, mode, leads⟩ | ⟨location, mode, content, leads, withheld⟩
      · rw [FileTree.lookup_of_leadsTo leads]
        exact ⟨rfl, fun _ => returns_unreadable_iff path _⟩
      · rw [FileTree.lookup_of_leadsTo leads]
        simp only [Plan.ofSpot]
        split
        next readable =>
          split
          next text decoded =>
            have isText : IsText content := ⟨text, decoded⟩
            simp [readable, isText] at withheld
          · exact ⟨rfl, fun _ => returns_unreadable_iff path _⟩
        · exact ⟨rfl, fun _ => returns_unreadable_iff path _⟩
  | unwritable =>
      obtain ⟨location, mode, content, leads, readable, ⟨text, decoded⟩, writable⟩ := due
      rw [FileTree.lookup_of_leadsTo leads]
      simp only [Plan.ofSpot, readable, decoded, writable, ↓reduceIte, Bool.false_eq_true]
      exact ⟨trivial, fun _ => returns_unwritable_iff path _⟩
  | polished =>
      obtain ⟨location, mode, content, leads, readable, ⟨text, decoded⟩, writable⟩ := due
      rw [FileTree.lookup_of_leadsTo leads]
      simp only [Plan.ofSpot, readable, decoded, writable, ↓reduceIte]
      exact ⟨trivial, fun _ => returns_polished_iff⟩

theorem due_iff (due : ending.Due tree caller path) (other : Ending) :
    other.Due tree caller path ↔ other = ending := by
  constructor
  · intro also
    have returned := (plan_of_due [] due).2
    have alsoReturned := (plan_of_due [] also).2
    exact (returned other).mp ((alsoReturned other).mpr rfl)
  · rintro rfl
    exact due

end Ending

namespace Session

variable {session : Session}

/-- A run whose output takes every line ends in exactly one of the four ways. -/
theorem polishFile_ends_one_way (endless : session.output.room = none) (caller : Caller)
    (table : Table) (path : Bytes) :
    ∃ ending : Ending, ending.Settles session caller table path := by
  obtain ⟨ending, due⟩ := Ending.exists_due session.tree caller path
  obtain ⟨reported, returned⟩ := Ending.plan_of_due table due
  refine ⟨ending, Ending.due_iff due, ?_, ?_, ?_⟩
  · rw [result_of_endless endless]
    exact returned
  · rw [polishFile_of_endless endless, ← reported]
  · intro fault failed
    rw [result_of_endless endless] at failed
    have returns := (returned ending).mpr rfl
    rw [failed] at returns
    exact Ending.not_returns_progress fault returns

def lockedContent : Text :=
  "id?: V1;".toList

def lockedTree : FileTree :=
  let working : Location := ["work".toList].map Text.encode
  { entries :=
      [([], .directory 0o755), (working, .directory 0o755),
        (working ++ [Text.encode "link".toList], .link (Text.encode "./a.ts".toList)),
        (working ++ [Text.encode "a.ts".toList], .file 0o444 lockedContent.encode)]
    working }

def lockedPath : Bytes :=
  Text.encode "link".toList

theorem lockedTree_ends_unwritable :
    (start lockedTree .unbounded).output.room = none ∧
      Ending.unwritable.Settles (start lockedTree .unbounded) .other .standard lockedPath := by
  have endless : (start lockedTree .unbounded).output.room = none := rfl
  have found : lockedTree.lookup .other lockedPath =
      .ok (.file (["work".toList, "a.ts".toList].map Text.encode) 0o444 lockedContent.encode) := rfl
  have result : ((start lockedTree .unbounded).polishFile .other .standard lockedPath).1 =
      .error (.unwritable lockedPath .permissionDenied) := by
    have readable : Caller.other.may 0o444 .read = true := by decide
    have locked : Caller.other.may 0o444 .write = false := by decide
    rw [result_of_endless endless]
    simp [start, FileTree.plan, found, Plan.ofSpot, readable, locked]
  obtain ⟨ending, settles⟩ := polishFile_ends_one_way endless .other .standard lockedPath
  have returned := settles.returns .unwritable
  rw [result, Ending.returns_unwritable_iff, eq_self_iff_true, true_iff] at returned
  rw [returned]
  exact ⟨endless, settles⟩

end Session

end TypePolish
