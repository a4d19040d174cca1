import TypePolish.Proofs.Polish.Missing
import TypePolish.Proofs.Text.Quoted

/-!
What a run tells that has to give its file up. On any host it fails with nothing but a fault of
the progress sink or a fault of the file at its path (`Host.polishFile_failsOnlyWith`). The message
about the file has the path in quotes. It stays on one line, whatever the bytes of the path, and the
path can be read back from it, whatever the words of the fault (`failures_name_their_path`).
-/

namespace TypePolish

/-! ### Which failures there are -/

section

variable {σ α β : Type} {allowed : Failure → Prop}

def FailsOnlyWith (allowed : Failure → Prop) (action : ExceptT Failure (StateM σ) α) : Prop :=
  ∀ state failure, (action.run.run state).1 = .error failure → allowed failure

theorem failsOnlyWith_pure (value : α) :
    FailsOnlyWith allowed (pure value : ExceptT Failure (StateM σ) α) := by
  intro state failure failed
  cases failed

theorem failsOnlyWith_lift (action : StateM σ α) :
    FailsOnlyWith allowed (liftM action : ExceptT Failure (StateM σ) α) := by
  intro state failure failed
  cases failed

theorem failsOnlyWith_bind {action : ExceptT Failure (StateM σ) α}
    {next : α → ExceptT Failure (StateM σ) β} (first : FailsOnlyWith allowed action)
    (later : ∀ value, FailsOnlyWith allowed (next value)) :
    FailsOnlyWith allowed (action >>= next) := by
  intro state failure failed
  simp only [bind, ExceptT.bind, ExceptT.run, ExceptT.mk, StateT.bind, StateT.run] at failed
  cases ended : action state with
  | mk result after =>
      rw [ended] at failed
      cases result with
      | error other =>
          cases failed
          exact first state failure (congrArg Prod.fst ended)
      | ok value => exact later value after failure failed

theorem failsOnlyWith_blaming (blame : Fault → Failure) (action : StateM σ (Except Fault α))
    (all : ∀ fault, allowed (blame fault)) : FailsOnlyWith allowed (blaming blame action) := by
  intro state failure failed
  change ((action state).1.mapError blame) = .error failure at failed
  cases result : (action state).1 with
  | ok value =>
      rw [result] at failed
      cases failed
  | error fault =>
      rw [result] at failed
      cases failed
      exact all fault

inductive Failure.Blames (path : Bytes) (fault : Fault) : Failure → Prop
  | unreadable : Blames path fault (.unreadable path fault)
  | unwritable : Blames path fault (.unwritable path fault)

def Failure.Expected (path : Bytes) (failure : Failure) : Prop :=
  failure.isBareFault = true ∨ ∃ fault, failure.Blames path fault

theorem failsOnlyWith_applyAnnounced {announce : Text → ExceptT Failure (StateM σ) Unit}
    (each : ∀ line, FailsOnlyWith allowed (announce line)) (table : Table) (text : Text) :
    FailsOnlyWith allowed (table.applyAnnounced announce text) := by
  induction table generalizing text with
  | nil => exact failsOnlyWith_pure text
  | cons rule later ih => exact failsOnlyWith_bind (each _) fun _ => ih (rule.apply text)

theorem Host.polishFile_failsOnlyWith (host : Host (StateM σ)) (table : Table) (path : Bytes) :
    FailsOnlyWith (Failure.Expected path) (host.polishFile table path) := by
  have announced (line : Text) : FailsOnlyWith (Failure.Expected path) (host.progress line) :=
    failsOnlyWith_blaming _ _ fun _ => .inl rfl
  unfold Host.polishFile
  refine failsOnlyWith_bind (announced _) fun _ => ?_
  refine failsOnlyWith_bind (failsOnlyWith_lift _) fun present => ?_
  cases present with
  | true =>
      refine failsOnlyWith_bind ?_ fun content => ?_
      · exact failsOnlyWith_blaming _ _ fun fault => .inr ⟨fault, .unreadable⟩
      refine failsOnlyWith_bind (failsOnlyWith_applyAnnounced announced table _) fun polished => ?_
      refine failsOnlyWith_bind ?_ fun _ => failsOnlyWith_pure _
      exact failsOnlyWith_blaming _ _ fun fault => .inr ⟨fault, .unwritable⟩
  | false => exact failsOnlyWith_bind (announced _) fun _ => failsOnlyWith_pure _

structure Host.GivesUp (host : Host (StateM σ)) (state : σ) (table : Table) (path : Bytes)
    (failure : Failure) : Prop where
  fails : ((host.polishFile table path).run.run state).1 = .error failure
  aboutFile : failure.isBareFault = false

theorem Host.GivesUp.exists_fault {host : Host (StateM σ)} {state : σ} {table : Table}
    {path : Bytes} {failure : Failure} (givesUp : host.GivesUp state table path failure) :
    ∃ fault, failure.Blames path fault := by
  rcases host.polishFile_failsOnlyWith table path state failure givesUp.fails with bare | blamed
  · rw [givesUp.aboutFile] at bare
    contradiction
  · exact blamed

end

/-! ### Messages on one line -/

def Text.OneLine (text : Text) : Prop :=
  ∀ char ∈ text, isControl char = false

instance (text : Text) : Decidable text.OneLine :=
  List.decidableBAll (fun char => isControl char = false) text

theorem Text.oneLine_append {first second : Text} :
    OneLine (first ++ second) ↔ first.OneLine ∧ second.OneLine :=
  List.forall_mem_append

theorem Bytes.oneLine_quoted (path : Bytes) : path.quoted.OneLine :=
  fun char member => not_control_of_visible (path.visible_quoted char member)

/-! ### Reading the path back from a message -/

/-- The path that stands in a message between its first quote and the one that closes it. -/
def pathTold? (message : Text) : Option Bytes :=
  match message.dropWhile (· != '"') with
  | [] => none
  | _ :: inner => (readQuoted .plain inner).map Prod.fst

theorem pathTold?_append {opening : Text} (noQuote : '"' ∉ opening) (path : Bytes) (rest : Text) :
    pathTold? (opening ++ (path.quoted ++ rest)) = some path := by
  obtain ⟨inner, whole, read⟩ := readQuoted_quoted path rest
  have passed : ∀ char ∈ opening, (char != '"') = true := by
    intro char member
    exact bne_iff_ne.mpr (ne_of_mem_of_not_mem member noQuote)
  rw [pathTold?, List.dropWhile_append_of_pos passed, whole]
  simp [read]

section

variable {failure : Failure} {path : Bytes} {fault : Fault}

theorem exists_opening (blamed : failure.Blames path fault) :
    ∃ opening : Text, failure.message = opening ++ (path.quoted ++ (": ".toList ++ fault.text)) ∧
      '"' ∉ opening ∧ opening.OneLine := by
  cases blamed with
  | unreadable =>
      have whole : (Failure.unreadable path fault).message = "General Error: ".toList ++
          ("Failed to read file ".toList ++ path.quoted ++ ": ".toList ++ fault.text) := rfl
      refine ⟨"General Error: ".toList ++ "Failed to read file ".toList, ?_, by decide +kernel,
        by decide +kernel⟩
      simp only [whole, List.append_assoc]
  | unwritable =>
      have whole : (Failure.unwritable path fault).message = "General Error: ".toList ++
          ("Failed to write file ".toList ++ path.quoted ++ ": ".toList ++ fault.text) := rfl
      refine ⟨"General Error: ".toList ++ "Failed to write file ".toList, ?_, by decide +kernel,
        by decide +kernel⟩
      simp only [whole, List.append_assoc]

theorem pathTold?_message (blamed : failure.Blames path fault) :
    pathTold? failure.message = some path := by
  obtain ⟨opening, whole, noQuote, _⟩ := exists_opening blamed
  rw [whole]
  exact pathTold?_append noQuote path _

theorem oneLine_message_iff (blamed : failure.Blames path fault) :
    failure.message.OneLine ↔ fault.text.OneLine := by
  obtain ⟨opening, whole, _, plain⟩ := exists_opening blamed
  have colon : Text.OneLine ": ".toList := by decide +kernel
  rw [whole, Text.oneLine_append, Text.oneLine_append, Text.oneLine_append]
  simp only [plain, path.oneLine_quoted, colon, true_and]

end

/-! ### Runs in a session -/

namespace Session

variable {session : Session} {caller : Caller} {table : Table} {path : Bytes} {failure : Failure}

def faultsOfEntries : List Fault :=
  [.permissionDenied, .isDirectory, .notText]

theorem oneLine_faultsOfEntries : ∀ fault ∈ faultsOfEntries, fault.text.OneLine := by
  decide +kernel

theorem exists_fault_of_plan {tree : FileTree}
    (failed : (tree.plan caller table path).result = .error failure) :
    ∃ fault ∈ faultsOfEntries, failure.Blames path fault := by
  unfold FileTree.plan at failed
  cases found : tree.lookup caller path with
  | error fault => simp [found, Plan.ofSpot] at failed
  | ok spot =>
      rw [found] at failed
      cases spot with
      | vacant location => simp [Plan.ofSpot] at failed
      | directory location mode =>
          cases failed
          refine ⟨_, ?_, .unreadable⟩
          split <;> simp [faultsOfEntries]
      | file location mode content =>
          simp only [Plan.ofSpot] at failed
          split at failed
          · split at failed
            · split at failed
              · contradiction
              · cases failed
                exact ⟨.permissionDenied, by simp [faultsOfEntries], .unwritable⟩
            · cases failed
              exact ⟨.notText, by simp [faultsOfEntries], .unreadable⟩
          · cases failed
            exact ⟨.permissionDenied, by simp [faultsOfEntries], .unreadable⟩

theorem plan_of_givesUp (givesUp : (host caller).GivesUp session table path failure) :
    (session.tree.plan caller table path).result = .error failure := by
  have failed : (session.polishFile caller table path).1 = .error failure := givesUp.fails
  rw [polishFile_eq_course, FileTree.course_eq_plan, conclude] at failed
  split at failed
  · exact failed
  · cases failed
    have bare := givesUp.aboutFile
    contradiction

end Session

/-- The message of a run that gives its file up tells the path, on one line, and it tells no other
path: neither another run nor another host has the same message for another path. -/
theorem failures_name_their_path (path : Bytes) :
    (∀ (session : Session) (caller : Caller) (table : Table) (failure : Failure),
      (Session.host caller).GivesUp session table path failure →
        failure.message.encode.decode? = some failure.message ∧ failure.message.OneLine) ∧
    ∀ (σ : Type) (host : Host (StateM σ)) (state : σ) (table : Table) (failure : Failure),
      host.GivesUp state table path failure →
        (∃ fault, failure.Blames path fault ∧
          (failure.message.OneLine ↔ fault.text.OneLine)) ∧
        pathTold? failure.message = some path ∧
        ∀ (τ : Type) (other : Host (StateM τ)) (otherState : τ) (otherTable : Table)
          (otherPath : Bytes) (otherFailure : Failure),
          other.GivesUp otherState otherTable otherPath otherFailure → otherPath ≠ path →
            otherFailure.message ≠ failure.message := by
  constructor
  · intro session caller table failure givesUp
    obtain ⟨fault, known, blamed⟩ :=
      Session.exists_fault_of_plan (Session.plan_of_givesUp givesUp)
    have plain := Session.oneLine_faultsOfEntries fault known
    exact ⟨Bytes.decode?_encode _, (oneLine_message_iff blamed).mpr plain⟩
  · intro σ host state table failure givesUp
    obtain ⟨fault, blamed⟩ := givesUp.exists_fault
    have told := pathTold?_message blamed
    refine ⟨⟨fault, blamed, oneLine_message_iff blamed⟩, told, ?_⟩
    intro τ other otherState otherTable otherPath otherFailure otherGivesUp differ same
    obtain ⟨otherFault, otherBlamed⟩ := otherGivesUp.exists_fault
    have otherTold := pathTold?_message otherBlamed
    rw [same, told] at otherTold
    exact differ (Option.some.inj otherTold).symm

def strayName : Bytes :=
  Text.encode "\": \n".toList ++ [0xFF]

def spelledName : Bytes :=
  Text.encode "\": \n\\xFF".toList

def twinTree : FileTree :=
  { entries := [([], .directory 0o755), ([strayName], .directory 0o755),
      ([spelledName], .directory 0o755)]
    working := [] }

theorem twinTree_gives_up {name : Bytes} (twin : name = strayName ∨ name = spelledName) :
    (Session.host .superuser).GivesUp (Session.start twinTree .unbounded) .standard name
      (.unreadable name .isDirectory) := by
  have found : twinTree.lookup .superuser name = .ok (.directory [name] 0o755) := by
    rcases twin with rfl | rfl <;> rfl
  have endless : (Session.start twinTree .unbounded).output.room = none := rfl
  have failed : ((Session.start twinTree .unbounded).polishFile .superuser .standard name).1 =
      .error (.unreadable name .isDirectory) := by
    rw [Session.result_of_endless endless, Session.start, FileTree.plan, found]
    rfl
  exact ⟨failed, rfl⟩

theorem twinNames_told_apart :
    (Session.host .superuser).GivesUp (Session.start twinTree .unbounded) .standard strayName
        (.unreadable strayName .isDirectory) ∧
      (Session.host .superuser).GivesUp (Session.start twinTree .unbounded) .standard spelledName
        (.unreadable spelledName .isDirectory) ∧
      (Failure.unreadable strayName .isDirectory).message =
        "General Error: Failed to read file ".toList ++ "\"\\\": \\n\\xFF\"".toList ++
          ": Is a directory (os error 21)".toList ∧
      (Failure.unreadable strayName .isDirectory).message.OneLine ∧
      pathTold? (Failure.unreadable strayName .isDirectory).message = some strayName ∧
      (Failure.unreadable spelledName .isDirectory).message ≠
        (Failure.unreadable strayName .isDirectory).message := by
  have stray := twinTree_gives_up (.inl rfl)
  have spelled := twinTree_gives_up (.inr rfl)
  obtain ⟨onOneLine, determined⟩ := failures_name_their_path strayName
  obtain ⟨_, told, apart⟩ := determined _ _ _ _ _ stray
  exact ⟨stray, spelled, by decide +kernel, (onOneLine _ _ _ _ stray).2, told,
    apart _ _ _ _ _ _ spelled (by decide)⟩

end TypePolish
