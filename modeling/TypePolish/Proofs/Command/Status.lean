import TypePolish.Proofs.Command.Ending
import TypePolish.Proofs.Polish.Changed

/-!
What the exit status of the command tells. It is that of a success exactly if a file was changed or
a flag was answered, and the two outputs say the rest (`Session.exit_status_tells`).
-/

namespace TypePolish

theorem Text.encode_ne_nil {text : Text} (something : text ≠ []) : text.encode ≠ [] := by
  intro nothing
  have same : text.encode = Text.encode [] := nothing
  exact something (Text.encode_injective same)

theorem startLine_ne_nil (path : Bytes) : startLine path ≠ [] :=
  List.append_ne_nil_of_right_ne_nil _ (List.cons_ne_nil _ _)

theorem Misuse.message_ne_nil (misuse : Misuse) : misuse.message ≠ [] :=
  List.append_ne_nil_of_right_ne_nil _ (by decide)

namespace Session

def errorOutput : Except Failure Outcome → Text
  | .ok _ => []
  | .error failure => "Error: ".toList ++ failure.message ++ ['\n']

/-- A run of the command, by its exit status and the session that it leaves, tells what was asked
for: what a flag shows, what is wrong with the arguments, or what came of polishing the path. -/
def Tells (tree : FileTree) (caller : Caller) (status : Nat) (later : Session) : Request → Prop
  | .inform _ => status = 0 ∧ later.complaints = []
  | .refuse _ => status = 2 ∧ later.output.taken = [] ∧ later.complaints ≠ []
  | .polish path =>
      let polished := (start tree .unbounded).polishFile caller .standard path
      later.output = polished.2.output ∧ later.tree = polished.2.tree ∧
        (status = 0 ↔ polished.1 = .ok .polished) ∧ (status ≠ 0 → status = 1) ∧
        later.complaints = (errorOutput polished.1).encode

section

variable (ended : Except Failure Outcome × Session)

theorem status_answer_eq_zero_iff : (answer ended).1 = 0 ↔ ended.1 = .ok .polished := by
  obtain ⟨result, later⟩ := ended
  cases result with
  | error failure => simp [answer, Command.failed]
  | ok outcome => cases outcome <;> simp [answer, Command.success, Command.failed]

theorem status_answer_eq_one (failed : (answer ended).1 ≠ 0) : (answer ended).1 = 1 := by
  obtain ⟨result, later⟩ := ended
  cases result with
  | error failure => rfl
  | ok outcome =>
      cases outcome with
      | polished => exact absurd rfl failed
      | missing => rfl

theorem output_answer : (answer ended).2.output = ended.2.output := by
  obtain ⟨result, later⟩ := ended
  cases result with
  | error failure => rfl
  | ok outcome => cases outcome <;> rfl

theorem complaints_answer :
    (answer ended).2.complaints = ended.2.complaints ++ (errorOutput ended.1).encode := by
  obtain ⟨result, later⟩ := ended
  cases result with
  | error failure => rfl
  | ok outcome => cases outcome <;> exact (List.append_nil _).symm

end

theorem complaints_polishFile (session : Session) (caller : Caller) (table : Table)
    (path : Bytes) :
    (session.polishFile caller table path).2.complaints = session.complaints := by
  rw [polishFile_eq_course]
  unfold conclude announce
  cases session.output.write (session.tree.course caller table path).report.encode with
  | mk taken output => cases taken <;> rfl

theorem tells_fulfil (tree : FileTree) (caller : Caller) (request : Request) :
    Tells tree caller ((start tree .unbounded).fulfil caller request).1
      ((start tree .unbounded).fulfil caller request).2 request := by
  cases request with
  | inform flag => exact ⟨rfl, rfl⟩
  | refuse misuse => exact ⟨rfl, rfl, Text.encode_ne_nil misuse.message_ne_nil⟩
  | polish path =>
      have quiet := complaints_polishFile (start tree .unbounded) caller .standard path
      refine ⟨?_, ?_, ?_, ?_, ?_⟩
      · exact output_answer _
      · exact tree_answer _
      · exact status_answer_eq_zero_iff _
      · exact status_answer_eq_one _
      · rw [fulfil, complaints_answer, quiet]
        rfl

theorem changes_fulfil_iff (session : Session) (caller : Caller) (request : Request) :
    (session.fulfil caller request).2.tree ≠ session.tree ↔
      (∃ path, request = .polish path) ∧ (session.fulfil caller request).1 = 0 := by
  by_cases selected : ∃ path, request = .polish path
  · obtain ⟨path, rfl⟩ := selected
    rw [fulfil, tree_answer, status_answer_eq_zero_iff, polishFile_changes_iff]
    simp
  · have kept := tree_fulfil session caller (not_exists.mp selected)
    simp [kept, selected]

theorem polishFile_fullDevice (tree : FileTree) (caller : Caller) (table : Table) (path : Bytes) :
    (start tree .fullDevice).polishFile caller table path =
      (.error (.progress .noSpace), start tree .fullDevice) := by
  have something : 0 < (startLine path).encode.length :=
    List.length_pos_iff.mpr (Text.encode_ne_nil (startLine_ne_nil path))
  have refused : (start tree .fullDevice).announce (startLine path) =
      (.error .noSpace, start tree .fullDevice) := by
    unfold announce start Sink.fullDevice
    rw [Sink.write_bounded_of_lt something]
    rfl
  rw [polishFile_eq, refused]

/-- The tree changes exactly if a path is asked for and the status is zero, the status and the
outputs tell which request was made and what came of it, and a full device in the place of the
output ends every run for a path before anything is changed. -/
theorem exit_status_tells (tree : FileTree) (caller : Caller) (arguments : List Bytes) :
    let run := (start tree .unbounded).runCommand caller arguments
    (run.2.tree ≠ tree ↔
      (∃ path, Request.ofArguments arguments = .polish path) ∧ run.1 = 0) ∧
    Tells tree caller run.1 run.2 (Request.ofArguments arguments) ∧
    ∀ path, Request.ofArguments arguments = .polish path →
      (start tree .fullDevice).runCommand caller arguments =
        (1, { start tree .fullDevice with
          complaints := Text.encode
            "Error: IO Error: No space left on device (os error 28)\n".toList }) := by
  refine ⟨?_, ?_, ?_⟩
  · rw [runCommand_eq]
    exact changes_fulfil_iff (start tree .unbounded) caller _
  · rw [runCommand_eq]
    exact tells_fulfil tree caller _
  · intro path selected
    rw [runCommand_eq, selected, fulfil, polishFile_fullDevice]
    rfl

end Session

end TypePolish
