import TypePolish.Proofs.Command.Reading
import TypePolish.Proofs.Command.Status

/-!
What the first of the arguments decide, told by how runs end. A run may end at once with an answer
to a flag or a complaint of one argument, it may complain that it lacks a path, or it may polish
one. No run ends in two of these ways (`EndsAtOnce.not_lacksPath`, `EndsAtOnce.ne_answer`,
`LacksPath.ne_answer`), so its end tells what was asked for, and the shortest part of the arguments
that brings about the first way decides (`Session.runCommand_of_deciding_prefix`).
-/

namespace TypePolish

namespace Session

/-- What a run comes to when one argument settles it, whatever follows. -/
inductive EndsAtOnce (session : Session) : Nat × Session → Prop
  | informed (flag : Flag) : EndsAtOnce session (0, (session.announce flag.information).2)
  | surplus (argument : Bytes) :
      EndsAtOnce session (2, session.complain (Misuse.surplus argument).message)
  | unknownOption (option : Text) :
      EndsAtOnce session (2, session.complain (Misuse.unknownOption option).message)
  | unexpectedValue (flag : Flag) (value : Bytes) :
      EndsAtOnce session (2, session.complain (Misuse.unexpectedValue flag value).message)

def missingComplaint : Text :=
  "error: the following required arguments were not provided:\n".toList ++
    "  <PATH>\n".toList ++
    "\n".toList ++
    "Usage: process-types <PATH>\n".toList ++
    "\n".toList ++
    "For more information, try '--help'.\n".toList

def emptyComplaint : Text :=
  "error: a value is required for '<PATH>' but none was supplied\n".toList ++
    "\n".toList ++
    "For more information, try '--help'.\n".toList

inductive LacksPath (session : Session) : Nat × Session → Prop
  | missing : LacksPath session (2, session.complain missingComplaint)
  | empty : LacksPath session (2, session.complain emptyComplaint)

def Undecided (session : Session) (caller : Caller) (arguments : List Bytes) : Prop :=
  ∀ first, first <+: arguments → ¬ session.EndsAtOnce (session.runCommand caller first)

theorem complain_injective (session : Session) : Function.Injective session.complain := by
  intro first second same
  exact Text.encode_injective (List.append_cancel_left (congrArg Session.complaints same))

variable {session : Session} {run : Nat × Session}

theorem LacksPath.complained (lacking : session.LacksPath run) :
    ∃ text : Text, run = (2, session.complain text) ∧ text[7]? ≠ some 'u' := by
  cases lacking with
  | missing => exact ⟨missingComplaint, rfl, by decide +kernel⟩
  | empty => exact ⟨emptyComplaint, rfl, by decide +kernel⟩

/-- What is wrong with one argument is that it is unexpected, and so the complaint says behind its
first word. -/
theorem EndsAtOnce.complained (ended : session.EndsAtOnce run) (misused : run.1 = 2) :
    ∃ text : Text, run = (2, session.complain text) ∧ text[7]? = some 'u' := by
  cases ended with
  | informed flag => contradiction
  | surplus argument => exact ⟨_, rfl, rfl⟩
  | unknownOption option => exact ⟨_, rfl, rfl⟩
  | unexpectedValue flag value => exact ⟨_, rfl, rfl⟩

theorem EndsAtOnce.status (ended : session.EndsAtOnce run) : run.1 = 0 ∨ run.1 = 2 := by
  cases ended with
  | informed flag => exact .inl rfl
  | surplus argument => exact .inr rfl
  | unknownOption option => exact .inr rfl
  | unexpectedValue flag value => exact .inr rfl

theorem EndsAtOnce.tree_eq (ended : session.EndsAtOnce run) : run.2.tree = session.tree := by
  cases ended with
  | informed flag => exact tree_announce session flag.information
  | surplus argument => rfl
  | unknownOption option => rfl
  | unexpectedValue flag value => rfl

theorem EndsAtOnce.not_lacksPath (ended : session.EndsAtOnce run) : ¬ session.LacksPath run := by
  intro lacking
  obtain ⟨text, same, differs⟩ := lacking.complained
  obtain ⟨other, alsoSame, unexpected⟩ := ended.complained (congrArg Prod.fst same)
  have texts : session.complain other = session.complain text :=
    congrArg Prod.snd (alsoSame.symm.trans same)
  rw [session.complain_injective texts] at unexpected
  exact differs unexpected

theorem status_answer_ne_two (ended : Except Failure Outcome × Session) : (answer ended).1 ≠ 2 := by
  intro misused
  have failed := status_answer_eq_one ended (by omega)
  omega

theorem LacksPath.ne_answer (lacking : session.LacksPath run)
    (ended : Except Failure Outcome × Session) : run ≠ answer ended := by
  rintro rfl
  obtain ⟨text, same, _⟩ := lacking.complained
  exact status_answer_ne_two ended (congrArg Prod.fst same)

/-- An answer to a flag has the status of a polished file, but it changes no tree. -/
theorem EndsAtOnce.ne_answer (ended : session.EndsAtOnce run) (caller : Caller) (path : Bytes) :
    run ≠ answer (session.polishFile caller .standard path) := by
  rintro rfl
  have succeeded : (answer (session.polishFile caller .standard path)).1 = 0 := by
    rcases ended.status with succeeded | misused
    · exact succeeded
    · exact absurd misused (status_answer_ne_two _)
  have polished := (status_answer_eq_zero_iff _).mp succeeded
  have changed := (polishFile_changes_iff session caller path).mpr polished
  rw [← tree_answer, ended.tree_eq] at changed
  exact changed rfl

section

variable {caller : Caller} {request : Request} {arguments : List Bytes}

theorem endsAtOnce_of_atOnce (atOnce : request.AtOnce) :
    session.EndsAtOnce (session.fulfil caller request) := by
  cases request with
  | inform flag => exact .informed flag
  | polish path => contradiction
  | refuse misuse =>
      cases misuse with
      | missingPath => contradiction
      | emptyPath => contradiction
      | surplus argument => exact .surplus argument
      | unknownOption option => exact .unknownOption option
      | unexpectedValue flag value => exact .unexpectedValue flag value

theorem lacksPath_of_not_atOnce {misuse : Misuse} (later : ¬ (Request.refuse misuse).AtOnce) :
    session.LacksPath (2, session.complain misuse.message) := by
  cases misuse with
  | missingPath =>
      have words : Misuse.missingPath.message = missingComplaint := by decide +kernel
      rw [words]
      exact .missing
  | emptyPath =>
      have words : Misuse.emptyPath.message = emptyComplaint := by decide +kernel
      rw [words]
      exact .empty
  | surplus argument => exact absurd trivial later
  | unknownOption option => exact absurd trivial later
  | unexpectedValue flag value => exact absurd trivial later

theorem endsAtOnce_fulfil_iff :
    session.EndsAtOnce (session.fulfil caller request) ↔ request.AtOnce := by
  refine ⟨?_, endsAtOnce_of_atOnce⟩
  intro ended
  apply Classical.byContradiction
  intro later
  cases request with
  | inform flag => exact later trivial
  | polish path => exact ended.ne_answer caller path rfl
  | refuse misuse => exact ended.not_lacksPath (lacksPath_of_not_atOnce later)

theorem lacksPath_fulfil_iff :
    session.LacksPath (session.fulfil caller request) ↔
      ¬ request.AtOnce ∧ ∀ path, request ≠ .polish path := by
  constructor
  · intro lacking
    constructor
    · intro atOnce
      exact (endsAtOnce_of_atOnce atOnce).not_lacksPath lacking
    · rintro path rfl
      exact lacking.ne_answer _ rfl
  · rintro ⟨later, other⟩
    cases request with
    | inform flag => exact absurd trivial later
    | polish path => exact absurd rfl (other path)
    | refuse misuse => exact lacksPath_of_not_atOnce later

theorem polish_of_fulfil_eq_answer {path : Bytes}
    (polished : session.fulfil caller request =
      answer (session.polishFile caller .standard path)) :
    ∃ named, request = .polish named := by
  cases request with
  | inform flag => exact absurd polished ((EndsAtOnce.informed flag).ne_answer caller path)
  | polish named => exact ⟨named, rfl⟩
  | refuse misuse => exact absurd (congrArg Prod.fst polished.symm) (status_answer_ne_two _)

theorem undecided_iff :
    session.Undecided caller arguments ↔ ¬ Request.Deciding arguments := by
  unfold Undecided
  simp only [runCommand_eq, endsAtOnce_fulfil_iff]
  constructor
  · intro undecided
    exact undecided arguments List.prefix_rfl
  · intro later first inside
    exact Request.undecided_of_not_atOnce later inside

end

/-- If the run on the first of the arguments ends at once, the others make no difference to the run,
and no file is touched. The bytes of the arguments tell whether that is so. Where it is not, exactly
one path that is not empty is polished, and any other arguments bring the complaint that a path is
lacking. -/
theorem runCommand_of_deciding_prefix (session : Session) (caller : Caller)
    (arguments : List Bytes) :
    (∀ first, first <+: arguments → session.EndsAtOnce (session.runCommand caller first) →
      session.runCommand caller arguments = session.runCommand caller first ∧
        (session.runCommand caller first).2.tree = session.tree) ∧
    (session.Undecided caller arguments ↔ Request.Unsettled none false arguments) ∧
    (session.LacksPath (session.runCommand caller arguments) ↔
      session.Undecided caller arguments ∧
        ∀ path, Request.positionals false arguments = [path] → path = []) ∧
    (∀ path, session.Undecided caller arguments →
      Request.positionals false arguments = [path] → path ≠ [] →
      session.runCommand caller arguments =
        answer (session.polishFile caller .standard path)) ∧
    ∀ path,
      session.runCommand caller arguments = answer (session.polishFile caller .standard path) →
      session.Undecided caller arguments ∧
        ∃ named, Request.positionals false arguments = [named] ∧ named ≠ [] := by
  refine ⟨?_, ?_, ?_, ?_, ?_⟩
  · intro first inside ended
    refine ⟨?_, ended.tree_eq⟩
    rw [runCommand_eq, endsAtOnce_fulfil_iff] at ended
    rw [runCommand_eq, runCommand_eq, Request.ofArguments_of_deciding ended inside]
  · exact undecided_iff.trans Request.unsettled_iff.symm
  · rw [runCommand_eq, lacksPath_fulfil_iff, undecided_iff]
    refine and_congr_right ?_
    intro undecided
    constructor
    · intro other path alone
      apply Classical.byContradiction
      intro named
      exact other path (Request.ofArguments_eq_polish_iff.mpr ⟨undecided, alone, named⟩)
    · intro empty path polished
      obtain ⟨_, alone, named⟩ := Request.ofArguments_eq_polish_iff.mp polished
      exact named (empty path alone)
  · intro path undecided alone named
    have later := undecided_iff.mp undecided
    have polished := Request.ofArguments_eq_polish_iff.mpr ⟨later, alone, named⟩
    rw [runCommand_eq, polished, fulfil]
  · intro path answered
    rw [runCommand_eq] at answered
    obtain ⟨named, polished⟩ := polish_of_fulfil_eq_answer answered
    obtain ⟨undecided, alone⟩ := Request.ofArguments_eq_polish_iff.mp polished
    exact ⟨undecided_iff.mpr undecided, named, alone⟩

end Session

end TypePolish
