import TypePolish.Command.Session
import TypePolish.Polish.Steps

/-!
How a run of the command ends. The arguments decide only what is asked for, and the exit status, the
output and the tree follow from that (`Session.runCommand_eq`). A run that is not asked to polish a
path leaves the tree alone.
-/

namespace TypePolish

namespace Session

def complain (session : Session) (message : Text) : Session :=
  { session with complaints := session.complaints ++ message.encode }

def answer : Except Failure Outcome × Session → Nat × Session
  | (.ok .polished, later) => (Command.success, later)
  | (.ok .missing, later) => (Command.failed, later)
  | (.error failure, later) => (Command.failed, later.complain (Command.complaint failure))

def fulfil (session : Session) (caller : Caller) : Request → Nat × Session
  | .inform flag => (Command.success, (session.announce flag.information).2)
  | .refuse misuse => (Command.misused, session.complain misuse.message)
  | .polish path => answer (session.polishFile caller .standard path)

theorem polishPath_eq (session : Session) (caller : Caller) (path : Bytes) :
    (Command.polishPath (host caller) path).run session =
      answer (session.polishFile caller .standard path) := by
  unfold Command.polishPath polishFile
  simp only [StateT.run, bind, StateT.bind]
  cases ((host caller).polishFile .standard path).run session with
  | mk result later =>
      cases result with
      | error failure => rfl
      | ok outcome => cases outcome <;> rfl

theorem runCommand_eq (session : Session) (caller : Caller) (arguments : List Bytes) :
    session.runCommand caller arguments =
      session.fulfil caller (Request.ofArguments arguments) := by
  unfold runCommand Command.run Command.fulfil
  cases Request.ofArguments arguments with
  | inform flag => rfl
  | refuse misuse => rfl
  | polish path => exact polishPath_eq session caller path

theorem tree_answer (ended : Except Failure Outcome × Session) :
    (answer ended).2.tree = ended.2.tree := by
  obtain ⟨result, later⟩ := ended
  cases result with
  | error failure => rfl
  | ok outcome => cases outcome <;> rfl

theorem tree_fulfil (session : Session) (caller : Caller) {request : Request}
    (other : ∀ path, request ≠ .polish path) :
    (session.fulfil caller request).2.tree = session.tree := by
  cases request with
  | inform flag => exact tree_announce session flag.information
  | refuse misuse => rfl
  | polish path => exact absurd rfl (other path)

end Session

end TypePolish
