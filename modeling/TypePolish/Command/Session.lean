import TypePolish.Command.Run
import TypePolish.Polish.Session

/-!
The command on a model of its surroundings.
-/

namespace TypePolish

namespace Session

def runCommand (session : Session) (caller : Caller) (arguments : List Bytes) : Nat × Session :=
  (Command.run (host caller) arguments).run session

end Session

end TypePolish
