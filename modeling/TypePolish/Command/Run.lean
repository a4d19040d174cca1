import TypePolish.Command.Messages
import TypePolish.Polish.File

/-!
The command as a whole: read the arguments, do what they ask for, and end with an exit status.
-/

namespace TypePolish

namespace Command

/-! Exit statuses. A missing file counts as failed. -/

def success : Nat := 0

def failed : Nat := 1

def misused : Nat := 2

def complaint (failure : Failure) : Text :=
  "Error: ".toList ++ failure.message ++ ['\n']

variable {m : Type → Type} [Monad m]

def polishPath (host : Host m) (path : Bytes) : m Nat := do
  match ← (host.polishFile .standard path).run with
  | .ok .polished => return success
  | .ok .missing => return failed
  | .error failure =>
      host.complain (complaint failure)
      return failed

def fulfil (host : Host m) (request : Request) : m Nat := do
  match request with
  | .inform flag =>
      -- what a flag shows may be lost on the way out, and that is no failure
      let _ ← host.announce flag.information
      return success
  | .refuse misuse =>
      host.complain misuse.message
      return misused
  | .polish path => polishPath host path

def run (host : Host m) (arguments : List Bytes) : m Nat :=
  fulfil host (Request.ofArguments arguments)

end Command

end TypePolish
