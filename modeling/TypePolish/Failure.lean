import TypePolish.Fault.Basic
import TypePolish.Text.Quoted

/-!
How a run can fail. A fault of the progress sink is passed on as it is; a fault of the file is told
together with the path, and a failure may bring its own words. None lies behind another one, as the
message already tells the fault. A file that does not exist is no failure but an outcome.
-/

namespace TypePolish

inductive Failure
  | progress (fault : Fault)
  | unreadable (path : Bytes) (fault : Fault)
  | unwritable (path : Bytes) (fault : Fault)
  | told (message : Text)
  deriving DecidableEq, Repr

namespace Failure

def isBareFault : Failure → Bool
  | .progress _ => true
  | _ => false

def detail : Failure → Text
  | .progress fault => fault.text
  | .unreadable path fault =>
      "Failed to read file ".toList ++ path.quoted ++ ": ".toList ++ fault.text
  | .unwritable path fault =>
      "Failed to write file ".toList ++ path.quoted ++ ": ".toList ++ fault.text
  | .told message => message

def message (failure : Failure) : Text :=
  (if failure.isBareFault then "IO Error: ".toList else "General Error: ".toList) ++
    failure.detail

def cause? (_ : Failure) : Option Failure := none

end Failure

end TypePolish
