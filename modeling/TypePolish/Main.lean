import TypePolish.Command.Run

/-!
The program: the command on real files, with standard output for progress and standard error for
messages.
-/

namespace TypePolish

namespace RealFiles

def faultOfError : IO.Error → Fault
  | .alreadyExists _ code _ | .otherError code _ | .resourceBusy code _
  | .resourceVanished code _ | .unsupportedOperation code _ | .hardwareFault code _
  | .unsatisfiedConstraints code _ | .illegalOperation code _ | .protocolError code _
  | .timeExpired code _ | .interrupted _ code _ | .noFileOrDirectory _ code _
  | .invalidArgument _ code _ | .permissionDenied _ code _ | .resourceExhausted _ code _
  | .inappropriateType _ code _ | .noSuchThing _ code _ => .system code.toNat
  | .unexpectedEof => .ofKind .unexpectedEnd
  | .userError message => .told message.toList

def attempt {α : Type} (action : IO α) : IO (Except Fault α) := do
  match ← action.toBaseIO with
  | .ok value => return .ok value
  | .error error => return .error (faultOfError error)

def pathOf (path : Bytes) : String :=
  String.ofList path.lossy

def host : Host IO where
  announce line := attempt do
    let output ← IO.getStdout
    output.putStr (String.ofList line)
    output.flush
  isPresent path := return (← attempt (IO.FS.realPath (pathOf path))).isOk
  read path := attempt do
    return (← IO.FS.readBinFile (pathOf path)).toList
  replace path content := attempt do
    IO.FS.writeBinFile (pathOf path) (ByteArray.mk content.toArray)
  complain message := do
    let _ ← attempt (IO.eprint (String.ofList message))

end RealFiles

end TypePolish

def main (arguments : List String) : IO UInt32 := do
  let status ← TypePolish.Command.run TypePolish.RealFiles.host
    (arguments.map fun argument => argument.toUTF8.toList)
  return UInt32.ofNat status
