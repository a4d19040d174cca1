import TypePolish.Polish.Text
import TypePolish.Polish.Host

/-!
Polishing a file in place: announce it, read it, polish the text, write it back. Nothing is written
before every step that may fail for another reason is over, and a path that leads nowhere is
reported and left alone.
-/

namespace TypePolish

inductive Outcome
  | polished
  | missing
  deriving DecidableEq, Repr

def startLine (path : Bytes) : Text :=
  "Processing ".toList ++ path.lossy ++ ['\n']

def missingLine (path : Bytes) : Text :=
  "File ".toList ++ path.lossy ++ " does not exist\n".toList

def Host.polishFile {m : Type → Type} [Monad m] (host : Host m) (table : Table) (path : Bytes) :
    ExceptT Failure m Outcome := do
  host.progress (startLine path)
  if ← host.isPresent path then
    let content ← host.readText path
    let polished ← polish host.progress table content
    host.replaceText path polished
    return .polished
  else
    host.progress (missingLine path)
    return .missing

end TypePolish
