import TypePolish.Fault.SystemText

/-!
Faults of input and output: what can go wrong when a file is read or written, or when a progress
line is taken. A fault is known by its cause, and `Fault.text` says it in words. The system gives a
number; a receiver that takes no more bytes and gives no reason makes a short write.
-/

namespace TypePolish

inductive FaultKind
  | notFound
  | permissionDenied
  | writeZero
  | invalidData
  | unexpectedEnd
  | brokenPipe
  | other
  deriving DecidableEq, Repr

def FaultKind.text : FaultKind → Text
  | .notFound => "entity not found".toList
  | .permissionDenied => "permission denied".toList
  | .writeZero => "write zero".toList
  | .invalidData => "invalid data".toList
  | .unexpectedEnd => "unexpected end of file".toList
  | .brokenPipe => "broken pipe".toList
  | .other => "other error".toList

inductive Fault
  | system (code : Nat)
  | ofKind (kind : FaultKind)
  | told (message : Text)
  | shortWrite
  | notText
  deriving DecidableEq, Repr

namespace Fault

def text : Fault → Text
  | .system code => systemText code ++ " (os error ".toList ++ Nat.toDigits 10 code ++ [')']
  | .ofKind kind => kind.text
  | .told message => message
  | .shortWrite => "failed to write whole buffer".toList
  | .notText => "stream did not contain valid UTF-8".toList

/-! The system errors that file trees and sinks give. -/

def noSuchEntry : Fault := .system 2

def permissionDenied : Fault := .system 13

def entryExists : Fault := .system 17

def notDirectory : Fault := .system 20

def isDirectory : Fault := .system 21

def noSpace : Fault := .system 28

def nameTooLong : Fault := .system 36

def tooManyLinks : Fault := .system 40

end Fault

end TypePolish
