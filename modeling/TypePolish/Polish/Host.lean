import TypePolish.Failure

/-!
What a run needs from the place where it happens: to announce progress, to look at, read and replace
files, and to complain. A fault ends the run with the failure that tells it. The same run can so be
made on real files and on a tree of the model.
-/

namespace TypePolish

structure Host (m : Type → Type) where
  announce : Text → m (Except Fault Unit)
  isPresent : Bytes → m Bool
  read : Bytes → m (Except Fault Bytes)
  replace : Bytes → Bytes → m (Except Fault Unit)
  complain : Text → m Unit

def textOf (bytes : Bytes) : Except Fault Text :=
  match bytes.decode? with
  | some text => .ok text
  | none => .error .notText

def blaming {m : Type → Type} {α : Type} [Monad m] (failure : Fault → Failure)
    (action : m (Except Fault α)) : ExceptT Failure m α :=
  ExceptT.mk (Except.mapError failure <$> action)

namespace Host

variable {m : Type → Type} [Monad m]

def progress (host : Host m) (line : Text) : ExceptT Failure m Unit :=
  blaming .progress (host.announce line)

def readText (host : Host m) (path : Bytes) : ExceptT Failure m Text :=
  blaming (.unreadable path) ((fun content => content >>= textOf) <$> host.read path)

def replaceText (host : Host m) (path : Bytes) (text : Text) : ExceptT Failure m Unit :=
  blaming (.unwritable path) (host.replace path text.encode)

end Host

end TypePolish
