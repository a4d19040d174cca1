import TypePolish.FileTree.Access
import TypePolish.Polish.File
import TypePolish.Sink

/-!
Runs on a model of their surroundings: a tree, a sink for progress lines, and the error messages so
far.
-/

namespace TypePolish

structure Session where
  tree : FileTree
  output : Sink
  complaints : Bytes
  deriving DecidableEq, Repr

namespace Session

def start (tree : FileTree) (output : Sink) : Session :=
  ⟨tree, output, []⟩

def announce (session : Session) (line : Text) : Except Fault Unit × Session :=
  let (result, output) := session.output.write line.encode
  (result, { session with output })

def replace (session : Session) (caller : Caller) (path content : Bytes) :
    Except Fault Unit × Session :=
  match session.tree.replace caller path content with
  | .ok tree => (.ok (), { session with tree })
  | .error fault => (.error fault, session)

def host (caller : Caller) : Host (StateM Session) where
  announce line := modifyGet fun session => session.announce line
  isPresent path := return (← get).tree.isPresent caller path
  read path := return (← get).tree.read caller path
  replace path content := modifyGet fun session => session.replace caller path content
  complain message := modify fun session =>
    { session with complaints := session.complaints ++ message.encode }

def polishFile (session : Session) (caller : Caller) (table : Table) (path : Bytes) :
    Except Failure Outcome × Session :=
  ((host caller).polishFile table path).run.run session

end Session

end TypePolish
