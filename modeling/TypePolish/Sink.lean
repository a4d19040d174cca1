import TypePolish.Fault.Basic

/-!
The receiver of progress lines. It holds the bytes that it took and may have room for only so many
in all. A write that does not fit leaves the sink full, and fails.
-/

namespace TypePolish

structure Sink where
  taken : Bytes
  room : Option Nat
  fault : Fault
  deriving DecidableEq, Repr

namespace Sink

def unbounded : Sink :=
  ⟨[], none, .shortWrite⟩

def bounded (room : Nat) (fault : Fault) : Sink :=
  ⟨[], some room, fault⟩

def fullDevice : Sink :=
  bounded 0 .noSpace

def write (sink : Sink) (bytes : Bytes) : Except Fault Unit × Sink :=
  let wanted := sink.taken ++ bytes
  match sink.room with
  | none => (.ok (), { sink with taken := wanted })
  | some room =>
      (if wanted.length ≤ room then .ok () else .error sink.fault,
        { sink with taken := wanted.take room })

end Sink

end TypePolish
