import TypePolish.Proofs.Polish.Report

/-!
Runs on sinks of bounded room, compared with the same runs on a sink without bound. A run whose log
fits does not notice the bound. Any other stops where the room ends, wherever in the log that is,
and then it has changed nothing, because its whole report comes before its change
(`polishing_cut_short`).
-/

namespace TypePolish

/-- What the bound does to the result and the log of a run: nothing if the log fits. Otherwise the
run fails with the fault of the sink, and the log holds as many bytes as there was room for. -/
structure CutShort {α : Type} (room : Nat) (fault : Fault)
    (free tight : Except Failure α × Sink) : Prop where
  fits : free.2.taken.length ≤ room → tight.1 = free.1 ∧ tight.2.taken = free.2.taken
  cut : room < free.2.taken.length →
    tight.1 = .error (.progress fault) ∧ tight.2.taken = free.2.taken.take room

structure Session.CutShort (room : Nat) (fault : Fault) (before : FileTree)
    (free tight : Except Failure Outcome × Session) : Prop where
  said : TypePolish.CutShort room fault (free.1, free.2.output) (tight.1, tight.2.output)
  fits : free.2.output.taken.length ≤ room → tight.2.tree = free.2.tree
  cut : room < free.2.output.taken.length → tight.2.tree = before

namespace Sink

theorem polish_unbounded (table : Table) (content : Text) :
    unbounded.polish table content =
      (.ok (table.apply (provenanceLine ++ content)),
        { unbounded with taken := table.report.encode }) :=
  polish_eq_write sound_unbounded table content

theorem polish_cutShort (room : Nat) (fault : Fault) (table : Table) (content : Text) :
    CutShort room fault (unbounded.polish table content)
      ((bounded room fault).polish table content) := by
  rw [polish_unbounded, polish_eq_write (sound_bounded room fault)]
  constructor
  · intro fits
    rw [write_bounded_of_le fits]
    exact ⟨rfl, rfl⟩
  · intro tooMuch
    rw [write_bounded_of_lt tooMuch]
    exact ⟨rfl, rfl⟩

end Sink

namespace Session

theorem polishFile_unbounded (tree : FileTree) (caller : Caller) (table : Table) (path : Bytes) :
    (start tree .unbounded).polishFile caller table path =
      ((tree.course caller table path).result,
        { tree := (tree.course caller table path).tree,
          output := { Sink.unbounded with taken := (tree.course caller table path).report.encode },
          complaints := [] }) :=
  polishFile_eq_course (start tree .unbounded) caller table path

theorem polishFile_cutShort (room : Nat) (fault : Fault) (tree : FileTree) (caller : Caller)
    (table : Table) (path : Bytes) :
    CutShort room fault tree ((start tree .unbounded).polishFile caller table path)
      ((start tree (.bounded room fault)).polishFile caller table path) := by
  rw [polishFile_unbounded, polishFile_eq_course]
  unfold conclude announce start
  constructor
  · constructor
    · intro fits
      rw [Sink.write_bounded_of_le fits]
      exact ⟨rfl, rfl⟩
    · intro tooMuch
      rw [Sink.write_bounded_of_lt tooMuch]
      exact ⟨rfl, rfl⟩
  · intro fits
    rw [Sink.write_bounded_of_le fits]
  · intro tooMuch
    rw [Sink.write_bounded_of_lt tooMuch]

end Session

/-- A bounded sink gives a run cut short, be it of a file or of a text alone, and the log of a text
is the report of the table, whatever the text. -/
theorem polishing_cut_short (table : Table) (room : Nat) (fault : Fault) :
    (∀ (tree : FileTree) (caller : Caller) (path : Bytes),
      Session.CutShort room fault tree
        ((Session.start tree .unbounded).polishFile caller table path)
        ((Session.start tree (.bounded room fault)).polishFile caller table path)) ∧
    ∀ content : Text,
      CutShort room fault (Sink.unbounded.polish table content)
        ((Sink.bounded room fault).polish table content) ∧
      (Sink.unbounded.polish table content).2.taken = table.report.encode := by
  refine ⟨?_, fun content => ⟨?_, ?_⟩⟩
  · intro tree caller path
    exact Session.polishFile_cutShort room fault tree caller table path
  · exact Sink.polish_cutShort room fault table content
  · rw [Sink.polish_unbounded]

end TypePolish
