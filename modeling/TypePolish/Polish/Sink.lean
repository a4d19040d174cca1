import TypePolish.Polish.Host
import TypePolish.Polish.Text
import TypePolish.Sink

/-!
Polishing a text while the progress lines go to a sink.
-/

namespace TypePolish

namespace Sink

def announce (line : Text) : ExceptT Failure (StateM Sink) Unit :=
  blaming .progress (modifyGet fun sink => sink.write line.encode)

def applyTable (sink : Sink) (table : Table) (text : Text) : Except Failure Text × Sink :=
  (table.applyAnnounced announce text).run.run sink

def polish (sink : Sink) (table : Table) (content : Text) : Except Failure Text × Sink :=
  (TypePolish.polish announce table content).run.run sink

theorem applyTable_cons (sink : Sink) (rule : Rule) (later : Table) (text : Text) :
    sink.applyTable (rule :: later) text =
      match sink.write rule.announcement.encode with
      | (.ok (), taken) => taken.applyTable later (rule.apply text)
      | (.error fault, taken) => (.error (.progress fault), taken) := by
  change ((announce rule.announcement >>= fun _ =>
    later.applyAnnounced announce (rule.apply text)).run.run sink) = _
  simp only [bind, ExceptT.bind, ExceptT.run, ExceptT.mk, StateT.bind, StateT.run, announce,
    blaming, modifyGet, MonadStateOf.modifyGet, StateT.modifyGet, pure, Functor.map, StateT.map]
  cases sink.write rule.announcement.encode with
  | mk result taken => cases result <;> rfl

end Sink

end TypePolish
