import TypePolish.Polish.Sink
import TypePolish.Polish.Steps

/-!
What the sink decides about a polished text, and what it does not. The text is the same for every
sink that takes the progress lines (`polishes_iff`), and a run in a session polishes a text as the
sink of the session does (`Session.after_polish`).
-/

namespace TypePolish

/-- Polishing a content gives this text: always when the sink is unbounded, and also otherwise
when the sink takes all the progress lines. -/
structure Polishes (table : Table) (content result : Text) : Prop where
  unbounded : (Sink.unbounded.polish table content).1 = .ok result
  unique : ∀ (sink : Sink) (text : Text), (sink.polish table content).1 = .ok text → text = result

namespace Sink

theorem write_of_no_room {sink : Sink} (noRoom : sink.room = none) (bytes : Bytes) :
    sink.write bytes = (.ok (), { sink with taken := sink.taken ++ bytes }) := by
  simp only [write, noRoom]

theorem applyTable_eq_of_no_room (sink : Sink) (noRoom : sink.room = none) (table : Table)
    (text : Text) : (sink.applyTable table text).1 = .ok (table.apply text) := by
  induction table generalizing sink text with
  | nil => rfl
  | cons rule later ih =>
      rw [applyTable_cons, write_of_no_room noRoom]
      exact ih { sink with taken := sink.taken ++ rule.announcement.encode } noRoom _

theorem eq_apply_of_applyTable {sink : Sink} {table : Table} {text result : Text}
    (made : (sink.applyTable table text).1 = .ok result) : result = table.apply text := by
  induction table generalizing sink text with
  | nil => exact (Except.ok.inj made).symm
  | cons rule later ih =>
      rw [applyTable_cons] at made
      split at made
      next taken _ => exact ih made
      next => contradiction

theorem progress_of_applyTable {sink : Sink} {table : Table} {text : Text} {failure : Failure}
    (failed : (sink.applyTable table text).1 = .error failure) :
    ∃ fault, failure = .progress fault := by
  induction table generalizing sink text with
  | nil => contradiction
  | cons rule later ih =>
      rw [applyTable_cons] at failed
      split at failed
      next taken _ => exact ih failed
      next fault taken _ =>
        cases failed
        exact ⟨fault, rfl⟩

end Sink

theorem polishes_of_polish {sink : Sink} {table : Table} {content result : Text}
    (made : (sink.polish table content).1 = .ok result) : Polishes table content result := by
  have same := Sink.eq_apply_of_applyTable made
  subst same
  constructor
  · exact Sink.applyTable_eq_of_no_room .unbounded rfl table _
  · intro other text also
    exact Sink.eq_apply_of_applyTable also

theorem polishes_iff (table : Table) (content result : Text) :
    Polishes table content result ↔ result = table.apply (provenanceLine ++ content) := by
  constructor
  · intro polishes
    exact Sink.eq_apply_of_applyTable polishes.unbounded
  · rintro rfl
    exact polishes_of_polish (Sink.applyTable_eq_of_no_room .unbounded rfl table _)

namespace Session

theorem after_applyAnnounced (session : Session) (caller : Caller) (table : Table)
    (text : Text) :
    session.after (table.applyAnnounced (host caller).progress text) =
      ((session.output.applyTable table text).1,
        { session with output := (session.output.applyTable table text).2 }) := by
  induction table generalizing session text with
  | nil => rfl
  | cons rule later ih =>
      simp only [Table.applyAnnounced]
      rw [after_progress_bind, Sink.applyTable_cons]
      unfold announce
      cases session.output.write rule.announcement.encode with
      | mk result taken =>
          cases result with
          | error fault => rfl
          | ok _ => exact ih { session with output := taken } (rule.apply text)

theorem after_polish (session : Session) (caller : Caller) (table : Table) (content : Text) :
    session.after (polish (host caller).progress table content) =
      ((session.output.polish table content).1,
        { session with output := (session.output.polish table content).2 }) :=
  after_applyAnnounced session caller table (provenanceLine ++ content)

end Session

end TypePolish
