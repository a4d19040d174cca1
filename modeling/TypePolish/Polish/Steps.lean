import TypePolish.Polish.Session

/-!
A run in a session, step by step. Each operation of a host is given by what it does to the session,
and `polishFile_eq` puts them together: the four ways out of a run, in the order in which they are
tried, with the session that each leaves behind.
-/

namespace TypePolish

namespace Session

def after {α : Type} (session : Session) (action : ExceptT Failure (StateM Session) α) :
    Except Failure α × Session :=
  action.run.run session

/-- A step that fails ends the run; otherwise the next one gets its result. -/
theorem after_bind {α β : Type} (session : Session)
    (action : ExceptT Failure (StateM Session) α)
    (next : α → ExceptT Failure (StateM Session) β) :
    session.after (action >>= next) =
      match session.after action with
      | (.ok value, later) => later.after (next value)
      | (.error failure, later) => (.error failure, later) := by
  simp only [after, bind, ExceptT.bind, ExceptT.run, ExceptT.mk, StateT.bind, StateT.run]
  cases action session with
  | mk result later => cases result <;> rfl

theorem after_isPresent (session : Session) (caller : Caller) (path : Bytes) :
    session.after (liftM ((host caller).isPresent path)) =
      (.ok (session.tree.isPresent caller path), session) := rfl

theorem after_progress (session : Session) (caller : Caller) (line : Text) :
    session.after ((host caller).progress line) =
      ((session.announce line).1.mapError .progress, (session.announce line).2) := rfl

theorem after_readText (session : Session) (caller : Caller) (path : Bytes) :
    session.after ((host caller).readText path) =
      ((session.tree.read caller path >>= textOf).mapError (.unreadable path), session) := rfl

theorem after_replaceText (session : Session) (caller : Caller) (path : Bytes) (text : Text) :
    session.after ((host caller).replaceText path text) =
      ((session.replace caller path text.encode).1.mapError (.unwritable path),
        (session.replace caller path text.encode).2) := rfl

section

variable {α : Type} (session : Session) (caller : Caller)

theorem after_progress_bind (line : Text) (next : Unit → ExceptT Failure (StateM Session) α) :
    session.after ((host caller).progress line >>= next) =
      match session.announce line with
      | (.ok (), later) => later.after (next ())
      | (.error fault, later) => (.error (.progress fault), later) := by
  rw [after_bind, after_progress]
  cases session.announce line with
  | mk result later => cases result <;> rfl

theorem after_readText_bind (path : Bytes) (next : Text → ExceptT Failure (StateM Session) α) :
    session.after ((host caller).readText path >>= next) =
      match session.tree.read caller path >>= textOf with
      | .ok content => session.after (next content)
      | .error fault => (.error (.unreadable path fault), session) := by
  rw [after_bind, after_readText]
  cases session.tree.read caller path >>= textOf <;> rfl

theorem after_replaceText_bind (path : Bytes) (text : Text)
    (next : Unit → ExceptT Failure (StateM Session) α) :
    session.after ((host caller).replaceText path text >>= next) =
      match session.replace caller path text.encode with
      | (.ok (), later) => later.after (next ())
      | (.error fault, later) => (.error (.unwritable path fault), later) := by
  rw [after_bind, after_replaceText]
  cases session.replace caller path text.encode with
  | mk result later => cases result <;> rfl

end

theorem tree_announce (session : Session) (line : Text) :
    (session.announce line).2.tree = session.tree := rfl

/-- A whole run, by the ways out of it. -/
theorem polishFile_eq (session : Session) (caller : Caller) (table : Table) (path : Bytes) :
    session.polishFile caller table path =
      match session.announce (startLine path) with
      | (.error fault, started) => (.error (.progress fault), started)
      | (.ok (), started) =>
          if started.tree.isPresent caller path then
            match started.tree.read caller path >>= textOf with
            | .error fault => (.error (.unreadable path fault), started)
            | .ok content =>
                match started.after (polish (host caller).progress table content) with
                | (.error failure, reported) => (.error failure, reported)
                | (.ok polished, reported) =>
                    match reported.replace caller path polished.encode with
                    | (.error fault, tried) => (.error (.unwritable path fault), tried)
                    | (.ok (), written) => (.ok .polished, written)
          else
            match started.announce (missingLine path) with
            | (.error fault, tried) => (.error (.progress fault), tried)
            | (.ok (), reported) => (.ok .missing, reported) := by
  change session.after ((host caller).polishFile table path) = _
  unfold Host.polishFile
  rw [after_progress_bind]
  cases session.announce (startLine path) with
  | mk result started =>
      cases result with
      | error fault => rfl
      | ok _ =>
          dsimp only
          rw [after_bind, after_isPresent]
          cases present : started.tree.isPresent caller path with
          | false =>
              simp only [Bool.false_eq_true, ↓reduceIte]
              rw [after_progress_bind]
              cases started.announce (missingLine path) with
              | mk result reported => cases result <;> rfl
          | true =>
              simp only [↓reduceIte]
              rw [after_readText_bind]
              cases started.tree.read caller path >>= textOf with
              | error fault => rfl
              | ok content =>
                  dsimp only
                  rw [after_bind]
                  cases started.after (polish (host caller).progress table content) with
                  | mk result reported =>
                      cases result with
                      | error failure => rfl
                      | ok polished =>
                          dsimp only
                          rw [after_replaceText_bind]
                          cases reported.replace caller path polished.encode with
                          | mk result written => cases result <;> rfl

end Session

end TypePolish
