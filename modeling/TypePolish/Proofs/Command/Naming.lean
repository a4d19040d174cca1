import TypePolish.Proofs.Command.Ending
import TypePolish.Proofs.Command.Reading

/-!
Naming a path on the command line. An argument is taken for an option exactly if it begins with a
dash and is more than that (`Argument.ofBytes_eq_path_iff`). Such a path has to follow two dashes;
any other may stand alone (`Request.path_named`).
-/

namespace TypePolish

namespace Request

theorem ofArguments_dashes_path {path : Bytes} (named : path ≠ []) :
    ofArguments [dashes, path] = .polish path :=
  ofPath_some named

theorem ofArguments_of_plain {path : Bytes} (named : path ≠ [])
    (plain : ¬ Argument.OptionLike path) :
    ofArguments [path] = .polish path ∧ ofArguments [path, dashes] = .polish path := by
  have kind : Argument.read false path = .path := (Argument.ofBytes_eq_path_iff path).mpr plain
  unfold ofArguments
  simp only [ofArgumentsFrom_cons, kind]
  exact ⟨ofPath_some named, ofPath_some named⟩

theorem ofArguments_of_optionLike {argument : Bytes} (option : Argument.OptionLike argument) :
    (∃ flag, ofArguments [argument] = .inform flag) ∨
      ∃ misuse, ofArguments [argument] = .refuse misuse := by
  have other : Argument.read false argument ≠ .path := by
    intro path
    exact (Argument.ofBytes_eq_path_iff argument).mp path option
  unfold ofArguments
  rw [ofArgumentsFrom_cons]
  cases kind : Argument.read false argument with
  | endOfOptions => exact .inr ⟨.missingPath, rfl⟩
  | flag flag => exact .inl ⟨flag, rfl⟩
  | mistake misuse => exact .inr ⟨misuse, rfl⟩
  | path => exact absurd kind other

def Declines (session : Session) (run : Nat × Session) : Prop :=
  run.2.tree = session.tree ∧
    ((∃ flag : Flag, run = (Command.success, (session.announce flag.information).2)) ∨
      ∃ misuse : Misuse, run = (Command.misused, session.complain misuse.message))

theorem declines_of_optionLike {argument : Bytes} (option : Argument.OptionLike argument)
    (session : Session) (caller : Caller) :
    Declines session (session.runCommand caller [argument]) := by
  rw [Session.runCommand_eq]
  rcases ofArguments_of_optionLike option with ⟨flag, informed⟩ | ⟨misuse, refused⟩
  · rw [informed]
    exact ⟨Session.tree_announce session flag.information, .inl ⟨flag, rfl⟩⟩
  · rw [refused]
    exact ⟨rfl, .inr ⟨misuse, rfl⟩⟩

/-- After two dashes every path is polished. Without them, a path that looks like an option is not,
whatever else happens, and any other is polished on its own and before them too. -/
theorem path_named {path : Bytes} (named : path ≠ []) :
    (∀ (session : Session) (caller : Caller),
      session.runCommand caller [dashes, path] =
        Session.answer (session.polishFile caller .standard path)) ∧
    if Argument.OptionLike path then
      ∀ (session : Session) (caller : Caller),
        Declines session (session.runCommand caller [path])
    else
      ∀ (session : Session) (caller : Caller),
        session.runCommand caller [path] = session.runCommand caller [dashes, path] ∧
          session.runCommand caller [path, dashes] =
            session.runCommand caller [dashes, path] := by
  refine ⟨?_, ?_⟩
  · intro session caller
    rw [Session.runCommand_eq, ofArguments_dashes_path named]
    rfl
  · split
    next option =>
      intro session caller
      exact declines_of_optionLike option session caller
    next plain =>
      obtain ⟨alone, before⟩ := ofArguments_of_plain named plain
      intro session caller
      simp only [Session.runCommand_eq, ofArguments_dashes_path named, alone, before, and_self]

def dashedPath : Bytes := [dash, 'h'.toUInt8, 0xFF]

def barePath : Bytes := dashedPath.tail

theorem dashedPath_and_barePath_named :
    (dashedPath ≠ [] ∧
      (∀ (session : Session) (caller : Caller),
        session.runCommand caller [dashes, dashedPath] =
          Session.answer (session.polishFile caller .standard dashedPath)) ∧
      ∀ (session : Session) (caller : Caller),
        Declines session (session.runCommand caller [dashedPath])) ∧
    (barePath ≠ [] ∧
      (∀ (session : Session) (caller : Caller),
        session.runCommand caller [dashes, barePath] =
          Session.answer (session.polishFile caller .standard barePath)) ∧
      ∀ (session : Session) (caller : Caller),
        session.runCommand caller [barePath] = session.runCommand caller [dashes, barePath] ∧
          session.runCommand caller [barePath, dashes] =
            session.runCommand caller [dashes, barePath]) := by
  have option : Argument.OptionLike dashedPath := by decide
  have plain : ¬ Argument.OptionLike barePath := by decide
  have dashed : dashedPath ≠ [] := by decide
  have bare : barePath ≠ [] := by decide
  refine ⟨⟨dashed, ?_⟩, ⟨bare, ?_⟩⟩
  · simpa only [if_pos option] using path_named dashed
  · simpa only [if_neg plain] using path_named bare

end Request

end TypePolish
