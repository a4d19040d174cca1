import TypePolish.Command.Arguments
import TypePolish.Text.Utf8.RoundTrip

/-!
What a single argument is, told by its bytes. Two dashes alone end the options
(`Argument.ofBytes_eq_endOfOptions_iff`), a flag is spelled by its name behind two dashes or by its
letter behind one and whatever follows (`Argument.flag_iff`), and every argument that does not look
like an option is a path (`Argument.ofBytes_eq_path_iff`). All others are mistakes
(`Argument.asks_ofBytes`).
-/

namespace TypePolish

def Request.dashes : Bytes := [dash, dash]

open String (utf8EncodeChar)

theorem Flag.eq_of_ofName? {name : Bytes} {flag : Flag} (named : ofName? name = some flag) :
    name = Text.encode "help".toList ∨ name = Text.encode "version".toList := by
  unfold ofName? at named
  split at named
  next help => exact .inl help
  next =>
    split at named
    next version => exact .inr version
    next => contradiction

theorem Flag.eq_of_ofLetter? {letter : Char} {flag : Flag} (known : ofLetter? letter = some flag) :
    letter = 'h' ∨ letter = 'V' := by
  unfold ofLetter? at known
  split at known
  next help => exact .inl help
  next =>
    split at known
    next version => exact .inr version
    next => contradiction

namespace Argument

def OptionLike (argument : Bytes) : Prop :=
  argument.head? = some dash ∧ argument ≠ [dash]

instance (argument : Bytes) : Decidable (OptionLike argument) :=
  inferInstanceAs (Decidable (_ ∧ _))

def SpellsFlag (argument : Bytes) : Prop :=
  argument = Text.encode "--help".toList ∨ argument = Text.encode "--version".toList ∨
    Text.encode "-h".toList <+: argument ∨ Text.encode "-V".toList <+: argument

instance (argument : Bytes) : Decidable (SpellsFlag argument) :=
  inferInstanceAs (Decidable (_ ∨ _))

inductive Asks : Argument → Prop
  | flag (flag : Flag) : Asks (.flag flag)
  | unknown (option : Text) : Asks (.mistake (.unknownOption option))
  | unexpected (flag : Flag) (value : Bytes) : Asks (.mistake (.unexpectedValue flag value))

theorem asks_ofLongOption (option : Bytes) : Asks (ofLongOption option) := by
  unfold ofLongOption
  dsimp only
  split
  · exact .unknown _
  · exact .flag _
  · exact .unexpected _ _

theorem asks_ofShortOptions (letters : Bytes) : Asks (ofShortOptions letters) := by
  unfold ofShortOptions
  split
  · split
    · exact .flag _
    · exact .unknown _
  · exact .unknown _

theorem long_flag_iff (option : Bytes) :
    (∃ flag, ofLongOption option = .flag flag) ↔
      option = Text.encode "help".toList ∨ option = Text.encode "version".toList := by
  constructor
  · rintro ⟨flag, found⟩
    unfold ofLongOption at found
    dsimp only at found
    split at found
    next => contradiction
    next known named nothing =>
      have whole : option.takeWhile (· != equals) = option := by
        have parts := List.takeWhile_append_dropWhile (p := (· != equals)) (l := option)
        rw [nothing, List.append_nil] at parts
        exact parts
      rw [whole] at named
      exact Flag.eq_of_ofName? named
    next => contradiction
  · rintro (rfl | rfl)
    · exact ⟨.help, by decide⟩
    · exact ⟨.version, by decide⟩

theorem short_flag_iff (byte : UInt8) (later : Bytes) :
    (∃ flag, ofShortOptions (byte :: later) = .flag flag) ↔
      byte = 'h'.toUInt8 ∨ byte = 'V'.toUInt8 := by
  unfold ofShortOptions
  rw [Bytes.pieces_cons, List.head?_cons]
  constructor
  · rintro ⟨flag, found⟩
    cases piece : (nextPiece byte later).1 with
    | stray bytes =>
        rw [piece] at found
        contradiction
    | char letter =>
        rw [piece] at found
        dsimp only at found
        have spelled := eq_encode_of_nextPiece byte later (Prod.ext piece rfl)
        split at found
        next known named =>
          rcases Flag.eq_of_ofLetter? named with rfl | rfl
          · have letter : utf8EncodeChar 'h' = ['h'.toUInt8] := by decide
            rw [letter] at spelled
            exact .inl (List.cons.inj spelled).1
          · have letter : utf8EncodeChar 'V' = ['V'.toUInt8] := by decide
            rw [letter] at spelled
            exact .inr (List.cons.inj spelled).1
        next => contradiction
  · rintro (rfl | rfl)
    · exact ⟨.help, rfl⟩
    · exact ⟨.version, rfl⟩

/-- Two bytes at least, and a dash first: the second byte tells how to go on. -/
theorem ofBytes_of_optionLike (second : UInt8) (later : Bytes) :
    ofBytes (dash :: second :: later) =
      if second = dash then if later = [] then .endOfOptions else ofLongOption later
      else ofShortOptions (second :: later) := by
  have longer : ¬ (dash ≠ dash ∨ second :: later = []) := by simp
  simp only [ofBytes, if_neg longer]
  by_cases same : second = dash
  · subst same
    by_cases alone : later = []
    · simp [alone]
    · simp [alone]
  · simp [same]

theorem exists_of_optionLike {argument : Bytes} (option : OptionLike argument) :
    ∃ second later, argument = dash :: second :: later := by
  obtain ⟨dashed, longer⟩ := option
  match argument with
  | [] => contradiction
  | [first] =>
      rw [List.head?_cons, Option.some.injEq] at dashed
      rw [dashed] at longer
      exact absurd rfl longer
  | first :: second :: later =>
      rw [List.head?_cons, Option.some.injEq] at dashed
      exact ⟨second, later, by rw [dashed]⟩

theorem optionLike_of_spellsFlag {argument : Bytes} (spelled : SpellsFlag argument) :
    OptionLike argument := by
  rcases spelled with rfl | rfl | ⟨later, rfl⟩ | ⟨later, rfl⟩
  · decide
  · decide
  · exact ⟨rfl, nofun⟩
  · exact ⟨rfl, nofun⟩

theorem spellsFlag_long_iff (later : Bytes) :
    SpellsFlag (dash :: dash :: later) ↔
      later = Text.encode "help".toList ∨ later = Text.encode "version".toList := by
  have help : Text.encode "--help".toList = dash :: dash :: Text.encode "help".toList := by decide
  have version :
      Text.encode "--version".toList = dash :: dash :: Text.encode "version".toList := by decide
  have notHelp : ¬ Text.encode "-h".toList <+: dash :: dash :: later := by
    rintro ⟨rest, same⟩
    exact absurd (List.cons.inj (List.cons.inj same).2).1 (by decide)
  have notVersion : ¬ Text.encode "-V".toList <+: dash :: dash :: later := by
    rintro ⟨rest, same⟩
    exact absurd (List.cons.inj (List.cons.inj same).2).1 (by decide)
  simp only [SpellsFlag, help, version, List.cons.injEq, true_and, notHelp, notVersion, or_false]

theorem spellsFlag_short_iff {second : UInt8} (differs : second ≠ dash) (later : Bytes) :
    SpellsFlag (dash :: second :: later) ↔ second = 'h'.toUInt8 ∨ second = 'V'.toUInt8 := by
  have help : Text.encode "-h".toList = [dash, 'h'.toUInt8] := by decide
  have version : Text.encode "-V".toList = [dash, 'V'.toUInt8] := by decide
  have notHelp : dash :: second :: later ≠ Text.encode "--help".toList := by
    intro same
    exact differs (List.cons.inj (List.cons.inj same).2).1
  have notVersion : dash :: second :: later ≠ Text.encode "--version".toList := by
    intro same
    exact differs (List.cons.inj (List.cons.inj same).2).1
  simp only [SpellsFlag, notHelp, notVersion, help, version, List.cons_prefix_cons, true_and,
    List.nil_prefix, and_true, false_or, eq_comm]

theorem asks_ofBytes {argument : Bytes} (option : OptionLike argument)
    (other : argument ≠ Request.dashes) : Asks (ofBytes argument) := by
  obtain ⟨second, later, rfl⟩ := exists_of_optionLike option
  rw [ofBytes_of_optionLike]
  split
  next same =>
    split
    next alone =>
      rw [same, alone] at other
      exact absurd rfl other
    next => exact asks_ofLongOption later
  next => exact asks_ofShortOptions _

theorem ofBytes_of_plain {argument : Bytes} (plain : ¬ OptionLike argument) :
    ofBytes argument = .path := by
  cases argument with
  | nil => rfl
  | cons first rest =>
      have alone : first ≠ dash ∨ rest = [] := by
        by_cases dashed : first = dash
        · subst dashed
          right
          apply Classical.byContradiction
          intro longer
          exact plain ⟨rfl, fun same => longer (List.cons.inj same).2⟩
        · exact .inl dashed
      exact if_pos alone

theorem ofBytes_eq_path_iff (argument : Bytes) :
    ofBytes argument = .path ↔ ¬ OptionLike argument := by
  refine ⟨?_, ofBytes_of_plain⟩
  intro path option
  by_cases ends : argument = Request.dashes
  · rw [ends] at path
    contradiction
  · have asks := asks_ofBytes option ends
    rw [path] at asks
    contradiction

theorem ofBytes_eq_endOfOptions_iff (argument : Bytes) :
    ofBytes argument = .endOfOptions ↔ argument = Request.dashes := by
  constructor
  · intro ended
    by_cases option : OptionLike argument
    · apply Classical.byContradiction
      intro other
      have asks := asks_ofBytes option other
      rw [ended] at asks
      contradiction
    · rw [ofBytes_of_plain option] at ended
      contradiction
  · rintro rfl
    rfl

theorem flag_iff (argument : Bytes) :
    (∃ flag, ofBytes argument = .flag flag) ↔ SpellsFlag argument := by
  by_cases option : OptionLike argument
  · obtain ⟨second, later, rfl⟩ := exists_of_optionLike option
    rw [ofBytes_of_optionLike]
    split
    next same =>
      rw [same, spellsFlag_long_iff]
      split
      next alone =>
        subst alone
        exact iff_of_false nofun (by decide)
      next => exact long_flag_iff later
    next differs =>
      rw [spellsFlag_short_iff differs]
      exact short_flag_iff second later
  · rw [ofBytes_of_plain option]
    refine iff_of_false nofun ?_
    intro spelled
    exact option (optionLike_of_spellsFlag spelled)

theorem asks_of_mistake {argument : Bytes} {misuse : Misuse}
    (mistaken : ofBytes argument = .mistake misuse) : Asks (.mistake misuse) := by
  have option : OptionLike argument := by
    apply Classical.byContradiction
    intro plain
    rw [ofBytes_of_plain plain] at mistaken
    contradiction
  have other : argument ≠ Request.dashes := by
    rintro rfl
    contradiction
  rw [← mistaken]
  exact asks_ofBytes option other

theorem not_spellsFlag_of_mistake {argument : Bytes} {misuse : Misuse}
    (mistaken : ofBytes argument = .mistake misuse) : ¬ SpellsFlag argument := by
  intro spelled
  obtain ⟨flag, found⟩ := (flag_iff argument).mpr spelled
  rw [mistaken] at found
  contradiction

end Argument

end TypePolish
