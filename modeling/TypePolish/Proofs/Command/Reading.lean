import TypePolish.Proofs.Command.Kind

/-!
Reading the arguments from left to right. Some requests are settled by the first arguments that make
them, whatever follows (`Request.ofArgumentsFrom_append`), and the bytes of the arguments tell
whether that comes about (`Request.unsettled_iff`). Where it does not, the first argument that is
taken for a path tells the request (`Request.ofArgumentsFrom_of_not_atOnce`), and a path is polished
exactly if it is the only one and not empty (`Request.ofArguments_eq_polish_iff`).
-/

namespace TypePolish

namespace Argument

def read (optionsOver : Bool) (argument : Bytes) : Argument :=
  if optionsOver then .path else ofBytes argument

theorem read_eq_path_iff (optionsOver : Bool) (argument : Bytes) :
    read optionsOver argument = .path ↔ optionsOver = true ∨ ¬ OptionLike argument := by
  cases optionsOver with
  | true => exact iff_of_true rfl (.inl rfl)
  | false => simp [read, ofBytes_eq_path_iff]

theorem read_eq_endOfOptions_iff (optionsOver : Bool) (argument : Bytes) :
    read optionsOver argument = .endOfOptions ↔
      optionsOver = false ∧ argument = Request.dashes := by
  cases optionsOver with
  | true => simp [read]
  | false => simp [read, ofBytes_eq_endOfOptions_iff]

theorem read_flag_iff (optionsOver : Bool) (argument : Bytes) :
    (∃ flag, read optionsOver argument = .flag flag) ↔
      optionsOver = false ∧ SpellsFlag argument := by
  cases optionsOver with
  | true => simp [read]
  | false => simp [read, flag_iff]

theorem ofBytes_of_mistake {optionsOver : Bool} {argument : Bytes} {misuse : Misuse}
    (mistaken : read optionsOver argument = .mistake misuse) :
    ofBytes argument = .mistake misuse := by
  unfold read at mistaken
  split at mistaken
  · contradiction
  · exact mistaken

/-- Reading an argument is a choice by its bytes. -/
theorem choice_eq_read {α : Type} (optionsOver : Bool) (argument : Bytes)
    (positional ending other : α) :
    (if optionsOver = true ∨ ¬ OptionLike argument then positional
      else if argument = Request.dashes then ending else other) =
    match read optionsOver argument with
    | .path => positional
    | .endOfOptions => ending
    | .flag _ | .mistake _ => other := by
  by_cases plain : optionsOver = true ∨ ¬ OptionLike argument
  · rw [if_pos plain, (read_eq_path_iff _ _).mpr plain]
  · have notPath : read optionsOver argument ≠ .path := mt (read_eq_path_iff _ _).mp plain
    have sought : optionsOver = false := eq_false_of_ne_true (not_or.mp plain).1
    rw [if_neg plain]
    by_cases ends : argument = Request.dashes
    · rw [if_pos ends, (read_eq_endOfOptions_iff _ _).mpr ⟨sought, ends⟩]
    · rw [if_neg ends]
      cases kind : read optionsOver argument with
      | path => exact absurd kind notPath
      | endOfOptions => exact absurd ((read_eq_endOfOptions_iff _ _).mp kind).2 ends
      | flag flag => rfl
      | mistake misuse => rfl

end Argument

namespace Request

def AtOnce : Request → Prop
  | .inform _ => True
  | .refuse (.surplus _) => True
  | .refuse (.unknownOption _) => True
  | .refuse (.unexpectedValue _ _) => True
  | .refuse .missingPath => False
  | .refuse .emptyPath => False
  | .polish _ => False

def Deciding (arguments : List Bytes) : Prop :=
  (ofArguments arguments).AtOnce

def positionals (optionsOver : Bool) : List Bytes → List Bytes
  | [] => []
  | argument :: later =>
      if optionsOver = true ∨ ¬ Argument.OptionLike argument then
        argument :: positionals optionsOver later
      else if argument = dashes then positionals true later
      else positionals optionsOver later

/-- No argument settles the request on its own. Behind an empty path a flag does not, for it is then
that the path is noticed. -/
def Unsettled (path : Option Bytes) (optionsOver : Bool) : List Bytes → Prop
  | [] => True
  | argument :: later =>
      if optionsOver = true ∨ ¬ Argument.OptionLike argument then
        path = none ∧ Unsettled (some argument) optionsOver later
      else if argument = dashes then Unsettled path true later
      else Argument.SpellsFlag argument ∧ path = some []

theorem ofArgumentsFrom_cons (path : Option Bytes) (optionsOver : Bool) (argument : Bytes)
    (later : List Bytes) :
    ofArgumentsFrom path optionsOver (argument :: later) =
      match Argument.read optionsOver argument with
      | .endOfOptions => ofArgumentsFrom path true later
      | .flag flag => if path = some [] then .refuse .emptyPath else .inform flag
      | .mistake misuse => .refuse misuse
      | .path =>
          match path with
          | none => ofArgumentsFrom (some argument) optionsOver later
          | some _ => .refuse (.surplus argument) := rfl

theorem ofPath_some {path : Bytes} (named : path ≠ []) : ofPath (some path) = .polish path :=
  if_neg named

theorem atOnce_of_mistake {argument : Bytes} {misuse : Misuse}
    (mistaken : Argument.ofBytes argument = .mistake misuse) : (refuse misuse).AtOnce := by
  cases Argument.asks_of_mistake mistaken with
  | unknown option => trivial
  | unexpected flag value => trivial

theorem not_atOnce_ofPath (path : Option Bytes) : ¬ (ofPath path).AtOnce := by
  intro atOnce
  cases path with
  | none => exact atOnce
  | some path =>
      by_cases empty : path = []
      · subst empty
        exact atOnce
      · rw [ofPath_some empty] at atOnce
        exact atOnce

theorem ofPath_eq_polish_iff {path : Option Bytes} {goal : Bytes} :
    ofPath path = .polish goal ↔ path = some goal ∧ goal ≠ [] := by
  constructor
  · intro polished
    cases path with
    | none => cases polished
    | some path =>
        by_cases empty : path = []
        · subst empty
          cases polished
        · rw [ofPath_some empty] at polished
          cases polished
          exact ⟨rfl, empty⟩
  · rintro ⟨rfl, named⟩
    exact ofPath_some named

variable {path : Option Bytes} {optionsOver : Bool} {arguments : List Bytes}

theorem ofArgumentsFrom_append (atOnce : (ofArgumentsFrom path optionsOver arguments).AtOnce)
    (rest : List Bytes) :
    ofArgumentsFrom path optionsOver (arguments ++ rest) =
      ofArgumentsFrom path optionsOver arguments := by
  induction arguments generalizing path optionsOver with
  | nil => exact absurd atOnce (not_atOnce_ofPath path)
  | cons argument later ih =>
      rw [List.cons_append, ofArgumentsFrom_cons, ofArgumentsFrom_cons]
      rw [ofArgumentsFrom_cons] at atOnce
      cases kind : Argument.read optionsOver argument with
      | endOfOptions =>
          rw [kind] at atOnce
          exact ih atOnce
      | flag flag => rfl
      | mistake misuse => rfl
      | path =>
          rw [kind] at atOnce
          cases path with
          | none => exact ih atOnce
          | some first => rfl

theorem unsettled_iff :
    Unsettled path optionsOver arguments ↔
      ¬ (ofArgumentsFrom path optionsOver arguments).AtOnce := by
  induction arguments generalizing path optionsOver with
  | nil => exact iff_of_true trivial (not_atOnce_ofPath path)
  | cons argument later ih =>
      rw [Unsettled, Argument.choice_eq_read, ofArgumentsFrom_cons]
      have spelled := Argument.read_flag_iff optionsOver argument
      cases kind : Argument.read optionsOver argument with
      | endOfOptions => exact ih
      | flag flag =>
          dsimp only
          rw [and_iff_right (spelled.mp ⟨flag, kind⟩).2]
          split
          next empty => exact iff_of_true empty id
          next other => exact iff_of_false other (fun later => later trivial)
      | mistake misuse =>
          have mistaken := Argument.ofBytes_of_mistake kind
          refine iff_of_false ?_ ?_
          · rintro ⟨written, _⟩
            exact Argument.not_spellsFlag_of_mistake mistaken written
          · exact fun later => later (atOnce_of_mistake mistaken)
      | path =>
          cases path with
          | none => exact (and_iff_right rfl).trans ih
          | some first => exact iff_of_false nofun (fun later => later trivial)

theorem ofArgumentsFrom_of_not_atOnce
    (undecided : ¬ (ofArgumentsFrom path optionsOver arguments).AtOnce) :
    ofArgumentsFrom path optionsOver arguments =
      ofPath (path.toList ++ positionals optionsOver arguments).head? := by
  induction arguments generalizing path optionsOver with
  | nil => cases path <;> rfl
  | cons argument later ih =>
      rw [ofArgumentsFrom_cons] at undecided ⊢
      rw [positionals, Argument.choice_eq_read]
      cases kind : Argument.read optionsOver argument with
      | endOfOptions =>
          rw [kind] at undecided
          exact ih undecided
      | flag flag =>
          -- after an empty path a flag ends the reading as well, and the path is still the first
          rw [kind] at undecided
          dsimp only at undecided ⊢
          split at undecided
          next empty =>
            rw [if_pos empty, empty]
            rfl
          next => exact absurd trivial undecided
      | mistake misuse =>
          rw [kind] at undecided
          exact absurd (atOnce_of_mistake (Argument.ofBytes_of_mistake kind)) undecided
      | path =>
          rw [kind] at undecided
          cases path with
          | none => exact ih undecided
          | some first => exact absurd trivial undecided

theorem positionals_of_polish {goal : Bytes}
    (polished : ofArgumentsFrom path optionsOver arguments = .polish goal) :
    path.toList ++ positionals optionsOver arguments = [goal] ∧ goal ≠ [] := by
  induction arguments generalizing path optionsOver with
  | nil =>
      obtain ⟨rfl, named⟩ := ofPath_eq_polish_iff.mp polished
      exact ⟨rfl, named⟩
  | cons argument later ih =>
      rw [ofArgumentsFrom_cons] at polished
      rw [positionals, Argument.choice_eq_read]
      cases kind : Argument.read optionsOver argument with
      | endOfOptions =>
          rw [kind] at polished
          exact ih polished
      | flag flag =>
          rw [kind] at polished
          dsimp only at polished
          split at polished <;> cases polished
      | mistake misuse =>
          rw [kind] at polished
          cases polished
      | path =>
          rw [kind] at polished
          cases path with
          | none => exact ih polished
          | some first => cases polished

theorem ofArguments_of_deciding {first : List Bytes} (deciding : Deciding first)
    (inside : first <+: arguments) : ofArguments arguments = ofArguments first := by
  obtain ⟨rest, rfl⟩ := inside
  exact ofArgumentsFrom_append deciding rest

theorem undecided_of_not_atOnce (later : ¬ (ofArguments arguments).AtOnce) {first : List Bytes}
    (inside : first <+: arguments) : ¬ Deciding first := by
  intro deciding
  rw [ofArguments_of_deciding deciding inside] at later
  exact later deciding

theorem ofArguments_eq_polish_iff {goal : Bytes} :
    ofArguments arguments = .polish goal ↔
      ¬ Deciding arguments ∧ positionals false arguments = [goal] ∧ goal ≠ [] := by
  constructor
  · intro polished
    refine ⟨?_, positionals_of_polish polished⟩
    unfold Deciding
    rw [polished]
    exact id
  · rintro ⟨undecided, alone, named⟩
    have reading : ofArguments arguments = ofPath (positionals false arguments).head? :=
      ofArgumentsFrom_of_not_atOnce undecided
    rw [reading, alone, List.head?_cons]
    exact ofPath_some named

end Request

end TypePolish
