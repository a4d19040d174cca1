import TypePolish.Rule.Basic

/-!
A pass of a rule as a walk over the text. The walk remembers one thing, whether a name may begin
at its place. It takes the target where the rule looks for it (`sweep_target`), and otherwise it
takes one character (`sweep_char`); a character that no identifier contains opens a name again,
although a match could also begin with it. `sweep_induction` is induction along the walk, and a walk
that nowhere takes the target changes nothing (`sweep_of_not_occursFrom`).
-/

namespace TypePolish

theorem isPrefixOf?_append_self (word rest : Text) : word.isPrefixOf? (word ++ rest) = some rest :=
  (isPrefixOf?_eq_some_iff word _ rest).mpr rfl

theorem isPrefixOf?_eq_none {word text : Text} (absent : ¬ word <+: text) :
    word.isPrefixOf? text = none := by
  cases found : word.isPrefixOf? text with
  | none => rfl
  | some rest =>
      have whole := (isPrefixOf?_eq_some_iff word text rest).mp found
      exact absurd ⟨rest, whole.symm⟩ absent

/-- A text does not begin with a word if it has another first character. -/
theorem not_prefix_of_head {word text : Text} {first other : Char}
    (head : word.head? = some first) (found : text.head? = some other) (differ : first ≠ other) :
    ¬ word <+: text := by
  rintro ⟨rest, rfl⟩
  rw [List.head?_append, head] at found
  exact differ (Option.some.inj found)

namespace Rule

def Looks (rule : Rule) (opened : Bool) : Prop :=
  rule.place = .anywhere ∨ opened = true

def opensAfter (opened : Bool) : Text → Bool
  | [] => opened
  | char :: later => opensAfter (!isNameChar char) later

def OccursFrom (rule : Rule) (opened : Bool) (text : Text) : Prop :=
  ∃ before after, text = before ++ (rule.target ++ after) ∧ rule.Looks (opensAfter opened before)

theorem opensAfter_append (opened : Bool) (before after : Text) :
    opensAfter opened (before ++ after) = opensAfter (opensAfter opened before) after := by
  induction before generalizing opened with
  | nil => rfl
  | cons char later ih => exact ih (!isNameChar char)

theorem opensAfter_concat (opened : Bool) (before : Text) (char : Char) :
    opensAfter opened (before ++ [char]) = !isNameChar char := by
  rw [opensAfter_append]
  rfl

theorem opensAfter_true_iff (before : Text) :
    opensAfter true before = true ↔ ∀ char ∈ before.getLast?, isNameChar char = false := by
  rcases List.eq_nil_or_concat before with rfl | ⟨start, last, rfl⟩
  · simp [opensAfter]
  · rw [List.concat_eq_append, opensAfter_concat, List.getLast?_concat]
    simp

section

variable {rule : Rule}

theorem after?_target (rest : Text) : rule.after? (rule.target ++ rest) = some rest :=
  isPrefixOf?_append_self rule.target rest

theorem after?_eq_none {text : Text} (missed : ¬ rule.target <+: text) :
    rule.after? text = none :=
  isPrefixOf?_eq_none missed

theorem boundary_of_anywhere (anywhere : rule.place = .anywhere) {opened : Bool} {text : Text}
    {hit : Hit} (found : rule.hit? opened text = some hit) : hit.boundary = none := by
  simp only [hit?, anywhere] at found
  obtain ⟨rest, _, rfl⟩ := Option.map_eq_some_iff.mp found
  rfl

theorem sweep_congr {first second : Bool} {text : Text}
    (same : rule.hit? first text = rule.hit? second text) :
    rule.sweep first text = rule.sweep second text := by
  cases found : rule.hit? second text with
  | some hit => rw [sweep_hit found, sweep_hit (same.trans found)]
  | none =>
      cases text with
      | nil => simp
      | cons char later => rw [sweep_cons found, sweep_cons (same.trans found)]

theorem sweep_anywhere (anywhere : rule.place = .anywhere) (first second : Bool) (text : Text) :
    rule.sweep first text = rule.sweep second text := by
  apply sweep_congr
  simp only [hit?, anywhere]

theorem sweep_target {opened : Bool} (looks : rule.Looks opened) (rest : Text) :
    rule.sweep opened (rule.target ++ rest) = rule.substitute ++ rule.sweep false rest := by
  have found : rule.hit? opened (rule.target ++ rest) = some ⟨none, rest⟩ := by
    rcases looks with anywhere | rfl
    · simp [hit?, anywhere, after?_target]
    · cases place : rule.place <;> simp [hit?, place, after?_target]
  simpa [replacement] using sweep_hit found

theorem sweep_char {opened : Bool} {char : Char} {later : Text}
    (missed : rule.Looks opened → ¬ rule.target <+: char :: later) :
    rule.sweep opened (char :: later) = char :: rule.sweep (!isNameChar char) later := by
  cases place : rule.place with
  | anywhere =>
      have absent := after?_eq_none (missed (.inl place))
      rw [sweep_cons (by simp [hit?, place, absent])]
      rw [sweep_anywhere place false]
  | nameStart =>
      have direct : (if opened then (rule.after? (char :: later)).map (Hit.mk none) else none) =
          none := by
        split
        next isOpen => simp [after?_eq_none (missed (.inr isOpen))]
        next => rfl
      cases after : rule.after? later with
      | none =>
          have absent : rule.hit? opened (char :: later) = none := by
            simp [hit?, place, direct, after]
          rw [sweep_cons absent]
          cases isNameChar char with
          | true => rfl
          | false =>
              -- nothing follows that a boundary could open, so opening changes nothing
              congr 1
              apply sweep_congr
              simp [hit?, place, after]
      | some rest =>
          cases named : isNameChar char with
          | true =>
              have absent : rule.hit? opened (char :: later) = none := by
                simp [hit?, place, direct, after, named]
              rw [sweep_cons absent]
              rfl
          | false =>
              -- the match takes the character as its boundary and writes it back
              have found : rule.hit? opened (char :: later) = some ⟨some char, rest⟩ := by
                simp [hit?, place, direct, after, named]
              have whole := (after?_eq_some_iff rule later rest).mp after
              rw [sweep_hit found, whole]
              exact congrArg (char :: ·) (sweep_target (.inr rfl) rest).symm

end

@[elab_as_elim]
theorem sweep_induction (rule : Rule) {motive : Bool → Text → Prop}
    (nil : ∀ opened, motive opened [])
    (target : ∀ opened rest, rule.Looks opened → motive false rest →
      motive opened (rule.target ++ rest))
    (char : ∀ opened char later, (rule.Looks opened → ¬ rule.target <+: char :: later) →
      motive (!isNameChar char) later → motive opened (char :: later))
    (opened : Bool) (text : Text) : motive opened text := by
  generalize size : text.length = bound
  induction bound using Nat.strongRecOn generalizing opened text with
  | ind bound ih =>
      cases text with
      | nil => exact nil opened
      | cons first later =>
          by_cases found : rule.Looks opened ∧ rule.target <+: first :: later
          · obtain ⟨looks, rest, whole⟩ := found
            have positive := List.length_pos_iff.mpr rule.target_ne_nil
            have total := congrArg List.length whole
            simp only [List.length_append] at total
            rw [← whole]
            exact target opened rest looks (ih rest.length (by omega) false rest rfl)
          · simp only [List.length_cons] at size
            exact char opened first later (fun looks begins => found ⟨looks, begins⟩)
              (ih later.length (by omega) _ later rfl)

section

variable {rule : Rule}

theorem occursFrom_cons {opened : Bool} {char : Char} {later : Text}
    (missed : rule.Looks opened → ¬ rule.target <+: char :: later) :
    rule.OccursFrom opened (char :: later) ↔ rule.OccursFrom (!isNameChar char) later := by
  constructor
  · rintro ⟨before, after, whole, looks⟩
    cases before with
    | nil => exact absurd ⟨after, whole.symm⟩ (missed looks)
    | cons first more =>
        obtain ⟨rfl, rest⟩ := List.cons.inj whole
        exact ⟨more, after, rest, looks⟩
  · rintro ⟨before, after, rfl, looks⟩
    exact ⟨char :: before, after, rfl, looks⟩

theorem sweep_of_not_occursFrom {opened : Bool} {text : Text}
    (absent : ¬ rule.OccursFrom opened text) : rule.sweep opened text = text := by
  induction opened, text using rule.sweep_induction with
  | nil opened => exact sweep_nil rule opened
  | target opened rest looks _ => exact absurd ⟨[], rest, rfl, looks⟩ absent
  | char opened char later missed ih =>
      rw [occursFrom_cons missed] at absent
      rw [sweep_char missed, ih absent]

theorem sweep_of_not_infix {text : Text} (absent : ¬ rule.target <:+: text) (opened : Bool) :
    rule.sweep opened text = text := by
  apply sweep_of_not_occursFrom
  rintro ⟨before, after, rfl, _⟩
  exact absent (List.infix_append' before rule.target after)

theorem sweep_append_of_head {first : Char} (head : rule.target.head? = some first)
    {before : Text} (absent : first ∉ before) (opened : Bool) (after : Text) :
    rule.sweep opened (before ++ after) =
      before ++ rule.sweep (opensAfter opened before) after := by
  induction before generalizing opened with
  | nil => rfl
  | cons char later ih =>
      rw [List.mem_cons, not_or] at absent
      have missed : ¬ rule.target <+: char :: (later ++ after) :=
        not_prefix_of_head head rfl absent.1
      rw [List.cons_append, sweep_char fun _ => missed, ih absent.2]
      rfl

end

end Rule

end TypePolish
