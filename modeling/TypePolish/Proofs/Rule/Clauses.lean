import TypePolish.Proofs.Rule.Separator
import TypePolish.Rule.Table

/-!
The rules for date fields, clause by clause. A clause is what stands before a semicolon, and the
target of such a rule holds a semicolon at its end only. So a match is the end of a clause, and the
pass replaces it or moves on to the next clause (`sweep_declared`, `sweep_undeclared`). It forgets
that a name may begin after the semicolon of a match, for that one is used up.
-/

namespace TypePolish

/-- A text has one first stop. -/
theorem append_stop_cases {stop : Char} {clause before after rest : Text} (absent : stop ∉ clause)
    (same : before ++ stop :: after = clause ++ stop :: rest) :
    (before = clause ∧ after = rest) ∨
      ∃ more, before = clause ++ stop :: more ∧ rest = more ++ stop :: after := by
  induction clause generalizing before with
  | nil =>
      cases before with
      | nil => exact .inl ⟨rfl, (List.cons.inj same).2⟩
      | cons first more =>
          obtain ⟨rfl, tails⟩ := List.cons.inj same
          exact .inr ⟨more, rfl, tails.symm⟩
  | cons char later ih =>
      rw [List.mem_cons, not_or] at absent
      cases before with
      | nil => exact absurd (List.cons.inj same).1 absent.1
      | cons first more =>
          obtain ⟨rfl, tails⟩ := List.cons.inj same
          rcases ih absent.2 tails with ⟨rfl, rfl⟩ | ⟨between, rfl, rfl⟩
          · exact .inl ⟨rfl, rfl⟩
          · exact .inr ⟨between, rfl, rfl⟩

theorem append_eq_append_stop {stop : Char} {before word clause more : Text} (absent : stop ∉ word)
    (same : before ++ word = clause ++ stop :: more) :
    ∃ between, before = clause ++ stop :: between ∧ more = between ++ word := by
  rcases List.append_eq_append_iff.mp same with ⟨between, rfl, rest⟩ | ⟨between, rfl, rest⟩
  · have inside : stop ∈ word := by simp [rest]
    contradiction
  · cases between with
    | nil =>
        have inside : stop ∈ word := by
          rw [List.nil_append] at rest
          simp [← rest]
        contradiction
    | cons char later =>
        obtain ⟨rfl, tails⟩ := List.cons.inj rest
        exact ⟨later, rfl, tails⟩

/-- A text has one last stop. -/
theorem append_stop_inj {stop : Char} {before after other rest : Text} (last : stop ∉ after)
    (otherLast : stop ∉ rest) (same : before ++ stop :: after = other ++ stop :: rest) :
    before = other ∧ after = rest := by
  have regrouped : (before ++ [stop]) ++ after = other ++ stop :: rest := by
    rw [← same, List.append_assoc, List.singleton_append]
  obtain ⟨between, early, rfl⟩ := append_eq_append_stop last regrouped
  rcases List.eq_nil_or_concat between with rfl | ⟨start, char, rfl⟩
  · exact ⟨(List.append_inj' early rfl).1, rfl⟩
  · rw [List.concat_eq_append] at early otherLast
    rw [← List.cons_append, ← List.append_assoc] at early
    obtain rfl : stop = char := List.singleton_inj.mp (List.append_inj' early rfl).2
    simp at otherLast

@[elab_as_elim]
theorem clause_induction {motive : Text → Prop}
    (last : ∀ clause, ';' ∉ clause → motive clause)
    (clause : ∀ clause rest, ';' ∉ clause → motive rest → motive (clause ++ ';' :: rest))
    (text : Text) : motive text := by
  suffices all : ∀ before, ';' ∉ before → motive (before ++ text) from all [] List.not_mem_nil
  induction text with
  | nil =>
      intro before absent
      rw [List.append_nil]
      exact last before absent
  | cons char later ih =>
      intro before absent
      by_cases stop : char = ';'
      · subst stop
        exact clause before later absent (ih [] List.not_mem_nil)
      · have longer : ';' ∉ before ++ [char] := by
          rw [List.mem_append, List.mem_singleton, not_or]
          exact ⟨absent, Ne.symm stop⟩
        simpa using ih (before ++ [char]) longer

def Named (name : Text) : Prop :=
  ∀ char ∈ name, isNameChar char = true

instance (name : Text) : Decidable (Named name) :=
  List.decidableBAll (fun char => isNameChar char = true) name

theorem Named.not_mem {name : Text} (named : Named name) {char : Char}
    (boundary : isNameChar char = false) : char ∉ name := by
  intro member
  rw [named char member] at boundary
  contradiction

theorem Named.stop_not_mem {name : Text} (named : Named name) : ';' ∉ name :=
  named.not_mem rfl

namespace Rule

theorem opensAfter_named (opened : Bool) (before : Text) {name : Text} (named : Named name)
    (some : name ≠ []) : opensAfter opened (before ++ name) = false := by
  rcases List.eq_nil_or_concat name with empty | ⟨start, char, same⟩
  · contradiction
  · rw [List.concat_eq_append] at same
    have inside : isNameChar char = true := named char (by simp [same])
    rw [same, ← List.append_assoc, opensAfter_concat, inside]
    rfl

/-- A text ends in at most one whole name. -/
theorem append_name_inj {firstOpened secondOpened : Bool} {first second name other : Text}
    (opensFirst : opensAfter firstOpened first = true)
    (opensSecond : opensAfter secondOpened second = true)
    (named : Named name) (otherNamed : Named other)
    (same : first ++ name = second ++ other) : first = second ∧ name = other := by
  rcases List.append_eq_append_iff.mp same with ⟨between, rfl, rfl⟩ | ⟨between, rfl, rfl⟩
  · by_cases empty : between = []
    · simp [empty]
    · have inside : Named between := by
        intro char member
        exact named char (List.mem_append_left _ member)
      rw [opensAfter_named secondOpened first inside empty] at opensSecond
      contradiction
  · by_cases empty : between = []
    · simp [empty]
    · have inside : Named between := by
        intro char member
        exact otherNamed char (List.mem_append_left _ member)
      rw [opensAfter_named firstOpened second inside empty] at opensFirst
      contradiction

def stringType : Text := [':', ' ', 's', 't', 'r', 'i', 'n', 'g']

def dateType : Text := [':', ' ', 'D', 'a', 't', 'e']

theorem target_dateField (name : Text) :
    (dateField name).target = (name ++ stringType) ++ [';'] := by
  rw [List.append_assoc]
  rfl

theorem substitute_dateField (name : Text) :
    (dateField name).substitute = (name ++ dateType) ++ [';'] := by
  rw [List.append_assoc]
  rfl

theorem stop_not_mem_declared {name : Text} (plain : ';' ∉ name) : ';' ∉ name ++ stringType := by
  rw [List.mem_append, not_or]
  exact ⟨plain, by decide⟩

theorem stop_not_mem_dated {name : Text} (plain : ';' ∉ name) : ';' ∉ name ++ dateType := by
  rw [List.mem_append, not_or]
  exact ⟨plain, by decide⟩

def EndsDeclared (opened : Bool) (name clause : Text) : Prop :=
  ∃ before, clause = before ++ (name ++ stringType) ∧ opensAfter opened before = true

theorem EndsDeclared.parts {opened : Bool} {name clause : Text} (whole : ';' ∉ clause)
    (declared : EndsDeclared opened name clause) :
    ∃ before, clause = before ++ (name ++ stringType) ∧ opensAfter opened before = true ∧
      ';' ∉ before ∧ ';' ∉ before ++ (name ++ dateType) := by
  obtain ⟨before, rfl, opens⟩ := declared
  simp only [List.mem_append, not_or] at whole
  refine ⟨before, rfl, opens, whole.1, ?_⟩
  simp only [List.mem_append, not_or]
  exact ⟨whole.1, whole.2.1, by decide⟩

theorem target_prefix_iff {name clause : Text} (plain : ';' ∉ name) (whole : ';' ∉ clause)
    (rest : Text) :
    (dateField name).target <+: clause ++ ';' :: rest ↔ clause = name ++ stringType := by
  rw [target_dateField]
  constructor
  · rintro ⟨after, same⟩
    rw [List.append_assoc, List.singleton_append] at same
    rcases append_stop_cases whole same with ⟨equal, _⟩ | ⟨more, longer, _⟩
    · exact equal.symm
    · have inside : ';' ∈ name ++ stringType := by simp [longer]
      exact absurd inside (stop_not_mem_declared plain)
  · rintro rfl
    exact ⟨rest, by rw [List.append_assoc, List.singleton_append]⟩

/-- A declaration of the field is at the end of the first clause or behind it. -/
theorem declaration_in_clause_iff {name clause : Text} (plain : ';' ∉ name) (whole : ';' ∉ clause)
    (rest before after : Text) :
    clause ++ ';' :: rest = before ++ (name ++ stringDeclaration) ++ after ↔
      (clause = before ++ (name ++ stringType) ∧ rest = after) ∨
        ∃ more, before = clause ++ ';' :: more ∧
          rest = more ++ (name ++ stringDeclaration) ++ after := by
  have regrouped : before ++ (name ++ stringDeclaration) ++ after =
      (before ++ (name ++ stringType)) ++ ';' :: after := by
    simp [stringDeclaration, stringType]
  constructor
  · intro same
    rcases append_stop_cases whole (regrouped.symm.trans same.symm) with ⟨rfl, rfl⟩ | longer
    · exact .inl ⟨rfl, rfl⟩
    · obtain ⟨more, early, rfl⟩ := longer
      obtain ⟨between, rfl, rfl⟩ := append_eq_append_stop (stop_not_mem_declared plain) early
      refine .inr ⟨between, rfl, ?_⟩
      simp [stringDeclaration, stringType]
  · rintro (⟨rfl, rfl⟩ | ⟨more, rfl, rfl⟩)
    · exact regrouped.symm
    · simp

section

variable {name : Text} {opened : Bool}

theorem sweep_declared (plain : ';' ∉ name) {before : Text} (whole : ';' ∉ before)
    (opens : opensAfter opened before = true) (rest : Text) :
    (dateField name).sweep opened (before ++ (name ++ stringType) ++ ';' :: rest) =
      before ++ (name ++ dateType) ++ ';' :: (dateField name).sweep false rest := by
  induction before generalizing opened with
  | nil =>
      have taken : (dateField name).sweep opened ((dateField name).target ++ rest) =
          (dateField name).substitute ++ (dateField name).sweep false rest :=
        sweep_target (.inr opens) rest
      rw [target_dateField, substitute_dateField] at taken
      simpa using taken
  | cons char later ih =>
      have clause : ';' ∉ char :: later ++ (name ++ stringType) := by
        rw [List.mem_append, not_or]
        exact ⟨whole, stop_not_mem_declared plain⟩
      have missed :
          ¬ (dateField name).target <+: char :: later ++ (name ++ stringType) ++ ';' :: rest := by
        rw [target_prefix_iff plain clause]
        intro same
        have sizes := congrArg List.length same
        simp only [List.length_append, List.length_cons] at sizes
        omega
      rw [List.mem_cons, not_or] at whole
      have next := ih whole.2 opens
      simp only [List.cons_append] at missed ⊢
      rw [sweep_char fun _ => missed, next]

theorem sweep_undeclared (plain : ';' ∉ name) {clause : Text} (whole : ';' ∉ clause)
    (missed : ¬ EndsDeclared opened name clause) (rest : Text) :
    (dateField name).sweep opened (clause ++ ';' :: rest) =
      clause ++ ';' :: (dateField name).sweep true rest := by
  induction clause generalizing opened with
  | nil =>
      have absent : ¬ (dateField name).target <+: [] ++ ';' :: rest := by
        rw [target_prefix_iff plain whole]
        intro same
        have sizes := congrArg List.length same
        simp [stringType] at sizes
      rw [List.nil_append] at absent ⊢
      rw [sweep_char fun _ => absent]
      rfl
  | cons char later ih =>
      have absent : (dateField name).Looks opened →
          ¬ (dateField name).target <+: char :: later ++ ';' :: rest := by
        intro looks begins
        rw [target_prefix_iff plain whole] at begins
        rcases looks with anywhere | isOpen
        · contradiction
        · exact missed ⟨[], begins, isOpen⟩
      have missedLater : ¬ EndsDeclared (!isNameChar char) name later := by
        rintro ⟨before, rfl, opens⟩
        exact missed ⟨char :: before, rfl, opens⟩
      rw [List.mem_cons, not_or] at whole
      rw [List.cons_append] at absent ⊢
      rw [sweep_char absent, ih whole.2 missedLater]
      rfl

theorem sweep_last_clause (name : Text) (opened : Bool) {clause : Text} (whole : ';' ∉ clause) :
    (dateField name).sweep opened clause = clause := by
  apply sweep_of_not_infix
  rintro inside
  apply whole
  apply inside.subset
  simp [target_dateField]

theorem EndsDeclared.eq {firstOpened secondOpened : Bool} {other clause : Text}
    (named : Named name) (otherNamed : Named other)
    (declared : EndsDeclared firstOpened name clause)
    (otherDeclared : EndsDeclared secondOpened other clause) : name = other := by
  obtain ⟨first, rfl, opensFirst⟩ := declared
  obtain ⟨second, same, opensSecond⟩ := otherDeclared
  rw [← List.append_assoc, ← List.append_assoc, List.append_left_inj] at same
  exact (append_name_inj opensFirst opensSecond named otherNamed same).2

theorem not_endsDeclared_dated (opened : Bool) (before name other : Text) :
    ¬ EndsDeclared opened other (before ++ (name ++ dateType)) := by
  rintro ⟨start, same, _⟩
  have ends := congrArg List.getLast? same
  simp [stringType, dateType] at ends

end

end Rule

namespace Table

open Rule

variable {names : List Text}

theorem dateFields_named : ∀ name ∈ dateFields.map String.toList, Named name := by
  decide +kernel

theorem dateFields_nodup : (dateFields.map String.toList).Nodup := by
  decide

theorem ofDateFields_cons (name : Text) (later : List Text) (text : Text) :
    (ofDateFields (name :: later)).apply text =
      (ofDateFields later).apply ((dateField name).sweep true text) := rfl

theorem ofDateFields_last_clause (names : List Text) {clause : Text} (whole : ';' ∉ clause) :
    (ofDateFields names).apply clause = clause := by
  apply apply_of_fixed
  intro rule member
  obtain ⟨name, _, rfl⟩ := List.mem_map.mp member
  exact sweep_last_clause name true whole

theorem ofDateFields_undeclared (named : ∀ name ∈ names, Named name) {clause : Text}
    (whole : ';' ∉ clause) (missed : ∀ name ∈ names, ¬ EndsDeclared true name clause) :
    (ofDateFields names).apply (clause ++ [';']) = clause ++ [';'] := by
  apply apply_of_fixed
  intro rule member
  obtain ⟨name, listed, rfl⟩ := List.mem_map.mp member
  have kept := sweep_undeclared (named name listed).stop_not_mem whole (missed name listed) []
  rwa [sweep_nil] at kept

theorem ofDateFields_declared (named : ∀ name ∈ names, Named name) {name before : Text}
    (listed : name ∈ names) (whole : ';' ∉ before) (opens : opensAfter true before = true) :
    (ofDateFields names).apply (before ++ (name ++ stringType) ++ [';']) =
      before ++ (name ++ dateType) ++ [';'] := by
  have nameNamed : Named name := named name listed
  have plain : ';' ∉ name := nameNamed.stop_not_mem
  have wholeClause : ';' ∉ before ++ (name ++ stringType) := by
    rw [List.mem_append, not_or]
    exact ⟨whole, stop_not_mem_declared plain⟩
  have wholeDated : ';' ∉ before ++ (name ++ dateType) := by
    rw [List.mem_append, not_or]
    exact ⟨whole, stop_not_mem_dated plain⟩
  induction names with
  | nil => contradiction
  | cons other later ih =>
      rw [List.forall_mem_cons] at named
      obtain ⟨otherNamed, laterNamed⟩ := named
      rw [ofDateFields_cons]
      by_cases same : other = name
      · subst same
        have swept := sweep_declared plain whole opens []
        rw [sweep_nil] at swept
        rw [swept]
        apply ofDateFields_undeclared laterNamed wholeDated
        intro name _
        exact not_endsDeclared_dated true before other name
      · have missed : ¬ EndsDeclared true other (before ++ (name ++ stringType)) := by
          intro declared
          exact same (declared.eq otherNamed nameNamed ⟨before, rfl, opens⟩)
        have swept := sweep_undeclared otherNamed.stop_not_mem wholeClause missed []
        rw [sweep_nil] at swept
        rw [swept]
        exact ih laterNamed (List.mem_of_ne_of_mem (Ne.symm same) listed)

end Table

end TypePolish
