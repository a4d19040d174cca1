import TypePolish.Proofs.Rule.Clauses
import TypePolish.Proofs.Rule.Occurrence

/-!
Which declarations the rules for date fields leave behind. The pass for a name leaves one exactly
where two of them stood back to back (`declaresThen_sweep_iff`): the semicolon of the first is used
up, so the second is not seen. The passes for other names neither make nor remove any
(`declaresThen_sweep_other`), which settles all names together (`declares_ofDateFields_iff`).
-/

namespace TypePolish

open Rule

/-- Somewhere in the text the field is declared a string, at the start or after a character that no
identifier contains. -/
def DeclaresString (name text : Text) : Prop :=
  ∃ before after, text = before ++ (name ++ stringDeclaration) ++ after ∧
    ∀ char ∈ before.getLast?, isNameChar char = false

def DeclaresTwice (name text : Text) : Prop :=
  ∃ before after, text = before ++ (name ++ stringDeclaration) ++
      ((name ++ stringDeclaration) ++ after) ∧
    ∀ char ∈ before.getLast?, isNameChar char = false

def DeclaresThen (name : Text) (next : Text → Prop) (opened : Bool) (text : Text) : Prop :=
  ∃ before after, text = before ++ (name ++ stringDeclaration) ++ after ∧
    opensAfter opened before = true ∧ next after

theorem occurs_dateField_iff (name text : Text) :
    (dateField name).Occurs text ↔ DeclaresString name text := by
  constructor
  · rintro ⟨before, after, rfl, opens⟩
    exact ⟨before, after, (List.append_assoc before _ after).symm, opens rfl⟩
  · rintro ⟨before, after, rfl, opens⟩
    exact ⟨before, after, List.append_assoc before _ after, fun _ => opens⟩

theorem declaresString_iff (name text : Text) :
    DeclaresString name text ↔ DeclaresThen name (fun _ => True) true text := by
  simp only [DeclaresString, DeclaresThen, opensAfter_true_iff, and_true]

theorem declaresTwice_iff (name text : Text) :
    DeclaresTwice name text ↔
      DeclaresThen name (fun rest => (dateField name).target <+: rest) true text := by
  simp only [DeclaresTwice, DeclaresThen, opensAfter_true_iff]
  constructor
  · rintro ⟨before, after, whole, opens⟩
    exact ⟨before, _, whole, opens, after, rfl⟩
  · rintro ⟨before, _, whole, opens, after, rfl⟩
    exact ⟨before, after, whole, opens⟩

section

variable {name : Text} {next : Text → Prop} {opened : Bool}

theorem not_declaresThen_last {clause : Text} (whole : ';' ∉ clause) :
    ¬ DeclaresThen name next opened clause := by
  rintro ⟨before, after, rfl, _⟩
  apply whole
  simp [stringDeclaration]

theorem declaresThen_clause_iff (plain : ';' ∉ name) {clause : Text} (whole : ';' ∉ clause)
    (rest : Text) :
    DeclaresThen name next opened (clause ++ ';' :: rest) ↔
      (EndsDeclared opened name clause ∧ next rest) ∨ DeclaresThen name next true rest := by
  constructor
  · rintro ⟨before, after, same, opens, holds⟩
    rcases (declaration_in_clause_iff plain whole rest before after).mp same with ⟨rfl, rfl⟩ | later
    · exact .inl ⟨⟨before, rfl, opens⟩, holds⟩
    · obtain ⟨more, rfl, behind⟩ := later
      rw [opensAfter_append] at opens
      exact .inr ⟨more, after, behind, opens, holds⟩
  · rintro (⟨⟨before, rfl, opens⟩, holds⟩ | ⟨before, after, rfl, opens, holds⟩)
    · refine ⟨before, rest, ?_, opens, holds⟩
      simp [stringDeclaration, stringType]
    · refine ⟨clause ++ ';' :: before, after, ?_, ?_, holds⟩
      · simp
      · rw [opensAfter_append]
        exact opens

theorem endsDeclared_iff (opened : Bool) (clause : Text) :
    EndsDeclared opened name clause ↔
      EndsDeclared false name clause ∨ (opened = true ∧ clause = name ++ stringType) := by
  constructor
  · rintro ⟨before, rfl, opens⟩
    cases before with
    | nil => exact .inr ⟨opens, rfl⟩
    | cons char later => exact .inl ⟨char :: later, rfl, opens⟩
  · rintro (⟨before, rfl, opens⟩ | ⟨isOpen, rfl⟩)
    · cases before with
      | nil => contradiction
      | cons char later => exact ⟨char :: later, rfl, opens⟩
    · exact ⟨[], rfl, isOpen⟩

theorem not_endsDeclared_alone : ¬ EndsDeclared false name (name ++ stringType) := by
  rintro ⟨before, same, opens⟩
  have empty : before = [] := List.append_left_eq_self.mp same.symm
  rw [empty] at opens
  contradiction

/-- What the pass for a name leaves: the declaration at the front, if the pass may not take it and
the context would allow it, and one of every two that stand back to back. -/
theorem declaresThen_sweep_iff (plain : ';' ∉ name) (opened context : Bool)
    (fits : opened = true → context = true) (text : Text) :
    DeclaresThen name (fun _ => True) context ((dateField name).sweep opened text) ↔
      (context = true ∧ opened = false ∧ (dateField name).target <+: text) ∨
        DeclaresThen name (fun rest => (dateField name).target <+: rest) context text := by
  induction text using clause_induction generalizing opened context with
  | last clause whole =>
      rw [sweep_last_clause name opened whole]
      have noTarget : ¬ (dateField name).target <+: clause := by
        intro begins
        exact whole (begins.subset (by simp [target_dateField]))
      simp [not_declaresThen_last whole, noTarget]
  | clause clause rest whole ih =>
      rw [declaresThen_clause_iff plain whole, target_prefix_iff plain whole,
        endsDeclared_iff context]
      by_cases declared : EndsDeclared opened name clause
      · have reading := (endsDeclared_iff opened clause).mp declared
        have apart : EndsDeclared false name clause → clause ≠ name ++ stringType := by
          rintro early rfl
          exact not_endsDeclared_alone early
        obtain ⟨before, rfl, opens, clean, dated⟩ := declared.parts whole
        rw [sweep_declared plain clean opens, declaresThen_clause_iff plain dated,
          ih false true (by simp)]
        simp only [not_endsDeclared_dated, false_and, false_or, true_and]
        grind
      · rw [sweep_undeclared plain whole declared, declaresThen_clause_iff plain whole,
          ih true true (by simp), endsDeclared_iff context]
        rw [endsDeclared_iff opened] at declared
        grind

end

section

variable {name other : Text} {next : Text → Prop}

theorem target_prefix_sweep_other (named : Named name) (otherNamed : Named other)
    (differ : other ≠ name) (opened : Bool) (text : Text) :
    (dateField other).target <+: (dateField name).sweep opened text ↔
      (dateField other).target <+: text := by
  have plain : ';' ∉ name := named.stop_not_mem
  have otherPlain : ';' ∉ other := otherNamed.stop_not_mem
  induction text using clause_induction with
  | last clause whole => rw [sweep_last_clause name opened whole]
  | clause clause rest whole _ =>
      by_cases declared : EndsDeclared opened name clause
      · have undeclared : clause ≠ other ++ stringType := by
          intro same
          have alone : EndsDeclared true other clause := ⟨[], same, rfl⟩
          exact differ (alone.eq otherNamed named declared)
        obtain ⟨before, rfl, opens, clean, dated⟩ := declared.parts whole
        have stale : before ++ (name ++ dateType) ≠ other ++ stringType := by
          intro same
          exact not_endsDeclared_dated true before name other ⟨[], same, rfl⟩
        rw [sweep_declared plain clean opens, target_prefix_iff otherPlain dated,
          target_prefix_iff otherPlain whole]
        simp only [stale, undeclared]
      · rw [sweep_undeclared plain whole declared, target_prefix_iff otherPlain whole,
          target_prefix_iff otherPlain whole]

theorem declaresThen_sweep_other (named : Named name) (otherNamed : Named other)
    (differ : other ≠ name)
    (kept : ∀ opened rest, next ((dateField name).sweep opened rest) ↔ next rest)
    (opened context : Bool) (text : Text) :
    DeclaresThen other next context ((dateField name).sweep opened text) ↔
      DeclaresThen other next context text := by
  have plain : ';' ∉ name := named.stop_not_mem
  have otherPlain : ';' ∉ other := otherNamed.stop_not_mem
  induction text using clause_induction generalizing opened context with
  | last clause whole => rw [sweep_last_clause name opened whole]
  | clause clause rest whole ih =>
      by_cases declared : EndsDeclared opened name clause
      · have undeclared : ¬ EndsDeclared context other clause := by
          intro also
          exact differ (also.eq otherNamed named declared)
        obtain ⟨before, rfl, opens, clean, dated⟩ := declared.parts whole
        have below : DeclaresThen other next true ((dateField name).sweep false rest) ↔
            DeclaresThen other next true rest := ih false true
        rw [sweep_declared plain clean opens, declaresThen_clause_iff otherPlain dated,
          declaresThen_clause_iff otherPlain whole, below]
        simp only [not_endsDeclared_dated, undeclared, false_and]
      · have below : DeclaresThen other next true ((dateField name).sweep true rest) ↔
            DeclaresThen other next true rest := ih true true
        rw [sweep_undeclared plain whole declared, declaresThen_clause_iff otherPlain whole,
          declaresThen_clause_iff otherPlain whole, below, kept]

end

section

variable {names : List Text} {name : Text}

theorem declaresThen_ofDateFields {next : Text → Prop} (named : ∀ name ∈ names, Named name)
    (nameNamed : Named name) (absent : name ∉ names)
    (kept : ∀ other ∈ names, ∀ opened rest, next ((dateField other).sweep opened rest) ↔ next rest)
    (text : Text) :
    DeclaresThen name next true ((Table.ofDateFields names).apply text) ↔
      DeclaresThen name next true text := by
  induction names generalizing text with
  | nil => rfl
  | cons other later ih =>
      rw [List.mem_cons, not_or] at absent
      rw [List.forall_mem_cons] at named kept
      rw [Table.ofDateFields_cons, ih named.2 absent.2 kept.2]
      exact declaresThen_sweep_other named.1 nameNamed absent.1 kept.1 true true text

/-- All passes together leave a declaration of one of the names exactly where two of them stood back
to back. -/
theorem declares_ofDateFields_iff (named : ∀ name ∈ names, Named name) (distinct : names.Nodup)
    (listed : name ∈ names) (text : Text) :
    DeclaresString name ((Table.ofDateFields names).apply text) ↔ DeclaresTwice name text := by
  rw [declaresString_iff, declaresTwice_iff]
  have nameNamed : Named name := named name listed
  induction names generalizing text with
  | nil => contradiction
  | cons other later ih =>
      rw [List.forall_mem_cons] at named
      obtain ⟨otherNamed, laterNamed⟩ := named
      rw [List.nodup_cons] at distinct
      rw [Table.ofDateFields_cons]
      by_cases same : name = other
      · subst same
        rw [declaresThen_ofDateFields laterNamed nameNamed distinct.1 (by simp),
          declaresThen_sweep_iff (nameNamed.stop_not_mem) true true (by simp)]
        simp
      · have rest : name ∈ later := List.mem_of_ne_of_mem same listed
        refine (ih laterNamed distinct.2 rest _).trans ?_
        exact declaresThen_sweep_other otherNamed nameNamed same
          (target_prefix_sweep_other otherNamed nameNamed same) true true text

end

end TypePolish
