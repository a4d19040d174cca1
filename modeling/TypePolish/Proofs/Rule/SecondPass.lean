import TypePolish.Proofs.Rule.Declared

/-!
The second pass of the rules for date fields. A pass leaves some declarations of a name, but never
two of them back to back (`not_declaresTwice_apply`), and the rules for the other names put none
together. So the next pass leaves no declaration at all, and a third one finds nothing to do
(`two_passes_settle_dates`).
-/

namespace TypePolish

open Rule

section

variable {name other : Text}

/-- A pass that begins where a name may begin leaves no declaration at the front. -/
theorem not_prefix_sweep_open (plain : ';' ∉ name) (text : Text) :
    ¬ (dateField name).target <+: (dateField name).sweep true text := by
  induction text using clause_induction with
  | last clause whole =>
      rw [sweep_last_clause name true whole]
      intro begins
      exact whole (begins.subset (by simp [target_dateField]))
  | clause clause rest whole _ =>
      by_cases declared : EndsDeclared true name clause
      · obtain ⟨before, rfl, opens, clean, dated⟩ := declared.parts whole
        rw [sweep_declared plain clean opens, target_prefix_iff plain dated]
        intro same
        exact not_endsDeclared_dated true before name name ⟨[], same, rfl⟩
      · rw [sweep_undeclared plain whole declared, target_prefix_iff plain whole]
        intro same
        exact declared ⟨[], same, rfl⟩

theorem not_declaresThen_sweep (plain : ';' ∉ name) (opened context : Bool) (text : Text) :
    ¬ DeclaresThen name (fun rest => (dateField name).target <+: rest) context
      ((dateField name).sweep opened text) := by
  induction text using clause_induction generalizing opened context with
  | last clause whole =>
      rw [sweep_last_clause name opened whole]
      exact not_declaresThen_last whole
  | clause clause rest whole ih =>
      by_cases declared : EndsDeclared opened name clause
      · obtain ⟨before, rfl, opens, clean, dated⟩ := declared.parts whole
        rw [sweep_declared plain clean opens, declaresThen_clause_iff plain dated]
        rintro (⟨stale, _⟩ | later)
        · exact not_endsDeclared_dated context before name name stale
        · exact ih false true later
      · -- a clause that was passed over opens the next one, which is then replaced
        rw [sweep_undeclared plain whole declared, declaresThen_clause_iff plain whole]
        rintro (⟨_, touches⟩ | later)
        · exact not_prefix_sweep_open plain rest touches
        · exact ih true true later

theorem not_declaresTwice_apply (plain : ';' ∉ name) (text : Text) :
    ¬ DeclaresTwice name ((dateField name).apply text) := by
  rw [declaresTwice_iff]
  exact not_declaresThen_sweep plain true true text

theorem declaresString_apply_iff (plain : ';' ∉ name) (text : Text) :
    DeclaresString name ((dateField name).apply text) ↔ DeclaresTwice name text := by
  rw [declaresString_iff, declaresTwice_iff]
  have swept := declaresThen_sweep_iff plain true true (by simp) text
  simpa [Rule.apply] using swept

theorem declaresString_of_declaresTwice {text : Text} (twice : DeclaresTwice name text) :
    DeclaresString name text := by
  obtain ⟨before, after, whole, opens⟩ := twice
  exact ⟨before, _, whole, opens⟩

theorem declaresTwice_of_apply (named : Named name) (otherNamed : Named other) {text : Text}
    (twice : DeclaresTwice name ((dateField other).apply text)) : DeclaresTwice name text := by
  by_cases same : name = other
  · subst same
    exact absurd twice (not_declaresTwice_apply named.stop_not_mem text)
  · rw [declaresTwice_iff] at twice ⊢
    exact (declaresThen_sweep_other otherNamed named same
      (target_prefix_sweep_other otherNamed named same) true true text).mp twice

theorem declaresString_of_apply (named : Named name) (otherNamed : Named other) {text : Text}
    (declares : DeclaresString name ((dateField other).apply text)) : DeclaresString name text := by
  by_cases same : name = other
  · subst same
    rw [declaresString_apply_iff named.stop_not_mem] at declares
    exact declaresString_of_declaresTwice declares
  · rw [declaresString_iff] at declares ⊢
    exact (declaresThen_sweep_other otherNamed named same (by simp) true true text).mp declares

end

namespace Table

variable {names : List Text} {name : Text}

theorem not_declaresTwice_kept (named : ∀ name ∈ names, Named name) (nameNamed : Named name) :
    ∀ rule ∈ ofDateFields names, ∀ text, ¬ DeclaresTwice name text →
      ¬ DeclaresTwice name (rule.apply text) := by
  intro rule member text once twice
  obtain ⟨other, listed, rfl⟩ := List.mem_map.mp member
  exact once (declaresTwice_of_apply nameNamed (named other listed) twice)

theorem not_declaresString_kept (named : ∀ name ∈ names, Named name) (nameNamed : Named name) :
    ∀ rule ∈ ofDateFields names, ∀ text, ¬ DeclaresString name text →
      ¬ DeclaresString name (rule.apply text) := by
  intro rule member text absent declares
  obtain ⟨other, listed, rfl⟩ := List.mem_map.mp member
  exact absent (declaresString_of_apply nameNamed (named other listed) declares)

theorem not_declaresTwice_ofDateFields (named : ∀ name ∈ names, Named name)
    (listed : name ∈ names) (text : Text) :
    ¬ DeclaresTwice name ((ofDateFields names).apply text) := by
  have nameNamed : Named name := named name listed
  have brings (text : Text) (_ : True) : ¬ DeclaresTwice name ((dateField name).apply text) :=
    not_declaresTwice_apply nameNamed.stop_not_mem text
  exact apply_brings (List.mem_map_of_mem listed) (fun _ _ _ _ => trivial)
    (not_declaresTwice_kept named nameNamed) brings trivial

theorem not_declaresString_ofDateFields (named : ∀ name ∈ names, Named name)
    (listed : name ∈ names) {text : Text} (once : ¬ DeclaresTwice name text) :
    ¬ DeclaresString name ((ofDateFields names).apply text) := by
  have nameNamed : Named name := named name listed
  have brings (text : Text) (once : ¬ DeclaresTwice name text) :
      ¬ DeclaresString name ((dateField name).apply text) := by
    rwa [declaresString_apply_iff nameNamed.stop_not_mem]
  exact apply_brings (List.mem_map_of_mem listed) (not_declaresTwice_kept named nameNamed)
    (not_declaresString_kept named nameNamed) brings once

end Table

open Table

/-- After two passes of the rules for a list of names none of them is declared a string, and a third
pass changes nothing. -/
theorem two_passes_settle_dates {names : List Text} (named : ∀ name ∈ names, Named name)
    (text : Text) :
    (∀ name ∈ names, ¬ DeclaresString name ((ofDateFields names).apply^[2] text)) ∧
      (ofDateFields names).apply^[3] text = (ofDateFields names).apply^[2] text := by
  have clean : ∀ name ∈ names, ¬ DeclaresString name ((ofDateFields names).apply^[2] text) := by
    intro name listed
    have once : ¬ DeclaresTwice name ((ofDateFields names).apply text) :=
      not_declaresTwice_ofDateFields named listed text
    exact not_declaresString_ofDateFields named listed once
  refine ⟨clean, ?_⟩
  rw [Function.iterate_succ_apply']
  apply apply_of_settled
  intro rule member
  obtain ⟨name, listed, rfl⟩ := List.mem_map.mp member
  rw [occurs_dateField_iff]
  exact clean name listed

def touchingNames : List Text :=
  ["date".toList, "update".toList]

def touchingDates : Text :=
  "update: string;date: string;date: string;date: string;".toList

theorem touchingDates_settle :
    (∀ name ∈ touchingNames, Named name) ∧
      (ofDateFields touchingNames).apply touchingDates =
        "update: Date;date: Date;date: string;date: Date;".toList ∧
      (ofDateFields touchingNames).apply^[2] touchingDates =
        "update: Date;date: Date;date: Date;date: Date;".toList ∧
      (∀ name ∈ touchingNames,
        ¬ DeclaresString name ((ofDateFields touchingNames).apply^[2] touchingDates)) ∧
      (ofDateFields touchingNames).apply^[3] touchingDates =
        (ofDateFields touchingNames).apply^[2] touchingDates := by
  have named : ∀ name ∈ touchingNames, Named name := by
    decide +kernel
  exact ⟨named, by decide +kernel, by decide +kernel, two_passes_settle_dates named touchingDates⟩

end TypePolish
