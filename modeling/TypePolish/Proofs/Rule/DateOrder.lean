import TypePolish.Proofs.Rule.Clauses

/-!
The rules for date fields in any order. A clause ends in one whole name at most, so at most one of
two such rules takes it, and the other one sees nothing of its own in what is written there. Hence
their walks may change places clause by clause (`sweep_dateField_comm`), and with them the rules of
a whole list (`date_rules_in_any_order`).
-/

namespace TypePolish

namespace Rule

section

variable {name other clause : Text} {first second : Bool}

theorem sweep_comm_of_declared (named : Named name) (otherNamed : Named other)
    (differ : name ≠ other) (whole : ';' ∉ clause) (declared : EndsDeclared first name clause)
    {rest : Text}
    (next : (dateField other).sweep true ((dateField name).sweep false rest) =
      (dateField name).sweep false ((dateField other).sweep true rest)) :
    (dateField other).sweep second ((dateField name).sweep first (clause ++ ';' :: rest)) =
      (dateField name).sweep first ((dateField other).sweep second (clause ++ ';' :: rest)) := by
  have plain : ';' ∉ name := named.stop_not_mem
  have otherPlain : ';' ∉ other := otherNamed.stop_not_mem
  have undeclared : ¬ EndsDeclared second other clause := by
    intro also
    exact differ (declared.eq named otherNamed also)
  obtain ⟨before, rfl, opens, clean, dated⟩ := declared.parts whole
  have stale : ¬ EndsDeclared second other (before ++ (name ++ dateType)) :=
    not_endsDeclared_dated second before name other
  rw [sweep_undeclared otherPlain whole undeclared, sweep_declared plain clean opens,
    sweep_declared plain clean opens, sweep_undeclared otherPlain dated stale, next]

theorem sweep_dateField_comm (named : Named name) (otherNamed : Named other)
    (differ : name ≠ other) (first second : Bool) (text : Text) :
    (dateField other).sweep second ((dateField name).sweep first text) =
      (dateField name).sweep first ((dateField other).sweep second text) := by
  induction text using clause_induction generalizing first second with
  | last clause whole => simp only [sweep_last_clause _ _ whole]
  | clause clause rest whole ih =>
      by_cases declared : EndsDeclared first name clause
      · exact sweep_comm_of_declared named otherNamed differ whole declared (ih false true)
      · by_cases otherDeclared : EndsDeclared second other clause
        · have next := (ih true false).symm
          exact (sweep_comm_of_declared otherNamed named differ.symm whole otherDeclared next).symm
        · have kept (rest : Text) := sweep_undeclared named.stop_not_mem whole declared rest
          have otherKept (rest : Text) :=
            sweep_undeclared otherNamed.stop_not_mem whole otherDeclared rest
          rw [kept, otherKept, otherKept, kept, ih true true]

end

end Rule

namespace Table

theorem ofDateFields_perm {names order : List Text} (named : ∀ name ∈ names, Named name)
    (reordered : names.Perm order) (text : Text) :
    (ofDateFields names).apply text = (ofDateFields order).apply text := by
  unfold apply ofDateFields
  rw [List.foldl_map, List.foldl_map]
  apply reordered.foldl_eq'
  intro first listed second alsoListed current
  by_cases same : first = second
  · rw [same]
  · exact Rule.sweep_dateField_comm (named first listed) (named second alsoListed) same true true
      current

end Table

open Table

/-- Rules for names may be permuted, those of the standard table among them. -/
theorem date_rules_in_any_order :
    (∀ names order : List Text, (∀ name ∈ names, Named name) → names.Perm order →
      ∀ text, (ofDateFields names).apply text = (ofDateFields order).apply text) ∧
    ∀ order : List String, order.Perm dateFields →
      ∀ text, (wordRules ++ ofDateFields (order.map String.toList)).apply text =
        standard.apply text := by
  constructor
  · intro names order named reordered text
    exact ofDateFields_perm named reordered text
  · intro order reordered text
    have listed : (dateFields.map String.toList).Perm (order.map String.toList) :=
      (reordered.map String.toList).symm
    rw [standard, apply_append, apply_append, ofDateFields_perm dateFields_named listed]

/-- Names that end in one another, one of them twice, and declarations that touch. -/
theorem tail_names_in_any_order :
    (∀ name ∈ ["date".toList, [], "update".toList, []], Named name) ∧
      ["date".toList, [], "update".toList, []].Perm [[], "update".toList, [], "date".toList] ∧
      (ofDateFields ["date".toList, [], "update".toList, []]).apply
          "update: string;date: string;: string;: string;".toList =
        (ofDateFields [[], "update".toList, [], "date".toList]).apply
          "update: string;date: string;: string;: string;".toList ∧
      dateFields.reverse.Perm dateFields ∧
      (wordRules ++ ofDateFields (dateFields.reverse.map String.toList)).apply
          "soldTime: string;date: string;".toList =
        standard.apply "soldTime: string;date: string;".toList := by
  have named : ∀ name ∈ ["date".toList, [], "update".toList, []], Named name := by
    decide +kernel
  have reordered : ["date".toList, [], "update".toList, []].Perm
      [[], "update".toList, [], "date".toList] := by
    decide
  have reversed : dateFields.reverse.Perm dateFields := List.reverse_perm dateFields
  exact ⟨named, reordered, date_rules_in_any_order.1 _ _ named reordered _, reversed,
    date_rules_in_any_order.2 _ reversed _⟩

end TypePolish
