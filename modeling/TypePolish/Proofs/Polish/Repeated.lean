import TypePolish.Proofs.Polish.Lines
import TypePolish.Proofs.Rule.Occurrence

/-!
Polishing a text again and again. Each run puts one more line of provenance in front and treats the
content as if there were none, and each rule of the standard table shortens what it changes. So the
content settles after no more runs than it has characters, and from then on only the lines of
provenance grow in number (`repeated_polishing_settles`).
-/

namespace TypePolish

def polishTimes (table : Table) : (runs : Nat) → Text → Except Failure Text
  | 0, content => .ok content
  | runs + 1, content =>
      polishTimes table runs content >>= fun text => (Sink.unbounded.polish table text).1

def provenanceLines (runs : Nat) : Text :=
  (List.replicate runs provenanceLine).flatten

theorem provenanceLines_succ (runs : Nat) :
    provenanceLines (runs + 1) = provenanceLine ++ provenanceLines runs := rfl

namespace Table

theorem standard_shortens : ∀ rule ∈ standard, rule.Shortens := by
  decide

theorem standard_provenanceLines_append (runs : Nat) (content : Text) :
    standard.apply (provenanceLines runs ++ content) =
      provenanceLines runs ++ standard.apply content := by
  induction runs with
  | zero => rfl
  | succ runs ih =>
      rw [provenanceLines_succ, List.append_assoc, standard_provenance_append, ih,
        List.append_assoc]

end Table

theorem polishTimes_standard (runs : Nat) (content : Text) :
    polishTimes .standard runs content =
      .ok (provenanceLines runs ++ Table.standard.apply^[runs] content) := by
  induction runs with
  | zero => rfl
  | succ runs ih =>
      have next := ((polishes_standard_iff
        (provenanceLines runs ++ Table.standard.apply^[runs] content) _).mpr rfl).unbounded
      calc
        polishTimes .standard (runs + 1) content
        _ = (Sink.unbounded.polish .standard
              (provenanceLines runs ++ Table.standard.apply^[runs] content)).1 := by
              rw [polishTimes, ih]
              rfl
        _ = .ok (provenanceLine ++
              (provenanceLines runs ++ Table.standard.apply^[runs + 1] content)) := by
              rw [next, Table.standard_provenanceLines_append, Function.iterate_succ_apply']
        _ = .ok (provenanceLines (runs + 1) ++ Table.standard.apply^[runs + 1] content) := by
              rw [provenanceLines_succ, List.append_assoc]

theorem polishTimes_succ_of_settled {runs : Nat} {content : Text}
    (settled : Table.standard.Settled (Table.standard.apply^[runs] content)) :
    ∀ later, runs ≤ later → ∃ text, polishTimes .standard later content = .ok text ∧
      polishTimes .standard (later + 1) content = .ok (provenanceLine ++ text) := by
  intro later above
  have same : Table.standard.apply (Table.standard.apply^[runs] content) =
      Table.standard.apply^[runs] content := Table.apply_of_settled settled
  have still : Table.standard.apply^[later] content = Table.standard.apply^[runs] content := by
    obtain ⟨more, rfl⟩ := Nat.exists_eq_add_of_le' above
    rw [Function.iterate_add_apply]
    exact Function.iterate_fixed same more
  refine ⟨provenanceLines later ++ Table.standard.apply^[runs] content, ?_, ?_⟩
  · rw [polishTimes_standard, still]
  · rw [polishTimes_standard, Function.iterate_succ_apply', still, same, provenanceLines_succ,
      List.append_assoc]

/-- After any number of runs the text is that many lines of provenance and the content to which the
table was applied as often. A rule changes a text exactly if it matches there, and makes it shorter;
so the content settles, and every later run adds its line and nothing else. -/
theorem repeated_polishing_settles (content : Text) :
    (∀ runs, polishTimes .standard runs content =
      .ok ((List.replicate runs provenanceLine).flatten ++ Table.standard.apply^[runs] content)) ∧
    (∀ rule ∈ Table.standard, ∀ text : Text,
      (rule.apply text = text ↔ ¬ rule.Occurs text) ∧
      (rule.apply text = text ∨ (rule.apply text).length < text.length)) ∧
    (∀ text, Table.standard.apply text = text ↔ Table.standard.Settled text) ∧
    ∃ runs ≤ content.length, Table.standard.Settled (Table.standard.apply^[runs] content) ∧
      ∀ later, runs ≤ later → ∃ text, polishTimes .standard later content = .ok text ∧
        polishTimes .standard (later + 1) content = .ok (provenanceLine ++ text) := by
  refine ⟨?_, ?_, ?_, ?_⟩
  · intro runs
    exact polishTimes_standard runs content
  · intro rule listed text
    have shortens : rule.Shortens := Table.standard_shortens rule listed
    refine ⟨Rule.apply_eq_self_iff shortens text, ?_⟩
    by_cases occurs : rule.Occurs text
    · exact .inr (Rule.length_apply_lt shortens occurs)
    · exact .inl (Rule.apply_of_not_occurs occurs)
  · exact Table.apply_eq_self_iff Table.standard_shortens
  · obtain ⟨runs, bound, settled⟩ := Table.exists_settled Table.standard_shortens content
    exact ⟨runs, bound, settled, polishTimes_succ_of_settled settled⟩

end TypePolish
