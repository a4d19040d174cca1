import TypePolish.Proofs.Polish.Progress
import TypePolish.Proofs.Rule.Separator

/-!
The standard table works line by line, and the line of provenance is a line like any other, in which
nothing is to be replaced. So a polished text begins with that line, and the content below it is
what the table makes of the content alone.
-/

namespace TypePolish

namespace Table

theorem newline_not_mem_target : ∀ rule ∈ standard, '\n' ∉ rule.target := by
  decide

theorem standard_append_newline (before after : Text) :
    standard.apply (before ++ '\n' :: after) =
      standard.apply before ++ '\n' :: standard.apply after :=
  apply_append_separator newline_not_mem_target rfl before after

theorem provenance_is_spared : ∃ line, provenanceLine = line ++ ['\n'] ∧
    ∀ rule ∈ standard, ¬ rule.target <:+: line := by
  refine ⟨provenanceLine.dropLast, ?_, ?_⟩
  · decide
  · decide +kernel

theorem standard_provenance_append (content : Text) :
    standard.apply (provenanceLine ++ content) = provenanceLine ++ standard.apply content := by
  obtain ⟨line, ending, spared⟩ := provenance_is_spared
  calc
    standard.apply (provenanceLine ++ content)
    _ = standard.apply (line ++ '\n' :: content) := by
          rw [ending, List.append_assoc, List.singleton_append]
    _ = line ++ '\n' :: standard.apply content := by
          rw [standard_append_newline, apply_of_not_infix spared]
    _ = provenanceLine ++ standard.apply content := by
          rw [ending, List.append_assoc, List.singleton_append]

end Table

theorem polishes_standard_iff (content result : Text) :
    Polishes .standard content result ↔
      result = provenanceLine ++ Table.standard.apply content := by
  rw [polishes_iff, Table.standard_provenance_append]

/-- Polishing puts the line of provenance in front and treats each line of the content on its own,
as if there were no other line in the text. -/
theorem polishes_line_by_line (content : Text) :
    Polishes .standard content (provenanceLine ++
        ['\n'].intercalate ((content.splitOn '\n').map Table.standard.apply)) ∧
      Polishes .standard content (provenanceLine ++ Table.standard.apply content) ∧
      ∀ before after, Table.standard.apply (before ++ '\n' :: after) =
        Table.standard.apply before ++ '\n' :: Table.standard.apply after := by
  refine ⟨?_, ?_, Table.standard_append_newline⟩
  · rw [polishes_standard_iff,
      Table.apply_splitOn Table.newline_not_mem_target rfl content]
  · exact (polishes_standard_iff content _).mpr rfl

end TypePolish
