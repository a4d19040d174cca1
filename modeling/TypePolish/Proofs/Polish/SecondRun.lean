import Mathlib.Data.List.Chain
import TypePolish.Proofs.Polish.Repeated
import TypePolish.Proofs.Rule.Settled

/-!
Polishing a polished text. Where the words of the rules keep apart, the first run leaves no match
of any rule, and the second adds its line of provenance and nothing else
(`polished_text_is_settled`).
-/

namespace TypePolish

/-- The polished text of ordinary content is left alone by the table, and a second run puts one more
line in front of it. -/
theorem polished_text_is_settled {content : Text} (ordinary : Ordinary content) :
    ∃ result, Polishes .standard content result ∧
      Polishes .standard result (provenanceLine ++ result) ∧ Table.standard.Settled result := by
  have settled := Table.settled_of_ordinary ordinary
  have fixed : Table.standard.apply (provenanceLine ++ Table.standard.apply content) =
      provenanceLine ++ Table.standard.apply content := by
    rw [Table.standard_provenance_append, Table.apply_of_settled settled]
  refine ⟨provenanceLine ++ Table.standard.apply content, ?_, ?_, ?_⟩
  · exact (polishes_standard_iff content _).mpr rfl
  · rw [polishes_standard_iff, fixed]
  · exact (Table.apply_eq_self_iff Table.standard_shortens _).mp fixed

def ordinaryContent : Text :=
  "a: Services<RepoUser>;\nb: Types PaginationResultRepo<V1>;\n  date?: string;\n".toList

theorem ordinaryContent_isOrdinary : Ordinary ordinaryContent := by
  constructor
  · decide +kernel
  · decide +kernel
  · decide +kernel
  · intro char named inside
    have breaks : ordinaryContent.IsChain fun first second => first = ';' → second = '\n' := by
      decide +kernel
    have newline : char = '\n' := by
      simpa using breaks.infix inside
    rw [newline] at named
    contradiction

theorem ordinaryContent_settles :
    Ordinary ordinaryContent ∧ ∃ result, Polishes .standard ordinaryContent result ∧
      Polishes .standard result (provenanceLine ++ result) ∧ Table.standard.Settled result :=
  ⟨ordinaryContent_isOrdinary, polished_text_is_settled ordinaryContent_isOrdinary⟩

end TypePolish
