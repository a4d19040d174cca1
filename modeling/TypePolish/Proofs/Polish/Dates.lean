import TypePolish.Proofs.Polish.Lines
import TypePolish.Proofs.Rule.Declared

/-!
The date fields of a polished text. A field of the standard table that is declared a string where a
name may begin becomes a date, with one exception: of declarations of the same field that stand back
to back, every other one stays, because the pass has used up the semicolon before it.
-/

namespace TypePolish

open Rule

/-- A line of provenance, or any other without a semicolon, declares nothing. -/
theorem declaresString_below_line {name line : Text} (nameLine : '\n' ∉ name) (clean : ';' ∉ line)
    (text : Text) : DeclaresString name (line ++ '\n' :: text) ↔ DeclaresString name text := by
  have oneLine : '\n' ∉ name ++ stringDeclaration := by
    rw [List.mem_append, not_or]
    exact ⟨nameLine, by decide⟩
  have semicolon (before : Text) : ';' ∈ before ++ (name ++ stringDeclaration) := by
    simp [stringDeclaration]
  rw [declaresString_iff, declaresString_iff]
  constructor
  · rintro ⟨before, after, whole, opens, _⟩
    rcases List.append_eq_append_iff.mp whole.symm with ⟨between, early, _⟩ | ⟨between, late, rest⟩
    · exact absurd (early ▸ List.mem_append_left between (semicolon before)) clean
    · cases between with
      | nil =>
          rw [List.append_nil] at late
          exact absurd (late ▸ semicolon before) clean
      | cons char more =>
          obtain ⟨rfl, below⟩ := List.cons.inj rest
          obtain ⟨start, rfl, rfl⟩ := append_eq_append_stop oneLine late
          rw [opensAfter_append] at opens
          exact ⟨start, after, below, opens, trivial⟩
  · rintro ⟨before, after, rfl, opens, _⟩
    refine ⟨line ++ '\n' :: before, after, ?_, ?_, trivial⟩
    · simp
    · rw [opensAfter_append]
      exact opens

namespace Table

theorem provenance_has_no_clause : ∃ line, provenanceLine = line ++ ['\n'] ∧ ';' ∉ line :=
  ⟨provenanceLine.dropLast, by decide, by decide⟩

end Table

/-- A date field is still declared a string in the polished text exactly if the rules for words
leave two such declarations back to back. -/
theorem declaresString_polished_iff {name : String} (listed : name ∈ Table.dateFields)
    {content result : Text} (polishes : Polishes .standard content result) :
    DeclaresString name.toList result ↔
      DeclaresTwice name.toList (Table.wordRules.apply content) := by
  obtain ⟨line, ending, clean⟩ := Table.provenance_has_no_clause
  have member : name.toList ∈ Table.dateFields.map String.toList := List.mem_map_of_mem listed
  have named : Named name.toList := Table.dateFields_named _ member
  have made : result = line ++ '\n' :: Table.standard.apply content := by
    rw [(polishes_standard_iff content result).mp polishes, ending, List.append_assoc,
      List.singleton_append]
  rw [made, declaresString_below_line (named.not_mem rfl) clean, Table.standard,
    Table.apply_append]
  exact declares_ofDateFields_iff Table.dateFields_named Table.dateFields_nodup member _

theorem polishes_adjacent : Polishes .standard "date: string;date: string;".toList
    (provenanceLine ++ "date: Date;date: string;".toList) := by
  rw [polishes_standard_iff]
  decide +kernel

theorem declaresString_polished_adjacent :
    "date" ∈ Table.dateFields ∧
      Polishes .standard "date: string;date: string;".toList
        (provenanceLine ++ "date: Date;date: string;".toList) ∧
      (DeclaresString "date".toList (provenanceLine ++ "date: Date;date: string;".toList) ↔
        DeclaresTwice "date".toList
          (Table.wordRules.apply "date: string;date: string;".toList)) :=
  ⟨by decide, polishes_adjacent, declaresString_polished_iff (by decide) polishes_adjacent⟩

/-- Of two declarations back to back the second stays. -/
theorem adjacent_declaration_stays :
    Polishes .standard "date: string;date: string;".toList
        (provenanceLine ++ "date: Date;date: string;".toList) ∧
      DeclaresString "date".toList (provenanceLine ++ "date: Date;date: string;".toList) := by
  refine ⟨polishes_adjacent, provenanceLine ++ "date: Date;".toList, [], ?_, ?_⟩
  · decide
  · intro char last
    have semicolon : char = ';' := by
      rw [List.getLast?_append] at last
      simpa using last.symm
    rw [semicolon]
    rfl

end TypePolish
