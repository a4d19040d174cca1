import TypePolish.Proofs.Interface.Written
import TypePolish.Proofs.Polish.Dates

/-!
Polishing a generated file is polishing its declarations (`polishes_interfaces`). The table works
line by line. In a line the rules for words see the pieces between the spaces, and the line of a
field is one clause, which the rules for dates change if it ends in one of their declarations.
-/

namespace TypePolish

open Rule

theorem Named.plainWord {name : Text} (named : Named name) : Named (plainWord name) :=
  fun char member => named char (mem_of_mem_plainWord member)

theorem not_mem_header {char : Char} {name : Text} (bare : char ∉ header [])
    (absent : char ∉ name) : char ∉ header name := by
  simp only [header, List.mem_append, List.mem_cons, not_or] at bare ⊢
  exact ⟨⟨bare.1.1, bare.1.2.1, absent⟩, bare.2⟩

/-- The last word of such a clause is the type, and the name with its colon stands before. -/
theorem Rule.EndsDeclared.last_word {opened : Bool} {name start word : Text} (solid : ' ' ∉ word)
    (declared : EndsDeclared opened name (start ++ ' ' :: word)) :
    word = stringWord ∧ ∃ before, start = before ++ name ++ [':'] ∧
      opensAfter opened before = true := by
  obtain ⟨before, same, opens⟩ := declared
  have ending : before ++ (name ++ stringType) =
      (before ++ name ++ [':']) ++ ' ' :: stringWord := by
    simp [stringType, stringWord]
  rw [ending] at same
  obtain ⟨starts, words⟩ := append_stop_inj solid (by decide) same
  exact ⟨words, before, starts, opens⟩

namespace Field

variable (field : Field)

def pieces : List Text :=
  [[], field.name.text ++ (field.mark ++ [':']), field.type.text ++ [';']]

theorem line_pieces : field.line = [] ++ field.pieces.flatMap (' ' :: ·) := by
  simp [line, pieces]

theorem space_not_mem_pieces : ∀ piece ∈ field.pieces, ' ' ∉ piece := by
  have nameSolid : ' ' ∉ field.name.text := field.name.named.not_mem rfl
  have typeSolid : ' ' ∉ field.type.text := field.type.space_not_mem
  have markSolid : ' ' ∉ field.mark := by
    unfold mark
    split <;> decide
  simp [pieces, nameSolid, typeSolid, markSolid]

def clause : Text :=
  [' ', ' '] ++ plainWord field.name.text ++ ':' :: polishedPiece field.type.text

theorem polished_pieces : field.pieces.flatMap polishedPiece =
    [' ', ' '] ++ plainWord field.name.text ++
      (field.mark ++ ':' :: (polishedPiece field.type.text ++ [';'])) := by
  have gap : polishedPiece [] = [' '] := by decide
  have namePiece : polishedPiece (field.name.text ++ (field.mark ++ [':'])) =
      ' ' :: plainWord field.name.text ++ (field.mark ++ [':']) := by
    rw [← polishedPiece_eq_spaced field.name.not_pagination]
    unfold mark
    split
    · exact polishedPiece_append (by decide) _ [':']
    · exact polishedPiece_append (by decide) _ []
  have typePiece : polishedPiece (field.type.text ++ [';']) =
      polishedPiece field.type.text ++ [';'] :=
    polishedPiece_append (by decide) _ []
  simp [pieces, gap, namePiece, typePiece]

theorem wordRules_line : Table.wordRules.apply field.line = field.clause ++ [';'] := by
  have named : Named (plainWord field.name.text) := field.name.named.plainWord
  have nameUnmarked : '?' ∉ [' ', ' '] ++ plainWord field.name.text := by
    rw [List.mem_append, not_or]
    exact ⟨by decide, named.not_mem rfl⟩
  have typeUnmarked : '?' ∉ polishedPiece field.type.text ++ [';'] := by
    rw [List.mem_append, not_or]
    constructor
    · intro member
      exact field.type.mark_not_mem (mem_of_mem_polishedPiece (by decide) member)
    · decide
  rw [line_pieces, wordRules_apply List.not_mem_nil field.space_not_mem_pieces, List.nil_append,
    polished_pieces]
  unfold mark
  split
  · have required := requireFields_mark nameUnmarked (polishedPiece field.type.text ++ [';'])
    rw [requireFields_unmarked typeUnmarked] at required
    simpa [clause] using required
  · have unmarked : '?' ∉ [' ', ' '] ++ plainWord field.name.text ++
        ([] ++ ':' :: (polishedPiece field.type.text ++ [';'])) := by
      rw [List.mem_append, List.nil_append, List.mem_cons, not_or, not_or]
      exact ⟨nameUnmarked, by decide, typeUnmarked⟩
    rw [requireFields_unmarked unmarked]
    simp [clause]

theorem polishedType_eq : field.polishedType =
    if plainWord field.name.text ∈ Table.dateFields.map String.toList ∧
        polishedPiece field.type.text = ' ' :: stringWord then
      dateType
    else
      ':' :: polishedPiece field.type.text := by
  by_cases begins : paginationRepository <+: field.type.text
  · obtain ⟨rest, whole⟩ := begins
    have found : paginationRepository.isPrefixOf? field.type.text = some rest :=
      (isPrefixOf?_eq_some_iff _ _ _).mpr whole.symm
    have glued : polishedPiece field.type.text = pagination ++ rest := by
      rw [polishedPiece, found]
    have notString : pagination ++ rest ≠ ' ' :: stringWord := by
      intro same
      have heads : some 'P' = some ' ' := congrArg List.head? same
      exact absurd heads (by decide)
    rw [glued, if_neg fun both => notString both.2, polishedType, found]
  · have spaced : polishedPiece field.type.text = ' ' :: plainWord field.type.text :=
      polishedPiece_eq_spaced begins
    rw [polishedType, isPrefixOf?_eq_none begins, spaced]
    simp only [List.cons.injEq, true_and, and_comm]
    rfl

theorem stop_not_mem_clause : ';' ∉ field.clause := by
  have named : Named (plainWord field.name.text) := field.name.named.plainWord
  have typeClean : ';' ∉ polishedPiece field.type.text := by
    intro member
    exact field.type.stop_not_mem (mem_of_mem_polishedPiece (by decide) member)
  simp only [clause, List.mem_append, List.mem_cons, not_or]
  exact ⟨⟨by decide, named.not_mem rfl⟩, by decide, typeClean⟩

theorem not_endsDeclared_pagination {rest : Text}
    (whole : field.type.text = paginationRepository ++ rest) (name : Text) :
    ¬ EndsDeclared true name field.clause := by
  have named : Named (plainWord field.name.text) := field.name.named.plainWord
  have restSolid : ' ' ∉ rest := by
    intro member
    exact field.type.space_not_mem (whole ▸ List.mem_append_right _ member)
  have solid : ' ' ∉ plainWord field.name.text ++ ':' :: (pagination ++ rest) := by
    simp only [List.mem_append, List.mem_cons, not_or]
    exact ⟨named.not_mem rfl, by decide, by decide, restSolid⟩
  have glued : field.clause =
      [' '] ++ ' ' :: (plainWord field.name.text ++ ':' :: (pagination ++ rest)) := by
    simp [clause, whole, polishedPiece_pagination]
  rw [glued]
  intro declared
  have colon : ':' ∈ stringWord := by
    rw [← (declared.last_word solid).1]
    simp
  exact absurd colon (by decide)

theorem endsDeclared_clause_iff {name : Text} (named : Named name) :
    EndsDeclared true name field.clause ↔
      plainWord field.name.text = name ∧ polishedPiece field.type.text = ' ' :: stringWord := by
  have nameNamed : Named (plainWord field.name.text) := field.name.named.plainWord
  constructor
  · intro declared
    by_cases begins : paginationRepository <+: field.type.text
    · obtain ⟨rest, whole⟩ := begins
      exact absurd declared (field.not_endsDeclared_pagination whole.symm name)
    · have spaced : field.clause = ([' ', ' '] ++ plainWord field.name.text ++ [':']) ++
          ' ' :: plainWord field.type.text := by
        simp [clause, polishedPiece_eq_spaced begins]
      have solid : ' ' ∉ plainWord field.type.text := by
        intro member
        exact field.type.space_not_mem (mem_of_mem_plainWord member)
      rw [spaced] at declared
      obtain ⟨isString, before, names, opens⟩ := declared.last_word solid
      rw [List.append_left_inj] at names
      have indented : opensAfter true [' ', ' '] = true := rfl
      constructor
      · exact (append_name_inj indented opens nameNamed named names).2
      · rw [polishedPiece_eq_spaced begins, isString]
  · rintro ⟨rfl, isString⟩
    refine ⟨[' ', ' '], ?_, rfl⟩
    simp [clause, isString, stringType, stringWord]

end Field

namespace Table

theorem wordRules_header (name : DeclaredName) :
    wordRules.apply (header name.text) = header (plainWord name.text) := by
  have solid : ∀ piece ∈ [interfaceWord, name.text, ['{']], ' ' ∉ piece := by
    rw [List.forall_mem_cons, List.forall_mem_cons]
    exact ⟨by decide, name.named.not_mem rfl, by decide⟩
  have opening : polishedPiece interfaceWord = ' ' :: interfaceWord := by decide
  have brace : polishedPiece ['{'] = [' ', '{'] := by decide
  have pieces : header name.text =
      exportWord ++ [interfaceWord, name.text, ['{']].flatMap (' ' :: ·) := by
    simp [header]
  have polished : exportWord ++ [interfaceWord, name.text, ['{']].flatMap polishedPiece =
      header (plainWord name.text) := by
    simp [header, opening, brace, polishedPiece_eq_spaced name.not_pagination]
  rw [pieces, wordRules_apply (by decide) solid, polished]
  exact requireFields_unmarked (not_mem_header (by decide) (name.named.plainWord.not_mem rfl))

theorem standard_header (name : DeclaredName) :
    standard.apply (header name.text) = header (plainWord name.text) := by
  rw [standard, apply_append, wordRules_header]
  exact ofDateFields_last_clause _
    (not_mem_header (by decide) (name.named.plainWord.not_mem rfl))

theorem standard_line (field : Field) : standard.apply field.line = field.polishedLine := by
  rw [standard, apply_append, field.wordRules_line]
  by_cases declared : plainWord field.name.text ∈ dateFields.map String.toList ∧
      polishedPiece field.type.text = ' ' :: stringWord
  · obtain ⟨listed, isString⟩ := declared
    have opens : opensAfter true [' ', ' '] = true := rfl
    have dated := ofDateFields_declared dateFields_named listed (by decide) opens
    have clause : field.clause =
        [' ', ' '] ++ (plainWord field.name.text ++ stringType) := by
      simp [Field.clause, isString, stringType, stringWord]
    rw [clause, dated, Field.polishedLine, field.polishedType_eq, if_pos ⟨listed, isString⟩]
    simp
  · have missed : ∀ name ∈ dateFields.map String.toList, ¬ EndsDeclared true name field.clause := by
      intro name listed ends
      obtain ⟨rfl, isString⟩ :=
        (field.endsDeclared_clause_iff (dateFields_named name listed)).mp ends
      exact declared ⟨listed, isString⟩
    rw [ofDateFields_undeclared dateFields_named field.stop_not_mem_clause missed,
      Field.polishedLine, field.polishedType_eq, if_neg declared, Field.clause]

theorem standard_unlines (lines : List Text) :
    standard.apply (unlines lines) = unlines (lines.map standard.apply) := by
  induction lines with
  | nil => decide +kernel
  | cons line later ih =>
      have first := standard_append_newline line (unlines later)
      simp only [unlines] at first ih ⊢
      simp only [List.map_cons, List.flatMap_cons, List.append_assoc, List.singleton_append, first,
        ih]

theorem standard_lines (interface : Interface) :
    interface.lines.map standard.apply = interface.polishedLines := by
  have closing : standard.apply ['}'] = ['}'] := by decide +kernel
  have fieldLines : (interface.fields.map Field.line).map standard.apply =
      interface.fields.map Field.polishedLine := by
    rw [List.map_map]
    apply List.map_congr_left
    intro field _
    rw [Function.comp_apply, standard_line]
  rw [Interface.lines, Interface.polishedLines, List.map_cons, List.map_append, standard_header,
    fieldLines, List.map_singleton, closing]

end Table

/-- Polishing a generated file is polishing its declarations, one by one. -/
theorem polishes_interfaces (interfaces : List Interface) :
    Polishes .standard (unlines (interfaces.flatMap Interface.lines))
      (provenanceLine ++ unlines (interfaces.flatMap Interface.polishedLines)) := by
  have polished : (interfaces.flatMap Interface.lines).map Table.standard.apply =
      interfaces.flatMap Interface.polishedLines :=
    List.map_flatMap.trans (congrArg interfaces.flatMap (funext Table.standard_lines))
  rw [polishes_standard_iff, Table.standard_unlines, polished]

example : unlines (Interface.polishedLines
    ⟨⟨"RepoUser".toList, by decide +kernel, by decide, by decide⟩,
      [⟨⟨"Repodate".toList, by decide +kernel, by decide, by decide⟩, true,
        ⟨"V1string".toList, by decide, by decide, by decide, by decide⟩⟩]⟩) =
      "export interface User \x7b\n  date: Date;\n\x7d\n".toList := by
  decide

end TypePolish
