import TypePolish.Proofs.Rule.Words

/-!
The pieces between the spaces of a text. They are what the text is split into at its spaces, so they
are determined by it (`splitOn_pieces`), and the rename and the strips of the standard table are one
pass over them (`spacedRules_piece_by_piece`).
-/

namespace TypePolish

theorem exists_pieces (text : Text) :
    ∃ (first : Text) (pieces : List Text), ' ' ∉ first ∧ (∀ piece ∈ pieces, ' ' ∉ piece) ∧
      text = first ++ pieces.flatMap (' ' :: ·) := by
  induction text with
  | nil => exact ⟨[], [], List.not_mem_nil, List.forall_mem_nil _, rfl⟩
  | cons char later ih =>
      obtain ⟨first, pieces, firstSolid, solid, rfl⟩ := ih
      by_cases space : char = ' '
      · subst space
        exact ⟨[], first :: pieces, List.not_mem_nil, List.forall_mem_cons.mpr ⟨firstSolid, solid⟩,
          rfl⟩
      · have charSolid : ' ' ∉ char :: first := by
          rw [List.mem_cons, not_or]
          exact ⟨Ne.symm space, firstSolid⟩
        exact ⟨char :: first, pieces, charSolid, solid, rfl⟩

section

variable {first : Text} {pieces : List Text}

theorem append_pieces_eq_intercalate (first : Text) (pieces : List Text) :
    first ++ pieces.flatMap (' ' :: ·) = [' '].intercalate (first :: pieces) := by
  induction pieces generalizing first with
  | nil => simp
  | cons piece later ih =>
      rw [List.intercalate_cons_cons, ← ih piece]
      simp

theorem splitOn_pieces (firstSolid : ' ' ∉ first) (solid : ∀ piece ∈ pieces, ' ' ∉ piece) :
    (first ++ pieces.flatMap (' ' :: ·)).splitOn ' ' = first :: pieces := by
  rw [append_pieces_eq_intercalate]
  apply List.splitOn_intercalate
  · exact List.forall_mem_cons.mpr ⟨firstSolid, solid⟩
  · exact List.cons_ne_nil first pieces

theorem pieces_inj {other : List Text} (solid : ∀ piece ∈ pieces, ' ' ∉ piece)
    (otherSolid : ∀ piece ∈ other, ' ' ∉ piece) (firstSolid : ' ' ∉ first) :
    first ++ pieces.flatMap (' ' :: ·) = first ++ other.flatMap (' ' :: ·) ↔ pieces = other := by
  constructor
  · intro same
    have split := congrArg (List.splitOn ' ') same
    rw [splitOn_pieces firstSolid solid, splitOn_pieces firstSolid otherSolid] at split
    exact (List.cons.inj split).2
  · intro same
    rw [same]

theorem head_pieces (pieces : List Text) :
    ∀ char ∈ (pieces.flatMap (' ' :: ·)).head?, char = ' ' := by
  intro char head
  cases pieces with
  | nil => contradiction
  | cons piece later =>
      cases head
      rfl

/-- A word is found behind a space where a piece begins with it. -/
theorem spaced_infix_iff {word : Text} (wordSolid : ' ' ∉ word) (firstSolid : ' ' ∉ first)
    (solid : ∀ piece ∈ pieces, ' ' ∉ piece) :
    ' ' :: word <:+: first ++ pieces.flatMap (' ' :: ·) ↔ ∃ piece ∈ pieces, word <+: piece := by
  constructor
  · intro inside
    have behind := infix_of_infix_append rfl firstSolid inside
    clear inside
    induction pieces with
    | nil => simp at behind
    | cons piece later ih =>
        rw [List.forall_mem_cons] at solid
        rw [List.flatMap_cons, List.cons_append, List.infix_cons_iff,
          List.cons_prefix_cons] at behind
        rcases behind with ⟨_, begins⟩ | further
        · have stops : ∀ char ∈ (later.flatMap (' ' :: ·)).head?, char ∉ word := by
            intro char head
            rwa [head_pieces later char head]
          exact ⟨piece, List.mem_cons_self, (prefix_append_iff stops).mp begins⟩
        · obtain ⟨next, listed, begins⟩ := ih solid.2 (infix_of_infix_append rfl solid.1 further)
          exact ⟨next, List.mem_cons_of_mem piece listed, begins⟩
  · rintro ⟨piece, listed, begins⟩
    have spaced : ' ' :: word <+: ' ' :: piece := List.cons_prefix_cons.mpr ⟨rfl, begins⟩
    have among : ' ' :: piece <:+: pieces.flatMap (' ' :: ·) :=
      List.infix_of_mem_flatten (List.mem_map_of_mem listed)
    exact (spaced.isInfix.trans among).trans (List.suffix_append first _).isInfix

end

/-- The first four rules of the table treat each piece behind a space on its own. -/
theorem spacedRules_piece_by_piece (text : Text) :
    ∃ first pieces, text.splitOn ' ' = first :: pieces ∧
      Table.apply (Table.standard.take 4) text = first ++ pieces.flatMap polishedPiece := by
  obtain ⟨first, pieces, firstSolid, solid, rfl⟩ := exists_pieces text
  exact ⟨first, pieces, splitOn_pieces firstSolid solid, spacedRules_apply firstSolid solid⟩

example : Table.apply (Table.standard.take 4)
      "a: RepoServicesV1Item; b: Types PaginationResultRepo<V1>;".toList =
    "a: Item; b: TypesPaginationResult<V1>;".toList := by
  decide +kernel

end TypePolish
