import TypePolish.Proofs.Rule.Separator
import TypePolish.Rule.Table

/-!
The rules for words, piece by piece. The target of such a rule is a space and a word without spaces,
so what it does after a space is decided before the next one. A strip takes the word from the front
of a piece; the rename glues a piece to what stands before it, and what is glued begins with a
letter that no stripped word holds. So the four rules together are one pass over the pieces
(`spacedRules_apply`).
-/

namespace TypePolish

def dropWord (word text : Text) : Text :=
  (word.isPrefixOf? text).getD text

theorem dropWord_append_self (word rest : Text) : dropWord word (word ++ rest) = rest := by
  rw [dropWord, isPrefixOf?_append_self]
  rfl

theorem dropWord_eq_self {word text : Text} (absent : ¬ word <+: text) :
    dropWord word text = text := by
  rw [dropWord, isPrefixOf?_eq_none absent]
  rfl

theorem dropWord_append {word before after : Text} (stops : ∀ char ∈ after.head?, char ∉ word) :
    dropWord word (before ++ after) = dropWord word before ++ after := by
  by_cases begins : word <+: before
  · obtain ⟨rest, rfl⟩ := begins
    rw [List.append_assoc, dropWord_append_self, dropWord_append_self]
  · have absent : ¬ word <+: before ++ after := by
      rwa [prefix_append_iff stops]
    rw [dropWord_eq_self begins, dropWord_eq_self absent]

theorem dropWord_suffix (word text : Text) : dropWord word text <:+ text := by
  by_cases begins : word <+: text
  · obtain ⟨rest, rfl⟩ := begins
    rw [dropWord_append_self]
    exact List.suffix_append word rest
  · exact ⟨[], dropWord_eq_self begins⟩

def repository : Text := ['R', 'e', 'p', 'o']

def services : Text := ['S', 'e', 'r', 'v', 'i', 'c', 'e', 's']

def version : Text := ['V', '1']

def pagination : Text := "PaginationResult".toList

def paginationRepository : Text := "PaginationResultRepo".toList

def plainWord (word : Text) : Text :=
  dropWord version (dropWord services (dropWord repository word))

theorem plainWord_suffix (word : Text) : plainWord word <:+ word :=
  (dropWord_suffix version _).trans ((dropWord_suffix services _).trans
    (dropWord_suffix repository word))

theorem mem_of_mem_plainWord {word : Text} {char : Char} (member : char ∈ plainWord word) :
    char ∈ word :=
  (plainWord_suffix word).subset member

/-- What the rules for words make of a piece and of the space before it. -/
def polishedPiece (piece : Text) : Text :=
  match paginationRepository.isPrefixOf? piece with
  | some rest => pagination ++ rest
  | none => ' ' :: plainWord piece

theorem polishedPiece_pagination (rest : Text) :
    polishedPiece (paginationRepository ++ rest) = pagination ++ rest := by
  rw [polishedPiece, isPrefixOf?_append_self]

theorem polishedPiece_eq_spaced {piece : Text} (absent : ¬ paginationRepository <+: piece) :
    polishedPiece piece = ' ' :: plainWord piece := by
  rw [polishedPiece, isPrefixOf?_eq_none absent]

/-- A piece is polished before the first character that the words in front of it lack. -/
theorem polishedPiece_append {stop : Char}
    (free : ∀ word ∈ [paginationRepository, repository, services, version], stop ∉ word)
    (before after : Text) :
    polishedPiece (before ++ stop :: after) = polishedPiece before ++ stop :: after := by
  have stops : ∀ word ∈ [paginationRepository, repository, services, version],
      ∀ char ∈ (stop :: after).head?, char ∉ word := by
    rintro word listed char ⟨⟩
    exact free word listed
  simp only [List.forall_mem_cons] at stops
  by_cases begins : paginationRepository <+: before
  · obtain ⟨rest, rfl⟩ := begins
    rw [List.append_assoc, polishedPiece_pagination, polishedPiece_pagination, List.append_assoc]
  · have absent : ¬ paginationRepository <+: before ++ stop :: after := by
      rwa [prefix_append_iff stops.1]
    rw [polishedPiece_eq_spaced begins, polishedPiece_eq_spaced absent, plainWord,
      dropWord_append stops.2.1, dropWord_append stops.2.2.1, dropWord_append stops.2.2.2.1]
    rfl

/-- What the rules keep of a piece stood at its end, and what they put in front is a space or the
name of the pagination type. -/
theorem exists_polishedPiece (piece : Text) :
    ∃ front kept, polishedPiece piece = front ++ kept ∧ kept <:+ piece ∧
      (front = [' '] ∨ front = pagination) := by
  unfold polishedPiece
  split
  next rest found =>
    rw [(isPrefixOf?_eq_some_iff _ _ _).mp found]
    exact ⟨pagination, rest, rfl, List.suffix_append _ rest, .inr rfl⟩
  next => exact ⟨[' '], plainWord piece, rfl, plainWord_suffix piece, .inl rfl⟩

theorem mem_of_mem_polishedPiece {piece : Text} {char : Char} (absent : char ∉ ' ' :: pagination)
    (member : char ∈ polishedPiece piece) : char ∈ piece := by
  obtain ⟨front, kept, polished, suffix, fronts⟩ := exists_polishedPiece piece
  rw [polished, List.mem_append] at member
  rw [List.mem_cons, not_or] at absent
  rcases member with early | late
  · rcases fronts with rfl | rfl
    · exact absurd (List.mem_singleton.mp early) absent.1
    · exact absurd early absent.2
  · exact suffix.subset late

inductive Run
  | spaced (text : Text)
  | glued (text : Text)

namespace Run

def text : Run → Text
  | .spaced text => text
  | .glued text => text

def written : Run → Text
  | .spaced text => ' ' :: text
  | .glued text => pagination ++ text

def ofPiece (piece : Text) : Run :=
  match paginationRepository.isPrefixOf? piece with
  | some rest => .glued rest
  | none => .spaced piece

def drop (word : Text) : Run → Run
  | .spaced text => .spaced (dropWord word text)
  | .glued text => .glued text

theorem text_ofPiece_subset (piece : Text) : (ofPiece piece).text ⊆ piece := by
  unfold ofPiece
  split
  next rest found =>
    rw [(isPrefixOf?_eq_some_iff _ _ _).mp found]
    exact List.subset_append_right _ rest
  next => exact List.Subset.refl piece

theorem text_drop_subset (word : Text) (run : Run) : (run.drop word).text ⊆ run.text := by
  cases run with
  | spaced text => exact (dropWord_suffix word text).subset
  | glued text => exact List.Subset.refl text

theorem solid_ofPiece {pieces : List Text} (solid : ∀ piece ∈ pieces, ' ' ∉ piece) :
    ∀ run ∈ pieces.map ofPiece, ' ' ∉ run.text := by
  rw [List.forall_mem_map]
  intro piece listed inside
  exact solid piece listed (text_ofPiece_subset piece inside)

theorem solid_drop (word : Text) {runs : List Run} (solid : ∀ run ∈ runs, ' ' ∉ run.text) :
    ∀ run ∈ runs.map (drop word), ' ' ∉ run.text := by
  rw [List.forall_mem_map]
  intro run listed inside
  exact solid run listed (text_drop_subset word run inside)

theorem written_dropped (piece : Text) :
    ((((ofPiece piece).drop repository).drop services).drop version).written =
      polishedPiece piece := by
  unfold ofPiece polishedPiece
  split <;> rfl

theorem head_written (runs : List Run) :
    ∀ char ∈ (runs.flatMap written).head?, char = ' ' ∨ char = 'P' := by
  intro char head
  cases runs with
  | nil => contradiction
  | cons run later =>
      cases run with
      | spaced text =>
          cases head
          exact .inl rfl
      | glued text =>
          cases head
          exact .inr rfl

end Run

namespace Rule

section

variable {rule : Rule} {word : Text}

theorem apply_append_of_head (anywhere : rule.place = .anywhere) {first : Char}
    (head : rule.target.head? = some first) {before : Text} (absent : first ∉ before)
    (after : Text) : rule.apply (before ++ after) = before ++ rule.apply after := by
  rw [apply, sweep_append_of_head head absent, sweep_anywhere anywhere _ true]
  rfl

theorem apply_append_solid (anywhere : rule.place = .anywhere)
    (spaced : rule.target = ' ' :: word) {before : Text} (solid : ' ' ∉ before) (after : Text) :
    rule.apply (before ++ after) = before ++ rule.apply after := by
  have head : rule.target.head? = some ' ' := by rw [spaced, List.head?_cons]
  exact apply_append_of_head anywhere head solid after

theorem apply_space_word (anywhere : rule.place = .anywhere)
    (spaced : rule.target = ' ' :: word) (rest : Text) :
    rule.apply (' ' :: (word ++ rest)) = rule.substitute ++ rule.apply rest := by
  have taken := sweep_target (.inl anywhere : rule.Looks true) rest
  rw [spaced, sweep_anywhere anywhere false true] at taken
  exact taken

theorem apply_space (anywhere : rule.place = .anywhere)
    (spaced : rule.target = ' ' :: word) {rest : Text} (absent : ¬ word <+: rest) :
    rule.apply (' ' :: rest) = ' ' :: rule.apply rest := by
  have missed : ¬ rule.target <+: ' ' :: rest := by
    rw [spaced, List.cons_prefix_cons]
    intro begins
    exact absent begins.2
  rw [apply, sweep_char fun _ => missed, sweep_anywhere anywhere _ true]
  rfl

end

def stripAfterSpace (word : Text) : Rule :=
  ⟨.anywhere, ' ' :: word, [' '], List.cons_ne_nil ' ' word⟩

def renamePagination : Rule :=
  ⟨.anywhere, ' ' :: paginationRepository, pagination, List.cons_ne_nil ' ' paginationRepository⟩

def requireFields : Rule :=
  ⟨.anywhere, ['?', ':'], [':'], List.cons_ne_nil '?' [':']⟩

theorem stripAfterSpace_apply {word piece after : Text} (solid : ' ' ∉ piece)
    (stops : ∀ char ∈ after.head?, char ∉ word) :
    (stripAfterSpace word).apply (' ' :: (piece ++ after)) =
      ' ' :: (dropWord word piece ++ (stripAfterSpace word).apply after) := by
  by_cases begins : word <+: piece
  · obtain ⟨rest, rfl⟩ := begins
    have solidRest : ' ' ∉ rest := by
      intro member
      exact solid (List.mem_append_right word member)
    rw [List.append_assoc, apply_space_word rfl rfl, apply_append_solid rfl rfl solidRest,
      dropWord_append_self]
    rfl
  · have absent : ¬ word <+: piece ++ after := by
      rwa [prefix_append_iff stops]
    rw [apply_space rfl rfl absent, apply_append_solid rfl rfl solid,
      dropWord_eq_self begins]

theorem stripAfterSpace_runs {word : Text} (wordSolid : ' ' ∉ word) (wordFree : 'P' ∉ word)
    {runs : List Run} (solid : ∀ run ∈ runs, ' ' ∉ run.text) :
    (stripAfterSpace word).apply (runs.flatMap Run.written) =
      (runs.map (Run.drop word)).flatMap Run.written := by
  induction runs with
  | nil => exact sweep_nil _ true
  | cons run later ih =>
      rw [List.forall_mem_cons] at solid
      obtain ⟨runSolid, laterSolid⟩ := solid
      have next := ih laterSolid
      rw [List.flatMap_cons, List.map_cons, List.flatMap_cons, ← next]
      cases run with
      | spaced text =>
          apply stripAfterSpace_apply runSolid
          intro char head
          rcases Run.head_written later char head with rfl | rfl
          · exact wordSolid
          · exact wordFree
      | glued text =>
          have gluedSolid : ' ' ∉ pagination ++ text := by
            rw [List.mem_append, not_or]
            exact ⟨by decide, runSolid⟩
          exact apply_append_solid rfl rfl gluedSolid _

theorem renamePagination_pieces {pieces : List Text} (solid : ∀ piece ∈ pieces, ' ' ∉ piece) :
    renamePagination.apply (pieces.flatMap (' ' :: ·)) =
      (pieces.map Run.ofPiece).flatMap Run.written := by
  induction pieces with
  | nil => exact sweep_nil _ true
  | cons piece later ih =>
      rw [List.forall_mem_cons] at solid
      obtain ⟨pieceSolid, laterSolid⟩ := solid
      have next := ih laterSolid
      rw [List.flatMap_cons, List.map_cons, List.flatMap_cons, ← next]
      unfold Run.ofPiece
      split
      next rest found =>
        obtain rfl := (isPrefixOf?_eq_some_iff _ _ _).mp found
        have restSolid : ' ' ∉ rest := by
          intro member
          exact pieceSolid (List.mem_append_right _ member)
        rw [List.cons_append, List.append_assoc, apply_space_word rfl rfl,
          apply_append_solid rfl rfl restSolid, Run.written, List.append_assoc]
        rfl
      next missed =>
        have absent : ¬ paginationRepository <+: piece ++ later.flatMap (' ' :: ·) := by
          have stops : ∀ char ∈ (later.flatMap (' ' :: ·)).head?, char ∉ paginationRepository := by
            intro char head
            cases later with
            | nil => contradiction
            | cons other more =>
                cases head
                decide
          rw [prefix_append_iff stops]
          rintro ⟨rest, whole⟩
          rw [(isPrefixOf?_eq_some_iff _ _ rest).mpr whole.symm] at missed
          contradiction
        rw [List.cons_append, apply_space rfl rfl absent,
          apply_append_solid rfl rfl pieceSolid]
        rfl

theorem requireFields_unmarked {text : Text} (unmarked : '?' ∉ text) :
    requireFields.apply text = text := by
  apply sweep_of_not_infix
  intro inside
  exact unmarked (inside.subset (by decide))

theorem requireFields_append {before : Text} (unmarked : '?' ∉ before) (after : Text) :
    requireFields.apply (before ++ after) = before ++ requireFields.apply after :=
  apply_append_of_head rfl rfl unmarked after

theorem requireFields_mark {before : Text} (unmarked : '?' ∉ before) (after : Text) :
    requireFields.apply (before ++ '?' :: ':' :: after) =
      before ++ ':' :: requireFields.apply after := by
  have taken := sweep_target (.inl rfl : requireFields.Looks true) after
  rw [sweep_anywhere rfl false true] at taken
  rw [requireFields_append unmarked]
  exact congrArg (before ++ ·) taken

end Rule

theorem wordRules_eq : Table.wordRules =
    [Rule.renamePagination, .stripAfterSpace repository, .stripAfterSpace services,
      .stripAfterSpace version, .requireFields] := rfl

/-- The rename and the strips are one pass over the pieces between the spaces. -/
theorem spacedRules_apply {first : Text} {pieces : List Text} (firstSolid : ' ' ∉ first)
    (solid : ∀ piece ∈ pieces, ' ' ∉ piece) :
    Table.apply (Table.wordRules.take 4) (first ++ pieces.flatMap (' ' :: ·)) =
      first ++ pieces.flatMap polishedPiece := by
  have renamed := Run.solid_ofPiece solid
  rw [wordRules_eq]
  simp only [List.take_succ_cons, List.take_zero, Table.apply_cons, Table.apply_nil]
  rw [Rule.apply_append_solid rfl rfl firstSolid,
    Rule.renamePagination_pieces solid,
    Rule.apply_append_solid rfl rfl firstSolid,
    Rule.stripAfterSpace_runs (by decide) (by decide) renamed,
    Rule.apply_append_solid rfl rfl firstSolid,
    Rule.stripAfterSpace_runs (by decide) (by decide) (Run.solid_drop repository renamed),
    Rule.apply_append_solid rfl rfl firstSolid,
    Rule.stripAfterSpace_runs (by decide) (by decide)
      (Run.solid_drop services (Run.solid_drop repository renamed))]
  simp only [List.map_map, List.flatMap_map]
  congr 2
  funext piece
  exact Run.written_dropped piece

theorem wordRules_apply {first : Text} {pieces : List Text} (firstSolid : ' ' ∉ first)
    (solid : ∀ piece ∈ pieces, ' ' ∉ piece) :
    Table.wordRules.apply (first ++ pieces.flatMap (' ' :: ·)) =
      Rule.requireFields.apply (first ++ pieces.flatMap polishedPiece) := by
  have last : Table.wordRules = Table.wordRules.take 4 ++ [Rule.requireFields] := rfl
  rw [last, Table.apply_append, spacedRules_apply firstSolid solid]
  rfl

end TypePolish
