import Mathlib.Algebra.Order.BigOperators.Group.List
import Mathlib.Algebra.Order.Group.Nat
import Mathlib.Data.List.Infix
import TypePolish.Proofs.Rule.Leftover

/-!
In which texts two of the first five rules may change places (`first_rules_order`). On the pieces
between the spaces a strip drops a word, so two strips differ on a piece that begins with the word
of one and then that of the other. The rename and a strip differ on a piece in which the stripped
word hides a pagination type: if the strip comes first, that piece gets shorter, and all others come
out the same. The rule for optional fields touches nothing that the others look for.
-/

namespace TypePolish

def Apart (word other : Text) : Prop :=
  ∀ rest, ¬ word <+: other ++ rest

theorem apart_of_heads {word other : Text} (some : word ≠ []) (otherSome : other ≠ [])
    (differ : word.head? ≠ other.head?) : Apart word other := by
  obtain ⟨first, more, rfl⟩ := List.exists_cons_of_ne_nil some
  obtain ⟨second, later, rfl⟩ := List.exists_cons_of_ne_nil otherSome
  intro rest
  apply not_prefix_of_head rfl rfl
  rintro rfl
  exact differ rfl

section

variable {word other piece : Text}

theorem dropWord_eq_self_iff (some : word ≠ []) :
    dropWord word piece = piece ↔ ¬ word <+: piece := by
  constructor
  · rintro same ⟨rest, rfl⟩
    rw [dropWord_append_self] at same
    exact some (List.append_left_eq_self.mp same.symm)
  · exact dropWord_eq_self

theorem dropWord_comm_of_prefix (otherSome : other ≠ []) (apart : Apart other word)
    (begins : word <+: piece) :
    dropWord other (dropWord word piece) = dropWord word (dropWord other piece) ↔
      ¬ word ++ other <+: piece ∧ ¬ other ++ word <+: piece := by
  obtain ⟨rest, rfl⟩ := begins
  have neither : ¬ other ++ word <+: word ++ rest := by
    intro both
    exact apart rest ((List.prefix_append other word).trans both)
  rw [dropWord_append_self, dropWord_eq_self (apart rest), dropWord_append_self,
    dropWord_eq_self_iff otherSome, List.prefix_append_right_inj, and_iff_left neither]

theorem dropWord_comm_iff (some : word ≠ []) (otherSome : other ≠ []) (apart : Apart word other)
    (otherApart : Apart other word) (piece : Text) :
    dropWord other (dropWord word piece) = dropWord word (dropWord other piece) ↔
      ¬ word ++ other <+: piece ∧ ¬ other ++ word <+: piece := by
  by_cases begins : word <+: piece
  · exact dropWord_comm_of_prefix otherSome otherApart begins
  · by_cases otherBegins : other <+: piece
    · rw [eq_comm, dropWord_comm_of_prefix some apart otherBegins, and_comm]
    · rw [dropWord_eq_self begins, dropWord_eq_self otherBegins, dropWord_eq_self begins]
      refine iff_of_true rfl ⟨?_, ?_⟩
      · intro both
        exact begins ((List.prefix_append word other).trans both)
      · intro both
        exact otherBegins ((List.prefix_append other word).trans both)

end

theorem strippedWords_shape : ∀ word ∈ strippedWords,
    word ≠ [] ∧ ' ' ∉ word ∧ 'P' ∉ word ∧ '?' ∉ word ∧ ':' ∉ word := by
  decide

theorem strippedWords_apart : ∀ word ∈ strippedWords, ∀ other ∈ strippedWords, word ≠ other →
    Apart word other := by
  have heads : ∀ word ∈ strippedWords, ∀ other ∈ strippedWords, word ≠ other →
      word.head? ≠ other.head? := by
    decide
  intro word listed other otherListed differ
  exact apart_of_heads (strippedWords_shape word listed).1 (strippedWords_shape other otherListed).1
    (heads word listed other otherListed differ)

theorem pagination_apart {word : Text} (some : word ≠ []) (free : 'P' ∉ word) :
    Apart paginationRepository word := by
  obtain ⟨first, more, rfl⟩ := List.exists_cons_of_ne_nil some
  apply apart_of_heads (by decide) (List.cons_ne_nil first more)
  intro same
  obtain rfl : 'P' = first := Option.some.inj same
  exact free List.mem_cons_self

namespace Run

theorem ofPiece_pagination (rest : Text) :
    ofPiece (paginationRepository ++ rest) = .glued rest := by
  rw [ofPiece, isPrefixOf?_append_self]

theorem ofPiece_spaced {piece : Text} (absent : ¬ paginationRepository <+: piece) :
    ofPiece piece = .spaced piece := by
  rw [ofPiece, isPrefixOf?_eq_none absent]

section

variable {word piece : Text}

theorem ofPiece_dropWord (free : 'P' ∉ word) (some : word ≠ [])
    (absent : ¬ word ++ paginationRepository <+: piece) :
    ofPiece (dropWord word piece) = (ofPiece piece).drop word := by
  by_cases glued : paginationRepository <+: piece
  · obtain ⟨rest, rfl⟩ := glued
    have kept : ¬ word <+: paginationRepository ++ rest := not_prefix_of_separator free some
    rw [dropWord_eq_self kept, ofPiece_pagination]
    rfl
  · rw [ofPiece_spaced glued]
    apply ofPiece_spaced
    by_cases begins : word <+: piece
    · obtain ⟨rest, rfl⟩ := begins
      rwa [dropWord_append_self, ← List.prefix_append_right_inj word]
    · rwa [dropWord_eq_self begins]

theorem length_written_lt (free : 'P' ∉ word) (some : word ≠ [])
    (begins : word ++ paginationRepository <+: piece) :
    (ofPiece (dropWord word piece)).written.length < ((ofPiece piece).drop word).written.length := by
  obtain ⟨rest, rfl⟩ := begins
  have kept := pagination_apart some free (paginationRepository ++ rest)
  rw [List.append_assoc, dropWord_append_self, ofPiece_pagination, ofPiece_spaced kept, drop,
    dropWord_append_self, written, written]
  simp only [List.length_append, List.length_cons]
  have sizes : pagination.length < paginationRepository.length := by decide
  omega

end

def require : Run → Run
  | .spaced text => .spaced (Rule.requireFields.apply text)
  | .glued text => .glued (Rule.requireFields.apply text)

end Run

namespace Rule

def CommuteOn (first second : Rule) (text : Text) : Prop :=
  second.apply (first.apply text) = first.apply (second.apply text)

theorem solid_requireFields {piece : Text} (solid : ' ' ∉ piece) :
    ' ' ∉ requireFields.apply piece := by
  rw [← List.singleton_infix_iff] at solid ⊢
  intro inside
  exact solid (infix_of_infix_requireFields (by decide) inside)

theorem isPrefixOf?_requireFields {word : Text} (unmarked : '?' ∉ word) (free : ':' ∉ word)
    (piece : Text) : word.isPrefixOf? (requireFields.apply piece) =
      (word.isPrefixOf? piece).map requireFields.apply := by
  by_cases begins : word <+: piece
  · obtain ⟨rest, rfl⟩ := begins
    rw [requireFields_append unmarked, isPrefixOf?_append_self, isPrefixOf?_append_self]
    rfl
  · have absent : ¬ word <+: requireFields.apply piece := by
      intro also
      exact begins (prefix_of_prefix_requireFields free also)
    rw [isPrefixOf?_eq_none begins, isPrefixOf?_eq_none absent]
    rfl

theorem dropWord_requireFields {word : Text} (unmarked : '?' ∉ word) (free : ':' ∉ word)
    (piece : Text) :
    dropWord word (requireFields.apply piece) = requireFields.apply (dropWord word piece) := by
  rw [dropWord, dropWord, isPrefixOf?_requireFields unmarked free]
  cases word.isPrefixOf? piece <;> rfl

theorem ofPiece_requireFields (piece : Text) :
    Run.ofPiece (requireFields.apply piece) = (Run.ofPiece piece).require := by
  rw [Run.ofPiece, Run.ofPiece, isPrefixOf?_requireFields (by decide) (by decide)]
  cases paginationRepository.isPrefixOf? piece <;> rfl

theorem requireFields_runs (first : Text) (runs : List Run) :
    requireFields.apply (first ++ runs.flatMap Run.written) =
      requireFields.apply first ++ (runs.map Run.require).flatMap Run.written := by
  have stops (runs : List Run) :
      ∀ char ∈ (runs.flatMap Run.written).head?, char ∉ requireFields.target := by
    intro char head
    rcases Run.head_written runs char head with rfl | rfl
    · decide
    · decide
  rw [apply_append_stop rfl (stops runs)]
  congr 1
  induction runs with
  | nil => exact sweep_nil requireFields true
  | cons run later ih =>
      rw [List.flatMap_cons, apply_append_stop rfl (stops later), ih, List.map_cons,
        List.flatMap_cons]
      congr 1
      cases run with
      | spaced text => exact requireFields_append (by decide : '?' ∉ [' ']) text
      | glued text => exact requireFields_append (by decide : '?' ∉ pagination) text

section

variable {first word other : Text} {pieces : List Text}

theorem stripAfterSpace_pieces (listed : word ∈ strippedWords) (firstSolid : ' ' ∉ first)
    (solid : ∀ piece ∈ pieces, ' ' ∉ piece) :
    (stripAfterSpace word).apply (first ++ pieces.flatMap (' ' :: ·)) =
      first ++ (pieces.map (dropWord word)).flatMap (' ' :: ·) := by
  obtain ⟨_, wordSolid, wordFree, _⟩ := strippedWords_shape word listed
  have solidRuns : ∀ run ∈ pieces.map Run.spaced, ' ' ∉ run.text := List.forall_mem_map.mpr solid
  have stripped := stripAfterSpace_runs wordSolid wordFree solidRuns
  simp only [List.map_map, List.flatMap_map] at stripped
  rw [apply_append_solid rfl rfl firstSolid, List.flatMap_map]
  exact congrArg (first ++ ·) stripped

theorem solid_dropWord (word : Text) (solid : ∀ piece ∈ pieces, ' ' ∉ piece) :
    ∀ piece ∈ pieces.map (dropWord word), ' ' ∉ piece := by
  rw [List.forall_mem_map]
  intro piece among inside
  exact solid piece among ((dropWord_suffix word piece).subset inside)

theorem strips_commute_iff (listed : word ∈ strippedWords) (otherListed : other ∈ strippedWords)
    (differ : word ≠ other) (text : Text) :
    CommuteOn (stripAfterSpace word) (stripAfterSpace other) text ↔
      ¬ ' ' :: (word ++ other) <:+: text ∧ ¬ ' ' :: (other ++ word) <:+: text := by
  obtain ⟨some, wordSolid, _⟩ := strippedWords_shape word listed
  obtain ⟨otherSome, otherSolid, _⟩ := strippedWords_shape other otherListed
  have apart := strippedWords_apart word listed other otherListed differ
  have otherApart := strippedWords_apart other otherListed word listed differ.symm
  have pairSolid : ' ' ∉ word ++ other := by
    rw [List.mem_append, not_or]
    exact ⟨wordSolid, otherSolid⟩
  have otherPairSolid : ' ' ∉ other ++ word := by
    rw [List.mem_append, not_or]
    exact ⟨otherSolid, wordSolid⟩
  obtain ⟨first, pieces, firstSolid, solid, rfl⟩ := exists_pieces text
  have dropped := solid_dropWord word solid
  have otherDropped := solid_dropWord other solid
  rw [CommuteOn, stripAfterSpace_pieces listed firstSolid solid,
    stripAfterSpace_pieces otherListed firstSolid solid,
    stripAfterSpace_pieces otherListed firstSolid dropped,
    stripAfterSpace_pieces listed firstSolid otherDropped,
    pieces_inj (solid_dropWord other dropped) (solid_dropWord word otherDropped) firstSolid,
    List.map_map, List.map_map, List.map_inj_left, spaced_infix_iff pairSolid firstSolid solid,
    spaced_infix_iff otherPairSolid firstSolid solid]
  simp only [Function.comp_apply, dropWord_comm_iff some otherSome apart otherApart, not_exists,
    not_and]
  exact forall₂_and

theorem renamePagination_append_pieces (firstSolid : ' ' ∉ first)
    (solid : ∀ piece ∈ pieces, ' ' ∉ piece) :
    renamePagination.apply (first ++ pieces.flatMap (' ' :: ·)) =
      first ++ (pieces.map Run.ofPiece).flatMap Run.written := by
  rw [apply_append_solid rfl rfl firstSolid, renamePagination_pieces solid]

theorem rename_strip_commute_iff (listed : word ∈ strippedWords) (text : Text) :
    CommuteOn renamePagination (stripAfterSpace word) text ↔
      ¬ ' ' :: (word ++ paginationRepository) <:+: text := by
  obtain ⟨some, wordSolid, wordFree, _⟩ := strippedWords_shape word listed
  have bothSolid : ' ' ∉ word ++ paginationRepository := by
    rw [List.mem_append, not_or]
    exact ⟨wordSolid, by decide⟩
  obtain ⟨first, pieces, firstSolid, solid, rfl⟩ := exists_pieces text
  rw [CommuteOn, renamePagination_append_pieces firstSolid solid,
    stripAfterSpace_pieces listed firstSolid solid,
    renamePagination_append_pieces firstSolid (solid_dropWord _ solid),
    apply_append_solid rfl rfl firstSolid,
    stripAfterSpace_runs wordSolid wordFree (Run.solid_ofPiece solid),
    spaced_infix_iff bothSolid firstSolid solid, List.append_right_inj, List.map_map, List.map_map,
    List.flatMap_map, List.flatMap_map]
  constructor
  · rintro same ⟨piece, among, begins⟩
    have shorter : (pieces.map fun piece =>
          (Run.ofPiece (dropWord word piece)).written.length).sum <
        (pieces.map fun piece => ((Run.ofPiece piece).drop word).written.length).sum := by
      apply List.sum_lt_sum
      · intro other _
        by_cases hidden : word ++ paginationRepository <+: other
        · exact Nat.le_of_lt (Run.length_written_lt wordFree some hidden)
        · rw [Run.ofPiece_dropWord wordFree some hidden]
      · exact ⟨piece, among, Run.length_written_lt wordFree some begins⟩
    have sizes := congrArg List.length same
    rw [List.length_flatMap, List.length_flatMap] at sizes
    exact absurd sizes (Nat.ne_of_gt shorter)
  · intro absent
    apply List.flatMap_congr
    intro piece among
    have apart : ¬ word ++ paginationRepository <+: piece :=
      fun begins => absent ⟨piece, among, begins⟩
    rw [Function.comp_apply, Function.comp_apply, Run.ofPiece_dropWord wordFree some apart]

theorem requireFields_pieces (first : Text) (pieces : List Text) :
    requireFields.apply (first ++ pieces.flatMap (' ' :: ·)) =
      requireFields.apply first ++ (pieces.map requireFields.apply).flatMap (' ' :: ·) := by
  have spaced := requireFields_runs first (pieces.map Run.spaced)
  rw [List.map_map, List.flatMap_map, List.flatMap_map] at spaced
  rw [List.flatMap_map]
  exact spaced

theorem solid_requireFields_map (solid : ∀ piece ∈ pieces, ' ' ∉ piece) :
    ∀ piece ∈ pieces.map requireFields.apply, ' ' ∉ piece := by
  rw [List.forall_mem_map]
  intro piece among
  exact solid_requireFields (solid piece among)

theorem requireFields_strip_commute (listed : word ∈ strippedWords) (text : Text) :
    CommuteOn requireFields (stripAfterSpace word) text := by
  obtain ⟨_, _, _, unmarked, free⟩ := strippedWords_shape word listed
  obtain ⟨first, pieces, firstSolid, solid, rfl⟩ := exists_pieces text
  rw [CommuteOn, requireFields_pieces, stripAfterSpace_pieces listed firstSolid solid,
    requireFields_pieces, stripAfterSpace_pieces listed (solid_requireFields firstSolid)
      (solid_requireFields_map solid), List.map_map, List.map_map]
  congr 2
  apply List.map_congr_left
  intro piece _
  exact dropWord_requireFields unmarked free piece

theorem requireFields_rename_commute (text : Text) :
    CommuteOn requireFields renamePagination text := by
  obtain ⟨first, pieces, firstSolid, solid, rfl⟩ := exists_pieces text
  rw [CommuteOn, requireFields_pieces, renamePagination_append_pieces firstSolid solid,
    requireFields_runs, renamePagination_append_pieces (solid_requireFields firstSolid)
      (solid_requireFields_map solid), List.map_map, List.map_map]
  congr 2
  apply List.map_congr_left
  intro piece _
  exact ofPiece_requireFields piece

end

end Rule

theorem spaced_prefix_of_append {word other : Text} (apart : Apart word other)
    (solid : ' ' ∉ word) {between after rest : Text}
    (same : ' ' :: (word ++ after) = between ++ ' ' :: (other ++ rest)) :
    ' ' :: word <+: between := by
  cases between with
  | nil =>
      have begins : word <+: other ++ rest := ⟨after, (List.cons.inj same).2⟩
      exact absurd begins (apart rest)
  | cons char more =>
      obtain ⟨rfl, ends⟩ := List.cons.inj same
      have begins : word <+: more ++ ' ' :: (other ++ rest) := ⟨after, ends⟩
      rw [prefix_append_iff (separator_stops solid)] at begins
      exact List.cons_prefix_cons.mpr ⟨rfl, begins⟩

/-- Two words behind spaces do not overlap if they begin differently. -/
theorem spaced_words_disjoint {word other : Text} (apart : Apart word other)
    (otherApart : Apart other word) (solid : ' ' ∉ word) (otherSolid : ' ' ∉ other)
    {before after start rest : Text}
    (same : before ++ ' ' :: (word ++ after) = start ++ ' ' :: (other ++ rest)) :
    before ++ ' ' :: word <+: start ∨ start ++ ' ' :: other <+: before := by
  rcases List.append_eq_append_iff.mp same with ⟨between, rfl, ends⟩ | ⟨between, rfl, ends⟩
  · have begins := spaced_prefix_of_append apart solid ends
    exact .inl ((List.prefix_append_right_inj before).mpr begins)
  · have begins := spaced_prefix_of_append otherApart otherSolid ends
    exact .inr ((List.prefix_append_right_inj start).mpr begins)

open Rule

/-- The texts on which two of the first five rules may change places. The strip of `Repo` never
meets a pagination type, whichever of the two rules comes first. -/
theorem first_rules_order :
    Table.standard.take 5 = [renamePagination, stripAfterSpace repository,
      stripAfterSpace services, stripAfterSpace version, requireFields] ∧
    ∀ text : Text,
      (∀ word ∈ strippedWords, ∀ other ∈ strippedWords, word ≠ other →
        (CommuteOn (stripAfterSpace word) (stripAfterSpace other) text ↔
          ¬ ' ' :: (word ++ other) <:+: text ∧ ¬ ' ' :: (other ++ word) <:+: text)) ∧
      (∀ word ∈ strippedWords,
        (CommuteOn renamePagination (stripAfterSpace word) text ↔
          ¬ ' ' :: (word ++ paginationRepository) <:+: text)) ∧
      (∀ rule ∈ Table.standard.take 4, CommuteOn requireFields rule text) ∧
      ∀ before after start rest,
        text = before ++ ((stripAfterSpace repository).target ++ after) →
        text = start ++ (renamePagination.target ++ rest) →
          before ++ (stripAfterSpace repository).target <+: start ∨
            start ++ renamePagination.target <+: before := by
  refine ⟨rfl, fun text => ⟨?_, ?_, ?_, ?_⟩⟩
  · intro word listed other otherListed differ
    exact strips_commute_iff listed otherListed differ text
  · intro word listed
    exact rename_strip_commute_iff listed text
  · have four : Table.standard.take 4 =
        renamePagination :: strippedWords.map stripAfterSpace := rfl
    rw [four, List.forall_mem_cons, List.forall_mem_map]
    refine ⟨requireFields_rename_commute text, ?_⟩
    intro word listed
    exact requireFields_strip_commute listed text
  · intro before after start rest whole also
    have otherApart : Apart paginationRepository repository :=
      pagination_apart (by decide) (by decide)
    have apart : Apart repository paginationRepository :=
      apart_of_heads (by decide) (by decide) (by decide)
    exact spaced_words_disjoint apart otherApart (by decide) (by decide) (whole.symm.trans also)

/-- Words that touch, and a pagination type that a strip lays bare. -/
theorem touching_words_order :
    repository ∈ strippedWords ∧ services ∈ strippedWords ∧ repository ≠ services ∧
      renamePagination ∈ Table.standard.take 4 ∧
      ¬ CommuteOn (stripAfterSpace repository) (stripAfterSpace services)
        "a: ServicesRepo;".toList ∧
      ¬ CommuteOn renamePagination (stripAfterSpace services)
        "a: ServicesPaginationResultRepo;".toList ∧
      CommuteOn renamePagination (stripAfterSpace services)
        "a: PaginationResultRepoServices Services;".toList ∧
      CommuteOn requireFields renamePagination "a? PaginationResultRepo?: b;".toList ∧
      (" PaginationResultRepo Repo".toList <+: [] ∨
        " PaginationResultRepo".toList <+: " PaginationResultRepo".toList) := by
  have listed : repository ∈ strippedWords := by decide
  have otherListed : services ∈ strippedWords := by decide
  have differ : repository ≠ services := by decide
  have early : renamePagination ∈ Table.standard.take 4 := by decide
  have strips (text : Text) := (first_rules_order.2 text).1 _ listed _ otherListed differ
  have rename (text : Text) := (first_rules_order.2 text).2.1 _ otherListed
  have marks := (first_rules_order.2 "a? PaginationResultRepo?: b;".toList).2.2.1 _ early
  have disjoint := (first_rules_order.2 " PaginationResultRepo Repo".toList).2.2.2
    " PaginationResultRepo".toList [] [] " Repo".toList (by decide) (by decide)
  refine ⟨listed, otherListed, differ, early, ?_, ?_, ?_, marks, disjoint⟩
  · rw [strips]
    decide
  · rw [rename]
    decide
  · rw [rename]
    decide

end TypePolish
