import TypePolish.Proofs.Rule.Pieces

/-!
What the rules for words leave behind. A strip can bring another word to the front of its piece, and
the rename glues what stands around a pagination type, so a pass may leave work for the next one. In
ordinary content no two such words touch, and then nothing is left (`tidy_wordRules`).
-/

namespace TypePolish

def strippedWords : List Text :=
  [repository, services, version]

def spacedWords : List Text :=
  [repository, services, version, paginationRepository]

/-- Content in which the words of the rules keep apart: behind a space no such word follows another
that is to be stripped, nothing is left of a pagination type that would be one again, no field is
marked as optional twice, and a declaration has its place behind a break. -/
structure Ordinary (content : Text) : Prop where
  wordsApart : ∀ word ∈ strippedWords, ∀ next ∈ spacedWords,
    ¬ ' ' :: (word ++ next) <:+: content
  paginationApart : ¬ paginationRepository ++ repository <:+: content
  marksApart : ¬ ['?', '?', ':'] <:+: content
  declarationsApart : ∀ char, isWordChar char = true → ¬ [';', char] <:+: content

theorem head_polishedPieces (pieces : List Text) :
    ∀ char ∈ (pieces.flatMap polishedPiece).head?, char = ' ' ∨ char = 'P' := by
  have heads := Run.head_written (pieces.map fun piece =>
    (((Run.ofPiece piece).drop repository).drop services).drop version)
  simpa only [List.flatMap_map, Run.written_dropped] using heads

theorem polishedPieces_stop {word : Text} (solid : ' ' ∉ word) (free : 'P' ∉ word)
    (pieces : List Text) : ∀ char ∈ (pieces.flatMap polishedPiece).head?, char ∉ word := by
  intro char head
  rcases head_polishedPieces pieces char head with rfl | rfl
  · exact solid
  · exact free

section

variable {pieces : List Text} {word : Text}

/-- A word that holds nothing of what the rules put in front of the pieces stood there before. -/
theorem infix_of_infix_polishedPieces {first : Char} (head : word.head? = some first)
    (fresh : first ∉ ' ' :: pagination) (solid : ' ' ∉ word) (free : 'P' ∉ word)
    (inside : word <:+: pieces.flatMap polishedPiece) : word <:+: pieces.flatMap (' ' :: ·) := by
  induction pieces with
  | nil => exact inside
  | cons piece later ih =>
      rw [List.flatMap_cons, infix_append_iff (polishedPieces_stop solid free later)] at inside
      rw [List.flatMap_cons]
      rcases inside with early | late
      · obtain ⟨front, kept, polished, suffix, fronts⟩ := exists_polishedPiece piece
        have absent : first ∉ front := by
          rw [List.mem_cons, not_or] at fresh
          rcases fronts with rfl | rfl
          · simpa using fresh.1
          · exact fresh.2
        rw [polished] at early
        have behind := (infix_of_infix_append head absent early).trans suffix.isInfix
        exact behind.trans (List.infix_append [' '] piece _)
      · exact (ih late).trans (List.suffix_append _ _).isInfix

theorem infix_of_infix_polished {first : Char} {start : Text} (head : word.head? = some first)
    (fresh : first ∉ ' ' :: pagination) (solid : ' ' ∉ word) (free : 'P' ∉ word)
    (inside : word <:+: start ++ pieces.flatMap polishedPiece) :
    word <:+: start ++ pieces.flatMap (' ' :: ·) := by
  rw [infix_append_iff (polishedPieces_stop solid free pieces)] at inside
  rcases inside with early | late
  · exact early.trans (List.prefix_append start _).isInfix
  · have behind := infix_of_infix_polishedPieces head fresh solid free late
    exact behind.trans (List.suffix_append start _).isInfix

structure OrdinaryPiece (piece : Text) : Prop where
  wordsApart : ∀ word ∈ strippedWords, ∀ next ∈ spacedWords, ¬ word ++ next <+: piece
  paginationApart : ¬ paginationRepository ++ repository <+: piece

theorem Ordinary.piece {content : Text} (ordinary : Ordinary content) {piece : Text}
    (inside : ' ' :: piece <:+: content) : OrdinaryPiece piece := by
  have behind {word : Text} (begins : word <+: piece) : ' ' :: word <:+: content := by
    have spaced : ' ' :: word <+: ' ' :: piece := List.cons_prefix_cons.mpr ⟨rfl, begins⟩
    exact spaced.isInfix.trans inside
  constructor
  · intro word stripped next spaced begins
    exact ordinary.wordsApart word stripped next spaced (behind begins)
  · intro begins
    exact ordinary.paginationApart ((List.suffix_cons ' ' _).isInfix.trans (behind begins))

theorem plainWord_of_stripped (ordinary : OrdinaryPiece word) {front rest : Text}
    (stripped : front ∈ strippedWords) (whole : word = front ++ rest) : plainWord word = rest := by
  subst whole
  have clear : ∀ next ∈ spacedWords, ¬ next <+: rest := by
    intro next spaced begins
    apply ordinary.wordsApart front stripped next spaced
    exact (List.prefix_append_right_inj front).mpr begins
  have noServices : dropWord services rest = rest := dropWord_eq_self (clear services (by decide))
  have noVersion : dropWord version rest = rest := dropWord_eq_self (clear version (by decide))
  unfold plainWord
  simp only [strippedWords, List.mem_cons, List.not_mem_nil, or_false] at stripped
  rcases stripped with rfl | rfl | rfl
  · rw [dropWord_append_self, noServices, noVersion]
  · have notFirst : ¬ repository <+: services ++ rest := not_prefix_of_head rfl rfl (by decide)
    rw [dropWord_eq_self notFirst, dropWord_append_self, noVersion]
  · have notFirst : ¬ repository <+: version ++ rest := not_prefix_of_head rfl rfl (by decide)
    have notSecond : ¬ services <+: version ++ rest := not_prefix_of_head rfl rfl (by decide)
    rw [dropWord_eq_self notFirst, dropWord_eq_self notSecond, dropWord_append_self]

/-- No word is left at the front of a piece that keeps its space. -/
theorem not_prefix_plainWord (ordinary : OrdinaryPiece word)
    (spaced : ¬ paginationRepository <+: word) :
    ∀ next ∈ spacedWords, ¬ next <+: plainWord word := by
  intro next listed begins
  by_cases stripped : ∃ front ∈ strippedWords, front <+: word
  · obtain ⟨front, member, rest, whole⟩ := stripped
    rw [plainWord_of_stripped ordinary member whole.symm] at begins
    apply ordinary.wordsApart front member next listed
    rw [← whole]
    exact (List.prefix_append_right_inj front).mpr begins
  · have plain (front : Text) (member : front ∈ strippedWords) : dropWord front word = word :=
      dropWord_eq_self fun found => stripped ⟨front, member, found⟩
    rw [plainWord, plain repository (by decide), plain services (by decide),
      plain version (by decide)] at begins
    simp only [spacedWords, List.mem_cons, List.not_mem_nil, or_false] at listed
    rcases listed with rfl | rfl | rfl | rfl
    · exact stripped ⟨_, by decide, begins⟩
    · exact stripped ⟨_, by decide, begins⟩
    · exact stripped ⟨_, by decide, begins⟩
    · exact spaced begins

theorem exists_cons_of_spacedWord {next : Text} (listed : next ∈ spacedWords) :
    ∃ first rest, next = first :: rest ∧ ' ' ∉ next ∧ 'P' ∉ rest := by
  have shapes : ∀ next ∈ spacedWords, next ≠ [] ∧ ' ' ∉ next ∧ 'P' ∉ next.tail := by
    decide
  obtain ⟨some, solid, free⟩ := shapes next listed
  obtain ⟨first, rest, rfl⟩ := List.exists_cons_of_ne_nil some
  exact ⟨first, rest, rfl, solid, free⟩

theorem pagination_of_head :
    ∀ next ∈ spacedWords, next.head? = some 'P' → next = pagination ++ repository := by
  decide

/-- No word begins where pieces were glued. The name of the pagination type that may be there is not
that of the type to be renamed. -/
theorem not_prefix_polishedPieces (ordinary : ∀ piece ∈ pieces, OrdinaryPiece piece) :
    ∀ next ∈ spacedWords, ¬ next <+: pieces.flatMap polishedPiece := by
  intro next listed begins
  cases pieces with
  | nil =>
      obtain ⟨first, rest, rfl, _⟩ := exists_cons_of_spacedWord listed
      exact absurd (List.prefix_nil.mp begins) (List.cons_ne_nil first rest)
  | cons piece later =>
      rw [List.flatMap_cons] at begins
      by_cases glued : paginationRepository <+: piece
      · obtain ⟨rest, rfl⟩ := glued
        rw [polishedPiece_pagination, List.append_assoc] at begins
        obtain ⟨first, tail, rfl, _⟩ := exists_cons_of_spacedWord listed
        have isP : first = 'P' := (List.cons_prefix_cons.mp begins).1
        have whole : first :: tail = pagination ++ repository :=
          pagination_of_head _ listed (congrArg some isP)
        rw [whole, List.prefix_append_right_inj,
          prefix_append_iff (polishedPieces_stop (by decide) (by decide) later)] at begins
        apply (ordinary _ List.mem_cons_self).paginationApart
        exact (List.prefix_append_right_inj paginationRepository).mpr begins
      · obtain ⟨first, rest, rfl, solid, _⟩ := exists_cons_of_spacedWord listed
        rw [polishedPiece_eq_spaced glued, List.cons_append, List.cons_prefix_cons] at begins
        exact solid (List.mem_cons.mpr (.inl begins.1.symm))

/-- A word that begins in a piece does not go on in the next one. -/
theorem not_prefix_plainWord_append {piece : Text} (ordinaryPiece : OrdinaryPiece piece)
    (ordinary : ∀ piece ∈ pieces, OrdinaryPiece piece) (spaced : ¬ paginationRepository <+: piece) :
    ∀ next ∈ spacedWords, ¬ next <+: plainWord piece ++ pieces.flatMap polishedPiece := by
  intro next listed begins
  cases plain : plainWord piece with
  | nil =>
      rw [plain] at begins
      exact not_prefix_polishedPieces ordinary next listed begins
  | cons char more =>
      obtain ⟨first, rest, rfl, solid, free⟩ := exists_cons_of_spacedWord listed
      have restSolid : ' ' ∉ rest := fun member => solid (List.mem_cons_of_mem first member)
      rw [plain, List.cons_append, List.cons_prefix_cons,
        prefix_append_iff (polishedPieces_stop restSolid free pieces), ← List.cons_prefix_cons,
        ← plain] at begins
      exact not_prefix_plainWord ordinaryPiece spaced _ listed begins

theorem not_infix_polishedPieces (solid : ∀ piece ∈ pieces, ' ' ∉ piece)
    (ordinary : ∀ piece ∈ pieces, OrdinaryPiece piece) :
    ∀ next ∈ spacedWords, ¬ ' ' :: next <:+: pieces.flatMap polishedPiece := by
  intro next listed
  induction pieces with
  | nil => simp
  | cons piece later ih =>
      rw [List.forall_mem_cons] at solid ordinary
      have below := ih solid.2 ordinary.2
      rw [List.flatMap_cons]
      intro inside
      by_cases glued : paginationRepository <+: piece
      · obtain ⟨rest, rfl⟩ := glued
        have gluedSolid : ' ' ∉ pagination ++ rest := by
          rw [List.mem_append, not_or]
          exact ⟨by decide, fun member => solid.1 (List.mem_append_right _ member)⟩
        rw [polishedPiece_pagination] at inside
        exact below (infix_of_infix_append rfl gluedSolid inside)
      · rw [polishedPiece_eq_spaced glued, List.cons_append, List.infix_cons_iff,
          List.cons_prefix_cons] at inside
        rcases inside with ⟨_, begins⟩ | behind
        · exact not_prefix_plainWord_append ordinary.1 ordinary.2 glued next listed begins
        · have plainSolid : ' ' ∉ plainWord piece :=
            fun member => solid.1 (mem_of_mem_plainWord member)
          exact below (infix_of_infix_append rfl plainSolid behind)

end

namespace Rule

section

variable {word : Text} {opened : Bool} {text : Text}

theorem requireFields_sweep_target (opened : Bool) (rest : Text) :
    requireFields.sweep opened (requireFields.target ++ rest) =
      ':' :: requireFields.sweep false rest :=
  sweep_target (.inl rfl) rest

/-- The pass that drops the marks brings no word forth that has no colon. -/
theorem prefix_of_prefix_requireFields (free : ':' ∉ word)
    (begins : word <+: requireFields.sweep opened text) : word <+: text := by
  induction opened, text using requireFields.sweep_induction generalizing word with
  | nil opened => rwa [sweep_nil] at begins
  | target opened rest looks _ =>
      rw [requireFields_sweep_target] at begins
      cases word with
      | nil => exact List.nil_prefix
      | cons first more =>
          have colon : first = ':' := (List.cons_prefix_cons.mp begins).1
          exact absurd (List.mem_cons.mpr (.inl colon.symm)) free
  | char opened char later missed ih =>
      rw [sweep_char missed] at begins
      cases word with
      | nil => exact List.nil_prefix
      | cons first more =>
          rw [List.mem_cons, not_or] at free
          rw [List.cons_prefix_cons] at begins ⊢
          exact ⟨begins.1, ih free.2 begins.2⟩

theorem infix_of_infix_requireFields (free : ':' ∉ word)
    (inside : word <:+: requireFields.sweep opened text) : word <:+: text := by
  induction opened, text using requireFields.sweep_induction with
  | nil opened => rwa [sweep_nil] at inside
  | target opened rest looks ih =>
      rw [requireFields_sweep_target, List.infix_cons_iff] at inside
      rcases inside with begins | behind
      · have early : word <+: requireFields.sweep opened (requireFields.target ++ rest) := by
          rwa [requireFields_sweep_target]
        exact (prefix_of_prefix_requireFields free early).isInfix
      · exact (ih behind).trans (List.suffix_append _ rest).isInfix
  | char opened char later missed ih =>
      have whole := sweep_char missed
      rw [whole, List.infix_cons_iff] at inside
      rcases inside with begins | behind
      · rw [← whole] at begins
        exact (prefix_of_prefix_requireFields free begins).isInfix
      · exact (ih behind).trans (List.suffix_cons char later).isInfix

theorem colon_prefix_of_requireFields (begins : [':'] <+: requireFields.sweep opened text) :
    [':'] <+: text ∨ ['?', ':'] <+: text := by
  induction opened, text using requireFields.sweep_induction with
  | nil opened =>
      rw [sweep_nil] at begins
      exact .inl begins
  | target opened rest looks _ => exact .inr (List.prefix_append _ rest)
  | char opened char later missed _ =>
      rw [sweep_char missed, List.cons_prefix_cons] at begins
      exact .inl (List.cons_prefix_cons.mpr ⟨begins.1, List.nil_prefix⟩)

/-- A mark is left only where there were two. -/
theorem marks_of_mark_requireFields (inside : ['?', ':'] <:+: requireFields.sweep opened text) :
    ['?', '?', ':'] <:+: text := by
  induction opened, text using requireFields.sweep_induction with
  | nil opened => simp at inside
  | target opened rest looks ih =>
      rw [requireFields_sweep_target, List.infix_cons_iff, List.cons_prefix_cons] at inside
      rcases inside with ⟨differ, _⟩ | behind
      · contradiction
      · exact (ih behind).trans (List.suffix_append _ rest).isInfix
  | char opened char later missed ih =>
      rw [sweep_char missed, List.infix_cons_iff, List.cons_prefix_cons] at inside
      rcases inside with ⟨rfl, colon⟩ | behind
      · rcases colon_prefix_of_requireFields colon with single | double
        · exact absurd (List.cons_prefix_cons.mpr ⟨rfl, single⟩) (missed (.inl rfl))
        · exact (List.cons_prefix_cons.mpr ⟨rfl, double⟩).isInfix
      · exact (ih behind).trans (List.suffix_cons char later).isInfix

end

end Rule

structure Tidy (text : Text) : Prop where
  words : ∀ next ∈ spacedWords, ¬ ' ' :: next <:+: text
  marks : ¬ ['?', ':'] <:+: text
  declarations : ∀ char, isWordChar char = true → char ≠ 'P' → ¬ [';', char] <:+: text

theorem tidy_wordRules {content : Text} (ordinary : Ordinary content) :
    Tidy (Table.wordRules.apply content) := by
  obtain ⟨first, pieces, firstSolid, solid, rfl⟩ := exists_pieces content
  have piecesOrdinary : ∀ piece ∈ pieces, OrdinaryPiece piece := by
    intro piece member
    have among : ' ' :: piece <:+: pieces.flatMap (' ' :: ·) :=
      List.infix_of_mem_flatten (List.mem_map_of_mem member)
    exact ordinary.piece (among.trans (List.suffix_append first _).isInfix)
  rw [wordRules_apply firstSolid solid]
  constructor
  · intro next listed inside
    have colonless : ∀ next ∈ spacedWords, ':' ∉ ' ' :: next := by decide
    have before := Rule.infix_of_infix_requireFields (colonless next listed) inside
    exact not_infix_polishedPieces solid piecesOrdinary next listed
      (infix_of_infix_append rfl firstSolid before)
  · intro inside
    have before := Rule.marks_of_mark_requireFields inside
    exact ordinary.marksApart
      (infix_of_infix_polished rfl (by decide) (by decide) (by decide) before)
  · intro char named notP inside
    have differs (other : Char) (plain : isWordChar other = false) : other ≠ char := by
      rintro rfl
      rw [named] at plain
      contradiction
    have colonless : ':' ∉ [';', char] := by
      simp [differs ':' rfl]
    have solidPair : ' ' ∉ [';', char] := by
      simp [differs ' ' rfl]
    have free : 'P' ∉ [';', char] := by
      simp [Ne.symm notP]
    have before := Rule.infix_of_infix_requireFields colonless inside
    exact ordinary.declarationsApart char named
      (infix_of_infix_polished rfl (by decide) solidPair free before)

end TypePolish
