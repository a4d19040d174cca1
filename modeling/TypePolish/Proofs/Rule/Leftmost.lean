import TypePolish.Proofs.Rule.Pass
import TypePolish.Rule.Table

/-!
The pass of a rule as a cut of the text into gaps and matches. Nowhere in a gap does a match begin,
so the first match of a cut is the leftmost one, and so is the first one of the cut behind it. Hence
two cuts of one text are equal if a match is known by its position (`Rule.Cuts.eq`). The pass finds
such a cut and puts the substitute into its matches (`Rule.exists_follows`).
-/

namespace TypePolish

inductive Cut
  | last (gap : Text)
  | more (gap : Text) (boundary : Option Char) (rest : Cut)
  deriving DecidableEq, Repr

namespace Cut

def fill (word : Text) : Cut → Text
  | last gap => gap
  | more gap boundary rest => gap ++ (boundary.toList ++ word) ++ rest.fill word

def behind (word : Text) (start : Nat) (gap : Text) (boundary : Option Char) : Nat :=
  start + (gap ++ (boundary.toList ++ word)).length

def starts (word : Text) : (start : Nat) → Cut → List (Nat × Option Char)
  | _, last _ => []
  | start, more gap boundary rest =>
      (start + gap.length, boundary) :: rest.starts word (behind word start gap boundary)

def passed (word : Text) : (start : Nat) → Cut → List Nat
  | start, last gap => List.range' start gap.length
  | start, more gap boundary rest =>
      List.range' start gap.length ++ rest.passed word (behind word start gap boundary)

def widen (char : Char) : Cut → Cut
  | last gap => last (char :: gap)
  | more gap boundary rest => more (char :: gap) boundary rest

section

variable (word : Text) (start : Nat) (char : Char) (cut : Cut)

theorem fill_widen : (cut.widen char).fill word = char :: cut.fill word := by
  cases cut <;> rfl

theorem behind_cons (gap : Text) (boundary : Option Char) :
    behind word start (char :: gap) boundary = behind word (start + 1) gap boundary := by
  simp only [behind, List.cons_append, List.length_cons]
  omega

theorem lt_behind {word : Text} (some : word ≠ []) (gap : Text) (boundary : Option Char) :
    start < behind word start gap boundary := by
  have positive := List.length_pos_iff.mpr some
  simp only [behind, List.length_append]
  omega

theorem starts_widen : (cut.widen char).starts word start = cut.starts word (start + 1) := by
  cases cut with
  | last gap => rfl
  | more gap boundary rest =>
      simp only [widen, starts, behind_cons, List.length_cons, List.cons.injEq, Prod.mk.injEq,
        and_true]
      omega

theorem passed_widen :
    (cut.widen char).passed word start = start :: cut.passed word (start + 1) := by
  cases cut with
  | last gap => rfl
  | more gap boundary rest =>
      simp only [widen, passed, behind_cons, List.length_cons, List.range'_succ, List.cons_append]

theorem length_starts_mul_le :
    (cut.starts word start).length * word.length ≤ (cut.fill word).length := by
  induction cut generalizing start with
  | last gap => simp [starts]
  | more gap boundary rest ih =>
      have later := ih (behind word start gap boundary)
      simp only [starts, fill, List.length_cons, List.length_append, Nat.add_mul, Nat.one_mul]
      omega

end

end Cut

def Place.Borders (position : Nat) : Place → Option Char → Prop
  | .anywhere, boundary => boundary = none
  | .nameStart, none => position = 0
  | .nameStart, some char => isNameChar char = false

instance (position : Nat) : (place : Place) → (boundary : Option Char) →
    Decidable (place.Borders position boundary)
  | .anywhere, boundary => inferInstanceAs (Decidable (boundary = none))
  | .nameStart, none => inferInstanceAs (Decidable (position = 0))
  | .nameStart, some char => inferInstanceAs (Decidable (isNameChar char = false))

namespace Rule

def MatchesAt (rule : Rule) (text : Text) (position : Nat) (boundary : Option Char) : Prop :=
  rule.place.Borders position boundary ∧ boundary.toList ++ rule.target <+: text.drop position

instance (rule : Rule) (text : Text) (position : Nat) (boundary : Option Char) :
    Decidable (rule.MatchesAt text position boundary) :=
  inferInstanceAs (Decidable (_ ∧ _))

def Misses (rule : Rule) (text : Text) (start stop : Nat) : Prop :=
  ∀ position, start ≤ position → position < stop → ∀ boundary,
    ¬ rule.MatchesAt text position boundary

theorem exists_matchesAt_iff (rule : Rule) (text : Text) (position : Nat) :
    (∃ boundary, rule.MatchesAt text position boundary) ↔
      rule.MatchesAt text position none ∨
        rule.MatchesAt text position (text.drop position).head? := by
  constructor
  · rintro ⟨boundary, matched⟩
    cases boundary with
    | none => exact .inl matched
    | some char =>
        obtain ⟨borders, rest, whole⟩ := matched
        refine .inr ?_
        rw [← whole]
        exact ⟨borders, rest, whole⟩
  · rintro (matched | matched)
    · exact ⟨none, matched⟩
    · exact ⟨_, matched⟩

instance (rule : Rule) (text : Text) (position : Nat) :
    Decidable (∀ boundary, ¬ rule.MatchesAt text position boundary) :=
  decidable_of_iff
    (¬ (rule.MatchesAt text position none ∨
      rule.MatchesAt text position (text.drop position).head?))
    ((not_congr (exists_matchesAt_iff rule text position)).symm.trans not_exists)

def Mixed (rule : Rule) : Prop :=
  ∃ first ∈ rule.target, ∃ second ∈ rule.target, first ≠ second

/-- A way to cut what the text holds from a position on into gaps in which no match begins and
matches between them. -/
structure Cuts (rule : Rule) (text : Text) (start : Nat) (cut : Cut) : Prop where
  whole : text.drop start = cut.fill rule.target
  bordered : ∀ begun ∈ cut.starts rule.target start, rule.place.Borders begun.1 begun.2
  missed : ∀ position ∈ cut.passed rule.target start, ∀ boundary,
    ¬ rule.MatchesAt text position boundary

instance (rule : Rule) (text : Text) (start : Nat) (cut : Cut) :
    Decidable (rule.Cuts text start cut) :=
  decidable_of_iff
    (text.drop start = cut.fill rule.target ∧
      (∀ begun ∈ cut.starts rule.target start, rule.place.Borders begun.1 begun.2) ∧
      ∀ position ∈ cut.passed rule.target start, ∀ boundary,
        ¬ rule.MatchesAt text position boundary)
    ⟨fun ⟨whole, bordered, missed⟩ => ⟨whole, bordered, missed⟩,
      fun ⟨whole, bordered, missed⟩ => ⟨whole, bordered, missed⟩⟩

section

variable {rule : Rule} {text : Text} {position start : Nat} {boundary : Option Char}

theorem borders_of_hit? {hit : Hit} (found : rule.hit? (position == 0) text = some hit) :
    rule.place.Borders position hit.boundary := by
  cases place : rule.place with
  | anywhere => exact boundary_of_anywhere place found
  | nameStart =>
      simp only [hit?, place] at found
      rw [Option.orElse_eq_orElse, Option.orElse_eq_or, Option.or_eq_some_iff] at found
      rcases found with found | ⟨_, found⟩
      · split at found
        next first =>
          obtain ⟨rest, _, rfl⟩ := Option.map_eq_some_iff.mp found
          exact beq_iff_eq.mp first
        next => contradiction
      · split at found
        · contradiction
        next char later =>
          split at found
          next rest after =>
            split at found
            · contradiction
            next plain =>
              obtain rfl := Option.some.inj found
              exact Bool.eq_false_iff.mpr plain
          · contradiction

theorem hit?_ne_none (matched : rule.MatchesAt text position boundary) :
    rule.hit? (position == 0) (text.drop position) ≠ none := by
  obtain ⟨borders, rest, whole⟩ := matched
  rw [← whole]
  unfold hit?
  cases place : rule.place with
  | anywhere =>
      rw [place] at borders
      obtain rfl : boundary = none := borders
      simp [after?_target]
  | nameStart =>
      rw [place] at borders
      cases boundary with
      | none =>
          have first : position = 0 := borders
          simp [first, after?_target]
      | some char =>
          have plain : isNameChar char = false := borders
          simp [plain, after?_target]

theorem matchesAt_of_hit? {hit : Hit}
    (found : rule.hit? (position == 0) (text.drop position) = some hit) :
    rule.MatchesAt text position hit.boundary :=
  ⟨borders_of_hit? found, hit.rest, (eq_of_hit? found).symm⟩

theorem eq_of_prefix_cons {word rest : Text} {char : Char}
    (begins : word <+: char :: (word ++ rest)) : ∀ other ∈ word, other = char := by
  induction word with
  | nil => simp
  | cons first more ih =>
      rw [List.cons_prefix_cons] at begins
      obtain ⟨rfl, begins⟩ := begins
      intro other member
      rcases List.mem_cons.mp member with rfl | member
      · rfl
      · exact ih begins other member

theorem not_matchesAt_both {char : Char} (mixed : rule.Mixed)
    (bare : rule.MatchesAt text position none) : ¬ rule.MatchesAt text position (some char) := by
  rintro ⟨_, rest, whole⟩
  obtain ⟨first, firstMember, second, secondMember, differ⟩ := mixed
  have begins : rule.target <+: char :: (rule.target ++ rest) := by
    have shifted : char :: (rule.target ++ rest) = text.drop position := whole
    rw [shifted]
    exact bare.2
  have same := eq_of_prefix_cons begins
  exact differ ((same first firstMember).trans (same second secondMember).symm)

theorem MatchesAt.boundary_eq {other : Option Char} (mixed : rule.Mixed)
    (matched : rule.MatchesAt text position boundary)
    (also : rule.MatchesAt text position other) : boundary = other := by
  cases boundary with
  | none =>
      cases other with
      | none => rfl
      | some char => exact absurd also (not_matchesAt_both mixed matched)
  | some first =>
      cases other with
      | none => exact absurd matched (not_matchesAt_both mixed also)
      | some second =>
          obtain ⟨_, rest, whole⟩ := matched
          obtain ⟨_, more, same⟩ := also
          exact congrArg List.head? (whole.trans same.symm)

end

section

variable {rule : Rule} {text gap : Text} {start : Nat} {boundary : Option Char} {rest cut : Cut}

theorem misses_self : rule.Misses text start start := by
  intro position lower upper
  omega

theorem cuts_last_iff : rule.Cuts text start (.last gap) ↔
    text.drop start = gap ∧ rule.Misses text start (start + gap.length) := by
  constructor
  · rintro ⟨whole, _, missed⟩
    refine ⟨whole, ?_⟩
    intro position lower upper
    exact missed position (List.mem_range'_1.mpr ⟨lower, upper⟩)
  · rintro ⟨whole, missed⟩
    refine ⟨whole, by simp [Cut.starts], ?_⟩
    intro position inside
    obtain ⟨lower, upper⟩ := List.mem_range'_1.mp inside
    exact missed position lower upper

theorem drop_behind {word : Text} {after : Text}
    (whole : text.drop start = gap ++ (boundary.toList ++ word) ++ after) :
    text.drop (Cut.behind word start gap boundary) = after := by
  rw [Cut.behind, ← List.drop_drop, whole]
  exact List.drop_left

theorem cuts_more_iff : rule.Cuts text start (.more gap boundary rest) ↔
    gap <+: text.drop start ∧ rule.Misses text start (start + gap.length) ∧
      rule.MatchesAt text (start + gap.length) boundary ∧
      rule.Cuts text (Cut.behind rule.target start gap boundary) rest := by
  constructor
  · rintro ⟨whole, bordered, missed⟩
    simp only [Cut.starts, List.forall_mem_cons] at bordered
    simp only [Cut.passed, List.forall_mem_append, List.mem_range'_1] at missed
    have behind := drop_behind whole
    rw [Cut.fill, List.append_assoc] at whole
    refine ⟨⟨_, whole.symm⟩, ?_, ⟨bordered.1, ?_⟩, behind, bordered.2, missed.2⟩
    · intro position lower upper
      exact missed.1 position ⟨lower, upper⟩
    · rw [← List.drop_drop, whole, List.drop_left]
      exact List.prefix_append _ _
  · rintro ⟨⟨after, gapped⟩, missed, ⟨borders, later, matched⟩, behind, bordered, passed⟩
    rw [← List.drop_drop, ← gapped, List.drop_left] at matched
    have whole : text.drop start = gap ++ (boundary.toList ++ rule.target) ++ later := by
      rw [← gapped, ← matched, List.append_assoc gap]
    rw [drop_behind whole] at behind
    subst behind
    refine ⟨whole, ?_, ?_⟩
    · simp only [Cut.starts, List.forall_mem_cons]
      exact ⟨borders, bordered⟩
    · simp only [Cut.passed, List.forall_mem_append, List.mem_range'_1]
      refine ⟨?_, passed⟩
      rintro position ⟨lower, upper⟩
      exact missed position lower upper

theorem cuts_widen {char : Char} (ahead : text.drop start = char :: text.drop (start + 1))
    (missed : ∀ boundary, ¬ rule.MatchesAt text start boundary)
    (cuts : rule.Cuts text (start + 1) cut) : rule.Cuts text start (cut.widen char) := by
  constructor
  · rw [ahead, cuts.whole, Cut.fill_widen]
  · rw [Cut.starts_widen]
    exact cuts.bordered
  · rw [Cut.passed_widen, List.forall_mem_cons]
    exact ⟨missed, cuts.missed⟩

theorem MatchesAt.lt_length {position : Nat} (matched : rule.MatchesAt text position boundary) :
    position < text.length := by
  have some := List.length_pos_iff.mpr rule.target_ne_nil
  have fits := matched.2.length_le
  simp only [List.length_append, List.length_drop] at fits
  omega

theorem Cuts.none_behind_last (cuts : rule.Cuts text start (.last gap)) {position : Nat}
    (lower : start ≤ position) : ¬ rule.MatchesAt text position boundary := by
  intro matched
  obtain ⟨whole, missed⟩ := cuts_last_iff.mp cuts
  have inside := matched.lt_length
  have sizes := congrArg List.length whole
  rw [List.length_drop] at sizes
  exact missed position lower (by omega) boundary matched

theorem Cuts.eq {other : Cut} (mixed : rule.Mixed) (cuts : rule.Cuts text start cut)
    (also : rule.Cuts text start other) : cut = other := by
  -- both first matches are leftmost, so neither gap is longer than the other
  induction cut generalizing start other with
  | last gap =>
      cases other with
      | last otherGap =>
          have whole := (cuts_last_iff.mp cuts).1
          have same := (cuts_last_iff.mp also).1
          rw [← whole, ← same]
      | more otherGap otherBoundary otherRest =>
          have matched := (cuts_more_iff.mp also).2.2.1
          exact absurd matched (cuts.none_behind_last (Nat.le_add_right start _))
  | more gap boundary rest ih =>
      obtain ⟨gapped, missed, matched, behind⟩ := cuts_more_iff.mp cuts
      cases other with
      | last otherGap =>
          exact absurd matched (also.none_behind_last (Nat.le_add_right start _))
      | more otherGap otherBoundary otherRest =>
          obtain ⟨otherGapped, otherMissed, otherMatched, otherBehind⟩ := cuts_more_iff.mp also
          have lower : gap.length ≤ otherGap.length := by
            apply Nat.le_of_not_lt
            intro shorter
            exact missed _ (Nat.le_add_right start _) (by omega) _ otherMatched
          have upper : otherGap.length ≤ gap.length := by
            apply Nat.le_of_not_lt
            intro shorter
            exact otherMissed _ (Nat.le_add_right start _) (by omega) _ matched
          obtain rfl : gap = otherGap :=
            (List.prefix_of_prefix_length_le gapped otherGapped lower).eq_of_length (by omega)
          obtain rfl : boundary = otherBoundary := matched.boundary_eq mixed otherMatched
          rw [ih behind otherBehind]

/-- The pass from a position on takes the matches of this cut. Only a pass from the very start may
take one that has no boundary character. -/
structure Follows (rule : Rule) (text : Text) (start : Nat) (cut : Cut) : Prop where
  cuts : rule.Cuts text start cut
  filled : rule.sweep (start == 0) (text.drop start) = cut.fill rule.substitute

theorem follows_more {hit : Hit} (found : rule.hit? (start == 0) (text.drop start) = some hit)
    (follows : rule.Follows text (Cut.behind rule.target start [] hit.boundary) cut) :
    rule.Follows text start (.more [] hit.boundary cut) := by
  have matched := matchesAt_of_hit? found
  have behind : text.drop (Cut.behind rule.target start [] hit.boundary) = hit.rest :=
    drop_behind (eq_of_hit? found)
  have further := Cut.lt_behind start rule.target_ne_nil [] hit.boundary
  have inside : (Cut.behind rule.target start [] hit.boundary == 0) = false :=
    beq_eq_false_iff_ne.mpr (Nat.ne_zero_of_lt further)
  have filled := follows.filled
  rw [behind, inside] at filled
  constructor
  · exact cuts_more_iff.mpr ⟨List.nil_prefix, misses_self, matched, follows.cuts⟩
  · rw [sweep_hit found, filled]
    rfl

theorem follows_widen {char : Char} (ahead : text.drop start = char :: text.drop (start + 1))
    (missed : rule.hit? (start == 0) (text.drop start) = none)
    (follows : rule.Follows text (start + 1) cut) : rule.Follows text start (cut.widen char) := by
  have absent : ∀ boundary, ¬ rule.MatchesAt text start boundary := by
    intro boundary matched
    exact hit?_ne_none matched missed
  constructor
  · exact cuts_widen ahead absent follows.cuts
  · rw [ahead] at missed
    rw [ahead, sweep_cons missed, Cut.fill_widen, ← follows.filled]
    rfl

theorem exists_follows (rule : Rule) (text : Text) (start : Nat) :
    ∃ cut, rule.Follows text start cut := by
  -- each step of the pass, over a match or over one character, leaves less of the text
  induction left : text.length - start using Nat.strongRecOn generalizing start with
  | ind bound ih =>
      cases found : rule.hit? (start == 0) (text.drop start) with
      | some hit =>
          have inside := (matchesAt_of_hit? found).lt_length
          have further := Cut.lt_behind start rule.target_ne_nil [] hit.boundary
          have shorter : text.length - Cut.behind rule.target start [] hit.boundary < bound := by
            omega
          obtain ⟨cut, follows⟩ := ih _ shorter _ rfl
          exact ⟨.more [] hit.boundary cut, follows_more found follows⟩
      | none =>
          by_cases inside : start < text.length
          · obtain ⟨cut, follows⟩ := ih _ (by omega) (start + 1) rfl
            have ahead : text.drop start = text[start] :: text.drop (start + 1) :=
              List.drop_eq_getElem_cons inside
            exact ⟨cut.widen text[start], follows_widen ahead found follows⟩
          · have none : text.drop start = [] := List.drop_eq_nil_of_le (by omega)
            refine ⟨.last [], cuts_last_iff.mpr ⟨none, misses_self⟩, ?_⟩
            rw [none, sweep_nil]
            rfl

theorem mixed_dateField (name : Text) : (dateField name).Mixed := by
  refine ⟨':', ?_, ';', ?_, by decide⟩
  · simp [dateField, stringDeclaration]
  · simp [dateField, stringDeclaration]

end

end Rule

open Rule

/-- For the rule of any name there is exactly one way to cut a text, and the rule replaces the
matches of that cut and leaves its gaps and boundaries alone. -/
theorem dateField_replaces_leftmost (name text : Text) :
    ∃ cut, (dateField name).Cuts text 0 cut ∧
      (∀ other, (dateField name).Cuts text 0 other → other = cut) ∧
      text = cut.fill (name ++ stringDeclaration) ∧
      (Table.ofDateFields [name]).apply text = cut.fill (name ++ dateDeclaration) ∧
      (cut.starts (name ++ stringDeclaration) 0).length * (name ++ stringDeclaration).length ≤
        text.length := by
  obtain ⟨cut, cuts, filled⟩ := exists_follows (dateField name) text 0
  have whole : text = cut.fill (name ++ stringDeclaration) := cuts.whole
  refine ⟨cut, cuts, ?_, whole, filled, ?_⟩
  · intro other also
    exact also.eq (mixed_dateField name) cuts
  · have sizes := Cut.length_starts_mul_le (name ++ stringDeclaration) 0 cut
    rwa [← whole] at sizes

def overlappingName : Text :=
  "a: string;a".toList

def overlappingCopies : Text :=
  "a: string;a: string;a: string; a: string;a: string;".toList

def overlappingCut : Cut :=
  .more [] none (.more "a: string;".toList (some ' ') (.last []))

/-- Two copies of the declaration may overlap where the name holds the end of one. -/
theorem overlappingCopies_replaced :
    (dateField overlappingName).Cuts overlappingCopies 0 overlappingCut ∧
      (∀ other, (dateField overlappingName).Cuts overlappingCopies 0 other →
        other = overlappingCut) ∧
      (Table.ofDateFields [overlappingName]).apply overlappingCopies =
        "a: string;a: Date;a: string; a: string;a: Date;".toList := by
  have cuts : (dateField overlappingName).Cuts overlappingCopies 0 overlappingCut := by
    decide +kernel
  obtain ⟨cut, _, unique, _, replaced, _⟩ :=
    dateField_replaces_leftmost overlappingName overlappingCopies
  obtain rfl : overlappingCut = cut := unique overlappingCut cuts
  have filled : overlappingCut.fill (overlappingName ++ dateDeclaration) =
      "a: string;a: Date;a: string; a: string;a: Date;".toList := by decide
  exact ⟨cuts, unique, replaced.trans filled⟩

end TypePolish
