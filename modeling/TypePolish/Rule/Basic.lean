import TypePolish.Text.Utf8
import TypePolish.Text.WordChar

/-!
Replacement rules and what one does to a text. A rule looks for its target, either anywhere or only
where an identifier could begin, and puts its substitute there. A name begins at the start of the
text or behind a character that no identifier contains; such a boundary character belongs to the
match and is written back. One pass goes through the text from left to right: it takes the first
match, leaves everything before it alone, and goes on after the end of the match. The equations
`sweep_hit`, `sweep_nil` and `sweep_cons` describe the pass.
-/

namespace TypePolish

inductive Place
  | anywhere
  | nameStart
  deriving DecidableEq, Repr

structure Rule where
  place : Place
  target : Text
  substitute : Text
  target_ne_nil : target ≠ [] := by simp
  deriving DecidableEq, Repr

abbrev Table := List Rule

structure Hit where
  boundary : Option Char
  rest : Text
  deriving DecidableEq, Repr

namespace Rule

def after? (rule : Rule) (text : Text) : Option Text :=
  rule.target.isPrefixOf? text

/-- The match at the front of the text. A rule for name starts prefers the match without a
boundary character, which only the start of the whole text allows. -/
def hit? (rule : Rule) (atStart : Bool) (text : Text) : Option Hit :=
  match rule.place with
  | .anywhere => (rule.after? text).map (Hit.mk none)
  | .nameStart =>
      (if atStart then (rule.after? text).map (Hit.mk none) else none) <|>
        match text with
        | [] => none
        | char :: later =>
            match rule.after? later with
            | some rest => if isNameChar char then none else some ⟨some char, rest⟩
            | none => none

def replacement (rule : Rule) (hit : Hit) : Text :=
  hit.boundary.toList ++ rule.substitute

end Rule

theorem isPrefixOf?_eq_some_iff (target text rest : Text) :
    target.isPrefixOf? text = some rest ↔ text = target ++ rest := by
  induction target generalizing text with
  | nil =>
      change some text = some rest ↔ text = rest
      rw [Option.some.injEq]
  | cons head tail ih =>
      cases text with
      | nil =>
          change none = some rest ↔ [] = head :: (tail ++ rest)
          simp
      | cons char later =>
          change (if head == char then tail.isPrefixOf? later else none) = some rest ↔ _
          simp only [beq_iff_eq]
          split
          next same => simp [ih, same]
          next differ => simp [Ne.symm differ]

namespace Rule

theorem after?_eq_some_iff (rule : Rule) (text rest : Text) :
    rule.after? text = some rest ↔ text = rule.target ++ rest :=
  isPrefixOf?_eq_some_iff rule.target text rest

theorem eq_of_hit? {rule : Rule} {atStart : Bool} {text : Text} {hit : Hit}
    (found : rule.hit? atStart text = some hit) :
    text = hit.boundary.toList ++ rule.target ++ hit.rest := by
  have direct : (rule.after? text).map (Hit.mk none) = some hit →
      text = hit.boundary.toList ++ rule.target ++ hit.rest := by
    intro mapped
    obtain ⟨rest, after, rfl⟩ := Option.map_eq_some_iff.mp mapped
    simpa using (after?_eq_some_iff rule text rest).mp after
  unfold hit? at found
  split at found
  · exact direct found
  · rw [Option.orElse_eq_orElse, Option.orElse_eq_or, Option.or_eq_some_iff] at found
    rcases found with found | ⟨_, found⟩
    · split at found
      · exact direct found
      · contradiction
    · split at found
      · contradiction
      next char later _ =>
        split at found
        next rest after =>
          split at found
          · contradiction
          · obtain rfl := Option.some.inj found
            simpa using (after?_eq_some_iff rule later rest).mp after
        · contradiction

theorem length_rest_lt {rule : Rule} {atStart : Bool} {text : Text} {hit : Hit}
    (found : rule.hit? atStart text = some hit) : hit.rest.length < text.length := by
  have whole := congrArg List.length (eq_of_hit? found)
  have positive := List.length_pos_iff.mpr rule.target_ne_nil
  simp only [List.length_append] at whole
  omega

def sweepOnto (rule : Rule) (done : Text) (atStart : Bool) (text : Text) : Text :=
  match found : rule.hit? atStart text with
  | some hit =>
      have _shorter : hit.rest.length < text.length := length_rest_lt found
      rule.sweepOnto ((rule.replacement hit).reverse ++ done) false hit.rest
  | none =>
      match text with
      | [] => done.reverse
      | char :: later => rule.sweepOnto (char :: done) false later
termination_by text.length
decreasing_by
  · exact _shorter
  · simp

def sweep (rule : Rule) (atStart : Bool) (text : Text) : Text :=
  rule.sweepOnto [] atStart text

def apply (rule : Rule) (text : Text) : Text :=
  rule.sweep true text

theorem sweepOnto_eq (rule : Rule) (done : Text) (atStart : Bool) (text : Text) :
    rule.sweepOnto done atStart text = done.reverse ++ rule.sweep atStart text := by
  suffices all : ∀ size done atStart (text : Text), text.length ≤ size →
      rule.sweepOnto done atStart text = done.reverse ++ rule.sweepOnto [] atStart text from
    all text.length done atStart text (Nat.le_refl _)
  intro size
  induction size with
  | zero =>
      intro done atStart text bound
      have empty : text = [] := List.length_eq_zero_iff.mp (by omega)
      subst empty
      rw [sweepOnto, sweepOnto]
      split
      next hit found => exact absurd (length_rest_lt found) (by simp)
      next => simp
  | succ size ih =>
      intro done atStart text bound
      rw [sweepOnto, sweepOnto]
      split
      next hit found =>
        have shorter := length_rest_lt found
        rw [ih _ false hit.rest (by omega), ih (_ ++ []) false hit.rest (by omega)]
        simp
      next =>
        cases text with
        | nil => simp
        | cons char later =>
            simp only [List.length_cons] at bound
            simp only
            rw [ih (char :: done) false later (by omega), ih [char] false later (by omega)]
            simp

theorem sweep_hit {rule : Rule} {atStart : Bool} {text : Text} {hit : Hit}
    (found : rule.hit? atStart text = some hit) :
    rule.sweep atStart text = rule.replacement hit ++ rule.sweep false hit.rest := by
  rw [sweep, sweepOnto]
  split
  next other also =>
    obtain rfl := Option.some.inj (found.symm.trans also)
    rw [sweepOnto_eq]
    simp
  next missed => simp [found] at missed

@[simp] theorem sweep_nil (rule : Rule) (atStart : Bool) : rule.sweep atStart [] = [] := by
  rw [sweep, sweepOnto]
  split
  next hit found => exact absurd (length_rest_lt found) (by simp)
  next => simp

theorem sweep_cons {rule : Rule} {atStart : Bool} {char : Char} {later : Text}
    (missed : rule.hit? atStart (char :: later) = none) :
    rule.sweep atStart (char :: later) = char :: rule.sweep false later := by
  rw [sweep, sweepOnto]
  split
  next hit found => simp [missed] at found
  next => simp only [sweepOnto_eq, List.reverse_singleton, List.singleton_append]

end Rule

namespace Table

def apply (table : Table) (text : Text) : Text :=
  table.foldl (fun text rule => rule.apply text) text

end Table

end TypePolish
