import Mathlib.Algebra.Group.Nat.Even
import Mathlib.Order.Bounds.Basic
import TypePolish.Proofs.Rule.Clauses

/-!
Which declarations the rule for one date field replaces. Declarations may stand in a chain, each
beginning where the one before it ends, and the pass replaces every other one, the first included
(`dateField_replaces_every_other`). The walk keeps one fact at the end of each clause: a name is
open to it exactly if a declaration there would follow a chain of even length
(`opensAfter_iff_takes`, `takes_clause_iff`).
-/

namespace TypePolish

open Rule

def Opens (before : Text) : Prop :=
  ∀ char ∈ before.getLast?, isNameChar char = false

/-- The text ends with so many declarations of the field back to back, each of them at a place where
a name may begin. -/
inductive EndsInChain (name : Text) : Text → Nat → Prop
  | none (before : Text) : EndsInChain name before 0
  | link {before : Text} {length : Nat} : EndsInChain name before length → Opens before →
      EndsInChain name (before ++ (name ++ stringDeclaration)) (length + 1)

def EvenChain (name before : Text) : Prop :=
  ∃ longest, IsGreatest {length | EndsInChain name before length} longest ∧ Even longest

def Takes (name before : Text) : Prop :=
  Opens before ∧ EvenChain name before

inductive Gaps
  | last (gap : Text)
  | more (gap : Text) (rest : Gaps)

namespace Gaps

def fill (word : Text) : Gaps → Text
  | last gap => gap
  | more gap rest => gap ++ word ++ rest.fill word

def places (word : Text) : Gaps → List Text
  | last _ => []
  | more gap rest => gap :: (rest.places word).map (gap ++ word ++ ·)

def widen (before : Text) : Gaps → Gaps
  | last gap => last (before ++ gap)
  | more gap rest => more (before ++ gap) rest

variable (word before : Text) (gaps : Gaps)

theorem fill_widen : (gaps.widen before).fill word = before ++ gaps.fill word := by
  cases gaps with
  | last gap => rfl
  | more gap rest => simp only [widen, fill, List.append_assoc]

theorem places_widen : (gaps.widen before).places word = (gaps.places word).map (before ++ ·) := by
  cases gaps with
  | last gap => rfl
  | more gap rest => simp [widen, places]

end Gaps

section

variable {name before : Text} {length longest : Nat}

theorem opens_iff (before : Text) : Opens before ↔ opensAfter true before = true :=
  (opensAfter_true_iff before).symm

theorem EndsInChain.link_iff (opens : Opens before) :
    EndsInChain name (before ++ (name ++ stringDeclaration)) (length + 1) ↔
      EndsInChain name before length := by
  constructor
  · generalize whole : before ++ (name ++ stringDeclaration) = text
    intro chain
    cases chain with
    | link shorter _ =>
        obtain rfl := List.append_cancel_right whole
        exact shorter
  · intro chain
    exact .link chain opens

theorem EndsInChain.eq_zero (chain : EndsInChain name before length)
    (apart : ∀ start, Opens start → before ≠ start ++ (name ++ stringDeclaration)) :
    length = 0 := by
  cases chain with
  | none => rfl
  | link _ opens => exact absurd rfl (apart _ opens)

theorem isGreatest_link (opens : Opens before)
    (greatest : IsGreatest {length | EndsInChain name before length} longest) :
    IsGreatest {length | EndsInChain name (before ++ (name ++ stringDeclaration)) length}
      (longest + 1) := by
  refine ⟨.link greatest.1 opens, ?_⟩
  intro length chain
  cases length with
  | zero => exact Nat.zero_le _
  | succ shorter =>
      have bound := greatest.2 ((EndsInChain.link_iff opens).mp chain)
      omega

theorem isGreatest_zero
    (apart : ∀ start, Opens start → before ≠ start ++ (name ++ stringDeclaration)) :
    IsGreatest {length | EndsInChain name before length} 0 := by
  refine ⟨.none before, ?_⟩
  intro length chain
  exact Nat.le_of_eq (EndsInChain.eq_zero chain apart)

theorem exists_longest_chain (name before : Text) :
    ∃ longest, IsGreatest {length | EndsInChain name before length} longest := by
  induction size : before.length using Nat.strongRecOn generalizing before with
  | ind size ih =>
      by_cases chained : ∃ start, Opens start ∧ before = start ++ (name ++ stringDeclaration)
      · obtain ⟨start, opens, rfl⟩ := chained
        have shorter : start.length < (start ++ (name ++ stringDeclaration)).length := by
          simp [stringDeclaration]
        obtain ⟨longest, greatest⟩ := ih start.length (size ▸ shorter) start rfl
        exact ⟨longest + 1, isGreatest_link opens greatest⟩
      · refine ⟨0, isGreatest_zero ?_⟩
        intro start opens same
        exact chained ⟨start, opens, same⟩

theorem evenChain_iff (greatest : IsGreatest {length | EndsInChain name before length} longest) :
    EvenChain name before ↔ Even longest := by
  constructor
  · rintro ⟨other, also, even⟩
    rwa [greatest.unique also]
  · intro even
    exact ⟨longest, greatest, even⟩

theorem evenChain_link_iff (opens : Opens before) :
    EvenChain name (before ++ (name ++ stringDeclaration)) ↔ ¬ EvenChain name before := by
  obtain ⟨longest, greatest⟩ := exists_longest_chain name before
  rw [evenChain_iff (isGreatest_link opens greatest), evenChain_iff greatest, Nat.even_add_one]

theorem evenChain_of_apart
    (apart : ∀ start, Opens start → before ≠ start ++ (name ++ stringDeclaration)) :
    EvenChain name before :=
  (evenChain_iff (isGreatest_zero apart)).mpr Even.zero

end

section

variable {name done clause : Text} {opened : Bool}

theorem opensAfter_iff_takes (fits : opened = true ↔ Takes name done) {before : Text}
    (clean : ';' ∉ before) : opensAfter opened before = true ↔ Takes name (done ++ before) := by
  cases before with
  | nil =>
      rw [List.append_nil]
      exact fits
  | cons char later =>
      -- inside a clause no chain ends, for a declaration ends with a semicolon
      have apart : ∀ start, Opens start →
          done ++ char :: later ≠ start ++ (name ++ stringDeclaration) := by
        intro start _ same
        have ends := congrArg List.getLast? same
        simp only [List.getLast?_append, stringDeclaration] at ends
        exact clean (List.mem_of_getLast? (by simpa using ends))
      rw [Takes, and_iff_left (evenChain_of_apart apart), opens_iff, opensAfter_append]
      rfl

theorem exists_before_of_append_eq {start word : Text}
    (complete : ∀ char ∈ done.getLast?, char = ';') (solid : ';' ∉ word)
    (same : start ++ word = done ++ clause) :
    ∃ before, start = done ++ before ∧ clause = before ++ word := by
  rcases List.eq_nil_or_concat done with rfl | ⟨earlier, last, rfl⟩
  · exact ⟨start, rfl, same.symm⟩
  · rw [List.concat_eq_append] at complete same ⊢
    obtain rfl : last = ';' := complete last (by simp)
    rw [List.append_assoc, List.singleton_append] at same
    obtain ⟨between, rfl, rfl⟩ := append_eq_append_stop solid same
    exact ⟨between, by simp, rfl⟩

theorem takes_clause_iff (plain : ';' ∉ name) (complete : ∀ char ∈ done.getLast?, char = ';')
    (fits : opened = true ↔ Takes name done) (whole : ';' ∉ clause) :
    Takes name (done ++ (clause ++ [';'])) ↔ ¬ EndsDeclared opened name clause := by
  have opens : Opens (done ++ (clause ++ [';'])) := by
    rw [opens_iff, ← List.append_assoc, opensAfter_concat]
    rfl
  rw [Takes, and_iff_right opens]
  by_cases ends : ∃ before, clause = before ++ (name ++ stringType) ∧ Opens (done ++ before)
  · obtain ⟨before, rfl, opensBefore⟩ := ends
    have clean : ';' ∉ before := fun member => whole (List.mem_append_left _ member)
    have declared : EndsDeclared opened name (before ++ (name ++ stringType)) ↔
        EvenChain name (done ++ before) := by
      have taken := opensAfter_iff_takes fits clean
      rw [Takes, and_iff_right opensBefore] at taken
      rw [← taken]
      constructor
      · rintro ⟨other, same, isOpen⟩
        rwa [List.append_cancel_right same]
      · intro isOpen
        exact ⟨before, rfl, isOpen⟩
    have link : done ++ (before ++ (name ++ stringType) ++ [';']) =
        (done ++ before) ++ (name ++ stringDeclaration) := by
      simp [stringType, stringDeclaration]
    rw [declared, link, evenChain_link_iff opensBefore]
  · have even : EvenChain name (done ++ (clause ++ [';'])) := by
      apply evenChain_of_apart
      intro start opensStart same
      have shorter : (start ++ (name ++ stringType)) ++ [';'] = (done ++ clause) ++ [';'] := by
        simpa [stringType, stringDeclaration] using same.symm
      obtain ⟨before, rfl, rfl⟩ := exists_before_of_append_eq complete
        (stop_not_mem_declared plain) (List.append_cancel_right shorter)
      exact ends ⟨before, rfl, opensStart⟩
    have undeclared : ¬ EndsDeclared opened name clause := by
      intro declared
      obtain ⟨before, rfl, isOpen, clean, _⟩ := declared.parts whole
      exact ends ⟨before, rfl, ((opensAfter_iff_takes fits clean).mp isOpen).1⟩
    exact iff_of_true even undeclared

theorem taken_in_clause_iff (plain : ';' ∉ name) (fits : opened = true ↔ Takes name done)
    (whole : ';' ∉ clause) (rest place : Text) :
    ((∃ after, clause ++ ';' :: rest = place ++ (name ++ stringDeclaration) ++ after) ∧
        Takes name (done ++ place)) ↔
      (clause = place ++ (name ++ stringType) ∧ opensAfter opened place = true) ∨
        ∃ more, ((∃ after, rest = more ++ (name ++ stringDeclaration) ++ after) ∧
            Takes name (done ++ (clause ++ [';']) ++ more)) ∧ clause ++ ';' :: more = place := by
  have regroup (more : Text) :
      done ++ (clause ++ ';' :: more) = done ++ (clause ++ [';']) ++ more := by
    simp
  simp only [declaration_in_clause_iff plain whole]
  constructor
  · rintro ⟨⟨after, ⟨rfl, _⟩ | ⟨more, rfl, behind⟩⟩, taken⟩
    · have clean : ';' ∉ place := fun member => whole (List.mem_append_left _ member)
      exact .inl ⟨rfl, (opensAfter_iff_takes fits clean).mpr taken⟩
    · rw [regroup] at taken
      exact .inr ⟨more, ⟨⟨after, behind⟩, taken⟩, rfl⟩
  · rintro (⟨rfl, isOpen⟩ | ⟨more, ⟨⟨after, behind⟩, taken⟩, rfl⟩)
    · have clean : ';' ∉ place := fun member => whole (List.mem_append_left _ member)
      exact ⟨⟨rest, .inl ⟨rfl, rfl⟩⟩, (opensAfter_iff_takes fits clean).mp isOpen⟩
    · rw [regroup]
      exact ⟨⟨after, .inr ⟨more, rfl, behind⟩⟩, taken⟩

/-- The walk from the end of a clause on, with the chains counted over the whole text. -/
theorem sweep_fills_gaps (plain : ';' ∉ name) (complete : ∀ char ∈ done.getLast?, char = ';')
    (fits : opened = true ↔ Takes name done) (text : Text) :
    ∃ gaps : Gaps, text = gaps.fill (name ++ stringDeclaration) ∧
      (dateField name).sweep opened text = gaps.fill (name ++ dateDeclaration) ∧
      ∀ place, place ∈ gaps.places (name ++ stringDeclaration) ↔
        (∃ after, text = place ++ (name ++ stringDeclaration) ++ after) ∧
          Takes name (done ++ place) := by
  induction text using clause_induction generalizing opened done with
  | last clause whole =>
      refine ⟨.last clause, rfl, sweep_last_clause name opened whole, ?_⟩
      intro place
      simp only [Gaps.places, List.not_mem_nil, false_iff, not_and]
      rintro ⟨after, rfl⟩
      simp [stringDeclaration] at whole
  | clause clause rest whole ih =>
      have completed : ∀ char ∈ (done ++ (clause ++ [';'])).getLast?, char = ';' := by
        simp
      have step := takes_clause_iff plain complete fits whole
      by_cases declared : EndsDeclared opened name clause
      · have closed : false = true ↔ Takes name (done ++ (clause ++ [';'])) := by
          simp [step, declared]
        obtain ⟨gaps, filled, swept, placed⟩ := ih completed closed
        obtain ⟨before, ends, isOpen, clean, _⟩ := declared.parts whole
        have ending (word : Text) : clause ++ ';' :: word =
            before ++ (name ++ stringDeclaration) ++ word := by
          simp [ends, stringType, stringDeclaration]
        refine ⟨.more before gaps, ?_, ?_, ?_⟩
        · rw [Gaps.fill, ← filled, ending]
        · rw [Gaps.fill, ← swept, ends, sweep_declared plain clean isOpen]
          simp [dateType, dateDeclaration]
        · intro place
          have here : clause = place ++ (name ++ stringType) ∧ opensAfter opened place = true ↔
              place = before := by
            constructor
            · rintro ⟨same, _⟩
              exact List.append_cancel_right (same.symm.trans ends)
            · rintro rfl
              exact ⟨ends, isOpen⟩
          rw [taken_in_clause_iff plain fits whole, here]
          simp only [Gaps.places, List.mem_cons, List.mem_map, placed, ending]
      · have stillOpen : true = true ↔ Takes name (done ++ (clause ++ [';'])) := by
          simp [step, declared]
        obtain ⟨gaps, filled, swept, placed⟩ := ih completed stillOpen
        refine ⟨gaps.widen (clause ++ [';']), ?_, ?_, ?_⟩
        · rw [Gaps.fill_widen, ← filled]
          simp
        · rw [Gaps.fill_widen, ← swept, sweep_undeclared plain whole declared]
          simp
        · intro place
          have nowhere : ¬ (clause = place ++ (name ++ stringType) ∧
              opensAfter opened place = true) := by
            rintro ⟨same, isOpen⟩
            exact declared ⟨place, same, isOpen⟩
          rw [taken_in_clause_iff plain fits whole, or_iff_right nowhere, Gaps.places_widen]
          simp only [List.mem_map, placed, List.append_assoc, List.singleton_append]

end

/-- The rule for a name without a semicolon leaves a text as it is, but for the type in certain
declarations of the field: those at a place where a name may begin and where the longest chain of
such declarations that ends there has an even length. -/
theorem dateField_replaces_every_other {name : Text} (plain : ';' ∉ name) (text : Text) :
    ∃ gaps : Gaps, text = gaps.fill (name ++ stringDeclaration) ∧
      (Table.ofDateFields [name]).apply text = gaps.fill (name ++ dateDeclaration) ∧
      ∀ place, place ∈ gaps.places (name ++ stringDeclaration) ↔
        (∃ after, text = place ++ (name ++ stringDeclaration) ++ after) ∧
          Opens place ∧ EvenChain name place := by
  have opens : Opens [] := by simp [Opens]
  have even : EvenChain name [] := by
    apply evenChain_of_apart
    intro start _
    simp [stringDeclaration]
  have fits : true = true ↔ Takes name [] := iff_of_true rfl ⟨opens, even⟩
  exact sweep_fills_gaps plain (by simp) fits text

def touchingDeclarations : Text :=
  "a.b: string;a.b: string;a.b: string; xa.b: string;".toList

theorem touchingDeclarations_replaced :
    ';' ∉ "a.b".toList ∧
      (Table.ofDateFields ["a.b".toList]).apply touchingDeclarations =
        "a.b: Date;a.b: string;a.b: Date; xa.b: string;".toList ∧
      ∃ gaps : Gaps, touchingDeclarations = gaps.fill ("a.b".toList ++ stringDeclaration) ∧
        (Table.ofDateFields ["a.b".toList]).apply touchingDeclarations =
          gaps.fill ("a.b".toList ++ dateDeclaration) ∧
        ∀ place, place ∈ gaps.places ("a.b".toList ++ stringDeclaration) ↔
          (∃ after, touchingDeclarations = place ++ ("a.b".toList ++ stringDeclaration) ++ after) ∧
            Opens place ∧ EvenChain "a.b".toList place :=
  ⟨by decide, by decide +kernel,
    dateField_replaces_every_other (by decide) touchingDeclarations⟩

end TypePolish
