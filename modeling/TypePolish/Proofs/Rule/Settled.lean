import TypePolish.Proofs.Rule.Declared
import TypePolish.Proofs.Rule.Leftover

/-!
Ordinary content is settled by one run of the standard table (`settled_of_ordinary`). The rules for
words leave nothing for themselves, the rules for dates bring no word back, and a declaration is
left only where two of them touch.
-/

namespace TypePolish

open Rule

theorem occurs_anywhere_iff {rule : Rule} (anywhere : rule.place = .anywhere) (text : Text) :
    rule.Occurs text ↔ rule.target <:+: text := by
  constructor
  · rintro ⟨before, after, rfl, _⟩
    exact List.infix_append' before rule.target after
  · rintro ⟨before, after, rfl⟩
    refine ⟨before, after, List.append_assoc before _ after, ?_⟩
    intro nameStart
    rw [anywhere] at nameStart
    contradiction

def Undated (word : Text) : Prop :=
  ∀ before, word <:+: before ++ dateType → word <:+: before ++ stringType

theorem infix_of_infix_dateField {name word : Text} (plain : ';' ∉ name) (undated : Undated word)
    (whole : ';' ∉ word) (some : word ≠ []) (opened : Bool) (text : Text)
    (inside : word <:+: (dateField name).sweep opened text) : word <:+: text := by
  induction text using clause_induction generalizing opened with
  | last clause unbroken => rwa [sweep_last_clause name opened unbroken] at inside
  | clause clause rest unbroken ih =>
      rw [infix_append_separator_iff whole some]
      by_cases declared : EndsDeclared opened name clause
      · obtain ⟨before, rfl, opens, clean, _⟩ := declared.parts unbroken
        rw [sweep_declared plain clean opens, infix_append_separator_iff whole some,
          ← List.append_assoc] at inside
        rcases inside with early | late
        · have kept := undated (before ++ name) early
          rw [List.append_assoc] at kept
          exact .inl kept
        · exact .inr (ih false late)
      · rw [sweep_undeclared plain unbroken declared,
          infix_append_separator_iff whole some] at inside
        exact inside.imp_right (ih true)

theorem infix_of_infix_ofDateFields {names : List Text} (named : ∀ name ∈ names, Named name)
    {word : Text} (undated : Undated word) (whole : ';' ∉ word) (some : word ≠ []) (text : Text)
    (inside : word <:+: (Table.ofDateFields names).apply text) : word <:+: text := by
  have keeps : ∀ rule ∈ Table.ofDateFields names, ∀ later : Text,
      (word <:+: later → word <:+: text) → word <:+: rule.apply later → word <:+: text := by
    intro rule member later early inside
    obtain ⟨name, listed, rfl⟩ := List.mem_map.mp member
    have plain : ';' ∉ name := (named name listed).stop_not_mem
    exact early (infix_of_infix_dateField plain undated whole some true later inside)
  exact Table.apply_keeps keeps id inside

theorem undated_of_stop {start tail rest word : Text} {stop : Char}
    (date : dateType = start ++ stop :: tail) (string : stringType = start ++ rest)
    (absent : stop ∉ word) (missed : ¬ word <:+: tail) : Undated word := by
  have some : word ≠ [] := by
    rintro rfl
    exact missed List.nil_infix
  intro before inside
  rw [date, ← List.append_assoc, infix_append_separator_iff absent some] at inside
  rw [string, ← List.append_assoc]
  rcases inside with early | late
  · exact early.trans (List.prefix_append _ rest).isInfix
  · contradiction

theorem undated_spaced {next : Text} (listed : next ∈ spacedWords) : Undated (' ' :: next) := by
  have apart : ∀ next ∈ spacedWords, ':' ∉ ' ' :: next ∧ ¬ ' ' :: next <:+: " Date".toList := by
    decide
  obtain ⟨colonless, missed⟩ := apart next listed
  exact undated_of_stop (List.nil_append dateType).symm (List.nil_append stringType).symm
    colonless missed

theorem undated_mark : Undated ['?', ':'] := by
  have date : dateType = [':'] ++ ' ' :: "Date".toList := by decide
  have string : stringType = [':'] ++ " string".toList := by decide
  exact undated_of_stop date string (by decide) (by decide)

namespace Table

/-- What the rules for words look for. -/
theorem wordRules_target : ∀ rule ∈ wordRules, rule.place = .anywhere ∧
    ((∃ next ∈ spacedWords, rule.target = ' ' :: next) ∨ rule.target = ['?', ':']) := by
  simp [wordRules_eq, spacedWords, renamePagination, stripAfterSpace, requireFields]

theorem dateFields_head {name : Text} (listed : name ∈ dateFields.map String.toList) :
    ∃ char later, name = char :: later ∧ isWordChar char = true ∧ char ≠ 'P' := by
  have heads : ∀ name ∈ dateFields.map String.toList,
      name.head?.any (fun char => isWordChar char && char != 'P') = true := by
    decide +kernel
  have head := heads name listed
  cases name with
  | nil => contradiction
  | cons char later =>
      simp only [List.head?_cons, Option.any_some, Bool.and_eq_true, bne_iff_ne] at head
      exact ⟨char, later, rfl, head.1, head.2⟩

theorem not_declaresTwice_of_tidy {text : Text} (tidy : Tidy text) {name : Text}
    (listed : name ∈ dateFields.map String.toList) : ¬ DeclaresTwice name text := by
  rintro ⟨before, after, rfl, _⟩
  obtain ⟨char, rest, rfl, named, notP⟩ := dateFields_head listed
  apply tidy.declarations char named notP
  have touching : before ++ (char :: rest ++ stringDeclaration) ++
      (char :: rest ++ stringDeclaration ++ after) =
        (before ++ (char :: rest ++ stringType)) ++ [';', char] ++
          (rest ++ stringDeclaration ++ after) := by
    simp [stringDeclaration, stringType]
  rw [touching]
  exact List.infix_append _ [';', char] _

theorem settled_of_ordinary {content : Text} (ordinary : Ordinary content) :
    standard.Settled (standard.apply content) := by
  have tidy := tidy_wordRules ordinary
  rw [standard, apply_append]
  intro rule listed
  rcases List.mem_append.mp listed with word | date
  · obtain ⟨anywhere, target⟩ := wordRules_target rule word
    rw [occurs_anywhere_iff anywhere]
    intro inside
    have stays {target : Text} (undated : Undated target) (whole : ';' ∉ target)
        (some : target ≠ []) (isTarget : rule.target = target) :
        target <:+: wordRules.apply content := by
      rw [isTarget] at inside
      exact infix_of_infix_ofDateFields dateFields_named undated whole some _ inside
    rcases target with ⟨next, spaced, isTarget⟩ | isTarget
    · have whole : ∀ next ∈ spacedWords, ';' ∉ ' ' :: next := by decide
      exact tidy.words next spaced
        (stays (undated_spaced spaced) (whole next spaced) (List.cons_ne_nil ' ' next) isTarget)
    · exact tidy.marks (stays undated_mark (by decide) (by decide) isTarget)
  · obtain ⟨name, member, rfl⟩ := List.mem_map.mp date
    rw [occurs_dateField_iff, declares_ofDateFields_iff dateFields_named dateFields_nodup member]
    exact not_declaresTwice_of_tidy tidy member

end Table

end TypePolish
