import TypePolish.Proofs.Rule.Pass

/-!
Separators. A character that no identifier contains and that no target contains cuts a text in two
parts that a pass treats alone: what comes after it is treated as at the start of a text. The same
holds for a whole table whose targets all lack the character, as a table keeps all that each of its
rules keeps (`Table.apply_keeps`).
-/

namespace TypePolish

/-- Whether a text begins with a word is decided before the first character that the word lacks. -/
theorem prefix_append_iff {word before after : Text}
    (stops : ∀ char ∈ after.head?, char ∉ word) :
    word <+: before ++ after ↔ word <+: before := by
  constructor
  · intro begins
    induction before generalizing word with
    | nil =>
        cases word with
        | nil => exact List.nil_prefix
        | cons first more =>
            obtain ⟨rest, whole⟩ := begins
            have head : after.head? = some first := by
              rw [← List.nil_append after, ← whole]
              rfl
            exact absurd List.mem_cons_self (stops first head)
    | cons char later ih =>
        cases word with
        | nil => exact List.nil_prefix
        | cons first more =>
            rw [List.cons_append, List.cons_prefix_cons] at begins
            rw [List.cons_prefix_cons]
            refine ⟨begins.1, ih ?_ begins.2⟩
            intro stop head inside
            exact stops stop head (List.mem_cons_of_mem first inside)
  · intro begins
    exact begins.trans (List.prefix_append before after)

theorem not_prefix_of_separator {word after : Text} {separator : Char} (absent : separator ∉ word)
    (some : word ≠ []) : ¬ word <+: separator :: after := by
  obtain ⟨first, more, rfl⟩ := List.exists_cons_of_ne_nil some
  rw [List.mem_cons, not_or] at absent
  exact not_prefix_of_head rfl rfl (Ne.symm absent.1)

theorem separator_stops {word after : Text} {separator : Char} (absent : separator ∉ word) :
    ∀ char ∈ (separator :: after).head?, char ∉ word := by
  rintro char ⟨⟩
  exact absent

/-- So is whether a text holds a word. -/
theorem infix_append_iff {word before after : Text} (stops : ∀ char ∈ after.head?, char ∉ word) :
    word <:+: before ++ after ↔ word <:+: before ∨ word <:+: after := by
  constructor
  · intro inside
    induction before with
    | nil => exact .inr inside
    | cons char later ih =>
        rcases List.infix_cons_iff.mp inside with begins | further
        · have early : word <+: char :: later := (prefix_append_iff stops).mp begins
          exact .inl early.isInfix
        · rcases ih further with early | late
          · exact .inl (early.trans (List.suffix_cons char later).isInfix)
          · exact .inr late
  · rintro (inside | inside)
    · exact inside.trans (List.prefix_append before after).isInfix
    · exact inside.trans (List.suffix_append before after).isInfix

theorem infix_append_separator_iff {word before after : Text} {separator : Char}
    (absent : separator ∉ word) (some : word ≠ []) :
    word <:+: before ++ separator :: after ↔ word <:+: before ∨ word <:+: after := by
  rw [infix_append_iff (separator_stops absent), List.infix_cons_iff,
    or_iff_right (not_prefix_of_separator absent some)]

/-- A word is not found where its first character is missing. -/
theorem infix_of_infix_append {first : Char} {word before after : Text}
    (head : word.head? = some first) (absent : first ∉ before)
    (inside : word <:+: before ++ after) : word <:+: after := by
  induction before with
  | nil => exact inside
  | cons char later ih =>
      rw [List.mem_cons, not_or] at absent
      rcases List.infix_cons_iff.mp inside with begins | further
      · exact absurd begins (not_prefix_of_head head rfl absent.1)
      · exact ih absent.2 further

namespace Rule

variable {rule : Rule} {separator : Char}

/-- The walk stops short at a character that the target lacks. What it does behind depends on what
it did before in its flag only. -/
theorem exists_sweep_append {after : Text} (stops : ∀ char ∈ after.head?, char ∉ rule.target)
    (opened : Bool) (before : Text) :
    ∃ behind, rule.sweep opened (before ++ after) =
      rule.sweep opened before ++ rule.sweep behind after := by
  induction opened, before using rule.sweep_induction with
  | nil opened =>
      refine ⟨opened, ?_⟩
      rw [sweep_nil]
      rfl
  | target opened rest looks ih =>
      obtain ⟨behind, cut⟩ := ih
      refine ⟨behind, ?_⟩
      rw [List.append_assoc, sweep_target looks, sweep_target looks, cut, List.append_assoc]
  | char opened char later missed ih =>
      obtain ⟨behind, cut⟩ := ih
      refine ⟨behind, ?_⟩
      have missedStill : rule.Looks opened → ¬ rule.target <+: char :: (later ++ after) := by
        intro looks begins
        exact missed looks ((prefix_append_iff stops).mp begins)
      rw [List.cons_append, sweep_char missedStill, sweep_char missed, cut, List.cons_append]

theorem sweep_append_separator (absent : separator ∉ rule.target)
    (boundary : isNameChar separator = false) (opened : Bool) (before after : Text) :
    rule.sweep opened (before ++ separator :: after) =
      rule.sweep opened before ++ separator :: rule.sweep true after := by
  obtain ⟨behind, cut⟩ := exists_sweep_append (separator_stops absent) opened before
  have missed : ¬ rule.target <+: separator :: after :=
    not_prefix_of_separator absent rule.target_ne_nil
  rw [cut, sweep_char fun _ => missed, boundary]
  rfl

theorem apply_append_stop (anywhere : rule.place = .anywhere) {after : Text}
    (stops : ∀ char ∈ after.head?, char ∉ rule.target) (before : Text) :
    rule.apply (before ++ after) = rule.apply before ++ rule.apply after := by
  obtain ⟨behind, cut⟩ := exists_sweep_append stops true before
  rw [apply, cut, sweep_anywhere anywhere behind true]
  rfl

end Rule

namespace Table

variable {table : Table} {separator : Char}

@[simp] theorem apply_nil (text : Text) : apply [] text = text := rfl

@[simp] theorem apply_cons (rule : Rule) (later : Table) (text : Text) :
    apply (rule :: later) text = apply later (rule.apply text) := rfl

theorem apply_append (first second : Table) (text : Text) :
    apply (first ++ second) text = apply second (apply first text) :=
  List.foldl_append

/-- A property that every rule keeps is kept by the table. -/
theorem apply_keeps {holds : Text → Prop}
    (keeps : ∀ rule ∈ table, ∀ text, holds text → holds (rule.apply text)) {text : Text}
    (start : holds text) : holds (table.apply text) := by
  induction table generalizing text with
  | nil => exact start
  | cons rule later ih =>
      rw [List.forall_mem_cons] at keeps
      exact ih keeps.2 (keeps.1 text start)

/-- What one rule brings about, given what all rules keep, is there in the end if all keep that
too. -/
theorem apply_brings {before after : Text → Prop} {rule : Rule} (listed : rule ∈ table)
    (keepsBefore : ∀ other ∈ table, ∀ text, before text → before (other.apply text))
    (keepsAfter : ∀ other ∈ table, ∀ text, after text → after (other.apply text))
    (brings : ∀ text, before text → after (rule.apply text)) {text : Text}
    (start : before text) : after (table.apply text) := by
  obtain ⟨earlier, later, rfl⟩ := List.append_of_mem listed
  rw [List.forall_mem_append, List.forall_mem_cons] at keepsBefore keepsAfter
  have ready : before (apply earlier text) := apply_keeps keepsBefore.1 start
  rw [apply_append, apply_cons]
  exact apply_keeps keepsAfter.2.2 (brings _ ready)

theorem apply_of_fixed {text : Text} (fixed : ∀ rule ∈ table, rule.apply text = text) :
    table.apply text = text := by
  have keeps : ∀ rule ∈ table, ∀ later : Text, later = text → rule.apply later = text := by
    rintro rule listed later rfl
    exact fixed rule listed
  exact apply_keeps keeps rfl

theorem apply_of_not_infix {text : Text} (absent : ∀ rule ∈ table, ¬ rule.target <:+: text) :
    table.apply text = text := by
  apply apply_of_fixed
  intro rule listed
  exact Rule.sweep_of_not_infix (absent rule listed) true

theorem apply_append_separator (absent : ∀ rule ∈ table, separator ∉ rule.target)
    (boundary : isNameChar separator = false) (before after : Text) :
    table.apply (before ++ separator :: after) =
      table.apply before ++ separator :: table.apply after := by
  induction table generalizing before after with
  | nil => rfl
  | cons rule later ih =>
      rw [List.forall_mem_cons] at absent
      have first := Rule.sweep_append_separator absent.1 boundary true before after
      have rest := ih absent.2
      calc
        apply (rule :: later) (before ++ separator :: after)
        _ = apply later (rule.apply before ++ separator :: rule.apply after) :=
              congrArg (apply later) first
        _ = _ := rest (rule.apply before) (rule.apply after)

theorem apply_intercalate (absent : ∀ rule ∈ table, separator ∉ rule.target)
    (boundary : isNameChar separator = false) {parts : List Text} (some : parts ≠ []) :
    table.apply ([separator].intercalate parts) =
      [separator].intercalate (parts.map table.apply) := by
  induction parts with
  | nil => contradiction
  | cons part later ih =>
      cases later with
      | nil => simp only [List.map_cons, List.map_nil, List.intercalate_singleton]
      | cons next more =>
          rw [List.map_cons, List.map_cons, List.intercalate_cons_cons,
            List.intercalate_cons_cons, List.append_assoc, List.append_assoc,
            List.singleton_append, List.singleton_append,
            apply_append_separator absent boundary, ih (List.cons_ne_nil next more), List.map_cons]

theorem apply_splitOn (absent : ∀ rule ∈ table, separator ∉ rule.target)
    (boundary : isNameChar separator = false) (text : Text) :
    table.apply text = [separator].intercalate ((text.splitOn separator).map table.apply) := by
  have split := apply_intercalate absent boundary (List.splitOn_ne_nil separator text)
  rwa [List.intercalate_splitOn] at split

end Table

end TypePolish
