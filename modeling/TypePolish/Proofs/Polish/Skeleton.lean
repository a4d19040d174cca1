import TypePolish.Proofs.Polish.Progress
import TypePolish.Proofs.Rule.Separator

/-!
What no rule can change. A rule whose substitute has the same characters of some kind as its target,
in the same order, leaves those of the text as they are (`Rule.filter_sweep`), for it writes back
what it does not replace, boundary characters included. The rules of the standard table take away
and put in the letters of a few words only. All the rest of a text is its skeleton, and no sequence
of these rules touches that (`rules_spare_skeleton`).
-/

namespace TypePolish

def looseChars : List Char :=
  " ?1VRepoServicesstringDate".toList

def isFixed (char : Char) : Bool :=
  decide (char ∉ looseChars)

def skeleton (text : Text) : Text :=
  text.filter isFixed

def syntaxMarks : List Char :=
  "\n\x7b\x7d[]()'\"`,:;<>".toList

def isSyntax (char : Char) : Bool :=
  decide (char ∈ syntaxMarks) || decide (128 ≤ char.toNat)

theorem isFixed_of_isSyntax {char : Char} (mark : isSyntax char = true) : isFixed char = true := by
  have apart : looseChars.all (fun loose => !isSyntax loose) = true := by
    decide +kernel
  rw [isFixed, decide_eq_true_iff]
  intro loose
  have plain := List.all_eq_true.mp apart char loose
  simp [mark] at plain

theorem filter_skeleton {kept : Char → Bool}
    (fixed : ∀ char, kept char = true → isFixed char = true) (text : Text) :
    (skeleton text).filter kept = text.filter kept := by
  rw [skeleton, List.filter_filter]
  apply List.filter_congr
  intro char _
  cases found : kept char with
  | false => rfl
  | true => rw [fixed char found, Bool.and_self]

namespace Rule

def Spares (rule : Rule) (kept : Char → Bool) : Prop :=
  rule.substitute.filter kept = rule.target.filter kept

instance (rule : Rule) (kept : Char → Bool) : Decidable (rule.Spares kept) :=
  inferInstanceAs (Decidable (_ = _))

theorem filter_sweep {rule : Rule} {kept : Char → Bool} (spares : rule.Spares kept) (opened : Bool)
    (text : Text) : (rule.sweep opened text).filter kept = text.filter kept := by
  induction opened, text using rule.sweep_induction with
  | nil opened => rw [sweep_nil]
  | target opened rest looks ih =>
      rw [sweep_target looks, List.filter_append, List.filter_append, spares, ih]
  | char opened char later missed ih =>
      rw [sweep_char missed, List.filter_cons, List.filter_cons, ih]

end Rule

namespace Table

theorem filter_apply {table : Table} {kept : Char → Bool}
    (spares : ∀ rule ∈ table, rule.Spares kept) (text : Text) :
    (table.apply text).filter kept = text.filter kept := by
  have keeps : ∀ rule ∈ table, ∀ current : Text, current.filter kept = text.filter kept →
      (rule.apply current).filter kept = text.filter kept := by
    intro rule listed current same
    exact (Rule.filter_sweep (spares rule listed) true current).trans same
  exact apply_keeps keeps rfl

theorem standard_spares : ∀ rule ∈ standard, rule.Spares isFixed := by
  decide +kernel

end Table

/-- Any sequence of rules of the standard table leaves the skeleton of a text alone, and with it all
marks of the syntax. When a content is polished with such a sequence, only the skeleton of the line
of provenance is added. -/
theorem rules_spare_skeleton {rules : Table} (listed : ∀ rule ∈ rules, rule ∈ Table.standard)
    (text : Text) :
    skeleton (rules.apply text) = skeleton text ∧
      (rules.apply text).filter isSyntax = text.filter isSyntax ∧
      ∀ result, Polishes rules text result →
        skeleton result = skeleton provenanceLine ++ skeleton text := by
  have spares : ∀ rule ∈ rules, rule.Spares isFixed := by
    intro rule member
    exact Table.standard_spares rule (listed rule member)
  have spared (text : Text) : skeleton (rules.apply text) = skeleton text :=
    Table.filter_apply spares text
  refine ⟨spared text, ?_, ?_⟩
  · have marks (text : Text) : (skeleton text).filter isSyntax = text.filter isSyntax :=
      filter_skeleton (fun _ => isFixed_of_isSyntax) text
    rw [← marks (rules.apply text), spared, marks]
  · intro result polishes
    rw [polishes_iff] at polishes
    rw [polishes, spared]
    exact List.filter_append provenanceLine text

def rulesBackAndForth : Table :=
  Table.standard.reverse ++ Table.standard

def bracedDeclarations : Text :=
  "é: RepoV1;\n\x7bdate?: string;\x7d".toList

theorem rulesBackAndForth_spare_skeleton :
    (∀ rule ∈ rulesBackAndForth, rule ∈ Table.standard) ∧
      rulesBackAndForth.apply bracedDeclarations =
        "é: ;\n\x7bdate: Date;\x7d".toList ∧
      skeleton bracedDeclarations = "é:;\n\x7bd:;\x7d".toList ∧
      skeleton (rulesBackAndForth.apply bracedDeclarations) = skeleton bracedDeclarations := by
  have listed : ∀ rule ∈ rulesBackAndForth, rule ∈ Table.standard := by
    intro rule member
    rwa [rulesBackAndForth, List.mem_append, List.mem_reverse, or_self] at member
  obtain ⟨spared, _, _⟩ := rules_spare_skeleton listed bracedDeclarations
  exact ⟨listed, by decide +kernel, by decide +kernel, spared⟩

end TypePolish
