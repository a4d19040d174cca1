import Mathlib.Logic.Function.Iterate
import TypePolish.Proofs.Rule.Separator

/-!
Where a rule matches, and what its pass does to the length of a text. A pass of a rule that finds
no match changes nothing, and if the substitute is shorter than the target any other pass makes the
text shorter (`apply_eq_self_iff`, `length_apply_lt`). A table of such rules reaches a text in
which none of them matches, after as many runs as the text has characters or fewer
(`Table.exists_settled`).
-/

namespace TypePolish

namespace Rule

/-- The rule matches somewhere in the text. A rule for name starts does so at the start of the text
or with a character before its target that no identifier contains. -/
def Occurs (rule : Rule) (text : Text) : Prop :=
  ∃ before after, text = before ++ (rule.target ++ after) ∧
    (rule.place = .nameStart → ∀ char ∈ before.getLast?, isNameChar char = false)

theorem occurs_iff (rule : Rule) (text : Text) : rule.Occurs text ↔ rule.OccursFrom true text := by
  have looks (before : Text) : rule.Looks (opensAfter true before) ↔
      (rule.place = .nameStart → ∀ char ∈ before.getLast?, isNameChar char = false) := by
    rw [Looks, opensAfter_true_iff]
    cases rule.place <;> simp
  simp only [Occurs, OccursFrom, looks]

def Shortens (rule : Rule) : Prop :=
  rule.substitute.length < rule.target.length

instance (rule : Rule) : Decidable rule.Shortens :=
  Nat.decLt _ _

section

variable {rule : Rule} {opened : Bool} {text : Text}

theorem length_sweep_le (shortens : rule.Shortens) (opened : Bool) (text : Text) :
    (rule.sweep opened text).length ≤ text.length := by
  unfold Shortens at shortens
  induction opened, text using rule.sweep_induction with
  | nil opened => simp
  | target opened rest looks ih =>
      rw [sweep_target looks, List.length_append, List.length_append]
      omega
  | char opened char later missed ih =>
      rw [sweep_char missed, List.length_cons, List.length_cons]
      omega

theorem length_sweep_lt (shortens : rule.Shortens) (occurs : rule.OccursFrom opened text) :
    (rule.sweep opened text).length < text.length := by
  induction opened, text using rule.sweep_induction with
  | nil opened =>
      obtain ⟨before, after, whole, _⟩ := occurs
      rw [eq_comm, List.append_eq_nil_iff, List.append_eq_nil_iff] at whole
      exact absurd whole.2.1 rule.target_ne_nil
  | target opened rest looks _ =>
      have below := length_sweep_le shortens false rest
      unfold Shortens at shortens
      rw [sweep_target looks, List.length_append, List.length_append]
      omega
  | char opened char later missed ih =>
      have below := ih ((occursFrom_cons missed).mp occurs)
      rw [sweep_char missed, List.length_cons, List.length_cons]
      omega

end

variable {rule : Rule} {text : Text}

theorem apply_of_not_occurs (absent : ¬ rule.Occurs text) : rule.apply text = text := by
  rw [occurs_iff] at absent
  exact sweep_of_not_occursFrom absent

theorem length_apply_lt (shortens : rule.Shortens) (occurs : rule.Occurs text) :
    (rule.apply text).length < text.length := by
  rw [occurs_iff] at occurs
  exact length_sweep_lt shortens occurs

theorem apply_eq_self_iff (shortens : rule.Shortens) (text : Text) :
    rule.apply text = text ↔ ¬ rule.Occurs text := by
  constructor
  · intro same occurs
    have shorter := length_apply_lt shortens occurs
    rw [same] at shorter
    omega
  · exact apply_of_not_occurs

end Rule

namespace Table

def Settled (table : Table) (text : Text) : Prop :=
  ∀ rule ∈ table, ¬ rule.Occurs text

variable {table : Table}

theorem apply_of_settled {text : Text} (settled : table.Settled text) :
    table.apply text = text := by
  apply apply_of_fixed
  intro rule listed
  exact Rule.apply_of_not_occurs (settled rule listed)

theorem length_apply_le (shortens : ∀ rule ∈ table, rule.Shortens) (text : Text) :
    (table.apply text).length ≤ text.length := by
  have keeps : ∀ rule ∈ table, ∀ later : Text, later.length ≤ text.length →
      (rule.apply later).length ≤ text.length := by
    intro rule listed later bound
    have shorter := Rule.length_sweep_le (shortens rule listed) true later
    exact Nat.le_trans shorter bound
  exact apply_keeps keeps (Nat.le_refl text.length)

theorem length_apply_lt (shortens : ∀ rule ∈ table, rule.Shortens) {text : Text}
    (unsettled : ¬ table.Settled text) : (table.apply text).length < text.length := by
  induction table with
  | nil => exact absurd (List.forall_mem_nil _) unsettled
  | cons rule later ih =>
      rw [List.forall_mem_cons] at shortens
      rw [apply_cons]
      by_cases occurs : rule.Occurs text
      · have first := Rule.length_apply_lt shortens.1 occurs
        have rest := length_apply_le shortens.2 (rule.apply text)
        omega
      · have rest : ¬ Table.Settled later text := by
          intro settled
          exact unsettled (List.forall_mem_cons.mpr ⟨occurs, settled⟩)
        rw [Rule.apply_of_not_occurs occurs]
        exact ih shortens.2 rest

theorem apply_eq_self_iff (shortens : ∀ rule ∈ table, rule.Shortens) (text : Text) :
    table.apply text = text ↔ table.Settled text := by
  constructor
  · intro same
    by_contra unsettled
    have shorter := length_apply_lt shortens unsettled
    rw [same] at shorter
    omega
  · exact apply_of_settled

theorem exists_settled (shortens : ∀ rule ∈ table, rule.Shortens) (text : Text) :
    ∃ runs ≤ text.length, table.Settled (table.apply^[runs] text) := by
  induction size : text.length using Nat.strongRecOn generalizing text with
  | ind size ih =>
      by_cases settled : table.Settled text
      · exact ⟨0, Nat.zero_le _, settled⟩
      · have shorter := length_apply_lt shortens settled
        rw [size] at shorter
        obtain ⟨runs, bound, reached⟩ := ih _ shorter (table.apply text) rfl
        refine ⟨runs + 1, by omega, ?_⟩
        rwa [Function.iterate_succ_apply]

end Table

end TypePolish
