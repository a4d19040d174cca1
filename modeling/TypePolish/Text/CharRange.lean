/-!
Sets of characters given as closed ranges of code points, in ascending order and apart.
Membership stops at the first range that lies beyond the code point, which is right for
ranges in that order (`contains_iff`).
-/

namespace TypePolish

abbrev CharRanges := List (Nat × Nat)

namespace CharRanges

def contains : CharRanges → Nat → Bool
  | [], _ => false
  | (first, last) :: later, point =>
      if point < first then false else decide (point ≤ last) || contains later point

def ascendingFrom : Nat → CharRanges → Bool
  | _, [] => true
  | bound, (first, last) :: later =>
      decide (bound ≤ first) && decide (first ≤ last) && ascendingFrom (last + 1) later

theorem le_of_mem_of_ascendingFrom {bound : Nat} {ranges : CharRanges}
    (ascending : ascendingFrom bound ranges = true) :
    ∀ range ∈ ranges, bound ≤ range.1 := by
  induction ranges generalizing bound with
  | nil => simp
  | cons head later ih =>
      simp only [ascendingFrom, Bool.and_eq_true, decide_eq_true_eq] at ascending
      intro range member
      rcases List.mem_cons.mp member with rfl | member
      · exact ascending.1.1
      · have := ih ascending.2 range member
        omega

theorem contains_iff {bound : Nat} {ranges : CharRanges} {point : Nat}
    (ascending : ascendingFrom bound ranges = true) :
    contains ranges point = true ↔ ∃ range ∈ ranges, range.1 ≤ point ∧ point ≤ range.2 := by
  induction ranges generalizing bound with
  | nil => simp [contains]
  | cons head later ih =>
      have lower := le_of_mem_of_ascendingFrom ascending
      simp only [ascendingFrom, Bool.and_eq_true, decide_eq_true_eq] at ascending
      have beyond := le_of_mem_of_ascendingFrom ascending.2
      simp only [contains]
      split
      next before =>
        simp only [Bool.false_eq_true, List.mem_cons, false_iff, not_exists, not_and]
        rintro range (rfl | member)
        · intro _; omega
        · have := beyond range member
          intro _; omega
      next reached =>
        rw [Bool.or_eq_true, decide_eq_true_eq, ih ascending.2]
        constructor
        · rintro (inside | ⟨range, member, inside⟩)
          · exact ⟨head, by simp, by omega, inside⟩
          · exact ⟨range, by simp [member], inside⟩
        · rintro ⟨range, member, inside⟩
          rcases List.mem_cons.mp member with rfl | member
          · exact Or.inl inside.2
          · exact Or.inr ⟨range, member, inside⟩

end CharRanges

end TypePolish
