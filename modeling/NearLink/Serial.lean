import Mathlib.Algebra.Order.Ring.Nat
import Mathlib.Data.Nat.ModEq

/-!
# Serial numbers

A protocol that numbers an unbounded stream with a bounded field compares the
residues of two stream positions.  The comparison is faithful only while the
two positions stay less than half of the number space apart.  The lemmas below
trade a comparison of residues for a comparison of positions, so that every
later argument can be carried out over ordinary natural numbers.
-/

namespace NearLink.Serial

open Nat

def ahead (modulus source target : Nat) : Nat :=
  (target + modulus - source) % modulus

/-- `left` precedes `right` when the forward distance from `right` back to
`left` lies in the upper half of the number space. -/
def precedes (half left right : Nat) : Prop :=
  half ≤ ahead (2 * half) right left

instance (half left right : Nat) : Decidable (precedes half left right) :=
  inferInstanceAs (Decidable (_ ≤ _))

variable {modulus right left : Nat}

/-- The forward distance between residues is the distance between the
positions they stand for. -/
theorem ahead_mod {position distance : Nat} (positive : 0 < modulus) :
    ahead modulus (position % modulus) ((position + distance) % modulus) =
      distance % modulus := by
  have below : position % modulus < modulus := mod_lt _ positive
  have congruence :
      ((position + distance) % modulus + modulus - position % modulus) +
          position % modulus ≡
        distance + position % modulus [MOD modulus] := by
    have restored :
        ((position + distance) % modulus + modulus - position % modulus) +
            position % modulus =
          (position + distance) % modulus + modulus := by
      omega
    rw [restored]
    unfold Nat.ModEq
    rw [add_mod_right, mod_mod, add_comm position distance]
    exact add_mod_mod distance position modulus |>.symm
  exact Nat.ModEq.add_right_cancel' (position % modulus) congruence

/-- Residues of positions less than half a number space apart compare exactly
as the positions do. -/
theorem precedes_mod_iff {half : Nat} (positive : 0 < half)
    (leftNear : left < right + half) (rightNear : right ≤ left + half) :
    precedes half (left % (2 * half)) (right % (2 * half)) ↔ left < right := by
  have modulusPositive : 0 < 2 * half := by omega
  unfold precedes
  by_cases before : left < right
  · -- Walking from `right` forward to `left` wraps the space once.
    obtain ⟨gap, rfl⟩ : ∃ gap, right = left + gap := ⟨right - left, by omega⟩
    have wrapped :
        left % (2 * half) = (left + gap + (2 * half - gap)) % (2 * half) := by
      have total : left + gap + (2 * half - gap) = left + 2 * half := by omega
      rw [total, add_mod_right]
    rw [wrapped, ahead_mod modulusPositive,
      mod_eq_of_lt (by omega : 2 * half - gap < 2 * half)]
    omega
  · obtain ⟨gap, rfl⟩ : ∃ gap, left = right + gap := ⟨left - right, by omega⟩
    rw [ahead_mod modulusPositive, mod_eq_of_lt (by omega : gap < 2 * half)]
    omega

/-- Residues of positions less than a whole number space apart are equal only
for equal positions. -/
theorem mod_eq_iff (leftNear : left < right + modulus)
    (rightNear : right < left + modulus) :
    left % modulus = right % modulus ↔ left = right := by
  constructor
  · intro same
    exact le_antisymm (Nat.ModEq.le_of_lt_add same leftNear)
      (Nat.ModEq.le_of_lt_add same.symm rightNear)
  · intro equality
    rw [equality]

end NearLink.Serial
