import Mathlib.Algebra.Order.Ring.Nat
import Mathlib.Order.Bounds.Basic
import Mathlib.Data.List.TakeDrop

/-!
# Failure tables

The borders of a pattern and what they say about its occurrences in a text, and
the rule for a loop with a variant.
-/

namespace NearLink.Matching

open List

variable {State Result α : Type*}

/-- A loop whose body reads out of bounds, goes on, or leaves with a result. -/
def loop (body : State → Option (State ⊕ Result)) : Nat → State → Option Result
  | 0, _ => none
  | fuel + 1, state =>
    match body state with
    | none => none
    | some (.inl next) => loop body fuel next
    | some (.inr result) => some result

theorem loop_returns {body : State → Option (State ⊕ Result)}
    {invariant : State → Prop} {size : State → Nat} {post : Result → Prop}
    (round : ∀ state, invariant state →
      (∃ next, body state = some (.inl next) ∧ invariant next ∧
        size next < size state) ∨
      ∃ result, body state = some (.inr result) ∧ post result)
    {fuel : Nat} {state : State} (initial : invariant state)
    (enough : size state < fuel) :
    ∃ result, loop body fuel state = some result ∧ post result := by
  induction fuel generalizing state with
  | zero => omega
  | succ fuel induction =>
    rcases round state initial with
      ⟨next, goes, kept, less⟩ | ⟨result, leaves, holds⟩
    · simpa [loop, goes] using induction kept (by omega)
    · exact ⟨result, by simp [loop, leaves], holds⟩

def Agree (pattern text : List α) (offset length : Nat) : Prop :=
  ∀ index < length, pattern[index]? = text[offset + index]?

/-- A proper prefix of the first `length` entries that is a suffix of them. -/
def Border (pattern : List α) (length border : Nat) : Prop :=
  border < length ∧ pattern.take border <:+ pattern.take length

def LongestBorder (pattern : List α) (length border : Nat) : Prop :=
  IsGreatest {border | Border pattern length border} border

variable {pattern text : List α} {length border offset position : Nat}

theorem agree_whole :
    Agree pattern text offset pattern.length ↔
      pattern <+: text.drop offset := by
  simp only [Agree, prefix_iff_getElem?, getElem?_drop]
  exact forall₂_congr fun index within => by
    rw [getElem?_eq_getElem within, eq_comm]

theorem border_iff (within : length ≤ pattern.length) :
    Border pattern length border ↔
      border < length ∧ Agree pattern pattern (length - border) border := by
  refine and_congr_right fun less => ?_
  rw [suffix_iff_eq_drop, length_take_of_le within,
    length_take_of_le (by omega), drop_take]
  constructor
  · intro same index inside
    have entry := congrArg (·[index]?) same
    simpa [inside, show index < length - (length - border) by omega] using entry
  · intro same
    ext1 index
    simp only [getElem?_take, getElem?_drop]
    split
    · rw [if_pos (by omega), same index (by omega)]
    · rw [if_neg (by omega)]

theorem Agree.mono {shorter : ℕ} (agree : Agree pattern text offset length)
    (le : shorter ≤ length) : Agree pattern text offset shorter :=
  fun index inside => agree index (inside.trans_le le)

theorem Agree.extend (agree : Agree pattern text offset length)
    (next : pattern[length]? = text[offset + length]?) :
    Agree pattern text offset (length + 1) := by
  intro index inside
  rcases Nat.lt_succ_iff_lt_or_eq.mp inside with before | rfl
  · exact agree index before
  · exact next

/-- The longest border of what agrees is the least move of the pattern after
which it can still agree. -/
theorem retreat (longest : LongestBorder pattern length border)
    (within : length ≤ pattern.length) (inside : length ≤ position)
    (agree : Agree pattern text (position - length) length) :
    Agree pattern text (position - border) border ∧
      ∀ start, position - length < start → start ≤ position →
        Agree pattern text start (position - start) →
          position - border ≤ start := by
  obtain ⟨less, ends⟩ := (border_iff within).mp longest.1
  constructor
  · intro index small
    have later := agree (length - border + index) (by omega)
    rw [ends index small, later]
    congr 1
    omega
  · intro start after le found
    have shorter : Border pattern length (position - start) := by
      refine (border_iff within).mpr ⟨by omega, fun index small => ?_⟩
      have later := agree (length - (position - start) + index) (by omega)
      rw [found index small, later]
      congr 1
      omega
    have := longest.2 shorter
    omega

end NearLink.Matching
