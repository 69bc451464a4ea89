import Mathlib.Algebra.Order.Ring.Nat
import Mathlib.Data.List.Basic

/-!
# Lists of intervals

An ordered list of intervals that do not meet stands for the set of numbers it
covers.  Intervals that touch may stand beside each other.
-/

namespace NearLink.Intervals

open List

/-- The numbers from `first` to `last`. -/
structure Interval where
  first : Nat
  last : Nat

@[grind =] def Interval.Holds (interval : Interval) (number : Nat) : Prop :=
  interval.first ≤ number ∧ number ≤ interval.last

instance (interval : Interval) (number : Nat) :
    Decidable (interval.Holds number) :=
  inferInstanceAs (Decidable (_ ∧ _))

@[grind =] def Covers (intervals : List Interval) (number : Nat) : Prop :=
  ∃ interval ∈ intervals, interval.Holds number

structure Separate (intervals : List Interval) : Prop where
  proper : ∀ interval ∈ intervals, interval.first ≤ interval.last
  ordered : intervals.Pairwise fun left right => left.last < right.first

variable {intervals others : List Interval} {interval next : Interval}
  {number : Nat}

@[simp] theorem covers_nil : ¬ Covers [] number := by
  simp [Covers]

@[simp] theorem covers_cons :
    Covers (interval :: intervals) number ↔
      interval.Holds number ∨ Covers intervals number := by
  simp [Covers]

@[simp] theorem covers_append :
    Covers (intervals ++ others) number ↔
      Covers intervals number ∨ Covers others number := by
  simp [Covers, or_and_right, exists_or]

theorem Separate.nil : Separate [] :=
  ⟨by simp, List.Pairwise.nil⟩

theorem separate_cons :
    Separate (interval :: intervals) ↔ interval.first ≤ interval.last ∧
        (∀ other ∈ intervals, interval.last < other.first) ∧
        Separate intervals := by
  constructor
  · rintro ⟨proper, ordered⟩
    rw [pairwise_cons] at ordered
    exact ⟨proper interval (by simp), ordered.1,
      fun other member => proper other (.tail _ member),
      ordered.2⟩
  · rintro ⟨proper, before, ⟨rest, ordered⟩⟩
    refine ⟨?_, pairwise_cons.mpr ⟨before, ordered⟩⟩
    exact forall_mem_cons.mpr ⟨proper, rest⟩

theorem separate_append :
    Separate (intervals ++ others) ↔ Separate intervals ∧ Separate others ∧
        ∀ left ∈ intervals, ∀ right ∈ others, left.last < right.first := by
  constructor
  · rintro ⟨proper, ordered⟩
    rw [pairwise_append] at ordered
    exact ⟨⟨fun left member => proper left (by simp [member]), ordered.1⟩,
      ⟨fun right member => proper right (by simp [member]), ordered.2.1⟩,
      ordered.2.2⟩
  · rintro ⟨left, right, apart⟩
    refine ⟨?_, pairwise_append.mpr ⟨left.ordered, right.ordered, apart⟩⟩
    exact forall_mem_append.mpr ⟨left.proper, right.proper⟩

theorem holds_join (touch : interval.last + 1 = next.first)
    (proper : interval.first ≤ interval.last)
    (follows : next.first ≤ next.last) :
    Interval.Holds ⟨interval.first, next.last⟩ number ↔
      interval.Holds number ∨ next.Holds number := by
  simp only [Interval.Holds]
  omega

theorem Separate.join
    (separate : Separate (intervals ++ interval :: next :: others)) :
    Separate (intervals ++ ⟨interval.first, next.last⟩ :: others) := by
  simp only [separate_append, separate_cons, mem_cons,
    forall_eq_or_imp] at separate ⊢
  obtain ⟨left, ⟨proper, ⟨gap, _⟩, follows, after, right⟩, before⟩ := separate
  refine ⟨left, ⟨by omega, after, right⟩, ?_⟩
  intro other member
  exact ⟨(before other member).1, (before other member).2.2⟩

theorem Separate.insert (separate : Separate intervals)
    (proper : interval.first ≤ interval.last)
    (apart : ∀ number, ¬ (interval.Holds number ∧ Covers intervals number)) :
    Separate (intervals.takeWhile (fun other => other.first < interval.first) ++
      interval ::
        intervals.dropWhile (fun other => other.first < interval.first)) := by
  induction intervals with
  | nil => simpa [separate_cons] using ⟨proper, Separate.nil⟩
  | cons head intervals induction =>
    rw [separate_cons] at separate
    obtain ⟨headProper, gap, rest⟩ := separate
    have restApart : ∀ number,
        ¬ (interval.Holds number ∧ Covers intervals number) := by
      rintro number ⟨inside, covered⟩
      exact apart number ⟨inside, covers_cons.mpr (.inr covered)⟩
    by_cases before : head.first < interval.first
    · have placed := induction rest restApart
      have clear : head.last < interval.first := by
        by_contra meets
        exact apart interval.first ⟨⟨le_rfl, proper⟩,
          covers_cons.mpr (.inl ⟨Nat.le_of_lt before, by omega⟩)⟩
      simp only [takeWhile_cons, dropWhile_cons, before,
        decide_true, if_true, cons_append]
      refine separate_cons.mpr ⟨headProper, ?_, placed⟩
      intro other member
      rcases mem_append.mp member with first | second
      · exact gap other (takeWhile_subset _ first)
      · rcases mem_cons.mp second with rfl | later
        · exact clear
        · exact gap other (dropWhile_subset _ later)
    · have clear : interval.last < head.first := by
        by_contra meets
        exact apart head.first ⟨⟨by omega, by omega⟩,
          covers_cons.mpr (.inl ⟨le_rfl, headProper⟩)⟩
      simp only [takeWhile_cons, dropWhile_cons, before,
        decide_false, Bool.false_eq_true, if_false, nil_append]
      refine separate_cons.mpr
        ⟨proper, ?_, separate_cons.mpr ⟨headProper, gap, rest⟩⟩
      refine forall_mem_cons.mpr ⟨clear, fun other later => ?_⟩
      have := gap other later
      omega

/-- No number right behind an interval is covered: no two can be joined. -/
def Loose (intervals : List Interval) : Prop :=
  ∀ interval ∈ intervals, ¬ Covers intervals (interval.last + 1)

theorem loose_singleton (interval : Interval) : Loose [interval] := by
  simp [Loose, Covers, Interval.Holds]

/-- Numbers that follow one another and are all covered lie in one interval. -/
theorem Loose.exists_interval (loose : Loose intervals) {first size : Nat}
    (some : 0 < size) (covered : ∀ number, first ≤ number →
      number < first + size → Covers intervals number) :
    ∃ interval ∈ intervals,
      interval.first ≤ first ∧ first + size ≤ interval.last + 1 := by
  obtain ⟨interval, member, begins, ends⟩ := covered first le_rfl (by omega)
  refine ⟨interval, member, begins, ?_⟩
  by_contra beyond
  exact loose interval member
    (covered (interval.last + 1) (by omega) (by omega))

theorem Loose.eq_singleton (loose : Loose intervals)
    (separate : Separate intervals) {first last : Nat} (proper : first ≤ last)
    (covers : ∀ number,
      Covers intervals number ↔ first ≤ number ∧ number ≤ last) :
    intervals = [⟨first, last⟩] := by
  have inside : ∀ interval ∈ intervals,
      first ≤ interval.first ∧ interval.last ≤ last := by
    intro interval member
    have ordered := separate.proper interval member
    exact ⟨((covers _).mp ⟨interval, member, le_rfl, ordered⟩).1,
      ((covers _).mp ⟨interval, member, ordered, le_rfl⟩).2⟩
  have all : ∀ number, first ≤ number → number < first + (last + 1 - first) →
      Covers intervals number :=
    fun number lower upper => (covers number).mpr ⟨lower, by omega⟩
  obtain ⟨whole, member, begins, ends⟩ :=
    loose.exists_interval (by omega) all
  obtain ⟨before, after, rfl⟩ := append_of_mem member
  obtain ⟨_, right, apart⟩ := separate_append.mp separate
  have place := inside whole (by simp)
  have gap := (separate_cons.mp right).2.1
  have ordered := separate.proper
  obtain rfl : before = [] :=
    eq_nil_iff_forall_not_mem.mpr (by grind)
  obtain rfl : after = [] :=
    eq_nil_iff_forall_not_mem.mpr (by grind)
  obtain ⟨begin, finish⟩ := whole
  simp only [nil_append, List.cons.injEq, Interval.mk.injEq, and_true]
  dsimp only at begins ends place
  omega

end NearLink.Intervals
