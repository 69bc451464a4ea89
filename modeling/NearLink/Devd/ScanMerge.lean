import Mathlib.Algebra.Order.Field.Rat
import Mathlib.Data.Prod.Lex
import NearLink.Devd.Scan

/-!
# Merging scan settings

The choice of `FetchFrame1TargetScanSettings` and
`FetchFrame4TargetScanSettings` among arbitrary windows and intervals.  The
products of promoted words are `int`s of 32 bits; one that does not fit wraps.
-/

namespace NearLink.Devd

open List

structure Duty where
  window : UInt16
  interval : UInt16

def crossProduct (left right : UInt16) : Int :=
  Int.bmod (left.toNat * right.toNat) (2 ^ 32)

def betterDuty (target other : Duty) : Duty :=
  let left := crossProduct target.window other.interval
  let right := crossProduct target.interval other.window
  if left < right ∨ left = right ∧ other.interval < target.interval then other
  else target

/-- The loop over one of the two settings of the scanners. -/
def fetchTargetDuty : List Duty → Option Duty
  | [] => none
  | duty :: duties => some (duties.foldl betterDuty duty)

/-- The products in which the settings of two scanners meet do not
overflow. -/
def Duty.Meets (left right : Duty) : Prop :=
  left.window.toNat * right.interval.toNat < 2 ^ 31 ∧
    right.window.toNat * left.interval.toNat < 2 ^ 31

def Fits (duties : List Duty) : Prop := duties.Pairwise Duty.Meets

/-- The values that `ResetScanSetting` or a scan mode sets. -/
def Duty.Made (duty : Duty) : Prop :=
  duty = ⟨0, 0xFFFF⟩ ∨
    ∃ batch mode, scanModeSlots batch mode = some (duty.window, duty.interval)

def Duty.cycle (duty : Duty) : ℚ :=
  duty.window.toNat / duty.interval.toNat

/-- The order in which the better setting is the greater one. -/
def Duty.key (duty : Duty) : ℚ ×ₗ ℕᵒᵈ :=
  toLex (duty.cycle, OrderDual.toDual duty.interval.toNat)

variable {left right duty : Duty} {duties : List Duty}

theorem Duty.Made.window_le (made : duty.Made) : duty.window ≤ 4096 := by
  rcases made with rfl | ⟨batch, mode, found⟩
  · decide
  · have bound : ∀ pair, scanModeSlots batch mode = some pair →
        pair.1 ≤ 4096 := by
      rintro pair found
      cases mode <;> cases batch <;> cases found <;> decide
    exact bound _ found

theorem fits_made (made : ∀ duty ∈ duties, duty.Made) : Fits duties := by
  have below : ∀ left ∈ duties, ∀ right : Duty,
      left.window.toNat * right.interval.toNat < 2 ^ 31 := by
    intro left listed right
    have window := UInt16.le_iff_toNat_le.mp (made left listed).window_le
    calc left.window.toNat * right.interval.toNat
        ≤ (4096 : UInt16).toNat * 2 ^ 16 :=
          Nat.mul_le_mul window right.interval.toNat_lt.le
      _ < 2 ^ 31 := by decide
  exact pairwise_of_forall_mem_list fun left first right second =>
    ⟨below left first right, below right second left⟩

theorem crossProduct_eq {first second : UInt16}
    (fits : first.toNat * second.toNat < 2 ^ 31) :
    crossProduct first second = first.toNat * second.toNat := by
  have whole : (first.toNat : Int) * second.toNat < 2 ^ 31 := by
    exact_mod_cast fits
  have positive : (0 : Int) ≤ first.toNat * second.toNat :=
    Int.mul_nonneg (Int.natCast_nonneg _) (Int.natCast_nonneg _)
  unfold crossProduct
  rw [Int.bmod_def]
  omega

theorem toNat_pos {word : UInt16} (nonzero : word ≠ 0) : 0 < word.toNat :=
  Nat.pos_of_ne_zero fun zero => nonzero (UInt16.toNat_inj.mp zero)

theorem cycle_lt_iff (first : left.interval ≠ 0) (second : right.interval ≠ 0) :
    left.cycle < right.cycle ↔
      left.window.toNat * right.interval.toNat <
        left.interval.toNat * right.window.toNat := by
  rw [Duty.cycle, Duty.cycle, div_lt_div_iff₀
    (by exact_mod_cast toNat_pos first) (by exact_mod_cast toNat_pos second),
    mul_comm (right.window.toNat : ℚ)]
  exact_mod_cast Iff.rfl

theorem cycle_eq_iff (first : left.interval ≠ 0) (second : right.interval ≠ 0) :
    left.cycle = right.cycle ↔
      left.window.toNat * right.interval.toNat =
        left.interval.toNat * right.window.toNat := by
  have below := cycle_lt_iff first second
  have above := cycle_lt_iff second first
  rw [mul_comm, mul_comm right.interval.toNat] at above
  rw [eq_iff_le_not_lt, ← not_lt, above, below]
  omega

theorem betterDuty_eq (meets : left.Meets right) (first : left.interval ≠ 0)
    (second : right.interval ≠ 0) :
    betterDuty left right = if left.key < right.key then right else left := by
  obtain ⟨one, two⟩ := meets
  rw [mul_comm] at two
  rw [betterDuty, crossProduct_eq one, crossProduct_eq two]
  congr 1
  simp only [Duty.key, Prod.Lex.toLex_lt_toLex, cycle_lt_iff first second,
    cycle_eq_iff first second, OrderDual.toDual_lt_toDual, UInt16.lt_iff_toNat_lt]
  norm_cast

theorem foldl_betterDuty (fits : Fits (duty :: duties))
    (timed : ∀ other ∈ duty :: duties, other.interval ≠ 0) :
    duties.foldl betterDuty duty ∈ duty :: duties ∧ ∀ other ∈ duty :: duties,
        other.key ≤ (duties.foldl betterDuty duty).key := by
  induction duties generalizing duty with
  | nil => exact ⟨.head _, fun other listed => by simp_all⟩
  | cons next duties induction =>
    have chosen := betterDuty_eq (rel_of_pairwise_cons fits (.head _))
      (timed duty (by simp)) (timed next (by simp))
    -- the products that are left are those of the better one and the rest
    have inside : (betterDuty duty next :: duties).Sublist
        (duty :: next :: duties) := by
      rw [chosen]
      split
      · exact sublist_cons_self duty _
      · exact (sublist_cons_self next duties).cons_cons duty
    obtain ⟨found, greatest⟩ := induction (fits.sublist inside)
      (fun other listed => timed other (inside.subset listed))
    rw [foldl_cons]
    refine ⟨inside.subset found, fun other listed => ?_⟩
    have top := greatest _ (.head _)
    have both : duty.key ≤ (betterDuty duty next).key ∧
        next.key ≤ (betterDuty duty next).key := by
      rw [chosen]
      split
      next less => exact ⟨less.le, le_rfl⟩
      next more => exact ⟨le_rfl, not_lt.mp more⟩
    rcases mem_cons.mp listed with rfl | later
    · exact both.1.trans top
    · rcases mem_cons.mp later with rfl | last
      · exact both.2.trans top
      · exact greatest other (.tail _ last)

theorem Duty.key_injective (timed : left.interval ≠ 0)
    (same : left.key = right.key) :
    left = right := by
  obtain ⟨cycle, interval⟩ := Prod.mk.inj (toLex.injective same)
  obtain ⟨window, time⟩ := left
  obtain ⟨other, found⟩ := right
  obtain rfl : time = found := UInt16.toNat_inj.mp interval
  have windows : window.toNat * time.toNat = time.toNat * other.toNat :=
    (@cycle_eq_iff ⟨window, time⟩ ⟨other, time⟩ timed timed).mp cycle
  rw [mul_comm] at windows
  rw [UInt16.toNat_inj.mp (Nat.eq_of_mul_eq_mul_left (toNat_pos timed) windows)]

theorem fetchTargetDuty_best (given : duties ≠ [])
    (timed : ∀ duty ∈ duties, duty.interval ≠ 0)
    (small : Fits duties ∨ ∀ duty ∈ duties, duty.Made) :
    Fits duties ∧ ∃ best, fetchTargetDuty duties = some best ∧ best ∈ duties ∧
      (∀ duty ∈ duties, duty.cycle ≤ best.cycle ∧
        (duty.cycle = best.cycle → best.interval ≤ duty.interval)) ∧
      (∀ other, other.Perm duties → fetchTargetDuty other = some best) ∧
      (best.window = 0 → ∀ duty ∈ duties, duty.window = 0) := by
  have fits := small.elim id fits_made
  have greatest : ∀ other, other.Perm duties → ∃ best,
      fetchTargetDuty other = some best ∧ best ∈ duties ∧
        ∀ duty ∈ duties, duty.key ≤ best.key := by
    intro other perm
    cases other with
    | nil => exact absurd perm.nil_eq.symm given
    | cons duty rest =>
      obtain ⟨member, top⟩ :=
        foldl_betterDuty (perm.symm.pairwise fits And.symm)
          fun other listed => timed other (perm.mem_iff.mp listed)
      exact ⟨_, rfl, perm.mem_iff.mp member,
        fun other listed => top other (perm.mem_iff.mpr listed)⟩
  obtain ⟨best, found, member, top⟩ := greatest duties (.refl _)
  have least : ∀ duty ∈ duties, duty.cycle ≤ best.cycle ∧
      (duty.cycle = best.cycle → best.interval ≤ duty.interval) := by
    intro duty listed
    rcases Prod.Lex.toLex_le_toLex.mp (top duty listed) with less | ⟨same, last⟩
    · exact ⟨less.le, fun same => absurd same less.ne⟩
    · exact ⟨same.le, fun _ => last⟩
  refine ⟨fits, best, found, member, least, ?_, ?_⟩
  · intro other perm
    obtain ⟨second, fetched, chosen, most⟩ := greatest other perm
    rw [fetched, Duty.key_injective (timed second chosen)
      ((top second chosen).antisymm (most best member))]
  · intro reset duty listed
    have below := (cycle_lt_iff (timed best member) (timed duty listed)).not.mp
      (least duty listed).1.not_gt
    rw [reset] at below
    by_contra window
    exact below (by simpa using ⟨toNat_pos (timed best member), toNat_pos window⟩)

theorem fetchTargetDuty_scans :
    ∃ best, fetchTargetDuty [⟨0, 0xFFFF⟩, ⟨900, 9000⟩] = some best ∧
      best ∈ [⟨0, 0xFFFF⟩, ⟨900, 9000⟩] :=
  have ⟨best, found, member, _⟩ := (fetchTargetDuty_best (by decide)
    (by decide) (.inr (by
      rintro duty listed
      rcases mem_cons.mp listed with rfl | last
      · exact .inl rfl
      · obtain rfl := mem_singleton.mp last
        exact .inr ⟨false, .lowPower, rfl⟩))).2
  ⟨best, found, member⟩

/-- The product of two full words does not fit. -/
theorem fetchTargetDuty_overflow :
    ¬ ∀ duties, (∀ duty ∈ duties, duty.interval ≠ 0 ∧
          duty.window ≤ duty.interval) → Fits duties := by
  intro all
  have small := all [⟨0xFFFF, 0xFFFF⟩, ⟨0xFFFF, 0xFFFF⟩] (by decide)
  have meets := rel_of_pairwise_cons small (.head _)
  exact absurd meets.1 (by decide)

end NearLink.Devd
