import NearLink.Dtap.Reliable
import NearLink.Serial
import Mathlib.Data.Nat.Bitwise

/-!
# Frame numbers as positions in a stream

The 14-bit frame numbers of the reliable mode are residues of stream
positions.  `seqOf` takes the residue; the lemmas rephrase the comparisons and
the increment of the source in terms of positions.
-/

namespace NearLink.Dtap

open NearLink List

def seqOf (position : Nat) : Nat := position % 16384

variable (position : Nat)

theorem seqOf_lt : seqOf position < 16384 :=
  Nat.mod_lt _ (by decide)

variable {seq other own : Nat}

theorem seqOf_of_lt (small : seq < 16384) : seqOf seq = seq :=
  Nat.mod_eq_of_lt small

theorem getNextFrameSeq_eq (small : seq < 16384) :
    getNextFrameSeq seq = (seq + 1) % 16384 := by
  unfold getNextFrameSeq frameSeqMax
  split <;> omega

@[simp] theorem getNextFrameSeq_seqOf :
    getNextFrameSeq (seqOf position) = seqOf (position + 1) := by
  rw [getNextFrameSeq_eq (seqOf_lt position)]
  unfold seqOf
  omega

theorem isFrameSeqSmaller_iff (ownSmall : own < 16384)
    (otherSmall : other < 16384) : isFrameSeqSmaller own other = true ↔
      8192 ≤ (own + 16384 - other) % 16384 := by
  have mask : frameSeqSignMask = 2 ^ 13 := rfl
  have signBit : ∀ difference : Nat,
      difference &&& 2 ^ 13 = 2 ^ 13 ↔ 8192 ≤ difference % 16384 := by
    intro difference
    rw [Nat.and_two_pow, Nat.testBit_eq_decide_div_mod_eq]
    by_cases set : difference / 2 ^ 13 % 2 = 1
    · simp only [set, decide_true, Bool.toNat_true, Nat.one_mul, true_iff]
      omega
    · simp only [set, decide_false, Bool.toNat_false, Nat.zero_mul]
      omega
  unfold isFrameSeqSmaller
  rw [mask, beq_iff_eq, signBit]
  omega

theorem isFrameSeqSmaller_iff_precedes (ownSmall : own < 16384)
    (otherSmall : other < 16384) :
    isFrameSeqSmaller own other = true ↔ Serial.precedes 8192 own other :=
  isFrameSeqSmaller_iff ownSmall otherSmall

theorem ahead_seqOf {position place : Nat} (atLeast : position ≤ place)
    (near : place < position + 16384) :
    Serial.ahead 16384 (seqOf position) (seqOf place) = place - position := by
  obtain ⟨distance, rfl⟩ := Nat.exists_eq_add_of_le atLeast
  unfold seqOf
  rw [Serial.ahead_mod (by decide), Nat.add_sub_cancel_left]
  exact Nat.mod_eq_of_lt (by omega)

/-- On positions less than half the number space apart the comparison of the
source is the comparison of the positions. -/
theorem isFrameSeqSmaller_seqOf (ownNear : own < other + 8192)
    (otherNear : other ≤ own + 8192) :
    isFrameSeqSmaller (seqOf own) (seqOf other) = decide (own < other) := by
  rw [Bool.eq_iff_iff, decide_eq_true_iff,
    isFrameSeqSmaller_iff_precedes (seqOf_lt own) (seqOf_lt other)]
  exact Serial.precedes_mod_iff (by decide) ownNear otherNear

theorem seqOf_eq_iff {left right : Nat}
    (leftNear : left < right + 16384) (rightNear : right < left + 16384) :
    seqOf left = seqOf right ↔ left = right :=
  Serial.mod_eq_iff leftNear rightNear

theorem exists_eq_seqOf_add (small : seq < 16384) :
    ∃ distance, distance < 16384 ∧ seq = seqOf (position + distance) := by
  refine ⟨(seq + 16384 - position % 16384) % 16384,
    Nat.mod_lt _ (by decide), ?_⟩
  unfold seqOf
  omega

theorem boundarySeq_eq (bufferSeq size : Nat) :
    (bufferSeq + size) % 65536 &&& frameSeqMax = seqOf (bufferSeq + size) := by
  have mask : frameSeqMax = 2 ^ 14 - 1 := rfl
  rw [mask, Nat.and_two_pow_sub_one_eq_mod]
  unfold seqOf
  omega

def NumberedFrom (start : Nat) (frames : List Frame) : Prop :=
  frames.map Frame.txSeq = (List.range' start frames.length).map seqOf

theorem numberedFrom_nil (start : Nat) : NumberedFrom start [] := rfl

variable {frames : List Frame} {start count : Nat}

theorem numberedFrom_cons {frame : Frame} :
    NumberedFrom start (frame :: frames) ↔
      frame.txSeq = seqOf start ∧ NumberedFrom (start + 1) frames := by
  simp [NumberedFrom, range'_succ]

theorem numberedFrom_append {first second : List Frame} :
    NumberedFrom start (first ++ second) ↔ NumberedFrom start first ∧
        NumberedFrom (start + first.length) second := by
  induction first generalizing start with
  | nil => simp [numberedFrom_nil]
  | cons frame first induction =>
    have shift : start + 1 + first.length = start + (first.length + 1) := by
      omega
    rw [cons_append, numberedFrom_cons, numberedFrom_cons, induction,
      length_cons, shift, and_assoc]

theorem NumberedFrom.drop (numbered : NumberedFrom start frames)
    (within : count ≤ frames.length) :
    NumberedFrom (start + count) (frames.drop count) := by
  have whole := numbered
  rw [← take_append_drop count frames, numberedFrom_append] at whole
  simpa [length_take, Nat.min_eq_left within] using whole.2

theorem NumberedFrom.of_map_eq {old new : List Frame}
    (numbered : NumberedFrom start old)
    (same : new.map Frame.txSeq = old.map Frame.txSeq) :
    NumberedFrom start new := by
  have length : new.length = old.length := by
    simpa using congrArg List.length same
  unfold NumberedFrom at numbered ⊢
  rw [same, length, numbered]

theorem NumberedFrom.dropWhile_smaller (numbered : NumberedFrom start frames)
    (within : count ≤ frames.length) (short : frames.length ≤ 255) :
    frames.dropWhile (fun frame =>
        isFrameSeqSmaller frame.txSeq (seqOf (start + count))) =
      frames.drop count := by
  induction frames generalizing start count with
  | nil => simp
  | cons frame frames induction =>
    obtain ⟨head, tail⟩ := numberedFrom_cons.mp numbered
    have length : frames.length + 1 ≤ 255 := by simpa using short
    have bound : count ≤ frames.length + 1 := by simpa using within
    have compare :
        isFrameSeqSmaller frame.txSeq (seqOf (start + count)) =
          decide (start < start + count) := by
      rw [head]
      exact isFrameSeqSmaller_seqOf (by omega) (by omega)
    cases count with
    | zero =>
      rw [dropWhile_cons_of_neg (by rw [compare]; simp),
        drop_zero]
    | succ count =>
      have shift : start + (count + 1) = start + 1 + count := by omega
      rw [dropWhile_cons_of_pos (by simp [compare]),
        drop_succ_cons, shift]
      exact induction tail (by omega) (by omega)

end NearLink.Dtap
