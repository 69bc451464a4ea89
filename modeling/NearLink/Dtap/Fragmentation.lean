import NearLink.Dtap.Reliable
import Mathlib.Data.List.TakeDrop

/-!
# Cutting a message into frames

`DTAP_FragmentFrame` cuts as many pieces as `DTAP_GetFragmentFramesNum`
announces, and the pieces put together are the message again.
-/

namespace NearLink.Dtap

open Sdf Channel List

private theorem roundedUp_sub {length room : Nat} (positive : 0 < room)
    (nonempty : 0 < length) :
    (length + room - 1) / room =
      (length - min length room + room - 1) / room + 1 := by
  by_cases short : length ≤ room
  · have none : (room - 1) / room = 0 := Nat.div_eq_of_lt (by omega)
    have one : (length + room - 1) / room = 1 :=
      Nat.div_eq_of_lt_le (by omega) (by omega)
    rw [Nat.min_eq_left short, Nat.sub_self, Nat.zero_add, none, one]
  · have shift : length + room - 1 =
        (length - min length room + room - 1) + room := by omega
    rw [shift, Nat.add_div_right _ positive]

variable {mps bound : Nat} {data : Bytes}

theorem fragmentPieces_length (positive : 0 < mps)
    (enough : data.length ≤ bound) :
    (fragmentPieces mps bound data).length = (data.length + mps - 1) / mps := by
  induction bound generalizing data with
  | zero =>
    have empty : data.length = 0 := by omega
    rw [empty, Nat.zero_add, Nat.div_eq_of_lt (by omega)]
    rfl
  | succ bound induction =>
    unfold fragmentPieces
    split
    next empty =>
      rw [empty, Nat.zero_add, Nat.div_eq_of_lt (by omega)]
      rfl
    next nonempty =>
      rw [if_neg (by omega : ¬mps = 0), length_cons,
        induction (by rw [length_drop]; omega), length_drop]
      exact (roundedUp_sub positive (by omega)).symm

/-- The pieces are as many as `DTAP_GetFragmentFramesNum` says, for every
length that fits its argument. -/
theorem fragmentPieces_length_eq (positive : 0 < mps)
    (small : data.length < 65536) :
    (fragmentPieces mps data.length data).length =
      getFragmentFramesNum data.length mps := by
  rw [fragmentPieces_length positive (le_rfl)]
  unfold getFragmentFramesNum
  rw [if_neg (by omega), Nat.mod_eq_of_lt small]

theorem fragmentPieces_flatten (positive : 0 < mps)
    (enough : data.length ≤ bound) :
    (fragmentPieces mps bound data).flatten = data := by
  induction bound generalizing data with
  | zero =>
    rw [length_eq_zero_iff.mp (Nat.le_zero.mp enough)]
    rfl
  | succ bound induction =>
    unfold fragmentPieces
    split
    next empty =>
      rw [length_eq_zero_iff.mp empty]
      rfl
    · rw [if_neg (by omega : ¬mps = 0), flatten_cons,
        induction (by rw [length_drop]; omega), take_append_drop]

theorem fragmentFrames_length (frameType : FrameType) (cnt index : Nat)
    (pieces : List Bytes) :
    (fragmentFrames frameType cnt index pieces).length = pieces.length := by
  induction pieces generalizing index with
  | nil => rfl
  | cons piece pieces induction =>
    rw [fragmentFrames, length_cons, induction, length_cons]

theorem payloadRoom_pos {channel : Channel}
    (room : channel.payloadRoom = some mps) : 0 < mps := by
  unfold payloadRoom at room
  dsimp only at room
  split at room <;> cases room
  · omega

end NearLink.Dtap
