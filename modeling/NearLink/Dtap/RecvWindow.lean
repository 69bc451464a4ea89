import NearLink.Dtap.SendStep
import NearLink.Dtap.Sequence
import Mathlib.Data.List.Sort

/-!
# The receive window

A receive window seen through stream positions: `buffered` is the next frame
to hand over, `expected` the first frame that is missing, `highest` one past
the last frame that has arrived.  The queue holds frames of increasing
positions, among them all those before `expected`.  What a queued frame has to
do with its position is left to a parameter `content`.
-/

namespace NearLink.Dtap

open Sdf Channel List

def QueuedAt (content : Nat → Frame → Prop) (positions : List Nat)
    (frames : List Frame) : Prop :=
  List.Forall₂ (fun position frame =>
    frame.txSeq = seqOf position ∧ content position frame) positions frames

namespace QueuedAt

variable {content : Nat → Frame → Prop} {positions : List Nat}
  {frames : List Frame} (queued : QueuedAt content positions frames)
include queued

theorem map_txSeq : frames.map Frame.txSeq = positions.map seqOf := by
  induction queued with
  | nil => rfl
  | cons head tail induction => simp [head.1, induction]

theorem length_eq : frames.length = positions.length :=
  (List.Forall₂.length_eq queued).symm

theorem insert {position : Nat} {frame : Frame}
    (number : frame.txSeq = seqOf position) (holds : content position frame)
    (absent : position ∉ positions) (near : ∀ other ∈ positions,
      position < other + 8192 ∧ other ≤ position + 8192) :
    QueuedAt content (positions.orderedInsert (· ≤ ·) position)
      (insertBySeq frame frames) := by
  induction queued with
  | nil => exact .cons ⟨number, holds⟩ .nil
  | @cons other cur positions rest head tail induction =>
    have distance := near other mem_cons_self
    have compare : isFrameSeqSmaller frame.txSeq cur.txSeq =
        decide (position < other) := by
      rw [number, head.1]
      exact isFrameSeqSmaller_seqOf distance.1 distance.2
    have different : position ≠ other := fun same =>
      absent (same ▸ mem_cons_self)
    unfold insertBySeq
    rw [compare, orderedInsert_cons]
    by_cases before : position < other
    · rw [if_pos (Nat.le_of_lt before), if_pos (by simpa using before)]
      exact .cons ⟨number, holds⟩ (.cons head tail)
    · rw [if_neg (by omega), if_neg (by simpa using before)]
      exact .cons head (induction (fun member => absent (.tail _ member))
        (fun later member => near later (.tail _ member)))

theorem find_isNone (position : Nat) (near : ∀ other ∈ positions,
      position < other + 16384 ∧ other < position + 16384) :
    (findFrameBySeq frames (seqOf position)).isNone = true ↔
      position ∉ positions := by
  induction queued with
  | nil => simp [findFrameBySeq]
  | @cons other frame positions frames head tail induction =>
    have distance := near other mem_cons_self
    have later := induction fun next member =>
      near next (.tail _ member)
    have numbers := seqOf_eq_iff distance.2 distance.1
    rw [findFrameBySeq_cons, head.1, mem_cons]
    by_cases same : other = position
    · simp [same]
    · rw [if_neg (mt numbers.mp same), later]
      have different : ¬position = other := fun equality =>
        same equality.symm
      simp [different]

end QueuedAt

theorem findMissingSeq_spec {content : Nat → Frame → Prop}
    {positions : List Nat} {frames : List Frame}
    (queued : QueuedAt content positions frames) (bound first : Nat)
    (near : ∀ other ∈ positions,
      first + bound < other + 16384 ∧ other < first + 16384)
    (gap : ∃ position, first ≤ position ∧ position < first + bound ∧
      position ∉ positions) :
    ∃ missing, findMissingSeq frames bound (seqOf first) =
        some (seqOf missing) ∧
      first ≤ missing ∧ missing ∉ positions ∧
      ∀ position, first ≤ position → position < missing →
        position ∈ positions := by
  induction bound generalizing first with
  | zero =>
    obtain ⟨position, _, _, _⟩ := gap
    omega
  | succ bound induction =>
    have search := queued.find_isNone first fun other member => by
        have distance := near other member
        omega
    unfold findMissingSeq
    by_cases absent : first ∉ positions
    · rw [if_pos (search.mpr absent)]
      refine ⟨first, rfl, le_rfl, absent, ?_⟩
      intro position _ _
      omega
    · have present : first ∈ positions := by simpa using absent
      rw [if_neg (mt search.mp absent), getNextFrameSeq_seqOf]
      have laterGap : ∃ position, first + 1 ≤ position ∧
          position < first + 1 + bound ∧ position ∉ positions := by
        obtain ⟨position, lower, upper, missing⟩ := gap
        have different : position ≠ first := fun same =>
          missing (same ▸ present)
        exact ⟨position, by omega, by omega, missing⟩
      obtain ⟨missing, found, lower, notQueued, dense⟩ :=
        induction (first + 1) (fun other member => by
          have distance := near other member
          omega) laterGap
      refine ⟨missing, found, by omega, notQueued, ?_⟩
      intro position behind before
      by_cases same : position = first
      · exact same ▸ present
      · exact dense position (by omega) before

structure RecvWindow (content : Nat → Frame → Prop)
    (buffered expected highest : Nat) (positions : List Nat)
    (window : RxWindow) : Prop where
  size_pos : 0 < window.size
  size_le : window.size ≤ 255
  bufferSeq_eq : window.bufferSeq = seqOf buffered
  expectedTxSeq_eq : window.expectedTxSeq = seqOf expected
  maxExpectedTxSeq_eq : window.maxExpectedTxSeq = seqOf highest
  queued : QueuedAt content positions window.rxList
  increasing : positions.Pairwise (· < ·)
  range : ∀ position ∈ positions, buffered ≤ position ∧ position < highest
  dense : ∀ position, buffered ≤ position → position < expected →
    position ∈ positions
  gap : expected ∉ positions
  last : expected < highest → highest - 1 ∈ positions
  buffered_le : buffered ≤ expected
  expected_le : expected ≤ highest
  highest_le : highest ≤ buffered + window.size

namespace RecvWindow

variable {content : Nat → Frame → Prop} {buffered expected highest : Nat}
  {positions : List Nat} {window : RxWindow}
  (shape : RecvWindow content buffered expected highest positions window)
  {frame : Frame} {rest : List Frame}
include shape

theorem bound : highest ≤ buffered + 255 := by
  have size := shape.size_le
  have upper := shape.highest_le
  omega

/-- A number that passes `DTAP_CheckEnhanceFrameTxSeq` belongs to the frame
expected next or to a frame of the window that has not arrived. -/
theorem check_position {txSeq : Nat} (small : txSeq < 16384)
    (accepted : checkEnhanceFrameTxSeq window txSeq = true) :
    ∃ position, txSeq = seqOf position ∧ position ∉ positions ∧
      (position = expected ∨
        expected < position ∧ position < buffered + window.size) := by
  have size := shape.size_le
  have upper := shape.highest_le
  have lower := shape.buffered_le
  have middle := shape.expected_le
  unfold checkEnhanceFrameTxSeq at accepted
  dsimp only at accepted
  rw [shape.expectedTxSeq_eq, boundarySeq_eq] at accepted
  split at accepted
  · cases accepted
  next notBehind =>
    split at accepted
    next same =>
      exact ⟨expected, same, shape.gap, .inl rfl⟩
    next different =>
      split at accepted
      · cases accepted
      next inside =>
        obtain ⟨distance, near, rfl⟩ := exists_eq_seqOf_add expected small
        rw [isFrameSeqSmaller_iff (seqOf_lt _) (seqOf_lt _)] at notBehind
        rw [Bool.not_eq_true, Bool.not_eq_false',
          isFrameSeqSmaller_iff (seqOf_lt _) (seqOf_lt _),
          shape.bufferSeq_eq] at inside
        have ahead : distance ≠ 0 := fun zero =>
          different (by rw [zero, Nat.add_zero])
        have withinWindow : expected + distance < buffered + window.size := by
          unfold seqOf at notBehind inside
          omega
        refine ⟨expected + distance, rfl, ?_, .inr ⟨by omega, withinWindow⟩⟩
        refine (shape.queued.find_isNone _ ?_).mp accepted
        intro other member
        have place := shape.range other member
        omega

theorem missing_iff :
    (isFrameSeqSmaller window.expectedTxSeq window.maxExpectedTxSeq = true ↔
        expected < highest) ∧
      (window.expectedTxSeq ≠ window.maxExpectedTxSeq ↔
        expected < highest) := by
  have upper := shape.bound
  have lower := shape.buffered_le
  have middle := shape.expected_le
  rw [shape.expectedTxSeq_eq, shape.maxExpectedTxSeq_eq]
  constructor
  · rw [isFrameSeqSmaller_seqOf (by omega) (by omega), decide_eq_true_iff]
  · rw [Ne, seqOf_eq_iff (by omega) (by omega)]
    omega

section

variable {position : Nat}

theorem range_queue (ahead : expected ≤ position) {other : Nat}
    (inList : other ∈ positions.orderedInsert (· ≤ ·) position) :
    buffered ≤ other ∧ other < max highest (position + 1) := by
  have lower := shape.buffered_le
  rcases (mem_orderedInsert _).mp inList with rfl | old
  · omega
  · have place := shape.range other old
    omega

theorem last_queue (ahead : expected ≤ position) :
    max highest (position + 1) - 1 ∈
      positions.orderedInsert (· ≤ ·) position := by
  refine (mem_orderedInsert _).mpr ?_
  by_cases beyond : highest ≤ position
  · exact .inl (by omega)
  · refine .inr ?_
    rw [Nat.max_eq_left (by omega)]
    exact shape.last (by omega)

theorem increasing_queue (absent : position ∉ positions) :
    (positions.orderedInsert (· ≤ ·) position).Pairwise (· < ·) := by
  have weak : positions.Pairwise (· ≤ ·) :=
    shape.increasing.imp Nat.le_of_lt
  have distinct : (positions.orderedInsert (· ≤ ·) position).Nodup :=
    (perm_orderedInsert _ position positions).nodup_iff.mpr
      (nodup_cons.mpr ⟨absent, shape.increasing.imp Nat.ne_of_lt⟩)
  exact ((weak.orderedInsert position positions).and distinct).imp
    fun both => Nat.lt_of_le_of_ne both.1 both.2

variable (number : frame.txSeq = seqOf position) (ahead : expected ≤ position)
  (inside : position < buffered + window.size)
include number ahead inside

theorem maxExpected_queue :
    (queueRxFrame window frame).maxExpectedTxSeq =
      seqOf (max highest (position + 1)) := by
  have upper := shape.bound
  have lower := shape.buffered_le
  have size := shape.size_le
  have middle := shape.expected_le
  have compare : isFrameSeqSmaller window.maxExpectedTxSeq frame.txSeq =
      decide (highest < position) := by
    rw [shape.maxExpectedTxSeq_eq, number]
    exact isFrameSeqSmaller_seqOf (by omega) (by omega)
  have same : (window.maxExpectedTxSeq == frame.txSeq) =
      decide (highest = position) := by
    rw [shape.maxExpectedTxSeq_eq, number, Bool.eq_iff_iff, beq_iff_eq,
      decide_eq_true_iff]
    exact seqOf_eq_iff (by omega) (by omega)
  unfold queueRxFrame
  rw [compare, same, number, getNextFrameSeq_seqOf, shape.maxExpectedTxSeq_eq]
  by_cases beyond : highest ≤ position
  · rw [if_pos (by simpa using (by omega : highest < position ∨
      highest = position)), Nat.max_eq_right (by omega)]
  · rw [if_neg (by simp; omega), Nat.max_eq_left (by omega)]

/-- The frame in sequence moves `expected` to the next gap, any other leaves it
where it is. -/
theorem expected_queue (queued : QueuedAt content
      (positions.orderedInsert (· ≤ ·) position)
      (insertBySeq frame window.rxList)) :
    ∃ later, expected ≤ later ∧
      (queueRxFrame window frame).expectedTxSeq = seqOf later ∧
      later ∉ positions.orderedInsert (· ≤ ·) position ∧
      later ≤ max highest (position + 1) ∧
      ∀ other, buffered ≤ other → other < later →
        other ∈ positions.orderedInsert (· ≤ ·) position := by
  have size := shape.size_le
  have upper := shape.highest_le
  have lower := shape.buffered_le
  have middle := shape.expected_le
  have member (other : Nat) :
      other ∈ positions.orderedInsert (· ≤ ·) position ↔
        other = position ∨ other ∈ positions := mem_orderedInsert _
  by_cases inSequence : position = expected
  · -- The window has room for at most `size` frames, so the search ends.
    obtain ⟨missing, found, behind, notQueued, dense⟩ :=
      findMissingSeq_spec queued window.size (position + 1)
        (fun other inList => by
          have place := shape.range_queue ahead inList
          omega)
        ⟨position + window.size, by have := shape.size_pos; omega,
          by omega, fun inList => by
            have place := shape.range_queue ahead inList
            omega⟩
    refine ⟨missing, by omega, ?_, notQueued, ?_, ?_⟩
    · unfold queueRxFrame missingSeq
      rw [number, shape.expectedTxSeq_eq, if_pos (by rw [inSequence]),
        getNextFrameSeq_seqOf, found]
      rfl
    · refine Nat.le_of_not_lt fun beyond => ?_
      have inList := dense (max highest (position + 1)) (by omega) beyond
      have place := shape.range_queue ahead inList
      omega
    · intro other above below
      by_cases old : other < expected
      · exact (member other).mpr (.inr (shape.dense other above old))
      · by_cases same : other = position
        · exact (member other).mpr (.inl same)
        · exact dense other (by omega) below
  · refine ⟨expected, le_rfl, ?_, ?_, by omega, ?_⟩
    · have different : frame.txSeq ≠ window.expectedTxSeq := by
        rw [number, shape.expectedTxSeq_eq]
        exact fun same => inSequence
          ((seqOf_eq_iff (by omega) (by omega)).mp same)
      unfold queueRxFrame missingSeq
      rw [if_neg different]
      exact shape.expectedTxSeq_eq
    · intro inList
      rcases (member _).mp inList with same | old
      · exact inSequence same.symm
      · exact shape.gap old
    · intro other above below
      exact (member other).mpr (.inr (shape.dense other above below))

theorem queue (holds : content position frame) (absent : position ∉ positions) :
    ∃ later, expected ≤ later ∧
      RecvWindow content buffered later (max highest (position + 1))
        (positions.orderedInsert (· ≤ ·) position)
        (queueRxFrame window frame) := by
  have size := shape.size_le
  have upper := shape.highest_le
  have lower := shape.buffered_le
  have queued := shape.queued.insert number holds absent fun other inList => by
    have place := shape.range other inList
    omega
  obtain ⟨later, raised, laterSeq, gap, laterLe, dense⟩ :=
    shape.expected_queue number ahead inside queued
  exact ⟨later, raised,
    { size_pos := shape.size_pos
      size_le := shape.size_le
      bufferSeq_eq := shape.bufferSeq_eq
      expectedTxSeq_eq := laterSeq
      maxExpectedTxSeq_eq := shape.maxExpected_queue number ahead inside
      queued := queued
      increasing := shape.increasing_queue absent
      range := fun _ => shape.range_queue ahead
      dense := dense
      gap := gap
      last := fun _ => shape.last_queue ahead
      buffered_le := by omega
      expected_le := laterLe
      highest_le := by
        change max highest (position + 1) ≤ buffered + window.size
        omega }⟩

end

theorem head_due (list : window.rxList = frame :: rest) :
    frame.txSeq = window.bufferSeq ↔ buffered < expected := by
  have queued := shape.queued
  rw [list] at queued
  cases queued with
  | @cons position _ later _ head tail =>
    have place := shape.range position mem_cons_self
    have upper := shape.bound
    have numbers : frame.txSeq = window.bufferSeq ↔ position = buffered := by
      rw [head.1, shape.bufferSeq_eq]
      exact seqOf_eq_iff (by omega) (by omega)
    have lower := shape.buffered_le
    rw [numbers]
    constructor
    · rintro rfl
      refine Nat.lt_of_le_of_ne lower fun same => ?_
      exact shape.gap (same ▸ mem_cons_self)
    · intro before
      rcases mem_cons.mp (shape.dense buffered (le_rfl) before)
        with same | inLater
      · exact same.symm
      · have ordered := (pairwise_cons.mp shape.increasing).1 buffered inLater
        omega

theorem empty_due (list : window.rxList = []) : buffered = expected := by
  have queued := shape.queued
  rw [list] at queued
  cases queued
  refine Nat.le_antisymm shape.buffered_le (Nat.le_of_not_lt fun before => ?_)
  exact nomatch shape.dense buffered (le_rfl) before

theorem pop (list : window.rxList = frame :: rest) (due : buffered < expected) :
    ∃ later, positions = buffered :: later ∧
      RecvWindow content (buffered + 1) expected highest later
        { window with
          bufferSeq := getNextFrameSeq window.bufferSeq
          rxList := rest } := by
  have queued := shape.queued
  rw [list] at queued
  cases queued with
  | @cons position _ later _ head tail =>
    have ordered := pairwise_cons.mp shape.increasing
    have first : position = buffered := by
      rcases mem_cons.mp (shape.dense buffered (le_rfl) due)
        with same | inLater
      · exact same.symm
      · have place := shape.range position mem_cons_self
        have behind := ordered.1 buffered inLater
        omega
    subst first
    refine ⟨later, rfl, ?_⟩
    exact
      { size_pos := shape.size_pos
        size_le := shape.size_le
        bufferSeq_eq := by
          change getNextFrameSeq window.bufferSeq = _
          rw [shape.bufferSeq_eq, getNextFrameSeq_seqOf]
        expectedTxSeq_eq := shape.expectedTxSeq_eq
        maxExpectedTxSeq_eq := shape.maxExpectedTxSeq_eq
        queued := tail
        increasing := ordered.2
        range := fun other inLater =>
          ⟨ordered.1 other inLater, (shape.range other (.tail _ inLater)).2⟩
        dense := fun other above below =>
          (mem_cons.mp (shape.dense other (by omega) below)).resolve_left
            (by omega)
        gap := fun inLater => shape.gap (.tail _ inLater)
        last := fun before =>
          (mem_cons.mp (shape.last before)).resolve_left (by omega)
        buffered_le := due
        expected_le := shape.expected_le
        highest_le := by
          have upper := shape.highest_le
          change highest ≤ position + 1 + window.size
          omega }

theorem replaceHead {other : Frame} (list : window.rxList = frame :: rest)
    (number : other.txSeq = frame.txSeq)
    (kept : ∀ position, content position frame → content position other) :
    RecvWindow content buffered expected highest positions
      { window with rxList := other :: rest } := by
  have queued := shape.queued
  rw [list] at queued
  cases queued with
  | cons head tail =>
    exact
      { shape with
        queued := .cons ⟨number.trans head.1, kept _ head.2⟩ tail }

end RecvWindow

end NearLink.Dtap
