import NearLink.Dtap.Stream
import Mathlib.Data.List.Chain

/-!
# Order of a stream

Whatever arrives, and whenever the timer expires, the frames of a stream are
handed on in the order of their numbers and each at most once.  The argument
trades the 14-bit numbers for positions in an unbounded stream: all nodes that
wait lie less than half a number space behind the expected position, where the
comparison of the source is the comparison of the positions.
-/

namespace NearLink.Dtap

open Sdf Transition List

/-- The nodes of a list wait at increasing positions between two bounds. -/
def Placed (high : Nat) : Nat → List StreamRxNode → Prop
  | _, [] => True
  | low, node :: nodes =>
    ∃ position, low ≤ position ∧ position < high ∧
      node.txSeq = seqOf position ∧ Placed high (position + 1) nodes

variable {high low position : Nat} {nodes : List StreamRxNode}

theorem Placed.mono {lower higher : Nat} (placed : Placed high low nodes)
    (below : lower ≤ low) (above : high ≤ higher) :
    Placed higher lower nodes := by
  induction nodes generalizing low lower with
  | nil => trivial
  | cons node nodes induction =>
    obtain ⟨position, atLeast, atMost, numbered, later⟩ := placed
    exact ⟨position, by omega, by omega, numbered,
      induction later (le_rfl)⟩

theorem Placed.insert {node : StreamRxNode} (placed : Placed high low nodes)
    (near : high ≤ low + 8192) (atLeast : low ≤ position)
    (atMost : position < high) (numbered : node.txSeq = seqOf position)
    (absent : ∀ other ∈ nodes, other.txSeq ≠ node.txSeq) :
    Placed high low (insertStreamRxNode node nodes) := by
  induction nodes generalizing low with
  | nil => exact ⟨position, atLeast, atMost, numbered, trivial⟩
  | cons cur nodes induction =>
    obtain ⟨place, placeLeast, placeMost, named, later⟩ := placed
    have compared : isFrameSeqSmaller node.txSeq cur.txSeq =
        decide (position < place) := by
      rw [numbered, named]
      exact isFrameSeqSmaller_seqOf (by omega) (by omega)
    unfold insertStreamRxNode
    rw [compared]
    by_cases before : position < place
    · rw [if_pos (by simpa using before)]
      exact ⟨position, atLeast, atMost, numbered, place, before, placeMost,
        named, later⟩
    · rw [if_neg (by simpa using before)]
      have differs : place ≠ position := by
        rintro rfl
        exact absent cur (by simp) (named.trans numbered.symm)
      refine ⟨place, placeLeast, placeMost, named,
        induction later (by omega) (by omega) ?_⟩
      exact fun other member => absent other (.tail _ member)

/-- A later call hands on a frame that is ahead of the number expected after
the earlier one by less than half the number space. -/
def Follows (earlier later : StreamUpcall) : Prop :=
  Serial.ahead 16384 (getNextFrameSeq earlier.txSeq) later.txSeq < 8192 ∧
    isFrameSeqSmaller earlier.txSeq later.txSeq = true

theorem follows_of_positions {earlier later : StreamUpcall} {place : Nat}
    (small : earlier.txSeq < 16384)
    (next : getNextFrameSeq earlier.txSeq = seqOf position)
    (atLeast : position ≤ place) (atMost : place < position + 8192)
    (numbered : later.txSeq = seqOf place) : Follows earlier later := by
  constructor
  · rw [next, numbered, ahead_seqOf atLeast (by omega)]
    omega
  · rw [getNextFrameSeq_eq small] at next
    rw [isFrameSeqSmaller_iff small (numbered ▸ seqOf_lt _), numbered]
    unfold seqOf at next ⊢
    omega

structure Serves (expected : Nat) (nodes : List StreamRxNode)
    (stream : Stream) : Prop where
  number : stream.expectedSeq = seqOf expected
  waiting : Placed (expected + 8192) expected nodes
  chain : stream.up.IsChain Follows
  last : ∀ call ∈ stream.up.getLast?, call.txSeq < 16384 ∧
    getNextFrameSeq call.txSeq = seqOf expected
  once : (stream.up.map StreamUpcall.arrival ++
    nodes.map StreamRxNode.arrival).Nodup
  arrived : ∀ arrival ∈ stream.up.map StreamUpcall.arrival ++
    nodes.map StreamRxNode.arrival, arrival < stream.arrivals

variable {expected : Nat} {node : StreamRxNode} {nodes : List StreamRxNode}
  {stream next : Stream} {answers : StreamAnswers}

theorem Serves.congr (serves : Serves expected nodes stream)
    (number : next.expectedSeq = stream.expectedSeq)
    (calls : next.up = stream.up) (arrivals : next.arrivals = stream.arrivals) :
    Serves expected nodes next where
  number := number.trans serves.number
  waiting := serves.waiting
  chain := calls ▸ serves.chain
  last := calls ▸ serves.last
  once := calls ▸ serves.once
  arrived := by
    rw [calls, arrivals]
    exact serves.arrived

theorem Serves.hand (serves : Serves expected (node :: nodes) stream) :
    ∃ position, expected ≤ position ∧ node.txSeq = seqOf position ∧
      Serves (position + 1) nodes { stream.recvCallback node with
        expectedSeq := getNextFrameSeq node.txSeq } := by
  obtain ⟨position, atLeast, atMost, numbered, later⟩ := serves.waiting
  refine ⟨position, atLeast, numbered, ?_⟩
  have moved : (stream.up.map StreamUpcall.arrival ++ [node.arrival]) ++
      nodes.map StreamRxNode.arrival = stream.up.map StreamUpcall.arrival ++
          (node :: nodes).map StreamRxNode.arrival := by simp
  constructor
  · change getNextFrameSeq node.txSeq = seqOf (position + 1)
    rw [numbered, getNextFrameSeq_seqOf]
  · exact later.mono (le_rfl) (by omega)
  · apply serves.chain.append (isChain_singleton _)
    intro call member first same
    cases Option.mem_some_iff.mp same
    obtain ⟨small, following⟩ := serves.last call member
    exact follows_of_positions small following atLeast atMost numbered
  · intro call member
    rw [Stream.recvCallback, getLast?_concat] at member
    cases Option.mem_some_iff.mp member
    rw [numbered, getNextFrameSeq_seqOf]
    exact ⟨seqOf_lt _, rfl⟩
  · simp only [Stream.recvCallback, map_append, map_singleton]
    rw [moved]
    exact serves.once
  · simp only [Stream.recvCallback, map_append, map_singleton]
    rw [moved]
    exact serves.arrived

/-- A channel that has handed on its first frame, between two events: all nodes
wait behind the expected position. -/
structure Running (expected : Nat) (stream : Stream) : Prop where
  serves : Serves expected stream.rxList stream
  behind : Placed (expected + 8192) (expected + 1) stream.rxList

theorem Stream.running_reportExpected (serves : Serves expected nodes stream) :
    ∃ later, expected ≤ later ∧
      Running later (stream.reportExpectedStreamFrame nodes) := by
  induction nodes generalizing expected stream with
  | nil => exact ⟨expected, le_rfl, serves.congr rfl rfl rfl, trivial⟩
  | cons node nodes induction =>
    obtain ⟨position, atLeast, atMost, numbered, rest⟩ := serves.waiting
    unfold Stream.reportExpectedStreamFrame
    split
    next differs =>
      have behind : expected + 1 ≤ position := by
        apply Nat.lt_of_le_of_ne atLeast
        rintro rfl
        exact differs (numbered.trans serves.number.symm)
      exact ⟨expected, le_rfl, serves.congr rfl rfl rfl, position,
        behind, atMost, numbered, rest⟩
    next same =>
      rw [not_not] at same
      obtain ⟨place, ahead, -, handed⟩ := serves.hand
      rw [same] at handed
      obtain ⟨later, further, running⟩ := induction handed
      exact ⟨later, by omega, running⟩

theorem Stream.serves_reportSmaller (serves : Serves expected nodes stream) :
    ∃ later, expected ≤ later ∧
      Serves later (stream.reportSmallerFrames nodes).rxList
        (stream.reportSmallerFrames nodes) := by
  induction nodes generalizing expected stream with
  | nil => exact ⟨expected, le_rfl, serves.congr rfl rfl rfl⟩
  | cons node nodes induction =>
    unfold Stream.reportSmallerFrames
    split
    · exact ⟨expected, le_rfl, serves.congr rfl rfl rfl⟩
    · obtain ⟨place, ahead, -, handed⟩ := serves.hand
      obtain ⟨later, further, served⟩ := induction handed
      exact ⟨later, by omega, served⟩

theorem Stream.startReorderTimer_keeps (answers : StreamAnswers)
    (stream : Stream) :
    let started := stream.startReorderTimer answers
    started.expectedSeq = stream.expectedSeq ∧ started.up = stream.up ∧
      started.arrivals = stream.arrivals ∧
      started.rxList = stream.rxList := by
  unfold Stream.startReorderTimer
  split <;> exact ⟨rfl, rfl, rfl, rfl⟩

section

variable (running : Running expected stream) (answers : StreamAnswers)
include running

theorem Running.startTimer :
    Running expected (stream.startReorderTimer answers) := by
  obtain ⟨number, calls, arrivals, queued⟩ :=
    Stream.startReorderTimer_keeps answers stream
  refine ⟨?_, queued ▸ running.behind⟩
  rw [queued]
  exact running.serves.congr number calls arrivals

theorem Running.reorderTask :
    ∃ later, expected ≤ later ∧
      Running later (stream.reorderStreamFrameTask answers) := by
  have stopped : Serves expected stream.rxList
      { stream with reorderTimer := false } :=
    running.serves.congr rfl rfl rfl
  obtain ⟨middle, ahead, served⟩ := Stream.serves_reportSmaller stopped
  obtain ⟨later, further, drained⟩ := Stream.running_reportExpected served
  refine ⟨later, by omega, ?_⟩
  apply Running.startTimer
  exact ⟨drained.serves.congr rfl rfl rfl, drained.behind⟩

end

/-- A channel between two events: no frame was handed on yet, or the channel
expects the frame at some position. -/
def Settled (stream : Stream) : Prop :=
  (stream.expectedSeq = frameSeqInit ∧ stream.rxList = [] ∧ stream.up = []) ∨
    ∃ expected, Running expected stream

theorem Running.expectedSeq_ne (running : Running expected stream) :
    stream.expectedSeq ≠ frameSeqInit := by
  rw [running.serves.number]
  exact Nat.ne_of_lt (Nat.lt_trans (seqOf_lt expected) (by decide))

theorem Serves.count (serves : Serves expected nodes stream)
    (number : next.expectedSeq = stream.expectedSeq)
    (calls : next.up = stream.up)
    (arrivals : next.arrivals = stream.arrivals + 1) :
    Serves expected nodes next where
  number := number.trans serves.number
  waiting := serves.waiting
  chain := calls ▸ serves.chain
  last := calls ▸ serves.last
  once := calls ▸ serves.once
  arrived := by
    rw [calls, arrivals]
    exact fun arrival member => Nat.lt_succ_of_lt (serves.arrived _ member)

theorem Serves.arrive (serves : Serves expected nodes stream)
    (fresh : node.arrival = stream.arrivals)
    {joined : List StreamRxNode} (permuted : joined.Perm (node :: nodes))
    (waiting : Placed (expected + 8192) expected joined) :
    Serves expected joined { stream with arrivals := stream.arrivals + 1 } := by
  have moved : (stream.up.map StreamUpcall.arrival ++
      joined.map StreamRxNode.arrival).Perm
        (node.arrival :: (stream.up.map StreamUpcall.arrival ++
          nodes.map StreamRxNode.arrival)) :=
    (List.Perm.append_left _ (permuted.map _)).trans perm_middle
  constructor
  · exact serves.number
  · exact waiting
  · exact serves.chain
  · exact serves.last
  · rw [moved.nodup_iff, nodup_cons]
    refine ⟨?_, serves.once⟩
    intro member
    have earlier := serves.arrived _ member
    omega
  · intro arrival member
    rcases mem_cons.mp (moved.mem_iff.mp member) with rfl | earlier
    · dsimp only
      omega
    · exact Nat.lt_succ_of_lt (serves.arrived _ earlier)

theorem insertStreamRxNode_perm (node : StreamRxNode)
    (nodes : List StreamRxNode) :
    (insertStreamRxNode node nodes).Perm (node :: nodes) := by
  induction nodes with
  | nil => exact List.Perm.refl _
  | cons cur nodes induction =>
    unfold insertStreamRxNode
    split
    · exact List.Perm.refl _
    · exact (induction.cons cur).trans (List.Perm.swap node cur nodes)

theorem Stream.running_first (node : StreamRxNode) (small : node.txSeq < 16384)
    (quiet : stream.up = []) (empty : stream.rxList = [])
    (arrival : node.arrival < next.arrivals)
    (calls : next.up = (stream.recvCallback node).up)
    (queued : next.rxList = stream.rxList)
    (number : next.expectedSeq = getNextFrameSeq node.txSeq) :
    Running (node.txSeq + 1) next := by
  have position : getNextFrameSeq node.txSeq = seqOf (node.txSeq + 1) := by
    rw [← getNextFrameSeq_seqOf, seqOf_of_lt small]
  rw [Stream.recvCallback, quiet, nil_append] at calls
  rw [empty] at queued
  constructor <;> rw [queued]
  · constructor
    · exact number.trans position
    · trivial
    · rw [calls]
      exact isChain_singleton _
    · rw [calls]
      intro call member
      cases Option.mem_some_iff.mp member
      exact ⟨small, position⟩
    · simp [calls]
    · simpa [calls] using arrival
  · trivial

theorem Running.direct (running : Running expected stream)
    (answers : StreamAnswers) (fresh : node.arrival = stream.arrivals)
    (expects : node.txSeq = stream.expectedSeq) :
    ∃ later, expected ≤ later ∧ Running later
      (Stream.reportExpectedStreamFrame stream.rxList
          { { stream with arrivals := stream.arrivals + 1 }.recvCallback node
            with expectedSeq := getNextFrameSeq stream.expectedSeq }
        |>.stopReorderTimer |>.startReorderTimer answers) := by
  have joined : Serves expected (node :: stream.rxList)
      { stream with arrivals := stream.arrivals + 1 } :=
    running.serves.arrive fresh (List.Perm.refl _) ⟨expected, le_rfl, by omega,
        expects.trans running.serves.number, running.behind⟩
  obtain ⟨position, atLeast, -, handed⟩ := joined.hand
  rw [expects] at handed
  obtain ⟨later, further, drained⟩ := Stream.running_reportExpected handed
  refine ⟨later, by omega, ?_⟩
  apply Running.startTimer
  exact ⟨drained.serves.congr rfl rfl rfl, drained.behind⟩

theorem exists_distance {seq : Nat} (small : seq < 16384)
    (differs : seq ≠ seqOf expected)
    (later : isFrameSeqSmaller seq (seqOf expected) = false) :
    ∃ position, expected < position ∧ position < expected + 8192 ∧
      seq = seqOf position := by
  obtain ⟨distance, bound, rfl⟩ := exists_eq_seqOf_add expected small
  have forward : ¬ 8192 ≤ (seqOf (expected + distance) + 16384 -
      seqOf expected) % 16384 := by
    rw [← isFrameSeqSmaller_iff (seqOf_lt _) (seqOf_lt _), later]
    exact Bool.false_ne_true
  unfold seqOf at forward differs
  exact ⟨expected + distance, by omega, by omega, rfl⟩

theorem Running.enqueue (running : Running expected stream)
    (fresh : node.arrival = stream.arrivals) (small : node.txSeq < 16384)
    (differs : node.txSeq ≠ stream.expectedSeq)
    (ahead : isFrameSeqSmaller node.txSeq stream.expectedSeq = false)
    (absent : stream.rxList.any (·.txSeq == node.txSeq) = false)
    (maxExpectedSeq : Nat) :
    Running expected { stream with
      arrivals := stream.arrivals + 1
      rxList := insertStreamRxNode node stream.rxList
      maxExpectedSeq } := by
  rw [running.serves.number] at differs ahead
  obtain ⟨position, above, below, numbered⟩ :=
    exists_distance small differs ahead
  have placed : Placed (expected + 8192) (expected + 1)
      (insertStreamRxNode node stream.rxList) := by
    apply running.behind.insert (by omega) above below numbered
    intro other member same
    rw [any_eq_false] at absent
    exact absent other member (by simpa using same)
  have waits : Placed (expected + 8192) expected
      (insertStreamRxNode node stream.rxList) :=
    placed.mono (by omega) (le_rfl)
  have served := running.serves.arrive fresh
    (insertStreamRxNode_perm node stream.rxList) waits
  exact ⟨served.congr rfl rfl rfl, placed⟩

theorem Running.recvChecked (running : Running expected stream)
    (answers : StreamAnswers) {txSeq : Nat} (small : txSeq < 16384)
    (pi : Nat) (data : Bytes) :
    ∃ later, expected ≤ later ∧
      Running later (stream.recvChecked answers txSeq pi data).2 := by
  have counted : Running expected
      { stream with arrivals := stream.arrivals + 1 } :=
    ⟨running.serves.count rfl rfl rfl, running.behind⟩
  unfold Stream.recvChecked
  dsimp only
  rw [if_neg running.expectedSeq_ne]
  split
  next expects =>
    exact running.direct answers rfl expects
  rename_i differs
  refine ⟨expected, le_rfl, ?_⟩
  split
  · exact counted
  rename_i ahead
  split
  · exact counted
  rename_i absent
  split
  · exact counted
  rw [Bool.not_eq_true] at ahead absent
  let node : StreamRxNode :=
    { txSeq, pi, data, timeStamp := answers.stamp, arrival := stream.arrivals }
  have fresh : node.arrival = stream.arrivals := rfl
  have queued := running.enqueue fresh small differs ahead absent
  split
  · exact queued _
  · exact (queued _).startTimer answers

section

variable (settled : Settled stream)
include settled

variable (answers : StreamAnswers)

theorem Settled.recvChecked {txSeq : Nat} (small : txSeq < 16384) (pi : Nat)
    (data : Bytes) :
    Settled (stream.recvChecked answers txSeq pi data).2 := by
  rcases settled with ⟨initial, empty, quiet⟩ | ⟨expected, running⟩
  · right
    let node : StreamRxNode :=
      { txSeq, pi, data, timeStamp := answers.stamp
        arrival := stream.arrivals }
    refine ⟨txSeq + 1, ?_⟩
    unfold Stream.recvChecked
    rw [if_pos initial]
    exact Stream.running_first node small quiet empty (Nat.lt_succ_self _)
      rfl rfl rfl
  · obtain ⟨later, -, moved⟩ := running.recvChecked answers small pi data
    exact .inr ⟨later, moved⟩

theorem Settled.register (recvCb : Bool) : Settled { stream with recvCb } := by
  rcases settled with initial | ⟨expected, running⟩
  · exact .inl initial
  · exact .inr ⟨expected, running.serves.congr rfl rfl rfl, running.behind⟩

theorem Settled.recvStreamFrame (recvCb : Bool) (frame : Frame) :
    Settled (stream.recvStreamFrame answers recvCb frame).2 := by
  have registered := settled.register recvCb
  unfold Stream.recvStreamFrame
  dsimp only
  split
  · exact settled
  split
  · exact registered
  split
  · exact registered
  · exact registered.recvChecked answers (Nat.mod_lt _ (by decide)) _ _

theorem Settled.reorderTask :
    Settled (stream.reorderStreamFrameTask answers) := by
  rcases settled with ⟨initial, empty, quiet⟩ | ⟨expected, running⟩
  · left
    unfold Stream.reorderStreamFrameTask
    rw [empty]
    obtain ⟨number, calls, -, queued⟩ := Stream.startReorderTimer_keeps answers
      { stream with
        reorderTimer := false
        rxList := []
        maxExpectedSeq := Stream.lastSeqNext answers [] }
    exact ⟨number.trans initial, queued, calls.trans quiet⟩
  · obtain ⟨later, -, moved⟩ := running.reorderTask answers
    exact .inr ⟨later, moved⟩

theorem Settled.step (input : Stream.Input) : Settled (stream.step input) := by
  unfold Stream.step
  split
  · unfold Stream.dataRecvFrame
    split
    · exact settled
    · exact settled.recvStreamFrame _ _ _
  · exact settled.reorderTask _

end

/-- The frames are handed on in the serial order of their numbers and each at
most once, and the nodes that wait are sorted and lie within half the number
space behind the expected frame. -/
structure InOrder (stream : Stream) : Prop where
  handed : stream.up.IsChain Follows
  expects : ∀ call ∈ stream.up.getLast?,
    stream.expectedSeq = getNextFrameSeq call.txSeq
  once : (stream.up.map StreamUpcall.arrival ++
    stream.rxList.map StreamRxNode.arrival).Nodup
  sorted : stream.rxList.Pairwise fun earlier later =>
    isFrameSeqSmaller earlier.txSeq later.txSeq = true
  within : ∀ node ∈ stream.rxList,
    0 < Serial.ahead 16384 stream.expectedSeq node.txSeq ∧
      Serial.ahead 16384 stream.expectedSeq node.txSeq < 8192

theorem Placed.exists_position (placed : Placed high low nodes)
    (member : node ∈ nodes) : ∃ position, low ≤ position ∧ position < high ∧
      node.txSeq = seqOf position := by
  induction nodes generalizing low with
  | nil => exact absurd member not_mem_nil
  | cons head nodes induction =>
    obtain ⟨position, atLeast, atMost, numbered, later⟩ := placed
    rcases mem_cons.mp member with rfl | member
    · exact ⟨position, atLeast, atMost, numbered⟩
    · obtain ⟨place, behind, bounded, named⟩ := induction later member
      exact ⟨place, by omega, bounded, named⟩

theorem Placed.sorted (placed : Placed high low nodes)
    (near : high ≤ low + 8192) : nodes.Pairwise fun earlier later =>
      isFrameSeqSmaller earlier.txSeq later.txSeq = true := by
  induction nodes generalizing low with
  | nil => exact List.Pairwise.nil
  | cons head nodes induction =>
    obtain ⟨position, atLeast, atMost, numbered, later⟩ := placed
    apply List.Pairwise.cons
    · intro other member
      obtain ⟨place, behind, bounded, named⟩ := later.exists_position member
      rw [numbered, named, isFrameSeqSmaller_seqOf (by omega) (by omega)]
      exact decide_eq_true (by omega)
    · exact induction later (by omega)

theorem Running.inOrder (running : Running expected stream) :
    InOrder stream where
  handed := running.serves.chain
  expects call member :=
    running.serves.number.trans (running.serves.last call member).2.symm
  once := running.serves.once
  sorted := running.behind.sorted (by omega)
  within node member := by
    obtain ⟨position, above, below, numbered⟩ :=
      running.behind.exists_position member
    rw [numbered, running.serves.number, ahead_seqOf (by omega) (by omega)]
    omega

theorem Settled.inOrder (settled : Settled stream) : InOrder stream := by
  rcases settled with ⟨-, empty, quiet⟩ | ⟨expected, running⟩
  · constructor <;> simp [empty, quiet]
  · exact running.inOrder

theorem Settled.small (settled : Settled stream)
    (member : node ∈ stream.rxList) : node.txSeq < 16384 := by
  rcases settled with ⟨-, empty, -⟩ | ⟨expected, running⟩
  · rw [empty] at member
    exact absurd member not_mem_nil
  · obtain ⟨position, -, -, numbered⟩ := running.behind.exists_position member
    rw [numbered]
    exact seqOf_lt position

theorem inOrder_always (conf : StreamConf) (inputs : List Stream.Input) :
    Always Stream.step InOrder (streamChannelCreate conf) inputs := by
  have initial : Settled (streamChannelCreate conf) :=
    .inl ⟨rfl, rfl, rfl⟩
  exact always_of_step (fun _ settled => settled.inOrder)
    (fun _ input settled => settled.step input) initial inputs

end NearLink.Dtap
