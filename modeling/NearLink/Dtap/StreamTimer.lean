import NearLink.Dtap.StreamOrder

/-!
# The reorder timer of a stream

When the timer expires, the channel is meant to give up on the frames that are
missing before the oldest node that waits.  The loop of the source stops in
front of this node, so that it is handed on only when the frame right before it
waits as well.  The results below say exactly when an expiry does what it is
for, and that runs in which every expiry does so never stall.
-/

namespace NearLink.Dtap

open Sdf Transition List

namespace Stream

def callOf (stream : Stream) (node : StreamRxNode) : StreamUpcall where
  info :=
    { pi := node.pi
      lcid := stream.conf.lcid
      tcid := stream.conf.srcTcid }
  sdu := node.data
  handed := stream.recvCb
  txSeq := node.txSeq
  arrival := node.arrival

def expectedAfter (seq : Nat) (nodes : List StreamRxNode) : Nat :=
  (nodes.getLast?.map fun last => getNextFrameSeq last.txSeq).getD seq

structure Hands (given rest : List StreamRxNode) (stream next : Stream) :
    Prop where
  calls : next.up = stream.up ++ given.map stream.callOf
  number : next.expectedSeq = expectedAfter stream.expectedSeq given
  queued : next.rxList = rest
  same : next.conf = stream.conf ∧ next.recvCb = stream.recvCb

variable {stream next last : Stream} {node armed : StreamRxNode}
  {nodes given more rest : List StreamRxNode}

theorem expectedAfter_append (seq : Nat) (given more : List StreamRxNode) :
    expectedAfter seq (given ++ more) =
      expectedAfter (expectedAfter seq given) more := by
  unfold expectedAfter
  rcases more.eq_nil_or_concat' with rfl | ⟨front, node, rfl⟩
  · simp
  · simp [← append_assoc]

@[simp] theorem expectedAfter_concat (seq : Nat) (given : List StreamRxNode)
    (node : StreamRxNode) :
    expectedAfter seq (given ++ [node]) = getNextFrameSeq node.txSeq := by
  simp [expectedAfter]

theorem Hands.trans {middle : List StreamRxNode}
    (first : Hands given middle stream next)
    (second : Hands more rest next last) :
    Hands (given ++ more) rest stream last := by
  have calls : next.callOf = stream.callOf := by
    funext node
    simp [callOf, first.same]
  constructor
  · rw [second.calls, first.calls, calls, map_append, append_assoc]
  · rw [second.number, first.number, expectedAfter_append]
  · exact second.queued
  · exact ⟨second.same.1.trans first.same.1, second.same.2.trans first.same.2⟩

theorem hands_nil (number : next.expectedSeq = stream.expectedSeq)
    (calls : next.up = stream.up) (queued : next.rxList = rest)
    (same : next.conf = stream.conf ∧ next.recvCb = stream.recvCb) :
    Hands [] rest stream next :=
  ⟨by rw [calls, map_nil, append_nil], number, queued, same⟩

theorem hands_recvCallback (stream : Stream) (node : StreamRxNode) :
    Hands [node] stream.rxList stream { stream.recvCallback node with
      expectedSeq := getNextFrameSeq node.txSeq } :=
  ⟨rfl, rfl, rfl, rfl, rfl⟩

theorem Hands.startTimer (hands : Hands given rest stream next)
    (answers : StreamAnswers) :
    Hands given rest stream (next.startReorderTimer answers) := by
  unfold startReorderTimer
  split
  · exact { hands with }
  · exact hands

theorem reportExpected_hands (nodes : List StreamRxNode) (stream : Stream) :
    ∃ given rest, nodes = given ++ rest ∧
      Hands given rest stream (stream.reportExpectedStreamFrame nodes) ∧
      (∀ first ∈ given.head?, first.txSeq = stream.expectedSeq) ∧
      given.IsChain (fun earlier later =>
        later.txSeq = getNextFrameSeq earlier.txSeq) ∧
      (∀ first ∈ rest.head?,
        first.txSeq ≠ expectedAfter stream.expectedSeq given) := by
  induction nodes generalizing stream with
  | nil =>
    exact ⟨[], [], rfl, hands_nil rfl rfl rfl ⟨rfl, rfl⟩, by simp,
      isChain_nil, by simp⟩
  | cons node nodes induction =>
    unfold reportExpectedStreamFrame
    split
    next differs =>
      refine ⟨[], node :: nodes, rfl, hands_nil rfl rfl rfl ⟨rfl, rfl⟩,
        by simp, isChain_nil, ?_⟩
      intro first member
      cases Option.mem_some_iff.mp member
      exact differs
    next same =>
      rw [not_not] at same
      rw [← same]
      obtain ⟨given, rest, split, hands, starts, chain, stops⟩ :=
        induction { stream.recvCallback node with
          expectedSeq := getNextFrameSeq node.txSeq }
      refine ⟨node :: given, rest, by rw [split, cons_append],
        (stream.hands_recvCallback node).trans hands, ?_, ?_, ?_⟩
      · intro first member
        cases Option.mem_some_iff.mp member
        exact rfl
      · exact isChain_cons.mpr ⟨starts, chain⟩
      · intro first member
        rw [← singleton_append, expectedAfter_append]
        exact stops first member

def due (stream : Stream) (node : StreamRxNode) : Bool :=
  isFrameSeqSmaller node.txSeq stream.reorderTxSeq

theorem reportSmaller_hands (nodes : List StreamRxNode) (stream : Stream) :
    Hands (nodes.takeWhile stream.due) (nodes.dropWhile stream.due) stream
      (stream.reportSmallerFrames nodes) := by
  induction nodes generalizing stream with
  | nil => exact hands_nil rfl rfl rfl ⟨rfl, rfl⟩
  | cons node nodes induction =>
    unfold reportSmallerFrames
    by_cases smaller : stream.due node = true
    · rw [takeWhile_cons_of_pos smaller, dropWhile_cons_of_pos smaller,
        if_neg (by simpa [due] using smaller)]
      exact (stream.hands_recvCallback node).trans
        (induction { stream.recvCallback node with
          expectedSeq := getNextFrameSeq node.txSeq })
    · rw [takeWhile_cons_of_neg smaller, dropWhile_cons_of_neg smaller,
        if_pos (by simpa [due] using smaller)]
      exact hands_nil rfl rfl rfl ⟨rfl, rfl⟩

theorem reorderTask_hands (answers : StreamAnswers) (stream : Stream) :
    ∃ given rest, stream.rxList.dropWhile stream.due = given ++ rest ∧
      Hands (stream.rxList.takeWhile stream.due ++ given) rest stream
        (stream.reorderStreamFrameTask answers) ∧
      (∀ first ∈ given.head?, first.txSeq = expectedAfter stream.expectedSeq
        (stream.rxList.takeWhile stream.due)) ∧
      given.IsChain (fun earlier later =>
        later.txSeq = getNextFrameSeq earlier.txSeq) ∧
      (∀ first ∈ rest.head?, first.txSeq ≠ expectedAfter stream.expectedSeq
        (stream.rxList.takeWhile stream.due ++ given)) := by
  have flushed := reportSmaller_hands stream.rxList
    { stream with reorderTimer := false }
  have stopped : Hands [] stream.rxList stream
      { stream with reorderTimer := false } :=
    hands_nil rfl rfl rfl ⟨rfl, rfl⟩
  unfold reorderStreamFrameTask
  generalize reportSmallerFrames stream.rxList
    { stream with reorderTimer := false } = middle at flushed ⊢
  obtain ⟨given, rest, split, hands, starts, chain, stops⟩ :=
    reportExpected_hands middle.rxList middle
  rw [flushed.queued] at split
  rw [flushed.number] at starts
  rw [flushed.number, ← expectedAfter_append] at stops
  refine ⟨given, rest, split, ?_, starts, chain, stops⟩
  apply Hands.startTimer
  have whole := (stopped.trans flushed).trans hands
  exact { whole with }

structure Armed (stream : Stream) (node : StreamRxNode) : Prop where
  waits : node ∈ stream.rxList
  number : node.txSeq = stream.reorderTxSeq
  oldest : ∀ other ∈ stream.rxList, node.timeStamp ≤ other.timeStamp

/-- An expiry hands on the nodes up to the one the timer was started for, and
those that follow it directly. -/
def Skips (stream next : Stream) : Prop :=
  ∃ before armed following rest,
    stream.rxList = before ++ armed :: (following ++ rest) ∧
    stream.Armed armed ∧
    (armed :: following).IsChain (fun earlier later =>
      later.txSeq = getNextFrameSeq earlier.txSeq) ∧
    (∀ first ∈ rest.head?, first.txSeq ≠ next.expectedSeq) ∧
    Hands (before ++ armed :: following) rest stream next

/-- The timer was started for the oldest node, and the frame right before this
node waits as well. -/
def Adjoins (stream : Stream) : Prop :=
  ∃ armed, stream.Armed armed ∧ ∃ previous ∈ stream.rxList,
      getNextFrameSeq previous.txSeq = armed.txSeq

section

variable (settled : Settled stream) {before later : List StreamRxNode}
include settled

theorem Armed.split (armed : stream.Armed node)
    (queued : stream.rxList = before ++ node :: later) :
    stream.rxList.takeWhile stream.due = before ∧
      stream.rxList.dropWhile stream.due = node :: later := by
  have sorted := settled.inOrder.sorted
  rw [queued, pairwise_append] at sorted
  have smaller : ∀ earlier ∈ before, stream.due earlier = true := by
    intro earlier member
    unfold due
    rw [← armed.number]
    exact sorted.2.2 earlier member node (by simp)
  have notDue : ¬ stream.due node = true := by
    have small := settled.small armed.waits
    unfold due
    rw [← armed.number, isFrameSeqSmaller_iff small small]
    omega
  rw [queued, takeWhile_append_of_pos smaller, dropWhile_append_of_pos smaller,
    takeWhile_cons_of_neg notDue, dropWhile_cons_of_neg notDue, append_nil]
  exact ⟨rfl, rfl⟩

theorem last_of_previous (queued : stream.rxList = before ++ node :: later)
    {previous : StreamRxNode} (member : previous ∈ stream.rxList)
    (adjoins : getNextFrameSeq previous.txSeq = node.txSeq) :
    expectedAfter stream.expectedSeq before = node.txSeq := by
  have sorted := settled.inOrder.sorted
  have smallPrevious := settled.small member
  have waits : node ∈ stream.rxList := by simp [queued]
  have smallNode := settled.small waits
  rw [getNextFrameSeq_eq smallPrevious] at adjoins
  rw [queued, pairwise_append, pairwise_cons] at sorted
  rw [queued, mem_append, mem_cons] at member
  rcases member with front | rfl | behind
  · obtain ⟨inner, last, rfl⟩ :=
      before.eq_nil_or_concat'.resolve_left (ne_nil_of_mem front)
    have smallLast : last.txSeq < 16384 := settled.small (by simp [queued])
    have lastBefore := sorted.2.2 last (by simp) node (by simp)
    rw [isFrameSeqSmaller_iff smallLast smallNode] at lastBefore
    have same : last.txSeq = previous.txSeq := by
      rcases mem_append.mp front with inside | tail
      · have order := (pairwise_append.mp sorted.1).2.2 previous inside
          last (by simp)
        rw [isFrameSeqSmaller_iff smallPrevious smallLast] at order
        omega
      · rw [mem_singleton.mp tail]
    rw [expectedAfter_concat, same, getNextFrameSeq_eq smallPrevious, adjoins]
  · omega
  · have order := sorted.2.1.1 previous behind
    rw [isFrameSeqSmaller_iff smallNode smallPrevious] at order
    omega

theorem Adjoins.skips (adjoins : stream.Adjoins) (answers : StreamAnswers) :
    stream.Skips (stream.reorderStreamFrameTask answers) := by
  obtain ⟨armed, started, previous, member, adjacent⟩ := adjoins
  obtain ⟨before, later, queued⟩ := append_of_mem started.waits
  have reached := last_of_previous settled queued member adjacent
  obtain ⟨taken, dropped⟩ := started.split settled queued
  obtain ⟨given, rest, split, hands, starts, chain, stops⟩ :=
    stream.reorderTask_hands answers
  rw [taken] at hands starts stops
  rw [dropped] at split
  cases given with
  | nil =>
    rw [nil_append] at split
    rw [append_nil, reached, ← split] at stops
    exact absurd rfl (stops armed rfl)
  | cons first following =>
    obtain ⟨rfl, rfl⟩ := List.cons.inj split
    refine ⟨before, armed, following, rest, queued, started, chain, ?_, hands⟩
    rw [hands.number]
    exact stops

theorem Skips.adjoins {answers : StreamAnswers}
    (skips : stream.Skips (stream.reorderStreamFrameTask answers)) :
    stream.Adjoins := by
  obtain ⟨before, armed, following, rest, queued, started, -, -, hands⟩ :=
    skips
  obtain ⟨taken, dropped⟩ := started.split settled queued
  obtain ⟨given, kept, split, handed, starts, -, -⟩ :=
    stream.reorderTask_hands answers
  rw [taken] at handed starts
  rw [dropped] at split
  have nonempty : given ≠ [] := by
    rintro rfl
    have lengths := congrArg List.length (handed.calls.symm.trans hands.calls)
    simp at lengths
  obtain ⟨first, more, rfl⟩ := exists_cons_of_ne_nil nonempty
  obtain ⟨rfl, -⟩ := List.cons.inj split
  have reached := starts armed rfl
  rcases before.eq_nil_or_concat' with rfl | ⟨inner, last, rfl⟩
  · have ahead := (settled.inOrder.within armed started.waits).1
    rw [reached, expectedAfter] at ahead
    simp [Serial.ahead] at ahead
  · refine ⟨armed, started, last, by simp [queued], ?_⟩
    rw [reached, expectedAfter_concat]

end

def SkipsGap (stream : Stream) (input : Input) : Prop :=
  input.event = .reorderTimer → stream.rxList ≠ [] →
    stream.Skips (stream.step input)

def Advances (start : Stream) (inputs : List Input) : Prop :=
  ∀ before first between second after,
    inputs = before ++ first :: (between ++ second :: after) →
    first.event = .reorderTimer → second.event = .reorderTimer →
    (run step start before).up.length <
      (run step start (before ++ first :: between)).up.length

theorem Hands.grows (hands : Hands given rest stream next) :
    stream.up <+: next.up := by
  rw [hands.calls]
  exact prefix_append _ _

theorem up_recvChecked (answers : StreamAnswers) (txSeq pi : Nat)
    (data : Bytes) (stream : Stream) :
    stream.up <+: (stream.recvChecked answers txSeq pi data).2.up := by
  have started (queued : Stream) :
      queued.up <+: (queued.startReorderTimer answers).up := by
    have same := (startReorderTimer_keeps answers queued).2.1
    exact ⟨[], (append_nil _).trans same.symm⟩
  let node : StreamRxNode :=
    { txSeq, pi, data, timeStamp := answers.stamp, arrival := stream.arrivals }
  unfold recvChecked
  dsimp only
  split
  · exact prefix_append _ _
  split
  · let reported : Stream :=
      { { stream with arrivals := stream.arrivals + 1 }.recvCallback node with
        expectedSeq := getNextFrameSeq stream.expectedSeq }
    obtain ⟨given, rest, -, hands, -⟩ :=
      reported.reportExpected_hands stream.rxList
    have drained := (prefix_append _ _).trans hands.grows
    exact drained.trans (started (stopReorderTimer
      (reported.reportExpectedStreamFrame stream.rxList)))
  split
  · exact prefix_refl _
  split
  · exact prefix_refl _
  split
  · exact prefix_refl _
  split
  · exact prefix_refl _
  · exact started { stream with
      arrivals := stream.arrivals + 1
      rxList := insertStreamRxNode node stream.rxList
      maxExpectedSeq := _ }

theorem up_step (stream : Stream) (input : Input) :
    stream.up <+: (stream.step input).up := by
  unfold step
  split
  · unfold dataRecvFrame
    split
    · exact prefix_refl _
    next recvCb _ _ _ frame _ =>
      unfold recvStreamFrame
      dsimp only
      split
      · exact prefix_refl _
      split
      · exact prefix_refl _
      split
      · exact prefix_refl _
      · exact up_recvChecked _ _ _ _ { stream with recvCb := recvCb frame.pi }
  · obtain ⟨given, rest, -, hands, -⟩ := stream.reorderTask_hands input.answers
    exact hands.grows

theorem Skips.advances (skips : stream.Skips next) :
    stream.up.length < next.up.length := by
  obtain ⟨before, armed, following, rest, -, -, -, -, hands⟩ := skips
  have length := congrArg List.length hands.calls
  simp only [length_append, length_map, length_cons] at length
  omega

theorem skipsGap_iff (conf : StreamConf) (inputs : List Input) :
    (Meets step SkipsGap (streamChannelCreate conf) inputs ↔
      Meets step (fun stream input => input.event = .reorderTimer →
        stream.rxList ≠ [] → stream.Adjoins)
        (streamChannelCreate conf) inputs) ∧
    (Meets step (fun stream input => input.event = .reorderTimer →
        stream.Adjoins) (streamChannelCreate conf) inputs →
      Advances (streamChannelCreate conf) inputs) := by
  have initial : Settled (streamChannelCreate conf) :=
    .inl ⟨rfl, rfl, rfl⟩
  constructor
  · apply meets_congr (fun _ input settled => settled.step input) _ initial
    intro stream input settled
    constructor
    · intro skips expires waits
      have skipped := skips expires waits
      unfold step at skipped
      rw [expires] at skipped
      exact skipped.adjoins settled
    · intro adjoins expires waits
      unfold step
      rw [expires]
      exact (adjoins expires waits).skips settled input.answers
  · rintro meets before first between second after rfl expires -
    have settled : Settled (run step (streamChannelCreate conf) before) :=
      run_invariant_of_step (fun _ input settled => settled.step input)
        initial before
    have skipped := (meets.at_step expires).skips settled first.answers
    have expired : (run step (streamChannelCreate conf) before).step first =
        (run step (streamChannelCreate conf) before).reorderStreamFrameTask
          first.answers := by
      unfold step
      rw [expires]
    have grown := run_extends up_step
      ((run step (streamChannelCreate conf) before).step first) between
    rw [run_append, run_cons]
    rw [expired] at grown ⊢
    exact Nat.lt_of_lt_of_le skipped.advances grown.length_le

def answersAt (moment : Nat) : StreamAnswers where
  stamp := moment
  now := moment + 1
  alloc := true
  timerAdd := true
  headSeq := 0

/-- Frame 1 is lost, frame 2 arrives behind frame 0, and the timer that was
started for it expires twice. -/
def lostFrame : List Input :=
  [{ event := .recvFrame (fun _ => true)
       { head := [], tail := []
         data := [64, 34, 6, 0, 1, 0, 0, 7, 70, 106] }
     answers := answersAt 0 },
    { event := .recvFrame (fun _ => true)
        { head := [], tail := []
          data := [64, 34, 6, 0, 1, 2, 0, 7, 231, 170] }
      answers := answersAt 5 },
    { event := .reorderTimer, answers := answersAt 20 },
    { event := .reorderTimer, answers := answersAt 35 }]

def plainStreamConf : StreamConf where
  lcid := 1
  srcTcid := 64
  mps := 64
  crcInit := 0

theorem skipsGap_fails :
    ¬ Meets step SkipsGap (streamChannelCreate plainStreamConf) lostFrame ∧
      ¬ Advances (streamChannelCreate plainStreamConf) lostFrame := by
  constructor
  · rintro ⟨-, -, skips, -⟩
    have advanced := (skips rfl (by decide +kernel)).advances
    revert advanced
    decide +kernel
  · intro advances
    have advanced := advances (lostFrame.take 2)
      { event := .reorderTimer, answers := answersAt 20 } []
      { event := .reorderTimer, answers := answersAt 35 } [] rfl rfl rfl
    revert advanced
    decide +kernel

end Stream

end NearLink.Dtap
