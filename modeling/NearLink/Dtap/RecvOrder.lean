import NearLink.Dtap.RecvInvariant

/-!
# The order of received frames

With an upper layer that never pushes back the receive window is always
drained up to the first gap, the frames are handed on in the order of the
stream, each once, and the reordering timer runs exactly while a frame is
missing.  Frames are followed by their stream positions, which a log collects
as they arrive.
-/

namespace NearLink.Dtap.Channel

open Sdf List

variable {env : Env} {registry : Registry} {channel result : Channel}
  {accepted positions : List Nat} {highest expected : Nat}

def NeverPushesBack (registry : Registry) : Prop :=
  NeverFull registry.byTcid ∧ ∀ pi, NeverFull (registry.byProto pi)

theorem NeverPushesBack.select {registry : Registry}
    (takes : NeverPushesBack registry) (pi : Nat) :
    NeverFull (registry.select pi) := by
  unfold Registry.select
  cases chosen : registry.byTcid with
  | none => exact takes.2 pi
  | some callback =>
    have first := takes.1
    rw [chosen] at first
    exact first

/-- The stream position of a frame that arrives: the first one carrying its
number from the frame to be handed on next. -/
def arrivalPosition (channel : Channel) (frame : Frame) : Nat :=
  channel.handed.length +
    Serial.ahead 16384 (channel.handed.length % 16384) frame.txSeq

def arrivals (env : Env) (channel : Channel) : Event → List Nat
  | .recvFrame received =>
    if Arrives env channel received.frame then
      [channel.arrivalPosition received.frame]
    else []
  | _ => []

def loggedStep (env : Env) (registry : Registry)
    (state : Channel × List Nat) (event : Event) : Channel × List Nat :=
  (state.1.checkedStep env registry event,
    state.2 ++ arrivals env state.1 event)

def onePast (accepted : List Nat) : Nat :=
  accepted.foldr (fun position bound => max (position + 1) bound) 0

theorem onePast_eq (below : ∀ position ∈ accepted, position < highest)
    (reached : highest = 0 ∨ highest - 1 ∈ accepted) :
    onePast accepted = highest := by
  have upper (bound : Nat) (all : ∀ position ∈ accepted, position < bound) :
      onePast accepted ≤ bound := by
    clear below reached
    induction accepted with
    | nil => exact Nat.zero_le _
    | cons position accepted induction =>
      have head := all position mem_cons_self
      have tail := induction fun other member =>
        all other (.tail _ member)
      exact Nat.max_le.mpr ⟨head, tail⟩
  have lower (position : Nat) (member : position ∈ accepted) :
      position < onePast accepted := by
    clear below reached upper
    induction accepted with
    | nil => cases member
    | cons other accepted induction =>
      rcases mem_cons.mp member with rfl | inTail
      · exact Nat.lt_of_lt_of_le (Nat.lt_succ_self _) (Nat.le_max_left _ _)
      · exact Nat.lt_of_lt_of_le (induction inTail) (Nat.le_max_right _ _)
  rcases reached with rfl | member
  · exact Nat.le_zero.mp (upper 0 below)
  · have last := lower _ member
    have bound := upper highest below
    omega

structure OrderedShape (env : Env) (expected highest : Nat)
    (positions : List Nat) (channel : Channel) (accepted : List Nat) :
    Prop where
  shape : ReceiverShape DataContent expected expected highest positions channel
  notFull : channel.isRxWindowFull = false
  handed : channel.handed = (List.range expected).map seqOf
  accepted_iff : ∀ position, position ∈ accepted ↔
    position < expected ∨ position ∈ positions
  distinct : accepted.Nodup
  timer : (∀ tick, env.timerAdd tick = true) →
    (channel.reorderTimer.isSome = true ↔ expected < highest)

theorem OrderedShape.of_receiver
    (ordered : OrderedShape env expected highest positions channel accepted)
    (nackCnt : Nat) (same : result.receiver =
      (channel.conf, { channel.rxSide with nackCnt := nackCnt })) :
    OrderedShape env expected highest positions result accepted := by
  have changed : ReceiverShape DataContent expected expected highest
      positions { channel with nackCnt := nackCnt } :=
    ⟨ordered.shape.window, ordered.shape.waiting⟩
  have flags : result.isRxWindowFull = channel.isRxWindowFull :=
    congrArg (·.2.isRxWindowFull) same
  have handed : result.handed = channel.handed :=
    congrArg (·.2.handed) same
  have timer : result.reorderTimer = channel.reorderTimer :=
    congrArg (·.2.reorderTimer) same
  exact
    { shape := changed.of_receiver same
      notFull := flags.trans ordered.notFull
      handed := handed.trans ordered.handed
      accepted_iff := ordered.accepted_iff
      distinct := ordered.distinct
      timer := by
        rw [timer]
        exact ordered.timer }

theorem arrivalPosition_eq {frame : Frame} {position : Nat}
    (handed : channel.handed.length = expected)
    (number : frame.txSeq = seqOf position) (ahead : expected ≤ position)
    (near : position < expected + 16384) :
    channel.arrivalPosition frame = position := by
  obtain ⟨distance, rfl⟩ := Nat.le.dest ahead
  unfold arrivalPosition
  rw [handed, number]
  unfold seqOf
  rw [Serial.ahead_mod (by decide), Nat.mod_eq_of_lt (by omega)]

theorem OrderedShape.arrive {received : ReceivedFrame} {base : Channel}
    (takes : NeverPushesBack registry)
    (ordered : OrderedShape env expected highest positions channel accepted)
    (arrives : Arrives env channel received.frame)
    (start : base.receiver = channel.receiver) (moved : result.receiver =
      (base.recvDataFrame env (registry.select received.frame.pi)
        received.frame).receiver) :
    ∃ later highest positions, OrderedShape env later highest positions
      result (accepted ++ [channel.arrivalPosition received.frame]) := by
  obtain ⟨position, number, absent, place⟩ :=
    arrives.position received.inRange ordered.shape
  have size : base.rxWindow.size = channel.rxWindow.size :=
    congrArg (·.2.rxWindow.size) start
  have flags : base.isRxWindowFull = channel.isRxWindowFull :=
    congrArg (·.2.isRxWindowFull) start
  have numbers : base.handed = channel.handed :=
    congrArg (·.2.handed) start
  have sizePos := ordered.shape.window.size_pos
  have sizeLe := ordered.shape.window.size_le
  have handedLength : channel.handed.length = expected := by
    rw [ordered.handed, length_map, length_range]
  have logged := arrivalPosition_eq handedLength number (by omega)
    (by omega)
  obtain ⟨later, reached, remaining, after⟩ :=
    recvDataFrame_received env (registry.select received.frame.pi)
      queueContent_data (ordered.shape.of_receiver start) number arrives.1 absent (by omega)
      (by rw [size]; omega)
  obtain ⟨notFull, handed⟩ :=
    after.taken (flags.trans ordered.notFull) (takes.select _)
  obtain rfl : reached = later := after.shape.waiting notFull
  have raised := after.raised
  refine ⟨reached, max highest (position + 1), remaining, ?_⟩
  exact
    { shape := after.shape.of_receiver moved
      notFull := (congrArg (·.2.isRxWindowFull) moved).trans notFull
      handed := by
        have count : reached = expected + (reached - expected) := by omega
        refine (congrArg (·.2.handed) moved).trans ?_
        refine handed.trans ?_
        rw [numbers, ordered.handed, ← map_append,
          range_eq_range', range_eq_range']
        conv => rhs; rw [count, ← range'_append_1, Nat.zero_add]
      accepted_iff := by
        intro other
        rw [logged, mem_append, mem_singleton,
          ordered.accepted_iff, after.mem_iff]
        constructor
        · rintro ((before | queued) | here)
          · exact .inl (by omega)
          · by_cases passed : other < reached
            · exact .inl passed
            · exact .inr ⟨.inr queued, by omega⟩
          · by_cases passed : other < reached
            · exact .inl passed
            · exact .inr ⟨.inl here, by omega⟩
        · rintro (before | ⟨here | queued, _⟩)
          · by_cases old : other < expected
            · exact .inl (.inl old)
            · rcases after.dense other (by omega) before with here | queued
              · exact .inr here
              · exact .inl (.inr queued)
          · exact .inr here
          · exact .inl (.inr queued)
      distinct := by
        rw [logged, nodup_append]
        refine ⟨ordered.distinct, nodup_singleton _, ?_⟩
        intro other inLog same member equality
        cases mem_singleton.mp member
        subst equality
        rcases (ordered.accepted_iff _).mp inLog with before | queued
        · omega
        · exact absent queued
      timer := by
        intro starts
        rw [show result.reorderTimer = _ from
          congrArg (·.2.reorderTimer) moved]
        exact after.timer starts }

theorem loggedStep_ordered (takes : NeverPushesBack registry)
    (state : Channel × List Nat) (event : Event)
    (ordered : ∃ expected highest positions,
      OrderedShape env expected highest positions state.1 state.2) :
    ∃ expected highest positions, OrderedShape env expected highest positions
        (loggedStep env registry state event).1
        (loggedStep env registry state event).2 := by
  obtain ⟨channel, accepted⟩ := state
  obtain ⟨expected, highest, positions, ordered⟩ := ordered
  unfold loggedStep
  have moved := @checkedStep_receiverMove env registry channel event
  revert moved
  generalize channel.checkedStep env registry event = result
  intro moved
  cases moved with
  | none unrelated same =>
    have quiet : arrivals env channel event = [] := by
      cases event with
      | recvFrame received => exact if_neg (unrelated received rfl)
      | _ => rfl
    rw [quiet, append_nil]
    exact ⟨_, _, _, ordered.of_receiver channel.nackCnt same⟩
  | nack nackCnt same =>
    rw [show arrivals env channel .reorderTimer = [] from rfl, append_nil]
    exact ⟨_, _, _, ordered.of_receiver nackCnt same⟩
  | @arrive received base _ arrives start same =>
    rw [show arrivals env channel (.recvFrame received) =
      [channel.arrivalPosition received.frame] from if_pos arrives]
    exact ordered.arrive takes arrives start same
  | resume same =>
    -- Nothing waits before the gap, so there is nothing to resume.
    obtain ⟨reached, remaining, after, members, taken⟩ :=
      recvEnhanceFrameInner_shape env registry.byTcid queueContent_data
        (show RecvWindow _ _ _ _ _
          { channel with isRxWindowFull := false }.rxWindow from
          ordered.shape.window)
    obtain ⟨notFull, handed⟩ := taken rfl takes.1
    obtain rfl : reached = expected := after.waiting notFull
    rw [← same] at after notFull handed
    rw [show arrivals env channel (.setStatus 0) = [] from rfl, append_nil]
    refine ⟨reached, highest, remaining, ?_⟩
    exact
      { shape := after
        notFull := notFull
        handed := by
          rw [handed, Nat.sub_self]
          exact (append_nil _).trans ordered.handed
        accepted_iff := by
          intro other
          rw [ordered.accepted_iff, members]
          constructor
          · rintro (before | queued)
            · exact .inl before
            · exact .inr ⟨queued, (ordered.shape.window.range other queued).1⟩
          · rintro (before | ⟨queued, _⟩)
            · exact .inl before
            · exact .inr queued
        distinct := ordered.distinct
        timer := by
          rw [same, recvEnhanceFrameInner_reorderTimer]
          exact ordered.timer }

/-- What a receive window looks like between two calls, given the log of the
positions that have been accepted. -/
structure Tidy (channel : Channel) (accepted : List Nat) : Prop where
  increasing : channel.rxWindow.rxList.Pairwise fun first second =>
    isFrameSeqSmaller first.txSeq second.txSeq = true
  distinct : (channel.rxWindow.rxList.map Frame.txSeq).Nodup
  drained : channel.rxWindow.bufferSeq = channel.rxWindow.expectedTxSeq
  missing : ∀ frame ∈ channel.rxWindow.rxList,
    frame.txSeq ≠ channel.rxWindow.expectedTxSeq
  acceptedOnce : accepted.Nodup
  maximum : channel.rxWindow.maxExpectedTxSeq = onePast accepted % 2 ^ 14
  complete : channel.rxWindow.maxExpectedTxSeq =
    channel.rxWindow.expectedTxSeq ↔ channel.rxWindow.rxList = []
  inOrder : channel.handed = (List.range channel.handed.length).map (· % 2 ^ 14)
  next : channel.rxWindow.expectedTxSeq = channel.handed.length % 2 ^ 14
  timer : channel.reorderTimer.isSome = true ↔
    isFrameSeqSmaller channel.rxWindow.expectedTxSeq
      channel.rxWindow.maxExpectedTxSeq = true

theorem OrderedShape.tidy
    (ordered : OrderedShape env expected highest positions channel accepted)
    (starts : ∀ tick, env.timerAdd tick = true) : Tidy channel accepted := by
  have window := ordered.shape.window
  have upper := window.bound
  have numbers := window.queued.map_txSeq
  have handedLength : channel.handed.length = expected := by
    rw [ordered.handed, length_map, length_range]
  have spread (first second : Nat) (inFirst : first ∈ positions)
      (inSecond : second ∈ positions) :
      first < second + 8192 ∧ second ≤ first + 8192 := by
    have firstPlace := window.range first inFirst
    have secondPlace := window.range second inSecond
    omega
  exact
    { increasing := by
        have pairs : (positions.map seqOf).Pairwise fun first second =>
            isFrameSeqSmaller first second = true := by
          rw [pairwise_map]
          refine window.increasing.imp_of_mem ?_
          intro first second inFirst inSecond before
          have near := spread first second inFirst inSecond
          rw [isFrameSeqSmaller_seqOf near.1 near.2]
          simpa using before
        rw [← numbers, pairwise_map] at pairs
        exact pairs
      distinct := by
        rw [numbers]
        unfold List.Nodup
        rw [pairwise_map]
        refine window.increasing.imp_of_mem ?_
        intro first second inFirst inSecond before same
        have near := spread first second inFirst inSecond
        have equal := (seqOf_eq_iff (by omega) (by omega)).mp same
        omega
      drained := window.bufferSeq_eq.trans window.expectedTxSeq_eq.symm
      missing := by
        intro frame member same
        have number : frame.txSeq ∈ positions.map seqOf := by
          rw [← numbers]
          exact mem_map_of_mem member
        obtain ⟨position, inList, equality⟩ := mem_map.mp number
        have place := window.range position inList
        rw [← equality, window.expectedTxSeq_eq] at same
        have equal := (seqOf_eq_iff (by omega) (by omega)).mp same
        exact window.gap (equal ▸ inList)
      acceptedOnce := ordered.distinct
      maximum := by
        rw [window.maxExpectedTxSeq_eq, @onePast_eq accepted highest]
        · rfl
        · intro position member
          have middle := window.expected_le
          rcases (ordered.accepted_iff position).mp member with before | queued
          · omega
          · exact (window.range position queued).2
        · by_cases empty : highest = 0
          · exact .inl empty
          · refine .inr ((ordered.accepted_iff _).mpr ?_)
            by_cases gap : expected < highest
            · exact .inr (window.last gap)
            · exact .inl (by omega)
      complete := by
        have different := window.missing_iff.2
        constructor
        · intro same
          have empty : positions = [] := by
            refine eq_nil_iff_forall_not_mem.mpr fun position member => ?_
            have place := window.range position member
            omega
          have length := window.queued.length_eq
          rw [empty] at length
          exact eq_nil_of_length_eq_zero length
        · intro empty
          by_contra differs
          have gap := different.mp fun same => differs same.symm
          have member := window.last gap
          have length := window.queued.length_eq
          rw [empty] at length
          rw [eq_nil_of_length_eq_zero length.symm] at member
          cases member
      inOrder := by
        rw [handedLength, ordered.handed]
        rfl
      next := by
        rw [handedLength, window.expectedTxSeq_eq]
        rfl
      timer := by
        rw [ordered.timer starts, window.missing_iff.1] }

/-- The receive window of a reliable channel after any sequence of events,
with an upper layer that takes every SDU and timers that start. -/
theorem tidy_of_run (env : Env) (registry : Registry) (conf : Conf)
    (window : UInt8) (events : List Event) (takes : NeverPushesBack registry)
    (starts : ∀ tick, env.timerAdd tick = true) :
    let state := Transition.run (loggedStep env registry)
      (reliableChannelCreate conf window, []) events
    Tidy state.1 state.2 := by
  have initial : OrderedShape env 0 0 []
      (reliableChannelCreate conf window) [] :=
    { shape := reliableChannelCreate_receiverShape conf window
      notFull := rfl
      handed := rfl
      accepted_iff := by simp
      distinct := .nil
      timer := fun _ => ⟨nofun, nofun⟩ }
  have start : ∃ expected highest positions,
      OrderedShape env expected highest positions
        (reliableChannelCreate conf window, ([] : List Nat)).1
        (reliableChannelCreate conf window, ([] : List Nat)).2 :=
    ⟨_, _, _, initial⟩
  obtain ⟨_, _, _, ordered⟩ := Transition.run_invariant_of_step
    (loggedStep_ordered takes) start events
  exact ordered.tidy starts

/-- Frame 1 overtakes frame 0 in a window of four frames. -/
theorem tidy_of_overtaking :
    (Transition.run (loggedStep plainEnv takesAll)
        (reliableChannelCreate plainConf 4, [])
        [.recvFrame secondFrame, .recvFrame firstFrame]).1.handed = [0, 1] ∧
      Tidy (Transition.run (loggedStep plainEnv takesAll)
          (reliableChannelCreate plainConf 4, [])
          [.recvFrame secondFrame, .recvFrame firstFrame]).1
        (Transition.run (loggedStep plainEnv takesAll)
          (reliableChannelCreate plainConf 4, [])
          [.recvFrame secondFrame, .recvFrame firstFrame]).2 := by
  refine ⟨by decide +kernel, tidy_of_run plainEnv takesAll plainConf 4 _
    ⟨?_, ?_⟩ fun _ => rfl⟩
  · rintro callback equality calls info sdu
    cases equality
    simp
  · rintro pi callback equality
    cases equality

end NearLink.Dtap.Channel
