import NearLink.Dtap.RecvStep
import NearLink.Dtap.SendWindow

/-!
# The receiving side along runs

What every entry point of a reliable channel does to the shape of its receive
window.  `ReceiverMove` lists the four ways in which a checked event can touch
the receiving side; the results about whole runs go through its cases.
-/

namespace NearLink.Dtap.Channel

open Sdf

variable {env : Env} {registry : Registry} {channel : Channel} {frame : Frame}

/-- The two allocations with which `DTAP_RecvEnhanceFrame` copies a data frame
succeed. -/
def copied (env : Env) (channel : Channel) (frame : Frame) : Bool :=
  env.allocAll
    ((channel.recvNackFrame env frame).2.slideTxWindow env frame).host 2

theorem recvNackFrame_data (data : frame.IsData) :
    channel.recvNackFrame env frame = (.success, channel) := by
  unfold recvNackFrame
  rw [if_neg fun nack => data.2 nack.1]

theorem recvEnhanceFrame_data (env : Env) (channel : Channel)
    (recvCb : Option RecvCb) (data : frame.IsData) :
    ∃ base : Channel, base.receiver = channel.receiver ∧
      (channel.recvEnhanceFrame env recvCb frame).2.receiver =
        if channel.copied env frame then
          (base.recvDataFrame env recvCb frame).receiver
        else channel.receiver := by
  have slid := @slideTxWindow_receiver env channel frame
  refine ⟨(channel.slideTxWindow env frame).skip 2, slid, ?_⟩
  unfold recvEnhanceFrame copied
  rw [recvNackFrame_data data]
  dsimp only
  rw [if_neg (by simp), if_neg data.2]
  by_cases allocated :
      env.allocAll (channel.slideTxWindow env frame).host 2 = true
  · rw [if_neg (by simp [allocated]), if_pos allocated,
      transChannelStatusChange_receiver]
  · rw [if_pos (by simpa using allocated), if_neg allocated]
    exact slid

theorem recvEnhanceFrame_ack {recvCb : Option RecvCb}
    (ack : frame.frameType = .ack) :
    (channel.recvEnhanceFrame env recvCb frame).2.receiver =
      channel.receiver := by
  have nacked := @recvNackFrame_receiver env channel frame
  unfold recvEnhanceFrame
  dsimp only
  split
  · exact nacked
  · rw [transChannelStatusChange_receiver, slideTxWindow_receiver, nacked]

/-- The reordering timer operation touches nothing but the timer, which then
runs exactly while a frame is missing. -/
theorem operateReorderTimer_spec :
    ∃ timer, (channel.operateReorderTimer env).receiver =
        (channel.conf, { channel.rxSide with reorderTimer := timer }) ∧
      ((∀ tick, env.timerAdd tick = true) →
        (channel.rxWindow.expectedTxSeq ≠ channel.rxWindow.maxExpectedTxSeq ↔
          isFrameSeqSmaller channel.rxWindow.expectedTxSeq
            channel.rxWindow.maxExpectedTxSeq = true) →
        (timer.isSome = true ↔ isFrameSeqSmaller channel.rxWindow.expectedTxSeq
            channel.rxWindow.maxExpectedTxSeq = true)) := by
  unfold operateReorderTimer
  extract_lets window gap
  have started (starts : ∀ tick, env.timerAdd tick = true) :
      (channel.timerHandle env channel.conf.reorderTimeout).isSome = true := by
    unfold timerHandle
    rw [if_pos (starts _)]
    rfl
  split
  next stopped =>
    split
    next missing =>
      exact ⟨_, rfl, fun starts _ => ⟨fun _ => missing,
        fun _ => started starts⟩⟩
    next complete =>
      refine ⟨channel.reorderTimer, rfl, fun _ _ => ?_⟩
      rw [stopped]
      exact ⟨nofun, fun missing => absurd missing complete⟩
  next running equality =>
    split
    next same =>
      refine ⟨none, rfl, fun _ exact_gap => ⟨nofun, fun missing => ?_⟩⟩
      exact absurd same (exact_gap.mpr missing)
    next different =>
      split
      next missing =>
        exact ⟨_, rfl, fun starts _ => ⟨fun _ => missing,
          fun _ => started starts⟩⟩
      · refine ⟨channel.reorderTimer, rfl, fun _ exact_gap => ?_⟩
        rw [equality]
        exact ⟨fun _ => exact_gap.mp different, fun _ => rfl⟩

section

variable (recvCb : Option RecvCb)

theorem recvFirstFrame_reorderTimer (frame : Frame) :
    (channel.recvFirstFrame env recvCb frame).2.2.reorderTimer =
      channel.reorderTimer := by
  unfold recvFirstFrame
  split <;> rfl

theorem recvQueuedFrames_reorderTimer (frames : List Frame) :
    (recvQueuedFrames env recvCb frames channel).reorderTimer =
      channel.reorderTimer := by
  induction frames generalizing channel with
  | nil => rfl
  | cons frame rest induction =>
    have kept := @recvFirstFrame_reorderTimer env channel recvCb frame
    unfold recvQueuedFrames
    split
    · rfl
    · dsimp only
      split
      · exact kept
      · exact induction.trans kept

theorem recvEnhanceFrameInner_reorderTimer :
    (channel.recvEnhanceFrameInner env recvCb).reorderTimer =
      channel.reorderTimer := by
  unfold recvEnhanceFrameInner
  split
  · rfl
  · exact recvQueuedFrames_reorderTimer recvCb _

end

/-- The receiving side of a channel: its window is in shape, and frames wait
before the gap only while the upper layer has pushed back. -/
structure ReceiverShape (content : Nat → Frame → Prop)
    (buffered expected highest : Nat) (positions : List Nat)
    (channel : Channel) : Prop where
  window : RecvWindow content buffered expected highest positions
    channel.rxWindow
  waiting : channel.isRxWindowFull = false → buffered = expected

section Shape

variable {content : Nat → Frame → Prop}
  {buffered expected highest : Nat} {positions : List Nat}

theorem ReceiverShape.of_receiver {other : Channel}
    (shape : ReceiverShape content buffered expected highest positions
      channel) (same : other.receiver = channel.receiver) :
    ReceiverShape content buffered expected highest positions other := by
  have windows : other.rxWindow = channel.rxWindow :=
    congrArg (·.2.rxWindow) same
  have flags : other.isRxWindowFull = channel.isRxWindowFull :=
    congrArg (·.2.isRxWindowFull) same
  exact ⟨windows ▸ shape.window, fun off => shape.waiting (flags ▸ off)⟩

theorem recvEnhanceFrameInner_shape (env : Env) (recvCb : Option RecvCb)
    (stable : QueueContent content)
    (window : RecvWindow content buffered expected highest positions
      channel.rxWindow) :
    ∃ reached remaining,
      ReceiverShape content reached expected highest remaining
        (channel.recvEnhanceFrameInner env recvCb) ∧
      (∀ position, position ∈ remaining ↔
        position ∈ positions ∧ reached ≤ position) ∧
      (channel.isRxWindowFull = false → NeverFull recvCb →
        (channel.recvEnhanceFrameInner env recvCb).isRxWindowFull = false ∧
        (channel.recvEnhanceFrameInner env recvCb).handed = channel.handed ++
            (List.range' buffered (expected - buffered)).map seqOf) := by
  unfold recvEnhanceFrameInner
  split
  next full =>
    refine ⟨buffered, positions, ⟨window, fun off => ?_⟩, fun position => ?_,
      fun off => ?_⟩
    any_goals
      rw [full] at off
      cases off
    exact ⟨fun member => ⟨member, (window.range position member).1⟩,
      fun both => both.1⟩
  next notFull =>
    have off : channel.isRxWindowFull = false := by simpa using notFull
    obtain ⟨reached, remaining, drained, complete⟩ :=
      recvQueuedFrames_drained env recvCb stable window
    refine ⟨reached, remaining, ⟨drained.window, ?_⟩, drained.mem_iff, ?_⟩
    · cases drained.handed with
      | all reach full handed => exact fun _ => reach
      | stopped before full =>
        intro cleared
        rw [full] at cleared
        cases cleared
    · intro _ takes
      cases drained.handed with
      | all reach full handed => exact ⟨full.trans off, handed⟩
      | stopped before full =>
        have reach := complete takes
        omega

/-- What remains true of a channel whose upper layer takes everything. -/
structure Taken (expected later : Nat) (old new : Channel) : Prop where
  notFull : new.isRxWindowFull = false
  handed : new.handed =
    old.handed ++ (List.range' expected (later - expected)).map seqOf

/-- The receiving side after a frame of the window has arrived: `later` is
now the first missing frame and the frames before `reached` are gone. -/
structure Received (env : Env) (recvCb : Option RecvCb)
    (content : Nat → Frame → Prop) (buffered expected highest : Nat)
    (positions : List Nat) (position : Nat) (old new : Channel)
    (later reached : Nat) (remaining : List Nat) : Prop where
  raised : expected ≤ later
  shape : ReceiverShape content reached later (max highest (position + 1))
    remaining new
  dense : ∀ other, buffered ≤ other → other < later →
    other = position ∨ other ∈ positions
  mem_iff : ∀ other, other ∈ remaining ↔
    (other = position ∨ other ∈ positions) ∧ reached ≤ other
  taken : old.isRxWindowFull = false → NeverFull recvCb →
    Taken buffered later old new
  timer : (∀ tick, env.timerAdd tick = true) → (new.reorderTimer.isSome = true ↔
      later < max highest (position + 1))

theorem recvDataFrame_received (env : Env) (recvCb : Option RecvCb)
    (stable : QueueContent content)
    (shape : ReceiverShape content buffered expected highest positions channel)
    {position : Nat} {frame : Frame}
    (number : frame.txSeq = seqOf position) (holds : content position frame)
    (absent : position ∉ positions) (ahead : expected ≤ position)
    (inside : position < buffered + channel.rxWindow.size) :
    ∃ later reached remaining,
      Received env recvCb content buffered expected highest positions position
        channel (channel.recvDataFrame env recvCb frame) later reached
        remaining := by
  obtain ⟨later, raised, queued⟩ :=
    shape.window.queue number ahead inside holds absent
  obtain ⟨timer, operated, running⟩ := @operateReorderTimer_spec env
    (channel.slideRxWindow frame)
  obtain ⟨missing, different⟩ := queued.missing_iff
  let operatedChannel := (channel.slideRxWindow frame).operateReorderTimer env
  have windows : operatedChannel.rxWindow =
      queueRxFrame channel.rxWindow frame :=
    congrArg (·.2.rxWindow) operated
  have flags : operatedChannel.isRxWindowFull = channel.isRxWindowFull :=
    congrArg (·.2.isRxWindowFull) operated
  have numbers : operatedChannel.handed = channel.handed :=
    congrArg (·.2.handed) operated
  have timers : operatedChannel.reorderTimer = timer :=
    congrArg (·.2.reorderTimer) operated
  obtain ⟨reached, remaining, inner, members, taken⟩ :=
    recvEnhanceFrameInner_shape env recvCb stable
      (show RecvWindow _ _ _ _ _ operatedChannel.rxWindow from
        windows ▸ queued)
  have answered := receiver_of_core (@answerPolling_core env
    (operatedChannel.recvEnhanceFrameInner env recvCb) frame.bits)
  have timerKept : (channel.recvDataFrame env recvCb frame).reorderTimer =
      timer :=
    (congrArg (·.2.reorderTimer) answered).trans
      ((recvEnhanceFrameInner_reorderTimer recvCb).trans timers)
  exact ⟨later, reached, remaining,
    { raised := raised
      shape := inner.of_receiver answered
      dense := fun other above below =>
        (List.mem_orderedInsert _).mp (queued.dense other above below)
      mem_iff := fun other => by rw [members, List.mem_orderedInsert]
      taken := fun off takes => by
        obtain ⟨notFull, handed⟩ := taken (flags.trans off) takes
        rw [numbers] at handed
        exact ⟨(congrArg (·.2.isRxWindowFull) answered).trans notFull,
            (congrArg (·.2.handed) answered).trans handed⟩
      timer := fun starts => by
        rw [timerKept, ← missing]
        exact running starts (different.trans missing.symm) }⟩

end Shape

theorem mem_insertBySeq_self (frame : Frame) (frames : List Frame) :
    frame ∈ insertBySeq frame frames := by
  induction frames with
  | nil => exact .head _
  | cons cur rest induction =>
    unfold insertBySeq
    split
    · exact .head _
    · exact .tail _ induction

theorem recvDataFrame_full (env : Env) (recvCb : Option RecvCb)
    (full : channel.isRxWindowFull = true) (frame : Frame) :
    (channel.recvDataFrame env recvCb frame).rxWindow =
      queueRxFrame channel.rxWindow frame := by
  obtain ⟨timer, operated, _⟩ := @operateReorderTimer_spec env
    (channel.slideRxWindow frame)
  have flags : ((channel.slideRxWindow frame).operateReorderTimer
      env).isRxWindowFull = true :=
    (congrArg (·.2.isRxWindowFull) operated).trans full
  unfold recvDataFrame
  extract_lets queued
  have stopped : queued.recvEnhanceFrameInner env recvCb = queued := by
    unfold recvEnhanceFrameInner
    rw [if_pos flags]
  rw [stopped]
  have answered := receiver_of_core (@answerPolling_core env queued frame.bits)
  exact (congrArg (·.2.rxWindow) answered).trans
    (congrArg (·.2.rxWindow) operated)

/-- A data frame that passes the check of the receive window and is copied
into its queue. -/
def Arrives (env : Env) (channel : Channel) (frame : Frame) : Prop :=
  frame.IsData ∧ channel.checkEnhanceFrame frame = true ∧
    channel.copied env frame = true

instance (frame : Frame) : Decidable (Arrives env channel frame) :=
  inferInstanceAs (Decidable (_ ∧ _))

inductive ReceiverMove (env : Env) (registry : Registry)
    (channel : Channel) : Event → Channel → Prop where
  | none {event : Event} {result : Channel}
      (unrelated : ∀ received : ReceivedFrame, event = .recvFrame received →
          ¬Arrives env channel received.frame)
      (kept : result.receiver = channel.receiver) :
      ReceiverMove env registry channel event result
  | nack {result : Channel} (nackCnt : Nat) (kept : result.receiver =
        (channel.conf, { channel.rxSide with nackCnt := nackCnt })) :
      ReceiverMove env registry channel .reorderTimer result
  | arrive {received : ReceivedFrame} {base result : Channel}
      (arrives : Arrives env channel received.frame)
      (start : base.receiver = channel.receiver)
      (moved : result.receiver =
        (base.recvDataFrame env (registry.select received.frame.pi)
          received.frame).receiver) :
      ReceiverMove env registry channel (.recvFrame received) result
  | resume {result : Channel} (moved : result =
        { channel with isRxWindowFull := false }.recvEnhanceFrameInner env
          registry.byTcid) :
      ReceiverMove env registry channel (.setStatus 0) result

theorem checkedStep_receiverMove (event : Event) :
    ReceiverMove env registry channel event
      (channel.checkedStep env registry event) := by
  cases event with
  | dataSend pi data => exact .none (by rintro _ ⟨⟩) (dataSend_receiver pi data)
  | recvFrame received =>
    unfold checkedStep
    dsimp only
    split
    next checked =>
      by_cases ack : received.frame.frameType = .ack
      · refine .none ?_ (recvEnhanceFrame_ack ack)
        rintro _ equality arrives
        cases equality
        exact arrives.1.2 ack
      · have data : received.frame.IsData := by
          refine ⟨fun basic => ?_, ack⟩
          unfold checkEnhanceFrame at checked
          rw [if_pos basic] at checked
          cases checked
        obtain ⟨base, start, moved⟩ := recvEnhanceFrame_data env channel
          (registry.select received.frame.pi) data
        split at moved
        next allocated =>
          exact .arrive ⟨data, checked, allocated⟩ start moved
        next failed =>
          refine .none ?_ moved
          rintro _ equality arrives
          cases equality
          exact failed arrives.2.2
    next rejected =>
      refine .none ?_ rfl
      rintro _ equality arrives
      cases equality
      exact rejected arrives.2.1
  | setStatus result =>
    change ReceiverMove env registry channel (.setStatus result)
      (channel.setTransChannelStatus env registry.byTcid result)
    unfold setTransChannelStatus
    split
    next success =>
      cases success
      exact .resume rfl
    · exact .none (by rintro _ ⟨⟩) rfl
  | statusChange result =>
    exact .none (by rintro _ ⟨⟩) (transChannelStatusChange_receiver result)
  | rspTimer =>
    exact .none (by rintro _ ⟨⟩) (receiver_of_core rspTimerExpireProc_core)
  | reorderTimer =>
    obtain ⟨nackCnt, kept⟩ := @reorderTimerExpireProc_core env channel
    exact .nack nackCnt
      (congrArg (fun core : Core => (core.conf, core.rx)) kept)
  | retransTimer => exact .none (by rintro _ ⟨⟩) retransTimerExpireProc_receiver

def DataContent (_ : Nat) (frame : Frame) : Prop := frame.IsData

theorem queueContent_data : QueueContent DataContent :=
  ⟨fun _ _ data => data, fun _ _ _ trimmed data => trimmed.isData data⟩

theorem reliableChannelCreate_receiverShape (conf : Conf) (window : UInt8) :
    ReceiverShape DataContent 0 0 0 [] (reliableChannelCreate conf window) := by
  have size := (reliableChannelCreate_senderShape conf window).window
  exact
    { window :=
        { size_pos := size.size_pos
          size_le := size.size_le
          bufferSeq_eq := rfl
          expectedTxSeq_eq := rfl
          maxExpectedTxSeq_eq := rfl
          queued := .nil
          increasing := .nil
          range := nofun
          dense := by
            intro position _ below
            omega
          gap := nofun
          last := by
            intro before
            omega
          buffered_le := le_rfl
          expected_le := le_rfl
          highest_le := Nat.zero_le _ }
      waiting := fun _ => rfl }

theorem Arrives.position {content : Nat → Frame → Prop}
    {buffered expected highest : Nat} {positions : List Nat}
    (arrives : Arrives env channel frame) (inRange : frame.InRange)
    (shape : ReceiverShape content buffered expected highest positions
      channel) :
    ∃ position, frame.txSeq = seqOf position ∧ position ∉ positions ∧
      (position = expected ∨ expected < position ∧
        position < buffered + channel.rxWindow.size) := by
  obtain ⟨data, checked, _⟩ := arrives
  refine shape.window.check_position inRange.1 ?_
  unfold checkEnhanceFrame at checked
  rw [if_neg data.1] at checked
  split at checked
  · cases checked
  · rwa [if_neg data.2] at checked

end NearLink.Dtap.Channel
