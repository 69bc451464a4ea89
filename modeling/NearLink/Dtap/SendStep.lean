import NearLink.Dtap.ReliableCore

/-!
# What the sending functions can do

One lemma per sending function of a reliable channel, in the form in which the
later invariants use it: what happens to the sending side, and which buffers
reach the scheduler.
-/

namespace NearLink.Dtap

open Sdf Channel List

/-- A queued frame keeps its number and its contents.  Sending it again counts
the attempt, and both ways of sending may set the polling bit. -/
inductive Retouched (crcInit : UInt16) : Frame → Frame → Prop where
  | count (frame : Frame) (reTxCnt : Nat) :
      Retouched crcInit frame { frame with reTxCnt := reTxCnt }
  | poll (frame : Frame) :
      Retouched crcInit frame (setBitForSendPolling crcInit frame)
  | mark (frame : Frame) (reTxCnt : Nat) :
      Retouched crcInit frame
        { setPbitForSendPolling crcInit frame with reTxCnt := reTxCnt }

section

variable (crcInit : UInt16) (frame : Frame)

theorem Retouched.refl :
    Retouched crcInit frame frame :=
  .count frame frame.reTxCnt

@[simp] theorem setBitForSendPolling_txSeq :
    (setBitForSendPolling crcInit frame).txSeq = frame.txSeq := by
  unfold setBitForSendPolling
  dsimp only
  split <;> rfl

@[simp] theorem setPbitForSendPolling_txSeq :
    (setPbitForSendPolling crcInit frame).txSeq = frame.txSeq := by
  unfold setPbitForSendPolling
  dsimp only
  split
  · rfl
  · split <;> rfl

end

variable {crcInit : UInt16} {frames : List Frame} {seq : Nat}
  {found replacement : Frame} {errno : Errno}

theorem Retouched.txSeq_eq {old new : Frame}
    (touched : Retouched crcInit old new) : new.txSeq = old.txSeq := by
  cases touched with
  | count reTxCnt => rfl
  | poll => exact setBitForSendPolling_txSeq crcInit old
  | mark reTxCnt => exact setPbitForSendPolling_txSeq crcInit old

theorem forall₂_retouched_refl (crcInit : UInt16) (frames : List Frame) :
    List.Forall₂ (Retouched crcInit) frames frames :=
  forall₂_same.mpr fun frame _ => Retouched.refl crcInit frame

theorem map_txSeq_of_retouched {old new : List Frame}
    (touched : List.Forall₂ (Retouched crcInit) old new) :
    new.map Frame.txSeq = old.map Frame.txSeq := by
  induction touched with
  | nil => rfl
  | cons head tail induction => simp [head.txSeq_eq, induction]

theorem findFrameBySeq_txSeq (search : findFrameBySeq frames seq = some found) :
    found.txSeq = seq := by
  simpa using find?_some search

theorem findFrameBySeq_cons (frame : Frame) (frames : List Frame) (seq : Nat) :
    findFrameBySeq (frame :: frames) seq =
      if frame.txSeq = seq then some frame
      else findFrameBySeq frames seq := by
  unfold findFrameBySeq
  split
  case isTrue same => rw [find?_cons_of_pos (by simpa using same)]
  case isFalse same => rw [find?_cons_of_neg (by simpa using same)]

section

variable (search : findFrameBySeq frames seq = some found)
include search

theorem updateFrameBySeq_retouched
    (touched : Retouched crcInit found replacement) :
    List.Forall₂ (Retouched crcInit) frames
      (updateFrameBySeq (fun _ => replacement) seq frames) := by
  induction frames with
  | nil => simp [findFrameBySeq] at search
  | cons frame frames induction =>
    rw [findFrameBySeq_cons] at search
    rw [updateFrameBySeq]
    by_cases same : frame.txSeq = seq
    · rw [if_pos same] at search ⊢
      obtain rfl : frame = found := by simpa using search
      exact .cons touched (forall₂_retouched_refl _ _)
    · rw [if_neg same] at search ⊢
      exact .cons (Retouched.refl _ _) (induction search)

theorem mem_updateFrameBySeq :
    replacement ∈ updateFrameBySeq (fun _ => replacement) seq frames := by
  induction frames with
  | nil => simp [findFrameBySeq] at search
  | cons frame frames induction =>
    rw [findFrameBySeq_cons] at search
    rw [updateFrameBySeq]
    by_cases same : frame.txSeq = seq
    · rw [if_pos same]
      exact .head _
    · rw [if_neg same] at search ⊢
      exact .tail _ (induction search)

end

theorem updateFrameBySeq_twice {first second : Frame} (same : first.txSeq = seq)
    (frames : List Frame) : updateFrameBySeq (fun _ => second) seq
        (updateFrameBySeq (fun _ => first) seq frames) =
      updateFrameBySeq (fun _ => second) seq frames := by
  induction frames with
  | nil => rfl
  | cons frame frames induction =>
    by_cases found : frame.txSeq = seq
    · simp [updateFrameBySeq, found, same]
    · simp [updateFrameBySeq, found, induction]

theorem sealFrame_error {buff : Buff} {header : Bytes}
    (failed : sealFrame buff header crcInit = .error errno) :
    errno ≠ .success ∧ errno ≠ .transReliableTxWindowFull := by
  unfold sealFrame at failed
  split at failed
  · cases failed
    decide
  · split at failed <;> cases failed
    decide

theorem buildFrame_error {frame : Frame} {tcid : Nat}
    (failed : buildFrame frame tcid crcInit = .error errno) :
    errno ≠ .success ∧ errno ≠ .transReliableTxWindowFull := by
  have mapped {result : Except Errno Buff} {build : Buff → Frame}
      (sealing : ∀ reason, result = .error reason →
        reason ≠ .success ∧ reason ≠ .transReliableTxWindowFull)
      (failed : result.map build = .error errno) :
      errno ≠ .success ∧ errno ≠ .transReliableTxWindowFull := by
    cases result with
    | ok buff => cases failed
    | error reason =>
      cases failed
      exact sealing errno rfl
  unfold buildFrame at failed
  split at failed
  any_goals exact mapped (fun _ => sealFrame_error) failed
  any_goals
    cases failed
    decide
  · unfold buildBasicFrame at failed
    dsimp only at failed
    split at failed <;> cases failed
    decide
  · unfold buildAckFrame at failed
    exact mapped (fun _ => sealFrame_error) failed

/-- The number behind `count` consecutive frames. -/
def advanceSeq (seq : Nat) : Nat → Nat
  | 0 => seq
  | count + 1 => advanceSeq (getNextFrameSeq seq) count

def TxSide.resend (side : TxSide) (reTxSeq : Nat) (isTxWindowFull : Bool)
    (txList : List Frame) : TxSide :=
  { side with
    reTxSeq := reTxSeq
    isTxWindowFull := isTxWindowFull
    txWindow := { side.txWindow with txList := txList } }

def TxSide.queue (side : TxSide) (sendPollingCounter count : Nat)
    (added : List Frame) (message : Message) : TxSide :=
  { side with
    sendPollingCounter := sendPollingCounter
    txWindow := { side.txWindow with
      nextTxSeq := advanceSeq side.txWindow.nextTxSeq count
      txList := side.txWindow.txList ++ added }
    framed := side.framed ++ [message] }

namespace Channel

variable {env : Env} {channel : Channel} {data : Bytes} {mps : Nat}
  {errno : Errno}

/-- Every buffer sent between two states is the buffer of one of the
frames. -/
def Emits (old new : Channel) (frames : List Frame) : Prop :=
  ∃ sent, new.host.out = old.host.out ++ sent ∧
    ∀ buff ∈ sent, ∃ frame ∈ frames, frame.buff.data = buff

variable (frames : List Frame) (frame : Frame)

theorem Emits.of_eq {old new : Channel} (same : new.host.out = old.host.out)
    : Emits old new frames :=
  ⟨[], by simpa using same, by simp⟩

theorem Emits.trans {first second third : Channel} {before after : List Frame}
    (early : Emits first second before) (late : Emits second third after) :
    Emits first third (before ++ after) := by
  obtain ⟨earlySent, earlyOut, earlyFrom⟩ := early
  obtain ⟨lateSent, lateOut, lateFrom⟩ := late
  refine ⟨earlySent ++ lateSent, ?_, ?_⟩
  · rw [lateOut, earlyOut, append_assoc]
  · intro buff member
    rcases mem_append.mp member with inEarly | inLate
    · obtain ⟨frame, inBefore, equality⟩ := earlyFrom buff inEarly
      exact ⟨frame, mem_append_left _ inBefore, equality⟩
    · obtain ⟨frame, inAfter, equality⟩ := lateFrom buff inLate
      exact ⟨frame, mem_append_right _ inAfter, equality⟩

theorem Emits.mono {old new : Channel} {frames wider : List Frame}
    (emits : Emits old new frames) (included : frames ⊆ wider) :
    Emits old new wider := by
  obtain ⟨sent, out, origin⟩ := emits
  refine ⟨sent, out, ?_⟩
  intro buff member
  obtain ⟨frame, inside, equality⟩ := origin buff member
  exact ⟨frame, included inside, equality⟩

theorem sendFrame_emits {old : Channel} (same : old.host.out = channel.host.out)
    :
    Emits channel (old.sendFrame env frame.buff.data).2 [frame] := by
  unfold sendFrame
  split
  · refine ⟨[frame.buff.data], ?_, by simp⟩
    simp only [setHost, same]
  · exact .of_eq _ same

theorem dynTransChannReleaseReq_out :
    (channel.dynTransChannReleaseReq env).host.out = channel.host.out := by
  unfold dynTransChannReleaseReq
  split
  · rfl
  · split <;> rfl

theorem retransDone_out :
    (channel.retransDone env frame).host.out = channel.host.out := by
  unfold retransDone
  extract_lets reTxCnt counted answered
  have kept : answered.host.out = counted.host.out := by
    unfold answered
    split <;> rfl
  exact kept

theorem retransDone_core :
    (channel.retransDone env frame).core = (channel.updateTxFrame
        { frame with reTxCnt := (frame.reTxCnt + 1) % 256 }
        frame.txSeq).core := by
  unfold retransDone
  extract_lets reTxCnt counted answered
  unfold answered
  split <;> rfl

theorem setTxList_core_congr {old new : Channel}
    (same : new.core = old.core) (txList : List Frame) :
    (new.setTxList txList).core = (old.setTxList txList).core := by
  have windows : new.txWindow = old.txWindow :=
    congrArg (fun core : Core => core.tx.txWindow) same
  calc
    (new.setTxList txList).core =
        { new.core with tx := { new.core.tx with
          txWindow := { new.txWindow with txList := txList } } } := rfl
    _ = { old.core with tx := { old.core.tx with
          txWindow := { old.txWindow with txList := txList } } } := by
      rw [same, windows]
    _ = (old.setTxList txList).core := rfl

theorem retransEnhanceFrame_spec :
    ∃ txList, (channel.retransEnhanceFrame env).2.core =
        (channel.setTxList txList).core ∧
      List.Forall₂ (Retouched channel.conf.crcInit)
        channel.txWindow.txList txList ∧
      Emits channel (channel.retransEnhanceFrame env).2 txList := by
  unfold retransEnhanceFrame
  split
  · exact ⟨channel.txWindow.txList, rfl, forall₂_retouched_refl _ _,
      Emits.of_eq _ rfl⟩
  next frame search =>
    split
    · exact ⟨channel.txWindow.txList, dynTransChannReleaseReq_core,
        forall₂_retouched_refl _ _, Emits.of_eq _ dynTransChannReleaseReq_out⟩
    · extract_lets marked polled
      have markedTouched : Retouched channel.conf.crcInit frame marked :=
        .mark frame marked.reTxCnt
      have markedSeq : marked.txSeq = channel.reTxSeq := by
        rw [markedTouched.txSeq_eq, findFrameBySeq_txSeq search]
      have polledTouched : List.Forall₂ (Retouched channel.conf.crcInit)
          channel.txWindow.txList polled.txWindow.txList :=
        updateFrameBySeq_retouched search markedTouched
      have sentCore : ((polled.skip 1).sendFrame env
          marked.buff.data).2.core = polled.core :=
        sendFrame_core marked.buff.data
      have sentEmits : Emits channel ((polled.skip 1).sendFrame env
          marked.buff.data).2 [marked] :=
        sendFrame_emits marked rfl
      split
      · exact ⟨_, rfl, polledTouched, Emits.of_eq _ rfl⟩
      · split
        next sent equality =>
          rw [equality] at sentCore sentEmits
          refine ⟨_, sentCore, polledTouched, sentEmits.mono ?_⟩
          simpa using mem_updateFrameBySeq search
        next sent equality =>
          rw [equality] at sentCore sentEmits
          let counted : Frame :=
            { marked with reTxCnt := (marked.reTxCnt + 1) % 256 }
          have lists : sent.txWindow.txList = polled.txWindow.txList :=
            congrArg (fun core : Core => core.tx.txWindow.txList) sentCore
          have twice : updateFrameBySeq (fun _ => counted) marked.txSeq
              sent.txWindow.txList =
            updateFrameBySeq (fun _ => counted) channel.reTxSeq
              channel.txWindow.txList := by
            rw [lists, markedSeq]
            exact updateFrameBySeq_twice markedSeq channel.txWindow.txList
          refine ⟨updateFrameBySeq (fun _ => counted) channel.reTxSeq
            channel.txWindow.txList, ?_,
            updateFrameBySeq_retouched search (.mark frame _), ?_⟩
          · rw [retransDone_core]
            unfold updateTxFrame
            rw [twice]
            exact setTxList_core_congr sentCore _
          · obtain ⟨buffs, out, origin⟩ := sentEmits
            refine ⟨buffs, by rw [retransDone_out, out], ?_⟩
            intro buff member
            refine ⟨counted, mem_updateFrameBySeq search, ?_⟩
            simpa using origin buff member

theorem setTxWindow_sender (channel : Channel) (window : TxWindow) :
    (channel.setTxWindow window).sender =
      (channel.sender.1, { channel.sender.2 with txWindow := window }) :=
  rfl

theorem slideTxWindow_spec :
    ∃ reTxSeq sendPollingCounter txWindow,
      (channel.slideTxWindow env frame).sender =
        (channel.conf, { channel.txSide with
          reTxSeq := reTxSeq
          sendPollingCounter := sendPollingCounter
          txWindow := txWindow }) ∧
      (txWindow = channel.txWindow ∨ channel.txWindow.txList ≠ [] ∧
        frame.reqSeq ≠ frameSeqInit ∧
        ackInWindow channel.txWindow frame.reqSeq = true ∧
        txWindow = ackTxWindow channel.txWindow frame.reqSeq) ∧
      (channel.slideTxWindow env frame).host.out = channel.host.out := by
  unfold slideTxWindow
  extract_lets reqSeq reset moved slid
  split
  · exact ⟨_, _, _, rfl, .inl rfl, rfl⟩
  next carried =>
    split
    · exact ⟨_, _, _, rfl, .inl rfl, rfl⟩
    next queued =>
      have notEmpty : channel.txWindow.txList ≠ [] := by
        simpa using queued
      have movedSender : ∃ reTxSeq, moved.sender =
          (channel.conf, { channel.txSide with
            reTxSeq := reTxSeq
            sendPollingCounter := 0 }) := by
        unfold moved
        split <;> exact ⟨_, rfl⟩
      have movedOut : moved.host.out = channel.host.out := by
        unfold moved
        split <;> rfl
      obtain ⟨reTxSeq, movedEq⟩ := movedSender
      split
      next accepted =>
        have slidSender : slid.sender =
            (channel.conf, { channel.txSide with
              reTxSeq := reTxSeq
              sendPollingCounter := 0
              txWindow := ackTxWindow channel.txWindow reqSeq }) := by
          rw [setTxWindow_sender, movedEq]
        have acknowledged : channel.txWindow.txList ≠ [] ∧
            frame.reqSeq ≠ frameSeqInit ∧
            ackInWindow channel.txWindow frame.reqSeq = true ∧
            ackTxWindow channel.txWindow reqSeq =
              ackTxWindow channel.txWindow frame.reqSeq :=
          ⟨notEmpty, carried, accepted, rfl⟩
        split
        all_goals exact ⟨_, _, _, slidSender, .inr acknowledged, movedOut⟩
      · exact ⟨_, _, _, movedEq, .inl rfl, movedOut⟩

/-- At most, frames of the window have been sent again. -/
abbrev Resent (channel after : Channel) : Prop :=
  ∃ reTxSeq txList, after.sender = (channel.conf, { channel.txSide with
      reTxSeq := reTxSeq
      txWindow := { channel.txWindow with txList := txList } }) ∧
    List.Forall₂ (Retouched channel.conf.crcInit)
      channel.txWindow.txList txList ∧ Emits channel after txList

theorem recvNackFrame_spec :
    Resent channel (channel.recvNackFrame env frame).2 := by
  unfold recvNackFrame
  split
  · obtain ⟨txList, kept, touched, emits⟩ := @retransEnhanceFrame_spec
      env (channel.setReTxSeq frame.reqSeq)
    have sender := sender_of_core kept
    split <;> rename_i equality <;> rw [equality] at sender emits <;>
      exact ⟨_, txList, sender, touched, emits⟩
  · exact ⟨_, _, rfl, forall₂_retouched_refl _ _, Emits.of_eq _ rfl⟩

theorem retransTimerExpireProc_spec :
    Resent channel (channel.retransTimerExpireProc env) := by
  unfold retransTimerExpireProc
  split
  · exact ⟨_, _, rfl, forall₂_retouched_refl _ _, Emits.of_eq _ rfl⟩
  · obtain ⟨txList, kept, touched, emits⟩ := @retransEnhanceFrame_spec env
      (channel.setReTxSeq channel.txWindow.expectedAckSeq)
    exact ⟨_, txList, sender_of_core kept, touched, emits⟩

theorem startSendTimers_out (reset : Bool) :
    (channel.startSendTimers env reset).host.out = channel.host.out := by
  unfold startSendTimers
  extract_lets answered
  have kept : answered.host.out = channel.host.out := by
    unfold answered
    split <;> rfl
  split <;> exact kept

theorem sendNewFrame_spec :
    ∃ added sendPollingCounter, Retouched channel.conf.crcInit frame added ∧
      (channel.sendNewFrame env frame).2.sender =
        (channel.conf, { channel.txSide with
          reTxSeq := getNextFrameSeq channel.reTxSeq
          sendPollingCounter := sendPollingCounter
          txWindow := { channel.txWindow with
            nextTxSeq := getNextFrameSeq channel.txWindow.nextTxSeq
            txList := channel.txWindow.txList ++ [added] } }) ∧
      Emits channel (channel.sendNewFrame env frame).2 [added] := by
  unfold sendNewFrame
  extract_lets polled copied sent
  have touched : Retouched channel.conf.crcInit frame polled := by
    unfold polled
    split
    · exact .poll frame
    · exact .refl _ frame
  have sentSender : sent.2.sender = copied.sender := by
    unfold sent
    split
    · exact sender_of_core (sendFrame_core _)
    · rfl
  have sentEmits : Emits channel sent.2 [polled] := by
    unfold sent
    split
    · exact sendFrame_emits polled rfl
    · exact .of_eq _ rfl
  have queued : (sent.2.queueTxFrame polled).sender =
      (copied.queueTxFrame polled).sender :=
    congrArg (fun sender : Conf × TxSide => (sender.1,
      { sender.2 with
        reTxSeq := getNextFrameSeq sender.2.reTxSeq
        txWindow := { sender.2.txWindow with
          nextTxSeq := getNextFrameSeq sender.2.txWindow.nextTxSeq
          txList := sender.2.txWindow.txList ++ [polled] } })) sentSender
  exact ⟨polled, _, touched, queued, sentEmits⟩

theorem sendNewFrames_spec (reset : Bool) :
    ∃ added reTxSeq sendPollingCounter,
      List.Forall₂ (Retouched channel.conf.crcInit) frames added ∧
      (sendNewFrames env frames reset channel).2.sender =
        (channel.conf, { channel.txSide with
          reTxSeq := reTxSeq
          sendPollingCounter := sendPollingCounter
          txWindow := { channel.txWindow with
            nextTxSeq := advanceSeq channel.txWindow.nextTxSeq frames.length
            txList := channel.txWindow.txList ++ added } }) ∧
      Emits channel (sendNewFrames env frames reset channel).2 added := by
  induction frames generalizing channel reset with
  | nil =>
    refine ⟨[], channel.reTxSeq, channel.sendPollingCounter, .nil, ?_,
      Emits.of_eq _ rfl⟩
    rw [append_nil]
    rfl
  | cons frame frames induction =>
    obtain ⟨first, _, firstTouched, firstSender, firstEmits⟩ :=
      @sendNewFrame_spec env channel frame
    obtain ⟨later, reTxSeq, sendPollingCounter, laterTouched, laterSender,
        laterEmits⟩ :=
      @induction ((channel.sendNewFrame env frame).2)
        (reset || (channel.sendNewFrame env frame).1)
    have confSame := congrArg Prod.fst firstSender
    have windows := congrArg (·.2.txWindow) firstSender
    have sides := congrArg Prod.snd firstSender
    refine ⟨first :: later, reTxSeq, sendPollingCounter,
      .cons firstTouched ?_, ?_, ?_⟩
    · rw [← show (channel.sendNewFrame env frame).2.conf = channel.conf
        from confSame]
      exact laterTouched
    · unfold sendNewFrames
      rw [laterSender, show (channel.sendNewFrame env frame).2.conf =
        channel.conf from confSame]
      rw [show (channel.sendNewFrame env frame).2.txSide = _ from sides,
        show (channel.sendNewFrame env frame).2.txWindow = _ from windows]
      simp [advanceSeq]
    · exact firstEmits.trans laterEmits

theorem resendBeforeNew_spec :
    Resent channel (channel.resendBeforeNew env).2 := by
  unfold resendBeforeNew
  extract_lets retrans
  split
  · obtain ⟨txList, kept, touched, emits⟩ := @retransEnhanceFrame_spec
      env channel
    have sender := sender_of_core kept
    split
    · exact ⟨_, txList, sender, touched, emits⟩
    · refine ⟨retrans.2.txWindow.nextTxSeq, txList, ?_, touched, emits⟩
      exact congrArg (fun sender : Conf × TxSide => (sender.1,
        { sender.2 with reTxSeq := retrans.2.txWindow.nextTxSeq })) sender
  · exact ⟨_, _, rfl, forall₂_retouched_refl _ _, Emits.of_eq _ rfl⟩

/-- `DTAP_SendEnhanceFrameInner` fails before it queues anything, or queues
all the new frames behind the old ones. -/
theorem sendEnhanceFrameInner_spec :
    ∃ reTxSeq sendPollingCounter txList added,
      List.Forall₂ (Retouched channel.conf.crcInit)
        channel.txWindow.txList txList ∧
      ((channel.sendEnhanceFrameInner env frames).1 =
          .transReliableReachMaxReTxCntErr ∧
        added = [] ∧
        (channel.sendEnhanceFrameInner env frames).2.sender =
          (channel.conf, { channel.txSide with
            reTxSeq := reTxSeq
            txWindow := { channel.txWindow with txList := txList } }) ∨
      (channel.sendEnhanceFrameInner env frames).1 = .success ∧
        List.Forall₂ (Retouched channel.conf.crcInit) frames added ∧
        (channel.sendEnhanceFrameInner env frames).2.sender =
          (channel.conf, { channel.txSide with
            reTxSeq := reTxSeq
            sendPollingCounter := sendPollingCounter
            txWindow := { channel.txWindow with
              nextTxSeq :=
                advanceSeq channel.txWindow.nextTxSeq frames.length
              txList := txList ++ added } })) ∧
      Emits channel (channel.sendEnhanceFrameInner env frames).2
        (txList ++ added) := by
  obtain ⟨reTxSeq, txList, resentSender, touched, resentEmits⟩ :=
    @resendBeforeNew_spec env channel
  have resentConf : (channel.resendBeforeNew env).2.conf = channel.conf :=
    congrArg Prod.fst resentSender
  have resentSide : (channel.resendBeforeNew env).2.txSide = _ :=
    congrArg Prod.snd resentSender
  have resentWindow : (channel.resendBeforeNew env).2.txWindow = _ :=
    congrArg TxSide.txWindow resentSide
  unfold sendEnhanceFrameInner
  extract_lets resent sent
  split
  · exact ⟨reTxSeq, channel.sendPollingCounter, txList, [], touched,
      .inl ⟨rfl, rfl, resentSender⟩, by simpa using resentEmits⟩
  · obtain ⟨added, laterSeq, sendPollingCounter, addedTouched, sentSender,
        sentEmits⟩ :=
      @sendNewFrames_spec env ((channel.resendBeforeNew env).2) frames
        (resent.1 == some .success)
    rw [resentConf] at addedTouched sentSender
    rw [resentSide, resentWindow] at sentSender
    refine ⟨laterSeq, sendPollingCounter, txList, added, touched,
      .inr ⟨rfl, addedTouched, ?_⟩, ?_⟩
    · exact (sender_of_core (startSendTimers_core _)).trans sentSender
    · obtain ⟨buffs, out, origin⟩ := resentEmits.trans sentEmits
      refine ⟨buffs, ?_, origin⟩
      rw [← out]
      exact startSendTimers_out _

def fragments (channel : Channel) (data : Bytes) (mps : Nat) : List Frame :=
  fragmentFrames channel.sendFrameType (getFragmentFramesNum data.length mps)
    0 (fragmentPieces mps data.length data)

/-- What `DTAP_SendEnhanceFrame` can do with a message. -/
inductive SendOutcome (env : Env) (channel : Channel) (pi : Nat)
    (data : Bytes) : Errno → Channel → Prop where
  | refused {errno : Errno} {result : Channel} (reTxSeq : Nat)
      (isTxWindowFull : Bool) (txList : List Frame)
      (failed : errno ≠ .success ∧ errno ≠ .transReliableTxWindowFull)
      (touched : List.Forall₂ (Retouched channel.conf.crcInit)
        channel.txWindow.txList txList)
      (sender : result.sender =
        (channel.conf, channel.txSide.resend reTxSeq isTxWindowFull txList))
      (emits : Emits channel result txList) :
      SendOutcome env channel pi data errno result
  | cached {result : Channel} (mps : Nat)
      (room : channel.payloadRoom = some mps)
      (tooLong : channel.txWindow.size < channel.txWindow.txList.length +
        getFragmentFramesNum data.length mps)
      (sender : result.sender =
        ((channel.cacheMessage env pi data).setTxWindowFull true).sender)
      (out : result.host.out = channel.host.out) :
      SendOutcome env channel pi data .transReliableTxWindowFull result
  | framed {result : Channel} (mps reTxSeq sendPollingCounter : Nat)
      (isTxWindowFull : Bool) (txList packed added : List Frame)
      (room : channel.payloadRoom = some mps)
      (fits : channel.txWindow.txList.length +
        getFragmentFramesNum data.length mps ≤ channel.txWindow.size)
      (packing : channel.packFrames pi channel.txWindow.nextTxSeq
        (channel.fragments data mps) = .ok packed)
      (touched : List.Forall₂ (Retouched channel.conf.crcInit)
        channel.txWindow.txList txList)
      (addedTouched : List.Forall₂ (Retouched channel.conf.crcInit)
        packed added)
      (sender : result.sender = (channel.conf,
        (channel.txSide.resend reTxSeq isTxWindowFull txList).queue
          sendPollingCounter packed.length added
          { pi := pi, data := data }))
      (emits : Emits channel result (txList ++ added)) :
      SendOutcome env channel pi data
        (if isTxWindowFull then .transReliableTxWindowFull else .success)
        result

theorem packEnhanceFrames_fst {pi : Nat} {packed : List Frame}
    (success : (channel.packEnhanceFrames env pi data mps).1 = .ok packed) :
    channel.packFrames pi channel.txWindow.nextTxSeq
      (channel.fragments data mps) = .ok packed := by
  unfold packEnhanceFrames at success
  dsimp only at success
  split at success
  · simp at success
  next frames =>
    unfold fragmentFrame at frames success
    dsimp only at frames success
    split at frames
    · simp at frames
    next nonempty =>
      rw [if_neg nonempty] at success
      split at frames
      next allocated =>
        rw [if_pos allocated] at success
        exact success
      · simp at frames

theorem packFrames_congr {other : Channel} {pi nextTxSeq : Nat}
    {frames : List Frame} (conf : other.conf = channel.conf)
    (rxWindow : other.rxWindow = channel.rxWindow) :
    other.packFrames pi nextTxSeq frames =
      channel.packFrames pi nextTxSeq frames := by
  induction frames generalizing nextTxSeq with
  | nil => rfl
  | cons frame frames induction =>
    unfold packFrames
    rw [conf, rxWindow, induction]

theorem packFrames_error {pi nextTxSeq : Nat} {frames : List Frame}
    (failed : channel.packFrames pi nextTxSeq frames = .error errno) :
    errno ≠ .success ∧ errno ≠ .transReliableTxWindowFull := by
  induction frames generalizing nextTxSeq with
  | nil => simp [packFrames] at failed
  | cons frame frames induction =>
    unfold packFrames at failed
    split at failed
    next reason building =>
      obtain rfl : reason = errno := by simpa using failed
      exact buildFrame_error building
    · split at failed
      next reason later =>
        obtain rfl : reason = errno := by simpa using failed
        exact induction later
      · simp at failed

theorem packEnhanceFrames_error {pi : Nat}
    (failed : (channel.packEnhanceFrames env pi data mps).1 = .error errno) :
    errno ≠ .success ∧ errno ≠ .transReliableTxWindowFull := by
  unfold packEnhanceFrames at failed
  dsimp only at failed
  split at failed
  · obtain rfl : Errno.transReliableFragmentErr = errno := by
      simpa using failed
    decide
  · exact packFrames_error failed

theorem packEnhanceFrames_out (pi : Nat) (data : Bytes) (mps : Nat) :
    (channel.packEnhanceFrames env pi data mps).2.host.out =
      channel.host.out := by
  obtain ⟨count, skipped⟩ := @fragmentFrame_host env data mps
    channel.sendFrameType channel.host
  unfold packEnhanceFrames
  dsimp only
  rw [skipped]
  split <;> rfl

theorem sendFitting_outcome {pi : Nat} (room : channel.payloadRoom = some mps)
    (fits : channel.txWindow.txList.length +
      getFragmentFramesNum data.length mps ≤ channel.txWindow.size) :
    SendOutcome env channel pi data (channel.sendFitting env pi data mps).1
      (channel.sendFitting env pi data mps).2 := by
  have packedCore := @packEnhanceFrames_core env channel pi data mps
  have packedConf : (channel.packEnhanceFrames env pi data mps).2.conf =
      channel.conf := congrArg Core.conf packedCore
  have packedSide : (channel.packEnhanceFrames env pi data mps).2.txSide =
      channel.txSide := congrArg Core.tx packedCore
  have packedWindow :
      (channel.packEnhanceFrames env pi data mps).2.txWindow =
        channel.txWindow := congrArg TxSide.txWindow packedSide
  have packedOut := @packEnhanceFrames_out env channel pi data mps
  unfold sendFitting
  extract_lets packed
  split
  next errno failed =>
    exact .refused channel.reTxSeq channel.isTxWindowFull
      channel.txWindow.txList (packEnhanceFrames_error failed)
      (forall₂_retouched_refl _ _) (sender_of_core packedCore)
      (.of_eq _ packedOut)
  next frames success =>
    extract_lets sent
    obtain ⟨reTxSeq, sendPollingCounter, txList, added, touched, result,
        emits⟩ :=
      @sendEnhanceFrameInner_spec env packed.2 frames
    rw [packedConf, packedWindow, packedSide] at result
    rw [packedConf, packedWindow] at touched
    have sentEmits : Emits channel sent.2 (txList ++ added) := by
      unfold Emits at emits ⊢
      rw [packedOut] at emits
      exact emits
    rcases result with ⟨failed, rfl, sender⟩ | ⟨succeeded, addedTouched, sender⟩
    · rw [if_neg (by rw [failed]; decide)]
      refine .refused reTxSeq channel.isTxWindowFull txList ?_ touched
        sender (by simpa using sentEmits)
      rw [failed]
      decide
    · rw [if_pos succeeded]
      have full : sent.2.isTxWindowFull = channel.isTxWindowFull :=
        congrArg (·.2.isTxWindowFull) sender
      rw [full]
      exact .framed mps reTxSeq sendPollingCounter _ txList frames added room
        fits (packEnhanceFrames_fst success) touched addedTouched
        (congrArg (fun sender : Conf × TxSide => (sender.1,
          { sender.2 with framed := sender.2.framed ++
            [(⟨pi, data⟩ : Message)] })) sender)
        sentEmits

theorem SendOutcome.unchanged {pi : Nat}
    (failed : errno ≠ .success ∧ errno ≠ .transReliableTxWindowFull) :
    SendOutcome env channel pi data errno channel :=
  .refused channel.reTxSeq channel.isTxWindowFull channel.txWindow.txList
    failed (forall₂_retouched_refl _ _) rfl (.of_eq _ rfl)

theorem SendOutcome.of_setTxWindowFull {pi : Nat} {full : Bool}
    {result : Channel}
    (outcome : SendOutcome env (channel.setTxWindowFull full) pi data errno
      result) : SendOutcome env channel pi data errno result := by
  cases outcome with
  | refused reTxSeq isTxWindowFull txList failed touched sender emits =>
    exact .refused reTxSeq isTxWindowFull txList failed touched sender emits
  | cached mps room tooLong sender out =>
    refine .cached mps room tooLong (sender.trans ?_) out
    unfold cacheMessage
    split <;> rename_i empty
    · rw [if_pos (show channel.cacheBuff.isNone = true from empty)]
      rfl
    · rw [if_neg (show ¬channel.cacheBuff.isNone = true from empty)]
      rfl
  | framed mps reTxSeq sendPollingCounter isTxWindowFull txList packed added
      room fits packing touched addedTouched sender emits =>
      refine .framed mps reTxSeq sendPollingCounter isTxWindowFull txList
        packed added room fits ?_ touched addedTouched sender emits
      rw [← packing]
      exact (@packFrames_congr channel (channel.setTxWindowFull full) _ _ _ rfl
        rfl).symm

section

variable (pi : Nat) (data : Bytes)

theorem cacheMessage_out :
    (channel.cacheMessage env pi data).host.out = channel.host.out := by
  unfold cacheMessage
  split <;> rfl

theorem sendEnhanceFrame_outcome :
    SendOutcome env channel pi data (channel.sendEnhanceFrame env pi data).1
      (channel.sendEnhanceFrame env pi data).2 := by
  unfold sendEnhanceFrame
  split
  · exact .unchanged (by simp)
  next mps room =>
    extract_lets needed
    split
    · exact .unchanged (by simp)
    · split
      next tooLong =>
        exact .cached mps room tooLong rfl (cacheMessage_out pi data)
      next fits =>
        split
        · exact (@sendFitting_outcome env (channel.setTxWindowFull true) _ _ _
            room (Nat.le_of_not_lt fits)).of_setTxWindowFull
        · exact sendFitting_outcome room (Nat.le_of_not_lt fits)

theorem dataSend_outcome :
    SendOutcome env channel pi data (channel.dataSend env pi data).1
        (channel.dataSend env pi data).2 ∧
      (0 < data.length ∧ data.length ≤ maxPayloadLen ∨
        (channel.dataSend env pi data).2 = channel) := by
  unfold dataSend
  split
  · exact ⟨.unchanged (by simp), .inr rfl⟩
  next acceptable =>
    split
    · exact ⟨.unchanged (by simp), .inr rfl⟩
    · exact ⟨sendEnhanceFrame_outcome pi data, .inl (by omega)⟩

end

/-- What `DTAP_TransChannelStatusChange` can do: reopen the window, or send
the cached message and give it up. -/
inductive StatusOutcome (env : Env) (channel : Channel) :
    Channel → Prop where
  | kept {result : Channel} (isTxWindowFull : Bool)
      (sender : result.sender = (channel.setTxWindowFull isTxWindowFull).sender)
      (out : result.host.out = channel.host.out) :
      StatusOutcome env channel result
  | flushed {result sent : Channel} {errno : Errno} (cacheBuff : Bytes)
      (held : channel.cacheBuff = some cacheBuff)
      (roomy : channel.txWindow.txList.length +
        channel.cachedFrameCnt cacheBuff < channel.txWindow.size)
      (answer : errno = ((channel.setTxWindowFull false).sendEnhanceFrame env
        channel.cachePi cacheBuff).1)
      (outcome : SendOutcome env channel channel.cachePi cacheBuff errno sent)
      (sender : result.sender = sent.clearCache.sender)
      (receiver : sent.receiver = channel.receiver)
      (out : result.host.out = sent.host.out) :
      StatusOutcome env channel result

theorem reportStatus_out (result : Nat) :
    (channel.reportStatus env result).host.out = channel.host.out := by
  unfold reportStatus
  split <;> rfl

theorem transChannelStatusChange_outcome (result : Nat) :
    StatusOutcome env channel
      (channel.transChannelStatusChange env result) := by
  unfold transChannelStatusChange
  split
  · exact .kept channel.isTxWindowFull rfl rfl
  · split
    next cacheBuff held =>
      unfold transSendCacheBuff
      split
      · exact .kept channel.isTxWindowFull rfl rfl
      next small =>
        exact .flushed cacheBuff held (Nat.lt_of_not_ge small) rfl
          (sendEnhanceFrame_outcome channel.cachePi
            cacheBuff).of_setTxWindowFull
          (sender_of_core (reportStatus_core result))
          (sendEnhanceFrame_receiver _ _) (reportStatus_out result)
    · split
      · exact .kept false (sender_of_core (reportStatus_core result))
          (reportStatus_out result)
      · exact .kept channel.isTxWindowFull rfl rfl

end Channel

end NearLink.Dtap
