import NearLink.Dtap.CacheRelease

/-!
# Acknowledgements outside the send window

`DTAP_RecvNackFrame` and `DTAP_SlideTxWindow` set `reTxSeq` to the number the
peer acknowledges before the number is compared with the window.
-/

namespace NearLink.Dtap

open Sdf Transition

namespace Channel

variable {env : Env} {registry : Registry} {channel result : Channel}
  {frame : Frame} {start : Nat}

/-- The number lies between `expectedAckSeq` and `nextTxSeq`. -/
def InWindow (window : TxWindow) (seq : Nat) : Prop :=
  seq < 16384 ∧ Serial.ahead 16384 window.expectedAckSeq seq ≤
    Serial.ahead 16384 window.expectedAckSeq window.nextTxSeq

def Stray (channel : Channel) (frame : Frame) : Prop :=
  (frame.frameType = .ack ∨ frame.reqSeq ≠ frameSeqInit) ∧
    ¬ InWindow channel.txWindow frame.reqSeq

def headed (channel : Channel) (frame : Frame) : Channel :=
  { channel with
    isRecvFrame := channel.isRecvFrame || frame.frameType != .ack }

/-- The frame is no abnormal answer, its number is not ahead of `reTxSeq`, and
no cached message is due. -/
structure Harmless (channel : Channel) (frame : Frame) : Prop where
  normal : ¬ (frame.frameType = .ack ∧ frame.sBit = true)
  behind : frame.reqSeq ≠ frameSeqInit → channel.txWindow.txList ≠ [] →
    isFrameSeqSmaller channel.reTxSeq frame.reqSeq = false
  idle : channel.isTxWindowFull = true → ∀ data ∈ channel.cacheBuff,
    channel.txWindow.size ≤ channel.txWindow.txList.length +
      (channel.headed frame).cachedFrameCnt data

def Tame (channel : Channel) : Event → Prop
  | .recvFrame received =>
    channel.Stray received.frame → channel.Harmless received.frame
  | _ => True

/-- A frame that acknowledges nothing in the window changes nothing of what is
sent. -/
def Inert (env : Env) (registry : Registry) (channel : Channel) :
    Event → Prop
  | .recvFrame received => channel.Stray received.frame →
      let next := channel.step env registry (.recvFrame received)
      next.txWindow = channel.txWindow ∧ next.reTxSeq = channel.reTxSeq
  | _ => True

structure Resends (start : Nat) (channel : Channel) : Prop where
  shape : SenderShape start channel
  place : ∃ count, count ≤ channel.txWindow.txList.length ∧
    channel.reTxSeq = seqOf (start + count)

theorem SenderShape.inWindow_iff (shape : SenderShape start channel)
    {distance : Nat} (near : distance < 16384) :
    InWindow channel.txWindow (seqOf (start + distance)) ↔
      distance ≤ channel.txWindow.txList.length := by
  have bound := Nat.le_trans shape.window.within shape.window.size_le
  unfold InWindow
  rw [shape.window.expectedAckSeq_eq, shape.window.nextTxSeq_eq,
    ahead_seqOf (by omega) (by omega), ahead_seqOf (by omega) (by omega)]
  have small := seqOf_lt (start + distance)
  omega

theorem SenderShape.exists_count (shape : SenderShape start channel)
    {seq : Nat} (within : InWindow channel.txWindow seq) :
    ∃ count, count ≤ channel.txWindow.txList.length ∧
      seq = seqOf (start + count) := by
  obtain ⟨distance, near, rfl⟩ := exists_eq_seqOf_add start within.1
  exact ⟨distance, (shape.inWindow_iff near).mp within, rfl⟩

theorem Resends.ordered (resends : Resends start channel) :
    InWindow channel.txWindow channel.reTxSeq := by
  obtain ⟨count, within, number⟩ := resends.place
  have bound := Nat.le_trans resends.shape.window.within
    resends.shape.window.size_le
  rw [number]
  exact (resends.shape.inWindow_iff (by omega)).mpr within

def Rests (old new : Channel) : Prop :=
  new.txWindow = old.txWindow ∧ new.reTxSeq = old.reTxSeq

theorem Rests.of_sender (same : result.sender = channel.sender) :
    Rests channel result :=
  ⟨congrArg (·.2.txWindow) same, congrArg (·.2.reTxSeq) same⟩

def Level (channel : Channel) : Prop :=
  channel.reTxSeq = channel.txWindow.nextTxSeq

def Resumes (old new : Channel) : Prop :=
  new.reTxSeq = old.reTxSeq ∨ new.Level

def Compares (channel : Channel) : Prop :=
  isFrameSeqSmaller channel.reTxSeq channel.txWindow.nextTxSeq = false →
    channel.Level

theorem Resends.compares (resends : Resends start channel) :
    channel.Compares := by
  intro notSmaller
  obtain ⟨count, within, number⟩ := resends.place
  have window := resends.shape.window
  have bound := Nat.le_trans window.within window.size_le
  rw [number, window.nextTxSeq_eq,
    isFrameSeqSmaller_seqOf (by omega) (by omega),
    decide_eq_false_iff_not] at notSmaller
  unfold Level
  rw [number, window.nextTxSeq_eq,
    show count = channel.txWindow.txList.length by omega]

theorem Resends.resume (resends : Resends start channel)
    (kept : SenderShape start result ∧
      channel.txWindow.txList.length ≤ result.txWindow.txList.length)
    (resumes : Resumes channel result) : Resends start result := by
  obtain ⟨count, within, number⟩ := resends.place
  refine ⟨kept.1, ?_⟩
  rcases resumes with same | level
  · exact ⟨count, Nat.le_trans within kept.2, same.trans number⟩
  · exact ⟨_, le_rfl, level.trans kept.1.window.nextTxSeq_eq⟩

theorem retransEnhanceFrame_reTxSeq :
    (channel.retransEnhanceFrame env).2.reTxSeq = channel.reTxSeq := by
  obtain ⟨txList, core, -⟩ := @retransEnhanceFrame_spec env channel
  exact congrArg (fun core : Core => core.tx.reTxSeq) core

theorem Level.sendNewFrames (level : channel.Level) (frames : List Frame)
    (reset : Bool) : (sendNewFrames env frames reset channel).2.Level := by
  induction frames generalizing channel reset with
  | nil => exact level
  | cons frame frames induction =>
    apply induction
    obtain ⟨added, _, -, sender, -⟩ := @sendNewFrame_spec env channel frame
    calc
      _ = getNextFrameSeq channel.reTxSeq :=
        congrArg (·.2.reTxSeq) sender
      _ = getNextFrameSeq channel.txWindow.nextTxSeq := by rw [level]
      _ = _ := (congrArg (·.2.txWindow.nextTxSeq) sender).symm

theorem level_setReTxSeq :
    (channel.setReTxSeq channel.txWindow.nextTxSeq).Level :=
  rfl

theorem sendEnhanceFrameInner_resumes (frames : List Frame)
    (compares : channel.Compares) :
    Resumes channel (channel.sendEnhanceFrameInner env frames).2 := by
  have timers (sent : Channel) (reset : Bool) (level : sent.Level) :
      (sent.startSendTimers env reset).Level := by
    have side := congrArg Core.tx (@startSendTimers_core env sent reset)
    exact (congrArg TxSide.reTxSeq side).trans (level.trans
      (congrArg (·.txWindow.nextTxSeq) side).symm)
  unfold sendEnhanceFrameInner resendBeforeNew
  dsimp only
  cases smaller : isFrameSeqSmaller channel.reTxSeq
      channel.txWindow.nextTxSeq with
  | false =>
    exact .inr (timers _ _ (Level.sendNewFrames (compares smaller) _ _))
  | true =>
    rw [if_pos rfl]
    split
    · split
      · exact .inl retransEnhanceFrame_reTxSeq
      next reached lost =>
        exact absurd (congrArg some reached) lost
    · rw [if_neg (by simpa using ‹_›)]
      exact .inr (timers _ _ (level_setReTxSeq.sendNewFrames _ _))

theorem sendFitting_resumes (pi : Nat) (data : Bytes) (mps : Nat)
    (compares : channel.Compares) :
    Resumes channel (channel.sendFitting env pi data mps).2 := by
  let packed := (channel.packEnhanceFrames env pi data mps).2
  have side := congrArg Core.tx
    (@packEnhanceFrames_core env channel pi data mps)
  have number : packed.reTxSeq = channel.reTxSeq :=
    congrArg TxSide.reTxSeq side
  have window : packed.txWindow = channel.txWindow :=
    congrArg TxSide.txWindow side
  unfold sendFitting
  dsimp only
  split
  · exact .inl number
  rename_i frames _
  have stillCompares : packed.Compares := by
    unfold Compares Level
    rw [number, window]
    exact compares
  have inner : Resumes channel (packed.sendEnhanceFrameInner env frames).2 :=
    (sendEnhanceFrameInner_resumes frames stillCompares).imp_left
      fun same => same.trans number
  split <;> exact inner

theorem sendEnhanceFrame_resumes (pi : Nat) (data : Bytes)
    (compares : channel.Compares) :
    Resumes channel (channel.sendEnhanceFrame env pi data).2 := by
  unfold sendEnhanceFrame
  split
  · exact .inl rfl
  dsimp only
  split
  · exact .inl rfl
  split
  · left
    unfold cacheMessage
    split <;> rfl
  split
  · exact @sendFitting_resumes env (channel.setTxWindowFull true) _ _ _ compares
  · exact sendFitting_resumes _ _ _ compares

section

variable (resends : Resends start channel)
include resends

theorem Resends.dataSend (pi : Nat) (data : Bytes) :
    Resends start (channel.dataSend env pi data).2 := by
  obtain ⟨outcome, short | same⟩ := @dataSend_outcome env channel pi data
  · refine resends.resume (resends.shape.send short.2 outcome) ?_
    unfold Channel.dataSend
    split
    · exact .inl rfl
    split
    · exact .inl rfl
    · exact sendEnhanceFrame_resumes _ _ resends.compares
  · rw [show (channel.dataSend env pi data).2 = channel from same]
    exact resends

theorem Resends.statusChange (answer : Nat) :
    Resends start (channel.transChannelStatusChange env answer) := by
  refine resends.resume (resends.shape.statusChange
    (transChannelStatusChange_outcome answer)) ?_
  have reported (sent : Channel) (resumes : Resumes channel sent) :
      Resumes channel (sent.reportStatus env answer) := by
    unfold reportStatus
    split <;> exact resumes
  unfold transChannelStatusChange
  split
  · exact .inl rfl
  split
  · unfold transSendCacheBuff
    split
    · exact .inl rfl
    · have sent := @sendEnhanceFrame_resumes env
        (channel.setTxWindowFull false) channel.cachePi ‹Bytes›
        resends.compares
      exact reported _ sent
  · split
    · exact reported _ (.inl rfl)
    · exact .inl rfl

theorem Resends.of_sender (same : result.sender = channel.sender) :
    Resends start result :=
  resends.resume ⟨resends.shape.of_sender same, Nat.le_of_eq
      (congrArg (·.2.txWindow.txList.length) same).symm⟩
    (.inl (Rests.of_sender same).2)

theorem Resends.retrans {seq : Nat} (within : InWindow channel.txWindow seq) :
    Resends start ((channel.setReTxSeq seq).retransEnhanceFrame env).2 := by
  obtain ⟨txList, core, touched, -⟩ :=
    @retransEnhanceFrame_spec env (channel.setReTxSeq seq)
  obtain ⟨kept, length⟩ := resends.shape.of_retouched
    (congrArg (fun core : Core => core.tx.txWindow) core)
    (congrArg (fun core : Core => core.tx.cacheBuff) core) touched
  obtain ⟨count, near, number⟩ := resends.shape.exists_count within
  refine ⟨kept, count, length ▸ near, ?_⟩
  exact retransEnhanceFrame_reTxSeq.trans number

end

theorem inWindow_of_nack (tame : channel.Stray frame → channel.Harmless frame)
    (nack : frame.frameType = .ack ∧ frame.sBit = true) :
    InWindow channel.txWindow frame.reqSeq := by
  by_contra outside
  exact (tame ⟨.inl nack.1, outside⟩).normal nack

theorem Resends.recvNackFrame (resends : Resends start channel)
    (tame : channel.Stray frame → channel.Harmless frame) :
    Resends start (channel.recvNackFrame env frame).2 := by
  unfold Channel.recvNackFrame
  split
  case isTrue nack =>
    have sent := @Resends.retrans env _ _ resends _ (inWindow_of_nack tame nack)
    split
    next channel' reached =>
      rw [reached] at sent
      exact sent
    next channel' errno answered =>
      rw [answered] at sent
      exact sent
  case isFalse => exact resends

theorem Resends.slideTxWindow (resends : Resends start channel)
    (known : frame.reqSeq ≠ frameSeqInit →
      InWindow channel.txWindow frame.reqSeq) :
    ∃ later, Resends later (channel.slideTxWindow env frame) := by
  have window := resends.shape.window
  have bound := Nat.le_trans window.within window.size_le
  unfold Channel.slideTxWindow
  extract_lets reqSeq reset moved slid
  split
  · exact ⟨start, resends⟩
  rename_i carried
  split
  · exact ⟨start, ⟨window, resends.shape.cache⟩, resends.place⟩
  obtain ⟨count, behind, number⟩ := resends.place
  obtain ⟨distance, within, position⟩ :=
    resends.shape.exists_count (known carried)
  have reached : moved.reTxSeq = seqOf (start + max count distance) := by
    unfold moved reqSeq
    rw [number, position, isFrameSeqSmaller_seqOf (by omega) (by omega)]
    split
    next smaller =>
      have below := of_decide_eq_true smaller
      rw [Nat.max_eq_right (by omega)]
      rfl
    next notSmaller =>
      rw [decide_eq_true_iff] at notSmaller
      rw [Nat.max_eq_left (by omega)]
      exact number
  have kept : moved.txWindow = channel.txWindow ∧
      moved.cacheBuff = channel.cacheBuff := by
    unfold moved
    split <;> exact ⟨rfl, rfl⟩
  have cache : moved.CacheShort := fun data held =>
    resends.shape.cache data (kept.2 ▸ held)
  split
  · have after := window.ack within
    have dropped := window.numbered.dropWhile_smaller within bound
    have left : (ackTxWindow channel.txWindow reqSeq).txList.length =
        channel.txWindow.txList.length - distance := by
      unfold ackTxWindow reqSeq
      rw [position, dropped, List.length_drop]
    have place : ∃ rest,
        rest ≤ (ackTxWindow channel.txWindow reqSeq).txList.length ∧
          moved.reTxSeq = seqOf (start + distance + rest) := by
      refine ⟨max count distance - distance, by omega, ?_⟩
      rw [reached, Nat.add_assoc, Nat.add_sub_cancel' (Nat.le_max_right _ _)]
    have acked : SendWindow (start + distance)
        (ackTxWindow channel.txWindow reqSeq) := by
      unfold reqSeq
      rw [position]
      exact after
    split <;> exact ⟨start + distance, ⟨acked, cache⟩, place⟩
  · exact ⟨start, ⟨kept.1 ▸ window, cache⟩, max count distance,
      kept.1 ▸ Nat.max_le.mpr ⟨behind, within⟩, reached⟩

theorem SenderShape.slide_rests (shape : SenderShape start channel)
    (inRange : frame.InRange)
    (outside : ¬ InWindow channel.txWindow frame.reqSeq)
    (behind : frame.reqSeq ≠ frameSeqInit → channel.txWindow.txList ≠ [] →
      isFrameSeqSmaller channel.reTxSeq frame.reqSeq = false) :
    Rests channel (channel.slideTxWindow env frame) := by
  unfold Channel.slideTxWindow
  dsimp only
  split
  · exact ⟨rfl, rfl⟩
  rename_i carried
  split
  · exact ⟨rfl, rfl⟩
  rename_i queued
  have notEmpty : channel.txWindow.txList ≠ [] := by simpa using queued
  have refused : ackInWindow channel.txWindow frame.reqSeq = false := by
    rw [← Bool.not_eq_true]
    intro accepted
    obtain ⟨count, -, within, position⟩ := shape.window.ack_position
      (inRange.2.resolve_right carried) notEmpty accepted
    have bound := Nat.le_trans shape.window.within shape.window.size_le
    rw [position, shape.inWindow_iff (by omega)] at outside
    exact outside within
  rw [behind carried notEmpty, refused]
  exact ⟨rfl, rfl⟩

theorem statusChange_rests (answer : Nat)
    (idle : channel.isTxWindowFull = true → ∀ data ∈ channel.cacheBuff,
      channel.txWindow.size ≤ channel.txWindow.txList.length +
        channel.cachedFrameCnt data) :
    Rests channel (channel.transChannelStatusChange env answer) := by
  unfold transChannelStatusChange
  split
  · exact ⟨rfl, rfl⟩
  rename_i full
  split
  next data held =>
    unfold transSendCacheBuff
    rw [if_pos (idle (by simpa using full) data held)]
    exact ⟨rfl, rfl⟩
  · split
    · unfold reportStatus
      split <;> exact ⟨rfl, rfl⟩
    · exact ⟨rfl, rfl⟩

theorem recvNackFrame_window :
    ∃ txList, (channel.recvNackFrame env frame).2.txWindow =
      { channel.txWindow with txList := txList } := by
  obtain ⟨_, txList, sender, -, -⟩ := @recvNackFrame_spec env channel frame
  exact ⟨txList, congrArg (·.2.txWindow) sender⟩

theorem slideTxWindow_cache :
    (channel.slideTxWindow env frame).cacheBuff = channel.cacheBuff := by
  obtain ⟨_, _, _, sender, -, -⟩ := @slideTxWindow_spec env channel frame
  exact congrArg (·.2.cacheBuff) sender

theorem SenderShape.stray_rests (shape : SenderShape start channel)
    (inRange : frame.InRange) (stray : channel.Stray frame)
    (harmless : channel.Harmless frame) :
    (channel.recvNackFrame env frame).1 = .success ∧ Rests channel
        ((channel.recvNackFrame env frame).2.slideTxWindow env frame) := by
  have normal : channel.recvNackFrame env frame = (.success, channel) :=
    if_neg harmless.normal
  rw [normal]
  exact ⟨rfl, shape.slide_rests inRange stray.2 harmless.behind⟩

section

variable (resends : Resends start channel) (inRange : frame.InRange)
include resends inRange

theorem Resends.slid (tame : channel.Stray frame → channel.Harmless frame) :
    ∃ later, Resends later
      ((channel.recvNackFrame env frame).2.slideTxWindow env frame) := by
  by_cases stray : channel.Stray frame
  · obtain ⟨-, window, number⟩ := @SenderShape.stray_rests env _ _ _
      resends.shape inRange stray (tame stray)
    have normal : channel.recvNackFrame env frame = (.success, channel) :=
      if_neg (tame stray).normal
    rw [normal] at window number ⊢
    refine ⟨start, ⟨window ▸ resends.shape.window, fun data held =>
      resends.shape.cache data (slideTxWindow_cache ▸ held)⟩, ?_⟩
    rw [window, number]
    exact resends.place
  · refine (resends.recvNackFrame tame).slideTxWindow fun carried => ?_
    have within : InWindow channel.txWindow frame.reqSeq := by
      by_contra outside
      exact stray ⟨.inr carried, outside⟩
    obtain ⟨txList, window⟩ := @recvNackFrame_window env channel frame
    rw [window]
    exact within

theorem Resends.recvEnhanceFrame (recvCb : Option RecvCb)
    (tame : channel.Stray frame → channel.Harmless frame) :
    ∃ later, Resends later (channel.recvEnhanceFrame env recvCb frame).2 := by
  obtain ⟨later, slid⟩ := @Resends.slid env _ _ _ resends inRange tame
  unfold Channel.recvEnhanceFrame
  dsimp only
  split
  · exact ⟨start, resends.recvNackFrame tame⟩
  split
  · exact ⟨later, slid.statusChange 0⟩
  split
  · exact ⟨later, slid.of_sender rfl⟩
  · have received := slid.of_sender
      (@recvDataFrame_sender env (Channel.skip _ 2) recvCb frame)
    exact ⟨later, received.statusChange 0⟩

end

theorem SenderShape.inert (shape : SenderShape start channel)
    (inRange : frame.InRange) (recvCb : Option RecvCb)
    (stray : channel.Stray frame) (harmless : channel.Harmless frame) :
    Rests channel (channel.recvEnhanceFrame env recvCb frame).2 := by
  obtain ⟨accepted, slid⟩ := @SenderShape.stray_rests env _ _ _ shape inRange
    stray harmless
  have parked := (@slideTxWindow_parked env _ frame).trans
    (@recvNackFrame_parked env channel frame)
  have header := (isRecvFrame_of_receiver (@slideTxWindow_receiver env
    (channel.recvNackFrame env frame).2 frame)).trans
    (isRecvFrame_of_receiver (@recvNackFrame_receiver env channel frame))
  have changed (result : Channel) (rests : Rests channel result)
      (same : result.parked = channel.parked)
      (headed : result.isRecvFrame = (channel.headed frame).isRecvFrame) :
      Rests channel (result.transChannelStatusChange env 0) := by
    have still := @statusChange_rests env result 0 (by
      intro full data held
      have idle := harmless.idle ((congrArg Parked.full same).symm.trans full)
        data ((congrArg Parked.cacheBuff same).symm.trans held)
      have counted : result.cachedFrameCnt data =
          (channel.headed frame).cachedFrameCnt data := by
        have conf : result.conf = channel.conf := congrArg Parked.conf same
        unfold cachedFrameCnt sendFrameType
        rw [headed, conf]
        rfl
      rw [counted, rests.1]
      exact idle)
    exact ⟨still.1.trans rests.1, still.2.trans rests.2⟩
  unfold Channel.recvEnhanceFrame
  dsimp only
  rw [if_neg (not_not.mpr accepted)]
  split
  next ack =>
    refine changed _ slid parked (header.trans ?_)
    unfold headed
    simp [ack]
  rename_i carries
  split
  · exact slid
  · let copied := ((channel.recvNackFrame env frame).2.slideTxWindow env
      frame).skip 2
    have same := @recvDataFrame_sender env copied recvCb frame
    have received := Rests.of_sender same
    refine changed _ ⟨received.1.trans slid.1, received.2.trans slid.2⟩
      ((congrArg Parked.of same).trans parked)
      ((recvDataFrame_isRecvFrame recvCb frame).trans ?_)
    unfold headed
    simp [carries]

theorem Resends.step (resends : Resends start channel) {event : Event}
    (tame : channel.Tame event) :
    ∃ later, Resends later (channel.step env registry event) := by
  cases event with
  | dataSend pi data => exact ⟨start, resends.dataSend pi data⟩
  | recvFrame received => exact resends.recvEnhanceFrame received.inRange _ tame
  | setStatus result =>
    exact ⟨start, resends.of_sender (setTransChannelStatus_sender _ result)⟩
  | statusChange result => exact ⟨start, resends.statusChange result⟩
  | rspTimer =>
    exact ⟨start, resends.of_sender (sender_of_core rspTimerExpireProc_core)⟩
  | reorderTimer =>
    exact ⟨start, resends.of_sender reorderTimerExpireProc_sender⟩
  | retransTimer =>
    change ∃ later, Resends later (channel.retransTimerExpireProc env)
    unfold retransTimerExpireProc
    split
    · exact ⟨start, resends⟩
    · refine ⟨start, resends.retrans ?_⟩
      rw [resends.shape.window.expectedAckSeq_eq]
      exact (@SenderShape.inWindow_iff _ _ resends.shape 0 (by decide)).mpr
        (Nat.zero_le _)

theorem reliableChannelCreate_resends (conf : Conf) (window : UInt8) :
    Resends 0 (reliableChannelCreate conf window) :=
  ⟨reliableChannelCreate_senderShape conf window, 0, Nat.zero_le _, rfl⟩

/-- While every stray acknowledgement is harmless, the frame to send again
stays in the send window, and the stray ones change nothing of what is sent. -/
theorem stray_inert (conf : Conf) (window : UInt8) (events : List Event)
    (tame : Meets (step env registry) Tame
      (reliableChannelCreate conf window) events) :
    Always (step env registry)
        (fun channel => InWindow channel.txWindow channel.reTxSeq)
        (reliableChannelCreate conf window) events ∧
      Meets (step env registry) (Inert env registry)
        (reliableChannelCreate conf window) events := by
  let Sends (channel : Channel) : Prop := ∃ start, Resends start channel
  have initial : Sends (reliableChannelCreate conf window) :=
    ⟨0, reliableChannelCreate_resends conf window⟩
  have preserved (channel : Channel) (event : Event) (sends : Sends channel)
      (tame : channel.Tame event) : Sends (step env registry channel event) := by
    obtain ⟨start, resends⟩ := sends
    exact resends.step tame
  refine ⟨always_of_meets ?_ preserved initial tame,
    Meets.imp preserved ?_ initial tame⟩
  · rintro channel ⟨start, resends⟩
    exact resends.ordered
  · rintro channel event ⟨start, resends⟩ tame
    cases event with
    | recvFrame received =>
      exact fun stray => resends.shape.inert received.inRange _ stray
        (tame stray)
    | _ => trivial

def strayAck (sBit : Bool) : ReceivedFrame :=
  ⟨{ frameType := .ack
     buff :=
       { head := [], tail := []
         data := if sBit then [64, 37, 4, 0, 5, 64, 64, 151]
           else [64, 37, 4, 0, 5, 0, 65, 103] }
     bits := frameCBit, reqSeq := 5, sBit, headerLen := 6 },
    Nat.zero_lt_succ _, .inl (by decide : 5 < 16384)⟩

theorem stray_inert_empty :
    Always (step plainEnv takesAll)
        (fun channel => InWindow channel.txWindow channel.reTxSeq)
        (reliableChannelCreate plainConf 4)
        [.recvFrame (strayAck false), .dataSend 1 [7], .recvFrame firstAck] ∧
      Meets (step plainEnv takesAll) (Inert plainEnv takesAll)
        (reliableChannelCreate plainConf 4)
        [.recvFrame (strayAck false), .dataSend 1 [7],
          .recvFrame firstAck] := by
  have quiet : Harmless (reliableChannelCreate plainConf 4)
      (strayAck false).frame :=
    ⟨by decide, fun _ queued => absurd rfl queued, nofun⟩
  refine stray_inert plainConf 4 _ ⟨fun _ => quiet, trivial, ?_, trivial⟩
  intro stray
  refine absurd ?_ stray.2
  unfold InWindow
  decide +kernel

/-- An abnormal answer outside the window moves the number to itself. -/
theorem stray_moves :
    ¬ (Always (step plainEnv takesAll)
        (fun channel => InWindow channel.txWindow channel.reTxSeq)
        (reliableChannelCreate plainConf 4)
        [.dataSend 1 [7], .recvFrame (strayAck true)] ∧
      Meets (step plainEnv takesAll) (Inert plainEnv takesAll)
        (reliableChannelCreate plainConf 4)
        [.dataSend 1 [7], .recvFrame (strayAck true)]) := by
  rintro ⟨always, -⟩
  have within := always.at_end
  unfold InWindow at within
  revert within
  decide +kernel

end Channel

end NearLink.Dtap
