import NearLink.Dtap.SendWindow

/-!
# Releasing the cached message

`DTAP_SendEnhanceFrame` keeps one message that does not fit, and
`DTAP_TransSendCacheBuff` sends it once it would leave a place free.  A message
that needs the whole window or more never gets there.
-/

namespace NearLink.Dtap

open Sdf Transition

namespace Channel

variable {env : Env} {registry : Registry} {channel result : Channel}
  {data : Bytes}

/-- With an empty window every status change releases the cached message. -/
def Releases (channel : Channel) : Prop :=
  channel.txWindow.txList = [] → ∀ env answer,
    (channel.transChannelStatusChange env answer).cacheBuff = none

/-- The message leaves a place free in an empty window. -/
def Flushable (channel : Channel) (data : Bytes) : Prop :=
  channel.cachedFrameCnt data < channel.txWindow.size

/-- A call of `DTAP_DataSend` keeps its message. -/
structure Caches (channel : Channel) (data : Bytes) : Prop where
  free : channel.cacheBuff = none
  admitted : 0 < data.length ∧ data.length ≤ maxPayloadLen ∧
    data.length ≤ channel.conf.mtu
  room : ∃ mps, channel.payloadRoom = some mps ∧
    getFragmentFramesNum data.length mps ≤ maxFragmentNum ∧
    channel.txWindow.size < channel.txWindow.txList.length +
      getFragmentFramesNum data.length mps

/-- A message is kept only if it leaves a place free in an empty window, also
with the longer header when the first data frame arrives meanwhile. -/
def Leaves (channel : Channel) : Event → Prop
  | .dataSend _ data => channel.Caches data → channel.Flushable data
  | .recvFrame received => received.frame.frameType ≠ .ack →
      ∀ data ∈ channel.cacheBuff,
        { channel with isRecvFrame := true }.Flushable data
  | _ => True

/-- A frame that is received as a whole and leaves nothing to acknowledge
leaves nothing cached. -/
def Empties (env : Env) (registry : Registry) (channel : Channel) :
    Event → Prop
  | .recvFrame received =>
    let answer := channel.recvEnhanceFrame env
      (registry.select received.frame.pi) received.frame
    answer.1 = .success → answer.2.txWindow.txList = [] →
      answer.2.cacheBuff = none
  | _ => True

structure Parked where
  conf : Conf
  size : Nat
  cacheBuff : Option Bytes
  full : Bool

def parked (channel : Channel) : Parked where
  conf := channel.conf
  size := channel.txWindow.size
  cacheBuff := channel.cacheBuff
  full := channel.isTxWindowFull

def Parked.of (sender : Conf × TxSide) : Parked where
  conf := sender.1
  size := sender.2.txWindow.size
  cacheBuff := sender.2.cacheBuff
  full := sender.2.isTxWindowFull

theorem Flushable.congr (flushable : channel.Flushable data)
    (conf : result.conf = channel.conf)
    (size : result.txWindow.size = channel.txWindow.size)
    (header : result.isRecvFrame = channel.isRecvFrame) :
    result.Flushable data := by
  unfold Flushable cachedFrameCnt sendFrameType at flushable ⊢
  rwa [conf, size, header]

/-- A cached message has marked the window as full, and can be sent. -/
def Kept (channel : Channel) : Prop :=
  ∀ data ∈ channel.cacheBuff,
    channel.isTxWindowFull = true ∧ channel.Flushable data

theorem Kept.of_none (none : channel.cacheBuff = none) : channel.Kept := by
  intro data held
  rw [none] at held
  cases held

theorem Kept.congr (kept : channel.Kept) {full : Bool}
    (set : channel.isTxWindowFull = true → full = true)
    (parked : result.parked = { channel.parked with full := full })
    (header : result.isRecvFrame = channel.isRecvFrame) : result.Kept := by
  have cache : result.cacheBuff = channel.cacheBuff :=
    congrArg Parked.cacheBuff parked
  intro data held
  rw [cache] at held
  exact ⟨(congrArg Parked.full parked).trans (set (kept data held).1),
    (kept data held).2.congr (congrArg Parked.conf parked)
      (congrArg Parked.size parked) header⟩

theorem isRecvFrame_of_receiver (same : result.receiver = channel.receiver) :
    result.isRecvFrame = channel.isRecvFrame :=
  congrArg (·.2.isRecvFrame) same

theorem Kept.statusChange (kept : channel.Kept) (answer : Nat) :
    (channel.transChannelStatusChange env answer).Kept ∧
      (channel.txWindow.txList = [] ∨
        (channel.transChannelStatusChange env answer).txWindow.txList = [] →
        (channel.transChannelStatusChange env answer).cacheBuff = none) := by
  have reported (sent : Channel) (none : sent.cacheBuff = none) :
      (sent.reportStatus env answer).cacheBuff = Option.none :=
    (congrArg (·.2.cacheBuff)
      (sender_of_core (reportStatus_core answer))).trans none
  unfold transChannelStatusChange
  split
  case isTrue notFull =>
    have none : channel.cacheBuff = none := by
      rw [Option.eq_none_iff_forall_not_mem]
      intro data held
      simp [(kept data held).1] at notFull
    exact ⟨kept, fun _ => none⟩
  split
  case h_1 data held =>
    have flushable : channel.cachedFrameCnt data < channel.txWindow.size :=
      (kept data held).2
    unfold transSendCacheBuff
    split
    case isTrue noRoom =>
      refine ⟨kept, fun empty => ?_⟩
      rw [or_self_iff.mp empty, List.length_nil, Nat.zero_add] at noRoom
      exact absurd flushable (Nat.not_lt.mpr noRoom)
    case isFalse =>
      have none := reported ((channel.setTxWindowFull false).sendEnhanceFrame
        env channel.cachePi data).2.clearCache rfl
      exact ⟨Kept.of_none none, fun _ => none⟩
  case h_2 none =>
    split
    · have none := reported (channel.setTxWindowFull false) none
      exact ⟨Kept.of_none none, fun _ => none⟩
    · exact ⟨kept, fun _ => none⟩

theorem Kept.releases (kept : channel.Kept) : channel.Releases :=
  fun empty _ answer => (kept.statusChange answer).2 (.inl empty)

theorem sendFitting_parked (pi : Nat) (data : Bytes) (mps : Nat) :
    (channel.sendFitting env pi data mps).2.parked = channel.parked := by
  have packed := sender_of_core
    (@packEnhanceFrames_core env channel pi data mps)
  unfold sendFitting
  dsimp only
  split
  · exact congrArg Parked.of packed
  rename_i frames _
  have inner : ((channel.packEnhanceFrames env pi data mps).2.sendEnhanceFrameInner
      env frames).2.parked = channel.parked := by
    obtain ⟨_, _, _, _, _, ⟨-, -, sender⟩ | ⟨-, -, sender⟩, -⟩ :=
      @sendEnhanceFrameInner_spec env
        (channel.packEnhanceFrames env pi data mps).2 frames
    all_goals
      exact (congrArg Parked.of sender).trans (congrArg Parked.of packed)
  split <;> exact inner

theorem dataSend_parked (pi : Nat) (data : Bytes) :
    (∃ full, (channel.isTxWindowFull = true → full = true) ∧
      (channel.dataSend env pi data).2.parked =
        { channel.parked with full := full }) ∨
    channel.Caches data ∧ (channel.dataSend env pi data).2.parked =
      { channel.parked with cacheBuff := some data, full := true } := by
  unfold dataSend
  split
  · exact .inl ⟨_, id, rfl⟩
  rename_i acceptable
  split
  · exact .inl ⟨_, id, rfl⟩
  rename_i short
  unfold sendEnhanceFrame
  split
  · exact .inl ⟨_, id, rfl⟩
  rename_i mps room
  dsimp only
  split
  · exact .inl ⟨_, id, rfl⟩
  rename_i few
  split
  case isTrue tooLong =>
    unfold cacheMessage
    split
    next free =>
      by_cases allocates : env.alloc channel.host.tick = true
      · refine .inr ⟨⟨Option.isNone_iff_eq_none.mp free, by omega, mps, room,
          Nat.not_lt.mp few, tooLong⟩, ?_⟩
        rw [if_pos allocates]
        rfl
      · refine .inl ⟨true, fun _ => rfl, ?_⟩
        rw [if_neg allocates, ← Option.isNone_iff_eq_none.mp free]
        rfl
    · exact .inl ⟨true, fun _ => rfl, rfl⟩
  case isFalse =>
    split
    · exact .inl ⟨true, fun _ => rfl, sendFitting_parked _ _ _⟩
    · exact .inl ⟨_, id, sendFitting_parked _ _ _⟩

theorem Kept.dataSend (kept : channel.Kept) (pi : Nat)
    (leaves : channel.Caches data → channel.Flushable data) :
    (channel.dataSend env pi data).2.Kept := by
  have header := isRecvFrame_of_receiver
    (@dataSend_receiver env channel pi data)
  rcases @dataSend_parked env channel pi data with
    ⟨full, set, parked⟩ | ⟨caches, parked⟩
  · exact kept.congr set parked header
  · intro other held
    have cache : (channel.dataSend env pi data).2.cacheBuff = some data :=
      congrArg Parked.cacheBuff parked
    rw [cache] at held
    cases held
    exact ⟨congrArg Parked.full parked, (leaves caches).congr
      (congrArg Parked.conf parked) (congrArg Parked.size parked) header⟩

theorem operateReorderTimer_isRecvFrame :
    (channel.operateReorderTimer env).isRecvFrame = channel.isRecvFrame := by
  unfold operateReorderTimer
  dsimp only
  split
  · split <;> rfl
  · split
    · rfl
    · split <;> rfl

section

variable (recvCb : Option RecvCb)

theorem recvQueuedFrames_isRecvFrame (frames : List Frame) :
    (recvQueuedFrames env recvCb frames channel).isRecvFrame =
      channel.isRecvFrame := by
  induction frames generalizing channel with
  | nil => rfl
  | cons frame rest induction =>
    have kept : (channel.recvFirstFrame env recvCb
        frame).2.2.isRecvFrame = channel.isRecvFrame := by
      unfold recvFirstFrame
      split <;> rfl
    unfold recvQueuedFrames
    split
    · rfl
    · dsimp only
      split
      · exact kept
      · exact induction.trans kept

theorem recvEnhanceFrameInner_isRecvFrame :
    (channel.recvEnhanceFrameInner env recvCb).isRecvFrame =
      channel.isRecvFrame := by
  unfold recvEnhanceFrameInner
  split
  · rfl
  · exact recvQueuedFrames_isRecvFrame recvCb _

theorem recvDataFrame_isRecvFrame (frame : Frame) :
    (channel.recvDataFrame env recvCb frame).isRecvFrame = true := by
  unfold recvDataFrame
  rw [isRecvFrame_of_receiver (receiver_of_core (answerPolling_core _)),
    recvEnhanceFrameInner_isRecvFrame, operateReorderTimer_isRecvFrame]
  rfl

end

theorem recvNackFrame_parked (frame : Frame) :
    (channel.recvNackFrame env frame).2.parked = channel.parked := by
  obtain ⟨_, _, sender, -, -⟩ := @recvNackFrame_spec env channel frame
  exact congrArg Parked.of sender

theorem slideTxWindow_parked (frame : Frame) :
    (channel.slideTxWindow env frame).parked = channel.parked := by
  obtain ⟨_, _, window, sender, slides⟩ :=
    @slideTxWindow_spec env channel frame
  have sized : window.size = channel.txWindow.size := by
    rcases slides with rfl | ⟨-, -, -, rfl⟩ <;> rfl
  refine (congrArg Parked.of sender).trans ?_
  unfold Parked.of parked
  simp only [sized]
  rfl

theorem Kept.recvEnhanceFrame (kept : channel.Kept) (recvCb : Option RecvCb)
    (frame : Frame) (leaves : frame.frameType ≠ .ack →
      ∀ data ∈ channel.cacheBuff,
        { channel with isRecvFrame := true }.Flushable data) :
    (channel.recvEnhanceFrame env recvCb frame).2.Kept ∧
      ((channel.recvEnhanceFrame env recvCb frame).1 = .success →
        (channel.recvEnhanceFrame env recvCb frame).2.txWindow.txList = [] →
        (channel.recvEnhanceFrame env recvCb frame).2.cacheBuff = none) := by
  have nacked := @recvNackFrame_parked env channel frame
  have nackedHeader := isRecvFrame_of_receiver
    (@recvNackFrame_receiver env channel frame)
  have slid := (@slideTxWindow_parked env
    (channel.recvNackFrame env frame).2 frame).trans nacked
  have slidHeader := (isRecvFrame_of_receiver (@slideTxWindow_receiver env
    (channel.recvNackFrame env frame).2 frame)).trans nackedHeader
  unfold Channel.recvEnhanceFrame
  dsimp only
  split
  next failed =>
    exact ⟨kept.congr id nacked nackedHeader,
      fun success => absurd success failed⟩
  split
  · obtain ⟨after, released⟩ := @Kept.statusChange env _
      (kept.congr id slid slidHeader) 0
    exact ⟨after, fun _ empty => released (.inr empty)⟩
  rename_i carries
  split
  · exact ⟨kept.congr id slid slidHeader, nofun⟩
  · let before := ((channel.recvNackFrame env frame).2.slideTxWindow env
      frame).skip 2
    have received : (before.recvDataFrame env recvCb frame).parked =
        channel.parked :=
      (congrArg Parked.of (recvDataFrame_sender recvCb frame)).trans slid
    have loaded : { channel with isRecvFrame := true }.Kept :=
      fun data held => ⟨(kept data held).1, leaves carries data held⟩
    obtain ⟨after, released⟩ := @Kept.statusChange env _
      (loaded.congr id received (recvDataFrame_isRecvFrame recvCb frame)) 0
    exact ⟨after, fun _ empty => released (.inr empty)⟩

theorem Kept.step (kept : channel.Kept) {event : Event}
    (leaves : channel.Leaves event) : (channel.step env registry event).Kept := by
  cases event with
  | dataSend pi data => exact kept.dataSend pi leaves
  | recvFrame received => exact (kept.recvEnhanceFrame _ _ leaves).1
  | setStatus answer =>
    have header : (channel.setTransChannelStatus env registry.byTcid
        answer).isRecvFrame = channel.isRecvFrame := by
      unfold setTransChannelStatus
      split
      · exact recvEnhanceFrameInner_isRecvFrame _
      · rfl
    exact kept.congr id
      (congrArg Parked.of (setTransChannelStatus_sender _ _)) header
  | statusChange answer => exact (kept.statusChange answer).1
  | rspTimer =>
    exact kept.congr id
      (congrArg Parked.of (sender_of_core rspTimerExpireProc_core))
      (isRecvFrame_of_receiver (receiver_of_core rspTimerExpireProc_core))
  | reorderTimer =>
    obtain ⟨nackCnt, core⟩ := @reorderTimerExpireProc_core env channel
    exact kept.congr id (congrArg Parked.of reorderTimerExpireProc_sender)
      (congrArg (·.rx.isRecvFrame) core)
  | retransTimer =>
    obtain ⟨_, _, sender, -, -⟩ := @retransTimerExpireProc_spec env channel
    exact kept.congr id (congrArg Parked.of sender)
      (isRecvFrame_of_receiver retransTimerExpireProc_receiver)

/-- While every message is kept that an empty window can send, none is ever
stuck. -/
theorem cache_releases (conf : Conf) (txWindow : UInt8) (events : List Event)
    (leaves : Meets (step env registry) Leaves
      (reliableChannelCreate conf txWindow) events) :
    Always (step env registry) Releases
        (reliableChannelCreate conf txWindow) events ∧
      Meets (step env registry) (Empties env registry)
        (reliableChannelCreate conf txWindow) events := by
  have initial : (reliableChannelCreate conf txWindow).Kept :=
    Kept.of_none rfl
  have released (channel : Channel) (event : Event) (kept : channel.Kept)
      (leaves : channel.Leaves event) : Empties env registry channel event := by
    cases event with
    | recvFrame received => exact (kept.recvEnhanceFrame _ _ leaves).2
    | _ => trivial
  exact ⟨always_of_meets (fun _ kept => Kept.releases kept)
      (fun _ _ kept leaves => .step kept leaves) initial leaves,
    Meets.imp (fun _ _ kept leaves => .step kept leaves) released initial
      leaves⟩

def firstAck : ReceivedFrame :=
  ⟨{ frameType := .ack
     buff := { head := [], tail := [], data := [64, 37, 4, 0, 1, 0, 67, 167] }
     bits := frameCBit, reqSeq := 1, headerLen := 6 }, by decide⟩

/-- The third message is kept and leaves a place free in the window. -/
theorem cache_releases_third :
    Always (step plainEnv takesAll) Releases (reliableChannelCreate plainConf 2)
        [.dataSend 1 [7], .dataSend 1 [8], .dataSend 1 [9],
          .recvFrame firstAck] ∧
      Meets (step plainEnv takesAll) (Empties plainEnv takesAll)
        (reliableChannelCreate plainConf 2)
        [.dataSend 1 [7], .dataSend 1 [8], .dataSend 1 [9],
          .recvFrame firstAck] := by
  refine cache_releases plainConf 2 _ ⟨fun _ => ?_, fun _ => ?_, fun _ => ?_,
    nofun, trivial⟩
  all_goals
    unfold Flushable
    decide +kernel

/-- In a window of one frame a kept message needs the whole window. -/
theorem cache_stuck :
    ¬ (Always (step plainEnv takesAll) Releases
        (reliableChannelCreate plainConf 1)
        [.dataSend 1 [7], .dataSend 1 [8], .recvFrame firstAck] ∧
      Meets (step plainEnv takesAll) (Empties plainEnv takesAll)
        (reliableChannelCreate plainConf 1)
        [.dataSend 1 [7], .dataSend 1 [8], .recvFrame firstAck]) := by
  rintro ⟨-, -, -, empties, -⟩
  have released := empties (by decide +kernel) (by decide +kernel)
  revert released
  decide +kernel

end Channel

end NearLink.Dtap
