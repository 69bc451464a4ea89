import NearLink.Dtap.RecvInvariant
import NearLink.Dtap.Reassembly

/-!
# The receiving end of a one-way stream

A channel that receives the frames of a history and sends nothing but
acknowledgements, with an upper layer that takes every SDU.  Whatever arrives,
the fragments collected and the SDUs handed up are the reassembly of the
history up to the first missing frame.
-/

namespace NearLink.Dtap

open Sdf Channel
open List hiding getElem?_eq_some_iff

def HoldsAt (source : Conf) (history : List Item) (position : Nat)
    (frame : Frame) : Prop :=
  ∃ item polled, history[position]? = some item ∧
    frame = simplexFrame source.crcInit source.dstTcid polled
      (seqOf position) item

variable {history : List Item} {position : Nat} {old new : Channel}

theorem HoldsAt.extend {source : Conf} {frame : Frame}
    (holds : HoldsAt source history position frame) (items : List Item) :
    HoldsAt source (history ++ items) position frame := by
  obtain ⟨item, polled, found, parsed⟩ := holds
  obtain ⟨inside, _⟩ := getElem?_eq_some_iff.mp found
  exact ⟨item, polled, by rw [getElem?_append_left inside, found],
    parsed⟩

def Assembled (history : List Item) (position : Nat) (channel : Channel) :
    Prop :=
  position ≤ history.length ∧ (channel.frags, channel.host.messages) =
      assemble (history.take position)

theorem Assembled.step {item : Item}
    (assembled : Assembled history position old)
    (found : history[position]? = some item)
    (moved : (new.frags, new.host.messages) =
      assembleStep (old.frags, old.host.messages) item) :
    Assembled history (position + 1) new := by
  obtain ⟨inside, _⟩ := getElem?_eq_some_iff.mp found
  refine ⟨inside, ?_⟩
  unfold assemble
  rw [moved, assembled.2, take_add_one, found, foldl_append]
  rfl

/-- The receiving end: the frames before `expected` have been handed up. -/
structure ReceivingEnd (source conf : Conf) (history : List Item)
    (expected highest : Nat) (channel : Channel) : Prop where
  conf_eq : channel.conf = conf
  idle : channel.txWindow.txList = []
  roomy : channel.isTxWindowFull = false
  notFull : channel.isRxWindowFull = false
  window : ∃ positions, RecvWindow (HoldsAt source history) expected expected
    highest positions channel.rxWindow
  assembled : Assembled history expected channel

structure Cooperative (env : Env) (registry : Registry) : Prop where
  allocates : ∀ tick, env.alloc tick = true
  registered : ∀ pi, (registry.select pi).isSome = true
  takes : ∀ pi, NeverFull (registry.select pi)

/-- Every buffer that reaches the scheduler between two states is an
acknowledgement of what is expected. -/
def Replies (conf : Conf) (expected : Nat) (old new : Channel) : Prop :=
  ∃ sent, new.host.out = old.host.out ++ sent ∧
    ∀ buff ∈ sent, ∃ fBit sBit, buff =
      ackWire conf.crcInit conf.dstTcid fBit sBit (seqOf expected)

theorem Replies.of_out {conf : Conf} {expected : Nat}
    (out : new.host.out = old.host.out) : Replies conf expected old new :=
  ⟨[], out.trans (append_nil _).symm, nofun⟩

section Loop

variable {env : Env} {callback : RecvCb} {channel : Channel}
  {source : Conf} {history : List Item}
  {buffered expected highest : Nat} {positions : List Nat}

/-- The loop of `DTAP_RecvEnhanceFrameInner` hands up everything before the
gap. -/
theorem recvQueuedFrames_assembles (allocates : ∀ tick, env.alloc tick = true)
    (takes : NeverFull (some callback))
    (bounded : ∀ item ∈ history, item.pi < 256) {frames : List Frame}
    (shape : RecvWindow (HoldsAt source history) buffered expected highest
      positions { channel.rxWindow with rxList := frames })
    (assembled : Assembled history buffered channel) :
    ∃ remaining,
      RecvWindow (HoldsAt source history) expected expected highest remaining
        (recvQueuedFrames env (some callback) frames channel).rxWindow ∧
      Assembled history expected
        (recvQueuedFrames env (some callback) frames channel) ∧
      (recvQueuedFrames env (some callback) frames channel).isRxWindowFull =
        channel.isRxWindowFull ∧
      (recvQueuedFrames env (some callback) frames channel).host.out =
        channel.host.out := by
  induction frames generalizing channel buffered positions with
  | nil =>
    have reach := shape.empty_due rfl
    subst reach
    exact ⟨positions, shape, assembled, rfl, rfl⟩
  | cons frame rest induction =>
    have due := shape.head_due rfl
    unfold recvQueuedFrames
    split
    next notDue =>
      have reach : buffered = expected :=
        Nat.le_antisymm shape.buffered_le
          (Nat.le_of_not_lt fun before => notDue (due.mpr before))
      subst reach
      exact ⟨positions, shape, assembled, rfl, rfl⟩
    next atBuffer =>
      have before := due.mp (by simpa using atBuffer)
      obtain ⟨later, rfl, popped⟩ := shape.pop rfl before
      have head : HoldsAt source history buffered frame := by
        cases shape.queued with
        | cons head tail => exact head.2
      obtain ⟨item, polled, found, rfl⟩ := head
      obtain ⟨step, out⟩ := @recvFirstFrame_assembles env callback channel
        allocates takes source.crcInit source.dstTcid polled
        (seqOf buffered) item (bounded item (mem_of_getElem? found))
      have data : (simplexFrame source.crcInit source.dstTcid polled
          (seqOf buffered) item).IsData :=
        ⟨by simp [simplexFrame], by simp [simplexFrame]⟩
      obtain ⟨frags, up, receiver⟩ := @recvFirstFrame_receiver env channel
        (some callback) _ data
      have taken := @recvFirstFrame_taken env channel _ takes
        (simplexFrame source.crcInit source.dstTcid polled (seqOf buffered)
          item)
      dsimp only
      rw [if_neg taken]
      generalize channel.recvFirstFrame env (some callback)
        (simplexFrame source.crcInit source.dstTcid polled (seqOf buffered)
          item) = handed at step out receiver
      have windows : handed.2.2.rxWindow = channel.rxWindow :=
        congrArg (·.2.rxWindow) receiver
      have flags : handed.2.2.isRxWindowFull = channel.isRxWindowFull :=
        congrArg (·.2.isRxWindowFull) receiver
      rw [← windows] at popped
      have assembledNext : Assembled history (buffered + 1)
          handed.2.2.advanceBufferSeq := assembled.step found step
      obtain ⟨remaining, window, reached, full, sent⟩ :=
        induction popped assembledNext
      exact ⟨remaining, window, reached, full.trans flags, sent.trans out⟩

end Loop

namespace ReceivingEnd

variable {registry : Registry} {channel result : Channel}
  {source conf : Conf} {history : List Item} {expected highest : Nat}

theorem created (source conf : Conf) (window : UInt8) :
    ReceivingEnd source (reliableChannelCreate conf window).conf [] 0 0
      (reliableChannelCreate conf window) := by
  have shape := (reliableChannelCreate_receiverShape conf window).window
  exact
    { conf_eq := rfl
      idle := rfl
      roomy := rfl
      notFull := rfl
      window := ⟨[], { shape with queued := .nil }⟩
      assembled := ⟨Nat.zero_le _, rfl⟩ }

section

variable (holds : ReceivingEnd source conf history expected highest channel)
include holds

theorem extend (items : List Item) :
    ReceivingEnd source conf (history ++ items) expected highest channel := by
  obtain ⟨positions, shape⟩ := holds.window
  obtain ⟨inside, assembled⟩ := holds.assembled
  refine { holds with window := ⟨positions, ?_⟩, assembled := ⟨?_, ?_⟩ }
  · refine { shape with queued := ?_ }
    exact shape.queued.imp fun position frame queued =>
      ⟨queued.1, queued.2.extend items⟩
  · rw [length_append]
    omega
  · rw [take_append_of_le_length inside]
    exact assembled

theorem of_core (same : result.core = channel.core) :
    ReceivingEnd source conf history expected highest result := by
  have windows : result.rxWindow = channel.rxWindow :=
    congrArg (fun core : Core => core.rx.rxWindow) same
  have flags : result.isRxWindowFull = channel.isRxWindowFull :=
    congrArg (fun core : Core => core.rx.isRxWindowFull) same
  have collected : result.frags = channel.frags :=
    congrArg (fun core : Core => core.rx.frags) same
  have calls : result.host.up = channel.host.up :=
    congrArg (fun core : Core => core.rx.up) same
  refine
    { conf_eq := (congrArg Core.conf same).trans holds.conf_eq
      idle := (congrArg (fun core : Core => core.tx.txWindow.txList)
        same).trans holds.idle
      roomy := (congrArg (fun core : Core => core.tx.isTxWindowFull)
        same).trans holds.roomy
      notFull := flags.trans holds.notFull
      window := windows ▸ holds.window
      assembled := ⟨holds.assembled.1, ?_⟩ }
  unfold Host.messages
  rw [collected, calls]
  exact holds.assembled.2

theorem bufferSeq_eq : channel.rxWindow.bufferSeq = seqOf expected := by
  obtain ⟨positions, shape⟩ := holds.window
  exact shape.bufferSeq_eq

theorem expectedTxSeq_eq : channel.rxWindow.expectedTxSeq = seqOf expected := by
  obtain ⟨positions, shape⟩ := holds.window
  exact shape.expectedTxSeq_eq

/-- Every acknowledgement names the first missing frame: without back-pressure
`bufferSeq` and `expectedTxSeq` agree. -/
theorem sendAckFrame (env : Env) (fBit sBit : Bool) :
    Replies conf expected channel (channel.sendAckFrame env fBit sBit).2 := by
  obtain ⟨sent, out, wire⟩ := sendAckFrame_wire env channel fBit sBit
  have number : (channel.ackFrame fBit sBit).reqSeq = seqOf expected := by
    cases sBit with
    | true => exact holds.expectedTxSeq_eq
    | false => exact holds.bufferSeq_eq
  rw [number, holds.conf_eq] at wire
  exact ⟨sent, out, fun buff member => ⟨fBit, sBit, wire buff member⟩⟩

theorem answerPolling (env : Env) (bits : Nat) :
    Replies conf expected channel (channel.answerPolling env bits) := by
  unfold Channel.answerPolling
  split
  · extract_lets sent
    have answers : Replies conf expected channel sent.2 :=
      holds.sendAckFrame env true false
    split <;> exact answers
  · exact .of_out rfl

theorem recvDataFrame {env : Env} {callback : RecvCb}
    (allocates : ∀ tick, env.alloc tick = true)
    (takes : NeverFull (some callback))
    (bounded : ∀ item ∈ history, item.pi < 256) {positions : List Nat}
    (shape : RecvWindow (HoldsAt source history) expected expected highest
      positions channel.rxWindow) {position : Nat} {frame : Frame}
    (number : frame.txSeq = seqOf position)
    (content : HoldsAt source history position frame)
    (absent : position ∉ positions) (ahead : expected ≤ position)
    (inside : position < expected + channel.rxWindow.size) :
    ∃ later, expected ≤ later ∧ later ≤ max highest (position + 1) ∧
      ReceivingEnd source conf history later (max highest (position + 1))
        (channel.recvDataFrame env (some callback) frame) ∧
      Replies conf later channel
        (channel.recvDataFrame env (some callback) frame) := by
  obtain ⟨later, raised, queued⟩ :=
    shape.queue number ahead inside content absent
  obtain ⟨timer, operated, _⟩ := @operateReorderTimer_spec env
    (channel.slideRxWindow frame)
  let operatedChannel := (channel.slideRxWindow frame).operateReorderTimer env
  have operatedOut : operatedChannel.host.out = channel.host.out := by
    unfold operatedChannel operateReorderTimer
    dsimp only
    split
    · split <;> rfl
    · split
      · rfl
      · split <;> rfl
  have windows : operatedChannel.rxWindow =
      queueRxFrame channel.rxWindow frame :=
    congrArg (·.2.rxWindow) operated
  have flags : operatedChannel.isRxWindowFull = false :=
    (congrArg (·.2.isRxWindowFull) operated).trans holds.notFull
  have assembled : Assembled history expected operatedChannel := by
    have collected : operatedChannel.frags = channel.frags :=
      congrArg (·.2.frags) operated
    have calls : operatedChannel.host.up = channel.host.up :=
      congrArg (·.2.up) operated
    refine ⟨holds.assembled.1, ?_⟩
    unfold Host.messages
    rw [collected, calls]
    exact holds.assembled.2
  have operatedSender : operatedChannel.sender = channel.sender :=
    operateReorderTimer_sender
  have inner : operatedChannel.recvEnhanceFrameInner env (some callback) =
      recvQueuedFrames env (some callback) operatedChannel.rxWindow.rxList
        operatedChannel := by
    unfold recvEnhanceFrameInner
    rw [if_neg (by rw [flags]; decide)]
  obtain ⟨remaining, window, reached, full, out⟩ :=
    @recvQueuedFrames_assembles env callback operatedChannel source history
      expected later (max highest (position + 1)) _ allocates takes bounded
      operatedChannel.rxWindow.rxList (windows ▸ queued) assembled
  rw [← inner] at window reached full out
  have sender : (operatedChannel.recvEnhanceFrameInner env
      (some callback)).sender = channel.sender :=
    (recvEnhanceFrameInner_sender _).trans operatedSender
  have after : ReceivingEnd source conf history later
      (max highest (position + 1))
      (operatedChannel.recvEnhanceFrameInner env (some callback)) :=
    { conf_eq := (congrArg Prod.fst sender).trans holds.conf_eq
      idle := (congrArg (·.2.txWindow.txList) sender).trans holds.idle
      roomy := (congrArg (·.2.isTxWindowFull) sender).trans holds.roomy
      notFull := full.trans flags
      window := ⟨remaining, window⟩
      assembled := reached }
  obtain ⟨sent, answered, wire⟩ := after.answerPolling env frame.bits
  refine ⟨later, raised, queued.expected_le,
    after.of_core (answerPolling_core _), sent, ?_, wire⟩
  exact answered.trans (by rw [out, operatedOut])

theorem statusChange (env : Env) (result : Nat) :
    channel.transChannelStatusChange env result = channel := by
  unfold transChannelStatusChange
  rw [holds.roomy]
  rfl

end

inductive Arrival (source conf : Conf) (history : List Item)
    (expected highest position : Nat) (old new : Channel) : Prop where
  | ignored (kept : ReceivingEnd source conf history expected highest new)
      (silent : Replies conf expected old new)
  | taken (later : Nat) (raised : expected ≤ later)
      (bound : later ≤ max highest (position + 1))
      (after : ReceivingEnd source conf history later
        (max highest (position + 1)) new)
      (answers : Replies conf later old new)

variable (holds : ReceivingEnd source conf history expected highest channel)
include holds

theorem dataRecvFrame {env : Env} (cooperative : Cooperative env registry)
    (bounded : ∀ item ∈ history,
      item.pi < 256 ∧ item.piece.length ≤ maxPayloadLen) {position : Nat}
    {item : Item} (found : history[position]? = some item) (polled : Bool)
    (near : position < expected + 255 ∧ expected ≤ position + 255) :
    Arrival source conf history expected highest position channel
      (channel.dataRecvFrame env registry (arrivingBuff (simplexWire
        source.crcInit source.dstTcid polled (seqOf position) item))) := by
  have limits := bounded item (mem_of_getElem? found)
  have parsing := parseFrame_simplexWire source.crcInit source.dstTcid polled
    (seqOf position) item (Nat.lt_of_le_of_lt limits.2 (by decide))
  unfold Channel.dataRecvFrame
  split
  · exact .ignored holds (.of_out rfl)
  next frame accepted =>
    obtain ⟨rfl, checked⟩ := acceptFrame_parsed parsing accepted
    let frame := simplexFrame source.crcInit source.dstTcid polled
      (seqOf position) item
    have data : frame.IsData := ⟨by simp [frame, simplexFrame],
      by simp [frame, simplexFrame]⟩
    have number : frame.txSeq = seqOf position :=
      Nat.mod_mod position 16384
    obtain ⟨positions, shape⟩ := holds.window
    obtain ⟨place, same, absent, range⟩ := shape.check_position
      (number ▸ seqOf_lt position) (by
        unfold checkEnhanceFrame at checked
        rw [if_neg data.1] at checked
        split at checked
        · cases checked
        · rwa [if_neg data.2] at checked)
    have size := shape.size_le
    have positive := shape.size_pos
    -- The number determines the position within half of the number space.
    have located : place = position := by
      rw [number] at same
      exact ((seqOf_eq_iff (by omega) (by omega)).mp same).symm
    subst located
    obtain ⟨callback, selected⟩ := Option.isSome_iff_exists.mp
      (cooperative.registered frame.pi)
    have takes := cooperative.takes frame.pi
    rw [selected] at takes
    have slid : channel.slideTxWindow env frame = channel := by
      unfold slideTxWindow
      exact if_pos rfl
    have copied : env.allocAll channel.host 2 = true := by
      unfold Env.allocAll
      simp [cooperative.allocates]
    have received : (channel.recvEnhanceFrame env (registry.select frame.pi)
        frame).2 = ((channel.skip 2).recvDataFrame env (some callback)
          frame).transChannelStatusChange env 0 := by
      unfold recvEnhanceFrame
      rw [recvNackFrame_data data, selected]
      rw [if_neg (by simp), if_neg data.2, slid, copied]
      rfl
    have skipped : ReceivingEnd source conf history expected highest
        (channel.skip 2) := holds.of_core rfl
    obtain ⟨later, raised, bound, after, answers⟩ :=
      skipped.recvDataFrame cooperative.allocates takes
        (fun item member => (bounded item member).1) shape number
        ⟨item, polled, found, rfl⟩ absent (by omega)
        (by change place < expected + channel.rxWindow.size; omega)
    rw [received, after.statusChange env]
    exact .taken later raised bound after answers

theorem dataRecvAck (env : Env) (registry : Registry) (fBit : Bool)
    (reqSeq : Nat) : ReceivingEnd source conf history expected highest
        (channel.dataRecvFrame env registry (arrivingBuff (ackWire
          source.crcInit source.dstTcid fBit false reqSeq))) ∧
      Replies conf expected channel
        (channel.dataRecvFrame env registry (arrivingBuff (ackWire
          source.crcInit source.dstTcid fBit false reqSeq))) := by
  have parsing := parseFrame_ackWire source.crcInit source.dstTcid fBit false
    reqSeq
  unfold Channel.dataRecvFrame
  split
  · exact ⟨holds, .of_out rfl⟩
  next frame accepted =>
    obtain ⟨rfl, checked⟩ := acceptFrame_parsed parsing accepted
    let frame := ackedFrame source.crcInit source.dstTcid fBit false reqSeq
    have number : frame.reqSeq ≠ frameSeqInit := by
      change reqSeq % 2 ^ 14 ≠ 0xFFFF
      omega
    have slid : channel.slideTxWindow env frame =
        { channel with sendPollingCounter := 0 } := by
      unfold slideTxWindow
      rw [if_neg number, if_pos (by rw [holds.idle]; rfl)]
    have reset : ReceivingEnd source conf history expected highest
        { channel with sendPollingCounter := 0 } :=
      { holds with }
    have received : (channel.recvEnhanceFrame env (registry.select frame.pi)
        frame).2 = { channel with sendPollingCounter := 0 } := by
      unfold recvEnhanceFrame
      rw [show channel.recvNackFrame env frame = (.success, channel) from
        if_neg (by rintro ⟨_, ⟨⟩⟩)]
      rw [if_neg (by simp), if_pos (show frame.frameType = .ack from rfl),
        slid, reset.statusChange env]
    rw [received]
    exact ⟨reset, .of_out rfl⟩

theorem rspTimer (env : Env) : ReceivingEnd source conf history expected highest
        (channel.rspTimerExpireProc env) ∧
      Replies conf expected channel (channel.rspTimerExpireProc env) :=
  ⟨holds.of_core rspTimerExpireProc_core, holds.sendAckFrame env false false⟩

theorem reorderTimer (env : Env) :
    ReceivingEnd source conf history expected highest
        (channel.reorderTimerExpireProc env) ∧
      Replies conf expected channel (channel.reorderTimerExpireProc env) := by
  unfold reorderTimerExpireProc
  split
  · exact ⟨holds.of_core dynTransChannReleaseReq_core,
      .of_out dynTransChannReleaseReq_out⟩
  · have answers := holds.sendAckFrame env false true
    have after := holds.of_core (@sendAckFrame_core env channel false true)
    split
    next failed =>
      rw [failed] at answers after
      exact ⟨after, answers⟩
    next sent =>
      rw [sent] at answers after
      exact ⟨{ after with }, answers⟩

end ReceivingEnd

end NearLink.Dtap
