import NearLink.Dtap.Reassembly
import NearLink.Dtap.SendWindow

/-!
# The sending end of a one-way stream

A channel that sends messages and receives nothing but acknowledgements.  The
items of all frames that were ever queued form its history; the queued frames
carry the end of the history, and every buffer that reaches the scheduler is
a frame of the history that is not acknowledged yet.
-/

namespace NearLink.Dtap

open Sdf Channel
open List hiding getElem?_eq_some_iff

def WiredAt (conf : Conf) (history : List Item) (position : Nat)
    (buff : Bytes) : Prop :=
  ∃ item polled, history[position]? = some item ∧
    buff = simplexWire conf.crcInit conf.dstTcid polled (seqOf position) item

variable {history : List Item} {conf : Conf} {old new : Channel} {start : Nat}

theorem WiredAt.extend {position : Nat} {buff : Bytes}
    (wired : WiredAt conf history position buff) (items : List Item) :
    WiredAt conf (history ++ items) position buff := by
  obtain ⟨item, polled, found, bytes⟩ := wired
  obtain ⟨inside, _⟩ := getElem?_eq_some_iff.mp found
  exact ⟨item, polled, by rw [getElem?_append_left inside, found], bytes⟩

/-- The buffers that reach the scheduler between two states carry items of
the history, none of them acknowledged. -/
def Sends (conf : Conf) (history : List Item) (start : Nat)
    (old new : Channel) : Prop :=
  ∃ sent, new.host.out = old.host.out ++ sent ∧
    ∀ buff ∈ sent, ∃ position, start ≤ position ∧
      WiredAt conf history position buff

theorem Sends.of_out (out : new.host.out = old.host.out) :
    Sends conf history start old new :=
  ⟨[], out.trans (append_nil _).symm, nofun⟩

theorem Sends.trans_out {other : Channel}
    (sends : Sends conf history start old new)
    (same : other.host.out = new.host.out) :
    Sends conf history start old other := by
  obtain ⟨sent, out, wired⟩ := sends
  exact ⟨sent, same.trans out, wired⟩

/-- The sending end: `history` lists the items of all frames ever queued, and
those before `start` have been acknowledged. -/
structure SendingEnd (conf : Conf) (window start : Nat)
    (history : List Item) (channel : Channel) : Prop where
  conf_eq : channel.conf = conf
  size_eq : channel.txWindow.size = window
  oneWay : channel.isRecvFrame = false
  shape : SenderShape start channel
  length_eq : history.length = start + channel.txWindow.txList.length
  carried : List.Forall₂ (Carries conf.crcInit conf.dstTcid)
    (history.drop start) channel.txWindow.txList
  framed : history = channel.framed.flatMap (messageItems (conf.mps - 9))
  room : channel.framed ≠ [] → 9 < conf.mps
  valid : ∀ message ∈ channel.framed, message.Valid
  cached : ∀ data, channel.cacheBuff = some data →
    (Message.mk channel.cachePi data).Valid

namespace SendingEnd

variable {env : Env} {conf : Conf} {window start : Nat} {history : List Item}
  {channel result : Channel} {frame : Frame}

theorem created (conf : Conf) (window : UInt8) :
    SendingEnd (reliableChannelCreate conf window).conf
      (reliableChannelCreate conf window).txWindow.size 0 []
      (reliableChannelCreate conf window) :=
  { conf_eq := rfl
    size_eq := rfl
    oneWay := rfl
    shape := reliableChannelCreate_senderShape conf window
    length_eq := rfl
    carried := .nil
    framed := rfl
    room := fun some => absurd rfl some
    valid := nofun
    cached := nofun }

section

variable (holds : SendingEnd conf window start history channel)
include holds

theorem bounded {item : Item} (member : item ∈ history) :
    item.pi < 256 ∧ item.piece.length ≤ maxPayloadLen := by
  rw [holds.framed] at member
  obtain ⟨message, inside, itemOf⟩ := mem_flatMap.mp member
  have room := holds.room (ne_nil_of_mem inside)
  have valid := holds.valid message inside
  obtain ⟨same, part⟩ := mem_messageItems (by omega) itemOf
  exact ⟨same ▸ valid.byte, Nat.le_trans part valid.short⟩

theorem wired (member : frame ∈ channel.txWindow.txList)
    : ∃ position, start ≤ position ∧
      WiredAt conf history position frame.buff.data := by
  obtain ⟨index, inside, rfl⟩ := mem_iff_getElem.mp member
  have behind : index < (history.drop start).length := by
    rw [holds.carried.length_eq]
    exact inside
  obtain ⟨polled, bytes⟩ := holds.carried.get behind inside
  have number := congrArg (fun numbers => numbers[index]?)
    holds.shape.window.numbered
  simp only [getElem?_map, getElem?_range', inside, getElem?_eq_getElem,
    Option.map_some, Option.some_inj, Nat.one_mul] at number
  refine ⟨start + index, Nat.le_add_right _ _,
    (history.drop start).get ⟨index, behind⟩, polled, ?_, ?_⟩
  · rw [← getElem?_drop, getElem?_eq_getElem behind]
    rfl
  · rw [← number]
    exact bytes

end

theorem sends (holds : SendingEnd conf window start history result)
    (emits : Emits channel result result.txWindow.txList) :
    Sends conf history start channel result := by
  obtain ⟨sent, out, origin⟩ := emits
  refine ⟨sent, out, fun buff member => ?_⟩
  obtain ⟨frame, inside, rfl⟩ := origin buff member
  exact holds.wired inside

section

variable (holds : SendingEnd conf window start history channel)
  {txList : List Frame} {mps : Nat} {data : Bytes}
include holds

theorem retouch {side : TxSide} (sender : result.sender = (channel.conf, side))
    (receiver : result.receiver = channel.receiver)
    (same : side.framed = channel.framed ∧
      side.cacheBuff = channel.cacheBuff ∧ side.cachePi = channel.cachePi)
    (windows : side.txWindow = { channel.txWindow with txList := txList })
    (touched : List.Forall₂ (Retouched channel.conf.crcInit)
      channel.txWindow.txList txList) :
    SendingEnd conf window start history result := by
  replace windows : result.txWindow = { channel.txWindow with txList } :=
    (congrArg (·.2.txWindow) sender).trans windows
  have framed : result.framed = channel.framed :=
    (congrArg (·.2.framed) sender).trans same.1
  have caches : result.cacheBuff = channel.cacheBuff :=
    (congrArg (·.2.cacheBuff) sender).trans same.2.1
  have cachePis : result.cachePi = channel.cachePi :=
    (congrArg (·.2.cachePi) sender).trans same.2.2
  obtain ⟨shape, length⟩ := holds.shape.of_retouched windows caches touched
  exact
    { conf_eq := (congrArg Prod.fst sender).trans holds.conf_eq
      size_eq := by rw [windows, ← holds.size_eq]
      oneWay := (congrArg (·.2.isRecvFrame) receiver).trans holds.oneWay
      shape := shape
      length_eq := by rw [length, holds.length_eq]
      carried := by
        rw [windows]
        rw [holds.conf_eq] at touched
        exact forall₂_carries_of_retouched holds.carried touched
      framed := by rw [framed]; exact holds.framed
      room := by rw [framed]; exact holds.room
      valid := by rw [framed]; exact holds.valid
      cached := by rw [caches, cachePis]; exact holds.cached }

theorem of_sender (sender : result.sender = channel.sender)
    (receiver : result.receiver = channel.receiver) :
    SendingEnd conf window start history result :=
  holds.retouch sender receiver ⟨rfl, rfl, rfl⟩ rfl (forall₂_retouched_refl _ _)

theorem sendFrameType_eq : channel.sendFrameType = .simplexFrag := by
  unfold sendFrameType
  rw [holds.oneWay]
  rfl

theorem payloadRoom_eq (room : channel.payloadRoom = some mps) :
    9 < conf.mps ∧ mps = conf.mps - 9 := by
  unfold payloadRoom at room
  rw [holds.sendFrameType_eq, holds.conf_eq] at room
  change (if conf.mps ≤ 9 then none else some (conf.mps - 7 - 2)) = some mps
    at room
  by_cases narrow : conf.mps ≤ 9
  · rw [if_pos narrow] at room
    cases room
  · rw [if_neg narrow] at room
    cases room
    exact ⟨Nat.lt_of_not_le narrow, Nat.sub_sub _ _ _⟩

section

variable {pi : Nat} (message : (Message.mk pi data).Valid)
include message

theorem queue {packed added : List Frame}
    (room : channel.payloadRoom = some mps)
    (packing : channel.packFrames pi channel.txWindow.nextTxSeq
      (channel.fragments data mps) = .ok packed)
    (addedTouched : List.Forall₂ (Retouched channel.conf.crcInit) packed added)
    (touched : List.Forall₂ (Retouched channel.conf.crcInit)
      channel.txWindow.txList txList) (shape : SenderShape start result)
    (confs : result.conf = channel.conf)
    (size : result.txWindow.size = channel.txWindow.size)
    (lists : result.txWindow.txList = txList ++ added)
    (receiver : result.isRecvFrame = channel.isRecvFrame)
    (framed : result.framed = channel.framed ++ [⟨pi, data⟩])
    (caches : result.cacheBuff = channel.cacheBuff)
    (cachePis : result.cachePi = channel.cachePi) : SendingEnd conf window start
      (history ++ messageItems (conf.mps - 9) ⟨pi, data⟩) result := by
  obtain ⟨wide, rfl⟩ := holds.payloadRoom_eq room
  have carries : List.Forall₂ (Carries conf.crcInit conf.dstTcid)
      (messageItems (conf.mps - 9) ⟨pi, data⟩) added := by
    unfold fragments at packing
    rw [holds.sendFrameType_eq] at packing
    have packed := packFrames_carries packing
    rw [holds.conf_eq] at packed addedTouched
    exact forall₂_carries_of_retouched packed addedTouched
  have oldCarries : List.Forall₂ (Carries conf.crcInit conf.dstTcid)
      (history.drop start) txList := by
    rw [holds.conf_eq] at touched
    exact forall₂_carries_of_retouched holds.carried touched
  have started : start ≤ history.length := by
    rw [holds.length_eq]
    exact Nat.le_add_right _ _
  exact
    { conf_eq := confs.trans holds.conf_eq
      size_eq := size.trans holds.size_eq
      oneWay := receiver.trans holds.oneWay
      shape := shape
      length_eq := by
        rw [lists, length_append, length_append, holds.length_eq,
          touched.length_eq, carries.length_eq]
        omega
      carried := by
        rw [lists, drop_append_of_le_length started]
        exact rel_append oldCarries carries
      framed := by
        rw [framed, flatMap_append, ← holds.framed, flatMap_singleton]
      room := fun _ => wide
      valid := by
        rw [framed]
        exact forall_mem_append.mpr ⟨holds.valid,
          forall_mem_singleton.mpr message⟩
      cached := by rw [caches, cachePis]; exact holds.cached }

theorem send {errno : Errno}
    (outcome : SendOutcome env channel pi data errno result)
    (receiver : result.receiver = channel.receiver) :
    ∃ items, SendingEnd conf window start (history ++ items) result ∧
      Emits channel result result.txWindow.txList := by
  have flag : result.isRecvFrame = channel.isRecvFrame :=
    congrArg (·.2.isRecvFrame) receiver
  have shape := (holds.shape.send message.short outcome).1
  cases outcome with
  | refused reTxSeq isTxWindowFull txList failed touched sender emits =>
    have windows : result.txWindow =
        { channel.txWindow with txList := txList } :=
      congrArg (·.2.txWindow) sender
    refine ⟨[], ?_, by rw [windows]; exact emits⟩
    rw [append_nil]
    exact holds.retouch sender receiver ⟨rfl, rfl, rfl⟩ rfl touched
  | cached mps room tooLong sender out =>
    refine ⟨[], ?_, Emits.of_eq _ out⟩
    rw [append_nil]
    have windows : result.txWindow = channel.txWindow := by
      refine (congrArg (·.2.txWindow) sender).trans ?_
      change (channel.cacheMessage env pi data).txWindow = _
      unfold cacheMessage
      split <;> rfl
    have framed : result.framed = channel.framed := by
      refine (congrArg (·.2.framed) sender).trans ?_
      change (channel.cacheMessage env pi data).framed = _
      unfold cacheMessage
      split <;> rfl
    have caches : result.cacheBuff =
          (channel.cacheMessage env pi data).cacheBuff ∧
        result.cachePi = (channel.cacheMessage env pi data).cachePi :=
      ⟨congrArg (·.2.cacheBuff) sender, congrArg (·.2.cachePi) sender⟩
    have confs : result.conf = channel.conf := by
      refine (congrArg Prod.fst sender).trans ?_
      change (channel.cacheMessage env pi data).conf = _
      unfold cacheMessage
      split <;> rfl
    exact
      { conf_eq := confs.trans holds.conf_eq
        size_eq := by rw [windows]; exact holds.size_eq
        oneWay := flag.trans holds.oneWay
        shape := shape
        length_eq := by rw [windows]; exact holds.length_eq
        carried := by rw [windows]; exact holds.carried
        framed := by rw [framed]; exact holds.framed
        room := by rw [framed]; exact holds.room
        valid := by rw [framed]; exact holds.valid
        cached := by
          intro held equality
          rw [caches.1] at equality
          rw [caches.2]
          unfold cacheMessage at equality ⊢
          split at equality
          next empty =>
            rw [if_pos empty]
            split at equality <;> cases equality
            · exact message
          next occupied =>
            rw [if_neg occupied]
            exact holds.cached held equality }
  | framed mps reTxSeq sendPollingCounter isTxWindowFull txList packed added
      room fits packing touched addedTouched sender emits =>
      have lists : result.txWindow.txList = txList ++ added :=
        congrArg (·.2.txWindow.txList) sender
      refine ⟨messageItems (conf.mps - 9) ⟨pi, data⟩, ?_,
        by rw [lists]; exact emits⟩
      exact holds.queue message room packing addedTouched touched shape
        (congrArg Prod.fst sender) (congrArg (·.2.txWindow.size) sender) lists
        flag (congrArg (·.2.framed) sender) (congrArg (·.2.cacheBuff) sender)
        (congrArg (·.2.cachePi) sender)

end

theorem statusChange (result : Nat) :
    ∃ items, SendingEnd conf window start (history ++ items)
        (channel.transChannelStatusChange env result) ∧
      Sends conf (history ++ items) start channel
        (channel.transChannelStatusChange env result) := by
  have receiver := @transChannelStatusChange_receiver env channel result
  cases @transChannelStatusChange_outcome env channel result with
  | kept isTxWindowFull sender out =>
    refine ⟨[], ?_, .of_out out⟩
    rw [append_nil]
    exact holds.retouch sender receiver ⟨rfl, rfl, rfl⟩ rfl
      (forall₂_retouched_refl _ _)
  | @flushed sent errno cacheBuff held _ _ outcome sender kept out =>
    obtain ⟨items, after, emits⟩ :=
      holds.send (holds.cached cacheBuff held) outcome kept
    have windows : (channel.transChannelStatusChange env result).txWindow =
        sent.txWindow :=
      congrArg (·.2.txWindow) sender
    have framed : (channel.transChannelStatusChange env result).framed =
        sent.framed :=
      congrArg (·.2.framed) sender
    have empty : (channel.transChannelStatusChange env result).cacheBuff =
        none :=
      congrArg (·.2.cacheBuff) sender
    have cleared : SenderShape start sent.clearCache :=
      ⟨after.shape.window, nofun⟩
    refine ⟨items, ?_, (after.sends emits).trans_out out⟩
    exact
      { conf_eq := (congrArg Prod.fst sender).trans after.conf_eq
        size_eq := by rw [windows]; exact after.size_eq
        oneWay := (congrArg (·.2.isRecvFrame) receiver).trans holds.oneWay
        shape := cleared.of_sender sender
        length_eq := by rw [windows]; exact after.length_eq
        carried := by rw [windows]; exact after.carried
        framed := by rw [framed]; exact after.framed
        room := by rw [framed]; exact after.room
        valid := by rw [framed]; exact after.valid
        cached := by rw [empty]; exact nofun }

theorem slide {frame : Frame} {ack : Nat} (number : frame.reqSeq = seqOf ack)
    (range : start ≤ ack ∧ ack ≤ history.length) :
    (SendingEnd conf window start history (channel.slideTxWindow env frame) ∨
      SendingEnd conf window ack history (channel.slideTxWindow env frame)) ∧
      (channel.slideTxWindow env frame).host.out = channel.host.out := by
  obtain ⟨reTxSeq, sendPollingCounter, txWindow, sender, moved, out⟩ :=
    @slideTxWindow_spec env channel frame
  have receiver := @slideTxWindow_receiver env channel frame
  have flag := congrArg (·.2.isRecvFrame) receiver
  have windows : (channel.slideTxWindow env frame).txWindow = txWindow :=
    congrArg (·.2.txWindow) sender
  refine ⟨?_, out⟩
  rcases moved with rfl | ⟨queued, _, accepted, rfl⟩
  · exact .inl (holds.retouch sender receiver ⟨rfl, rfl, rfl⟩ rfl
      (forall₂_retouched_refl _ _))
  · right
    have length := holds.length_eq
    have within := holds.shape.window.within
    have small := holds.shape.window.size_le
    obtain ⟨count, _, inside, equality⟩ := holds.shape.window.ack_position
      (number ▸ seqOf_lt ack) queued accepted
    have place : ack = start + count := by
      rw [number] at equality
      exact (seqOf_eq_iff (by omega) (by omega)).mp equality
    subst place
    have dropped : (channel.slideTxWindow env frame).txWindow.txList =
        channel.txWindow.txList.drop count := by
      rw [windows, number]
      exact holds.shape.window.numbered.dropWhile_smaller inside (by omega)
    have framed : (channel.slideTxWindow env frame).framed =
        channel.framed :=
      congrArg (·.2.framed) sender
    have caches : (channel.slideTxWindow env frame).cacheBuff =
        channel.cacheBuff :=
      congrArg (·.2.cacheBuff) sender
    have cachePis : (channel.slideTxWindow env frame).cachePi =
        channel.cachePi :=
      congrArg (·.2.cachePi) sender
    exact
      { conf_eq := (congrArg Prod.fst sender).trans holds.conf_eq
        size_eq := by rw [windows, ← holds.size_eq]; rfl
        oneWay := flag.trans holds.oneWay
        shape :=
          { window := by
              rw [windows, number]
              exact holds.shape.window.ack inside
            cache := by
              unfold CacheShort
              rw [caches]
              exact holds.shape.cache }
        length_eq := by
          rw [dropped, length_drop, length]
          omega
        carried := by
          rw [dropped, ← drop_drop]
          exact forall₂_drop count holds.carried
        framed := by rw [framed]; exact holds.framed
        room := by rw [framed]; exact holds.room
        valid := by rw [framed]; exact holds.valid
        cached := by rw [caches, cachePis]; exact holds.cached }

end

structure Acknowledged (conf : Conf) (window start ack : Nat)
    (history items : List Item) (later : Nat) (old middle new : Channel) :
    Prop where
  resent : Sends conf history start old middle
  moved : later = start ∨ later = ack
  sending : SendingEnd conf window later (history ++ items) new
  flushed : Sends conf (history ++ items) later middle new

variable (holds : SendingEnd conf window start history channel)
include holds

theorem acknowledge (recvCb : Option RecvCb) {ack : Nat}
    (frameType : frame.frameType = .ack) (number : frame.reqSeq = seqOf ack)
    (range : start ≤ ack ∧ ack ≤ history.length) :
    ∃ items later middle, Acknowledged conf window start ack history items
      later channel middle
      (channel.recvEnhanceFrame env recvCb frame).2 := by
  obtain ⟨reTxSeq, txList, sender, touched, emits⟩ :=
    @recvNackFrame_spec env channel frame
  have receiver := @recvNackFrame_receiver env channel frame
  have windows : (channel.recvNackFrame env frame).2.txWindow =
      { channel.txWindow with txList := txList } :=
    congrArg (·.2.txWindow) sender
  have nacked : SendingEnd conf window start history
      (channel.recvNackFrame env frame).2 :=
    holds.retouch sender receiver ⟨rfl, rfl, rfl⟩ rfl touched
  have resent : Sends conf history start channel
      (channel.recvNackFrame env frame).2 :=
    nacked.sends (by rw [windows]; exact emits)
  unfold recvEnhanceFrame
  extract_lets nackedResult slid
  split
  · refine ⟨[], start, nackedResult.2, resent, .inl rfl, ?_, .of_out rfl⟩
    rw [append_nil]
    exact nacked
  · obtain ⟨slides, out⟩ := @nacked.slide env _ _ _ _ _ frame ack number range
    have sent : Sends conf history start channel slid := resent.trans_out out
    rcases slides with kept | taken
    · obtain ⟨items, after, flushed⟩ := @statusChange env _ _ _ _ _ kept 0
      exact ⟨items, start, slid, sent, .inl rfl, after, flushed⟩
    · obtain ⟨items, after, flushed⟩ := @statusChange env _ _ _ _ _ taken 0
      exact ⟨items, ack, slid, sent, .inr rfl, after, flushed⟩

theorem retransTimer (env : Env) :
    SendingEnd conf window start history (channel.retransTimerExpireProc env) ∧
      Sends conf history start channel
        (channel.retransTimerExpireProc env) := by
  obtain ⟨reTxSeq, txList, sender, touched, emits⟩ :=
    @retransTimerExpireProc_spec env channel
  have receiver := @retransTimerExpireProc_receiver env channel
  have windows : (channel.retransTimerExpireProc env).txWindow =
      { channel.txWindow with txList := txList } :=
    congrArg (·.2.txWindow) sender
  have after : SendingEnd conf window start history
      (channel.retransTimerExpireProc env) :=
    holds.retouch sender receiver ⟨rfl, rfl, rfl⟩ rfl touched
  exact ⟨after, after.sends (by rw [windows]; exact emits)⟩

theorem dataSend (env : Env) (pi : UInt8) (data : Bytes) :
    ∃ items, SendingEnd conf window start (history ++ items)
        (channel.dataSend env pi.toNat data).2 ∧
      Sends conf (history ++ items) start channel
        (channel.dataSend env pi.toNat data).2 := by
  obtain ⟨outcome, lengths⟩ := @dataSend_outcome env channel pi.toNat data
  rcases lengths with ⟨nonempty, short⟩ | same
  · obtain ⟨items, after, emits⟩ := holds.send
      ⟨nonempty, short, pi.toNat_lt⟩ outcome (dataSend_receiver _ _)
    exact ⟨items, after, after.sends emits⟩
  · rw [same]
    refine ⟨[], ?_, .of_out rfl⟩
    rw [append_nil]
    exact holds

end SendingEnd

end NearLink.Dtap
