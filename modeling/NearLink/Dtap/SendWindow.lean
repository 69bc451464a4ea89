import NearLink.Dtap.ChannelRun
import NearLink.Dtap.Fragmentation
import NearLink.Dtap.SendStep
import NearLink.Dtap.Sequence

/-!
# The send window

The queued frames carry consecutive numbers from the acknowledged one up to
the next new one, and they never exceed the window.  The position of the
oldest unacknowledged frame in the unbounded stream of frames is the only
witness the argument needs: every operation either keeps it or moves it
forward within the frames that are queued.
-/

namespace NearLink.Dtap

open Sdf Channel List Nat

/-- A send window whose oldest unacknowledged frame is the frame at a stream
position. -/
structure SendWindow (start : Nat) (window : TxWindow) : Prop where
  size_pos : 0 < window.size
  size_le : window.size ≤ 255
  expectedAckSeq_eq : window.expectedAckSeq = seqOf start
  nextTxSeq_eq :
    window.nextTxSeq = seqOf (start + window.txList.length)
  numbered : NumberedFrom start window.txList
  within : window.txList.length ≤ window.size

namespace SendWindow

variable {start : Nat} {window : TxWindow} (shape : SendWindow start window)
include shape

theorem retouch {crcInit : UInt16} {txList : List Frame}
    (touched : List.Forall₂ (Retouched crcInit) window.txList txList) :
    SendWindow start { window with txList := txList } := by
  have length : txList.length = window.txList.length :=
    touched.length_eq.symm
  exact
    { size_pos := shape.size_pos
      size_le := shape.size_le
      expectedAckSeq_eq := shape.expectedAckSeq_eq
      nextTxSeq_eq := by
        rw [length]
        exact shape.nextTxSeq_eq
      numbered := shape.numbered.of_map_eq (map_txSeq_of_retouched touched)
      within := by
        rw [length]
        exact shape.within }

/-- An acknowledged number that passes the window test belongs to a position
behind the oldest frame and not behind the next new one, whatever number the
peer sent. -/
theorem ack_position {reqSeq : Nat} (small : reqSeq < 16384)
    (queued : window.txList ≠ [])
    (accepted : ackInWindow window reqSeq = true) :
    ∃ count, 0 < count ∧ count ≤ window.txList.length ∧
      reqSeq = seqOf (start + count) := by
  have length : 0 < window.txList.length :=
    length_pos_of_ne_nil queued
  unfold ackInWindow at accepted
  rw [shape.expectedAckSeq_eq, shape.nextTxSeq_eq, Bool.or_eq_true,
    Bool.and_eq_true, beq_iff_eq] at accepted
  rcases accepted with ⟨behind, before⟩ | equality
  · obtain ⟨distance, near, rfl⟩ := exists_eq_seqOf_add start small
    -- The number lies less than half the space behind `start`.
    rw [isFrameSeqSmaller_iff (seqOf_lt _) (seqOf_lt _)] at behind before
    unfold seqOf at behind before
    exact ⟨distance, by omega, by omega, rfl⟩
  · exact ⟨window.txList.length, length, le_rfl, equality⟩

theorem ack {count : Nat} (within : count ≤ window.txList.length) :
    SendWindow (start + count)
      (ackTxWindow window (seqOf (start + count))) := by
  have bound := le_trans shape.within shape.size_le
  have dropped : (ackTxWindow window (seqOf (start + count))).txList =
      window.txList.drop count :=
    shape.numbered.dropWhile_smaller within bound
  have length : (ackTxWindow window (seqOf (start + count))).txList.length =
      window.txList.length - count := by
    rw [dropped, length_drop]
  exact
    { size_pos := shape.size_pos
      size_le := shape.size_le
      expectedAckSeq_eq := rfl
      nextTxSeq_eq := by
        have position : start + count + (window.txList.length - count) =
            start + window.txList.length := by omega
        rw [length, position]
        exact shape.nextTxSeq_eq
      numbered := by
        rw [dropped]
        exact shape.numbered.drop within
      within := by
        have := shape.within
        rw [length]
        exact le_trans (sub_le _ _) this }

end SendWindow

theorem buildFrame_txSeq {frame built : Frame} {tcid : Nat}
    {crcInit : UInt16} (building : buildFrame frame tcid crcInit = .ok built) :
    built.txSeq = frame.txSeq := by
  have mapped {result : Except Errno Buff}
      (building : result.map (fun buff => { frame with buff := buff }) =
        .ok built) :
      built.txSeq = frame.txSeq := by
    cases result with
    | error errno => cases building
    | ok buff =>
      cases building
      rfl
  unfold buildFrame at building
  split at building
  any_goals exact mapped building
  · unfold buildBasicFrame at building
    dsimp only at building
    split at building <;> cases building
    rfl
  · cases building
  · cases building
  · unfold buildAckFrame at building
    exact mapped building

theorem packFrames_numbered {channel : Channel} {pi position : Nat}
    {frames packed : List Frame}
    (packing : channel.packFrames pi (seqOf position) frames = .ok packed) :
    NumberedFrom position packed ∧ packed.length = frames.length := by
  induction frames generalizing position packed with
  | nil =>
    cases packing
    exact ⟨numberedFrom_nil _, rfl⟩
  | cons frame frames induction =>
    unfold packFrames at packing
    split at packing
    · cases packing
    next first building =>
      split at packing
      · cases packing
      next rest later =>
        cases packing
        rw [getNextFrameSeq_seqOf] at later
        obtain ⟨numbered, length⟩ := induction later
        refine ⟨numberedFrom_cons.mpr ⟨?_, numbered⟩, by simp [length]⟩
        exact buildFrame_txSeq building

theorem advanceSeq_seqOf (position count : Nat) :
    advanceSeq (seqOf position) count = seqOf (position + count) := by
  induction count generalizing position with
  | zero => rfl
  | succ count induction =>
    rw [advanceSeq, getNextFrameSeq_seqOf, induction]
    congr 1
    omega

theorem SendWindow.append {start : Nat} {window : TxWindow}
    (shape : SendWindow start window) {added : List Frame}
    (numbered : NumberedFrom (start + window.txList.length) added)
    (fits : window.txList.length + added.length ≤ window.size) :
    SendWindow start { window with
      nextTxSeq := advanceSeq window.nextTxSeq added.length
      txList := window.txList ++ added } :=
  { size_pos := shape.size_pos
    size_le := shape.size_le
    expectedAckSeq_eq := shape.expectedAckSeq_eq
    nextTxSeq_eq := by
      change advanceSeq window.nextTxSeq added.length =
        seqOf (start + (window.txList ++ added).length)
      rw [shape.nextTxSeq_eq, advanceSeq_seqOf, length_append, add_assoc]
    numbered := numberedFrom_append.mpr ⟨shape.numbered, numbered⟩
    within := by
      change (window.txList ++ added).length ≤ window.size
      rwa [length_append] }

namespace Channel

variable {env : Env} {registry : Registry} {channel : Channel} {start : Nat}

/-- A cached message has passed the length check of `DTAP_DataSend`. -/
def CacheShort (channel : Channel) : Prop :=
  ∀ data, channel.cacheBuff = some data → data.length ≤ maxPayloadLen

structure SenderShape (start : Nat) (channel : Channel) : Prop where
  window : SendWindow start channel.txWindow
  cache : channel.CacheShort

theorem SenderShape.of_sender {other : Channel}
    (shape : SenderShape start channel) (same : other.sender = channel.sender) :
    SenderShape start other := by
  have sides : other.txSide = channel.txSide := congrArg Prod.snd same
  have windows : other.txWindow = channel.txWindow :=
    congrArg TxSide.txWindow sides
  have caches : other.cacheBuff = channel.cacheBuff :=
    congrArg TxSide.cacheBuff sides
  exact
    { window := windows ▸ shape.window
      cache := fun data held => shape.cache data (caches ▸ held) }

variable {result : Channel} {data : Bytes} {frame : Frame}

theorem SenderShape.of_retouched (shape : SenderShape start channel)
    {txList : List Frame}
    (window : result.txWindow = { channel.txWindow with txList := txList })
    (cache : result.cacheBuff = channel.cacheBuff)
    (touched : List.Forall₂ (Retouched channel.conf.crcInit)
      channel.txWindow.txList txList) : SenderShape start result ∧
      result.txWindow.txList.length = channel.txWindow.txList.length := by
  refine ⟨⟨?_, fun data held => shape.cache data (cache ▸ held)⟩, ?_⟩
  · rw [window]
    exact shape.window.retouch touched
  · rw [window]
    exact touched.length_eq.symm

theorem cacheMessage_cacheShort {pi : Nat} (cache : channel.CacheShort)
    (short : data.length ≤ maxPayloadLen) :
    (channel.cacheMessage env pi data).CacheShort := by
  unfold cacheMessage
  split
  · intro held equality
    split at equality <;> cases equality
    · exact short
  · exact cache

theorem SenderShape.send {pi : Nat} {errno : Errno}
    (shape : SenderShape start channel) (short : data.length ≤ maxPayloadLen)
    (outcome : SendOutcome env channel pi data errno result) :
    SenderShape start result ∧
      channel.txWindow.txList.length ≤ result.txWindow.txList.length := by
  cases outcome with
  | refused reTxSeq isTxWindowFull txList failed touched sender emits =>
    obtain ⟨kept, length⟩ := shape.of_retouched (congrArg (·.2.txWindow) sender)
      (congrArg (·.2.cacheBuff) sender) touched
    exact ⟨kept, le_of_eq length.symm⟩
  | cached mps room tooLong sender out =>
    have sameWindow : ((channel.cacheMessage env pi data).setTxWindowFull
        true).txWindow = channel.txWindow := by
      unfold cacheMessage
      split <;> rfl
    have kept : SenderShape start
        ((channel.cacheMessage env pi data).setTxWindowFull true) :=
      { window := sameWindow ▸ shape.window
        cache := cacheMessage_cacheShort shape.cache short }
    have window : result.txWindow = channel.txWindow :=
      (congrArg (·.2.txWindow) sender).trans sameWindow
    exact ⟨kept.of_sender sender, by rw [window]⟩
  | framed mps reTxSeq sendPollingCounter isTxWindowFull txList packed added
      room fits packing touched addedTouched sender emits =>
      rw [shape.window.nextTxSeq_eq] at packing
      obtain ⟨numbered, length⟩ := packFrames_numbered packing
      have pieces := fragmentPieces_length_eq (payloadRoom_pos room)
        (lt_of_le_of_lt short (by decide : maxPayloadLen < 65536))
      have addedLength : added.length =
          getFragmentFramesNum data.length mps := by
        rw [← addedTouched.length_eq, length]
        unfold fragments
        rw [fragmentFrames_length, pieces]
      have old := shape.window.retouch touched
      have listLength : txList.length = channel.txWindow.txList.length :=
        touched.length_eq.symm
      have addedNumbered : NumberedFrom (start + txList.length) added := by
        rw [listLength]
        exact numbered.of_map_eq (map_txSeq_of_retouched addedTouched)
      have window := old.append addedNumbered (by
        rw [listLength, addedLength]
        exact fits)
      have resultWindow : result.txWindow = _ :=
        congrArg (·.2.txWindow) sender
      have resultCache : result.cacheBuff = channel.cacheBuff :=
        congrArg (·.2.cacheBuff) sender
      rw [addedTouched.length_eq] at resultWindow
      refine ⟨⟨resultWindow ▸ window, ?_⟩, ?_⟩
      · intro held equality
        exact shape.cache held (resultCache ▸ equality)
      · rw [resultWindow]
        change _ ≤ (txList ++ added).length
        rw [length_append, listLength]
        exact le_add_right _ _

theorem SenderShape.statusChange (shape : SenderShape start channel)
    (outcome : StatusOutcome env channel result) : SenderShape start result ∧
      channel.txWindow.txList.length ≤ result.txWindow.txList.length := by
  cases outcome with
  | kept isTxWindowFull sender out =>
    have window : result.txWindow = channel.txWindow :=
      congrArg (·.2.txWindow) sender
    have flagged : SenderShape start (channel.setTxWindowFull isTxWindowFull) :=
      ⟨shape.window, shape.cache⟩
    exact ⟨flagged.of_sender sender, by rw [window]⟩
  | @flushed sent errno cacheBuff held _ _ outcome sender receiver out =>
    obtain ⟨after, grown⟩ :=
      shape.send (shape.cache cacheBuff held) outcome
    have window : result.txWindow = sent.txWindow :=
      congrArg (·.2.txWindow) sender
    have cleared : SenderShape start sent.clearCache :=
      ⟨after.window, fun _ none => nomatch none⟩
    exact ⟨cleared.of_sender sender, by rw [window]; exact grown⟩

/-- The window moves on by a number of acknowledged frames, none of them new,
and keeps all the others. -/
def Advances (start : Nat) (old new : Channel) : Prop :=
  ∃ count, count ≤ old.txWindow.txList.length ∧
    SenderShape (start + count) new ∧
    old.txWindow.txList.length ≤ count + new.txWindow.txList.length

theorem Advances.of_kept (kept : SenderShape start result ∧
      channel.txWindow.txList.length ≤ result.txWindow.txList.length) :
    Advances start channel result :=
  ⟨0, zero_le _, kept.1, by simpa using kept.2⟩

theorem Advances.of_sender (shape : SenderShape start channel)
    (same : result.sender = channel.sender) :
    Advances start channel result := by
  refine .of_kept ⟨shape.of_sender same, ?_⟩
  rw [show result.txWindow = channel.txWindow from
    congrArg (·.2.txWindow) same]

theorem Advances.trans_kept {middle : Channel}
    (advances : Advances start channel middle)
    (kept : ∀ position, SenderShape position middle →
      SenderShape position result ∧
        middle.txWindow.txList.length ≤ result.txWindow.txList.length) :
    Advances start channel result := by
  obtain ⟨count, within, shape, remaining⟩ := advances
  obtain ⟨later, grown⟩ := kept _ shape
  exact ⟨count, within, later, by omega⟩

theorem slideTxWindow_advances (shape : SenderShape start channel)
    (inRange : frame.InRange) :
    Advances start channel (channel.slideTxWindow env frame) := by
  obtain ⟨reTxSeq, sendPollingCounter, txWindow, sender, moved, _⟩ :=
    @slideTxWindow_spec env channel frame
  have window : (channel.slideTxWindow env frame).txWindow = txWindow :=
    congrArg (·.2.txWindow) sender
  have cache : (channel.slideTxWindow env frame).cacheBuff =
      channel.cacheBuff :=
    congrArg (·.2.cacheBuff) sender
  have cacheShort : (channel.slideTxWindow env frame).CacheShort :=
    fun data held => shape.cache data (cache ▸ held)
  rcases moved with rfl | ⟨queued, carried, accepted, rfl⟩
  · exact .of_kept ⟨⟨window ▸ shape.window, cacheShort⟩, by rw [window]⟩
  · have small : frame.reqSeq < 16384 := inRange.2.resolve_right carried
    obtain ⟨count, _, within, equality⟩ :=
      shape.window.ack_position small queued accepted
    rw [equality] at window
    have after := shape.window.ack within
    refine ⟨count, within, ⟨window ▸ after, cacheShort⟩, ?_⟩
    have dropped := shape.window.numbered.dropWhile_smaller within
      (le_trans shape.window.within shape.window.size_le)
    rw [window]
    unfold ackTxWindow
    rw [dropped, length_drop]
    omega

theorem recvEnhanceFrame_advances (recvCb : Option RecvCb)
    (shape : SenderShape start channel) (inRange : frame.InRange) :
    Advances start channel (channel.recvEnhanceFrame env recvCb frame).2 := by
  obtain ⟨reTxSeq, txList, sender, touched, _⟩ :=
    @recvNackFrame_spec env channel frame
  obtain ⟨nacked, length⟩ := shape.of_retouched (congrArg (·.2.txWindow) sender)
    (congrArg (·.2.cacheBuff) sender) touched
  unfold recvEnhanceFrame
  extract_lets nackedResult slid
  split
  · exact .of_kept ⟨nacked, le_of_eq length.symm⟩
  · have slides : Advances start channel slid := by
      obtain ⟨count, within, later, remaining⟩ :=
        @slideTxWindow_advances env _ _ _ nacked inRange
      rw [length] at within remaining
      exact ⟨count, within, later, remaining⟩
    split_ifs
    · exact slides.trans_kept fun _ later => 
          later.statusChange (transChannelStatusChange_outcome 0)
    · exact slides.trans_kept fun _ later =>
        ⟨later.of_sender rfl, le_rfl⟩
    · have received : ((slid.skip 2).recvDataFrame env recvCb
          frame).sender = slid.sender :=
        recvDataFrame_sender recvCb frame
      have keptFrames := slides.trans_kept fun _ later =>
        ⟨later.of_sender received, by
          rw [show ((slid.skip 2).recvDataFrame env recvCb
              frame).txWindow = slid.txWindow from
            congrArg (·.2.txWindow) received]⟩
      exact keptFrames.trans_kept fun _ later => 
        later.statusChange (transChannelStatusChange_outcome 0)

theorem step_advances (shape : SenderShape start channel) (event : Event) :
    Advances start channel (channel.step env registry event) := by
  cases event with
  | dataSend pi data =>
    obtain ⟨outcome, short | same⟩ :=
      @dataSend_outcome env channel pi data
    · exact .of_kept (shape.send short.2 outcome)
    · exact .of_sender shape (congrArg Channel.sender same)
  | recvFrame received =>
    exact recvEnhanceFrame_advances _ shape received.inRange
  | setStatus result =>
    exact .of_sender shape (setTransChannelStatus_sender _ result)
  | statusChange result => exact .of_kept (shape.statusChange
      (transChannelStatusChange_outcome result))
  | rspTimer => exact .of_sender shape (sender_of_core rspTimerExpireProc_core)
  | reorderTimer => exact .of_sender shape reorderTimerExpireProc_sender
  | retransTimer =>
    obtain ⟨reTxSeq, txList, sender, touched, _⟩ :=
      @retransTimerExpireProc_spec env channel
    obtain ⟨kept, length⟩ := shape.of_retouched (congrArg (·.2.txWindow) sender)
      (congrArg (·.2.cacheBuff) sender) touched
    exact .of_kept ⟨kept, le_of_eq length.symm⟩

theorem reliableChannelCreate_senderShape (conf : Conf) (window : UInt8) :
    SenderShape 0 (reliableChannelCreate conf window) := by
  have size : (reliableChannelCreate conf window).txWindow.size =
      if window = 0 then 200 else window.toNat := rfl
  refine ⟨⟨?_, ?_, rfl, rfl, numberedFrom_nil 0, zero_le _⟩,
    fun _ none => nomatch none⟩
  · rw [size]
    split
    · decide
    next nonzero =>
      exact pos_of_ne_zero fun zero =>
        nonzero (UInt8.toNat_inj.mp zero)
  · rw [size]
    split
    · decide
    · exact le_of_lt_succ window.toNat_lt

theorem run_senderShape (env : Env) (registry : Registry) (conf : Conf)
    (window : UInt8) (events : List Event) :
    ∃ start, SenderShape start (Transition.run (step env registry)
      (reliableChannelCreate conf window) events) := by
  have preserved (channel : Channel) (event : Event)
      (shape : ∃ start, SenderShape start channel) :
      ∃ start, SenderShape start (channel.step env registry event) := by
    obtain ⟨start, shape⟩ := shape
    obtain ⟨count, _, later, _⟩ :=
      @step_advances env registry _ _ shape event
    exact ⟨start + count, later⟩
  exact Transition.run_invariant_of_step preserved
    ⟨0, reliableChannelCreate_senderShape conf window⟩ events

/-- The queued frames carry the numbers from `expectedAckSeq` up to
`nextTxSeq`, in order, and there are not more of them than the window
holds. -/
def Consecutive (window : TxWindow) : Prop :=
  window.txList.map Frame.txSeq =
      (List.range window.txList.length).map (fun index =>
        (window.expectedAckSeq + index) % 2 ^ 14) ∧
    window.nextTxSeq = (window.expectedAckSeq + window.txList.length) % 2 ^ 14 ∧
    window.txList.length ≤ window.size ∧ window.size ≤ 255

/-- `expectedAckSeq` moves forward over frames that were queued, and the
queue loses those frames and no other. -/
def MovesForward (old new : TxWindow) : Prop :=
  ∃ count, count ≤ old.txList.length ∧
    new.expectedAckSeq = (old.expectedAckSeq + count) % 2 ^ 14 ∧
    (old.txList.map Frame.txSeq).drop count <+: new.txList.map Frame.txSeq

theorem SenderShape.consecutive (shape : SenderShape start channel) :
    Consecutive channel.txWindow := by
  refine ⟨?_, ?_, shape.window.within, shape.window.size_le⟩
  · rw [show channel.txWindow.txList.map Frame.txSeq = _ from
      shape.window.numbered, range'_eq_map_range, map_map]
    apply map_congr_left
    intro index _
    rw [shape.window.expectedAckSeq_eq]
    simp [seqOf]
  · rw [shape.window.nextTxSeq_eq, shape.window.expectedAckSeq_eq]
    simp [seqOf]

theorem Advances.movesForward (shape : SenderShape start channel)
    (advances : Advances start channel result) :
    MovesForward channel.txWindow result.txWindow := by
  obtain ⟨count, within, later, remaining⟩ := advances
  refine ⟨count, within, ?_, ?_⟩
  · rw [later.window.expectedAckSeq_eq, shape.window.expectedAckSeq_eq]
    simp [seqOf]
  · obtain ⟨extra, total⟩ := Nat.le.dest remaining
    have length : result.txWindow.txList.length =
        channel.txWindow.txList.length - count + extra := by omega
    have numbers : result.txWindow.txList.map Frame.txSeq =
        (List.range' (start + count)
          result.txWindow.txList.length).map seqOf := later.window.numbered
    rw [numbers, show channel.txWindow.txList.map Frame.txSeq = _ from
      shape.window.numbered, ← map_drop, drop_range', length,
      mul_one, ← range'_append_1, map_append]
    exact prefix_append _ _

/-- The send window of a reliable channel under any peer. -/
theorem sendWindow_of_run (env : Env) (registry : Registry) (conf : Conf)
    (window : UInt8) (events : List Event) (event : Event) :
    let channel := Transition.run (step env registry)
      (reliableChannelCreate conf window) events
    Consecutive channel.txWindow ∧ MovesForward channel.txWindow
        (channel.step env registry event).txWindow := by
  obtain ⟨start, shape⟩ := run_senderShape env registry conf window events
  exact ⟨shape.consecutive, (step_advances shape event).movesForward shape⟩

end Channel

end NearLink.Dtap
