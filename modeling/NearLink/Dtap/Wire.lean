import NearLink.Dtap.SendStep

/-!
# Frames on the wire

The bytes of simplex fragment frames and of acknowledgements, and the round
trip through them: what is built is accepted and parses back, and setting the
polling bit of a built frame gives the frame that would have been built with
it.
-/

namespace NearLink.Dtap

open Sdf Channel List

structure Item where
  pi : Nat
  sar : Sar
  piece : Bytes

def sealed (crcInit : UInt16) (message : Bytes) : Bytes :=
  message ++ encode2ByteLittle (crc16 crcInit message)

def simplexHeader (tcid : Nat) (polled : Bool) (seq : Nat) (item : Item) :
    Bytes :=
  basicHeader tcid .simplexFrag (enhanceBits polled false)
      (item.piece.length + 5) ++
    [UInt8.ofNat item.pi] ++
    encodeWord (seq % 2 ^ 14 + 2 ^ 14 * item.sar.code)

def simplexWire (crcInit : UInt16) (tcid : Nat) (polled : Bool) (seq : Nat)
    (item : Item) : Bytes :=
  sealed crcInit (simplexHeader tcid polled seq item ++ item.piece)

def ackWire (crcInit : UInt16) (tcid : Nat) (fBit sBit : Bool) (reqSeq : Nat) : Bytes :=
  sealed crcInit (basicHeader tcid .ack (enhanceBits false fBit) 4 ++
    encodeWord (reqSeq % 2 ^ 14 + 2 ^ 14 * (if sBit then 1 else 0)))

@[simp] theorem sealed_length (crcInit : UInt16) (message : Bytes) :
    (sealed crcInit message).length = message.length + 2 := by
  simp [sealed]

@[simp] theorem simplexHeader_length (tcid : Nat) (polled : Bool)
    (seq : Nat) (item : Item) :
    (simplexHeader tcid polled seq item).length = 7 := rfl

theorem crc16_sealed (crcInit : UInt16) (message : Bytes) :
    crc16 crcInit (sealed crcInit message) = 0 :=
  crc16_residue crcInit message

theorem sealFrame_ofData (header piece : Bytes) (crcInit : UInt16)
    (room : header.length ≤ buffMaxHeadroomSize) :
    ∃ buff, sealFrame (.ofData piece) header crcInit = .ok buff ∧
      buff.data = sealed crcInit (header ++ piece) := by
  have prepended := @Buff.prepend_eq_some header (.ofData piece)
    (by simpa [Buff.ofData] using room)
  unfold sealFrame
  rw [prepended]
  exact ⟨_, rfl, rfl⟩

/-- A frame carries an item under its own number, whether its polling bit is
set or not. -/
def Carries (crcInit : UInt16) (tcid : Nat) (item : Item) (frame : Frame) :
    Prop :=
  ∃ polled, frame.buff.data = simplexWire crcInit tcid polled frame.txSeq item

section

variable (frame : Frame) (tcid : Nat) (crcInit : UInt16)

theorem buildSimplexFragFrame_carries (piece : Bytes)
    (buff : frame.buff = .ofData piece) (bits : frame.bits = frameCBit) :
    ∃ built, buildSimplexFragFrame frame tcid crcInit = .ok built ∧
      Carries crcInit tcid
        { pi := frame.pi, sar := frame.sar, piece := piece } built := by
  let item : Item := { pi := frame.pi, sar := frame.sar, piece := piece }
  obtain ⟨buffer, sealing, data⟩ := sealFrame_ofData
    (simplexHeader tcid false frame.txSeq item) piece crcInit (by
      rw [simplexHeader_length]
      decide)
  refine ⟨{ frame with buff := buffer }, ?_, false, data⟩
  unfold buildSimplexFragFrame
  rw [buff, bits]
  change (sealFrame (.ofData piece)
    (simplexHeader tcid false frame.txSeq item) crcInit).map _ = _
  rw [sealing]
  rfl

theorem buildAckFrame_wire :
    ∃ built, buildAckFrame frame tcid crcInit = .ok built ∧
      built.buff.data = ackWire crcInit tcid
        (checkFrameBit frame.bits frameFBit) frame.sBit frame.reqSeq := by
  obtain ⟨buffer, sealing, data⟩ := sealFrame_ofData (basicHeader tcid .ack
        (enhanceBits false (checkFrameBit frame.bits frameFBit)) 4 ++
      encodeWord (frame.reqSeq % 2 ^ 14 +
        2 ^ 14 * (if frame.sBit then 1 else 0))) [] crcInit
    (by decide : 6 ≤ 14)
  refine ⟨{ frame with buff := buffer }, ?_, data⟩
  unfold buildAckFrame
  change (sealFrame (.ofData []) _ crcInit).map _ = _
  dsimp only [FrameType.headerLen, basicHeaderLen, crcLen]
  rw [sealing]
  rfl

end

theorem sendAckFrame_wire (env : Env) (channel : Channel) (fBit sBit : Bool) :
    ∃ sent, (channel.sendAckFrame env fBit sBit).2.host.out =
        channel.host.out ++ sent ∧
      ∀ buff ∈ sent, buff = ackWire channel.conf.crcInit channel.conf.dstTcid
        fBit sBit (channel.ackFrame fBit sBit).reqSeq := by
  obtain ⟨built, building, data⟩ := buildAckFrame_wire
    (channel.ackFrame fBit sBit) channel.conf.dstTcid channel.conf.crcInit
  have answered : checkFrameBit (channel.ackFrame fBit sBit).bits
      frameFBit = fBit := by
    change checkFrameBit (if fBit then frameCBit ||| frameFBit
      else frameCBit) frameFBit = fBit
    cases fBit <;> decide
  rw [answered] at data
  unfold sendAckFrame
  split
  · exact ⟨[], (append_nil _).symm, nofun⟩
  · rw [show buildFrame (channel.ackFrame fBit sBit) channel.conf.dstTcid
      channel.conf.crcInit = .ok built from building]
    dsimp only
    unfold sendFrame
    split
    · refine ⟨[built.buff.data], rfl, fun buff member => ?_⟩
      rw [mem_singleton.mp member, data]
      rfl
    · exact ⟨[], (append_nil _).symm, nofun⟩

/-- The items a message is cut into, the first of them number `index + 1` out
of `cnt`. -/
def fragmentItems (pi cnt : Nat) : Nat → List Bytes → List Item
  | _, [] => []
  | index, piece :: pieces =>
    { pi := pi, sar := getFragFrameSar cnt (index + 1), piece := piece } ::
    fragmentItems pi cnt (index + 1) pieces

def messageItems (mps : Nat) (message : Message) : List Item :=
  fragmentItems message.pi (getFragmentFramesNum message.data.length mps) 0
    (fragmentPieces mps message.data.length message.data)

theorem packFrames_carries {channel : Channel} {pi nextTxSeq cnt index : Nat}
    {pieces : List Bytes} {packed : List Frame}
    (packing : channel.packFrames pi nextTxSeq
      (fragmentFrames .simplexFrag cnt index pieces) = .ok packed) :
    List.Forall₂ (Carries channel.conf.crcInit channel.conf.dstTcid)
      (fragmentItems pi cnt index pieces) packed := by
  induction pieces generalizing nextTxSeq index packed with
  | nil =>
    cases packing
    exact .nil
  | cons piece pieces induction =>
    obtain ⟨built, building, carries⟩ := buildSimplexFragFrame_carries
      { frameType := .simplexFrag
        buff := .ofData piece
        sar := getFragFrameSar cnt (index + 1)
        bits := frameCBit
        pi := pi
        txSeq := nextTxSeq
        reqSeq := channel.rxWindow.expectedTxSeq }
      channel.conf.dstTcid channel.conf.crcInit piece rfl rfl
    rw [fragmentFrames, packFrames, buildFrame] at packing
    rw [building] at packing
    dsimp only at packing
    split at packing
    · cases packing
    next rest later =>
      cases packing
      exact .cons carries (induction later)

section

variable (tcid : Nat) (polled : Bool) (seq : Nat) (item : Item) (rest : Bytes)

theorem byteAt_simplexHeader :
    byteAt (simplexHeader tcid polled seq item ++ rest) 1 =
      if polled then 98 else 34 := by
  cases polled <;> rfl

theorem setFrameBit_simplexHeader :
    setFrameBit (simplexHeader tcid polled seq item ++ rest)
        (byteAt (simplexHeader tcid polled seq item ++ rest) 1 / 16 |||
          framePBit) =
      simplexHeader tcid true seq item ++ rest := by
  unfold setFrameBit
  rw [byteAt_simplexHeader]
  have marked : UInt8.ofNat ((if polled = true then 98 else 34) % 16 +
      16 * (((if polled = true then 98 else 34) / 16 ||| framePBit) % 16)) =
        UInt8.ofNat 98 := by
    cases polled <;> rfl
  rw [marked]
  rfl

end

section

variable (crcInit : UInt16)

theorem simplexWire_eq (tcid : Nat) (polled : Bool) (seq : Nat) (item : Item) :
    simplexWire crcInit tcid polled seq item =
      simplexHeader tcid polled seq item ++ (item.piece ++
        encode2ByteLittle (crc16 crcInit
          (simplexHeader tcid polled seq item ++ item.piece))) :=
  append_assoc _ _ _

theorem reCalculateCrcValue_append (message old : Bytes)
    (length : old.length = 2) :
    reCalculateCrcValue crcInit (message ++ old) =
      some (sealed crcInit message) := by
  have total : (message ++ old).length = message.length + 2 := by
    rw [length_append, length]
  unfold reCalculateCrcValue
  rw [total, if_neg (by simp [crcLen])]
  simp [crcLen, sealed]

theorem reCalculateCrcValue_simplexWire (tcid : Nat) (polled : Bool) (seq : Nat)
    (item : Item) :
    reCalculateCrcValue crcInit
        (setFrameBit (simplexWire crcInit tcid polled seq item)
          (byteAt (simplexWire crcInit tcid polled seq item) 1 / 16 |||
            framePBit)) =
      some (simplexWire crcInit tcid true seq item) := by
  rw [simplexWire_eq, setFrameBit_simplexHeader, ← append_assoc,
    reCalculateCrcValue_append _ _ _ (encode2ByteLittle_length _)]
  rfl

end

variable {crcInit : UInt16} {tcid : Nat} {item : Item} {frame : Frame}

section

variable (carries : Carries crcInit tcid item frame)
include carries

theorem setBitForSendPolling_carries :
    Carries crcInit tcid item (setBitForSendPolling crcInit frame) := by
  obtain ⟨polled, data⟩ := carries
  refine ⟨true, ?_⟩
  unfold setBitForSendPolling
  dsimp only
  rw [data, reCalculateCrcValue_simplexWire]

theorem setPbitForSendPolling_carries :
    Carries crcInit tcid item (setPbitForSendPolling crcInit frame) := by
  unfold setPbitForSendPolling
  extract_lets oriBits
  split
  · exact carries
  · obtain ⟨polled, data⟩ := carries
    refine ⟨true, ?_⟩
    have marked : reCalculateCrcValue crcInit
        (setFrameBit frame.buff.data (oriBits ||| framePBit)) =
          some (simplexWire crcInit tcid true frame.txSeq item) := by
      unfold oriBits
      rw [data, reCalculateCrcValue_simplexWire]
    rw [marked]

end

theorem Retouched.carries {old new : Frame}
    (touched : Retouched crcInit old new)
    (carries : Carries crcInit tcid item old) :
    Carries crcInit tcid item new := by
  cases touched with
  | count reTxCnt => exact carries
  | poll => exact setBitForSendPolling_carries carries
  | mark reTxCnt => exact setPbitForSendPolling_carries carries

theorem forall₂_carries_of_retouched {items : List Item} {old new : List Frame}
    (carries : List.Forall₂ (Carries crcInit tcid) items old)
    (touched : List.Forall₂ (Retouched crcInit) old new) :
    List.Forall₂ (Carries crcInit tcid) items new := by
  induction carries generalizing new with
  | nil =>
    cases touched
    exact .nil
  | cons head tail induction =>
    cases touched with
    | cons first rest => exact .cons (first.carries head) (induction rest)

theorem wordAt_encodeWord (value : Nat) (before after : Bytes)
    {offset : Nat} (length : before.length = offset) :
    wordAt (before ++ (encodeWord value ++ after)) offset = value % 65536 := by
  have first : byteAt (before ++ (encodeWord value ++ after)) offset =
      value % 256 := by
    simp [byteAt, encodeWord, ← length]
  have second : byteAt (before ++ (encodeWord value ++ after))
      (offset + 1) = value / 256 % 256 := by
    simp [byteAt, encodeWord, ← length]
  unfold wordAt
  omega

@[simp] theorem Sar.ofCode_code (sar : Sar) : Sar.ofCode sar.code = sar := by
  cases sar <;> rfl

theorem Sar.code_lt (sar : Sar) : sar.code < 4 := by
  cases sar <;> decide

def arrivingBuff (data : Bytes) : Buff :=
  { head := [], data := data, tail := [] }

def simplexFrame (crcInit : UInt16) (tcid : Nat) (polled : Bool) (seq : Nat)
    (item : Item) : Frame :=
  { frameType := .simplexFrag
    buff := arrivingBuff (simplexWire crcInit tcid polled seq item)
    bits := enhanceBits polled false
    pi := item.pi % 256
    sar := item.sar
    txSeq := seq % 2 ^ 14
    reqSeq := frameSeqInit
    headerLen := 7
    payload := item.piece }

def ackedFrame (crcInit : UInt16) (tcid : Nat) (fBit sBit : Bool)
    (reqSeq : Nat) : Frame :=
  { frameType := .ack
    buff := arrivingBuff (ackWire crcInit tcid fBit sBit reqSeq)
    bits := enhanceBits false fBit
    pi := byteAt (ackWire crcInit tcid fBit sBit reqSeq) 4
    reqSeq := reqSeq % 2 ^ 14
    sBit := sBit
    headerLen := 6 }

section

variable (crcInit : UInt16) (tcid : Nat) (polled : Bool) (seq : Nat)
  (item : Item)

@[simp] theorem simplexWire_length :
    (simplexWire crcInit tcid polled seq item).length =
      item.piece.length + 9 := by
  unfold simplexWire
  rw [sealed_length, length_append, simplexHeader_length]
  omega

theorem simplexWire_drop :
    (simplexWire crcInit tcid polled seq item).drop 7 =
      item.piece ++ encode2ByteLittle (crc16 crcInit
        (simplexHeader tcid polled seq item ++ item.piece)) := by
  rfl

end

theorem parseEnhanceFrame_plain {frameType : FrameType} {buff : Buff}
    (header : frameType.headerLen ≤ buff.data.length)
    (plain : byteAt buff.data 1 / 16 % 2 = 0)
    (crc : crcLen ≤ (buff.data.length - frameType.headerLen) % 65536) :
    parseEnhanceFrame frameType buff =
      .ok { frameType := frameType
            buff := buff
            bits := byteAt buff.data 1 / 16
            pi := byteAt buff.data 4
            headerLen := frameType.headerLen
            payload := (buff.data.drop frameType.headerLen).take
              ((buff.data.length - frameType.headerLen) % 65536 -
                crcLen) } := by
  unfold parseEnhanceFrame
  simp only [plain]
  rw [if_neg (Nat.not_lt.mpr header)]
  simp only [bne_self_eq_false, Bool.false_eq_true, if_false, Nat.sub_zero,
    Nat.add_zero]
  rw [if_neg (Nat.not_lt.mpr crc)]

section

variable (crcInit : UInt16) (tcid : Nat) (polled : Bool) (seq : Nat)
  (item : Item) (short : item.piece.length < 65534)
include short

theorem parseEnhanceFrame_simplexWire :
    parseEnhanceFrame .simplexFrag
        (arrivingBuff (simplexWire crcInit tcid polled seq item)) =
      .ok { simplexFrame crcInit tcid polled seq item with
        sar := .unseg, txSeq := 0, reqSeq := 0 } := by
  have typeBits : byteAt (simplexWire crcInit tcid polled seq item) 1 =
      if polled then 98 else 34 := by
    exact byteAt_simplexHeader tcid polled seq item _
  have piByte : byteAt (simplexWire crcInit tcid polled seq item) 4 =
      item.pi % 256 := by
    exact UInt8.toNat_ofNat'
  have length : ((simplexWire crcInit tcid polled seq item).length - 7) %
      65536 = item.piece.length + 2 := by
    rw [simplexWire_length]
    omega
  have parsed := @parseEnhanceFrame_plain .simplexFrag
    (arrivingBuff (simplexWire crcInit tcid polled seq item)) (by
      change _ ≤ (simplexWire crcInit tcid polled seq item).length
      simp only [FrameType.headerLen]
      omega) (by
      change byteAt (simplexWire crcInit tcid polled seq item) 1 / 16 % 2 = 0
      rw [typeBits]
      cases polled <;> rfl) (by
      change 2 ≤ ((simplexWire crcInit tcid polled seq item).length - 7) % 65536
      omega)
  rw [parsed]
  change Except.ok _ = Except.ok _
  simp only [arrivingBuff, typeBits, piByte, FrameType.headerLen, length,
    crcLen, Nat.add_sub_cancel, simplexWire_drop, take_left]
  cases polled <;> rfl

theorem parseFrame_simplexWire :
    parseFrame (byteAt (arrivingBuff
        (simplexWire crcInit tcid polled seq item)).data 1 % 16)
        (arrivingBuff (simplexWire crcInit tcid polled seq item)) =
      .ok (simplexFrame crcInit tcid polled seq item) := by
  have code : byteAt (simplexWire crcInit tcid polled seq item) 1 % 16 =
      2 := by
    rw [simplexWire_eq, byteAt_simplexHeader]
    cases polled <;> rfl
  have number : wordAt (simplexWire crcInit tcid polled seq item) 5 =
      seq % 2 ^ 14 + 2 ^ 14 * item.sar.code := by
    have bound := item.sar.code_lt
    rw [simplexWire_eq]
    unfold simplexHeader
    have length : (basicHeader tcid .simplexFrag (enhanceBits polled false)
        (item.piece.length + 5) ++ [UInt8.ofNat item.pi]).length = 5 := rfl
    rw [append_assoc, wordAt_encodeWord _ _ _ length]
    omega
  have data : (arrivingBuff (simplexWire crcInit tcid polled seq item)).data =
        simplexWire crcInit tcid polled seq item := rfl
  rw [data, code]
  unfold parseFrame
  rw [parseEnhanceFrame_simplexWire crcInit tcid polled seq item short]
  have field : (seq % 2 ^ 14 + 2 ^ 14 * item.sar.code) % 2 ^ 14 =
      seq % 2 ^ 14 := by omega
  have upper : (seq % 2 ^ 14 + 2 ^ 14 * item.sar.code) / 2 ^ 14 =
      item.sar.code := by omega
  rw [data, number, field, upper, Sar.ofCode_code]
  rfl

end

theorem parseFrame_ackWire (crcInit : UInt16) (tcid : Nat)
    (fBit sBit : Bool) (reqSeq : Nat) :
    parseFrame (byteAt (arrivingBuff
        (ackWire crcInit tcid fBit sBit reqSeq)).data 1 % 16)
        (arrivingBuff (ackWire crcInit tcid fBit sBit reqSeq)) =
      .ok (ackedFrame crcInit tcid fBit sBit reqSeq) := by
  let flag := if sBit then 1 else 0
  have typeBits : byteAt (ackWire crcInit tcid fBit sBit reqSeq) 1 =
      if fBit then 165 else 37 := by
    cases fBit <;> rfl
  have number : wordAt (ackWire crcInit tcid fBit sBit reqSeq) 4 =
      reqSeq % 2 ^ 14 + 2 ^ 14 * flag := by
    unfold ackWire sealed
    have length : (basicHeader tcid .ack (enhanceBits false fBit) 4).length =
        4 := rfl
    rw [append_assoc, wordAt_encodeWord _ _ _ length]
    unfold flag
    split <;> omega
  have code : byteAt (ackWire crcInit tcid fBit sBit reqSeq) 1 % 16 = 5 := by
    rw [typeBits]
    cases fBit <;> rfl
  have field : (reqSeq % 2 ^ 14 + 2 ^ 14 * flag) % 2 ^ 14 =
      reqSeq % 2 ^ 14 := by omega
  have upper : ((reqSeq % 2 ^ 14 + 2 ^ 14 * flag) / 2 ^ 14 % 2 != 0) =
      sBit := by
    have quotient : (reqSeq % 2 ^ 14 + 2 ^ 14 * flag) / 2 ^ 14 = flag := by
      omega
    rw [quotient]
    cases sBit <;> rfl
  have parsed : parseEnhanceFrame .ack
      (arrivingBuff (ackWire crcInit tcid fBit sBit reqSeq)) =
        .ok { ackedFrame crcInit tcid fBit sBit reqSeq with
          reqSeq := 0, sBit := false } := by
    rw [@parseEnhanceFrame_plain .ack
      (arrivingBuff (ackWire crcInit tcid fBit sBit reqSeq))
      (by decide : 6 ≤ 8) (by
        change byteAt (ackWire crcInit tcid fBit sBit reqSeq) 1 / 16 % 2 = 0
        rw [typeBits]
        cases fBit <;> rfl) (by decide : 2 ≤ 2)]
    simp only [arrivingBuff, typeBits]
    cases fBit <;> rfl
  have data : (arrivingBuff (ackWire crcInit tcid fBit sBit reqSeq)).data =
        ackWire crcInit tcid fBit sBit reqSeq := rfl
  rw [data, code]
  unfold parseFrame
  rw [parsed, data]
  change Except.ok { ackedFrame crcInit tcid fBit sBit reqSeq with
    reqSeq := wordAt (ackWire crcInit tcid fBit sBit reqSeq) 4 % 2 ^ 14
    sBit := wordAt (ackWire crcInit tcid fBit sBit reqSeq) 4 / 2 ^ 14 % 2 !=
      0 } = _
  rw [number, field, upper]
  rfl

namespace Channel

theorem acceptFrame_parsed {channel : Channel} {buff : Buff}
    {parsed frame : Frame}
    (parsing : parseFrame (byteAt buff.data 1 % 16) buff = .ok parsed)
    (accepted : channel.acceptFrame buff = some frame) :
    frame = parsed ∧ channel.checkEnhanceFrame parsed = true := by
  unfold acceptFrame at accepted
  rw [parsing] at accepted
  dsimp only at accepted
  split at accepted
  · cases accepted
  · split at accepted
    · cases accepted
    · split at accepted
      · cases accepted
      · split at accepted
        · cases accepted
        · split at accepted
          · cases accepted
          next checked =>
            cases accepted
            exact ⟨rfl, by simpa using checked⟩

end Channel

end NearLink.Dtap
