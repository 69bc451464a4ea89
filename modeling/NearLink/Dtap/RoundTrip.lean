import NearLink.Dtap.Wire
import NearLink.Dtap.Stream

/-!
# The round trip of a frame

A frame that one end builds passes the checks of the other end and parses back
to the fields it was built from.  The enhanced frames have a common layout, a
basic header, the fields of the type and the payload, sealed with a CRC, and
this layout is what the checks, the parser and the functions that set the
polling bit are about.
-/

namespace NearLink.Dtap

open Sdf List Channel

/-- The checks of `DTAP_DataRecvFrame` before those of the mode. -/
def recvChecks (mps : Nat) (buff : Buff) : Option Frame :=
  if buff.data.length < basicHeaderLen then none
  else if buff.data.length ≠ wordAt buff.data 2 + basicHeaderLen then none
  else
    match parseFrame (byteAt buff.data 1 % 16) buff with
    | .error _ => none
    | .ok frame =>
      if frame.payload.length > mps then none
      else if !checkFrameHeader frame then none
      else some frame

theorem recvChecks_filter (mps : Nat) (buff : Buff) (check : Frame → Bool) :
    (recvChecks mps buff).filter check =
      if buff.data.length < basicHeaderLen then none
      else if buff.data.length ≠ wordAt buff.data 2 + basicHeaderLen then none
      else
        match parseFrame (byteAt buff.data 1 % 16) buff with
        | .error _ => none
        | .ok frame =>
          if frame.payload.length > mps then none
          else if !checkFrameHeader frame then none
          else if !check frame then none
          else some frame := by
  unfold recvChecks
  split
  · rfl
  split
  · rfl
  cases parseFrame (byteAt buff.data 1 % 16) buff with
  | error errno => rfl
  | ok frame =>
    dsimp only
    split
    · rfl
    split
    · rfl
    cases checked : check frame <;> simp [checked]

theorem Stream.acceptFrame_eq (stream : Stream) (buff : Buff) :
    stream.acceptFrame buff =
      (recvChecks stream.conf.mps buff).filter checkStreamFrame :=
  (recvChecks_filter _ _ _).symm

def enhanceMessage (tcid : Nat) (frameType : FrameType) (bits : Nat)
    (fields payload : Bytes) : Bytes :=
  basicHeader tcid frameType bits (fields.length + payload.length + crcLen) ++
    (fields ++ payload)

def enhanceWire (crcInit : UInt16) (tcid : Nat) (frameType : FrameType)
    (bits : Nat) (fields payload : Bytes) : Bytes :=
  sealed crcInit (enhanceMessage tcid frameType bits fields payload)

section Layout

variable (crcInit : UInt16) (tcid : Nat) (frameType : FrameType) (bits : Nat)
  (fields payload : Bytes)

theorem enhanceWire_eq :
    enhanceWire crcInit tcid frameType bits fields payload =
      basicHeader tcid frameType bits
          (fields.length + payload.length + crcLen) ++
        (fields ++ (payload ++ encode2ByteLittle (crc16 crcInit
          (enhanceMessage tcid frameType bits fields payload)))) := by
  unfold enhanceWire sealed enhanceMessage
  simp only [append_assoc]

@[simp] theorem enhanceWire_length :
    (enhanceWire crcInit tcid frameType bits fields payload).length =
      4 + fields.length + payload.length + 2 := by
  rw [enhanceWire_eq]
  simp [basicHeader, encodeWord]
  omega

theorem byteAt_enhanceWire_tcid :
    byteAt (enhanceWire crcInit tcid frameType bits fields payload) 0 =
      tcid % 256 := by
  exact UInt8.toNat_ofNat'

theorem byteAt_enhanceWire_type (small : bits < 16) :
    byteAt (enhanceWire crcInit tcid frameType bits fields payload) 1 =
      frameType.code + 16 * bits := by
  have code : frameType.code < 16 := by cases frameType <;> decide
  exact UInt8.toNat_ofNat_of_lt' (by omega : frameType.code + 16 * bits < 256)

theorem wordAt_enhanceWire_length
    (short : fields.length + payload.length + crcLen < 65536) :
    wordAt (enhanceWire crcInit tcid frameType bits fields payload) 2 =
      fields.length + payload.length + crcLen := by
  rw [enhanceWire_eq]
  unfold basicHeader
  rw [append_assoc, wordAt_encodeWord _ _ _ (by rfl)]
  exact Nat.mod_eq_of_lt short

theorem enhanceWire_drop :
    (enhanceWire crcInit tcid frameType bits fields payload).drop
        (4 + fields.length) =
      payload ++ encode2ByteLittle (crc16 crcInit
        (enhanceMessage tcid frameType bits fields payload)) := by
  rw [enhanceWire_eq, ← append_assoc]
  exact drop_left' (by simp [basicHeader, encodeWord]; omega)

end Layout

/-- What holds of the parts of an enhanced frame: the fields fill the header of
the type, the CRC bit is set, there are no extensions, and the payload is one
that a channel takes. -/
structure Sound (frameType : FrameType) (bits : Nat) (fields payload : Bytes) :
    Prop where
  enhanced : frameType ≠ .basic
  header : 4 + fields.length = frameType.headerLen
  small : bits < 16
  plain : bits % 2 = 0
  crc : bits / 2 % 2 = 1
  short : payload.length ≤ maxPayloadLen

section Parsing

variable {crcInit : UInt16} {tcid : Nat} {frameType : FrameType} {bits : Nat}
  {fields payload : Bytes} {buff : Buff} {frame : Frame}

theorem FrameType.headerLen_le (frameType : FrameType) :
    frameType.headerLen ≤ 9 := by
  cases frameType <;> decide

section

variable (sound : Sound frameType bits fields payload) {frame : Frame}
include sound

theorem parseEnhanceFrame_enhanceWire
    (data : buff.data = enhanceWire crcInit tcid frameType bits fields
      payload) :
    parseEnhanceFrame frameType buff =
      .ok { frameType
            buff
            bits
            pi := byteAt buff.data 4
            headerLen := frameType.headerLen
            payload } := by
  have code : frameType.code < 16 := by cases frameType <;> decide
  have short := sound.short
  unfold maxPayloadLen at short
  have typeBits : byteAt buff.data 1 / 16 = bits := by
    rw [data, byteAt_enhanceWire_type _ _ _ _ _ _ sound.small]
    omega
  have length : buff.data.length - frameType.headerLen =
      payload.length + 2 := by
    rw [data, enhanceWire_length, ← sound.header]
    omega
  have behind : buff.data.drop frameType.headerLen = payload ++
      encode2ByteLittle (crc16 crcInit
        (enhanceMessage tcid frameType bits fields payload)) := by
    rw [data, ← sound.header, enhanceWire_drop]
  rw [parseEnhanceFrame_plain (by omega) (by rw [typeBits, sound.plain])
    (by rw [length]; unfold crcLen; omega), typeBits, length, behind,
    Nat.mod_eq_of_lt (by omega), crcLen, Nat.add_sub_cancel, take_left]

theorem checkFrameHeader_enhanceWire (type : frame.frameType = frameType)
    (data : frame.buff.data =
      enhanceWire crcInit tcid frameType bits fields payload) :
    checkFrameHeader frame = true := by
  have code : frameType.code < 16 := by cases frameType <;> decide
  have bit : byteAt frame.buff.data 1 / 32 % 2 = 1 := by
    have crc := sound.crc
    rw [data, byteAt_enhanceWire_type _ _ _ _ _ _ sound.small]
    omega
  have checked : (byteAt frame.buff.data 1 / 32 % 2 != 0) = true := by
    rw [bit]
    rfl
  have enhanced := sound.enhanced
  unfold checkFrameHeader
  rw [type]
  cases frameType with
  | basic => exact absurd rfl enhanced
  | _ => exact checked

theorem recvChecks_enhanceWire
    (data : buff.data = enhanceWire crcInit tcid frameType bits fields payload)
    (parsed : parseFrame frameType.code buff = .ok frame)
    (type : frame.frameType = frameType) (kept : frame.buff = buff)
    (same : frame.payload = payload) {mps : Nat} (fits : payload.length ≤ mps) :
    recvChecks mps buff = some frame := by
  have code : frameType.code < 16 := by cases frameType <;> decide
  have bound := frameType.headerLen_le
  have header := sound.header
  have short := sound.short
  unfold maxPayloadLen at short
  have length : buff.data.length = 4 + fields.length + payload.length + 2 := by
    rw [data, enhanceWire_length]
  have field : wordAt buff.data 2 = fields.length + payload.length + 2 := by
    rw [data]
    exact wordAt_enhanceWire_length _ _ _ _ _ _ (by unfold crcLen; omega)
  have named : byteAt buff.data 1 % 16 = frameType.code := by
    rw [data, byteAt_enhanceWire_type _ _ _ _ _ _ sound.small]
    omega
  have checked : checkFrameHeader frame = true :=
    checkFrameHeader_enhanceWire sound type (kept ▸ data)
  unfold recvChecks basicHeaderLen
  rw [if_neg (by omega), if_neg (by omega), named, parsed]
  simp [same, checked, Nat.not_lt.mpr fits]

theorem buffCheck_enhanceWire (data : frame.buff.data =
      enhanceWire crcInit tcid frameType bits fields payload)
    (header : frame.headerLen = frameType.headerLen) :
    ∃ rest, Stream.buffCheck crcInit frame = .ok rest ∧
      rest.data = payload := by
  let message := enhanceMessage tcid frameType bits fields payload
  have total : message.length = frameType.headerLen + payload.length := by
    have parts := sound.header
    simp [message, enhanceMessage, basicHeader, encodeWord]
    omega
  have whole : frame.buff.data =
      message ++ encode2ByteLittle (crc16 crcInit message) := data
  have length : frame.buff.data.length - crcLen = message.length := by
    rw [whole, length_append, encode2ByteLittle_length, crcLen,
      Nat.add_sub_cancel]
  have trimmed : frame.buff.trimSuffix crcLen = some { frame.buff with
      data := message
      tail := encode2ByteLittle (crc16 crcInit message) ++
        frame.buff.tail } := by
    unfold Buff.trimSuffix
    rw [if_neg (by simp [whole, crcLen]), length, whole, take_left,
      drop_left]
  unfold Stream.buffCheck
  rw [length, trimmed]
  dsimp only
  rw [whole, drop_left, decode2ByteLittle_encode, if_neg (by simp),
    header]
  unfold Buff.trimPrefix
  rw [if_neg (by dsimp only; omega)]
  refine ⟨_, rfl, ?_⟩
  have layout : message = (basicHeader tcid frameType bits
        (fields.length + payload.length + crcLen) ++ fields) ++ payload := by
    simp [message, enhanceMessage]
  rw [layout, ← sound.header]
  exact drop_left' (by simp [basicHeader, encodeWord]; omega)

end

theorem reCalculateCrcValue_enhanceWire (small : bits < 16) :
    reCalculateCrcValue crcInit (setFrameBit
          (enhanceWire crcInit tcid frameType bits fields payload)
          (byteAt (enhanceWire crcInit tcid frameType bits fields payload) 1 /
            16 ||| framePBit)) =
      some (enhanceWire crcInit tcid frameType (bits ||| framePBit) fields
        payload) := by
  have code : frameType.code < 16 := by cases frameType <;> decide
  have marked : bits ||| framePBit < 16 :=
    @Nat.or_lt_two_pow bits framePBit 4 small (by decide)
  have typeBits := byteAt_enhanceWire_type crcInit tcid frameType bits fields
    payload small
  have before : (frameType.code + 16 * bits) / 16 = bits := by omega
  have kept : (frameType.code + 16 * bits) % 16 = frameType.code := by omega
  unfold setFrameBit
  rw [typeBits, before, kept, Nat.mod_eq_of_lt marked]
  have rewritten : (enhanceWire crcInit tcid frameType bits fields
      payload).set 1 (UInt8.ofNat (frameType.code + 16 * (bits ||| framePBit))) =
        enhanceMessage tcid frameType (bits ||| framePBit) fields payload ++
          encode2ByteLittle (crc16 crcInit
            (enhanceMessage tcid frameType bits fields payload)) := rfl
  rw [rewritten, reCalculateCrcValue_append _ _ _ (encode2ByteLittle_length _)]
  rfl

section

variable (small : bits < 16)
  (data : frame.buff.data = enhanceWire crcInit tcid frameType bits fields
    payload)
include small data

theorem setBitForSendPolling_enhanceWire :
    (setBitForSendPolling crcInit frame).buff.data =
      enhanceWire crcInit tcid frameType (bits ||| framePBit) fields
        payload := by
  unfold setBitForSendPolling
  dsimp only
  rw [data, reCalculateCrcValue_enhanceWire small]

theorem setPbitForSendPolling_enhanceWire :
    (setPbitForSendPolling crcInit frame).buff.data =
      enhanceWire crcInit tcid frameType (bits ||| framePBit) fields
        payload := by
  have code : frameType.code < 16 := by cases frameType <;> decide
  have typeBits : byteAt frame.buff.data 1 / 16 = bits := by
    rw [data, byteAt_enhanceWire_type _ _ _ _ _ _ small]
    omega
  have marked : reCalculateCrcValue crcInit
      (setFrameBit frame.buff.data (bits ||| framePBit)) =
        some (enhanceWire crcInit tcid frameType (bits ||| framePBit) fields
          payload) := by
    rw [← @reCalculateCrcValue_enhanceWire crcInit tcid frameType bits fields
      payload small, ← data, typeBits]
  unfold setPbitForSendPolling
  dsimp only
  rw [typeBits]
  split
  next already =>
    rw [already]
    exact data
  · rw [marked]

end

end Parsing

/-- A frame passes the checks before those of the mode, the CRC tests of the
reliable and of the stream mode, and parses to the given fields. -/
structure Arrives (crcInit : UInt16) (mps tcid : Nat) (buff : Buff)
    (frame : Frame) : Prop where
  accepted : recvChecks mps buff = some frame
  addressed : byteAt buff.data 0 = tcid
  reliable : crc16 crcInit buff.data = 0
  streamed : ∃ rest, Stream.buffCheck crcInit frame = .ok rest ∧
    rest.data = frame.payload

def simplexFields (pi txSeq : Nat) (sar : Sar) : Bytes :=
  [UInt8.ofNat pi] ++ encodeWord (txSeq % 2 ^ 14 + 2 ^ 14 * sar.code)

def duplexFields (pi txSeq reqSeq : Nat) (sar : Sar) : Bytes :=
  simplexFields pi txSeq sar ++ encodeWord (reqSeq % 2 ^ 14)

def ackFields (reqSeq : Nat) (sBit : Bool) : Bytes :=
  encodeWord (reqSeq % 2 ^ 14 + 2 ^ 14 * (if sBit then 1 else 0))

def parsedSimplex (pi txSeq : Nat) (sar : Sar) (payload : Bytes) (bits : Nat)
    (buff : Buff) : Frame where
  frameType := .simplexFrag
  buff
  bits
  pi
  sar
  txSeq
  reqSeq := frameSeqInit
  headerLen := 7
  payload

def parsedDuplex (pi txSeq reqSeq : Nat) (sar : Sar) (payload : Bytes)
    (bits : Nat) (buff : Buff) : Frame where
  frameType := .duplexFrag
  buff
  bits
  pi
  sar
  txSeq
  reqSeq
  headerLen := 9
  payload

/-- What an acknowledgement parses to; `pi` is read from its other fields. -/
def parsedAck (reqSeq : Nat) (sBit : Bool) (bits : Nat) (buff : Buff) :
    Frame where
  frameType := .ack
  buff
  bits
  pi := byteAt buff.data 4
  reqSeq
  sBit
  headerLen := 6

section Types

variable {crcInit : UInt16} {tcid mps pi txSeq reqSeq bits : Nat} {sar : Sar}
  {sBit : Bool} {frameType : FrameType} {fields payload : Bytes} {buff : Buff}

theorem arrives_of_parsed (sound : Sound frameType bits fields payload)
    (data : buff.data = enhanceWire crcInit tcid frameType bits fields payload)
    {frame : Frame} (parsed : parseFrame frameType.code buff = .ok frame)
    (type : frame.frameType = frameType) (kept : frame.buff = buff)
    (header : frame.headerLen = frameType.headerLen)
    (same : frame.payload = payload) (fits : payload.length ≤ mps)
    (byte : tcid < 256) :
    Arrives crcInit mps tcid buff frame := by
  constructor
  · exact recvChecks_enhanceWire sound data parsed type kept same fits
  · rw [data, byteAt_enhanceWire_tcid, Nat.mod_eq_of_lt byte]
  · rw [data]
    exact crc16_sealed _ _
  · rw [same]
    exact buffCheck_enhanceWire sound (kept ▸ data) header

theorem wordAt_field (before after : Bytes) {value offset : Nat}
    (data : buff.data = enhanceWire crcInit tcid frameType bits
      (before ++ (encodeWord value ++ after)) payload)
    (place : 4 + before.length = offset) (small : value < 65536) :
    wordAt buff.data offset = value := by
  rw [data, enhanceWire_eq]
  generalize encode2ByteLittle _ = crc
  generalize List.length _ + _ + crcLen = length
  have regrouped : basicHeader tcid frameType bits length ++
      ((before ++ (encodeWord value ++ after)) ++ (payload ++ crc)) =
        (basicHeader tcid frameType bits length ++ before) ++
          (encodeWord value ++ (after ++ (payload ++ crc))) := by
    simp only [append_assoc]
  rw [regrouped, wordAt_encodeWord _ _ _ (by
    simp [basicHeader, encodeWord]
    omega)]
  exact Nat.mod_eq_of_lt small

theorem byteAt_field {byte : Nat}
    (data : buff.data = enhanceWire crcInit tcid frameType bits
      (UInt8.ofNat byte :: fields) payload) (small : byte < 256) :
    byteAt buff.data 4 = byte := by
  rw [data, enhanceWire_eq]
  exact UInt8.toNat_ofNat_of_lt' small

theorem sarWord_parts (sar : Sar) (numbered : txSeq < 2 ^ 14) :
    (txSeq % 2 ^ 14 + 2 ^ 14 * sar.code) % 2 ^ 14 = txSeq ∧
      (txSeq % 2 ^ 14 + 2 ^ 14 * sar.code) / 2 ^ 14 = sar.code := by
  omega

theorem arrives_simplex
    (sound : Sound .simplexFrag bits (simplexFields pi txSeq sar) payload)
    (data : buff.data = enhanceWire crcInit tcid .simplexFrag bits
      (simplexFields pi txSeq sar) payload)
    (numbered : txSeq < 2 ^ 14) (piByte : pi < 256) (byte : tcid < 256)
    (fits : payload.length ≤ mps) :
    Arrives crcInit mps tcid buff
      (parsedSimplex pi txSeq sar payload bits buff) := by
  have bound := sar.code_lt
  have word : wordAt buff.data 5 = txSeq % 2 ^ 14 + 2 ^ 14 * sar.code :=
    wordAt_field [UInt8.ofNat pi] [] data rfl (by omega)
  have protocol : byteAt buff.data 4 = pi := byteAt_field data piByte
  obtain ⟨number, state⟩ := sarWord_parts sar numbered
  have parsed : parseFrame FrameType.simplexFrag.code buff =
      .ok (parsedSimplex pi txSeq sar payload bits buff) := by
    unfold parseFrame
    rw [parseEnhanceFrame_enhanceWire sound data, word, protocol, number,
      state, Sar.ofCode_code]
    rfl
  exact arrives_of_parsed sound data parsed rfl rfl rfl rfl fits byte

theorem arrives_duplex
    (sound : Sound .duplexFrag bits (duplexFields pi txSeq reqSeq sar) payload)
    (data : buff.data = enhanceWire crcInit tcid .duplexFrag bits
      (duplexFields pi txSeq reqSeq sar) payload)
    (numbered : txSeq < 2 ^ 14) (asked : reqSeq < 2 ^ 14)
    (piByte : pi < 256) (byte : tcid < 256) (fits : payload.length ≤ mps) :
    Arrives crcInit mps tcid buff
      (parsedDuplex pi txSeq reqSeq sar payload bits buff) := by
  have bound := sar.code_lt
  have word : wordAt buff.data 5 = txSeq % 2 ^ 14 + 2 ^ 14 * sar.code :=
    wordAt_field [UInt8.ofNat pi] (encodeWord (reqSeq % 2 ^ 14)) data rfl
      (by omega)
  have answer : wordAt buff.data 7 = reqSeq % 2 ^ 14 :=
    wordAt_field (simplexFields pi txSeq sar) [] data rfl (by omega)
  have protocol : byteAt buff.data 4 = pi := byteAt_field data piByte
  obtain ⟨number, state⟩ := sarWord_parts sar numbered
  have parsed : parseFrame FrameType.duplexFrag.code buff =
      .ok (parsedDuplex pi txSeq reqSeq sar payload bits buff) := by
    unfold parseFrame
    rw [parseEnhanceFrame_enhanceWire sound data, word, answer, protocol,
      number, state, Sar.ofCode_code, Nat.mod_mod, Nat.mod_eq_of_lt asked]
    rfl
  exact arrives_of_parsed sound data parsed rfl rfl rfl rfl fits byte

theorem arrives_ack (sound : Sound .ack bits (ackFields reqSeq sBit) [])
    (data : buff.data = enhanceWire crcInit tcid .ack bits
      (ackFields reqSeq sBit) [])
    (asked : reqSeq < 2 ^ 14) (byte : tcid < 256) :
    Arrives crcInit mps tcid buff (parsedAck reqSeq sBit bits buff) := by
  have word : wordAt buff.data 4 =
      reqSeq % 2 ^ 14 + 2 ^ 14 * (if sBit then 1 else 0) :=
    wordAt_field [] [] data rfl (by cases sBit <;> simp <;> omega)
  have number : (reqSeq % 2 ^ 14 + 2 ^ 14 * (if sBit then 1 else 0)) %
      2 ^ 14 = reqSeq := by
    cases sBit <;> simp <;> omega
  have flag : ((reqSeq % 2 ^ 14 + 2 ^ 14 * (if sBit then 1 else 0)) /
      2 ^ 14 % 2 != 0) = sBit := by
    have quotient : (reqSeq % 2 ^ 14 + 2 ^ 14 * (if sBit then 1 else 0)) /
        2 ^ 14 = if sBit then 1 else 0 := by
      cases sBit <;> simp
    rw [quotient]
    cases sBit <;> rfl
  have parsed : parseFrame FrameType.ack.code buff =
      .ok (parsedAck reqSeq sBit bits buff) := by
    unfold parseFrame
    rw [parseEnhanceFrame_enhanceWire sound data, word, number, flag]
    rfl
  exact arrives_of_parsed sound data parsed rfl rfl rfl rfl (Nat.zero_le _) byte

end Types

/-- A frame is built, and arrives as built as well as after its polling bit
was set in either way, with nothing but this bit changed. -/
def RoundTrips (crcInit : UInt16) (mps tcid : Nat)
    (result : Except Errno Frame) (polled final : Bool)
    (parsed : Nat → Buff → Frame) : Prop :=
  ∃ built, result = .ok built ∧ Arrives crcInit mps tcid built.buff
      (parsed (enhanceBits polled final) built.buff) ∧
    Arrives crcInit mps tcid (setBitForSendPolling crcInit built).buff
      (parsed (enhanceBits true final)
        (setBitForSendPolling crcInit built).buff) ∧
    Arrives crcInit mps tcid (setPbitForSendPolling crcInit built).buff
      (parsed (enhanceBits true final)
        (setPbitForSendPolling crcInit built).buff)

variable {frameType : FrameType} {fields : Bytes} {crcInit : UInt16}

theorem sound_enhanceBits {payload : Bytes} (enhanced : frameType ≠ .basic)
    (header : 4 + fields.length = frameType.headerLen)
    (short : payload.length ≤ maxPayloadLen) (polled final : Bool) :
    Sound frameType (enhanceBits polled final) fields payload := by
  refine ⟨enhanced, header, ?_, ?_, ?_, short⟩ <;>
    cases polled <;> cases final <;> decide

theorem roundTrips_of_wire {mps tcid : Nat} {payload : Bytes}
    {polled final : Bool} {result : Except Errno Frame}
    {parsed : Nat → Buff → Frame} {built : Frame}
    (building : result = .ok built)
    (data : built.buff.data = enhanceWire crcInit tcid frameType
      (enhanceBits polled final) fields payload)
    (arrives : ∀ polled buff, buff.data = enhanceWire crcInit tcid frameType
      (enhanceBits polled final) fields payload →
      Arrives crcInit mps tcid buff (parsed (enhanceBits polled final) buff)) :
    RoundTrips crcInit mps tcid result polled final parsed := by
  have small : enhanceBits polled final < 16 := by
    cases polled <;> cases final <;> decide
  have marked : enhanceBits polled final ||| framePBit =
      enhanceBits true final := by
    cases polled <;> cases final <;> decide
  refine ⟨built, building, arrives _ _ data, arrives _ _ ?_, arrives _ _ ?_⟩
  · rw [← marked]
    exact setBitForSendPolling_enhanceWire small data
  · rw [← marked]
    exact setPbitForSendPolling_enhanceWire small data

theorem sealFrame_eq_ok {buff built : Buff} {header : Bytes}
    (sealing : sealFrame buff header crcInit = .ok built) :
    ∃ headed, buff.prepend header = some headed ∧
      headed.append (encode2ByteLittle (crc16 crcInit headed.data)) =
        some built := by
  unfold sealFrame at sealing
  split at sealing
  · cases sealing
  rename_i headed prepended
  split at sealing
  · cases sealing
  rename_i result appended
  cases sealing
  exact ⟨headed, prepended, appended⟩

theorem sealFrame_wire (crcInit : UInt16) (tcid : Nat) (frameType : FrameType)
    (bits : Nat) (fields : Bytes) {buff : Buff} {length : Nat}
    (headroom : 4 + fields.length ≤ buff.head.length)
    (tailroom : 2 ≤ buff.tail.length)
    (counted : length = fields.length + buff.data.length + crcLen) :
    ∃ built, sealFrame buff (basicHeader tcid frameType bits length ++ fields)
        crcInit = .ok built ∧
      built.data = enhanceWire crcInit tcid frameType bits fields
        buff.data := by
  have room : (basicHeader tcid frameType bits length ++ fields).length ≤
      buff.head.length := by
    simp [basicHeader, encodeWord]
    omega
  unfold sealFrame
  rw [Buff.prepend_eq_some room]
  dsimp only
  rw [Buff.append_eq_some (by simpa using tailroom)]
  refine ⟨_, rfl, ?_⟩
  unfold enhanceWire sealed enhanceMessage
  rw [counted]
  simp only [append_assoc]

section Builders

variable (frame : Frame) (tcid mps : Nat) (crcInit : UInt16)

section

variable (byte : tcid < 256) (piByte : frame.pi < 256)
  (numbered : frame.txSeq < 2 ^ 14)
include byte piByte numbered

theorem simplexFragFrame_roundTrips (headroom : 7 ≤ frame.buff.head.length)
    (tailroom : 2 ≤ frame.buff.tail.length)
    (short : frame.buff.data.length ≤ maxPayloadLen)
    (fits : frame.buff.data.length ≤ mps) :
    RoundTrips crcInit mps tcid (buildSimplexFragFrame frame tcid crcInit)
      (checkFrameBit frame.bits framePBit) false
      (parsedSimplex frame.pi frame.txSeq frame.sar frame.buff.data) := by
  have counted : frame.buff.dataLen + 7 - 4 + 2 =
      3 + frame.buff.data.length + crcLen := by
    unfold Buff.dataLen crcLen
    omega
  obtain ⟨buff, sealing, wire⟩ := sealFrame_wire crcInit tcid .simplexFrag
    (enhanceBits (checkFrameBit frame.bits framePBit) false)
    (simplexFields frame.pi frame.txSeq frame.sar) headroom tailroom counted
  have built : buildSimplexFragFrame frame tcid crcInit =
      .ok { frame with buff } := congrArg (Except.map _) sealing
  refine roundTrips_of_wire built wire ?_
  intro polled arrived same
  have sound := @sound_enhanceBits .simplexFrag
    (simplexFields frame.pi frame.txSeq frame.sar) frame.buff.data nofun rfl
    short polled false
  exact arrives_simplex sound same numbered piByte byte fits

theorem duplexFragFrame_roundTrips (asked : frame.reqSeq < 2 ^ 14)
    (headroom : 9 ≤ frame.buff.head.length)
    (tailroom : 2 ≤ frame.buff.tail.length)
    (short : frame.buff.data.length ≤ maxPayloadLen)
    (fits : frame.buff.data.length ≤ mps) :
    RoundTrips crcInit mps tcid (buildDuplexFragFrame frame tcid crcInit)
      (checkFrameBit frame.bits framePBit) (checkFrameBit frame.bits frameFBit)
      (parsedDuplex frame.pi frame.txSeq frame.reqSeq frame.sar
        frame.buff.data) := by
  have counted : frame.buff.dataLen + 9 - 4 + 2 =
      5 + frame.buff.data.length + crcLen := by
    unfold Buff.dataLen crcLen
    omega
  obtain ⟨buff, sealing, wire⟩ := sealFrame_wire crcInit tcid .duplexFrag
    (enhanceBits (checkFrameBit frame.bits framePBit)
      (checkFrameBit frame.bits frameFBit))
    (duplexFields frame.pi frame.txSeq frame.reqSeq frame.sar) headroom
    tailroom counted
  have built : buildDuplexFragFrame frame tcid crcInit =
      .ok { frame with buff } := congrArg (Except.map _) sealing
  refine roundTrips_of_wire built wire ?_
  intro polled arrived same
  have sound := @sound_enhanceBits .duplexFrag
    (duplexFields frame.pi frame.txSeq frame.reqSeq frame.sar) frame.buff.data
    nofun rfl short polled (checkFrameBit frame.bits frameFBit)
  exact arrives_duplex sound same numbered asked piByte byte fits

end

theorem ackFrame_roundTrips (byte : tcid < 256)
    (asked : frame.reqSeq < 2 ^ 14) :
    RoundTrips crcInit mps tcid (buildAckFrame frame tcid crcInit) false
      (checkFrameBit frame.bits frameFBit)
      (parsedAck frame.reqSeq frame.sBit) := by
  obtain ⟨buff, sealing, wire⟩ := @sealFrame_wire crcInit tcid .ack
    (enhanceBits false (checkFrameBit frame.bits frameFBit))
    (ackFields frame.reqSeq frame.sBit) (.newWithReserve 0) 4
    (by decide : 6 ≤ 14) (by decide : 2 ≤ 2) rfl
  have built : buildAckFrame frame tcid crcInit = .ok { frame with buff } := by
    unfold buildAckFrame
    exact congrArg (Except.map _) sealing
  refine roundTrips_of_wire built wire ?_
  intro polled arrived same
  have sound := @sound_enhanceBits .ack
    (ackFields frame.reqSeq frame.sBit) [] nofun rfl (Nat.zero_le _) polled
    (checkFrameBit frame.bits frameFBit)
  exact arrives_ack sound same asked byte

theorem packStreamFrame_wire (frameTxSeq : Nat)
    (headroom : 7 ≤ frame.buff.head.length)
    (tailroom : 2 ≤ frame.buff.tail.length) :
    ∃ buff, (Stream.packStreamFrame crcInit frameTxSeq tcid frame.pi
        frame.buff frame.sar).2 = .ok buff ∧
      buff.data = enhanceWire crcInit tcid .simplexFrag frameCBit
        (simplexFields frame.pi (getNextFrameSeq frameTxSeq) frame.sar)
        frame.buff.data := by
  have counted : frame.buff.dataLen + 7 - 4 + 2 =
      3 + frame.buff.data.length + crcLen := by
    unfold Buff.dataLen crcLen
    omega
  obtain ⟨buff, sealing, wire⟩ := sealFrame_wire crcInit tcid .simplexFrag
    frameCBit (simplexFields frame.pi (getNextFrameSeq frameTxSeq) frame.sar)
    headroom tailroom counted
  refine ⟨buff, ?_, wire⟩
  obtain ⟨headed, prepended, appended⟩ := sealFrame_eq_ok sealing
  unfold simplexFields at prepended
  rw [← append_assoc] at prepended
  unfold Stream.packStreamFrame
  dsimp only [FrameType.headerLen, basicHeaderLen, crcLen]
  rw [prepended]
  dsimp only
  rw [appended]

theorem packStreamFrame_roundTrips (frameTxSeq : Nat) (byte : tcid < 256)
    (piByte : frame.pi < 256) (numbered : frameTxSeq < 2 ^ 14)
    (headroom : 7 ≤ frame.buff.head.length)
    (tailroom : 2 ≤ frame.buff.tail.length)
    (short : frame.buff.data.length ≤ maxPayloadLen)
    (fits : frame.buff.data.length ≤ mps) :
    RoundTrips crcInit mps tcid
      ((Stream.packStreamFrame crcInit frameTxSeq tcid frame.pi frame.buff
        frame.sar).2.map fun buff => { frame with buff }) false false
      (parsedSimplex frame.pi (getNextFrameSeq frameTxSeq) frame.sar
        frame.buff.data) := by
  let txSeq := getNextFrameSeq frameTxSeq
  have following : txSeq < 2 ^ 14 := by
    unfold txSeq getNextFrameSeq frameSeqMax
    split <;> omega
  obtain ⟨buff, packed, wire⟩ := packStreamFrame_wire frame tcid crcInit
    frameTxSeq headroom tailroom
  have built := congrArg
    (Except.map fun buff : Buff => { frame with buff }) packed
  refine roundTrips_of_wire built wire ?_
  intro polled arrived same
  have sound := @sound_enhanceBits .simplexFrag
    (simplexFields frame.pi txSeq frame.sar) frame.buff.data nofun rfl short
    polled false
  exact arrives_simplex sound same following piByte byte fits

def basicPi (tcid pi : Nat) : Bytes :=
  if tcid > tcidFtcRfuEnd then [UInt8.ofNat pi] else []

theorem parseBasicFrame_wire {buff : Buff} {length pi : Nat}
    {payload : Bytes} (byte : tcid < 256) (piByte : pi < 256)
    (data : buff.data =
      basicHeader tcid .basic 0 length ++ (basicPi tcid pi ++ payload)) :
    parseBasicFrame buff =
      .ok { frameType := .basic
            buff
            pi := if tcid ≤ tcidFtcRfuEnd then 0 else pi
            headerLen := if tcid ≤ tcidFtcRfuEnd then 4 else 5
            payload } := by
  have addressed : byteAt buff.data 0 = tcid := by
    rw [data]
    exact UInt8.toNat_ofNat_of_lt' byte
  unfold parseBasicFrame
  dsimp only
  rw [addressed]
  unfold basicPi at data
  by_cases fixed : tcid ≤ tcidFtcRfuEnd
  · rw [if_neg (Nat.not_lt.mpr fixed)] at data
    rw [if_pos fixed, if_pos fixed, if_pos fixed, data]
    rfl
  · rw [if_pos (Nat.lt_of_not_le fixed)] at data
    have protocol : byteAt buff.data 4 = pi := by
      rw [data]
      exact UInt8.toNat_ofNat_of_lt' piByte
    have long : ¬ buff.data.length < basicHeaderLen + 1 := by
      rw [data]
      simp [basicHeader, encodeWord, basicHeaderLen]
    rw [if_neg fixed, if_neg fixed, if_neg fixed, if_neg long, protocol, data]
    rfl

/-- A basic frame is built and arrives; it carries its protocol only outside
the fixed channels. -/
def BasicRoundTrips (frame : Frame) (tcid mps : Nat) : Prop :=
  ∃ built, buildBasicFrame frame tcid = .ok built ∧
    byteAt built.buff.data 0 = tcid ∧
    recvChecks mps built.buff =
      some { frameType := .basic
             buff := built.buff
             pi := if tcid ≤ tcidFtcRfuEnd then 0 else frame.pi
             headerLen := if tcid ≤ tcidFtcRfuEnd then 4 else 5
             payload := frame.buff.data }

theorem basicFrame_roundTrips (byte : tcid < 256) (piByte : frame.pi < 256)
    (headroom : 5 ≤ frame.buff.head.length)
    (short : frame.buff.data.length ≤ maxPayloadLen)
    (fits : frame.buff.data.length ≤ mps) :
    BasicRoundTrips frame tcid mps := by
  have piLength : (basicPi tcid frame.pi).length ≤ 1 := by
    unfold basicPi
    split <;> simp
  let length := frame.buff.data.length + (basicPi tcid frame.pi).length
  have room : (basicHeader tcid .basic 0 length ++
      basicPi tcid frame.pi).length ≤ frame.buff.head.length := by
    simp [basicHeader, encodeWord]
    omega
  have prepended := Buff.prepend_eq_some room
  generalize grown : frame.buff.prepend _ = result at prepended
  rw [prepended] at grown
  generalize shape : (Buff.mk _ _ _) = buff at grown
  have data : buff.data = basicHeader tcid .basic 0 length ++
      (basicPi tcid frame.pi ++ frame.buff.data) := by
    rw [← shape]
    exact append_assoc _ _ _
  have built : buildBasicFrame frame tcid = .ok { frame with buff } := by
    have bytes : (if tcid > tcidFtcRfuEnd then [UInt8.ofNat frame.pi] else []) =
        basicPi tcid frame.pi := rfl
    have counted : frame.buff.dataLen + (basicPi tcid frame.pi).length =
        length := rfl
    unfold buildBasicFrame
    dsimp only
    rw [bytes, counted, grown]
  refine ⟨{ frame with buff }, built, ?_, ?_⟩
  · change byteAt buff.data 0 = tcid
    rw [data]
    exact UInt8.toNat_ofNat_of_lt' byte
  · unfold maxPayloadLen at short
    have total : buff.data.length = 4 + length := by
      rw [data]
      simp [basicHeader, encodeWord, length]
      omega
    have field : wordAt buff.data 2 = length := by
      rw [data]
      unfold basicHeader
      rw [append_assoc, wordAt_encodeWord _ _ _ (by rfl)]
      exact Nat.mod_eq_of_lt (by omega)
    have typeByte : byteAt buff.data 1 = 0 := by
      rw [data]
      rfl
    have basic : parseFrame (byteAt buff.data 1 % 16) buff =
        parseBasicFrame buff := by
      rw [typeByte]
      rfl
    dsimp only
    unfold recvChecks basicHeaderLen
    rw [if_neg (by omega), if_neg (by omega), basic,
      parseBasicFrame_wire tcid byte piByte data]
    simp [checkFrameHeader, typeByte, Nat.not_lt.mpr fits]

/-- What any of the builders builds arrives with its fields, and its payload,
also after the polling bit was set. -/
theorem frames_roundTrip (frameTxSeq : Nat) (byte : tcid < 256)
    (piByte : frame.pi < 256) (numbered : frame.txSeq < 2 ^ 14)
    (asked : frame.reqSeq < 2 ^ 14) (streamed : frameTxSeq < 2 ^ 14)
    (headroom : 9 ≤ frame.buff.head.length)
    (tailroom : 2 ≤ frame.buff.tail.length)
    (short : frame.buff.data.length ≤ maxPayloadLen)
    (fits : frame.buff.data.length ≤ mps) :
    BasicRoundTrips frame tcid mps ∧
    RoundTrips crcInit mps tcid (buildSimplexFragFrame frame tcid crcInit)
      (checkFrameBit frame.bits framePBit) false
      (parsedSimplex frame.pi frame.txSeq frame.sar frame.buff.data) ∧
    RoundTrips crcInit mps tcid (buildDuplexFragFrame frame tcid crcInit)
      (checkFrameBit frame.bits framePBit) (checkFrameBit frame.bits frameFBit)
      (parsedDuplex frame.pi frame.txSeq frame.reqSeq frame.sar
        frame.buff.data) ∧
    RoundTrips crcInit mps tcid (buildAckFrame frame tcid crcInit) false
      (checkFrameBit frame.bits frameFBit) (parsedAck frame.reqSeq frame.sBit) ∧
    RoundTrips crcInit mps tcid
      ((Stream.packStreamFrame crcInit frameTxSeq tcid frame.pi frame.buff
        frame.sar).2.map fun buff => { frame with buff }) false false
      (parsedSimplex frame.pi (getNextFrameSeq frameTxSeq) frame.sar
        frame.buff.data) := by
  have simplexRoom : 7 ≤ frame.buff.head.length := by omega
  refine ⟨?_, ?_, ?_, ?_, ?_⟩
  · exact basicFrame_roundTrips frame tcid mps byte piByte (by omega) short
      fits
  · exact simplexFragFrame_roundTrips frame tcid mps crcInit byte piByte
      numbered simplexRoom tailroom short fits
  · exact duplexFragFrame_roundTrips frame tcid mps crcInit byte piByte
      numbered asked headroom tailroom short fits
  · exact ackFrame_roundTrips frame tcid mps crcInit byte asked
  · exact packStreamFrame_roundTrips frame tcid mps crcInit frameTxSeq byte
      piByte streamed simplexRoom tailroom short fits

end Builders

def threeBytes : Frame where
  frameType := .simplexFrag
  buff := .ofData [1, 2, 3]
  bits := frameCBit
  pi := 5
  txSeq := 16383
  reqSeq := 8192

theorem frames_roundTrip_threeBytes :
    BasicRoundTrips threeBytes 64 100 ∧
      RoundTrips 0xABCD 100 64 (buildAckFrame threeBytes 64 0xABCD) false false
        (parsedAck 8192 false) := by
  have whole := frames_roundTrip threeBytes 64 100 0xABCD 7 (by decide)
    (by decide) (by decide) (by decide) (by decide) (by decide) (by decide)
    (by decide) (by decide)
  exact ⟨whole.1, whole.2.2.2.1⟩

/-- On a fixed channel the protocol of a basic frame does not come back. -/
theorem basicFrame_dropsPi :
    ∃ built parsed, buildBasicFrame threeBytes 1 = .ok built ∧
      recvChecks 100 built.buff = some parsed ∧
      parsed.pi ≠ threeBytes.pi := by
  obtain ⟨built, building, -, accepted⟩ := basicFrame_roundTrips threeBytes 1
    100 (by decide) (by decide) (by decide) (by decide) (by decide)
  refine ⟨built, _, building, accepted, ?_⟩
  change 0 ≠ 5
  decide

end NearLink.Dtap
