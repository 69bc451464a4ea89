import NearLink.Crc16

/-!
# DTAP frames

Frame types, the parsed view of a frame, and the header codec of
`dtap_frame.h`, `dtap_frame.c`, `dtap_frame_basic.c` and the parse and build
functions of `dtap_frame_enhance.c`.  Bit fields are laid out from the least
significant bit and 16-bit fields low byte first, as the packed structures of
the source are on the little-endian targets of the stack.
-/

namespace NearLink.Dtap

open Sdf

/-- Return codes of the DTAP functions modelled here. -/
inductive Errno where
  | success
  | transInvalidData
  | transFindChannelErr
  | transExceedMtuErr
  | transReliableTxWindowFull
  | transReliableTransChannelFull
  | transReliableInvalidFrameNum
  | transReliableInvalidMps
  | transReliableFragmentErr
  | transReliableCopyBuffErr
  | transReliableCopyFrameErr
  | transReliableFindFrameErr
  | transReliableReachMaxReTxCntErr
  | transBasicSendPrependErr
  | frameInvalidFrameType
  | frameInvalidBuffLen
  | frameInvalidExtHdrLen
  | frameInvalidExtNum
  | frameInvalidExtLen
  | frameSendDliSendErr
  | basicFrameInvalidPiLen
  | enhancedFrameHdrLenTooShort
  | enhancedFrameLengthTooShort
  | enhancedFrameSduHdrLenTooShort
  | enhancedFrameSduLenTooShort
  | enhancedFrameNotSupportErr
  | enhancedFramePrependErr
  | enhancedFrameAppendErr
  | enhancedFrameBuffNewErr
  | enhancedFrameTrimPrefixErr
  | enhancedFrameTrimSuffixErr
  | enhancedFrameDupFirstFragFrame
  | enhancedFrameNoFirstFragFrame
  | enhancedFrameFragmentFrameLenErr
  | enhancedFrameUpdateFragFrameErr
  | transExceedMaxErr
  | transMallocErr
  | transUnsupported
  | transStreamRxFull
  | transStreamRecvTrimSufErr
  | transStreamRecvCrcErr
  | transStreamRecvTrimPreErr
  | transStreamRecvDuplicatedErr
  | transStreamPackHeaderErr
  | transStreamPackCrcErr
  deriving DecidableEq

inductive FrameType where
  | basic
  | simplexAggr
  | simplexFrag
  | duplexAggr
  | duplexFrag
  | ack
  deriving DecidableEq

namespace FrameType

/-- Value of the 4-bit `frameType` field. -/
def code : FrameType → Nat
  | .basic => 0
  | .simplexAggr => 1
  | .simplexFrag => 2
  | .duplexAggr => 3
  | .duplexFrag => 4
  | .ack => 5

/-- `getHeaderLen` of the frame context. -/
def headerLen : FrameType → Nat
  | .basic => 4
  | .simplexAggr => 7
  | .simplexFrag => 7
  | .duplexAggr => 9
  | .duplexFrag => 9
  | .ack => 6

end FrameType

/-- `DTAP_GetFrameCtx`: the measurement frame types have a code but no
registered context. -/
def getFrameCtx : Nat → Option FrameType
  | 0 => some .basic
  | 1 => some .simplexAggr
  | 2 => some .simplexFrag
  | 3 => some .duplexAggr
  | 4 => some .duplexFrag
  | 5 => some .ack
  | _ => none

inductive Sar where
  | unseg
  | first
  | mid
  | last
  deriving DecidableEq

namespace Sar

def code : Sar → Nat
  | .unseg => 0
  | .first => 1
  | .mid => 2
  | .last => 3

def ofCode : Nat → Sar
  | 0 => .unseg
  | 1 => .first
  | 2 => .mid
  | _ => .last

end Sar

def crcLen : Nat := 2

def basicHeaderLen : Nat := 4

def maxFragmentNum : Nat := 128

def extensionsMaxNum : Nat := 16

/-- `DTAP_FRAME_SEQ_INIT`, the `reqSeq` of frames that carry none. -/
def frameSeqInit : Nat := 0xFFFF

def frameSeqMax : Nat := 0x3FFF

def frameSeqSignMask : Nat := 0x2000

def tcidFtcRfuEnd : Nat := 0x1D

/-- The indicator bits `o`, `c`, `p` and `f` as numbers of the `bits` set. -/
def frameOBit : Nat := 1
def frameCBit : Nat := 2
def framePBit : Nat := 4
def frameFBit : Nat := 8

def checkFrameBit (bits bit : Nat) : Bool :=
  (bits &&& bit) != 0

/-- `DTAP_Frame_S`.  The union of the acknowledgement and the enhanced part is
flattened, and `payload` holds the `payloadLen` bytes behind the payload
pointer.  `DTAP_CopyFrame` copies that pointer and not the bytes: a queued
aggregate frame that is read again after the receive call that brought it has
freed its buffer still finds them here. -/
structure Frame where
  frameType : FrameType
  buff : Buff
  bits : Nat := 0
  pi : Nat := 0
  reTxCnt : Nat := 0
  sar : Sar := .unseg
  txSeq : Nat := 0
  reqSeq : Nat := 0
  sBit : Bool := false
  headerLen : Nat := 0
  extensionLen : Nat := 0
  payload : Bytes := []
  deriving DecidableEq

def byteAt (data : Bytes) (offset : Nat) : Nat :=
  (data.getD offset 0).toNat

/-- The 16-bit little-endian field at an offset of the frame header. -/
def wordAt (data : Bytes) (offset : Nat) : Nat :=
  byteAt data offset + 256 * byteAt data (offset + 1)

/-- The loop of `DTAP_ParseExtension`: `offset` is the position of the next
extension relative to the extension header, and the result is the total
length. -/
def parseExtensionLoop (data : Bytes) (dataLen : Nat) :
    Nat → Nat → Except Errno Nat
  | 0, extensionLen => .ok extensionLen
  | count + 1, extensionLen =>
    if dataLen < extensionLen + 2 then .error .frameInvalidExtLen
    else
      let length := byteAt data (extensionLen + 1)
      if dataLen < extensionLen + 2 + length then .error .frameInvalidExtLen
      else parseExtensionLoop data dataLen count (extensionLen + 2 + length)

/-- `DTAP_ParseExtension`, on the bytes behind the fixed header. -/
def parseExtension (rest : Bytes) : Except Errno Nat :=
  let dataLen := rest.length % 65536
  if dataLen < 1 then .error .frameInvalidExtHdrLen
  else if byteAt rest 0 > extensionsMaxNum then .error .frameInvalidExtNum
  else parseExtensionLoop rest dataLen (byteAt rest 0) 1

def parseEnhanceFrame (frameType : FrameType) (buff : Buff) :
    Except Errno Frame :=
  let data := buff.data
  let headerLen := frameType.headerLen
  if data.length < headerLen then .error .enhancedFrameHdrLenTooShort
  else
    let typeBits := byteAt data 1
    let extension :=
      if typeBits / 16 % 2 != 0 then parseExtension (data.drop headerLen)
      else .ok 0
    match extension with
    | .error errno => .error errno
    | .ok extensionLen =>
      let payloadLen := (data.length - headerLen - extensionLen) % 65536
      if payloadLen < crcLen then .error .enhancedFrameLengthTooShort
      else .ok
        { frameType := frameType
          buff := buff
          bits := typeBits / 16
          pi := byteAt data 4
          headerLen := headerLen
          extensionLen := extensionLen
          payload :=
            (data.drop (headerLen + extensionLen)).take
              (payloadLen - crcLen) }

def parseBasicFrame (buff : Buff) : Except Errno Frame :=
  let data := buff.data
  if byteAt data 0 ≤ tcidFtcRfuEnd then
    .ok { frameType := .basic, buff := buff, headerLen := basicHeaderLen
          payload := data.drop basicHeaderLen }
  else if data.length < basicHeaderLen + 1 then
    .error .basicFrameInvalidPiLen
  else
    .ok { frameType := .basic, buff := buff, pi := byteAt data 4
          headerLen := basicHeaderLen + 1
          payload := data.drop (basicHeaderLen + 1) }

/-- `DTAP_ParseFrame` with the `parseFrame` of each registered context. -/
def parseFrame (frameType : Nat) (buff : Buff) : Except Errno Frame :=
  match getFrameCtx frameType with
  | none => .error .frameInvalidFrameType
  | some .basic => parseBasicFrame buff
  | some .simplexAggr =>
    (parseEnhanceFrame .simplexAggr buff).map fun frame =>
      { frame with
        txSeq := wordAt buff.data 5 % 2 ^ 14
        reqSeq := frameSeqInit }
  | some .simplexFrag =>
    (parseEnhanceFrame .simplexFrag buff).map fun frame =>
      { frame with
        sar := .ofCode (wordAt buff.data 5 / 2 ^ 14)
        txSeq := wordAt buff.data 5 % 2 ^ 14
        reqSeq := frameSeqInit }
  | some .duplexAggr =>
    (parseEnhanceFrame .duplexAggr buff).map fun frame =>
      { frame with
        txSeq := wordAt buff.data 5 % 2 ^ 14
        reqSeq := wordAt buff.data 7 % 2 ^ 14 }
  | some .duplexFrag =>
    (parseEnhanceFrame .duplexFrag buff).map fun frame =>
      { frame with
        sar := .ofCode (wordAt buff.data 5 / 2 ^ 14)
        txSeq := wordAt buff.data 5 % 2 ^ 14
        reqSeq := wordAt buff.data 7 % 2 ^ 14 }
  | some .ack =>
    (parseEnhanceFrame .ack buff).map fun frame =>
      { frame with
        reqSeq := wordAt buff.data 4 % 2 ^ 14
        sBit := wordAt buff.data 4 / 2 ^ 14 % 2 != 0 }

/-- `checkFrameHeader` of the frame contexts: a basic frame has all four
indicator bits clear, an enhanced frame has the CRC bit set. -/
def checkFrameHeader (frame : Frame) : Bool :=
  match frame.frameType with
  | .basic => byteAt frame.buff.data 1 / 16 == 0
  | _ => byteAt frame.buff.data 1 / 32 % 2 != 0

def encodeWord (value : Nat) : Bytes :=
  [UInt8.ofNat value, UInt8.ofNat (value / 256)]

/-- The four bytes of `DTAP_BasicHeader_S`. -/
def basicHeader (tcid : Nat) (frameType : FrameType) (bits length : Nat) :
    Bytes :=
  [UInt8.ofNat tcid, UInt8.ofNat (frameType.code + 16 * bits)] ++
    encodeWord length

/-- The indicator bits an enhanced frame is built with: the CRC bit is always
set, and the `p` and `f` bits are copied from the frame. -/
def enhanceBits (pBit fBit : Bool) : Nat :=
  frameCBit + (if pBit then framePBit else 0) + (if fBit then frameFBit else 0)

/-- Prepend a finished header and append the CRC of everything before it.
This is the common tail of the enhanced build functions. -/
def sealFrame (buff : Buff) (header : Bytes) (crcInit : UInt16) :
    Except Errno Buff :=
  match buff.prepend header with
  | none => .error .enhancedFramePrependErr
  | some headed =>
    match headed.append (encode2ByteLittle (crc16 crcInit headed.data)) with
    | none => .error .enhancedFrameAppendErr
    | some sealed => .ok sealed

def buildSimplexFragFrame (frame : Frame) (tcid : Nat) (crcInit : UInt16) :
    Except Errno Frame :=
  let length := frame.buff.dataLen + FrameType.headerLen .simplexFrag -
    basicHeaderLen + crcLen
  let header :=
    basicHeader tcid .simplexFrag
        (enhanceBits (checkFrameBit frame.bits framePBit) false) length ++
      [UInt8.ofNat frame.pi] ++
      encodeWord (frame.txSeq % 2 ^ 14 + 2 ^ 14 * frame.sar.code)
  (sealFrame frame.buff header crcInit).map fun buff =>
    { frame with buff := buff }

def buildDuplexFragFrame (frame : Frame) (tcid : Nat) (crcInit : UInt16) :
    Except Errno Frame :=
  let length := frame.buff.dataLen + FrameType.headerLen .duplexFrag -
    basicHeaderLen + crcLen
  let header :=
    basicHeader tcid .duplexFrag
        (enhanceBits (checkFrameBit frame.bits framePBit)
          (checkFrameBit frame.bits frameFBit)) length ++
      [UInt8.ofNat frame.pi] ++
      encodeWord (frame.txSeq % 2 ^ 14 + 2 ^ 14 * frame.sar.code) ++
      encodeWord (frame.reqSeq % 2 ^ 14)
  (sealFrame frame.buff header crcInit).map fun buff =>
    { frame with buff := buff }

/-- `DTAP_BuildAckFrame`, which allocates the buffer itself. -/
def buildAckFrame (frame : Frame) (tcid : Nat) (crcInit : UInt16) :
    Except Errno Frame :=
  let buff := Buff.newWithReserve 0
  let length := FrameType.headerLen .ack - basicHeaderLen + crcLen
  let header :=
    basicHeader tcid .ack
        (enhanceBits false (checkFrameBit frame.bits frameFBit)) length ++
      encodeWord (frame.reqSeq % 2 ^ 14 + 2 ^ 14 * (if frame.sBit then 1 else 0))
  (sealFrame buff header crcInit).map fun buff =>
    { frame with buff := buff }

/-- `DTAP_BuildBasicFrame`: fixed channels omit the protocol byte. -/
def buildBasicFrame (frame : Frame) (tcid : Nat) : Except Errno Frame :=
  let piBytes := if tcid > tcidFtcRfuEnd then [UInt8.ofNat frame.pi] else []
  let length := frame.buff.dataLen + piBytes.length
  match frame.buff.prepend (basicHeader tcid .basic 0 length ++ piBytes) with
  | none => .error .transBasicSendPrependErr
  | some buff => .ok { frame with buff := buff }

/-- `buildFrame` of the registered contexts; the aggregate frames cannot be
built. -/
def buildFrame (frame : Frame) (tcid : Nat) (crcInit : UInt16) :
    Except Errno Frame :=
  match frame.frameType with
  | .basic => buildBasicFrame frame tcid
  | .simplexAggr | .duplexAggr => .error .enhancedFrameNotSupportErr
  | .simplexFrag => buildSimplexFragFrame frame tcid crcInit
  | .duplexFrag => buildDuplexFragFrame frame tcid crcInit
  | .ack => buildAckFrame frame tcid crcInit

/-- `DTAP_SetFrameBit`: overwrite the indicator bits of the second header
byte. -/
def setFrameBit (data : Bytes) (bits : Nat) : Bytes :=
  data.set 1 (UInt8.ofNat (byteAt data 1 % 16 + 16 * (bits % 16)))

def reCalculateCrcValue (crcInit : UInt16) (data : Bytes) : Option Bytes :=
  if data.length < crcLen then none
  else
    let message := data.take (data.length - crcLen)
    some (message ++ encode2ByteLittle (crc16 crcInit message))

def setBitForSendPolling (crcInit : UInt16) (frame : Frame) : Frame :=
  let oriBits := byteAt frame.buff.data 1 / 16
  let marked := setFrameBit frame.buff.data (oriBits ||| framePBit)
  match reCalculateCrcValue crcInit marked with
  | none => { frame with buff := { frame.buff with data := marked } }
  | some data => { frame with buff := { frame.buff with data := data } }

/-- `DTAP_SetPbitForSendPolling`, which leaves a frame alone when its polling
bit is already set and restores the bits when the CRC cannot be rewritten. -/
def setPbitForSendPolling (crcInit : UInt16) (frame : Frame) : Frame :=
  let oriBits := byteAt frame.buff.data 1 / 16
  if oriBits ||| framePBit = oriBits then frame
  else
    match reCalculateCrcValue crcInit
        (setFrameBit frame.buff.data (oriBits ||| framePBit)) with
    | none => frame
    | some data => { frame with buff := { frame.buff with data := data } }

end NearLink.Dtap
