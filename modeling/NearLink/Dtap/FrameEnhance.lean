import NearLink.Dtap.Frame

/-!
# Fragmentation, reassembly and aggregation

The payload side of `dtap_frame_enhance.c`: cutting an SDU into frames,
collecting fragments back into an SDU, and unpacking aggregate frames.  What
the channel does to the world around it is recorded in `Host`; outcomes of the
world (allocations, the scheduler, timers) are read from an oracle `Env`, one
answer for each call.
-/

namespace NearLink.Dtap

open Sdf

/-- Outcomes of the calls that leave the module, by call number. -/
structure Env where
  /-- `SDF_MemZalloc` and everything built on it -/
  alloc : Nat → Bool
  /-- `DTAP_DataSendWithPriority` -/
  dataSend : Nat → Bool
  timerAdd : Nat → Bool
  /-- `CM_FindTransChannelByLocalTcid` -/
  findTransChannel : Nat → Bool
  /-- whether a `transChannelStatusChangeCbk` is registered -/
  statusCbk : Bool

structure DataInfo where
  pi : Nat
  lcid : Nat
  tcid : Nat
  deriving DecidableEq

/-- Answer of a receive callback: `full` stands for
`DTAP_TRANS_RELIABLE_TRANS_CHANNEL_FULL`, `taken` for every other value. -/
inductive RecvAnswer where
  | taken
  | full
  deriving DecidableEq

/-- A receive callback answers by the number of calls made before, the frame
information and the data. -/
abbrev RecvCb := Nat → DataInfo → Bytes → RecvAnswer

structure Upcall where
  info : DataInfo
  sdu : Bytes
  answer : RecvAnswer

structure Host where
  tick : Nat := 0
  up : List Upcall := []
  out : List Bytes := []
  /-- `CM_DynTransChannelReleaseReq` calls -/
  releases : Nat := 0
  /-- results reported through `transChannelStatusChangeCbk` -/
  status : List Nat := []

namespace Host

def skip (host : Host) (count : Nat) : Host :=
  { host with tick := host.tick + count }

def recv (host : Host) (recvCb : RecvCb) (info : DataInfo) (sdu : Bytes) :
    RecvAnswer × Host :=
  let answer := recvCb host.up.length info sdu
  (answer, { host with
    up := host.up ++ [{ info := info, sdu := sdu, answer := answer }] })

def delivered (host : Host) : List (DataInfo × Bytes) :=
  (host.up.filter fun call => call.answer == .taken).map fun call =>
    (call.info, call.sdu)

end Host

/-- All of the next `count` allocations succeed. -/
def Env.allocAll (env : Env) (host : Host) (count : Nat) : Bool :=
  (List.range count).all fun index => env.alloc (host.tick + index)

/-- The loop of `DTAP_RecvAggregateFrame`.  `rest` is what lies between the
current SDU and the end of the payload; the recursion is on a bound for its
length.  When the callback answers `full` the payload pointer goes back to the
SDU, but the length that is stored has already lost the SDU header. -/
def recvAggregateLoop (env : Env) (recvCb : RecvCb) (info : DataInfo) :
    Nat → Frame → Bytes → Host → Errno × Frame × Host
  | 0, frame, _, host => (.success, frame, host)
  | bound + 1, frame, rest, host =>
    if rest.length < 2 then (.enhancedFrameSduHdrLenTooShort, frame, host)
    else
      let sduLen := wordAt rest 0
      let body := rest.drop 2
      if sduLen = 0 ∨ body.length < sduLen then
        (.enhancedFrameSduLenTooShort, frame, host)
      else if !env.alloc host.tick then
        (.enhancedFrameBuffNewErr, frame, host.skip 1)
      else
        match (host.skip 1).recv recvCb info (body.take sduLen) with
        | (.full, host) =>
          (.transReliableTransChannelFull,
            { frame with payload := rest.take body.length }, host)
        | (.taken, host) =>
          if (body.drop sduLen).length > 0 then
            recvAggregateLoop env recvCb info bound frame
              (body.drop sduLen) host
          else (.success, frame, host)

def recvAggregateFrame (env : Env) (frame : Frame) (info : DataInfo)
    (recvCb : Option RecvCb) (host : Host) : Errno × Frame × Host :=
  match recvCb with
  | none => (.success, frame, host)
  | some recvCb =>
    if frame.payload.length = 0 then (.success, frame, host)
    else
      recvAggregateLoop env recvCb info frame.payload.length frame
        frame.payload host

def maxFragTotalLen : Nat := 65535

def updateFragmentFrame (env : Env) (buffs : Bytes) (buff : Bytes)
    (host : Host) : Errno × Option Bytes × Host :=
  if buffs.length + buff.length > maxFragTotalLen then
    (.enhancedFrameFragmentFrameLenErr, none, host)
  else if !env.alloc host.tick then
    (.enhancedFrameUpdateFragFrameErr, none, host.skip 1)
  else (.success, some (buffs ++ buff), host.skip 1)

/-- The `switch` of `DTAP_RecvFragmentFrame`, once the frame buffer has been
cut down to the payload. -/
def recvFragmentPayload (env : Env) (buffs : Option Bytes) (sar : Sar)
    (payload : Bytes) (info : DataInfo) (recvCb : Option RecvCb) (host : Host) :
    Errno × Option Bytes × Host :=
  match sar with
  | .unseg =>
    match recvCb with
    | none => (.success, buffs, host)
    | some recvCb =>
      match host.recv recvCb info payload with
      | (.full, host) => (.transReliableTransChannelFull, buffs, host)
      | (.taken, host) => (.success, buffs, host)
  | .first =>
    let errno := if buffs.isSome then .enhancedFrameDupFirstFragFrame
      else .success
    if env.alloc host.tick then (errno, some payload, host.skip 1)
    else (errno, none, host.skip 1)
  | .mid =>
    match buffs with
    | none => (.enhancedFrameNoFirstFragFrame, none, host)
    | some collected => updateFragmentFrame env collected payload host
  | .last =>
    match buffs with
    | none => (.enhancedFrameNoFirstFragFrame, none, host)
    | some collected =>
      match updateFragmentFrame env collected payload host, recvCb with
      | (errno, none, host), _ => (errno, none, host)
      | (errno, some _, host), none => (errno, none, host)
      | (errno, some sdu, host), some recvCb =>
        match host.recv recvCb info sdu with
        | (.full, host) => (.transReliableTransChannelFull, none, host)
        | (.taken, host) => (errno, none, host)

/-- `DTAP_RecvFragmentFrame`: the frame buffer is trimmed in place before the
callback is known to take the SDU. -/
def recvFragmentFrame (env : Env) (buffs : Option Bytes) (frame : Frame)
    (info : DataInfo) (recvCb : Option RecvCb) (host : Host) :
    Errno × Option Bytes × Frame × Host :=
  match frame.buff.trimPrefix (frame.headerLen + frame.extensionLen) with
  | none => (.enhancedFrameTrimPrefixErr, buffs, frame, host)
  | some headless =>
    match headless.trimSuffix crcLen with
    | none =>
      (.enhancedFrameTrimSuffixErr, buffs,
        { frame with buff := headless }, host)
    | some payload =>
      match recvFragmentPayload env buffs frame.sar payload.data info
          recvCb host with
      | (errno, buffs, host) =>
        (errno, buffs, { frame with buff := payload }, host)

/-- `DTAP_GetFragmentFramesNum`; the length argument is a `uint16_t`. -/
def getFragmentFramesNum (len mps : Nat) : Nat :=
  if mps = 0 then 1 else (len % 65536 + mps - 1) / mps

def getFragFrameSar (fragCnt curFragCnt : Nat) : Sar :=
  if fragCnt = 1 then .unseg
  else if curFragCnt = 1 then .first
  else if curFragCnt < fragCnt then .mid
  else .last

/-- The pieces `DTAP_FragmentFrame` cuts the data into.  The recursion is on a
bound for the number of pieces. -/
def fragmentPieces (mps : Nat) : Nat → Bytes → List Bytes
  | 0, _ => []
  | bound + 1, data =>
    if data.length = 0 then []
    else
      let buffLen := if mps = 0 then data.length else min data.length mps
      data.take buffLen :: fragmentPieces mps bound (data.drop buffLen)

/-- The frames made of the pieces, the first of them number `index + 1` out of
`cnt`. -/
def fragmentFrames (frameType : FrameType) (cnt : Nat) :
    Nat → List Bytes → List Frame
  | _, [] => []
  | index, piece :: pieces =>
    { frameType := frameType
      buff := .ofData piece
      sar := getFragFrameSar cnt (index + 1) } ::
    fragmentFrames frameType cnt (index + 1) pieces

/-- `DTAP_FragmentFrame`: the empty list stands for `*outCnt == 0`.  Every
piece allocates a frame and a buffer. -/
def fragmentFrame (env : Env) (data : Bytes) (mps : Nat)
    (frameType : FrameType) (host : Host) : List Frame × Host :=
  let cnt := getFragmentFramesNum data.length mps
  if data.length = 0 ∨ cnt > maxFragmentNum then ([], host)
  else
    let pieces := fragmentPieces mps data.length data
    if env.allocAll host (2 * pieces.length) then
      (fragmentFrames frameType cnt 0 pieces, host.skip (2 * pieces.length))
    else ([], host.skip (2 * pieces.length))

end NearLink.Dtap
