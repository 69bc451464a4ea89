import NearLink.Ssap.Find
import NearLink.Ssap.MtuExchange
import NearLink.Ssap.ValueCodec

/-!
# The requests of a link

The queue of request tasks of `ssap_link.c` and `ssap_manager.c`, the functions
of `ssapc_client.c` that build the requests, and the handlers that tell the
application of a response.  Allocation, sending and the start of a timer
succeed.  What a response does to the cache of found services, and what the
handlers of requests and notifications do beside submitting tasks and
exchanging the MTU, is left out.

A callback runs inside the handler of the response, so an event carries the
calls that the application makes from it.
-/

namespace NearLink.Ssap

open Sdf Transition Client Server

def errcodeTimeout : UInt8 := 0xB0

inductive TaskFunc where
  | initFindReq (type : UInt8) (startHandle endHandle : UInt16)
  | exchangeInfoReq (mtu : UInt16)
  | findReq (type : UInt8) (startHandle endHandle : UInt16)
  | findByUuidReq (type : UInt8) (startHandle endHandle : UInt16) (uuid : Bytes)
  | readReq (handle : UInt16) (type : UInt8)
  | readProps (handles : List UInt16) (type : UInt8)
  | readByUuidReq (uuid : Bytes) (handleStart handleEnd : UInt16)
      (dataType : UInt8)
  | writeReq (handle : UInt16) (type : UInt8) (value : Bytes)
  | callMethodReq (handle : UInt16) (value : Bytes)
  | valueInd (handle : UInt16) (type : UInt8) (value : Bytes)
  deriving DecidableEq

namespace TaskFunc

/-- `SSAP_PduFindStructReq_S` of a find with single response. -/
def findPdu (msgCode : MsgCode) (type : UInt8) (itemType : FindItemType)
    (startHandle endHandle : UInt16) (uuid : Bytes) : Bytes :=
  [msgCode.value, (type &&& 7) + itemType.value * 8] ++
    encode16 startHandle.toNat ++ encode16 endHandle.toNat ++ uuid

/-- The kind of the items that `SendFindPkt` asks for. -/
def findItemType (oldDevice : Bool) : FindItemType :=
  if oldDevice then .standard else .mix

def readReqItem (type : UInt8) (handle : UInt16) : Bytes :=
  encode16 handle.toNat ++ [type]

/-- The PDU that the function hands to `sendFunc`, and its opcode. -/
def request (link : Link) (oldDevice : Bool) :
    TaskFunc → Option (MsgCode × Bytes)
  | initFindReq type startHandle endHandle =>
    some (.findStructureReq,
      findPdu .findStructureReq type .standard startHandle endHandle [])
  | exchangeInfoReq mtu =>
    some (.exchangeInfoReq, exchangePkt .exchangeInfoReq mtu.toNat)
  | findReq type startHandle endHandle =>
    some (.findStructureReq,
      findPdu .findStructureReq type (findItemType oldDevice) startHandle
        endHandle [])
  | findByUuidReq type startHandle endHandle uuid =>
    some (.findStructureByUuidReq,
      findPdu .findStructureByUuidReq type (findItemType oldDevice)
        startHandle endHandle (putUuidToPktBuf uuid))
  | readReq handle type =>
    some (.readReq,
      [MsgCode.readReq.value, ctrlNoFrag] ++ readReqItem type handle)
  | readProps handles type =>
    some (.readReq, [MsgCode.readReq.value, ctrlNoFrag] ++
        handles.flatMap (readReqItem type))
  | readByUuidReq uuid handleStart handleEnd dataType =>
    some (.readByUuidReq,
      [MsgCode.readByUuidReq.value, if checkUuidStd uuid then 0 else 1] ++
        encode16 handleStart.toNat ++ encode16 handleEnd.toNat ++
        [dataType] ++ putUuidToPktBuf uuid)
  | writeReq handle type value =>
    if value = [] then none
    else
      some (.writeReq,
        [MsgCode.writeReq.value, ctrlNoFrag + writeReqNeedOriginRet] ++
          encode16 handle.toNat ++ [type] ++ value)
  | callMethodReq handle value =>
    some (.callMethodReq,
      [MsgCode.callMethodReq.value, ctrlNoFrag] ++ encode16 handle.toNat ++
        value)
  | valueInd handle type value =>
    if value.length > link.mtu - pduBaseLen - 4 then none
    else
      some (.valueInd,
        [MsgCode.valueInd.value, ctrlNoFrag + (type &&& 1) * 4] ++
          encode16 handle.toNat ++ encode16 value.length ++ value)

/-- The tasks of the client have an `appCallback`.  The first find of a link
and the indications of the server have none. -/
def appCallback : TaskFunc → Bool
  | initFindReq _ _ _ => false
  | valueInd _ _ _ => false
  | _ => true

end TaskFunc

/-- `SSAP_TaskParam_S` as it is submitted, which is always valid. -/
structure TaskParam where
  appId : Int
  func : TaskFunc
  deriving DecidableEq

structure QueuedTask extends TaskParam where
  serial : Nat
  valid : Bool

/-- `SSAP_Task_S` -/
structure CurTask where
  opcode : Option MsgCode
  buff : Option Bytes
  param : Option QueuedTask

inductive Report where
  /-- `SSAP_ExchangeComplete_S` -/
  | exchange (mtu version : Nat) (errCode : UInt8)
  /-- `SSAP_DiscoveryComplete_S` -/
  | discovery (opCode type : UInt8) (preFindHandle endHandle : Nat)
      (uuid : Bytes) (errCode : UInt8)
  /-- `SSAP_ValuePkt_S` -/
  | value (opCode : UInt8) (valuePkt : ValuePkt)
  /-- `SSAP_ReadByHandleComplete_S` -/
  | readByHandle (complete : ReadByHandleComplete)
  /-- `SSAP_ReadByUuidComplete_S` -/
  | readByUuid (uuid : Bytes) (dataType : UInt8) (beginHandle endHandle : Nat)
      (errCode : ErrCode) (readVals : List ValuePkt)
  /-- `SSAP_ReadByUuidComplete_S` of an error of the peer or a timeout. -/
  | readByUuidError (uuid : Bytes) (dataType : UInt8)
      (beginHandle endHandle : Nat) (errCode : UInt8)
  /-- `SSAP_MethodResult_S` -/
  | method (handle : Nat) (errorCode : UInt8) (value : Bytes)
  deriving DecidableEq

namespace Client

def getFindReqUuid (buf : Bytes) : Bytes :=
  if buf.length = 16 ∨ buf.length = 2 then getUuidFromPktBuf buf
  else List.replicate 16 0

def discoveryComplete (lastBuff : Bytes) (errCode : UInt8) : Report :=
  .discovery (byteAt lastBuff 0) (byteAt lastBuff 1 &&& 7)
    (decode16 lastBuff 2) (decode16 lastBuff 4)
    (getFindReqUuid (lastBuff.drop 6)) errCode

/-- The handlers of errors: `SSAPC_ExchangeInfoErrorHandle`,
`SSAPC_FindReqErrorHandle`, `SSAPC_ValueErrorHandle`,
`SSAPC_ReadByUuidErrorHandle` and `SSAPC_CallMethodErrorHandle`, as
`SSAP_ErrorRspHandle` and `SSAP_TimeoutCbk` choose among them. -/
def errorHandle (lastBuff : Bytes) (errCode : UInt8) :
    MsgCode → Option Report
  | .exchangeInfoReq =>
    some (.exchange (decode16 lastBuff 2) (decode16 lastBuff 4) errCode)
  | .findStructureReq => some (discoveryComplete lastBuff errCode)
  | .findStructureByUuidReq => some (discoveryComplete lastBuff errCode)
  | .readReq => some (.value (MsgCode.readReq.value + 1) ⟨0, 0, 0, errCode, []⟩)
  | .writeReq =>
    some (.value (MsgCode.writeReq.value + 1) ⟨0, 0, 0, errCode, []⟩)
  | .readByUuidReq =>
    some (.readByUuidError (getUuidFromPktBuf (lastBuff.drop 7))
      (byteAt lastBuff 6) (decode16 lastBuff 2) (decode16 lastBuff 4)
      errCode)
  | .callMethodReq => some (.method (decode16 lastBuff 2) errCode [])
  | _ => none

def errorRspHandle (opcode : MsgCode) (lastBuff pdu : Bytes) :
    Option Report :=
  if pdu.length < 6 then none
  else if byteAt pdu 2 ≠ opcode.value then none
  else errorHandle lastBuff (byteAt pdu 5) opcode

/-- `SSAPC_ExchangeInfoRspHandle` over the link it leaves. -/
def exchangeInfoRspHandle (link : Link) (pdu : Bytes) : Report :=
  if pdu.length < exchangeInfoPktLen then
    .exchange 0 0 ErrCode.invalidPdu.value
  else
    .exchange link.mtu (if byteAt pdu 1 &&& 2 ≠ 0 then decode16 pdu 4 else 0)
      ErrCode.success.value

/-- `SSAPC_FindRspHandle`, which puts what it decodes into the cache. -/
def findRspHandle (lastBuff pdu : Bytes) : Option Report :=
  if pdu.length > stackMtuMax then none
  else if pdu.length < pduBaseLen then none
  else if lastBuff.length < 6 then none
  else some (discoveryComplete lastBuff ErrCode.success.value)

def handleNum (lastBuff : Bytes) : Nat :=
  if lastBuff.length > pduBaseLen then
    if (lastBuff.length - pduBaseLen) / 3 ≤ 255 then
      (lastBuff.length - pduBaseLen) / 3
    else 0
  else 0

def singleReadRspDecode (lastBuff pdu : Bytes) : Option Report :=
  if byteAt pdu 1 &&& 8 = 0 then
    some (.value (byteAt pdu 0) ⟨byteAt pdu 1, decode16 lastBuff 2,
      byteAt lastBuff 4, 0, pdu.drop pduBaseLen⟩)
  else if pdu.length - pduBaseLen < 2 then none
  else if decode16 pdu 2 % 0x8000 > 255 then none
  else
    some (.value (byteAt pdu 0) ⟨byteAt pdu 1, decode16 lastBuff 2,
      byteAt lastBuff 4, UInt8.ofNat (decode16 pdu 2 % 0x8000), []⟩)

/-- `SSAPC_ReadRspHandle` -/
def readRspReport (lastBuff pdu : Bytes) : Option Report :=
  if pdu.length > stackMtuMax then none
  else if pdu.length < pduBaseLen then none
  else if handleNum lastBuff = 1 then singleReadRspDecode lastBuff pdu
  else
    some (.readByHandle
      (multiReadRspDecode (readReqItems (lastBuff.drop pduBaseLen))
        (handleNum lastBuff) (pdu.drop pduBaseLen) pdu.length))

def readByUuidRspHandle (lastBuff pdu : Bytes) : Report :=
  if lastBuff.length < 7 then
    .readByUuid (List.replicate 16 0) 0 0 0 .unknown []
  else
    let complete := Report.readByUuid (getFindReqUuid (lastBuff.drop 7))
      (byteAt lastBuff 6) (decode16 lastBuff 2) (decode16 lastBuff 4)
    if pdu.length > stackMtuMax ∨ pdu.length ≤ 4 then complete .invalidPdu []
    else
      let readVals :=
        readByUuidRspDecode (byteAt pdu 1) (pdu.drop pduBaseLen)
      if readVals = [] then complete .itemInexist []
      else complete .success readVals

def writeResult (pdu : Bytes) : UInt8 := byteAt pdu 1 >>> 2 &&& 3

def handleWriteRspHandleError (lastBuff pdu : Bytes) : Option Report :=
  if pdu.length % 0x10000 ≠ 6 then none
  else
    some (.value (byteAt pdu 0) ⟨byteAt pdu 1, decode16 pdu 3,
      byteAt lastBuff 4, byteAt pdu 5, []⟩)

/-- `SSAPC_WriteRspHandle`, whose length has sixteen bits. -/
def writeRspHandle (lastBuff pdu : Bytes) : Option Report :=
  let len := pdu.length % 0x10000
  if len ≤ pduBaseLen then none
  else if lastBuff.length ≤ writeDataOffset then none
  else if writeResult pdu = 0 then
    if byteAt lastBuff 1 &&& writeReqNeedOriginRet ≠ 0 then
      if len ≤ writeDataOffset then none
      else
        some (.value (byteAt pdu 0) ⟨byteAt pdu 1, decode16 pdu 2,
          byteAt lastBuff 4, 0,
          (pdu.drop writeDataOffset).take (len - writeDataOffset)⟩)
    else if len ≠ pduBaseLen then none
    else
      some (.value (byteAt pdu 0) ⟨byteAt pdu 1, 0, byteAt lastBuff 4, 0, []⟩)
  else if writeResult pdu = 2 ∧ ctrlOper lastBuff ≠ 2 ∨
      writeResult pdu = 1 then
    handleWriteRspHandleError lastBuff pdu
  else none

def callMethodRspHandle (lastBuff pdu : Bytes) : Option Report :=
  if pdu.length < pduBaseLen then none
  else
    some (.method (decode16 lastBuff 2) ErrCode.success.value
      (pdu.drop pduBaseLen))

end Client

inductive TransType where
  | cmd
  | req
  | rsp
  | noti
  | ind
  | ack
  deriving DecidableEq

namespace MsgCode

def getOpcodeType : MsgCode → TransType
  | errorRsp => .rsp
  | exchangeInfoReq => .req
  | exchangeInfoRsp => .rsp
  | findStructureReq => .req
  | findStructureRsp => .rsp
  | findStructureByUuidReq => .req
  | findStructureByUuidRsp => .rsp
  | readReq => .req
  | readRsp => .rsp
  | readByUuidReq => .req
  | readByUuidRsp => .rsp
  | writeCmd => .cmd
  | writeReq => .req
  | writeRsp => .rsp
  | valueNtf => .noti
  | valueInd => .ind
  | valueAck => .ack
  | callMethodCmd => .cmd
  | callMethodReq => .req
  | callMethodRsp => .rsp

/-- `g_SsapRecvOpcodeMap`: the request that a response answers. -/
def recvOpcodeMap : MsgCode → Option MsgCode
  | exchangeInfoRsp => some exchangeInfoReq
  | findStructureRsp => some findStructureReq
  | findStructureByUuidRsp => some findStructureByUuidReq
  | readRsp => some readReq
  | readByUuidRsp => some readByUuidReq
  | writeRsp => some writeReq
  | valueAck => some valueInd
  | callMethodRsp => some callMethodReq
  | _ => none

end MsgCode

inductive LogEntry where
  | queued (serial : Nat) (param : TaskParam) (high : Bool)
  | disowned (serial : Nat)
  | started (serial : Nat)
  | sent (serial : Nat) (opcode : MsgCode) (pdu : Bytes)
  | answered (serial : Nat) (pdu : Bytes)
  | expired (serial : Nat)
  | reported (serial : Nat) (reply : Option Bytes) (report : Report)
  | freed (serial : Nat)
  deriving DecidableEq

/-- `SSAP_Link_S` with its tasks. -/
structure TaskLink where
  link : Link
  /-- `CM_GetLogicLinkDeviceType` is `CM_DEVTYPE_OLD`. -/
  oldDevice : Bool
  paramList : List QueuedTask
  curTask : CurTask
  /-- `status` is `SSAP_LINK_BUSY`. -/
  busy : Bool
  hasInitReqTask : Bool
  /-- `timerHandle` is in use. -/
  timer : Bool
  serial : Nat
  log : List LogEntry

inductive LinkCall where
  | processRequestTask (param : TaskParam) (delay : Bool)
  | processHighPriorityRequestTask (param : TaskParam) (delay : Bool)
  | cleanLinkTaskByAppId (appId : Int)

/-- What can happen to a link.  The calls are those that the application makes
from the callback, or from the handler of a PDU that is no response. -/
inductive TaskEvent where
  | call (call : LinkCall)
  | recv (pdu : Bytes) (calls : List LinkCall)
  | timeout (calls : List LinkCall)

namespace TaskLink

def note (entry : LogEntry) (link : TaskLink) : TaskLink :=
  { link with log := link.log ++ [entry] }

def freeTaskParams (param : Option QueuedTask) (link : TaskLink) :
    TaskLink :=
  match param with
  | none => link
  | some task => link.note (.freed task.serial)

def linkAddCurrentTask (task : QueuedTask) (link : TaskLink) : TaskLink :=
  let emptied :=
    match link.curTask.param with
    | none => link
    | some old =>
      { link.freeTaskParams (some old) with
        curTask := { link.curTask with buff := none, param := none }
        timer := false }
  { emptied with curTask := { emptied.curTask with param := some task } }

def linkSetTask (opcode : MsgCode) (buff : Bytes) (link : TaskLink) :
    TaskLink :=
  { link with
    curTask := { link.curTask with opcode := some opcode, buff := some buff }
    busy := true }

/-- `SSAP_Send` of a PDU that is to be replied to. -/
def send (serial : Nat) (opcode : MsgCode) (buff : Bytes) (link : TaskLink) : TaskLink :=
  { (link.note (.sent serial opcode buff)).linkSetTask opcode buff with
    timer := true }

/-- The body of the loop of `SSAP_ExcuteProcessTask` for the first task of the
queue. -/
def start (task : QueuedTask) (rest : List QueuedTask) (link : TaskLink) :
    TaskLink :=
  let popped :=
    ({ link with paramList := rest }).note (.started task.serial)
  let current := popped.linkAddCurrentTask task
  match task.func.request current.link current.oldDevice with
  | none => current
  | some (opcode, pdu) => current.send task.serial opcode pdu

/-- The loop of `SSAP_ExcuteProcessTask` over the tasks of the queue. -/
def excuteTasks : List QueuedTask → TaskLink → TaskLink
  | [], link => link
  | task :: rest, link =>
    if link.busy then link else excuteTasks rest (link.start task rest)

def excuteProcessTask (link : TaskLink) : TaskLink :=
  excuteTasks link.paramList link

/-- `SSAP_LinkClearCurrentTask`, with what ended the task. -/
def linkClearCurrentTask (ended : Nat → LogEntry) (link : TaskLink) :
    TaskLink :=
  let noted :=
    match link.curTask.param with
    | none => link
    | some task => link.note (ended task.serial)
  { noted.freeTaskParams link.curTask.param with
    curTask := { link.curTask with buff := none, param := none }
    timer := false
    busy := false }

def allocTaskParam (param : TaskParam) (link : TaskLink) : QueuedTask :=
  { param with serial := link.serial, valid := true }

/-- `SSAP_ProcessRequestTask` and `SSAP_ProcessHighPriorityRequestTask` up to
the run of the tasks. -/
def addTaskParam (param : TaskParam) (high : Bool) (link : TaskLink) :
    TaskLink :=
  let task := link.allocTaskParam param
  { link.note (.queued link.serial param high) with
    paramList :=
      if high then task :: link.paramList else link.paramList ++ [task]
    serial := link.serial + 1 }

/-- `SSAP_ProcessRequestTask` and, with high priority,
`SSAP_ProcessHighPriorityRequestTask`. -/
def processTask (param : TaskParam) (high delay : Bool) (link : TaskLink) :
    TaskLink :=
  let added := link.addTaskParam param high
  if delay then added else added.excuteProcessTask

def dropTask (task : QueuedTask) (link : TaskLink) : TaskLink :=
  { (link.note (.disowned task.serial)).freeTaskParams (some task) with
    paramList :=
      link.paramList.filter fun other => other.serial ≠ task.serial }

/-- The loop of `SSAP_CleanLinkTaskByAppId` over the tasks of the queue. -/
def cleanTasks (appId : Int) : List QueuedTask → TaskLink → TaskLink
  | [], link => link
  | task :: rest, link =>
    if task.appId = appId then cleanTasks appId rest (link.dropTask task)
    else cleanTasks appId rest link

def disownCurrent (task : QueuedTask) (link : TaskLink) : TaskLink :=
  { link.note (.disowned task.serial) with
    curTask :=
      { link.curTask with param := some { task with valid := false } } }

def cleanLinkTaskByAppId (appId : Int) (link : TaskLink) : TaskLink :=
  let cleaned := cleanTasks appId link.paramList link
  match cleaned.curTask.param with
  | none => cleaned
  | some task =>
    if task.appId = appId then cleaned.disownCurrent task else cleaned

def call (link : TaskLink) : LinkCall → TaskLink
  | .processRequestTask param delay => link.processTask param false delay
  | .processHighPriorityRequestTask param delay =>
    link.processTask param true delay
  | .cleanLinkTaskByAppId appId => link.cleanLinkTaskByAppId appId

def checkOpcode (link : TaskLink) (opcode : MsgCode) : ErrCode :=
  if opcode = .errorRsp then
    if link.busy then .success else .invalidPdu
  else
    match opcode.recvOpcodeMap with
    | none => .success
    | some lastOpcode =>
      if !link.busy then .invalidPdu
      else if link.curTask.opcode ≠ some lastOpcode then .invalidPdu
      else .success

def taskValid (link : TaskLink) : Bool :=
  match link.curTask.param with
  | none => false
  | some task => task.valid

/-- `SsapTaskExecuteCallback` with the calls that the application makes. -/
def taskExecuteCallback (reply : Option Bytes) (report : Report)
    (calls : List LinkCall) (link : TaskLink) : TaskLink :=
  match link.curTask.param with
  | none => link
  | some task =>
    if task.func.appCallback then
      calls.foldl call (link.note (.reported task.serial reply report))
    else link

/-- What the handler of a response in `g_dispatchTable` gives to the
callback. -/
def rspReport (link : TaskLink) (code : MsgCode) (pdu : Bytes) :
    Option Report :=
  match link.curTask.opcode, link.curTask.buff with
  | some opcode, some lastBuff =>
    match code with
    | .errorRsp => errorRspHandle opcode lastBuff pdu
    | .exchangeInfoRsp => some (exchangeInfoRspHandle link.link pdu)
    | .findStructureRsp => findRspHandle lastBuff pdu
    | .findStructureByUuidRsp => findRspHandle lastBuff pdu
    | .readRsp => readRspReport lastBuff pdu
    | .readByUuidRsp => some (readByUuidRspHandle lastBuff pdu)
    | .writeRsp => writeRspHandle lastBuff pdu
    | .callMethodRsp => callMethodRspHandle lastBuff pdu
    | _ => none
  | _, _ => none

/-- `SSAP_DataDispatch` of a response to the current task. -/
def rspDispatch (code : MsgCode) (pdu : Bytes) (calls : List LinkCall)
    (link : TaskLink) : TaskLink :=
  let exchanged :=
    { link with
      link :=
        if code = .exchangeInfoRsp then link.link.exchangeInfoRsp pdu
        else link.link }
  match exchanged.rspReport code pdu with
  | none => exchanged
  | some report => exchanged.taskExecuteCallback (some pdu) report calls

/-- `SSAP_DataDispatch` of a PDU that is no response. -/
def otherDispatch (code : MsgCode) (pdu : Bytes) (calls : List LinkCall)
    (link : TaskLink) : TaskLink :=
  let exchanged :=
    { link with
      link :=
        if code = .exchangeInfoReq then (link.link.exchangeInfoReq pdu).1
        else link.link }
  calls.foldl call exchanged

/-- `SSAP_Recv` of a response to the current task. -/
def recvRsp (code : MsgCode) (pdu : Bytes) (calls : List LinkCall)
    (link : TaskLink) : TaskLink :=
  let handled :=
    if link.hasInitReqTask ∧ code.getOpcodeType = .rsp then
      { link with hasInitReqTask := false }
    else if link.taskValid then link.rspDispatch code pdu calls
    else link
  (handled.linkClearCurrentTask fun serial =>
    .answered serial pdu).excuteProcessTask

def recv (pdu : Bytes) (calls : List LinkCall) (link : TaskLink) :
    TaskLink :=
  match pdu.head?.bind MsgCode.ofByte with
  | none => link
  | some code =>
    if link.checkOpcode code ≠ .success then link
    else if code.getOpcodeType = .rsp ∨ code.getOpcodeType = .ack then
      link.recvRsp code pdu calls
    else link.otherDispatch code pdu calls

/-- What `SSAP_TimeoutCbk` gives to the callback. -/
def timeoutReport (link : TaskLink) : Option Report :=
  match link.curTask.opcode, link.curTask.buff with
  | some opcode, some lastBuff => errorHandle lastBuff errcodeTimeout opcode
  | _, _ => none

/-- `SSAP_TimeoutCbk` of a timer that was started. -/
def timeoutCbk (calls : List LinkCall) (link : TaskLink) : TaskLink :=
  let handled :=
    if link.taskValid then
      let waited := { link with hasInitReqTask := false }
      match waited.timeoutReport with
      | none => waited
      | some report => waited.taskExecuteCallback none report calls
    else link
  (handled.linkClearCurrentTask .expired).excuteProcessTask

def step (link : TaskLink) : TaskEvent → TaskLink
  | .call call => link.call call
  | .recv pdu calls => link.recv pdu calls
  | .timeout calls => if link.timer then link.timeoutCbk calls else link

/-- `SSAP_CreateSsapLinkWithInitReq` -/
def create (link : Link) (oldDevice hasInitReqTask : Bool) : TaskLink where
  link := link
  oldDevice := oldDevice
  paramList := []
  curTask := ⟨none, none, none⟩
  busy := false
  hasInitReqTask := hasInitReqTask
  timer := false
  serial := 0
  log := []

def initFind : TaskParam := ⟨-1, .initFindReq 1 0x0001 0xFFFF⟩

/-- The link that `SSAP_CMLogicLinkCbk` makes. -/
def connected (link : Link) (oldDevice : Bool) : TaskLink :=
  (create link oldDevice true).processTask initFind false true

end TaskLink

namespace LogEntry

def waitingAfter (waiting : List Nat) : LogEntry → List Nat
  | queued serial _ high =>
    if high then serial :: waiting else waiting ++ [serial]
  | started serial => waiting.filter (· ≠ serial)
  | freed serial => waiting.filter (· ≠ serial)
  | _ => waiting

def waiting (log : List LogEntry) : List Nat := log.foldl waitingAfter []

def awaitedAfter (awaited : List Nat) : LogEntry → List Nat
  | sent serial _ _ => awaited ++ [serial]
  | answered serial _ => awaited.filter (· ≠ serial)
  | expired serial => awaited.filter (· ≠ serial)
  | _ => awaited

def awaited (log : List LogEntry) : List Nat := log.foldl awaitedAfter []

def isReport (serial : Nat) : LogEntry → Bool
  | reported reportedSerial _ _ => reportedSerial == serial
  | _ => false

def reports (serial : Nat) (log : List LogEntry) : Nat :=
  log.countP (isReport serial)

def RepliesTo (opcode : MsgCode) (pdu : Bytes) : Prop :=
  ∃ code, pdu.head?.bind MsgCode.ofByte = some code ∧
    (code.recvOpcodeMap = some opcode ∨
      code = .errorRsp ∧ byteAt pdu 2 = opcode.value)

def OneAwaited : List LogEntry → Prop :=
  Throughout fun before entry => (awaited (before ++ [entry])).length ≤ 1

def InQueueOrder : List LogEntry → Prop :=
  Throughout fun before entry =>
    ∀ serial, entry = started serial → (waiting before).head? = some serial

def RepliesOnly : List LogEntry → Prop :=
  Throughout fun before entry =>
    ∀ serial pdu report, entry = reported serial (some pdu) report →
      ∃ opcode request, sent serial opcode request ∈ before ∧
        RepliesTo opcode pdu

/-- The parameters of a task are freed after its callback was invoked once. -/
def ReportedFirst (serial : Nat) : List LogEntry → Prop :=
  Throughout fun before entry =>
    entry = freed serial → reports serial before = 1

end LogEntry

namespace TaskLink

open LogEntry

end TaskLink

end NearLink.Ssap
