import NearLink.Ssap.FindCache

/-!
# Discovery of services

The client's side of a discovery: the request it waits for, what
`SSAPC_FindRspHandle` makes of a response, and the callbacks of `ssapc_app.c`
that ask on.  The application stays registered, no other discovery runs on the
link, and a request is sent when it is made.

A request for the members of a service is kept with the position of the
service in the cache, which is what tells the requests of a discovery apart.
-/

namespace NearLink.Ssap

open Sdf

/-- `SSAP_ParamFind_S` and, with a uuid, `SSAP_ParamFindByUuid_S` -/
structure FindParam where
  type : UInt8
  startHandle : UInt16
  endHandle : UInt16
  uuid : Option Bytes
  deriving DecidableEq

namespace FindParam

def opcode (param : FindParam) : MsgCode :=
  match param.uuid with
  | none => .findStructureReq
  | some _ => .findStructureByUuidReq

/-- The PDU of `SSAPC_FindReq` and `SSAPC_FindByUuidReq`. -/
def pdu (param : FindParam) (oldDevice : Bool) : Bytes :=
  TaskFunc.findPdu param.opcode param.type (TaskFunc.findItemType oldDevice)
    param.startHandle param.endHandle
    (match param.uuid with
      | none => []
      | some uuid => putUuidToPktBuf uuid)

def findType (param : FindParam) : UInt8 := param.type &&& 7

end FindParam

structure Asked where
  param : FindParam
  service : Option Nat
  deriving DecidableEq

/-- `onFindService` and `onFindServiceByUuid`, with success or not. -/
inductive Completion where
  | findService (success : Bool)
  | findServiceByUuid (uuid : Bytes) (success : Bool)

structure DiscoveryComplete where
  byUuid : Bool
  type : UInt8
  errCode : UInt8
  preFindHandle : UInt16
  endHandle : UInt16
  uuid : Bytes

structure Discovery where
  oldDevice : Bool
  cache : FindCache
  request : Option Asked
  asked : List Asked
  answered : Nat
  completions : List Completion

inductive DiscoveryEvent where
  | recv (pdu : Bytes)
  /-- `SSAP_TimeoutCbk` -/
  | timeout

namespace Client

def foundServs (lastBuff pdu : Bytes) (oldDevice : Bool) : List FoundServ :=
  let itemType := byteAt pdu 1 >>> 2 &&& 3
  if byteAt lastBuff 0 = MsgCode.findStructureByUuidReq.value ∧ oldDevice then
    decodePrimaryServiceByUuidV10 itemType (getFindReqUuid (lastBuff.drop 6))
      (pdu.drop pduBaseLen)
  else decodePrimaryService itemType (pdu.drop pduBaseLen)

def foundMembers (lastBuff pdu : Bytes) (oldDevice : Bool) (kind : MemberType) : List FoundMember :=
  let itemType := byteAt pdu 1 >>> 2 &&& 3
  if byteAt lastBuff 0 = MsgCode.findStructureByUuidReq.value ∧ oldDevice then
    if kind = .property then
      decodePropertyByUuidV10 itemType (getFindReqUuid (lastBuff.drop 6))
        (pdu.drop pduBaseLen)
    else []
  else decodeProperty itemType (pdu.drop pduBaseLen)

/-- What `SSAPC_FindRspHandle` does to the cache. -/
def cacheFindRsp (lastBuff pdu : Bytes) (oldDevice : Bool) (cache : FindCache) : FindCache :=
  let findType := byteAt lastBuff 1 &&& 7
  let byUuid := byteAt lastBuff 0 = MsgCode.findStructureByUuidReq.value
  let cleaned := cache.findRspCleanCache findType
    (UInt16.ofNat (decode16 lastBuff 2)) byUuid
    (getFindReqUuid (lastBuff.drop 6))
  if findType = 1 then
    { cleaned with
      serv := (foundServs lastBuff pdu oldDevice).foldl cacheServ
        cleaned.serv }
  else
    match MemberType.getByFindType findType with
    | some kind =>
      { cleaned with
        serv := (foundMembers lastBuff pdu oldDevice kind).foldl
          (cacheCharacter kind) cleaned.serv }
    | none =>
      if findType = 0 ∧ ¬ (byUuid ∧ oldDevice) then
        { cleaned with
          serv := decodeStructure (byteAt pdu 1 >>> 2 &&& 3)
            (pdu.drop pduBaseLen) cleaned.serv }
      else cleaned

end Client

namespace Discovery

def ask (param : FindParam) (service : Option Nat) (discovery : Discovery) : Discovery :=
  { discovery with
    request := some ⟨param, service⟩
    asked := discovery.asked ++ [⟨param, service⟩] }

def discCompleteCb (errCode : UInt8) (discovery : Discovery) : Discovery :=
  let success : Bool := errCode = ErrCode.success.value
  { discovery with
    completions := discovery.completions ++ [if discovery.cache.isByUuid then
        .findServiceByUuid discovery.cache.curFindUuid success
      else .findService success] }

def findNextMember (discovery : Discovery) : Discovery :=
  let (next, serv) := getNextFindMember discovery.cache.serv
  let scanned :=
    { discovery with cache := { discovery.cache with serv } }
  match next with
  | some next =>
    scanned.ask ⟨next.kind.findType, next.startHandle, next.endHandle, none⟩
      (some next.service)
  | none =>
    { scanned with cache := scanned.cache.servDiscFinish }.discCompleteCb
      ErrCode.success.value

def nextUuid (complete : DiscoveryComplete) : Option Bytes :=
  if complete.byUuid then some complete.uuid else none

/-- `SsapcRetryFindPrimaryService` and `SsapcRetryFindPrimaryServiceByUuid` -/
def retryFindPrimaryService (complete : DiscoveryComplete)
    (discovery : Discovery) : Discovery :=
  discovery.ask
    ⟨1, complete.preFindHandle, complete.endHandle, nextUuid complete⟩ none

def primaryServiceCompCb (complete : DiscoveryComplete)
    (discovery : Discovery) : Discovery :=
  let maxHandle := getMaxServHandle discovery.cache.serv
  if maxHandle = 0 then
    discovery.discCompleteCb ErrCode.itemInexist.value
  else if complete.errCode = ErrCode.itemInexist.value ∨
      maxHandle = endHandleMax then
    discovery.findNextMember
  else
    discovery.ask ⟨1, maxHandle + 1, endHandleMax, nextUuid complete⟩ none

def memberCompCb (complete : DiscoveryComplete) (discovery : Discovery) :
    Discovery :=
  if complete.errCode = ErrCode.itemInexist.value then
    match MemberType.getByFindType complete.type with
    | none => discovery.findNextMember
    | some kind =>
      { discovery with
        cache := { discovery.cache with
          serv := servMemberDiscFinish kind complete.preFindHandle
            discovery.cache.serv } }.findNextMember
  else discovery.findNextMember

/-- `SsapcAppDiscServByHandleCompCb` and `SsapcAppDiscServByUuidCompCb`, which
differ in what follows a service structure. -/
def discServCompCb (complete : DiscoveryComplete) (discovery : Discovery) :
    Discovery :=
  if complete.type = 0 ∧ complete.errCode ≠ ErrCode.success.value ∧
      complete.preFindHandle = startHandleMin then
    discovery.retryFindPrimaryService complete
  else if complete.errCode ≠ ErrCode.success.value ∧
      complete.errCode ≠ ErrCode.itemInexist.value then
    { discovery with cache := discovery.cache.cleanServ }.discCompleteCb
      complete.errCode
  else if complete.type = 0 ∧ ¬ complete.byUuid then
    { discovery with cache := discovery.cache.servDiscFinish }.discCompleteCb
      ErrCode.success.value
  else if complete.type = 1 then discovery.primaryServiceCompCb complete
  else discovery.memberCompCb complete

/-- `SsapcAppDiscServCompCb` for the report of a find. -/
def compCb (report : Option Report) (discovery : Discovery) : Discovery :=
  match report with
  | some (.discovery opCode type preFindHandle endHandle uuid errCode) =>
    discovery.discServCompCb
      { byUuid := opCode = MsgCode.findStructureByUuidReq.value
        type
        errCode
        preFindHandle := UInt16.ofNat preFindHandle
        endHandle := UInt16.ofNat endHandle
        uuid }
  | _ => discovery

def answer (discovery : Discovery) : Discovery :=
  { discovery with request := none, answered := discovery.answered + 1 }

/-- `SSAPC_FindRspHandle` -/
def findRsp (lastBuff pdu : Bytes) (discovery : Discovery) : Discovery :=
  match Client.findRspHandle lastBuff pdu with
  | none => discovery
  | some report =>
    { discovery with
      cache := Client.cacheFindRsp lastBuff pdu discovery.oldDevice
        discovery.cache }.compCb (some report)

/-- `SSAP_Recv` of a PDU while a find waits for its answer. -/
def recv (asked : Asked) (pdu : Bytes) (discovery : Discovery) : Discovery :=
  let lastBuff := asked.param.pdu discovery.oldDevice
  match pdu.head?.bind MsgCode.ofByte with
  | none => discovery
  | some code =>
    if code = .errorRsp then
      discovery.answer.compCb
        (Client.errorRspHandle asked.param.opcode lastBuff pdu)
    else if code.recvOpcodeMap = some asked.param.opcode then
      discovery.answer.findRsp lastBuff pdu
    else discovery

def step (discovery : Discovery) (event : DiscoveryEvent) : Discovery :=
  match discovery.request with
  | none => discovery
  | some asked =>
    match event with
    | .recv pdu => discovery.recv asked pdu
    | .timeout =>
      discovery.answer.compCb
        (Client.errorHandle (asked.param.pdu discovery.oldDevice)
          errcodeTimeout asked.param.opcode)

/-- `SsapcAppDiscServ` and `SsapcAppDiscServByUuid`, which look through all
handles. -/
def begin (cache : FindCache) (oldDevice : Bool) (type : UInt8)
    (uuid : Option Bytes) : Discovery :=
  Discovery.ask ⟨type, startHandleMin, endHandleMax, uuid⟩ none
    { oldDevice, cache, request := none, asked := [], answered := 0,
      completions := [] }

end Discovery

end NearLink.Ssap
