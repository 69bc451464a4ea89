import NearLink.Ssap.Table

/-!
# Requests to a server

The handlers of `ssaps_server.c` and `ssaps_server_write.c` for the requests
that read or write values, the vector of operations that wait for the
application, and the links of `ssap_link.c`.  Discovery requests and the
responses to requests of this side touch no value and are left out, and so are
the callbacks that only inform the application.  Allocation and sending
succeed.

Sixteen-bit fields are low byte first and bit fields are laid out from the
least significant bit, as the packed structures of `ssap_pkt.h` are on the
little-endian targets of the stack.
-/

namespace NearLink.Ssap

open Sdf Keyed

def stackMtuDefault : Nat := 251

def stackMtuMax : Nat := 1024

def pduBaseLen : Nat := 2

def uint16Max : Nat := 65535

def exchangeVersion : Nat := 0x0301

def exchangeInfoPktLen : Nat := 6

/-- `SSAP_WRITE_REQ_DATA_OFFSET` and `SSAPS_WRITE_CMD_DATA_OFFSET` -/
def writeDataOffset : Nat := 5

def writeReqNeedOriginRet : UInt8 := 0x20

def maxWriteErrorCount : Nat := 255

def readByStandardUuidReqPktLen : Nat := 9

def readByCustomUuidReqPktLen : Nat := 23

def readByUuidReqUuidOffset : Nat := 7

def methodReqPduMinLen : Nat := 4

def authAllow : Nat := 1

def ctrlNoFrag : UInt8 := 3

def operateIndicationRead : UInt32 := 0x01

def operateIndicationWriteNoRsp : UInt32 := 0x02

def operateIndicationWrite : UInt32 := 0x04

def operateIndicationDescritorWrite : UInt32 := 0x100

/-- `SSAP_OPERATE_INDICATION_DESCRIPTOR_CLIENT_CONFIGURATION_WRITE` -/
def operateIndicationClientConfigurationWrite : UInt32 := 0x200

/-- `SSAP_OPERATE_INDICATION_DESCRIPTOR_SERVER_CONFIGURATION_WRITE` -/
def operateIndicationServerConfigurationWrite : UInt32 := 0x400

def permissionAuthenticationNeed : UInt8 := 0x01

def permissionEncryptionNeed : UInt8 := 0x02

def permissionAuthorizationNeed : UInt8 := 0x04

inductive MsgCode where
  | errorRsp
  | exchangeInfoReq
  | exchangeInfoRsp
  | findStructureReq
  | findStructureRsp
  | findStructureByUuidReq
  | findStructureByUuidRsp
  | readReq
  | readRsp
  | readByUuidReq
  | readByUuidRsp
  | writeCmd
  | writeReq
  | writeRsp
  | valueNtf
  | valueInd
  | valueAck
  | callMethodCmd
  | callMethodReq
  | callMethodRsp
  deriving DecidableEq

namespace MsgCode

def value : MsgCode → UInt8
  | errorRsp => 0x01
  | exchangeInfoReq => 0x02
  | exchangeInfoRsp => 0x03
  | findStructureReq => 0x04
  | findStructureRsp => 0x05
  | findStructureByUuidReq => 0x06
  | findStructureByUuidRsp => 0x07
  | readReq => 0x08
  | readRsp => 0x09
  | readByUuidReq => 0x0A
  | readByUuidRsp => 0x0B
  | writeCmd => 0x0C
  | writeReq => 0x0D
  | writeRsp => 0x0E
  | valueNtf => 0x0F
  | valueInd => 0x10
  | valueAck => 0x11
  | callMethodCmd => 0x12
  | callMethodReq => 0x13
  | callMethodRsp => 0x14

def all : List MsgCode :=
  [errorRsp, exchangeInfoReq, exchangeInfoRsp, findStructureReq,
    findStructureRsp, findStructureByUuidReq, findStructureByUuidRsp, readReq,
    readRsp, readByUuidReq, readByUuidRsp, writeCmd, writeReq, writeRsp,
    valueNtf, valueInd, valueAck, callMethodCmd, callMethodReq, callMethodRsp]

def ofByte (byte : UInt8) : Option MsgCode :=
  all.find? fun code => code.value == byte

end MsgCode

def encode16 (value : Nat) : Bytes :=
  [UInt8.ofNat value, UInt8.ofNat (value / 256)]

def byteAt (data : Bytes) (offset : Nat) : UInt8 := data.getD offset 0

def decode16 (data : Bytes) (offset : Nat) : Nat :=
  (byteAt data offset).toNat + 256 * (byteAt data (offset + 1)).toNat

theorem stackMtuDefault_le_max : stackMtuDefault ≤ stackMtuMax := by decide

/-- `SSAP_Link_S`.  The exchange of the MTU keeps it between the default and
the maximum. -/
structure Link where
  addr : Addr
  lcid : Nat
  mtu : Nat
  mtuLow : stackMtuDefault ≤ mtu
  mtuHigh : mtu ≤ stackMtuMax

/-- The address of a link, as `SSAP_FindSsapLinkByAddr` compares it. -/
def Link.client (link : Link) : BitVec 48 := link.addr.addr

structure BufferedOperation where
  msgCode : MsgCode
  controlCode : UInt8
  addr : Addr
  requestId : UInt16
  propertyHandle : Nat
  dataType : UInt8
  value : Bytes

structure SendResponseValue where
  status : Nat
  requestId : UInt16
  data : Bytes

structure Server where
  /-- `g_services` -/
  table : Table
  /-- `g_SsapLinkList` -/
  links : List Link
  /-- `g_ssapPendingVector` -/
  pending : List BufferedOperation
  penddingRequestId : UInt16
  smIsSLinkAuthComplete : Nat → Bool
  smIsSLinkEncryptComplete : Nat → Bool

abbrev Outcome := Server × Option Bytes

/-- `SSAP_PduErrorRsp` and `SSAPS_SendErrorRsp` -/
def pduErrorRsp (op : MsgCode) (errorHandle : Nat) (errorCode : ErrCode) :
    Bytes :=
  [MsgCode.errorRsp.value, 0, op.value] ++ encode16 errorHandle ++
    [errorCode.value]

def getPropertyValue (link : Link) (property : Property) (type : UInt8) :
    Except ErrCode Bytes :=
  match property.getVal link.addr type with
  | none => .error .dataType
  | some value =>
    if value.length = 0 ∧ type ≠ typeData ∧
        type ≠ descTypePropertyInstruction then .error .dataType
    else if value.length > link.mtu - pduBaseLen then .error .serverFrag
    else .ok value

namespace Server

def findSsapLinkByAddr (server : Server) (addr : Addr) : Option Link :=
  lookup Link.client addr.addr server.links

def findSsapLinkByLcid (server : Server) (lcid : Nat) : Option Link :=
  lookup Link.lcid lcid server.links

def pushOperationPenddingVector (server : Server)
    (operation : BufferedOperation) : Server :=
  { server with
    pending := server.pending ++
      [{ operation with requestId := server.penddingRequestId }]
    penddingRequestId := server.penddingRequestId + 1 }

def popOperationPenddingVector (server : Server) (requestId : UInt16) :
    Option BufferedOperation :=
  lookup BufferedOperation.requestId requestId server.pending

/-- `SDF_VectorRemove` of the operation that was found. -/
def removePending (server : Server) (requestId : UInt16) : Server :=
  { server with
    pending := remove BufferedOperation.requestId requestId server.pending }

/-- `SSAPS_UpdatePropertyValue` on a property of the table. -/
def updatePropertyValue (server : Server) (property : Property)
    (type : UInt8) (value : Bytes) (addr : Addr) : Server × ErrCode :=
  match property.updatePropertyValue type value addr with
  | none => (server, .dataType)
  | some _ =>
    ({ server with
        table := server.table.updatePropertyValue property.handle type value
          addr }, .success)

def readControlCheck (server : Server) (opIndication : UInt32)
    (permissions : UInt8) (link : Link) : ErrCode :=
  if opIndication &&& operateIndicationRead = 0 then .forbidRead
  else if permissions &&& permissionAuthenticationNeed ≠ 0 ∧
      ¬ server.smIsSLinkAuthComplete link.lcid then .unauthenticated
  else if permissions &&& permissionEncryptionNeed ≠ 0 ∧
      ¬ server.smIsSLinkEncryptComplete link.lcid then .unencrypted
  else .success

def sendReadReqRsp (value : Except ErrCode Bytes) : Bytes :=
  match value with
  | .error errorCode =>
    [MsgCode.readRsp.value, ctrlNoFrag + 8] ++ encode16 errorCode.value.toNat
  | .ok value => [MsgCode.readRsp.value, ctrlNoFrag] ++ value

def handleReadReqError (server : Server) (handle : Nat) : Bytes :=
  if server.table.isHandleExist handle then sendReadReqRsp (.error .dataType)
  else sendReadReqRsp (.error .invalidHandle)

def readSingleHandleReq (server : Server) (link : Link) (item : Item) :
    Outcome :=
  match server.table.getPropertyByHandle item.handle with
  | none => (server, some (server.handleReadReqError item.handle))
  | some property =>
    match property.getPermissionAndOperation item.type with
    | none => (server, some (server.handleReadReqError item.handle))
    | some (permissions, opIndication) =>
      match server.readControlCheck opIndication permissions link with
      | .success =>
        if permissions &&& permissionAuthorizationNeed ≠ 0 then
          (server.pushOperationPenddingVector
            { msgCode := .readReq
              controlCode := 0
              addr := link.addr
              requestId := 0
              propertyHandle := item.handle
              dataType := item.type
              value := [] }, none)
        else
          (server, some
            (sendReadReqRsp (getPropertyValue link property item.type)))
      | errorCode => (server, some (sendReadReqRsp (.error errorCode)))

def checkMultiReadAuthNeed (server : Server) (items : List Item) : Bool :=
  items.any fun item =>
    match server.table.getPropertyByHandle item.handle with
    | none => false
    | some property =>
      match property.getPermissionAndOperation item.type with
      | none => false
      | some (permissions, _) => permissions &&& permissionAuthorizationNeed ≠ 0

/-- `SSAPS_ReadMultiHandleItem`: an error code, or a value that may be absent.
A failed check leaves the result as `SSAPS_InitReadResultItem` made it. -/
def readMultiHandleItem (server : Server) (link : Link) (item : Item) :
    Except ErrCode (Option Bytes) :=
  match server.table.getPropertyByHandle item.handle with
  | none => .error .invalidHandle
  | some property =>
    match property.getPermissionAndOperation item.type with
    | none => .error .dataType
    | some (permissions, opIndication) =>
      match server.readControlCheck opIndication permissions link with
      | .success =>
        match getPropertyValue link property item.type with
        | .ok value => .ok (some value)
        | .error errorCode => .error errorCode
      | _ => .ok none

/-- `SSAPS_SerializeMultiReadItem`.  The buffer is allocated for exactly these
items, so its bounds are met. -/
def serializeMultiReadItem : Except ErrCode (Option Bytes) → Bytes
  | .error errorCode => encode16 errorCode.value.toNat
  | .ok none => encode16 0x8000
  | .ok (some value) => encode16 (value.length + 0x8000) ++ value

def sendMultiReadReqRsp (results : List (Except ErrCode (Option Bytes))) :
    Bytes :=
  let hasError := results.any fun result => !result.isOk
  [MsgCode.readRsp.value, ctrlNoFrag + 4 + if hasError then 8 else 0] ++
    results.flatMap serializeMultiReadItem

def readReqItems : Bytes → List Item
  | low :: high :: type :: rest =>
    ⟨low.toNat + 256 * high.toNat, type⟩ :: readReqItems rest
  | _ => []

/-- `SSAPS_ReadReqHandle` with `SSAPS_ReadReqHandlePreCheck` -/
def readReqHandle (server : Server) (link : Link) (pdu : Bytes) : Outcome :=
  if pdu.length > stackMtuMax then
    (server, some (pduErrorRsp .readReq 0 .invalidPdu))
  else if pdu.length < 5 ∨ (pdu.length - 2) % 3 ≠ 0 then
    (server, some (pduErrorRsp .readReq 0 .invalidPdu))
  else if byteAt pdu 4 > descTypePropertyFormat then
    (server, some (pduErrorRsp .readReq 0 .unsupportPdu))
  else if byteAt pdu 1 &&& ctrlNoFrag ≠ ctrlNoFrag then
    (server, some (sendReadReqRsp (.error .serverFrag)))
  else
    match readReqItems (pdu.drop 2) with
    | [item] => server.readSingleHandleReq link item
    | items =>
      if server.checkMultiReadAuthNeed items then
        (server, some (pduErrorRsp .readReq (decode16 pdu 2) .itemOverLimit))
      else
        (server, some (sendMultiReadReqRsp
          (items.map (server.readMultiHandleItem link))))

def ssapStdBaseUuid : Bytes :=
  [0x37, 0xBE, 0xA8, 0x80, 0xFC, 0x70, 0x11, 0xEA, 0xB7, 0x20, 0x00, 0x00,
    0x00, 0x00, 0x00, 0x00]

def getUuidFromPktBuf (srcBuf : Bytes) : Bytes :=
  ssapStdBaseUuid.take (16 - srcBuf.length) ++ srcBuf.reverse

structure ReadByUuidReq where
  handleStart : Nat
  handleEnd : Nat
  dataType : UInt8
  uuid : Bytes

def sendReadByUuidReqErrorRsp (errorCode : ErrCode) (handle : Nat) : Bytes :=
  [MsgCode.readByUuidRsp.value, ctrlNoFrag + 8] ++ encode16 handle ++
    encode16 errorCode.value.toNat

/-- `SSAPS_ReadByUuidReqPreHandle` with `SSAPS_ReadByUuidReqHandleCheck`: the
request, or what is sent instead. -/
def readByUuidReqPreHandle (pdu : Bytes) :
    Except (Option Bytes) ReadByUuidReq :=
  let handleStart := decode16 pdu 2
  let handleEnd := decode16 pdu 4
  let payloadLen :=
    if byteAt pdu 1 &&& 1 = 0 then readByStandardUuidReqPktLen
    else readByCustomUuidReqPktLen
  if pdu.length > stackMtuMax then .error none
  else if pdu.length ≠ readByStandardUuidReqPktLen ∧
      pdu.length ≠ readByCustomUuidReqPktLen then
    .error (some (pduErrorRsp .readByUuidReq 0 .invalidPdu))
  else if byteAt pdu 6 > descTypePropertyFormat then
    .error (some (pduErrorRsp .readByUuidReq 0 .unsupportPdu))
  else if payloadLen ≠ pdu.length then
    .error (some (sendReadByUuidReqErrorRsp .invalidPdu handleStart))
  else if handleStart > handleEnd ∨ handleStart = 0 then
    .error (some (sendReadByUuidReqErrorRsp .invalidHandle handleStart))
  else
    .ok
      { handleStart
        handleEnd
        dataType := byteAt pdu 6
        uuid := getUuidFromPktBuf (pdu.drop readByUuidReqUuidOffset) }

def readByUuidCheckError (server : Server) (link : Link)
    (property : Property) (dataType : UInt8) : ErrCode :=
  match property.getPermissionAndOperation dataType with
  | none => .dataType
  | some (permissions, opIndication) =>
    if opIndication &&& operateIndicationRead = 0 then .forbidRead
    else if permissions &&& permissionAuthenticationNeed ≠ 0 ∧
        ¬ server.smIsSLinkAuthComplete link.lcid then .unauthenticated
    else if permissions &&& permissionEncryptionNeed ≠ 0 ∧
        ¬ server.smIsSLinkEncryptComplete link.lcid then .unencrypted
    else .success

/-- The length `SSAPS_ReadByUuidReqRspLen` reserves for one of several
properties. -/
def appendLen (link : Link) (dataType : UInt8) (property : Property) : Nat :=
  match getPropertyValue link property dataType with
  | .ok value => 4 + value.length
  | .error _ => 4

/-- The loop of `SSAPS_ReadByUuidReqRspLen`, which stops before the sum leaves
16 bits. -/
def appendLens (link : Link) (dataType : UInt8) :
    Nat → List Property → Nat
  | dataLen, [] => dataLen
  | dataLen, property :: properties =>
    if dataLen > uint16Max - appendLen link dataType property then dataLen
    else
      appendLens link dataType (dataLen + appendLen link dataType property)
        properties

def readByUuidReqRspLen (link : Link) (findProperty : List Property)
    (dataType : UInt8) : Nat :=
  match findProperty with
  | [property] =>
    match getPropertyValue link property dataType with
    | .ok value => max 4 (2 + value.length)
    | .error _ => 4
  | properties => appendLens link dataType 0 properties

def readByUuidItem (server : Server) (link : Link) (dataType : UInt8)
    (several : Bool) (property : Property) : Except ErrCode Bytes :=
  match server.readByUuidCheckError link property dataType with
  | .success =>
    match getPropertyValue link property dataType with
    | .error errorCode => .error errorCode
    | .ok value =>
      if several then
        .ok (encode16 property.handle ++
          encode16 (value.length + 0x8000) ++ value)
      else .ok (encode16 property.handle ++ value)
  | errorCode => .error errorCode

/-- `SSAPS_AddOneErrorItem`, `SSAPS_AddMultiOneItem` and
`SSAPS_AddSingleItem` -/
def addItem (handle : Nat) : Except ErrCode Bytes → Bytes
  | .error errorCode => encode16 handle ++ encode16 errorCode.value.toNat
  | .ok item => item

/-- The loop of `SSAPS_ReadByUuidReqRspPkt`: the items, and whether an error
and a value are among them, unless the reserved length runs out. -/
def readByUuidItems (server : Server) (link : Link) (dataType : UInt8)
    (several : Bool) : Nat → List Property → Option (Bytes × Bool × Bool)
  | _, [] => some ([], false, false)
  | leftLen, property :: properties =>
    let item := server.readByUuidItem link dataType several property
    let bytes := addItem property.handle item
    if leftLen < bytes.length then none
    else
      (readByUuidItems server link dataType several
        (leftLen - bytes.length) properties).map
        fun (later, errorFlag, valueFlag) =>
          (bytes ++ later, !item.isOk || errorFlag, item.isOk || valueFlag)

def sendReadByUuidReqRsp (link : Link) (data : Bytes)
    (multiFlag errorFlag : Bool) : Bytes :=
  if data.length > link.mtu - pduBaseLen then
    sendReadByUuidReqErrorRsp .serverFrag 0
  else
    [MsgCode.readByUuidRsp.value, ctrlNoFrag + (if multiFlag then 4 else 0) +
        (if errorFlag then 8 else 0)] ++ data

def readByUuidAnswer (server : Server) (link : Link) (dataType : UInt8)
    (properties : List Property) : Option Bytes :=
  let several := decide (properties.length > 1)
  (server.readByUuidItems link dataType several
      (readByUuidReqRspLen link properties dataType) properties).map
    fun (data, errorFlag, valueFlag) =>
      sendReadByUuidReqRsp link data (several && valueFlag) errorFlag

def findPropertys (server : Server) (request : ReadByUuidReq) :
    List Property :=
  server.table.getPropertyByUuid request.handleStart request.handleEnd
    request.uuid

def readByUuidReqHandle (server : Server) (link : Link) (pdu : Bytes) :
    Outcome :=
  match readByUuidReqPreHandle pdu with
  | .error response => (server, response)
  | .ok request =>
    match server.findPropertys request with
    | [] =>
      (server, some
        (sendReadByUuidReqErrorRsp .itemInexist request.handleStart))
    | properties =>
      (server, server.readByUuidAnswer link request.dataType properties)

/-- The bit of the operation indication `SSAPS_WriteControlCheck` looks
at. -/
def writeIndication (opIndication : UInt32) (type : UInt8) (opCode : MsgCode) : UInt32 :=
  if type = typeData then
    match opCode with
    | .writeCmd => opIndication &&& operateIndicationWriteNoRsp
    | .writeReq => opIndication &&& operateIndicationWrite
    | _ => 0
  else if type = descTypePropertyInstruction then
    opIndication &&& operateIndicationDescritorWrite
  else if type = descTypeClientConfig then
    opIndication &&& operateIndicationClientConfigurationWrite
  else if type = descTypeServerConfig then
    opIndication &&& operateIndicationServerConfigurationWrite
  else 0

def writeControlCheck (server : Server) (link : Link) (opIndication : UInt32)
    (permissions : UInt8) (type : UInt8) (opCode : MsgCode) : ErrCode :=
  if writeIndication opIndication type opCode = 0 then .forbidWrite
  else if permissions &&& permissionAuthenticationNeed ≠ 0 ∧
      ¬ server.smIsSLinkAuthComplete link.lcid then .unauthenticated
  else if permissions &&& permissionEncryptionNeed ≠ 0 ∧
      ¬ server.smIsSLinkEncryptComplete link.lcid then .unencrypted
  else .success

def buildWriteRspErrorPayload (errorCode : ErrCode) (handle : Nat) : Bytes :=
  [MsgCode.writeRsp.value, ctrlNoFrag + 4, 1] ++ encode16 handle ++
    [errorCode.value]

def buildWriteRspPayload (operation : BufferedOperation) : Bytes :=
  [MsgCode.writeRsp.value, ctrlNoFrag] ++
    if operation.controlCode &&& writeReqNeedOriginRet ≠ 0 then
      encode16 operation.propertyHandle ++ [operation.dataType] ++
        operation.value
    else []

def sendWriteReqRsp (errorCode : ErrCode) (operation : BufferedOperation) :
    Bytes :=
  if errorCode ≠ .success then
    buildWriteRspErrorPayload errorCode operation.propertyHandle
  else buildWriteRspPayload operation

/-- `SSAPS_WriteReqHandleComposeOperation` and
`SSAPS_WriteCmdHandleComposeOperation` -/
def composeOperation (msgCode : MsgCode) (link : Link) (pdu : Bytes) :
    BufferedOperation where
  msgCode
  controlCode := byteAt pdu 1
  addr := link.addr
  requestId := 0
  propertyHandle := decode16 pdu 2
  dataType := byteAt pdu 4
  value := pdu.drop writeDataOffset

def writeSingleItem (server : Server) (link : Link)
    (operation : BufferedOperation) : Outcome :=
  match server.table.getPropertyByHandle operation.propertyHandle with
  | none => (server, some (sendWriteReqRsp .invalidHandle operation))
  | some property =>
    match property.getPermissionAndOperation operation.dataType with
    | none => (server, some (sendWriteReqRsp .dataType operation))
    | some (permissions, opIndication) =>
      match server.writeControlCheck link opIndication permissions
          operation.dataType .writeReq with
      | .success =>
        if permissions &&& permissionAuthorizationNeed ≠ 0 then
          (server.pushOperationPenddingVector operation, none)
        else
          let updated := server.updatePropertyValue property
            operation.dataType operation.value link.addr
          (updated.1, some (sendWriteReqRsp updated.2 operation))
      | errorCode => (server, some (sendWriteReqRsp errorCode operation))

def writeSingleHandleReq (server : Server) (link : Link) (pdu : Bytes) :
    Outcome :=
  let operation := composeOperation .writeReq link pdu
  if pdu.length ≤ writeDataOffset then
    (server, some (pduErrorRsp .writeReq 0 .invalidPdu))
  else if operation.dataType > descTypePropertyFormat then
    (server, some
      (pduErrorRsp .writeReq operation.propertyHandle .unsupportPdu))
  else server.writeSingleItem link operation

def writeSingleCmdHandle (server : Server) (link : Link) (pdu : Bytes) :
    Server :=
  let operation := composeOperation .writeCmd link pdu
  if pdu.length ≤ writeDataOffset then server
  else
    match server.table.getPropertyByHandle operation.propertyHandle with
    | none => server
    | some property =>
      match property.getPermissionAndOperation operation.dataType with
      | none => server
      | some (permissions, opIndication) =>
        match server.writeControlCheck link opIndication permissions
            operation.dataType .writeCmd with
        | .success =>
          if permissions &&& permissionAuthorizationNeed ≠ 0 then
            server.pushOperationPenddingVector operation
          else
            (server.updatePropertyValue property operation.dataType
              operation.value link.addr).1
        | _ => server

structure MultiSubItem where
  type : UInt8
  value : Bytes
  deriving DecidableEq

structure MultiItem where
  handle : Nat
  subItems : List MultiSubItem

/-- The loop of `SSAPS_GetNextMultiItemPos`. -/
def multiSubItems : Nat → Bytes → Option (List MultiSubItem × Bytes)
  | 0, rest => some ([], rest)
  | count + 1, type :: low :: high :: rest =>
    let len := low.toNat + 256 * high.toNat
    if rest.length < len then none
    else
      (multiSubItems count (rest.drop len)).map fun (subItems, left) =>
        (⟨type, rest.take len⟩ :: subItems, left)
  | _ + 1, _ => none

/-- `SSAPS_CalculateWriteItemCount`, which walks over the items and fails on a
truncated one.  An item takes three bytes at least, so the length of the
payload bounds the number of items. -/
def multiItems : Nat → Bytes → Option (List MultiItem)
  | _, [] => some []
  | fuel + 1, low :: high :: count :: rest =>
    (multiSubItems count.toNat rest).bind fun (subItems, left) =>
      (multiItems fuel left).map fun items =>
        ⟨low.toNat + 256 * high.toNat, subItems⟩ :: items
  | _, _ => none

def writeItems (pdu : Bytes) : Option (List MultiItem) :=
  multiItems pdu.length (pdu.drop 2)

/-- `SSAP_LoopControlType_E` with what each case carries. -/
inductive LoopControl where
  | retTrue (errCode : ErrCode)
  | retFalse
  | continue
  | normalExecution
  deriving DecidableEq

/-- `SSAPS_ValidateSubItem` and `SSAPS_ValidateCmdSubItem`.  The first one
sends an error on `LOOP_RET_FALSE`. -/
def validateSubItem (server : Server) (link : Link) (opCode : MsgCode)
    (subItem : MultiSubItem) (property : Property) : LoopControl :=
  if subItem.type > descTypePropertyFormat then .retTrue .dataType
  else
    match property.getPermissionAndOperation subItem.type with
    | none => .retTrue .dataType
    | some (permissions, opIndication) =>
      match server.writeControlCheck link opIndication permissions
          subItem.type opCode with
      | .success =>
        if permissions &&& permissionAuthorizationNeed ≠ 0 then .retFalse
        else if subItem.value.length = 0 then .continue
        else .normalExecution
      | errorCode => .retTrue errorCode

structure WriteResultItem where
  handle : Nat
  errorCode : ErrCode
  originData : List MultiSubItem

/-- The loop of `SSAPS_WriteMultiHandleItem` with
`SSAPS_ExecWriteMultiSubItem`: the server, and the result unless the whole
request is given up. -/
def writeMultiHandleItem (server : Server) (link : Link)
    (property : Property) (result : WriteResultItem) :
    List MultiSubItem → Server × Option WriteResultItem
  | [] => (server, some result)
  | subItem :: subItems =>
    match server.validateSubItem link .writeReq subItem property with
    | .retTrue errorCode => (server, some { result with errorCode })
    | .retFalse => (server, none)
    | .continue =>
      server.writeMultiHandleItem link property
        { result with errorCode := .success } subItems
    | .normalExecution =>
      let updated := server.updatePropertyValue property subItem.type
        subItem.value link.addr
      if updated.2 ≠ .success then
        (updated.1, some { result with errorCode := updated.2 })
      else if result.originData.length ≥ descTypeMax then
        (updated.1, none)
      else
        updated.1.writeMultiHandleItem link property
          { result with
            errorCode := .success
            originData := result.originData ++ [subItem] } subItems

/-- A round of the loop of `SSAPS_WriteMultiHandleReq`. -/
def writeMultiItem (server : Server) (link : Link) (item : MultiItem) :
    Server × Option WriteResultItem :=
  if item.subItems = [] then
    (server, some ⟨item.handle, .invalidHandle, []⟩)
  else
    match server.table.getPropertyByHandle item.handle with
    | none => (server, some ⟨item.handle, .invalidHandle, []⟩)
    | some property =>
      server.writeMultiHandleItem link property
        ⟨item.handle, .success, []⟩ item.subItems

/-- The loop of `SSAPS_WriteMultiHandleReq`. -/
def writeMultiHandleItems (server : Server) (link : Link) :
    List MultiItem → Server × Option (List WriteResultItem)
  | [] => (server, some [])
  | item :: items =>
    let written := server.writeMultiItem link item
    match written.2 with
    | none => (written.1, none)
    | some result =>
      let later := written.1.writeMultiHandleItems link items
      (later.1, later.2.map (result :: ·))

def appendMultiOriginValue (result : WriteResultItem) : Bytes :=
  encode16 result.handle ++ [UInt8.ofNat result.originData.length] ++
    result.originData.flatMap fun subItem =>
      subItem.type :: (encode16 subItem.value.length ++ subItem.value)

def sendMultiWriteReqRsp (results : List WriteResultItem)
    (controlCode : UInt8) : Bytes :=
  let failed := results.filter fun result => result.errorCode ≠ .success
  let written := results.filter fun result => result.errorCode = .success
  let origin :=
    if controlCode &&& writeReqNeedOriginRet ≠ 0 then
      written.flatMap appendMultiOriginValue
    else []
  if failed.length ≥ maxWriteErrorCount then
    pduErrorRsp .writeReq 0 .invalidPdu
  else if failed = [] then
    [MsgCode.writeRsp.value, ctrlNoFrag] ++ origin
  else
    [MsgCode.writeRsp.value, ctrlNoFrag + 4, UInt8.ofNat failed.length] ++
      failed.flatMap (fun result =>
        encode16 result.handle ++ [result.errorCode.value]) ++ origin

def writeMultiHandleReq (server : Server) (link : Link) (pdu : Bytes) :
    Outcome :=
  match writeItems pdu with
  | none => (server, some (pduErrorRsp .writeReq 0 .invalidPdu))
  | some items =>
    let written := server.writeMultiHandleItems link items
    match written.2 with
    | none => (written.1, some (pduErrorRsp .writeReq 0 .unsupportPdu))
    | some results =>
      (written.1, some (sendMultiWriteReqRsp results (byteAt pdu 1)))

/-- `SSAPS_WriteMultiHandleCmdItem`: the server, and whether to go on with the
next item. -/
def writeMultiHandleCmdItem (server : Server) (link : Link)
    (property : Property) : List MultiSubItem → Server × Bool
  | [] => (server, true)
  | subItem :: subItems =>
    match server.validateSubItem link .writeCmd subItem property with
    | .retTrue _ => (server, true)
    | .retFalse => (server, false)
    | .continue => server.writeMultiHandleCmdItem link property subItems
    | .normalExecution =>
      let updated := server.updatePropertyValue property subItem.type
        subItem.value link.addr
      if updated.2 ≠ .success then (updated.1, true)
      else updated.1.writeMultiHandleCmdItem link property subItems

/-- The loop of `SSAPS_WriteMultiHandleCmd`. -/
def writeMultiHandleCmdItems (server : Server) (link : Link) :
    List MultiItem → Server
  | [] => server
  | item :: items =>
    match server.table.getPropertyByHandle item.handle with
    | none => server.writeMultiHandleCmdItems link items
    | some property =>
      let written :=
        server.writeMultiHandleCmdItem link property item.subItems
      if written.2 then written.1.writeMultiHandleCmdItems link items
      else written.1

def writeMultiHandleCmd (server : Server) (link : Link) (pdu : Bytes) :
    Server :=
  match writeItems pdu with
  | none => server
  | some items => server.writeMultiHandleCmdItems link items

/-- `ctrl.oper` of a write. -/
def ctrlOper (pdu : Bytes) : UInt8 := byteAt pdu 1 >>> 3 &&& 3

/-- `ctrl.fragment` of a request. -/
def ctrlFragment (pdu : Bytes) : UInt8 := byteAt pdu 1 &&& 3

/-- `ctrl.multi` of a write. -/
def ctrlMulti (pdu : Bytes) : UInt8 := byteAt pdu 1 >>> 2 &&& 1

def writeReqHandle (server : Server) (link : Link) (pdu : Bytes) : Outcome :=
  if pdu.length > stackMtuMax then
    (server, some (pduErrorRsp .writeReq 0 .invalidPdu))
  else if pdu.length ≤ 2 then
    (server, some (pduErrorRsp .writeReq 0 .invalidPdu))
  else if ctrlOper pdu ≠ 0 then
    (server, some (pduErrorRsp .writeReq 0 .unsupportPdu))
  else if ctrlFragment pdu ≠ ctrlNoFrag then
    (server, some (buildWriteRspErrorPayload .serverFrag 0))
  else if ctrlMulti pdu = 0 then server.writeSingleHandleReq link pdu
  else server.writeMultiHandleReq link pdu

def writeCmdHandle (server : Server) (link : Link) (pdu : Bytes) : Server :=
  if pdu.length > stackMtuMax then server
  else if pdu.length ≤ 2 then server
  else if ctrlOper pdu ≠ 0 ∨ ctrlFragment pdu ≠ ctrlNoFrag then server
  else if ctrlMulti pdu = 0 then server.writeSingleCmdHandle link pdu
  else server.writeMultiHandleCmd link pdu

def negotiate (mtu : Nat) (link : Link) : Link where
  addr := link.addr
  lcid := link.lcid
  mtu := min (max stackMtuDefault (min mtu stackMtuMax)) link.mtu
  mtuLow := by
    have low := link.mtuLow
    omega
  mtuHigh := by
    have high := link.mtuHigh
    omega

/-- `SSAPS_ExchangeInfoReqHandle`.  The version of the link plays no role in
the handlers below. -/
def exchangeInfoReqHandle (server : Server) (link : Link) (pdu : Bytes) :
    Outcome :=
  if pdu.length > stackMtuMax ∨ pdu.length < exchangeInfoPktLen then
    (server, none)
  else
    let exchanged :=
      if byteAt pdu 1 &&& 1 ≠ 0 then negotiate (decode16 pdu 2) link
      else link
    ({ server with
        links := modify Link.lcid link.lcid (fun _ => exchanged)
          server.links },
      some ([MsgCode.exchangeInfoRsp.value, 0x23] ++
        encode16 exchanged.mtu ++ encode16 exchangeVersion))

def methodErrorProcess (msgCode : MsgCode) (errorCode : ErrCode)
    (handle : Nat) : Option Bytes :=
  if msgCode = .callMethodReq then
    some (pduErrorRsp .callMethodReq handle errorCode)
  else none

def methodCallCheck (server : Server) (permissions : UInt8) (link : Link) :
    ErrCode :=
  if permissions &&& permissionAuthenticationNeed ≠ 0 ∧
      ¬ server.smIsSLinkAuthComplete link.lcid then .unauthenticated
  else if permissions &&& permissionEncryptionNeed ≠ 0 ∧
      ¬ server.smIsSLinkEncryptComplete link.lcid then .unencrypted
  else .success

def methodHandle (server : Server) (link : Link) (msgCode : MsgCode)
    (pdu : Bytes) : Outcome :=
  let handle := decode16 pdu 2
  if pdu.length > stackMtuMax then (server, none)
  else if pdu.length < methodReqPduMinLen then
    (server, methodErrorProcess msgCode .invalidPdu 0)
  else if ctrlFragment pdu ≠ ctrlNoFrag then
    (server, methodErrorProcess msgCode .serverFrag handle)
  else
    match server.table.getMethodByHandle handle with
    | none =>
      if server.table.isHandleExist handle then
        (server, methodErrorProcess msgCode .methodAccess handle)
      else (server, methodErrorProcess msgCode .invalidHandle handle)
    | some method =>
      match server.methodCallCheck method.permission link with
      | .success =>
        (server.pushOperationPenddingVector
          { msgCode
            controlCode := byteAt pdu 1
            addr := link.addr
            requestId := 0
            propertyHandle := handle
            dataType := 0
            value := pdu.drop methodReqPduMinLen }, none)
      | errorCode => (server, methodErrorProcess msgCode errorCode handle)

def sendUserResponseCaseWrite (server : Server)
    (operation : BufferedOperation) : Outcome :=
  let respond (errorCode : ErrCode) : Option Bytes :=
    if operation.msgCode = .writeReq then
      some (sendWriteReqRsp errorCode operation)
    else none
  match server.table.getPropertyByHandle operation.propertyHandle with
  | none => (server, respond .itemInexist)
  | some property =>
    let updated := server.updatePropertyValue property operation.dataType
      operation.value operation.addr
    (updated.1, respond updated.2)

/-- `SSAPS_SendUserResponseCaseRead`.  The application may send a value along,
which is stored before the item is read. -/
def sendUserResponseCaseRead (server : Server) (link : Link)
    (operation : BufferedOperation) (param : SendResponseValue) : Outcome :=
  match server.table.getPropertyByHandle operation.propertyHandle with
  | none => (server, some (sendReadReqRsp (.error .itemInexist)))
  | some property =>
    if param.data.length ≠ 0 then
      let updated := (server.updatePropertyValue property
        operation.dataType param.data operation.addr).1
      let current := (property.updatePropertyValue operation.dataType
        param.data operation.addr).getD property
      (updated, some
        (sendReadReqRsp (getPropertyValue link current operation.dataType)))
    else
      (server, some (sendReadReqRsp
        (getPropertyValue link property operation.dataType)))

/-- The switch of `SSAPS_SendUserResponse`. -/
def resume (server : Server) (link : Link) (operation : BufferedOperation)
    (param : SendResponseValue) : Outcome :=
  match operation.msgCode with
  | .readReq =>
    if param.status = authAllow then
      server.sendUserResponseCaseRead link operation param
    else (server, some (sendReadReqRsp (.error .unauthorized)))
  | .writeCmd =>
    if param.status = authAllow then
      server.sendUserResponseCaseWrite operation
    else (server, none)
  | .writeReq =>
    if param.status = authAllow then
      server.sendUserResponseCaseWrite operation
    else (server, some (sendWriteReqRsp .unauthorized operation))
  | _ => (server, none)

def sendUserResponse (server : Server) (param : SendResponseValue) :
    Outcome :=
  match server.popOperationPenddingVector param.requestId with
  | none => (server, none)
  | some operation =>
    match server.findSsapLinkByAddr operation.addr with
    | none => (server.removePending param.requestId, none)
    | some link =>
      let resumed := server.resume link operation param
      (resumed.1.removePending param.requestId, resumed.2)

/-- `SSAPS_SendMethodCallRes` with the requestId and the result. -/
def sendMethodCallRes (server : Server) (requestId : UInt16) (data : Bytes) : Outcome :=
  match server.popOperationPenddingVector requestId with
  | none => (server, none)
  | some operation =>
    match server.findSsapLinkByAddr operation.addr with
    | none => (server.removePending requestId, none)
    | some _ =>
      (server.removePending requestId,
        if operation.msgCode = .callMethodReq then
          some ([MsgCode.callMethodRsp.value, ctrlNoFrag] ++ data)
        else none)

/-- `SSAP_Recv` with `SSAP_DataDispatch` for the requests to a server. -/
def dispatch (server : Server) (link : Link) (pdu : Bytes) : Outcome :=
  match pdu.head? with
  | none => (server, none)
  | some op =>
    match MsgCode.ofByte op with
    | none =>
      (server, some ([MsgCode.errorRsp.value, 0, op] ++ encode16 0 ++
        [ErrCode.unsupportPdu.value]))
    | some .exchangeInfoReq => server.exchangeInfoReqHandle link pdu
    | some .readReq => server.readReqHandle link pdu
    | some .readByUuidReq => server.readByUuidReqHandle link pdu
    | some .writeCmd => (server.writeCmdHandle link pdu, none)
    | some .writeReq => server.writeReqHandle link pdu
    | some .callMethodCmd => server.methodHandle link .callMethodCmd pdu
    | some .callMethodReq => server.methodHandle link .callMethodReq pdu
    | some _ => (server, none)

end Server

inductive Event where
  /-- `SSAP_CMLogicLinkCbk` with a new link and the MTU of the server. -/
  | connected (addr : Addr) (lcid : Nat)
      (mtu : { mtu : Nat // stackMtuDefault ≤ mtu ∧ mtu ≤ stackMtuMax })
  /-- `SSAP_CMLogicLinkCbk` with a link that is gone. -/
  | disconnected (addr : Addr)
  | security (authComplete encryptComplete : Nat → Bool)
  | recv (lcid : Nat) (pdu : Bytes)
  | userResponse (param : SendResponseValue)
  | methodCallRes (requestId : UInt16) (data : Bytes)

namespace Server

def step (server : Server) : Event → Outcome
  | .connected addr lcid mtu =>
    ({ server with
        links := server.links ++
          [⟨addr, lcid, mtu.1, mtu.2.1, mtu.2.2⟩] }, none)
  | .disconnected addr =>
    ({ server with
        links := remove Link.client addr.addr server.links
        table := server.table.cleanServiceCpcd addr }, none)
  | .security authComplete encryptComplete =>
    ({ server with
        smIsSLinkAuthComplete := authComplete
        smIsSLinkEncryptComplete := encryptComplete }, none)
  | .recv lcid pdu =>
    match server.findSsapLinkByLcid lcid with
    | none => (server, none)
    | some link => server.dispatch link pdu
  | .userResponse param => server.sendUserResponse param
  | .methodCallRes requestId data => server.sendMethodCallRes requestId data

def next (server : Server) (event : Event) : Server := (server.step event).1

def sent (server : Server) (event : Event) : Option Bytes :=
  (server.step event).2

def answered (server : Server) : Event → Option BufferedOperation
  | .userResponse param => server.popOperationPenddingVector param.requestId
  | .methodCallRes requestId _ => server.popOperationPenddingVector requestId
  | _ => none

def recipient (server : Server) : Event → Option Link
  | .recv lcid _ => server.findSsapLinkByLcid lcid
  | event =>
    (server.answered event).bind fun operation =>
      server.findSsapLinkByAddr operation.addr

def init (table : Table) : Server where
  table
  links := []
  pending := []
  penddingRequestId := 0
  smIsSLinkAuthComplete := fun _ => false
  smIsSLinkEncryptComplete := fun _ => false

end Server

end NearLink.Ssap
