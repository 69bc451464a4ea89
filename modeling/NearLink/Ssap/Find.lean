import NearLink.Ssap.Server

/-!
# Discovery requests

The handlers of `ssaps_server_find.c`.  A response carries as many entries as
the MTU has room for; a response of mixed entries has those with a standard
uuid first.  The length of an entry is that of its bytes, as the source adds it
up field by field, so all its payload builders take the longest run of entries
that fits.
-/

namespace NearLink.Ssap

open Sdf

def uuidStdBaseOffset : Nat := 14

inductive FindType where
  | serviceStructure
  | primaryService
  | referenceService
  | property
  | method
  | event

def FindType.ofByte (byte : UInt8) : Option FindType :=
  if byte = 0 then some .serviceStructure
  else if byte = 1 then some .primaryService
  else if byte = 2 then some .referenceService
  else if byte = 3 then some .property
  else if byte = 4 then some .method
  else if byte = 5 then some .event
  else none

inductive FindItemType where
  | standard
  | customize
  | mix

namespace FindItemType

def value : FindItemType → UInt8
  | standard => 0
  | customize => 1
  | mix => 2

def ofByte (byte : UInt8) : Option FindItemType :=
  if byte = 0 then some standard
  else if byte = 1 then some customize
  else if byte = 2 then some mix
  else none

end FindItemType

/-- `SSAP_UuidType_E`; events are not implemented. -/
inductive UuidType where
  | service
  | property
  | method
  | unknown
  deriving DecidableEq

/-- `SSAP_PduFindStructReq_S` -/
structure FindReq where
  msgCode : MsgCode
  findType : UInt8
  itemType : UInt8
  multiRsp : Bool
  startHandle : Nat
  endHandle : Nat
  uuid : Option Bytes

def FindReq.covers (req : FindReq) (handle : Nat) : Bool :=
  req.startHandle ≤ handle && handle ≤ req.endHandle

def FindReq.names (req : FindReq) (uuid : Bytes) : Bool :=
  match req.uuid with
  | none => true
  | some wanted => uuid == wanted

structure FindEntry where
  isStdUuid : Bool
  bytes : Bytes

def checkUuidStd (uuid : Bytes) : Bool :=
  uuid.take uuidStdBaseOffset == Server.ssapStdBaseUuid.take uuidStdBaseOffset

def putUuidToPktBuf (uuid : Bytes) : Bytes :=
  if checkUuidStd uuid then (uuid.drop uuidStdBaseOffset).reverse
  else uuid.reverse

def checkFindItemType (uuid : Bytes) : FindItemType → Bool
  | .mix => true
  | .standard => checkUuidStd uuid
  | .customize => !checkUuidStd uuid

/-- `SSAP_UINT32_TO_BYTE_LITTLE` -/
def encode32 (value : UInt32) : Bytes :=
  encode16 value.toNat ++ encode16 (value.toNat / 65536)

/-- `memberValue` of `CopyToServiceInfo`. -/
def Service.memberValue (service : Service) : UInt8 :=
  (if service.properties = [] then 0 else 2) +
    (if service.methods = [] then 0 else 4)

def Service.primaryServiceInfo (service : Service) : FindEntry where
  isStdUuid := checkUuidStd service.uuid
  bytes := encode16 service.handle ++ encode16 service.endHandle ++
    putUuidToPktBuf service.uuid ++ [service.memberValue]

def Service.primaryServiceInfoV10 (service : Service) : FindEntry where
  isStdUuid := checkUuidStd service.uuid
  bytes := encode16 service.handle ++ encode16 service.endHandle ++
    [service.memberValue]

/-- The descriptors `CopyToPropertyInfo` lists: none when their number does not
fit into a byte. -/
def Property.descriptorTypes (property : Property) : Bytes :=
  if property.descriptors.length ≤ 255 then
    property.descriptors.map Descriptor.type
  else []

def Property.propertyInfo (property : Property) : FindEntry where
  isStdUuid := checkUuidStd property.uuid
  bytes := encode16 property.handle ++ putUuidToPktBuf property.uuid ++
    encode32 property.operation ++
    [UInt8.ofNat property.descriptorTypes.length] ++ property.descriptorTypes

def Property.propertyInfoV10 (property : Property) : FindEntry where
  isStdUuid := checkUuidStd property.uuid
  bytes := encode16 property.handle ++ encode32 property.operation ++
    [UInt8.ofNat property.descriptorTypes.length] ++ property.descriptorTypes

/-- `BuildMethodInfo`, which ends with `SSAP_FIND_METHOD_EXTRA_LEN` zero
bytes. -/
def Method.methodInfo (method : Method) : FindEntry where
  isStdUuid := checkUuidStd method.uuid
  bytes := encode16 method.handle ++ putUuidToPktBuf method.uuid ++
    [0, 0, 0, 0, 0]

/-- `GetDescriptorCountLenByItemType` is not zero. -/
def hasDescriptorCount (itemType : UInt8) : Bool :=
  itemType ∈ [0, 1, 2, 3, 4, 8, 9, 10, 11, 12]

/-- `GetStartEndHandleLenByItemType` is not zero. -/
def hasStartEndHandle (itemType : UInt8) : Bool := itemType ∈ [5, 13]

/-- `GetOperationLenByItemType` is not zero. -/
def hasOperation (itemType : UInt8) : Bool :=
  itemType ∈ [2, 3, 4, 10, 11, 12]

/-- `BuildStructureInfo`.  The handles of a reference are never set. -/
def structureInfo (handle : Nat) (itemType : UInt8) (uuid : Bytes)
    (operation : UInt32) (descriptors : Bytes) : FindEntry where
  isStdUuid := checkUuidStd uuid
  bytes := encode16 handle ++ [itemType] ++ putUuidToPktBuf uuid ++
    (if hasStartEndHandle itemType then encode16 0 ++ encode16 0 else []) ++
    (if hasOperation itemType then encode32 operation else []) ++
    (if hasDescriptorCount itemType then
      UInt8.ofNat descriptors.length :: descriptors else [])

/-- `CreateServiceStructureInfo`; a service has no descriptors. -/
def Service.structureInfo (service : Service) : FindEntry :=
  Ssap.structureInfo service.handle service.serviceType service.uuid 0 []

/-- `CreatePropertyStructureInfo`, which truncates the number of descriptors
to a byte. -/
def Property.structureInfo (property : Property) : FindEntry :=
  Ssap.structureInfo property.handle
    (if checkUuidStd property.uuid then 2 else 10) property.uuid
    property.operation
    ((property.descriptors.map Descriptor.type).take
      (property.descriptors.length % 256))

def Method.structureInfo (method : Method) : FindEntry :=
  Ssap.structureInfo method.handle
    (if checkUuidStd method.uuid then 3 else 11) method.uuid 0 []

def fitting : Nat → List FindEntry → List FindEntry
  | _, [] => []
  | leftSize, entry :: entries =>
    if entry.bytes.length ≤ leftSize then
      entry :: fitting (leftSize - entry.bytes.length) entries
    else []

/-- `BuildPrimaryServicePayload`, `BuildPropertyPayload`,
`BuildMethodPayload`, `BuildStructurePayload` and the V10 ones. -/
def buildPayload (mtu : Nat) (entries : List FindEntry) : Bytes :=
  (fitting (mtu - pduBaseLen) entries).flatMap FindEntry.bytes

/-- `SSAP_FindInfoIndicator_S`, whose count has seven bits. -/
def indicator (count : Nat) (type : Nat) : UInt8 :=
  UInt8.ofNat (count % 128 + 128 * type)

/-- `BuildMixPrimaryServicePayload`, `BuildMixPropertyPayload`,
`BuildMixMethodPayload` and the V10 ones.  Of each kind as many entries are
filled in as were counted, which are those of the run that fits. -/
def buildMixPayload (mtu : Nat) (entries : List FindEntry) : Option Bytes :=
  let chosen := fitting (mtu - pduBaseLen - 2) entries
  let standard := chosen.filter FindEntry.isStdUuid
  let custom := chosen.filter fun entry => !entry.isStdUuid
  if standard.length > 255 ∨ custom.length > 255 then none
  else some (indicator standard.length 0 :: standard.flatMap FindEntry.bytes ++
    indicator custom.length 1 :: custom.flatMap FindEntry.bytes)

def payload (mtu : Nat) (itemType : FindItemType) (entries : List FindEntry) : Option Bytes :=
  match itemType with
  | .mix => buildMixPayload mtu entries
  | _ => some (buildPayload mtu entries)

namespace Table

def getUuidType (table : Table) (uuid : Bytes) : UuidType :=
  let types := table.services.flatMap fun service =>
    (service.uuid, UuidType.service) ::
      (service.properties.map fun property =>
        (property.uuid, UuidType.property)) ++
      (service.methods.map fun method => (method.uuid, UuidType.method))
  ((types.find? fun pair => pair.1 == uuid).map Prod.snd).getD .unknown

def findPrimaryServiceList (table : Table) (req : FindReq)
    (itemType : FindItemType) : List Service :=
  table.services.filter fun service =>
    req.names service.uuid && req.covers service.handle &&
      checkFindItemType service.uuid itemType

def findPrimaryServiceListV10 (table : Table) (req : FindReq) :
    List Service :=
  table.services.filter fun service =>
    req.names service.uuid && req.covers service.handle

/-- The services `FindPropertyListByService` and `FindMethodListByService`
look at: the first one with the uuid. -/
def servicesByUuid (table : Table) (uuid : Bytes) : List Service :=
  (table.services.find? fun service => service.uuid == uuid).toList

def findPropertyListByService (table : Table) (req : FindReq) (uuid : Bytes)
    (itemType : FindItemType) : List Property :=
  (allProperties (table.servicesByUuid uuid)).filter fun property =>
    req.covers property.handle && checkFindItemType property.uuid itemType

def findPropertyList (table : Table) (req : FindReq) (itemType : FindItemType) : List Property :=
  table.properties.filter fun property =>
    req.names property.uuid && req.covers property.handle &&
      checkFindItemType property.uuid itemType

def findPropertyListV10 (table : Table) (req : FindReq) : List Property :=
  table.properties.filter fun property =>
    req.names property.uuid && req.covers property.handle

def findMethodListByService (table : Table) (req : FindReq) (uuid : Bytes)
    (itemType : FindItemType) : List Method :=
  ((table.servicesByUuid uuid).flatMap Service.methods).filter fun method =>
    req.covers method.handle && checkFindItemType method.uuid itemType

def findMethodList (table : Table) (req : FindReq) (itemType : FindItemType) : List Method :=
  (table.services.flatMap Service.methods).filter fun method =>
    req.names method.uuid && req.covers method.handle &&
      checkFindItemType method.uuid itemType

/-- `FindStructureList` with `ShouldIncludeService` -/
def findStructureList (table : Table) (req : FindReq)
    (itemType : FindItemType) : List FindEntry :=
  (table.services.filter fun service =>
    (req.covers service.handle || req.covers service.endHandle) &&
      req.names service.uuid && checkFindItemType service.uuid itemType)
  |>.flatMap fun service =>
    (if req.covers service.handle then [service.structureInfo] else []) ++
      ((service.properties.filter fun property =>
        req.covers property.handle).map Property.structureInfo) ++
      ((service.methods.filter fun method =>
        req.covers method.handle).map Method.structureInfo)

end Table

namespace FindReq

/-- `SSAP_PduErrorRsp` for this request. -/
def errorRsp (req : FindReq) (handle : Nat) (errorCode : ErrCode) :
    Option Bytes :=
  some (pduErrorRsp req.msgCode handle errorCode)

/-- `SendFindRspPkt`, which sends nothing without a payload. -/
def sendFindRspPkt (req : FindReq) (itemType : FindItemType)
    (data : Option Bytes) : Option Bytes :=
  data.map fun data =>
    [(if req.msgCode = .findStructureReq then MsgCode.findStructureRsp
        else .findStructureByUuidRsp).value,
      ctrlNoFrag + 4 * itemType.value] ++ data

def sendEntries (req : FindReq) (mtu : Nat) (itemType : FindItemType)
    (entries : List FindEntry) : Option Bytes :=
  if entries = [] then req.errorRsp req.startHandle .itemInexist
  else req.sendFindRspPkt itemType (payload mtu itemType entries)

/-- The response to an old device, which knows standard and mixed entries
only. -/
def sendEntriesV10 (req : FindReq) (mtu : Nat) (entries : List FindEntry) :
    Option Bytes :=
  req.sendEntries mtu
    (if entries.any fun entry => !entry.isStdUuid then .mix else .standard)
    entries

end FindReq

namespace Server

def sendFindPrimaryServiceRsp (server : Server) (link : Link) (req : FindReq)
    (itemType : FindItemType) : Option Bytes :=
  if req.uuid.any fun uuid => server.table.getUuidType uuid ≠ .service then
    req.errorRsp req.startHandle .itemInexist
  else
    req.sendEntries link.mtu itemType
      ((server.table.findPrimaryServiceList req itemType).map
        Service.primaryServiceInfo)

def sendFindPrimaryServiceRspV10 (server : Server) (link : Link)
    (req : FindReq) : Option Bytes :=
  if req.uuid.any fun uuid => server.table.getUuidType uuid ≠ .service then
    req.errorRsp req.startHandle .itemInexist
  else
    req.sendEntriesV10 link.mtu
      ((server.table.findPrimaryServiceListV10 req).map
        (if req.msgCode = .findStructureReq then Service.primaryServiceInfo
          else Service.primaryServiceInfoV10))

def sendFindPropertyRsp (server : Server) (link : Link) (req : FindReq)
    (itemType : FindItemType) : Option Bytes :=
  let respond (properties : List Property) : Option Bytes :=
    req.sendEntries link.mtu itemType (properties.map Property.propertyInfo)
  match req.uuid with
  | none => respond (server.table.findPropertyList req itemType)
  | some uuid =>
    match server.table.getUuidType uuid with
    | .service =>
      respond (server.table.findPropertyListByService req uuid itemType)
    | .property => respond (server.table.findPropertyList req itemType)
    | _ => req.errorRsp req.startHandle .itemInexist

def sendFindPropertyRspV10 (server : Server) (link : Link) (req : FindReq) :
    Option Bytes :=
  if req.uuid.any fun uuid => server.table.getUuidType uuid ≠ .property then
    req.errorRsp req.startHandle .itemInexist
  else
    req.sendEntriesV10 link.mtu ((server.table.findPropertyListV10 req).map
        (if req.msgCode = .findStructureReq then Property.propertyInfo
          else Property.propertyInfoV10))

def sendFindMethodRsp (server : Server) (link : Link) (req : FindReq)
    (itemType : FindItemType) : Option Bytes :=
  let respond (methods : List Method) : Option Bytes :=
    req.sendEntries link.mtu itemType (methods.map Method.methodInfo)
  match req.uuid with
  | none => respond (server.table.findMethodList req itemType)
  | some uuid =>
    match server.table.getUuidType uuid with
    | .service =>
      respond (server.table.findMethodListByService req uuid itemType)
    | .method => respond (server.table.findMethodList req itemType)
    | _ => req.errorRsp req.startHandle .itemInexist

/-- `SendFindStructureRsp`.  The entries are not grouped by their uuids. -/
def sendFindStructureRsp (server : Server) (link : Link) (req : FindReq)
    (itemType : FindItemType) : Option Bytes :=
  let entries := server.table.findStructureList req itemType
  if req.uuid.any fun uuid => server.table.getUuidType uuid ≠ .service then
    req.errorRsp req.startHandle .invalidPdu
  else if entries = [] then req.errorRsp req.startHandle .itemInexist
  else req.sendFindRspPkt itemType (some (buildPayload link.mtu entries))

/-- `SendFindRsp`.  Whether a link leads to an old device is asked of the
connection manager. -/
def sendFindRsp (server : Server) (isOld : Nat → Bool) (link : Link)
    (req : FindReq) : Option Bytes :=
  match FindItemType.ofByte req.itemType, req.multiRsp with
  | none, _ => req.errorRsp 0 .unsupportPdu
  | some _, true => req.errorRsp 0 .unsupportPdu
  | some itemType, false =>
    match FindType.ofByte req.findType with
    | some .serviceStructure => server.sendFindStructureRsp link req itemType
    | some .primaryService =>
      if isOld link.lcid then server.sendFindPrimaryServiceRspV10 link req
      else server.sendFindPrimaryServiceRsp link req itemType
    | some .property =>
      if isOld link.lcid then server.sendFindPropertyRspV10 link req
      else server.sendFindPropertyRsp link req itemType
    | some .method => server.sendFindMethodRsp link req itemType
    | some .event => req.errorRsp 0 .itemInexist
    | _ => req.errorRsp 0 .unsupportPdu

def findReq (msgCode : MsgCode) (pdu : Bytes) : FindReq where
  msgCode
  findType := byteAt pdu 1 &&& 7
  itemType := byteAt pdu 1 >>> 3 &&& 3
  multiRsp := byteAt pdu 1 >>> 5 &&& 1 ≠ 0
  startHandle := decode16 pdu 2
  endHandle := decode16 pdu 4
  uuid := if pdu.length > 6 then some (getUuidFromPktBuf (pdu.drop 6))
    else none

def findReqHandle (server : Server) (isOld : Nat → Bool) (link : Link)
    (msgCode : MsgCode) (pdu : Bytes) : Option Bytes :=
  let req := findReq msgCode pdu
  if pdu.length > stackMtuMax then none
  else if msgCode = .findStructureReq ∧ pdu.length ≠ 6 then
    req.errorRsp 0 .invalidPdu
  else if msgCode = .findStructureByUuidReq ∧ pdu.length ≤ 6 then
    req.errorRsp 0 .invalidPdu
  else if req.startHandle > req.endHandle ∨ req.startHandle = 0 then
    req.errorRsp req.startHandle .invalidHandle
  else if pdu.length > 6 ∧ pdu.length ≠ 8 ∧ pdu.length ≠ 22 then
    req.errorRsp 0 .invalidPdu
  else server.sendFindRsp isOld link req

end Server

end NearLink.Ssap
