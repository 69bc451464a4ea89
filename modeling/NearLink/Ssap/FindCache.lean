import Mathlib.Data.List.Sort
import NearLink.Ssap.TaskQueue

/-!
# Found services

The cache of `ssapc_cache.c` for one address while services are looked for,
and the decoders of `ssapc_client.c` that fill it from find responses.
Allocation succeeds.  A decoder that only collects entries returns them as a
list; they are cached in the order of the list.
-/

namespace NearLink.Ssap

open Sdf

/-- `SSAP_START_HANDLE` -/
def startHandleMin : UInt16 := 0x0001

/-- `SSAP_END_HANDLE` -/
def endHandleMax : UInt16 := 0xFFFF

/-- `SSAP_BYTE_TO_UINT16_LITTLE` -/
def byteToUint16 (data : Bytes) : UInt16 := UInt16.ofNat (decode16 data 0)

/-- `SSAP_BYTE_TO_UINT32_LITTLE` -/
def byteToUint32 (data : Bytes) : UInt32 :=
  UInt32.ofNat (decode16 data 0 + 65536 * decode16 data 2)

/-- `SsapCacheServInfo_S` -/
structure FoundServ where
  handle : UInt16
  endHandle : UInt16
  uuid : Bytes
  memberValue : UInt8
  serviceType : UInt8

/-- `NLSTK_SsapPrty_S`, with the types of its descriptors. -/
structure FoundMember where
  handle : UInt16
  uuid : Bytes
  operation : UInt32
  descriptors : Bytes

inductive MemberType where
  | property
  | method
  | event
  deriving DecidableEq

namespace MemberType

/-- `MEMBER_TYPE_PROPERTY`, `MEMBER_TYPE_METHOD` and `MEMBER_TYPE_EVENT` -/
def value : MemberType → UInt8
  | property => 0x02
  | method => 0x04
  | event => 0x08

/-- `FIND_STRUCTURE_TYPE_PROPERTY`, `FIND_STRUCTURE_TYPE_METHOD` and
`FIND_STRUCTURE_TYPE_EVENT` -/
def findType : MemberType → UInt8
  | property => 3
  | method => 4
  | event => 5

/-- `GetMemberTypeByFindType` -/
def getByFindType (findType : UInt8) : Option MemberType :=
  if findType = 3 then some property
  else if findType = 4 then some method
  else if findType = 5 then some event
  else none

/-- `GetMemberTypeByItemType` -/
def getByItemType (itemType : UInt8) : Option MemberType :=
  if itemType = 2 ∨ itemType = 10 then some property
  else if itemType = 3 ∨ itemType = 11 then some method
  else if itemType = 4 ∨ itemType = 12 then some event
  else none

end MemberType

structure CacheServ where
  info : FoundServ
  propFindFinish : Bool
  methodFindFinish : Bool
  eventFindFinish : Bool
  properties : List FoundMember
  methods : List FoundMember
  events : List FoundMember

namespace CacheServ

def members (serv : CacheServ) : MemberType → List FoundMember
  | .property => serv.properties
  | .method => serv.methods
  | .event => serv.events

def findFinish (serv : CacheServ) : MemberType → Bool
  | .property => serv.propFindFinish
  | .method => serv.methodFindFinish
  | .event => serv.eventFindFinish

def hasMember (serv : CacheServ) (kind : MemberType) : Bool :=
  serv.info.memberValue &&& kind.value ≠ 0

/-- `ServInnerCompHandleFunc` -/
def compHandle (handle : UInt16) (serv : CacheServ) : Bool :=
  serv.info.handle < handle && handle ≤ serv.info.endHandle

/-- The service that `SsapcCacheServ` makes. -/
def create (info : FoundServ) : CacheServ where
  info := info
  propFindFinish := info.memberValue &&& MemberType.property.value = 0
  methodFindFinish := info.memberValue &&& MemberType.method.value = 0
  eventFindFinish := info.memberValue &&& MemberType.event.value = 0
  properties := []
  methods := []
  events := []

def addMember (kind : MemberType) (member : FoundMember) (serv : CacheServ) : CacheServ :=
  match kind with
  | .property => { serv with properties := serv.properties ++ [member] }
  | .method => { serv with methods := serv.methods ++ [member] }
  | .event => { serv with events := serv.events ++ [member] }

def setFindFinish (kind : MemberType) (serv : CacheServ) : CacheServ :=
  match kind with
  | .property => { serv with propFindFinish := true }
  | .method => { serv with methodFindFinish := true }
  | .event => { serv with eventFindFinish := true }

/-- The members of a kind as `SDF_VectorSort` orders them. -/
def sortCharacter (members : List FoundMember) : List FoundMember :=
  members.insertionSort fun first second => first.handle ≤ second.handle

def raiseEndHandle (endHandle : UInt16) (members : List FoundMember) :
    UInt16 :=
  match members.getLast? with
  | none => endHandle
  | some member =>
    if member.handle > endHandle then member.handle else endHandle

/-- What `SsapcCacheSortCachedServ` does to the service. -/
def sortCached (serv : CacheServ) : CacheServ :=
  let properties := sortCharacter serv.properties
  let methods := sortCharacter serv.methods
  let events := sortCharacter serv.events
  let bit (members : List FoundMember) (kind : MemberType) : UInt8 :=
    if members = [] then 0 else kind.value
  { serv with
    properties
    methods
    events
    info := { serv.info with
      memberValue := serv.info.memberValue ||| bit properties .property |||
        bit methods .method ||| bit events .event
      endHandle :=
        raiseEndHandle
          (raiseEndHandle (raiseEndHandle serv.info.handle properties) methods)
          events } }

def getMaxMemberHandle (members : List FoundMember) (startHandle : UInt16) :
    UInt16 :=
  members.foldl (fun maxHandle member =>
    if member.handle > maxHandle then member.handle else maxHandle)
    startHandle

def maxHandle (serv : CacheServ) (kind : MemberType) : UInt16 :=
  getMaxMemberHandle (serv.members kind) serv.info.handle

/-- The body of `SsapcCacheGetNextFindProperty` and its siblings: the handle to
go on from, and the service. -/
def getNextFind (kind : MemberType) (serv : CacheServ) :
    Option UInt16 × CacheServ :=
  if !serv.findFinish kind && serv.hasMember kind then
    if serv.maxHandle kind < serv.info.endHandle then
      (some (serv.maxHandle kind + 1), serv)
    else (none, serv.setFindFinish kind)
  else (none, serv)

def getNextFindProperty : CacheServ → Option UInt16 × CacheServ :=
  getNextFind .property

def getNextFindMethod : CacheServ → Option UInt16 × CacheServ :=
  getNextFind .method

def getNextFindEvent : CacheServ → Option UInt16 × CacheServ :=
  getNextFind .event

/-- The body of the loop of `SsapcCacheGetNextFindMember`. -/
def getNextFindOfServ (serv : CacheServ) :
    Option (MemberType × UInt16) × CacheServ :=
  match serv.getNextFindProperty with
  | (some startHandle, serv) => (some (.property, startHandle), serv)
  | (none, serv) =>
    match serv.getNextFindMethod with
    | (some startHandle, serv) => (some (.method, startHandle), serv)
    | (none, serv) =>
      match serv.getNextFindEvent with
      | (some startHandle, serv) => (some (.event, startHandle), serv)
      | (none, serv) => (none, serv)

end CacheServ

/-- What `SsapcCacheGetNextFindMember` tells to look for next, with the
position of the service in the cache. -/
structure NextFind where
  service : Nat
  kind : MemberType
  startHandle : UInt16
  endHandle : UInt16

def getNextFindMember : List CacheServ → Option NextFind × List CacheServ
  | [] => (none, [])
  | serv :: rest =>
    match serv.getNextFindOfServ with
    | (some (kind, startHandle), serv) =>
      (some ⟨0, kind, startHandle, serv.info.endHandle⟩, serv :: rest)
    | (none, serv) =>
      let later := getNextFindMember rest
      (later.1.map fun next => { next with service := next.service + 1 },
        serv :: later.2)

/-- `SsapcCacheServ`, which refuses a handle that is already there. -/
def cacheServ (servs : List CacheServ) (found : FoundServ) :
    List CacheServ :=
  if servs.any fun saved => saved.info.handle == found.handle then servs
  else servs ++ [CacheServ.create found]

def servOf (servs : List CacheServ) (handle : UInt16) : Option Nat :=
  servs.findIdx? (CacheServ.compHandle handle)

/-- `SsapcCachePrty`, `SsapcCacheMethod` and `SsapcCacheEvent`, as
`SsapcCacheCharacter` chooses among them. -/
def cacheCharacter (kind : MemberType) (servs : List CacheServ)
    (member : FoundMember) : List CacheServ :=
  match servOf servs member.handle with
  | none => servs
  | some index => servs.modify index (CacheServ.addMember kind member)

def servMemberDiscFinish (kind : MemberType) (handle : UInt16)
    (servs : List CacheServ) : List CacheServ :=
  match servOf servs handle with
  | none => servs
  | some index => servs.modify index (CacheServ.setFindFinish kind)

def getMaxServHandle (servs : List CacheServ) : UInt16 :=
  servs.foldl (fun maxHandle serv =>
    if serv.info.handle > maxHandle then serv.info.endHandle else maxHandle) 0

def sortCachedServ (handle : UInt16) (servs : List CacheServ) :
    Option (List CacheServ) :=
  match servs.findIdx? fun serv => handle == serv.info.handle with
  | none => none
  | some index => some (servs.modify index CacheServ.sortCached)

/-- `SsapcCache_S` -/
structure FindCache where
  serv : List CacheServ
  finishedServ : List CacheServ
  isByUuid : Bool
  curFindUuid : Bytes

namespace FindCache

def cleanServ (cache : FindCache) : FindCache :=
  { cache with
    serv := []
    isByUuid := false
    curFindUuid := List.replicate 16 0 }

def servDiscFinish (cache : FindCache) : FindCache :=
  { cache with
    serv := []
    finishedServ :=
      if cache.isByUuid then
        (cache.finishedServ.filter fun serv =>
          serv.info.uuid ≠ cache.curFindUuid) ++ cache.serv.reverse
      else cache.serv }

def findRspCleanCache (type : UInt8) (startHandle : UInt16) (byUuid : Bool)
    (uuid : Bytes) (cache : FindCache) : FindCache :=
  if (type = 1 ∨ type = 0) ∧ startHandle = startHandleMin then
    { cache.cleanServ with isByUuid := byUuid, curFindUuid := uuid }
  else cache

end FindCache

inductive Decoded (α : Type) where
  | entry (item : α) (size : Nat)
  | short
  /-- Too little for the descriptors of an entry, which ends the decoding. -/
  | broken

section Runs

variable {α : Type}

def decodeRun (decode : Bytes → Decoded α) :
    Nat → Bytes → List α × Option Bytes
  | 0, data => ([], some data)
  | count + 1, data =>
    match decode data with
    | .entry item size =>
      let rest := decodeRun decode count (data.drop size)
      (item :: rest.1, rest.2)
    | .short => ([], some data)
    | .broken => ([], none)

/-- The loops over entries of one kind.  An entry is not empty, so there are
no more of them than bytes. -/
def decodeSingleType (decode : Bytes → Decoded α) (data : Bytes) : List α :=
  (decodeRun decode data.length data).1

/-- The loops over runs of entries that each follow an indicator, with the
length of the uuids in the run. -/
def decodeMixRuns (decode : Nat → Bytes → Decoded α) :
    Nat → Bytes → List α
  | 0, _ => []
  | _ + 1, [] => []
  | runs + 1, indicator :: data =>
    let run := decodeRun (decode (if indicator < 128 then 2 else 16))
      (indicator.toNat % 128) data
    run.1 ++
      match run.2 with
      | none => []
      | some left => decodeMixRuns decode runs left

def decodeMix (decode : Nat → Bytes → Decoded α) (data : Bytes) : List α :=
  decodeMixRuns decode data.length data

def decodeByItemType (itemType : UInt8) (decode : Nat → Bytes → Decoded α)
    (data : Bytes) : List α :=
  if itemType = 0 then decodeSingleType (decode 2) data
  else if itemType = 1 then decodeSingleType (decode 16) data
  else if itemType = 2 then decodeMix decode data
  else []

end Runs

namespace Client

def decodeSinglePrimaryService (uuidLen : Nat) (data : Bytes) :
    Decoded FoundServ :=
  if data.length < 5 + uuidLen then .short
  else
    .entry
      { handle := byteToUint16 data
        endHandle := byteToUint16 (data.drop 2)
        uuid := Server.getUuidFromPktBuf ((data.drop 4).take uuidLen)
        memberValue := byteAt data (4 + uuidLen)
        serviceType := if uuidLen = 2 then 0 else 8 }
      (5 + uuidLen)

def decodeSinglePrimaryServiceV10 (reqUuid : Bytes) (data : Bytes) :
    Decoded FoundServ :=
  if data.length < 5 then .short
  else
    .entry
      { handle := byteToUint16 data
        endHandle := byteToUint16 (data.drop 2)
        uuid := reqUuid
        memberValue := byteAt data 4
        serviceType := if checkUuidStd reqUuid then 0 else 8 }
      5

def decodePrimaryService (itemType : UInt8) (data : Bytes) : List FoundServ :=
  decodeByItemType itemType decodeSinglePrimaryService data

def decodePrimaryServiceByUuidV10 (itemType : UInt8) (reqUuid data : Bytes) :
    List FoundServ :=
  decodeByItemType itemType (fun _ => decodeSinglePrimaryServiceV10 reqUuid)
    data

/-- `SSAP_DecodeSingleProperty` with the checks of the loops around it. -/
def decodeSingleProperty (uuidLen : Nat) (data : Bytes) :
    Decoded FoundMember :=
  if data.length < 7 + uuidLen then .short
  else
    let descriptorCount := (byteAt data (6 + uuidLen)).toNat
    if data.length < 7 + uuidLen + descriptorCount then .broken
    else
      .entry
        { handle := byteToUint16 data
          uuid := Server.getUuidFromPktBuf ((data.drop 2).take uuidLen)
          operation := byteToUint32 (data.drop (2 + uuidLen))
          descriptors := (data.drop (7 + uuidLen)).take descriptorCount }
        (7 + uuidLen + descriptorCount)

/-- `SSAP_DecodeSinglePropertyV10` with the checks of the loops around it. -/
def decodeSinglePropertyV10 (reqUuid : Bytes) (data : Bytes) :
    Decoded FoundMember :=
  if data.length < 7 then .short
  else
    let descriptorCount := (byteAt data 6).toNat
    if data.length < 7 + descriptorCount then .broken
    else
      .entry
        { handle := byteToUint16 data
          uuid := reqUuid
          operation := byteToUint32 (data.drop 2)
          descriptors := (data.drop 7).take descriptorCount }
        (7 + descriptorCount)

def decodeProperty (itemType : UInt8) (data : Bytes) : List FoundMember :=
  decodeByItemType itemType decodeSingleProperty data

def decodePropertyByUuidV10 (itemType : UInt8) (reqUuid data : Bytes) :
    List FoundMember :=
  decodeByItemType itemType (fun _ => decodeSinglePropertyV10 reqUuid) data

def structureUuidLen (itemType : UInt8) : Option Nat :=
  if itemType ≤ 6 then some 2
  else if 8 ≤ itemType ∧ itemType ≤ 14 then some 16
  else none

/-- `SSAP_DecodeSingleMemberInStru` with
`SSAP_DecodeSingleServiceMixInStru` and
`SSAP_DecodeSingleCharacterMixInStru` -/
def decodeSingleMemberInStru (uuidLen descriptorCount : Nat) (data : Bytes)
    (servs : List CacheServ) : List CacheServ :=
  let itemType := byteAt data 2
  let uuid := Server.getUuidFromPktBuf ((data.drop 3).take uuidLen)
  if itemType = 0 ∨ itemType = 8 then
    cacheServ servs
      { handle := byteToUint16 data
        endHandle := endHandleMax
        uuid
        memberValue := 0
        serviceType := itemType }
  else
    match MemberType.getByItemType itemType with
    | none => servs
    | some kind =>
      cacheCharacter kind servs
        { handle := byteToUint16 data
          uuid
          operation := byteToUint32 (data.drop (3 + uuidLen))
          descriptors :=
            (data.drop (8 + uuidLen)).take descriptorCount }

/-- The loop of `SSAP_DecodeMixStructure`.  An item is not empty, so there are
no more of them than bytes. -/
def decodeStructureItems :
    Nat → Bytes → UInt16 → List CacheServ → List CacheServ
  | 0, _, lastServHandle, servs =>
    (sortCachedServ lastServHandle servs).getD servs
  | items + 1, data, lastServHandle, servs =>
    if data.length < 4 then
      (sortCachedServ lastServHandle servs).getD servs
    else
      let itemType := byteAt data 2
      match structureUuidLen itemType with
      | none => servs
      | some uuidLen =>
        let isServ := itemType = 0 ∨ itemType = 8
        match
          if isServ ∧ lastServHandle ≠ startHandleMin then
            sortCachedServ lastServHandle servs
          else some servs with
        | none => servs
        | some sorted =>
          let baseLen :=
            4 + uuidLen + if hasOperation itemType then 4 else 0
          if data.length < baseLen then sorted
          else
            let descriptorCount := (byteAt data (baseLen - 1)).toNat
            if data.length < baseLen + descriptorCount then sorted
            else
              decodeStructureItems items (data.drop (baseLen + descriptorCount))
                (if isServ then byteToUint16 data else lastServHandle)
                (decodeSingleMemberInStru uuidLen descriptorCount data sorted)

/-- `SSAP_DecodeStructure` with `SSAP_DecodeMixStructure` -/
def decodeStructure (itemType : UInt8) (data : Bytes) (servs : List CacheServ) : List CacheServ :=
  if itemType ≤ 2 then
    decodeStructureItems data.length data startHandleMin servs
  else servs

end Client

end NearLink.Ssap
