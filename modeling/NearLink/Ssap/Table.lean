import NearLink.Keyed
import NearLink.Sdf.Buff

/-!
# The service table of a server

`SSAP_Service_S` with its properties and methods, the look-ups of
`ssaps_server.c`, the update of a value of `ssaps_server_write.c` and the clean
up of `ssaps_service.c`.  The allocator of `ssap_handle.c` never hands out a
handle twice, so the table carries that the handles of its properties differ.
Allocation succeeds.
-/

namespace NearLink.Ssap

open Sdf Keyed

structure Addr where
  type : UInt8
  addr : BitVec 48
  deriving DecidableEq

inductive ErrCode where
  | success
  | invalidPdu
  | unsupportPdu
  | unknown
  | invalidHandle
  | noResource
  | forbidRead
  | forbidWrite
  | unauthenticated
  | unauthorized
  | unencrypted
  | itemInexist
  | methodAccess
  | dataType
  | dataLength
  | dataRange
  | serverFrag
  | itemOverLimit
  deriving DecidableEq

def ErrCode.value : ErrCode → UInt8
  | .success => 0x00
  | .invalidPdu => 0x01
  | .unsupportPdu => 0x02
  | .unknown => 0x03
  | .invalidHandle => 0x04
  | .noResource => 0x05
  | .forbidRead => 0x06
  | .forbidWrite => 0x07
  | .unauthenticated => 0x08
  | .unauthorized => 0x09
  | .unencrypted => 0x0A
  | .itemInexist => 0x0B
  | .methodAccess => 0x0C
  | .dataType => 0x0D
  | .dataLength => 0x0E
  | .dataRange => 0x0F
  | .serverFrag => 0x10
  | .itemOverLimit => 0x11

/-- `SSAP_TYPE_DATA`, the value of a property itself. -/
def typeData : UInt8 := 0

def descTypePropertyInstruction : UInt8 := 1

def descTypeClientConfig : UInt8 := 2

def descTypeServerConfig : UInt8 := 3

def descTypePropertyFormat : UInt8 := 4

def descTypeMax : Nat := 5

/-- `SSAP_ClientPropertyConfigDescriptor_S` -/
structure ClientConfig where
  addr : Addr
  val : Bytes
  deriving DecidableEq

/-- The client of a configuration, as `CompClientConfigAddr` compares it. -/
def ClientConfig.client (config : ClientConfig) : BitVec 48 := config.addr.addr

structure Descriptor where
  type : UInt8
  operation : UInt32
  permission : UInt8
  clientConfigs : List ClientConfig
  val : Bytes
  deriving DecidableEq

structure Property where
  handle : Nat
  uuid : Bytes
  operation : UInt32
  permission : UInt8
  descriptors : List Descriptor
  val : Bytes
  deriving DecidableEq

structure Method where
  handle : Nat
  uuid : Bytes
  permission : UInt8
  deriving DecidableEq

/-- `SSAP_Service_S`.  References and events are not implemented by the
source. -/
structure Service where
  handle : Nat
  endHandle : Nat
  uuid : Bytes
  serviceType : UInt8
  properties : List Property
  methods : List Method
  deriving DecidableEq

structure Item where
  handle : Nat
  type : UInt8
  deriving DecidableEq

namespace Descriptor

def findClientConfig (descriptor : Descriptor) (addr : Addr) :
    Option ClientConfig :=
  lookup ClientConfig.client addr.addr descriptor.clientConfigs

def updatePropertyValueCpcd (descriptor : Descriptor) (addr : Addr)
    (value : Bytes) : Descriptor :=
  match descriptor.findClientConfig addr with
  | some _ =>
    { descriptor with
      clientConfigs := modify ClientConfig.client addr.addr
        (fun config => { config with val := value })
        descriptor.clientConfigs }
  | none =>
    { descriptor with
      clientConfigs := descriptor.clientConfigs ++ [⟨addr, value⟩] }

/-- The descriptor branch of `SSAPS_UpdatePropertyValue` for a remote
client. -/
def updateValue (descriptor : Descriptor) (value : Bytes) (addr : Addr) :
    Descriptor :=
  let updated := { descriptor with val := value }
  if descriptor.type = descTypeClientConfig then
    updated.updatePropertyValueCpcd addr value
  else updated

/-- `CleanDescriptorCpcd` -/
def cleanCpcd (addr : Addr) (descriptor : Descriptor) : Descriptor :=
  if descriptor.type = descTypeClientConfig then
    { descriptor with
      clientConfigs := remove ClientConfig.addr addr
        descriptor.clientConfigs }
  else descriptor

def erase (descriptor : Descriptor) : Descriptor :=
  { descriptor with
    val := []
    clientConfigs := descriptor.clientConfigs.map fun config =>
      { config with val := [] } }

end Descriptor

namespace Property

/-- `SDF_VectorFindFirst` with `CompDescriptorType` -/
def descriptor (property : Property) (type : UInt8) : Option Descriptor :=
  lookup Descriptor.type type property.descriptors

def getPermissionAndOperation (property : Property) (type : UInt8) :
    Option (UInt8 × UInt32) :=
  if type = typeData then some (property.permission, property.operation)
  else (property.descriptor type).map fun found =>
    (found.permission, found.operation)

/-- The value `SSAPS_GetPropertyValue` looks at. -/
def getVal (property : Property) (addr : Addr) (type : UInt8) :
    Option Bytes :=
  if type = typeData then some property.val
  else (property.descriptor type).map fun found =>
    if type = descTypeClientConfig then
      match found.findClientConfig addr with
      | some config => config.val
      | none => found.val
    else found.val

/-- `SSAPS_UpdatePropertyValue` for a remote client, or `none` with
`SSAP_ERRCODE_DATA_TYPE`. -/
def updatePropertyValue (property : Property) (type : UInt8) (value : Bytes)
    (addr : Addr) : Option Property :=
  if type = typeData then some { property with val := value }
  else
    match property.descriptor type with
    | some _ =>
      some { property with
        descriptors := modify Descriptor.type type
          (fun found => found.updateValue value addr)
          property.descriptors }
    | none => none

def cleanCpcd (addr : Addr) (property : Property) : Property :=
  { property with
    descriptors := property.descriptors.map (Descriptor.cleanCpcd addr) }

def content (property : Property) (type : UInt8) :
    Option (Bytes × List ClientConfig) :=
  if type = typeData then some (property.val, [])
  else (property.descriptor type).map fun found =>
    (found.val, found.clientConfigs)

def erase (type : UInt8) (property : Property) : Property :=
  if type = typeData then { property with val := [] }
  else
    { property with
      descriptors := modify Descriptor.type type Descriptor.erase
        property.descriptors }

end Property

def allProperties (services : List Service) : List Property :=
  services.flatMap Service.properties

structure Table where
  services : List Service
  unique : ((allProperties services).map Property.handle).Nodup

def Service.mapProperties (change : Property → Property) (service : Service) : Service :=
  { service with properties := service.properties.map change }

theorem allProperties_map (change : Property → Property)
    (services : List Service) :
    allProperties (services.map (Service.mapProperties change)) =
      (allProperties services).map change := by
  induction services with
  | nil => rfl
  | cons service services induction =>
    simpa [allProperties, Service.mapProperties] using induction

namespace Table

def properties (table : Table) : List Property :=
  allProperties table.services

def mapProperties (table : Table) (change : Property → Property)
    (keeps : ∀ property, (change property).handle = property.handle) :
    Table where
  services := table.services.map (Service.mapProperties change)
  unique := by
    rw [allProperties_map, List.map_map]
    simpa [Function.comp_def, keeps] using table.unique

def getPropertyByHandle (table : Table) (handle : Nat) : Option Property :=
  lookup Property.handle handle table.properties

def isHandleExist (table : Table) (handle : Nat) : Bool :=
  table.services.any fun service =>
    service.handle ≤ handle && handle ≤ service.endHandle

def getMethodByHandle (table : Table) (handle : Nat) : Option Method :=
  lookup Method.handle handle (table.services.flatMap Service.methods)

def getPropertyByUuid (table : Table) (handleStart handleEnd : Nat)
    (uuid : Bytes) : List Property :=
  table.properties.filter fun property =>
    property.uuid == uuid && handleStart ≤ property.handle &&
      property.handle ≤ handleEnd

def writeAt (handle : Nat) (type : UInt8) (value : Bytes) (addr : Addr)
    (property : Property) : Property :=
  if property.handle = handle then
    (property.updatePropertyValue type value addr).getD property
  else property

/-- `SSAPS_UpdatePropertyValue` on the property with a handle. -/
def updatePropertyValue (table : Table) (handle : Nat) (type : UInt8)
    (value : Bytes) (addr : Addr) : Table :=
  table.mapProperties (writeAt handle type value addr) (by
    intro property
    unfold writeAt Property.updatePropertyValue
    split_ifs
    · rfl
    · cases property.descriptor type <;> rfl
    · rfl)

def cleanServiceCpcd (table : Table) (addr : Addr) : Table :=
  table.mapProperties (Property.cleanCpcd addr) fun _ => rfl

def eraseAt (item : Item) (property : Property) : Property :=
  if property.handle = item.handle then property.erase item.type
  else property

def erase (table : Table) (item : Item) : Table :=
  table.mapProperties (eraseAt item) (by
    intro property
    unfold eraseAt Property.erase
    split
    · split <;> rfl
    · rfl)

def access (table : Table) (item : Item) : Option (UInt8 × UInt32) :=
  (table.getPropertyByHandle item.handle).bind fun property =>
    property.getPermissionAndOperation item.type

def content (table : Table) (item : Item) :
    Option (Bytes × List ClientConfig) :=
  (table.getPropertyByHandle item.handle).bind fun property =>
    property.content item.type

@[ext] theorem ext {first second : Table}
    (services : first.services = second.services) : first = second := by
  cases first
  cases second
  simpa using services

section

variable {table : Table} {change : Property → Property}
  {keeps : ∀ property, (change property).handle = property.handle}

@[simp] theorem properties_mapProperties :
    (table.mapProperties change keeps).properties =
      table.properties.map change :=
  allProperties_map change table.services

variable (handle : Nat)

@[simp] theorem getPropertyByHandle_mapProperties :
    (table.mapProperties change keeps).getPropertyByHandle handle =
      (table.getPropertyByHandle handle).map change := by
  rw [getPropertyByHandle, properties_mapProperties]
  exact lookup_map keeps

@[simp] theorem isHandleExist_mapProperties :
    (table.mapProperties change keeps).isHandleExist handle =
      table.isHandleExist handle := by
  unfold isHandleExist mapProperties
  rw [List.any_map]
  rfl

@[simp] theorem getMethodByHandle_mapProperties :
    (table.mapProperties change keeps).getMethodByHandle handle =
      table.getMethodByHandle handle := by
  simp [getMethodByHandle, mapProperties, Service.mapProperties,
    List.flatMap_map]

theorem getPropertyByUuid_mapProperties
    (kept : ∀ property, (change property).uuid = property.uuid)
    (handleStart handleEnd : Nat) (uuid : Bytes) :
    (table.mapProperties change keeps).getPropertyByUuid handleStart handleEnd
        uuid =
      (table.getPropertyByUuid handleStart handleEnd uuid).map change := by
  simp [getPropertyByUuid, List.filter_map, Function.comp_def, keeps, kept]

theorem access_mapProperties (kept : ∀ property type,
      (change property).getPermissionAndOperation type =
        property.getPermissionAndOperation type) (item : Item) :
    (table.mapProperties change keeps).access item = table.access item := by
  simp only [access, getPropertyByHandle_mapProperties]
  cases table.getPropertyByHandle item.handle with
  | none => rfl
  | some property => exact kept property item.type

end

variable {property : Property} {table : Table}

theorem getPropertyByHandle_of_mem (member : property ∈ table.properties) :
    table.getPropertyByHandle property.handle = some property :=
  lookup_of_mem table.unique member

theorem access_of_located {handle : Nat}
    (located : table.getPropertyByHandle handle = some property)
    (type : UInt8) :
    table.access ⟨property.handle, type⟩ =
      property.getPermissionAndOperation type := by
  have named : property.handle = handle := lookup_key located
  rw [named, access, located]
  rfl

theorem access_of_mem (member : property ∈ table.properties) (type : UInt8) :
    table.access ⟨property.handle, type⟩ =
      property.getPermissionAndOperation type :=
  access_of_located (getPropertyByHandle_of_mem member) type

end Table

end NearLink.Ssap
