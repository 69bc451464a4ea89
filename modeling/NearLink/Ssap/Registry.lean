import Mathlib.Data.List.Sort
import NearLink.Intervals
import NearLink.Ssap.Table

/-!
# Registration of services

`ssap_handle.c` keeps the free handles in blocks, and `ssaps_service.c` the
services, which come with all their items by `SsapServerAddService` or item by
item through `SSAPS_CacheService` and `SSAPS_StartService`.  `ssaps_server_app.c`
keeps the ranges of the services of each application.  Allocation succeeds.
-/

namespace NearLink.Ssap

open Sdf Intervals

def handleMin : Nat := 0x0010

def handleMax : Nat := 0xFFFF

def endHandle : Nat := 0xFFFF

def invalidHandle : Nat := 0x0000

def initHandle : Nat := 0x0010

def serverAppMaxNum : Nat := 64

/-- The values of a `uint16_t`. -/
def handleModulus : Nat := 0x10000

/-- The loop of `SSAP_HandleAllocate`. -/
def firstFit (size : Nat) : List Interval → Option (Interval × List Interval)
  | [] => none
  | block :: blocks =>
    let blockSize :=
      (block.last + handleModulus - block.first + 1) % handleModulus
    let result : Interval :=
      ⟨block.first, (block.first + size - 1) % handleModulus⟩
    if blockSize > size then
      some (result,
        ⟨(block.first + size) % handleModulus, block.last⟩ :: blocks)
    else if blockSize = size then some (result, blocks)
    else (firstFit size blocks).map fun found =>
      (found.1, block :: found.2)

def handleAllocate (size : Nat) (blocks : List Interval) :
    Option (Interval × List Interval) :=
  if size = 0 then none
  else if size > handleMax - handleMin + 1 then none
  else firstFit size blocks

/-- The block of `SSAP_HandleRelease` and its left neighbour. -/
def mergeLeft (before : List Interval) (range : Interval) :
    List Interval × Interval :=
  match before.getLast? with
  | none => (before, range)
  | some left =>
    if left.last + 1 = range.first then
      (before.dropLast, ⟨left.first, range.last⟩)
    else (before, range)

/-- `SSAP_HandleRelease`.  A block that comes last is not joined with its
neighbour. -/
def handleRelease (range : Interval) (blocks : List Interval) :
    List Interval :=
  if range.first ≤ range.last then
    let before := blocks.takeWhile fun block => block.first < range.first
    match blocks.dropWhile fun block => block.first < range.first with
    | [] => blocks ++ [range]
    | right :: after =>
      let merged := mergeLeft before range
      if merged.2.last + 1 = right.first then
        merged.1 ++ ⟨merged.2.first, right.last⟩ :: after
      else merged.1 ++ merged.2 :: right :: after
  else blocks

/-- A service of `g_services` with its application. -/
structure Registered where
  service : Service
  appId : Nat
  deriving DecidableEq

def Service.range (service : Service) : Interval :=
  ⟨service.handle, service.endHandle⟩

def Service.handleNum (service : Service) : Nat :=
  (1 + service.properties.length % handleModulus +
    service.methods.length % handleModulus) % handleModulus

def generateHandles {Item : Type} (place : Item → Nat → Item) :
    List Item → Nat → List Item × Nat
  | [], next => ([], next)
  | item :: items, next =>
    let later := generateHandles place items ((next + 1) % handleModulus)
    (place item next :: later.1, later.2)

def generateHandleForProperties : List Property → Nat → List Property × Nat :=
  generateHandles fun property handle => { property with handle }

def generateHandleForMethod : List Method → Nat → List Method × Nat :=
  generateHandles fun method handle => { method with handle }

def Service.placed (service : Service) (range : Interval) : Service :=
  let properties := generateHandleForProperties service.properties
    ((range.first + 1) % handleModulus)
  let methods := generateHandleForMethod service.methods properties.2
  { service with
    handle := range.first
    endHandle := range.last
    properties := properties.1
    methods := methods.1 }

/-- The variables of `ssaps_service.c`, `ssap_handle.c` and
`ssaps_server_app.c`. -/
structure Registry where
  services : List Registered
  tempService : Option Service
  curHandle : Nat
  blocks : List Interval
  /-- The `serviceVector` of each application in use. -/
  serviceVector : Nat → Option (List Interval)

namespace Registry

def init : Registry where
  services := []
  tempService := none
  curHandle := initHandle
  blocks := [⟨handleMin, handleMax⟩]
  serviceVector := fun _ => none

def startServiceCallBack (registry : Registry) (registered : Registered) :
    Registry :=
  match registry.serviceVector registered.appId with
  | none => registry
  | some vector =>
    { registry with
      serviceVector := Function.update registry.serviceVector
        registered.appId (some (vector ++ [registered.service.range])) }

/-- `SSAPSortServicesByHandle` as an order. -/
def handleLe (left right : Registered) : Prop :=
  left.service.handle ≤ right.service.handle

instance : DecidableRel handleLe :=
  fun left right =>
    inferInstanceAs (Decidable (left.service.handle ≤ right.service.handle))

instance : Std.Total handleLe :=
  ⟨fun left right => Nat.le_total left.service.handle right.service.handle⟩

instance : IsTrans Registered handleLe :=
  ⟨fun _ _ _ first second => Nat.le_trans first second⟩

def addService (registry : Registry) (appId : Nat) (service : Service) :
    Registry :=
  match handleAllocate service.handleNum registry.blocks with
  | none => registry
  | some (range, blocks) =>
    let registered : Registered := ⟨service.placed range, appId⟩
    { registry with
      blocks
      services := (registry.services ++ [registered]).insertionSort handleLe
      }.startServiceCallBack registered

/-- `SSAPS_CacheService` with the type and the uuid. -/
def cacheService (registry : Registry) (serviceType : UInt8) (uuid : Bytes) :
    Registry :=
  { registry with
    tempService := some
      { handle := 0
        endHandle := 0
        uuid
        serviceType
        properties := []
        methods := [] } }

def cacheProperty (registry : Registry) (property : Property) : Registry :=
  { registry with
    tempService := registry.tempService.map fun service =>
      { service with
        properties := service.properties ++
          [{ property with handle := 0, descriptors := [] }] } }

/-- `FindAvaliableHandle` with the handle that is next. -/
def findAvaliableHandle (registry : Registry) (handleNum : Nat) :
    Option (Interval × Nat) :=
  if registry.curHandle = invalidHandle ∨
      registry.curHandle + handleNum > endHandle + 1 then none
  else
    some (⟨registry.curHandle, registry.curHandle - 1 + handleNum⟩,
      if registry.curHandle + handleNum > endHandle then invalidHandle
      else registry.curHandle + handleNum)

/-- `SSAPS_StartService`.  The application of the service is the one of the
memory it was allocated in, the first one. -/
def startService (registry : Registry) : Registry :=
  match registry.tempService with
  | none => registry
  | some service =>
    match registry.findAvaliableHandle service.handleNum with
    | none => { registry with tempService := none }
    | some (range, curHandle) =>
      if range.last = invalidHandle then
        { registry with tempService := none, curHandle }
      else
        let registered : Registered :=
          ⟨{ service with
             handle := range.first
             endHandle := range.last
             properties := (generateHandleForProperties service.properties
               ((range.first + 1) % handleModulus)).1 }, 0⟩
        { registry with
          tempService := none
          curHandle
          services := registry.services ++ [registered]
          }.startServiceCallBack registered

/-- The loop of `SSAPS_RemoveService` over the services and the free
blocks. -/
def removeLoop (range : Interval) :
    List Registered → List Interval → List Registered × List Interval
  | [], blocks => ([], blocks)
  | registered :: services, blocks =>
    if range.Holds registered.service.handle then
      removeLoop range services (handleRelease registered.service.range blocks)
    else
      let rest := removeLoop range services blocks
      (registered :: rest.1, rest.2)

def removeService (registry : Registry) (range : Interval) : Registry :=
  let rest := removeLoop range registry.services registry.blocks
  { registry with services := rest.1, blocks := rest.2 }

def removeAppService (registry : Registry) (appId handle : Nat) : Registry :=
  match registry.serviceVector appId with
  | none => registry
  | some vector =>
    match vector.find? fun range => range.Holds handle with
    | none => registry
    | some range =>
      { registry.removeService range with
        serviceVector := Function.update registry.serviceVector appId
          (some (vector.eraseP fun other => other.Holds handle)) }

/-- The loop of `SsapServerCleanAppService`. -/
def cleanLoop (registry : Registry) : List Interval → Registry
  | [] => registry
  | range :: vector => (registry.removeService range).cleanLoop vector

def cleanAppService (registry : Registry) (appId : Nat) : Registry :=
  match registry.serviceVector appId with
  | none => registry
  | some vector =>
    { registry.cleanLoop vector with
      serviceVector := Function.update registry.serviceVector appId
        (some []) }

def regApp (registry : Registry) : Registry :=
  match (List.range serverAppMaxNum).find? fun index =>
      (registry.serviceVector index).isNone with
  | none => registry
  | some index =>
    { registry with
      serviceVector := Function.update registry.serviceVector index
        (some []) }

def deregisterApplication (registry : Registry) (appId : Nat) : Registry :=
  { registry.cleanAppService appId with
    serviceVector := Function.update registry.serviceVector appId none }

end Registry

inductive RegistryEvent where
  | regApp
  | deregisterApplication (appId : Nat)
  | addService (appId : Nat) (service : Service)
  | cacheService (serviceType : UInt8) (uuid : Bytes)
  | cacheProperty (property : Property)
  | startService
  | removeService (range : Interval)
  | removeAppService (appId handle : Nat)
  | cleanAppService (appId : Nat)

def Registry.next (registry : Registry) : RegistryEvent → Registry
  | .regApp => registry.regApp
  | .deregisterApplication appId => registry.deregisterApplication appId
  | .addService appId service => registry.addService appId service
  | .cacheService serviceType uuid => registry.cacheService serviceType uuid
  | .cacheProperty property => registry.cacheProperty property
  | .startService => registry.startService
  | .removeService range => registry.removeService range
  | .removeAppService appId handle => registry.removeAppService appId handle
  | .cleanAppService appId => registry.cleanAppService appId

end NearLink.Ssap
