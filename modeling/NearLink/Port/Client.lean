import NearLink.Port.Server

/-!
# Port client

The state machine of `port_stm.c` with the cache entry of one address.  The
callbacks of `NLSTK_SsapAppClientCb_S` find the entry through the address or
through the application id, which belongs to one address.  What the machine
asks for and what it reports is kept in order.  Memory is available once an
entry exists, also for the entries of the port list, and a value that is not
empty has its data.
-/

namespace NearLink.Port

open Sdf

abbrev Errcode := UInt32

/-- `NLSTK_ERRCODE_SUCCESS` -/
def errSuccess : Errcode := 0

/-- `NLSTK_ERRCODE_PARAM_ERR` -/
def errParam : Errcode := 4

/-- `NLSTK_ERRCODE_FAIL` -/
def errFail : Errcode := 5

/-- `NLSTK_ERRCODE_POINTER_NULL` -/
def errPointerNull : Errcode := 9

/-- `PORT_MAX_NUM` -/
def clientMaxNum : Nat := 20

def portPropertyStdUuid : Uuid :=
  #v[0x37, 0xBE, 0xA8, 0x80, 0xFC, 0x70, 0x11, 0xEA,
    0xB7, 0x20, 0x00, 0x00, 0x00, 0x00, 0x11, 0x01]

/-- The states of the machine, `PORT_STATE_IDLE` up to
`PORT_STATE_CONNECTED`. -/
inductive State where
  | idle
  | registerApp
  | createLink
  | getService
  | findService
  | readProperty
  | setNet
  | connected
  deriving DecidableEq

inductive ConnectState where
  | connecting
  | connected
  | disconnecting
  | disconnected
  deriving DecidableEq

/-- `NLSTK_SsapConnectLinkState_E` -/
inductive LinkState where
  | idle
  | connecting
  | connected
  | disconnecting
  | disconnected

structure InfoCache where
  appId : Int := -1
  propertyHandle : UInt16 := 0
  stmState : State := .idle
  portInfoList : List PrivateInfo := []
  findFlag : Bool := false
  deriving DecidableEq

inductive Output where
  /-- `PortStateChangeCbk` -/
  | stateChange (cur pre : ConnectState) (ret : Errcode)
  /-- `NLSTK_SsapClientRegAppAsyn` -/
  | regApp
  /-- `NLSTK_SsapClientDeregAppAsync` -/
  | deregApp (appId : Int)
  /-- `NLSTK_SsapClientConnect` -/
  | connect
  /-- `NLSTK_SsapClientDisconnect` -/
  | disconnect
  /-- `NLSTK_SsapClientGetServicesByUuidAsyn` -/
  | getServices
  /-- `NLSTK_SsapClientDiscoverServicesByUuid` -/
  | discoverServices
  /-- `NLSTK_SsapClientReadProperty` -/
  | readProperty (handle : UInt16)
  /-- `NLSTK_SsapClientSetPropertyNtf` -/
  | setPropertyNtf (handle : UInt16)
  | dangling
  deriving DecidableEq

structure Client where
  cache : Option InfoCache := none
  log : List Output := []
  deriving DecidableEq

structure Env where
  /-- `PortInfoCacheCreate` has memory. -/
  create : Bool := true
  regApp : Errcode := errSuccess
  connect : Errcode := errSuccess
  getServices : Errcode := errSuccess
  discoverServices : Errcode := errSuccess
  readProperty : UInt16 → Errcode := fun _ => errSuccess
  setPropertyNtf : Errcode := errSuccess

/-- `NLSTK_SsapServ_S`, with the uuid and the handle of each property. -/
structure Serv where
  properties : Option (List (Uuid × UInt16))

/-- `NLSTK_SsapClientReadPropertyInfo_S` -/
structure PropertyInfo where
  handle : UInt16
  errorCode : Errcode
  value : Bytes

inductive Event where
  | userConnect
  | userDisconnect
  | registerApp (appId : Int)
  | stateChanged (state : LinkState) (ret : Errcode)
  | getService (service : List Serv)
  | findService (ret : Errcode)
  | readProperty (property : Option PropertyInfo) (ret : Errcode)
  | setNtf (handle : UInt16) (enable : Bool) (ret : Errcode)
  | propertyChanged (property : Option PropertyInfo)

namespace Client

def emit (client : Client) (outputs : List Output) : Client :=
  { client with log := client.log ++ outputs }

def store (client : Client) (cache : InfoCache) : Client :=
  { client with cache := some cache }

def remove (client : Client) : Client :=
  { client with cache := none }

def switchToDisconnected (client : Client) (cache : InfoCache)
    (preState : ConnectState) (ret : Errcode) : Client :=
  (client.emit [.stateChange .disconnected preState ret,
    .deregApp cache.appId]).remove

def switchToDisconnecting (client : Client) (cache : InfoCache)
    (preState : ConnectState) (ret : Errcode) : Client :=
  (client.emit [.disconnect]).switchToDisconnected cache preState ret

/-- `PORT_NEW_STATE_ENTRY` in a state that asks SSAP for something and gives
up if it is refused. -/
def request (client : Client) (cache : InfoCache) (output : Output)
    (ret : Errcode) : Client :=
  let asked := (client.store cache).emit [output]
  if ret ≠ errSuccess then
    asked.switchToDisconnecting cache .connecting ret
  else asked

/-- `PORT_NEW_STATE_ENTRY` of `PortCreateLinkStateDispatch` -/
def enterCreateLink (env : Env) (client : Client) (cache : InfoCache) :
    Client :=
  let cache := { cache with stmState := .createLink }
  let asked := (client.store cache).emit [.connect]
  if env.connect ≠ errSuccess then
    asked.switchToDisconnected cache .connecting env.connect
  else asked

/-- `PORT_NEW_STATE_ENTRY` of `PortGetServiceStateDispatch` -/
def enterGetService (env : Env) (client : Client) (cache : InfoCache) :
    Client :=
  client.request { cache with stmState := .getService } .getServices
    env.getServices

/-- `PORT_NEW_STATE_ENTRY` of `PortFindServiceStateDispatch` -/
def enterFindService (env : Env) (client : Client) (cache : InfoCache) :
    Client :=
  client.request { cache with stmState := .findService } .discoverServices
    env.discoverServices

/-- `PORT_NEW_STATE_ENTRY` of `PortSetNtfStateDispatch` -/
def enterSetNtf (env : Env) (client : Client) (cache : InfoCache) : Client :=
  client.request { cache with stmState := .setNet }
    (.setPropertyNtf cache.propertyHandle) env.setPropertyNtf

/-- `PortFindAndReadProperty`, which has no entry to use once it was
removed for an earlier service. -/
def findAndReadProperty (env : Env) (client : Client) (service : Serv) :
    Client :=
  match client.cache with
  | none => client.emit [.dangling]
  | some cache =>
    match service.properties with
    | none => client.switchToDisconnecting cache .connecting errPointerNull
    | some properties =>
      match properties.find? (·.1 = portPropertyStdUuid) with
      | none => client.switchToDisconnecting cache .connecting errParam
      | some property =>
        client.request cache (.readProperty property.2)
          (env.readProperty property.2)

/-- `PORT_NEW_STATE_ENTRY` of `PortReadPropertyStateDispatch` -/
def enterReadProperty (env : Env) (client : Client) (cache : InfoCache)
    (service : List Serv) : Client :=
  service.foldl (findAndReadProperty env)
    (client.store { cache with stmState := .readProperty })

/-- `PortIdleStateDispatch`, on an event of the user, with the entry of
`PORT_STATE_REGISTER_APP`. -/
def enterRegisterApp (env : Env) (client : Client) (cache : InfoCache) :
    Client :=
  let asked := (client.store { cache with stmState := .registerApp }).emit
    [.stateChange .connecting .disconnected errSuccess, .regApp]
  if env.regApp ≠ errSuccess then
    (asked.emit [.stateChange .disconnected .connecting env.regApp]).remove
  else asked

def onRegisterApp (env : Env) (client : Client) (cache : InfoCache)
    (appId : Int) : Client :=
  if appId < 0 then
    (client.emit [.stateChange .disconnected .connecting errParam]).remove
  else client.enterCreateLink env { cache with appId := appId }

def handleOnGetService (env : Env) (client : Client) (cache : InfoCache)
    (service : List Serv) : Client :=
  if service = [] then
    if cache.findFlag = false then
      client.enterFindService env { cache with findFlag := true }
    else client.switchToDisconnecting cache .connecting errFail
  else client.enterReadProperty env cache service

def enterConnected (client : Client) (cache : InfoCache) : Client :=
  (client.store { cache with stmState := .connected }).emit
    [.stateChange .connected .connecting errSuccess]

def readInfos : Nat → Bytes → List PrivateInfo
  | 0, _ => []
  | count + 1, buf =>
    { portId := wordAt buf
      manufactureId := wordAt (buf.drop 2)
      uuid := Vector.ofFn fun index => buf.getD (4 + index) 0 } ::
        readInfos count (buf.drop infoLen)

/-- The two checks before the loop: the number of entries, and the length. -/
def valueChecked (value : Bytes) : Bool :=
  (wordAt value).toNat ≤ clientMaxNum &&
    value.length = (wordAt value).toNat * infoLen + 2

def valueInfos (value : Bytes) : List PrivateInfo :=
  readInfos (wordAt value).toNat (value.drop 2)

/-- `PortOnReadPropertyInReadPropertyState` -/
def onReadProperty (env : Env) (client : Client) (cache : InfoCache)
    (property : Option PropertyInfo) (ret : Errcode) : Client :=
  match property with
  | none => client.switchToDisconnecting cache .connecting errPointerNull
  | some info =>
    if info.errorCode = errSuccess ∧ info.value.length = 0 then
      client.enterConnected cache
    else if ret ≠ errSuccess ∨ info.value.length < 2 then
      client.switchToDisconnecting cache .connecting info.errorCode
    else if valueChecked info.value then
      client.enterSetNtf env { cache with
        portInfoList := cache.portInfoList ++ valueInfos info.value
        propertyHandle := info.handle }
    else client

/-- `PortOnPropertyChangedInConnectedState` -/
def onPropertyChanged (client : Client) (cache : InfoCache)
    (property : Option PropertyInfo) : Client :=
  match property with
  | none => client
  | some info =>
    if info.value.length < 2 then client
    else if valueChecked info.value then
      client.store { cache with portInfoList := valueInfos info.value }
    else client

/-- The answer of a state under way to an event that every such state
handles alike. -/
def leave (client : Client) (cache : InfoCache) (preState : ConnectState) :
    Event → Client
  | .stateChanged .disconnected ret =>
    client.switchToDisconnected cache preState ret
  | .userDisconnect => client.switchToDisconnecting cache preState errSuccess
  | _ => client

/-- `PortStateMachineCall` -/
def dispatch (env : Env) (client : Client) (cache : InfoCache) (event : Event) : Client :=
  match cache.stmState, event with
  | .idle, .userConnect => client.enterRegisterApp env cache
  | .idle, _ => client
  | .registerApp, .registerApp appId => client.onRegisterApp env cache appId
  | .registerApp, _ => client
  | .createLink, .stateChanged .connected _ => client.enterGetService env cache
  | .getService, .getService service =>
    client.handleOnGetService env cache service
  | .findService, .findService ret =>
    if ret ≠ errSuccess then
      client.switchToDisconnecting cache .connecting ret
    else client.enterGetService env cache
  | .readProperty, .readProperty property ret =>
    client.onReadProperty env cache property ret
  -- A refused subscription is logged, and the connection is complete.
  | .setNet, .setNtf _ _ _ => client.enterConnected cache
  | .connected, .propertyChanged property =>
    client.onPropertyChanged cache property
  | .connected, .userConnect =>
    client.emit [.stateChange .connected .connected errSuccess]
  | .connected, event => client.leave cache .connected event
  | _, event => client.leave cache .connecting event

/-- One event of the address.  `PortConnectInner` makes the entry that it does
not find. -/
def step (client : Client) : Env × Event → Client
  | (env, event) =>
    match client.cache, event with
    | some cache, event => client.dispatch env cache event
    | none, .userConnect =>
      if env.create then (client.store {}).dispatch env {} .userConnect
      else client.emit
        [.stateChange .disconnected .disconnected errPointerNull]
    | none, _ => client

end Client

end NearLink.Port
