import NearLink.Sdf.Buff
import NearLink.Cm.ConcurrentConn

/-!
# Secure links

A secure link (`SmSLink_S`) records the pairing with one device: the state of
its state machine, the packet dispatcher and the opcode it waits for, two
timers, and the keys.  Handlers run to their end on the schedule thread.  What
the layers below and the crypto callbacks answer during one event is given by
`Env`.

A handler may free the link it works on and go on with the pointer.  The
record then keeps its fields but for the timer handles, which the destructor
resets, and has `removed` set; nothing finds it again once the event is over.
So a step that goes on with a freed link is read as if its memory were intact.
-/

namespace NearLink.Sm

open Sdf Cm

inductive State where
  | init
  | nego
  | auth
  | encp
  | miss
  | full
  | remv
  deriving DecidableEq

/-- The functions a `SmSLinkPkgDispatcher_S` points to. -/
inductive Dispatcher where
  | nego
  | numCmp
  | noEntry
  | passCode
  | passWord
  | oob
  | psk
  deriving DecidableEq

inductive PairStatus where
  | ok
  | error
  | keyMissing
  | linkDisconnected
  | activeCancel
  deriving DecidableEq

namespace Opcode

def pairingStart : UInt16 := 0x0133
def pairingRequest : UInt16 := 0x0134
def pairingResponse : UInt16 := 0x0135
def pairingConfirm : UInt16 := 0x0136
def pairingInitInfo : UInt16 := 0x0137
def tNodeCfm : UInt16 := 0x0138
def randNumRa : UInt16 := 0x0139
def randNumRb : UInt16 := 0x013A
def gNodeCfmWithRa : UInt16 := 0x013B
def tNodeCfmWithRb : UInt16 := 0x013C
def gNodeCfm : UInt16 := 0x013F
def gNodeDhKey : UInt16 := 0x0141
def tNodeDhKey : UInt16 := 0x0142
def pairFail : UInt16 := 0x0147

end Opcode

namespace AuthMethod

def numberCompare : UInt8 := 0
def noEntry : UInt8 := 1
def passcode : UInt8 := 2
def passwordEntry : UInt8 := 3
def outOfBand : UInt8 := 4
def psk : UInt8 := 5

end AuthMethod

/-- `SM_G_NODE`; every other role of a logic link is taken for a T node. -/
def gNodeRole : UInt8 := 0

/-- `SM_T_NODE` -/
def tNodeRole : UInt8 := 1

/-- The four bytes of `codeAlgoCap`: capability masks before the negotiation
and identifiers after it. -/
structure AlgoCap where
  enc : UInt8
  intg : UInt8
  deriv : UInt8
  nego : UInt8

structure AuthReq where
  secAttribute : UInt8
  mitmDefend : UInt8
  kpressNotif : UInt8
  reserved : UInt8

structure LocalParams where
  ioAbility : UInt8
  authMethodMask : UInt8
  oobDataFlag : UInt8
  secKeyMaxLen : UInt8
  distIrkFlag : UInt8
  distAddrFlag : UInt8
  codeAlgoCap : AlgoCap
  pskFlag : UInt8
  authReq : AuthReq

structure DeviceParams where
  pubKey : Bytes := List.replicate 64 0
  randomR : Bytes := List.replicate 16 0
  confirm : Bytes := List.replicate 16 0
  ioAbility : UInt8 := 0
  pskFlag : UInt8 := 0
  passCode : UInt32 := 0
  mixCode : Bytes := List.replicate 16 0
  mixWord : Bytes := List.replicate 16 0
  recvFlag : Bool := false

/-- `SmPairingNegoParam_S`, less `oobDataFlag`, which nothing reads. -/
structure NegoParam where
  authMethod : UInt8 := 0
  secAttribute : UInt8 := 0
  kpressNotif : UInt8 := 0
  secKeyMaxLen : UInt8 := 0
  distIrkFlag : UInt8 := 0
  distAddrFlag : UInt8 := 0
  codeAlgoCap : AlgoCap := ⟨0, 0, 0, 0⟩

/-- What leaves the module: control packets, commands of the data link
interface, and the callbacks of the layer above.  The group key of a completed
authentication is not modelled. -/
inductive Output where
  | message (lcid opcode : UInt16) (pkg : Bytes)
  | enableEncryption (lcid : UInt16) (linkKey : Bytes)
      (cryptoAlgo keyDerivAlgo integrChkInd : UInt8)
  | paramReqReply (lcid : UInt16) (linkKey : Bytes)
      (cryptoAlgo keyDerivAlgo : UInt8)
  | paramReqNegativeReply (lcid : UInt16)
  | pairingStart (lcid : UInt16) (bondStatus : UInt8)
  | pairingRemove (lcid : UInt16) (removeStatus : PairStatus)
  | pairingRequest (lcid : UInt16) (requestType : UInt8) (code : Option Nat)
  | authComplete (lcid : UInt16) (authStatus : PairStatus)
      (keys : Option (Bytes × UInt8 × UInt8 × UInt8))
  | encryptComplete (lcid : UInt16) (encStatus : PairStatus)

/-- The file-scope variables in which the number comparison and the no-entry
method keep a verification code that arrives before the user's answer.  All
links share them. -/
structure Shared where
  numCmpTNodeRecvDHKey : Bytes := List.replicate 16 0
  numCmpTNodeRecvDHKeySize : Nat := 0
  noEntryTNodeRecvDHKey : Bytes := List.replicate 16 0

inductive KeyOrigin where
  | blank
  /-- Installed by `SmRecoverKey`, and whether the link was pairing then. -/
  | recovered (pairing : Bool)
  /-- Computed in the current pairing, and whether the verification code of
  the peer was found equal since. -/
  | generated (checked : Bool)

/-- What a link does, in the order it does it.  This is a record kept by the
model as well.  The event that opens a handling is not noted as posted. -/
inductive Note where
  | created
  /-- `NegoEntry`, with the role of the link. -/
  | negotiates (role : UInt8)
  /-- `AuthEntry`, with the method it looks up. -/
  | authenticates (method : Option Dispatcher)
  | entered (state : State)
  | posted
  | handed (opcode : UInt16)
  | sent (opcode : UInt16)
  /-- `SmSLinkWaitExpectOpCode` gets past its check. -/
  | waits (opcode : UInt16)
  /-- `SmSLinkWaitUapiInput` gets past its check. -/
  | asks
  /-- `SmSLinkRequestCbk` -/
  | prompted
  /-- `SmSetConfirm` -/
  | confirmed
  /-- `SmSLinkAuthCbk` -/
  | reported (status : PairStatus)
  deriving DecidableEq

inductive Timer where
  | receive
  | user
  deriving DecidableEq

/-- `SmSLink_S`.  A timer handle is `true` while it is in use, which it stays
when the timer expires: that is recorded by the model.  The fields after
`encIntgCheck` belong to the handling of one event. -/
structure SLink where
  rmtAddr : SleAddr
  localAddr : SleAddr
  lcid : UInt16 := invalidLcid
  role : UInt8 := gNodeRole
  state : State := .init
  dispatcher : Option Dispatcher := none
  expectOpCode : UInt16 := 0
  timerHandle : Bool := false
  uapiTimerHandle : Bool := false
  timerExpired : Bool := false
  uapiTimerExpired : Bool := false
  dhKey : Bytes := List.replicate 32 0
  linkKey : Bytes := List.replicate 16 0
  priKey : Bytes := List.replicate 32 0
  psk : Bytes := List.replicate 32 0
  gNode : DeviceParams := {}
  tNode : DeviceParams := {}
  negoParams : NegoParam := {}
  encIntgCheck : UInt8 := 0
  origin : KeyOrigin := .blank
  shared : Shared := {}
  out : List Output := []
  log : List Note := []
  removed : Bool := false

structure Crypto where
  /-- `secKeyFunc`: algorithm, private key, local and remote public key. -/
  secKey : UInt8 → Bytes → Bytes → Bytes → Bytes
  /-- `derivedKeyFunc`: algorithm, key, message. -/
  derivedKey : UInt8 → Bytes → Bytes → Bytes

/-- The places that call `SmCmacGenerate`. -/
inductive MacUse where
  | linkKey
  | ownCode
  | peerCode
  | confirm
  | check
  | sixDigits
  | mix

/-- What the layers around the module answer during one event. -/
structure Env where
  /-- `SmFindOrCreateSLink` can create a link. -/
  create : Bool := true
  /-- `CM_GetLogicLinkByAddr`: `lcid` and `role` of the logic link. -/
  logicLink : Option (UInt16 × UInt8) := none
  localParams : LocalParams
  /-- `DLI_SetControllerData` accepts a packet of this opcode. -/
  setControllerData : UInt16 → Bool := fun _ => true
  /-- `SmGenRandNum` on a `randomR` -/
  randNum : Option Bytes := none
  /-- `SmGenRandNum` on the three bytes of a six digit code -/
  randDigits : Option (UInt8 × UInt8 × UInt8) := none
  /-- `SmGenPubPriKey`: private and public key. -/
  pubPriKey : Option (Bytes × Bytes) := none
  /-- `SmGenDhKey` succeeds. -/
  genDhKey : Bool := true
  /-- `SmCmacGenerate` and the allocations before it succeed. -/
  cmacGenerate : MacUse → Bool := fun _ => true
  /-- `CP_TimerAdd` for the receive timer -/
  recvTimerAdd : Bool := true
  /-- `CP_TimerAdd` for the user input timer -/
  uapiTimerAdd : Bool := true
  /-- The twelve bytes of `GenMixPassCode` that are never written. -/
  stackBytes : Bytes := List.replicate 12 0
  directConnectRemove : Bool := true
  setLogicLinkDeviceType : Bool := true
  enableEncryption : Bool := true
  paramReqReply : Bool := true
  paramReqNegativeReply : Bool := true

/-- `SLE_Addr_S.addr` -/
def addrBytes (addr : SleAddr) : Bytes :=
  (List.range 6).map fun index =>
    UInt8.ofNat (addr.addr.toNat / 2 ^ (8 * index))

def slice (pkg : Bytes) (offset length : Nat) : Bytes :=
  (pkg.drop offset).take length

namespace SLink

def emit (slink : SLink) (output : Output) : SLink :=
  { slink with out := slink.out ++ [output] }

def note (slink : SLink) (entry : Note) : SLink :=
  { slink with log := slink.log ++ [entry] }

def authCbk (slink : SLink) (status : PairStatus) : SLink :=
  (slink.note (.reported status)).emit (.authComplete slink.lcid status
    (if status = .ok then
      some (slink.linkKey, slink.negoParams.codeAlgoCap.enc,
        slink.negoParams.codeAlgoCap.deriv, slink.encIntgCheck)
    else none))

def encpCbk (slink : SLink) (status : PairStatus) : SLink :=
  slink.emit (.encryptComplete slink.lcid status)

def requestCbk (slink : SLink) (type : UInt8) (code : Option Nat) : SLink :=
  (slink.note .prompted).emit (.pairingRequest slink.lcid type code)

/-- `RemvEntry`, with the `SmRemoveSLink` at its end, which destroys the
link. -/
def enterRemv (env : Env) (slink : SLink) : SLink :=
  let entered :=
    { slink.note (.entered .remv) with state := .remv, lcid := invalidLcid }
  if env.directConnectRemove then
    { entered.emit (.pairingRemove invalidLcid .ok) with
      timerHandle := false
      uapiTimerHandle := false
      removed := true }
  else entered

/-- `SM_INTERNAL_ERROR` in each state.  The error code is only logged. -/
def internalError (env : Env) (slink : SLink) : SLink :=
  let posted := slink.note .posted
  match slink.state with
  | .init => posted.enterRemv env
  | .nego | .auth => (posted.authCbk .error).enterRemv env
  | .encp => posted.encpCbk .error
  | .miss | .full | .remv => posted

/-- `SM_EXTERNAL_ERROR` in each state. -/
def externalError (env : Env) (slink : SLink) : SLink :=
  let posted := slink.note .posted
  match slink.state with
  | .nego | .auth => (posted.authCbk .error).enterRemv env
  | .encp => posted.encpCbk .error
  | .init | .miss | .full | .remv => posted

/-- `SM_TIMEOUT` in each state. -/
def timeout (env : Env) (slink : SLink) : SLink :=
  let posted := slink.note .posted
  match slink.state with
  | .nego | .auth => (posted.authCbk .error).enterRemv env
  | .init | .encp | .miss | .full | .remv => posted

def handOver (slink : SLink) (opcode : UInt16) (pkg : Bytes) : SLink :=
  (slink.note (.sent opcode)).emit (.message slink.lcid opcode pkg)

/-- `SmSendMessage`: a packet that cannot be handed over is an internal
error. -/
def sendMessage (env : Env) (slink : SLink) (opcode : UInt16) (pkg : Bytes) :
    SLink × Bool :=
  if env.setControllerData opcode then
    (slink.handOver opcode pkg, true)
  else (slink.internalError env, false)

def bindLogicLink (env : Env) (slink : SLink) : SLink × Bool :=
  match env.logicLink with
  | none => (slink, false)
  | some (lcid, role) => ({ slink with lcid := lcid, role := role }, true)

/-- `SmSLinkWaitExpectOpCode`.  The opcode is set even when the timer cannot
be added. -/
def waitExpectOpCode (env : Env) (slink : SLink) (opcode : UInt16) : SLink :=
  if slink.timerHandle then slink
  else
    { slink.note (.waits opcode) with
      expectOpCode := opcode
      timerHandle := env.recvTimerAdd
      timerExpired := false }

def waitUapiInput (env : Env) (slink : SLink) : SLink :=
  if slink.uapiTimerHandle then slink
  else
    { slink.note .asks with
      uapiTimerHandle := env.uapiTimerAdd
      uapiTimerExpired := false }

def running (slink : SLink) : Timer → Bool
  | .receive => slink.timerHandle && !slink.timerExpired
  | .user => slink.uapiTimerHandle && !slink.uapiTimerExpired

/-- `WaitTimeoutCbk`, which leaves the handle in use. -/
def waitTimeoutCbk (env : Env) (slink : SLink) (timer : Timer) : SLink :=
  let posted := slink.timeout env
  match timer with
  | .receive => { posted with timerExpired := true }
  | .user => { posted with uapiTimerExpired := true }

def waitDelTimer (slink : SLink) : SLink :=
  { slink with timerHandle := false }

def waitDelUapiTimer (slink : SLink) : SLink :=
  { slink with uapiTimerHandle := false }

def gAddr (slink : SLink) (role : UInt8) : SleAddr :=
  if role = gNodeRole then slink.localAddr else slink.rmtAddr

def tAddr (slink : SLink) (role : UInt8) : SleAddr :=
  if role = gNodeRole then slink.rmtAddr else slink.localAddr

/-- The key of `SmGenLinkKey`: `lk`, both random numbers and both addresses
under the first half of the shared secret. -/
def linkKeyOf (crypto : Crypto) (slink : SLink) (role : UInt8) : Bytes :=
  crypto.derivedKey slink.negoParams.codeAlgoCap.deriv (slink.dhKey.take 16)
    ([107, 108] ++ slink.gNode.randomR ++ slink.tNode.randomR ++
      addrBytes (slink.gAddr role) ++ addrBytes (slink.tAddr role))

def genLinkKey (crypto : Crypto) (env : Env) (slink : SLink) : SLink × Bool :=
  if env.cmacGenerate .linkKey then
    ({ slink with
      linkKey := slink.linkKeyOf crypto slink.role
      origin := .generated false }, true)
  else (slink, false)

/-- `SmGenDhKey` on the key pair that the handlers fill in. -/
def genDhKey (crypto : Crypto) (env : Env) (slink : SLink)
    (localPubKey remotePubKey : Bytes) : SLink × Bool :=
  if env.genDhKey then
    ({ slink with
      dhKey := crypto.secKey slink.negoParams.codeAlgoCap.nego slink.priKey
        localPubKey remotePubKey }, true)
  else (slink, false)

def passCodeBytes (passCode : UInt32) : Bytes :=
  (List.range 4).map fun index =>
    UInt8.ofNat (passCode.toNat / 2 ^ (8 * index))

def dhKeySalt (slink : SLink) : Bytes :=
  if slink.negoParams.authMethod = AuthMethod.passcode then
    passCodeBytes (if slink.role = gNodeRole then slink.gNode.passCode
      else slink.tNode.passCode) ++ List.replicate 12 0
  else List.replicate 16 0

def inputKey (crypto : Crypto) (slink : SLink) (gAddr tAddr : SleAddr) :
    Bytes :=
  crypto.derivedKey slink.negoParams.codeAlgoCap.deriv (slink.dhKey.take 16)
    ([107, 100] ++ slink.gNode.randomR ++ slink.tNode.randomR ++
      addrBytes gAddr ++ addrBytes tAddr)

def dhKeyCfmBuff (slink : SLink) (randomR : Bytes) (gAddr tAddr : SleAddr) :
    Bytes :=
  randomR ++ slink.dhKeySalt ++ [slink.gNode.ioAbility, slink.tNode.ioAbility,
      slink.negoParams.authMethod, slink.negoParams.codeAlgoCap.enc,
      slink.negoParams.codeAlgoCap.intg, slink.negoParams.codeAlgoCap.deriv,
      slink.negoParams.codeAlgoCap.nego, slink.gNode.pskFlag,
      slink.tNode.pskFlag] ++
    addrBytes gAddr ++ addrBytes tAddr

/-- `GenDhKeyCfmCodeKey` -/
def genDhKeyCfmCode (crypto : Crypto) (env : Env) (slink : SLink)
    (use : MacUse) (randomR : Bytes) (gAddr tAddr : SleAddr) :
    Option Bytes :=
  if env.cmacGenerate use then
    some (crypto.derivedKey slink.negoParams.codeAlgoCap.deriv
      (slink.inputKey crypto gAddr tAddr)
      (slink.dhKeyCfmBuff randomR gAddr tAddr))
  else none

def genConfirmNum (crypto : Crypto) (env : Env) (slink : SLink)
    (use : MacUse) (key : Bytes) : Option Bytes :=
  if env.cmacGenerate use then
    some (crypto.derivedKey slink.negoParams.codeAlgoCap.deriv key
      (slink.gNode.pubKey ++ slink.tNode.pubKey))
  else none

def encpEnable (env : Env) (slink : SLink) : SLink :=
  if slink.lcid = invalidLcid then slink
  else if env.enableEncryption then
    let algoCap := slink.negoParams.codeAlgoCap
    slink.emit (.enableEncryption slink.lcid slink.linkKey
      (if algoCap.enc = algoCap.intg then algoCap.enc - 1 else 0xFF)
      (algoCap.deriv - 1) slink.encIntgCheck)
  else slink.internalError env

def encpParamReqReplyProcess (env : Env) (slink : SLink) : SLink :=
  if slink.role ≠ tNodeRole then
    if env.paramReqNegativeReply then
      slink.emit (.paramReqNegativeReply slink.lcid)
    else slink.internalError env
  else if env.paramReqReply then
    slink.emit (.paramReqReply slink.lcid slink.linkKey
      (slink.negoParams.codeAlgoCap.enc - 1)
      (slink.negoParams.codeAlgoCap.deriv - 1))
  else slink.internalError env

/-- `EncpEntry` -/
def enterEncp (env : Env) (slink : SLink) : SLink :=
  let entered := { slink.note (.entered .encp) with state := .encp }
  if slink.role = gNodeRole then entered.encpEnable env else entered

/-- `SM_AUTH_SUCCESS` in each state. -/
def authSuccess (env : Env) (slink : SLink) : SLink :=
  let posted := slink.note .posted
  match slink.state with
  | .auth => (posted.authCbk .ok).enterEncp env
  | .init | .nego | .encp | .miss | .full | .remv => posted

def codeChecked (slink : SLink) : SLink :=
  match slink.origin with
  | .generated _ => { slink with origin := .generated true }
  | .blank | .recovered _ => slink

def sendGNodeDhKey (crypto : Crypto) (env : Env) (slink : SLink) : SLink :=
  match slink.genDhKeyCfmCode crypto env .ownCode slink.gNode.randomR
      slink.localAddr slink.rmtAddr with
  | none => slink.internalError env
  | some code => (slink.sendMessage env Opcode.gNodeDhKey code).1

def sendTNodeDhKey (crypto : Crypto) (env : Env) (slink : SLink) : SLink :=
  match slink.genDhKeyCfmCode crypto env .ownCode slink.tNode.randomR
      slink.rmtAddr slink.localAddr with
  | none => slink.internalError env
  | some code =>
    let sent := slink.sendMessage env Opcode.tNodeDhKey code
    if sent.2 then sent.1.authSuccess env else sent.1

def recvGNodeDhKey (crypto : Crypto) (env : Env) (slink : SLink)
    (pkg : Bytes) (size : Nat) : SLink :=
  if size ≠ 16 then slink
  else
    match slink.genDhKeyCfmCode crypto env .peerCode slink.gNode.randomR
        slink.rmtAddr slink.localAddr with
    | none => slink.internalError env
    | some code =>
      if slice pkg 0 16 ≠ code then slink.internalError env
      else slink.codeChecked.sendTNodeDhKey crypto env

def recvTNodeDhKey (crypto : Crypto) (env : Env) (slink : SLink) (pkg : Bytes) : SLink :=
  if pkg.length ≠ 16 then slink
  else
    match slink.genDhKeyCfmCode crypto env .peerCode slink.tNode.randomR
        slink.localAddr slink.rmtAddr with
    | none => slink.internalError env
    | some code =>
      if slice pkg 0 16 ≠ code then slink.internalError env
      else slink.codeChecked.authSuccess env

variable {crypto : Crypto} {env : Env} {slink : SLink} {pkg : Bytes}

/-- The comparison of `SmRecvGNodeDhKey`. -/
def AcceptsG (crypto : Crypto) (env : Env) (slink : SLink) (code : Bytes) :
    Prop :=
  slink.genDhKeyCfmCode crypto env .peerCode slink.gNode.randomR
    slink.rmtAddr slink.localAddr = some code

/-- The comparison of `SmRecvTNodeDhKey`. -/
def AcceptsT (crypto : Crypto) (env : Env) (slink : SLink) (code : Bytes) :
    Prop :=
  slink.genDhKeyCfmCode crypto env .peerCode slink.tNode.randomR
    slink.localAddr slink.rmtAddr = some code

instance (slink : SLink) (code : Bytes) :
    Decidable (slink.AcceptsG crypto env code) :=
  inferInstanceAs (Decidable (_ = _))

instance (slink : SLink) (code : Bytes) :
    Decidable (slink.AcceptsT crypto env code) :=
  inferInstanceAs (Decidable (_ = _))

theorem compared {computed : Option Bytes} {code : Bytes}
    {accepted refused : SLink} :
    (match computed with
      | none => refused
      | some own => if code ≠ own then refused else accepted) =
      if computed = some code then accepted else refused := by
  cases computed with
  | none => rfl
  | some own => simp [ite_not, eq_comm]

theorem recvGNodeDhKey_eq {size : Nat} :
    slink.recvGNodeDhKey crypto env pkg size =
      if size ≠ 16 then slink
      else if slink.AcceptsG crypto env (slice pkg 0 16) then
        slink.codeChecked.sendTNodeDhKey crypto env
      else slink.internalError env :=
  congrArg (ite _ slink) compared

theorem recvTNodeDhKey_eq :
    slink.recvTNodeDhKey crypto env pkg =
      if pkg.length ≠ 16 then slink
      else if slink.AcceptsT crypto env (slice pkg 0 16) then
        slink.codeChecked.authSuccess env
      else slink.internalError env :=
  congrArg (ite _ slink) compared

end SLink

end NearLink.Sm
