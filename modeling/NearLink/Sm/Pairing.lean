import NearLink.Sm.Negotiate

/-!
# Pairing with one device

The state machine of a secure link, the dispatcher of received packets, and
the calls of the layer above, over the entry of the link table that belongs to
one address.  Packets of any content, calls in any state, timers, link events
and every failure of the layers below are events.
-/

namespace NearLink.Sm

open Sdf Cm Opcode

def KeyOrigin.renew : KeyOrigin → KeyOrigin
  | .generated _ => .blank
  | .blank => .blank
  | .recovered pairing => .recovered pairing

/-- What is read of a `NLSTK_SmRecoverKeyParam_S`. -/
structure RecoverKeyParam where
  addrType : UInt8
  linkKey : Bytes
  cryptoAlgo : UInt8
  keyDerivAlgo : UInt8
  intgChkInd : UInt8

namespace SLink

/-- `NegoEntry` -/
def enterNego (slink : SLink) : SLink :=
  { slink.note (.negotiates slink.role) with
    state := .nego
    dispatcher := some .nego
    expectOpCode :=
      if slink.role = gNodeRole then pairingStart
      else pairingRequest
    origin := slink.origin.renew }

/-- `MissEntry` -/
def enterMiss (slink : SLink) : SLink :=
  { (slink.note (.entered .miss)).encpCbk .keyMissing with state := .miss }

/-- `FullEntry` -/
def enterFull (slink : SLink) : SLink :=
  { slink.note (.entered .full) with state := .full }

/-- `SM_PASSIVE_START` in each state. -/
def passiveStart (env : Env) (slink : SLink) : SLink :=
  match slink.state with
  | .init =>
    let bound := slink.bindLogicLink env
    if bound.2 then bound.1.enterNego else bound.1.enterRemv env
  | .nego | .auth | .encp | .miss | .full | .remv => slink

/-- `SM_ACTIVE_START` in each state. -/
def activeStart (env : Env) (slink : SLink) : SLink :=
  match slink.state with
  | .init =>
    let bound := slink.bindLogicLink env
    if bound.2 then bound.1.enterNego.negoStart env
    else bound.1.enterRemv env
  | .encp =>
    let bound := slink.bindLogicLink env
    if bound.2 then bound.1.encpEnable env else bound.1
  | .full => slink.encpCbk .ok
  | .nego | .auth | .miss | .remv => slink

/-- `SM_RECOVER_START` in each state. -/
def recoverStart (env : Env) (slink : SLink) : SLink :=
  match slink.state with
  | .init => slink.enterEncp env
  | .nego | .auth | .encp | .miss | .full | .remv => slink

/-- `SM_ENCP_SUCCESS` in each state. -/
def encpSuccess (slink : SLink) : SLink :=
  match slink.state with
  | .encp => (slink.encpCbk .ok).enterFull
  | .init | .nego | .auth | .miss | .full | .remv => slink

/-- `SM_MISS_HANDLE` in each state. -/
def missHandle (env : Env) (slink : SLink) : SLink :=
  let posted := slink.note .posted
  match slink.state with
  | .miss =>
    let bound := posted.bindLogicLink env
    if bound.2 then
      if bound.1.role = gNodeRole then bound.1.enterNego.negoStart env
      else bound.1.enterNego
    else bound.1
  | .init | .nego | .auth | .encp | .full | .remv => posted

/-- `SM_ENCP_FAIL` in each state; 5 is `SM_ERR_STATUS_KEY_MISSING`. -/
def encpFail (env : Env) (slink : SLink) (status : UInt8) : SLink :=
  match slink.state with
  | .encp =>
    if status = 5 then slink.enterMiss.missHandle env
    else slink.encpCbk .error
  | .init | .nego | .auth | .miss | .full | .remv => slink

/-- `SM_LCHANNEL_DISCONN` in each state. -/
def lchannelDisconn (env : Env) (slink : SLink) : SLink :=
  match slink.state with
  | .nego | .auth => (slink.authCbk .linkDisconnected).enterRemv env
  | .encp => slink.encpCbk .linkDisconnected
  | .miss | .full => slink.enterEncp env
  | .init | .remv => slink

/-- `SM_REMOVE_PAIR` in each state, with `SM_ERR_ACTIVE_CANCEL`.  A cancelled
pairing is left as the failed packet leaves it. -/
def removePair (env : Env) (slink : SLink) : SLink :=
  match slink.state with
  | .nego | .auth =>
    let sent := (slink.authCbk .activeCancel).sendMessage env
      pairFail [0x0C]
    if sent.2 then sent.1.enterRemv env else sent.1
  | .init | .encp | .miss | .full => slink.enterRemv env
  | .remv => slink

/-- The negative reply of `INIT` and `NEGO` to a request for parameters. -/
def replyKeyMissing (env : Env) (slink : SLink) : SLink :=
  if env.paramReqNegativeReply then
    slink.emit (.paramReqNegativeReply slink.lcid)
  else slink.enterRemv env

/-- `SM_ENCP_PARAM_REQ_REPLY` in each state. -/
def encpParamReqReply (env : Env) (slink : SLink) : SLink :=
  match slink.state with
  | .init =>
    let bound := (slink.authCbk .keyMissing).bindLogicLink env
    if bound.2 then bound.1.replyKeyMissing env else bound.1
  | .nego => (slink.authCbk .keyMissing).replyKeyMissing env
  | .encp =>
    let bound := slink.bindLogicLink env
    if bound.2 then bound.1.encpParamReqReplyProcess env else bound.1
  | .auth | .miss | .full | .remv => slink

/-- The call of `slink->dispatcher`.  Without a dispatcher the source calls a
null pointer; nothing after that is modelled. -/
def callDispatcher (crypto : Crypto) (env : Env) (opcode : UInt16)
    (slink : SLink) (pkg : Bytes) : SLink :=
  match slink.dispatcher with
  | none => slink
  | some dispatcher =>
    (slink.note (.handed opcode)).dispatch crypto env opcode pkg dispatcher

/-- `SmPkgDispatcher` after `SM_PASSIVE_START`. -/
def pkgDispatcherStarted (crypto : Crypto) (env : Env) (opcode : UInt16)
    (slink : SLink) (pkg : Bytes) : SLink :=
  if 0 < pkg.length ∧ opcode = slink.expectOpCode then
    if slink.lcid = invalidLcid then slink.internalError env
    else slink.waitDelTimer.callDispatcher crypto env opcode pkg
  else if opcode = pairFail then
    if pkg.length = 0 then slink else slink.externalError env
  else if opcode = pairingRequest then
    (slink.enterMiss.missHandle env).callDispatcher crypto env opcode pkg
  else if opcode = pairingStart then slink
  else slink.externalError env

/-- `SmPkgDispatcher` on the link of the address. -/
def pkgDispatcher (crypto : Crypto) (env : Env) (opcode : UInt16)
    (slink : SLink) (pkg : Bytes) : SLink :=
  let started := slink.passiveStart env
  if started.removed then started
  else started.pkgDispatcherStarted crypto env opcode pkg

/-- `SmSetConfirm` on the link of the address. -/
def setConfirm (crypto : Crypto) (env : Env) (slink : SLink) : SLink :=
  let answered := (slink.note .confirmed).waitDelUapiTimer
  if answered.negoParams.authMethod = AuthMethod.numberCompare then
    answered.numCmpContinueNumComparison crypto env
  else if answered.negoParams.authMethod = AuthMethod.noEntry then
    answered.noEntryContinueNoentry crypto env
  else answered.internalError env

/-- `SmSetPassCode` on the link of the address. -/
def setPassCode (crypto : Crypto) (env : Env) (slink : SLink)
    (passCode : UInt32) : SLink :=
  let answered := slink.waitDelUapiTimer
  if answered.role = gNodeRole then
    (answered.setGPassCode passCode).passCodeSetGPassCode crypto env
  else (answered.setTPassCode passCode).passCodeSetTPassCode crypto env

/-- `SmSetPassWord` on the link of the address. -/
def setPassWord (crypto : Crypto) (env : Env) (slink : SLink)
    (passWord : Bytes) : SLink :=
  let answered := slink.waitDelUapiTimer
  if answered.role = gNodeRole then
    answered.passWordSetGPassWord crypto env passWord
  else answered.passWordSetTPassWord crypto env passWord

/-- `SmSetLocalPsk` on the link of the address. -/
def setLocalPsk (slink : SLink) (psk : Bytes) : SLink :=
  { slink with psk := psk }

/-- The link is between `NegoEntry` and the end of the authentication. -/
def pairing (slink : SLink) : Bool :=
  slink.state = .nego || slink.state = .auth

/-- What `SmRecoverKey` writes into a link. -/
def installKey (slink : SLink) (key : RecoverKeyParam) : SLink :=
  { slink with
    rmtAddr := { slink.rmtAddr with type := key.addrType }
    linkKey := key.linkKey
    negoParams := { slink.negoParams with
      codeAlgoCap := { slink.negoParams.codeAlgoCap with
        enc := key.cryptoAlgo
        intg := key.cryptoAlgo
        deriv := key.keyDerivAlgo } }
    encIntgCheck := key.intgChkInd
    origin := .recovered slink.pairing }

/-- `SmRecoverKey` on the link of the address. -/
def recoverKey (env : Env) (slink : SLink) (key : RecoverKeyParam) : SLink :=
  (slink.installKey key).recoverStart env

/-- `SM_EncryptChangeCbk` on the link of the address; 5 is
`DLI_PIN_OR_KEY_MISSING`. -/
def encryptChange (env : Env) (slink : SLink) (status : UInt16)
    (evtStatus : UInt8) : SLink :=
  if status ≠ 0 then
    if status = 5 then slink.encpFail env evtStatus
    else slink.externalError env
  else if evtStatus = 0 then slink.encpSuccess
  else slink

/-- `SM_LogicLinkListener` on the link of the address. -/
def disconnected (env : Env) (slink : SLink) : SLink :=
  { slink with lcid := invalidLcid }.lchannelDisconn env

end SLink

/-- The callbacks of the upper layer's crypto library and the two addresses. -/
structure Config where
  crypto : Crypto
  localAddr : SleAddr
  rmtAddr : SleAddr

/-- The module as one address sees it: its entry of `g_slinkMap`, the
file-scope codes, what the module has sent and reported, and the record of
the links of this address. -/
structure Session where
  slink : Option SLink := none
  shared : Shared := {}
  out : List Output := []
  log : List Note := []

inductive Event where
  | packet (opcode : UInt16) (pkg : Bytes)
  | startPairing
  | removePairing
  | setConfirm
  | setPassCode (passCode : UInt32)
  | setPassWord (passWord : Bytes)
  | setLocalPsk (psk : Bytes)
  /-- One element of the list that `SmRecoverKey` is given. -/
  | recoverKey (key : RecoverKeyParam)
  | recvTimeout
  | uapiTimeout
  | encryptChange (status : UInt16) (evtStatus : UInt8)
  | encryptParamReq
  | sendControllerDataFail
  | disconnected
  | otherPairing (shared : Shared)

namespace Session

def begin (session : Session) (slink : SLink) : SLink :=
  { slink with
    shared := session.shared
    out := session.out
    log := session.log
    removed := false }

def finish (slink : SLink) : Session :=
  { slink := if slink.removed then none else some slink
    shared := slink.shared
    out := slink.out
    log := slink.log }

def emit (session : Session) (output : Output) : Session :=
  { session with out := session.out ++ [output] }

/-- `SmFindSLink` -/
def find (session : Session) : Option SLink :=
  session.slink.map session.begin

/-- `SmFindOrCreateSLink` -/
def findOrCreate (config : Config) (env : Env) (session : Session) :
    Option SLink :=
  match session.find with
  | some slink => some slink
  | none =>
    if env.create then
      some ((session.begin
        { rmtAddr := config.rmtAddr
          localAddr := config.localAddr }).note .created)
    else none

def handle (session : Session) (found : Option SLink)
    (handler : SLink → SLink) (missing : Session → Session) : Session :=
  match found with
  | none => missing session
  | some slink => finish (handler slink)

def authError (session : Session) : Session :=
  session.emit (.authComplete 0 .error none)

def step (config : Config) (session : Session) : Env × Event → Session
  | (env, .packet opcode pkg) =>
    session.handle (session.findOrCreate config env)
      (·.pkgDispatcher config.crypto env opcode pkg) id
  | (env, .startPairing) =>
    session.handle (session.findOrCreate config env) (·.activeStart env)
      authError
  | (env, .removePairing) =>
    session.handle session.find (·.removePair env)
      (·.emit (.pairingRemove invalidLcid .ok))
  | (env, .setConfirm) =>
    session.handle session.find (·.setConfirm config.crypto env) authError
  | (env, .setPassCode passCode) =>
    session.handle session.find
      (·.setPassCode config.crypto env passCode) authError
  | (env, .setPassWord passWord) =>
    session.handle session.find
      (·.setPassWord config.crypto env passWord) authError
  | (env, .setLocalPsk psk) =>
    session.handle (session.findOrCreate config env) (·.setLocalPsk psk)
      authError
  | (env, .recoverKey key) =>
    session.handle (session.findOrCreate config env) (·.recoverKey env key) id
  | (env, .recvTimeout) =>
    session.handle session.find (fun slink =>
        if slink.running .receive then slink.waitTimeoutCbk env .receive
        else slink) id
  | (env, .uapiTimeout) =>
    session.handle session.find (fun slink =>
        if slink.running .user then slink.waitTimeoutCbk env .user
        else slink) id
  | (env, .encryptChange status evtStatus) =>
    session.handle session.find (·.encryptChange env status evtStatus) id
  | (env, .encryptParamReq) =>
    session.handle (session.findOrCreate config env)
      (·.encpParamReqReply env) id
  | (env, .sendControllerDataFail) =>
    session.handle session.find (·.internalError env) id
  | (env, .disconnected) => session.handle session.find (·.disconnected env) id
  | (_, .otherPairing shared) => { session with shared := shared }

end Session

end NearLink.Sm
