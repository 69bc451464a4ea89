import NearLink.Keyed
import NearLink.Transition
import NearLink.Ssap.Table

/-!
# Connections of client applications

The state machine of `ssapc_app_link_sm.c` for each application, the table of
links of `ssap_link_state.c` that the applications share, and the calls of
`ssap_app_link.c` and `SSAP_CMLogicLinkCbk` that drive them.  The calls of the
connection manager succeed, and no clean up is going on.
-/

namespace NearLink.Ssap

open Keyed Transition

/-- `NLSTK_SsapConnectLinkState_E` -/
inductive LinkState where
  | idle
  | connecting
  | connected
  | disconnecting
  | disconnected
  deriving DecidableEq

/-- `SSAP_USER_CONNECT` and `SSAP_USER_DISCONNECT` -/
inductive Operator where
  | connect
  | disconnect
  deriving DecidableEq

/-- `SSAP_LOGIC_LINK_CONNECTED` and `SSAP_LOGIC_LINK_DISCONNECTED` -/
inductive LinkChange where
  | connected
  | disconnected

def maxNumOfLink : Nat := 128

/-- An application of `g_regList`.  Nothing reads the last two fields: they
record the last request of the user, and that the connection it asked for
could not be made or was lost since. -/
structure App where
  appId : Nat
  addr : Addr
  linkState : LinkState
  nextOperator : Option Operator
  lastRequest : Option Operator
  dropped : Bool

/-- `SsapcAppLinkStateManager_S` in use. -/
structure LinkManager where
  addr : Addr
  actualLinkState : LinkState

inductive CmState where
  | down
  | adding
  | up
  | removing
  deriving DecidableEq

/-- A call of `onConnectionStateChanged`, with `NLSTK_ERRCODE_CONN_FAIL` or
success. -/
structure Notice where
  appId : Nat
  state : LinkState
  connFail : Bool
  reason : UInt8

/-- What the applications share: `g_linkState`, the connection manager, the
calls of `CM_DirectConnectRemove` with the other applications at that time,
and what the users were told. -/
structure Shared where
  linkState : List LinkManager
  cm : Addr → CmState
  removals : List (Addr × List App)
  notices : List Notice

namespace Shared

/-- `SsapcAppLinkStateNofity` -/
def notify (shared : Shared) (app : App) (state : LinkState)
    (connFail : Bool) (reason : UInt8) : Shared :=
  { shared with
    notices := shared.notices ++ [⟨app.appId, state, connFail, reason⟩] }

/-- `SsapFindLinkManagerCbByAddr` -/
def findLinkManager (shared : Shared) (addr : Addr) : Option LinkManager :=
  lookup LinkManager.addr addr shared.linkState

/-- Set the `actualLinkState` of an address. -/
def setActual (shared : Shared) (addr : Addr) (state : LinkState) : Shared :=
  { shared with
    linkState := modify LinkManager.addr addr
      (fun manager => { manager with actualLinkState := state })
      shared.linkState }

/-- `SsapFreeLinkManagerCb` -/
def free (shared : Shared) (addr : Addr) : Shared :=
  { shared with linkState := remove LinkManager.addr addr shared.linkState }

/-- `SsapAllocLinkManagerCb` for an address. -/
def alloc (shared : Shared) (addr : Addr) (state : LinkState) :
    Option Shared :=
  if shared.linkState.length < maxNumOfLink then
    some { shared with linkState := shared.linkState ++ [⟨addr, state⟩] }
  else none

def directConnectAdd (shared : Shared) (addr : Addr) : Shared :=
  { shared with cm := Function.update shared.cm addr .adding }

def directConnectRemove (shared : Shared) (addr : Addr) (others : List App) :
    Shared :=
  { shared with
    cm := Function.update shared.cm addr .removing
    removals := shared.removals ++ [(addr, others)] }

def tryConnect (shared : Shared) (manager : LinkManager) :
    Shared × LinkState :=
  match manager.actualLinkState with
  | .idle | .disconnected =>
    ((shared.directConnectAdd manager.addr).setActual manager.addr
      .connecting, .connecting)
  | state => (shared, state)

def tryDisconnect (shared : Shared) (manager : LinkManager)
    (others : List App) : Shared × LinkState :=
  match manager.actualLinkState with
  | .idle | .disconnected => (shared.free manager.addr, .disconnected)
  | .connected =>
    ((shared.directConnectRemove manager.addr others).setActual manager.addr
      .disconnecting, .disconnecting)
  | state => (shared, state)

def userConnect (shared : Shared) (addr : Addr) : Shared × LinkState :=
  match shared.findLinkManager addr with
  | some manager => shared.tryConnect manager
  | none =>
    match shared.alloc addr .idle with
    | none => (shared, .disconnected)
    | some allocated => allocated.tryConnect ⟨addr, .idle⟩

def userDisconnect (shared : Shared) (addr : Addr) (others : List App) :
    Shared × LinkState :=
  match shared.findLinkManager addr with
  | none => (shared, .disconnected)
  | some manager => shared.tryDisconnect manager others

def recordLinkStateFromCm (shared : Shared) (addr : Addr)
    (change : LinkChange) : Shared :=
  match shared.findLinkManager addr, change with
  | none, .disconnected => shared
  | none, .connected => (shared.alloc addr .connected).getD shared
  | some _, .disconnected => shared.free addr
  | some _, .connected => shared.setActual addr .connected

end Shared

namespace App

def disconnectCmLinkCheck (app : App) (others : List App) : Bool :=
  others.all fun other => other.addr ≠ app.addr ||
    !(other.linkState = .connected || other.linkState = .connecting)

/-- `SsapAppClientUserConnectInIdleState`, which also handles the state
`disconnected`. -/
def userConnectInIdleState (shared : Shared) (app : App) (reason : UInt8) :
    Shared × App :=
  let app := { app with nextOperator := none }
  let tried := shared.userConnect app.addr
  match tried.2 with
  | .connected =>
    (tried.1.notify app .connected false reason,
      { app with linkState := .connected })
  | .connecting => (tried.1, { app with linkState := .connecting })
  | .disconnecting => (tried.1, { app with nextOperator := some .connect })
  | .disconnected =>
    (tried.1.notify app .disconnected true reason,
      { app with linkState := .disconnected, dropped := true })
  | .idle => (tried.1, app)

def userDisconnectInConnectedState (shared : Shared) (app : App)
    (others : List App) (reason : UInt8) : Shared × App :=
  let app := { app with nextOperator := none }
  let gone := { app with linkState := .disconnected }
  if app.disconnectCmLinkCheck others then
    let tried := shared.userDisconnect app.addr others
    match tried.2 with
    | .disconnected => (tried.1.notify app .disconnected false reason, gone)
    | .disconnecting => (tried.1, { app with linkState := .disconnecting })
    | .connecting => (tried.1.notify app .disconnected true reason, gone)
    | _ => (tried.1, app)
  else (shared.notify app .disconnected false reason, gone)

/-- `SsapClientLinkStateMachineCall` with a request of the user. -/
def userCall (operator : Operator) (shared : Shared) (app : App)
    (others : List App) (reason : UInt8) : Shared × App :=
  match operator, app.linkState with
  | .connect, .idle => app.userConnectInIdleState shared reason
  | .connect, .connecting => (shared, { app with nextOperator := none })
  | .connect, .connected => (shared.notify app .connected false reason, app)
  | .connect, .disconnecting =>
    (shared, { app with nextOperator := some .connect })
  | .connect, .disconnected => app.userConnectInIdleState shared reason
  | .disconnect, .idle => (shared.notify app .disconnected false reason, app)
  | .disconnect, .connecting =>
    (shared, { app with nextOperator := some .disconnect })
  | .disconnect, .connected =>
    app.userDisconnectInConnectedState shared others reason
  | .disconnect, .disconnecting => (shared, { app with nextOperator := none })
  | .disconnect, .disconnected =>
    (shared.notify app .disconnected false reason, app)

def resume (shared : Shared) (app : App) (others : List App) (reason : UInt8) : Shared × App :=
  match app.nextOperator with
  | none => (shared, app)
  | some operator =>
    userCall operator shared { app with nextOperator := none } others reason

/-- `SsapClientLinkStateMachineCall` with an event of the connection
manager. -/
def linkCall (change : LinkChange) (shared : Shared) (app : App)
    (others : List App) (reason : UInt8) : Shared × App :=
  match change, app.linkState with
  | .connected, .idle =>
    if app.nextOperator = none then (shared, app)
    else (shared.notify app .disconnected false reason,
      { app with nextOperator := none })
  | .connected, .connecting =>
    resume (shared.notify app .connected false reason)
      { app with linkState := .connected } others reason
  | .connected, .connected => resume shared app others reason
  | .connected, .disconnecting =>
    (shared.notify app .disconnected true reason,
      { app with linkState := .disconnected, nextOperator := none })
  | .connected, .disconnected => resume shared app others reason
  | .disconnected, .idle => resume shared app others reason
  | .disconnected, .connecting =>
    resume (shared.notify app .disconnected false reason)
      { app with linkState := .disconnected, dropped := true } others reason
  | .disconnected, .connected =>
    resume (shared.notify app .disconnected false reason)
      { app with linkState := .disconnected, dropped := true } others reason
  | .disconnected, .disconnecting =>
    resume (shared.notify app .disconnected false 0)
      { app with linkState := .disconnected } others reason
  | .disconnected, .disconnected => resume shared app others reason

end App

structure Host where
  apps : List App
  shared : Shared

inductive LinkEvent where
  | connect (appId : Nat)
  | disconnect (appId : Nat)
  /-- `SSAP_CMLogicLinkCbk` with a link that is there. -/
  | connected (addr : Addr) (reason : UInt8)
  /-- `SSAP_CMLogicLinkCbk` with a link that is gone. -/
  | disconnected (addr : Addr) (reason : UInt8)

namespace Host

def request (host : Host) (operator : Operator) (appId : Nat) : Host :=
  match host.apps[appId]? with
  | none => host
  | some app =>
    let asked :=
      { app with lastRequest := some operator, dropped := false }
    let outcome := asked.userCall operator host.shared
      (host.apps.eraseIdx appId) 0
    ⟨host.apps.set appId outcome.2, outcome.1⟩

/-- The loop of `SsapTriggerLinkStateMachineChange` over the applications with
the address; those in `done` have had their turn. -/
def trigger (change : LinkChange) (addr : Addr) (reason : UInt8)
    (shared : Shared) (done : List App) : List App → Host
  | [] => ⟨done, shared⟩
  | app :: rest =>
    if app.addr = addr then
      let outcome := app.linkCall change shared (done ++ rest) reason
      trigger change addr reason outcome.1 (done ++ [outcome.2]) rest
    else trigger change addr reason shared (done ++ [app]) rest

def report (host : Host) (change : LinkChange) (addr : Addr) (reason : UInt8) : Host :=
  let reported : CmState :=
    match change with
    | .connected => .up
    | .disconnected => .down
  let shared :=
    { host.shared with cm := Function.update host.shared.cm addr reported }
  trigger change addr reason (shared.recordLinkStateFromCm addr change) []
    host.apps

def next (host : Host) : LinkEvent → Host
  | .connect appId => host.request .connect appId
  | .disconnect appId => host.request .disconnect appId
  | .connected addr reason => host.report .connected addr reason
  | .disconnected addr reason => host.report .disconnected addr reason

def init (addrs : List Addr) : Host where
  apps := addrs.zipIdx.map fun entry =>
    { appId := entry.2
      addr := entry.1
      linkState := .idle
      nextOperator := none
      lastRequest := none
      dropped := false }
  shared :=
    { linkState := []
      cm := fun _ => .down
      removals := []
      notices := [] }

/-- The connection manager reports a link that it was asked for or that the
peer made, and the end of a link or of an attempt.  It has no more links than
`NLSTK_SSAP_MAX_NUM_OF_LINK`. -/
def Consistent (host : Host) : LinkEvent → Prop
  | .connected addr _ =>
    host.shared.cm addr = .adding ∨ (host.shared.cm addr = .down ∧
        host.shared.linkState.length < maxNumOfLink)
  | .disconnected addr _ => host.shared.cm addr ≠ .down
  | _ => True

end Host

end NearLink.Ssap
