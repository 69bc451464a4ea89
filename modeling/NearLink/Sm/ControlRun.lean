import NearLink.Transition
import NearLink.Sm.ControlSteps

/-!
# Runs seen through their scripts

Each event of a run does one of the scripts listed for it on the link that it
finds or creates.  An invariant of the course of a pairing therefore needs one
argument about scripts, and the rules here carry it to every run.
-/

namespace NearLink.Sm

open Sdf Cm Transition SLink

namespace Scripts

def event (env : Env) (values : Values) (size : Nat) (control : Control) :
    Event → List Script
  | .packet opcode pkg =>
    let started :=
      control.run env (passiveStart env control)
    if started.removed then [passiveStart env control]
    else
      (received env values started opcode pkg).map
        (passiveStart env control ++ ·)
  | .startPairing => activeStart env control
  | .removePairing => [removePair control]
  | .setConfirm => setConfirm env control size
  | .setPassCode _ => setPassCode env values control
  | .setPassWord _ => setPassWord values control
  | .setLocalPsk _ | .otherPairing _ => [[]]
  | .recoverKey _ => [recoverKey control]
  | .recvTimeout =>
    [if control.running .receive then [.expire, .lapse .receive] else []]
  | .uapiTimeout =>
    [if control.running .user then [.expire, .lapse .user] else []]
  | .encryptChange status evtStatus =>
    [encryptChange env control status evtStatus]
  | .encryptParamReq => [encryptParamReq env control]
  | .sendControllerDataFail => [[.fail]]
  | .disconnected => [disconnected control]

theorem passiveStart_goesOn {env : Env} {control : Control} (act : Act)
    (found : act ∈ passiveStart env control) (other : Control) :
    other.goesOn env act = true := by
  unfold passiveStart at found
  split at found
  · cases linked : env.logicLink with
    | none =>
      rw [linked] at found
      rw [List.mem_singleton.mp found]
      rfl
    | some link =>
      rw [linked] at found
      simp only [List.mem_cons, List.not_mem_nil, or_false] at found
      rcases found with rfl | rfl <;> rfl
  · cases found

end Scripts

namespace SLink

variable {crypto : Crypto} {env : Env} {slink : SLink}

theorem follows_pkgDispatcher (crypto : Crypto) (env : Env) (slink : SLink)
    (size : Nat) (opcode : UInt16) (pkg : Bytes) :
    ∃ values : Scripts.Values, values.method ≤ 5 ∧ slink.Follows env
        (Scripts.event env values size slink.control (.packet opcode pkg))
        (slink.pkgDispatcher crypto env opcode pkg) := by
  have starts : (slink.passiveStart env).control = Control.run env
    (Scripts.passiveStart env slink.control) slink.control :=
      control_passiveStart
  have removed : (slink.passiveStart env).removed =
      (Control.run env (Scripts.passiveStart env slink.control)
        slink.control).removed := congrArg Control.removed starts
  unfold pkgDispatcher Scripts.event
  dsimp only
  rw [removed]
  split
  · exact ⟨⟨[], 0⟩, by decide, Follows.head starts⟩
  · obtain ⟨values, valid, script, listed, done⟩ :=
      follows_pkgDispatcherStarted crypto env (slink.passiveStart env) opcode
        pkg
    refine ⟨values, valid, Scripts.passiveStart env slink.control ++ script,
      ?_, ?_⟩
    · rw [starts] at listed
      exact List.mem_map_of_mem listed
    · rw [Control.run_append Scripts.passiveStart_goesOn, ← starts]
      exact done

end SLink

namespace Session

variable {config : Config} {session : Session} {env : Env} {event : Event}
  {slink : SLink}

def handled (config : Config) (env : Env) (session : Session) :
    Event → Option SLink
  | .packet _ _ | .startPairing | .setLocalPsk _ | .recoverKey _
  | .encryptParamReq => session.findOrCreate config env
  | .removePairing | .setConfirm | .setPassCode _ | .setPassWord _
  | .recvTimeout | .uapiTimeout | .encryptChange _ _
  | .sendControllerDataFail | .disconnected => session.find
  | .otherPairing _ => none

def control (session : Session) : Option Control :=
  session.find.map SLink.control

/-- A new link as `SmFindOrCreateSLink` makes it. -/
def created (config : Config) (session : Session) : SLink :=
  (session.begin
    { rmtAddr := config.rmtAddr, localAddr := config.localAddr }).note .created

theorem handled_cases (found : session.handled config env event = some slink) :
    session.find = some slink ∨
      (session.find = none ∧ slink = session.created config) := by
  have creates : session.findOrCreate config env = some slink →
      session.find = some slink ∨
        (session.find = none ∧ slink = session.created config) := by
    intro chosen
    unfold findOrCreate at chosen
    cases held : session.find with
    | some stored =>
      rw [held] at chosen
      exact .inl chosen
    | none =>
      rw [held] at chosen
      dsimp only at chosen
      split at chosen <;> cases chosen
      · exact .inr ⟨rfl, rfl⟩
  cases event with
  | packet | startPairing | setLocalPsk | recoverKey | encryptParamReq =>
    exact creates found
  | otherPairing shared => cases found
  | _ => exact .inl found

def handler (config : Config) (env : Env) : Event → SLink → SLink
  | .packet opcode pkg => (·.pkgDispatcher config.crypto env opcode pkg)
  | .startPairing => (·.activeStart env)
  | .removePairing => (·.removePair env)
  | .setConfirm => (·.setConfirm config.crypto env)
  | .setPassCode passCode => (·.setPassCode config.crypto env passCode)
  | .setPassWord passWord => (·.setPassWord config.crypto env passWord)
  | .setLocalPsk psk => (·.setLocalPsk psk)
  | .recoverKey key => (·.recoverKey env key)
  | .recvTimeout => fun slink =>
    if slink.running .receive then slink.waitTimeoutCbk env .receive
    else slink
  | .uapiTimeout => fun slink =>
    if slink.running .user then slink.waitTimeoutCbk env .user else slink
  | .encryptChange status evtStatus => (·.encryptChange env status evtStatus)
  | .encryptParamReq => (·.encpParamReqReply env)
  | .sendControllerDataFail => (·.internalError env)
  | .disconnected => (·.disconnected env)
  | .otherPairing _ => id

theorem step_handled (found : session.handled config env event = some slink) :
    session.step config (env, event) =
      finish (handler config env event slink) := by
  cases event with
  | otherPairing shared => cases found
  | packet | startPairing | setLocalPsk | recoverKey | encryptParamReq =>
    have looked : session.findOrCreate config env = some slink := found
    simp only [step, looked, handle, handler]
  | _ =>
    have looked : session.find = some slink := found
    simp only [step, looked, handle, handler]

theorem handle_none {found : Option SLink} {act : SLink → SLink}
    {missing : Session → Session} (absent : found = none)
    (silent : (missing session).slink = session.slink ∧
      (missing session).log = session.log) :
    (session.handle found act missing).slink = session.slink ∧
      (session.handle found act missing).log = session.log := by
  rw [absent]
  exact silent

theorem step_unhandled (absent : session.handled config env event = none) :
    (session.step config (env, event)).slink = session.slink ∧
      (session.step config (env, event)).log = session.log := by
  cases event with
  | otherPairing shared => exact ⟨rfl, rfl⟩
  | _ => exact handle_none absent ⟨rfl, rfl⟩

theorem control_expired (timer : Timer) :
    (if slink.running timer then slink.waitTimeoutCbk env timer
      else slink).control =
      slink.control.run env (if slink.control.running timer then
        [.expire, .lapse timer] else []) := by
  have same : slink.control.running timer = slink.running timer := by
    cases timer <;> rfl
  rw [same]
  split
  · have posted := @control_timeout env slink
    simp only [Control.run, Control.goesOn, if_true, Control.exec, ← posted]
    cases timer <;> rfl
  · rfl

theorem follows_handler (config : Config) (env : Env) (event : Event)
    (slink : SLink) :
    ∃ values : Scripts.Values, values.method ≤ 5 ∧ slink.Follows env
        (Scripts.event env values slink.shared.numCmpTNodeRecvDHKeySize
          slink.control event) (handler config env event slink) := by
  have plain : ∀ {result : SLink} {scripts : Scripts.Values → List Script},
      slink.Follows env (scripts ⟨[], 0⟩) result →
        ∃ values : Scripts.Values, values.method ≤ 5 ∧
          slink.Follows env (scripts values) result :=
    fun follows => ⟨⟨[], 0⟩, by decide, follows⟩
  cases event with
  | packet opcode pkg => exact follows_pkgDispatcher _ _ _ _ _ _
  | startPairing => exact plain follows_activeStart
  | removePairing => exact plain (.head control_removePair)
  | setConfirm => exact plain follows_setConfirm
  | setPassCode passCode =>
    obtain ⟨confirm, follows⟩ := follows_setPassCode 0 passCode
    exact ⟨⟨confirm, 0⟩, (by decide : (0 : UInt8) ≤ 5), follows⟩
  | setPassWord passWord =>
    obtain ⟨confirm, follows⟩ := follows_setPassWord 0 passWord
    exact ⟨⟨confirm, 0⟩, (by decide : (0 : UInt8) ≤ 5), follows⟩
  | setLocalPsk psk => exact plain (.head rfl)
  | recoverKey key => exact plain (.head (control_recoverKey key))
  | recvTimeout =>
    apply plain
    apply SLink.Follows.head
    exact control_expired .receive
  | uapiTimeout =>
    apply plain
    apply SLink.Follows.head
    exact control_expired .user
  | encryptChange status evtStatus =>
    exact plain (.head (control_encryptChange status evtStatus))
  | encryptParamReq => exact plain (.head control_encpParamReqReply)
  | sendControllerDataFail => exact plain SLink.Follows.fail
  | disconnected => exact plain (.head control_disconnected)
  | otherPairing shared => exact plain SLink.Follows.idle

/-- The course of a new link, whose record goes on from the one before. -/
def freshControl (log : List Note) : Control :=
  { state := .init
    dispatcher := none
    role := gNodeRole
    lcid := invalidLcid
    authMethod := 0
    expectOpCode := 0
    timerHandle := false
    uapiTimerHandle := false
    timerExpired := false
    uapiTimerExpired := false
    recvFlag := false
    ra := List.replicate 16 0
    rb := List.replicate 16 0
    gConfirm := List.replicate 16 0
    tConfirm := List.replicate 16 0
    removed := false
    log := log ++ [.created] }

def Upholds (invariant : Control → Prop) (ended : List Note → Prop)
    (session : Session) : Prop :=
  match session.find with
  | none => ended session.log
  | some slink => invariant slink.control

def Leaves (invariant : Control → Prop) (ended : List Note → Prop)
    (control : Control) : Prop :=
  if control.removed then ended control.log else invariant control

/-- Every event meets a condition on the course of its link and the size of
the code that the number comparison keeps. -/
def Heeds (condition : Env → Event → Nat → Control → Prop)
    (config : Config) (session : Session) (event : Env × Event) : Prop :=
  ∀ slink, session.handled config event.1 event.2 = some slink →
    condition event.1 event.2 slink.shared.numCmpTNodeRecvDHKeySize
      slink.control

instance {condition : Env → Event → Nat → Control → Prop}
    [∀ env event size control, Decidable (condition env event size control)]
    {config : Config} {session : Session} {event : Env × Event} :
    Decidable (Heeds condition config session event) :=
  inferInstanceAs (Decidable (∀ slink ∈ session.handled config event.1 event.2,
      condition event.1 event.2 slink.shared.numCmpTNodeRecvDHKeySize
        slink.control))

section Rule

variable {invariant : Control → Prop} {ended : List Note → Prop}
  {condition : Env → Event → Nat → Control → Prop} {slink result : SLink}
  {event : Event}

theorem removed_of_find (found : session.find = some slink) :
    slink.control.removed = false := by
  obtain ⟨stored, _, equal⟩ := Option.map_eq_some_iff.mp found
  rw [← equal]
  rfl

theorem log_of_find (found : session.find = some slink) :
    slink.control.log = session.log := by
  obtain ⟨stored, _, equal⟩ := Option.map_eq_some_iff.mp found
  rw [← equal]
  rfl

theorem Upholds.handled (upholds : session.Upholds invariant ended)
    (creates : ∀ log, ended log → invariant (freshControl log))
    (found : session.handled config env event = some slink) :
    invariant slink.control ∧ slink.control.removed = false := by
  unfold Upholds at upholds
  rcases handled_cases found with held | ⟨absent, equal⟩
  · rw [held] at upholds
    exact ⟨upholds, removed_of_find held⟩
  · rw [absent] at upholds
    rw [equal]
    exact ⟨creates session.log upholds, rfl⟩

theorem find_finish (stays : result.removed = false) :
    (finish result).find = some result := by
  obtain ⟨⟩ := result
  cases stays
  rfl

theorem upholds_finish (leaves : Leaves invariant ended result.control) :
    (finish result).Upholds invariant ended := by
  have same : result.control.removed = result.removed := rfl
  unfold Leaves at leaves
  unfold Upholds
  cases gone : result.removed with
  | true =>
    rw [if_pos (same.trans gone)] at leaves
    have absent : (finish result).find = none := by
      unfold finish find
      rw [gone]
      rfl
    rw [absent]
    exact leaves
  | false =>
    rw [if_neg (by simp [same, gone])] at leaves
    rw [find_finish gone]
    exact leaves

theorem Upholds.step (upholds : session.Upholds invariant ended)
    (creates : ∀ log, ended log → invariant (freshControl log))
    (keeps : ∀ values size control script, invariant control →
      control.removed = false → condition env event size control →
        values.method ≤ 5 → script ∈ Scripts.event env values size control
          event → Leaves invariant ended (control.run env script))
    (heeds : Heeds condition config session (env, event)) :
    (session.step config (env, event)).Upholds invariant ended := by
  cases found : session.handled config env event with
  | none =>
    obtain ⟨slink, log⟩ := step_unhandled found
    have same : ∀ stepped : Session, stepped.slink = session.slink →
        stepped.log = session.log → stepped.Upholds invariant ended := by
      intro stepped equal logged
      unfold Upholds at upholds ⊢
      unfold find at upholds ⊢
      rw [equal, logged]
      cases held : session.slink with
      | none =>
        rw [held] at upholds
        exact upholds
      | some stored =>
        rw [held] at upholds
        have equal : (stepped.begin stored).control =
            (session.begin stored).control := by
          simp only [begin, SLink.control, logged]
        simp only [Option.map_some] at upholds ⊢
        rw [equal]
        exact upholds
    exact same _ slink log
  | some slink =>
    obtain ⟨holds, stays⟩ := upholds.handled creates found
    obtain ⟨values, valid, script, listed, done⟩ :=
      follows_handler config env event slink
    rw [step_handled found]
    apply upholds_finish
    rw [done]
    exact keeps values _ _ script holds stays (heeds slink found) valid listed

theorem always_upholds {property : Session → Prop} {events : List (Env × Event)}
    (sound : ∀ session, Upholds invariant ended session → property session)
    (initial : ended []) (creates : ∀ log, ended log →
      invariant (freshControl log))
    (keeps : ∀ env event values size control script, invariant control →
      control.removed = false → condition env event size control →
        values.method ≤ 5 → script ∈ Scripts.event env values size control
          event → Leaves invariant ended (control.run env script))
    (heeds : Meets (step config) (Heeds condition config) {} events) :
    Always (step config) property {} events := by
  have start : Upholds invariant ended {} := initial
  apply always_of_meets sound _ start heeds
  intro session event upholds met
  exact upholds.step creates (keeps event.1 event.2) met

end Rule

end Session

end NearLink.Sm
