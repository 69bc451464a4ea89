import NearLink.Sm.Order
import NearLink.Sm.ConsentRun

/-!
# One packet after the other

Every event keeps the order of a pairing unless the packet that a link expects
is one that it has taken already, a request restarts the attempt of a G node,
or the user answers when nobody asked.
-/

namespace NearLink.Sm

open Sdf Cm Transition Scripts Opcode List Option Bool

def AwaitedPacket (control : Control) (opcode : UInt16) (pkg : Bytes) :
    Prop :=
  0 < pkg.length ∧ opcode = control.expectOpCode →
    control.lcid ≠ invalidLcid → control.state.Pairing →
      awaits control.log = true

instance (control : Control) (opcode : UInt16) (pkg : Bytes) :
    Decidable (AwaitedPacket control opcode pkg) :=
  inferInstanceAs (Decidable (_ → _ → _ → _))

def RestartPacket (env : Env) (control : Control) (opcode : UInt16)
    (pkg : Bytes) : Prop :=
  ¬ (0 < pkg.length ∧ opcode = control.expectOpCode) →
    opcode = pairingRequest → ∀ link ∈ env.logicLink,
      link.2 = gNodeRole → env.setControllerData pairingRequest = false

instance (env : Env) (control : Control) (opcode : UInt16) (pkg : Bytes) :
    Decidable (RestartPacket env control opcode pkg) :=
  inferInstanceAs (Decidable (_ → _ → ∀ link ∈ env.logicLink, _ → _))

/-- A link in `AUTH` that waits for its user after the given packet. -/
def AsksUser (control : Control) (method : Dispatcher) (opcode : UInt16) :
    Prop :=
  control.state = .auth ∧ awaits control.log = false ∧
    control.dispatcher = some method ∧ control.expectOpCode = opcode

instance (control : Control) (method : Dispatcher) (opcode : UInt16) :
    Decidable (AsksUser control method opcode) :=
  inferInstanceAs (Decidable (_ ∧ _ ∧ _ ∧ _))

/-- The user of a G node confirms while a packet is awaited or the method asks
for it. -/
def ConfirmInTurn (control : Control) : Prop :=
  control.role = gNodeRole → (control.authMethod = AuthMethod.numberCompare ∨
        control.authMethod = AuthMethod.noEntry) →
      control.timerHandle = true ∨ AsksUser control .numCmp tNodeCfmWithRb ∨
          AsksUser control .noEntry randNumRb

instance (control : Control) : Decidable (ConfirmInTurn control) :=
  inferInstanceAs (Decidable (_ → _ → _ ∨ _ ∨ _))

/-- A pass code or a password comes while a packet is awaited or the method
asks for it, or to a T node that has kept no packet. -/
def CodeInTurn (control : Control) : Prop :=
  control.role = gNodeRole ∨ control.recvFlag = true →
    control.timerHandle = true ∨ ∃ method ∈ [Dispatcher.passCode, .passWord],
        AsksUser control method
          (if control.role = gNodeRole then pairingInitInfo
            else gNodeCfmWithRa)

instance (control : Control) : Decidable (CodeInTurn control) :=
  inferInstanceAs (Decidable (_ → _ ∨ ∃ method ∈ [_, _], AsksUser _ _ _))

def InTurn (env : Env) (event : Event) (_ : Nat) (control : Control) :
    Prop :=
  match event with
  | .packet opcode pkg =>
    let started := Control.run env (Scripts.passiveStart env control)
      control
    AwaitedPacket started opcode pkg ∧ RestartPacket env started opcode pkg
  | .setConfirm => control.state.Pairing → ConfirmInTurn control
  | .setPassCode _ | .setPassWord _ =>
    control.state.Pairing → CodeInTurn control
  | _ => True

instance (env : Env) (event : Event) (size : Nat) (control : Control) :
    Decidable (InTurn env event size control) :=
  match event with
  | .packet _ _ =>
    inferInstanceAs (Decidable (AwaitedPacket _ _ _ ∧ RestartPacket _ _ _ _))
  | .setConfirm => inferInstanceAs (Decidable (_ → ConfirmInTurn _))
  | .setPassCode _ | .setPassWord _ =>
    inferInstanceAs (Decidable (_ → CodeInTurn _))
  | .removePairing | .encryptParamReq | .startPairing | .setLocalPsk _
  | .recoverKey _ | .recvTimeout | .uapiTimeout | .encryptChange _ _
  | .sendControllerDataFail | .disconnected | .otherPairing _ => isTrue trivial

def arrived (log : List Note) : List Field :=
  match attempt log with
  | none => []
  | some current => current.handed.flatMap carried

theorem Stage.Fits.pairing {chosen : Option Dispatcher} {stage : Stage}
    {control : Control} (fits : stage.Fits chosen control) :
    control.state.Pairing := by
  rw [fits.state]
  split
  · exact .inr rfl
  · exact .inl rfl

namespace Control

variable {env : Env} {values : Values} {control after : Control}
  {opcode : UInt16} {pkg : Bytes} {script : Script} {scripts : List Script}
  {stage : Stage}

structure Keeps (control after : Control) : Prop where
  staged : after.Staged
  values : ∀ field ∈ arrived control.log,
    after.value field = control.value field

theorem Ended.arrived (closed : control.Ended) :
    arrived control.log = [] := by
  unfold NearLink.Sm.arrived
  rw [closed.quiet]

theorem Ended.keeps (closed : control.Ended) (staged : after.Staged) :
    control.Keeps after := by
  refine ⟨staged, ?_⟩
  intro field found
  rw [closed.arrived] at found
  cases found

variable {chosen : Option Dispatcher} {role : UInt8} {timer : Bool}

theorem arrived_of_fits (fits : stage.Fits chosen control) : arrived control.log = stage.kept := by
  unfold arrived
  rw [fits.attempt]
  simp only [Stage.handed, flatMap_append]
  cases stage.begun with
  | true => rfl
  | false => rfl

section

variable (staged : control.Staged)
include staged

theorem Staged.run (ordinary : Ordinary scripts)
    (followed : ∀ stage : Stage, stage.rests = true → stage.ready = true →
      stage.Fits (SLink.getAuthPkgDispatcher control.authMethod) control →
        Followed env (SLink.getAuthPkgDispatcher control.authMethod)
          stage.kept stage scripts) (listed : script ∈ scripts) :
    control.Keeps (control.run env script) := by
  rcases staged with closed | ⟨stage, ready, rests, fits⟩
  · exact closed.keeps (.inl (closed.run (ordinary script listed)))
  · obtain ⟨follows, spares⟩ := followed stage rests ready fits script listed
    refine ⟨fits.run (ordinary script listed) follows, ?_⟩
    intro field found
    rw [arrived_of_fits fits] at found
    exact value_run spares found

theorem Staged.log :
    Throughout InOrder control.log ∧ control.authMethod ≤ 5 := by
  rcases staged with closed | ⟨stage, _, _, fits⟩
  · exact ⟨closed.log, closed.method⟩
  · exact ⟨fits.log, fits.authMethod⟩

theorem Staged.closed (idle : ¬ control.state.Pairing) : control.Ended := by
  rcases staged with closed | ⟨stage, _, _, fits⟩
  · exact closed
  · exact absurd fits.pairing idle

theorem Staged.keeps : control.Keeps control :=
  ⟨staged, fun _ _ => rfl⟩

theorem Staged.failed : control.Keeps (control.internalError env) := by
  refine ⟨?_, fun field _ => value_internalError field⟩
  rcases staged with closed | ⟨stage, _, _, fits⟩
  · exact .inl closed.internalError
  · exact .inl fits.failed

theorem Staged.refused : control.Keeps (control.externalError env) := by
  refine ⟨?_, fun field _ => value_externalError field⟩
  rcases staged with closed | ⟨stage, _, _, fits⟩
  · exact .inl closed.externalError
  · exact .inl fits.refused

end

theorem keeps_plain (plain : ∀ kept, script.spares kept = true)
    (staged : (control.run env script).Staged) :
    control.Keeps (control.run env script) :=
  ⟨staged, fun field _ =>
    value_run (plain [field]) (mem_singleton.mpr rfl)⟩

def freshStage (role : UInt8) (timer : Bool) : Stage :=
  { gNode := role = gNodeRole
    method := none
    begun := false
    count := 0
    awaits := true
    expect :=
      if role = gNodeRole then pairingStart
      else pairingRequest
    timer := timer
    ready := true }

theorem fits_freshStage (control : Control)
    (log : Throughout InOrder control.log) (valid : control.authMethod ≤ 5) :
    (freshStage control.role control.timerHandle).Fits
      (SLink.getAuthPkgDispatcher control.authMethod) control.enterNego := by
  have auth : ∀ method ∈ (none : Option Dispatcher), method ≠ .nego := by
    simp
  have begun : false = true → decide (control.role = gNodeRole) = true := by
    simp
  exact ⟨rfl, rfl, auth, begun, rfl, Nat.zero_le _,
    attempt_concat control.log _, awaits_concat control.log _, rfl, rfl,
    valid, fun _ => rfl, throughout_plain log trivial⟩

theorem rests_freshStage (role : UInt8) (timer : Bool) :
    (freshStage role timer).rests = true := by
  unfold freshStage
  by_cases gNode : role = gNodeRole
  · simp only [if_pos gNode, decide_eq_true gNode]
    rfl
  · simp only [if_neg gNode, decide_eq_false gNode]
    rfl

theorem staged_negotiates (log : Throughout InOrder control.log)
    (valid : control.authMethod ≤ 5)
    (ordinary : ∀ act ∈ script, act.ordinary = true)
    (follows : (freshStage control.role control.timerHandle).follows env
      (SLink.getAuthPkgDispatcher control.authMethod) script = true) :
    (Control.run env script control.enterNego).Staged :=
  (fits_freshStage control log valid).run ordinary follows

theorem rests_first (first : opcode = if role = gNodeRole then pairingResponse
      else pairingRequest) :
    ((freshStage role timer).waits env opcode).rests = true := by
  apply rests_waits env (rests_freshStage role timer)
  intro _
  unfold freshStage
  subst first
  by_cases gNode : role = gNodeRole
  · simp only [if_pos gNode, decide_eq_true gNode]
    rfl
  · simp only [if_neg gNode, decide_eq_false gNode]
    rfl

theorem Staged.passiveStart (staged : control.Staged) :
    control.Keeps (control.run env (Scripts.passiveStart env control)) := by
  obtain ⟨log, valid⟩ := staged.log
  unfold Scripts.passiveStart
  split
  case isTrue init =>
    have closed : control.Ended :=
      staged.closed (by simp [State.Pairing, init])
    apply closed.keeps
    cases env.logicLink with
    | none => exact .inl (ended_enterRemv log valid)
    | some link =>
      have started : (Control.run env [] ({ control with
          lcid := link.1
          role := link.2 }.enterNego)).Staged :=
        staged_negotiates log valid (by simp) (rests_freshStage _ _)
      exact started
  case isFalse _ => exact staged.keeps

variable {method : Dispatcher} {kept : List Field} {size : Nat}

section

variable (staged : control.Staged)
include staged

theorem Staged.dispatched (valid : values.method ≤ 5)
    (looked : control.dispatcher = some method)
    (expected : opcode = control.expectOpCode)
    (awaited : control.state.Pairing → awaits control.log = true)
    (listed : script ∈ (Scripts.dispatch env values control opcode pkg
      method).map ([Act.delTimer, .note (.handed opcode)] ++ ·)) :
    control.Keeps (control.run env script) := by
  apply staged.run ((ordinary_dispatch valid).map ordinary_taken) _ listed
  intro stage rests ready fits
  have waiting : stage.awaits = true :=
    fits.awaits.symm.trans (awaited fits.pairing)
  have dispatched : stage.turn opcode = true ∧
      Followed env (SLink.getAuthPkgDispatcher control.authMethod) stage.kept
        ({ stage with timer := false }.takes opcode)
          (Scripts.dispatch env values control opcode pkg method) :=
    followed_dispatch fits ready rests waiting (expected.trans fits.expect)
      looked
  obtain ⟨due, followed⟩ := dispatched
  have before : ∀ rest, stage.follows env
      (SLink.getAuthPkgDispatcher control.authMethod)
        ([Act.delTimer, .note (.handed opcode)] ++ rest) =
          ({ stage with timer := false }.takes opcode).follows env
            (SLink.getAuthPkgDispatcher control.authMethod) rest := by
    intro rest
    have turn : ({ stage with timer := false } : Stage).turn opcode = true :=
      due
    simp [Stage.follows, Stage.allows, Stage.exec, turn]
  exact followed_map _ _ before rfl followed

theorem Staged.missStart {rest : Script}
    (ordinary : ∀ act ∈ rest, act.ordinary = true)
    (plain : ∀ kept, Script.spares kept rest = true)
    (follows : ∀ link, env.logicLink = some link →
      (link.2 = gNodeRole → env.setControllerData pairingRequest = true) →
      (freshStage link.2 control.timerHandle).follows env
      (SLink.getAuthPkgDispatcher control.authMethod)
      ((if link.2 = gNodeRole then [.exchange pairingRequest pairingResponse]
      else []) ++ rest) = true) :
    control.Keeps (Control.run env (Scripts.missStart env ++ rest)
      control) := by
  obtain ⟨log, valid⟩ := staged.log
  have entered : ({ control.note (.entered .miss) with
      state := .miss } : Control).Ended :=
    ⟨by simp [State.Pairing], valid, attempt_concat control.log _,
      throughout_plain log trivial⟩
  have missed : (Scripts.missed control).Ended := entered.note rfl
  have spares : ∀ kept, Script.spares kept (Scripts.missStart env ++ rest) =
      true := by
    intro kept
    have later : Script.spares kept rest = true := plain kept
    unfold Scripts.missStart Script.spares at *
    cases env.logicLink with
    | none => simpa using later
    | some link =>
      by_cases gNode : link.2 = gNodeRole <;> simpa [gNode] using later
  apply keeps_plain spares
  unfold Scripts.missStart
  cases linked : env.logicLink with
  | none => exact .inl (missed.run ordinary)
  | some link =>
    have bound : Throughout InOrder ({ Scripts.missed control with
          lcid := link.1, role := link.2 } : Control).log := missed.log
    rw [append_assoc, append_assoc]
    by_cases refused : link.2 = gNodeRole ∧
        env.setControllerData pairingRequest = false
    · obtain ⟨gNode, refuses⟩ := refused
      rw [if_pos gNode]
      have fits := fits_freshStage _ bound valid
      have failed : ({ Scripts.missed control with
          lcid := link.1, role := link.2 }.enterNego.internalError env).Ended :=
        fits.failed
      simp only [cons_append, nil_append, Control.run, Control.goesOn,
        Control.exec, if_true, refuses, false_eq_true, if_false]
      exact .inl (failed.run ordinary)
    · have accepted : link.2 = gNodeRole →
          env.setControllerData pairingRequest = true := by
        intro gNode
        rw [← not_eq_false]
        exact fun refuses => refused ⟨gNode, refuses⟩
      have started : (Control.run env ((if link.2 = gNodeRole then
          [.exchange pairingRequest pairingResponse]
            else []) ++ rest) ({ Scripts.missed control with
          lcid := link.1, role := link.2 }.enterNego)).Staged := by
        apply staged_negotiates bound valid _ (follows link linked accepted)
        refine forall_mem_append.mpr ⟨fun act first => ?_, ordinary⟩
        split at first
        · rw [mem_singleton.mp first]
          rfl
        · cases first
      exact started

end

theorem followed_request (rests : stage.rests = true)
    (due : stage.timer = false → stage.turn pairingConfirm = true) :
    Followed env chosen kept stage (Scripts.dispatch env values control
      pairingRequest pkg .nego) := by
  have still : ({ stage with ready := false } : Stage).rests = true := rests
  have waits := rests_waits env still due
  have answers : stage.follows env chosen
      [.method values.method, .send pairingResponse,
        .wait pairingConfirm] = true := waits
  exact followed_short rests
    (followed_cons (followed_cons (followed_one answers rfl) rfl rfl) rfl rfl)

theorem spares_request (listed : script ∈ Scripts.dispatch env values control
      pairingRequest pkg method) (kept : List Field) :
    script.spares kept = true := by
  by_cases nego : method = .nego
  · rw [nego] at listed
    have followed : Followed env none kept
        (freshStage tNodeRole true) (Scripts.dispatch env values control
          pairingRequest pkg .nego) :=
      followed_request (rests_freshStage tNodeRole true) (by simp [freshStage])
    exact (followed script listed).2
  · rw [dispatch_negotiation nego (by simp)] at listed
    rw [mem_singleton.mp listed]
    rfl

theorem spares_note {entry : Note} (spares : script.spares kept = true) :
    Script.spares kept ([Act.note entry] ++ script) = true := spares

theorem follows_restart (tNode : role ≠ gNodeRole)
    (listed : script ∈ Scripts.dispatch env values control
      pairingRequest pkg .nego) :
    (freshStage role timer).follows env chosen
      ([.note (.handed pairingRequest)] ++ script) = true := by
  have due : (freshStage role timer).turn pairingRequest = true := by
    unfold freshStage
    rw [decide_eq_false tNode]
    rfl
  have rests : ((freshStage role timer).takes pairingRequest).rests = true :=
    rests_takes due (if_neg tNode)
  have next : ((freshStage role timer).takes pairingRequest).turn
      pairingConfirm = true := by
    unfold freshStage
    rw [decide_eq_false tNode]
    rfl
  have followed : Followed env chosen []
      ((freshStage role timer).takes pairingRequest)
        (Scripts.dispatch env values control pairingRequest pkg
          .nego) := followed_request rests fun _ => next
  have later := (followed script listed).1
  simp [Stage.follows, Stage.allows, Stage.exec, due, later]

section

variable (staged : control.Staged)
include staged

theorem Staged.restart (valid : values.method ≤ 5)
    (restarts : ∀ link ∈ env.logicLink, link.2 = gNodeRole →
      env.setControllerData pairingRequest = false)
    (listed : script ∈ Scripts.restart env values control pkg) :
    control.Keeps (control.run env script) := by
  obtain ⟨rest, rfl, ordinary, ⟨rfl, absent⟩ | ⟨method, nego, member, found, rfl⟩⟩ :=
    restart_cases valid listed
  · apply staged.missStart ordinary fun _ => rfl
    rw [absent]
    exact nofun
  · apply staged.missStart ordinary
    · exact fun kept => spares_note (spares_request found kept)
    · intro link held accepted
      rw [nego (isSome_of_mem held)] at found
      by_cases gNode : link.2 = gNodeRole
      · have refuses := restarts link held gNode
        rw [accepted gNode] at refuses
        cases refuses
      · rw [if_neg gNode]
        exact follows_restart gNode found

theorem Staged.received (valid : values.method ≤ 5)
    (awaited : AwaitedPacket control opcode pkg)
    (restarts : RestartPacket env control opcode pkg)
    (listed : script ∈ Scripts.received env values control opcode pkg) :
    control.Keeps (control.run env script) := by
  rcases received_cases listed with rfl | rfl | rfl | ⟨looked, rfl⟩ |
    ⟨method, looked, expected, linked, member⟩ |
    ⟨unexpected, request, member⟩
  · exact staged.keeps
  · exact staged.refused
  · exact staged.failed
  · apply staged.run (by simp [Ordinary, Act.ordinary]) _
      (mem_singleton_self _)
    intro stage rests _ _
    exact followed_one rests rfl
  · exact staged.dispatched valid looked expected.2 (awaited expected linked)
      member
  · exact staged.restart valid (restarts unexpected request) member

theorem Staged.activeStart (listed : script ∈ Scripts.activeStart env control) :
    control.Keeps (control.run env script) := by
  obtain ⟨log, valid⟩ := staged.log
  have closed : ¬ control.state.Pairing → control.Ended := staged.closed
  rcases Scripts.activeStart_cases listed with
    rfl | ⟨now, rfl⟩ | ⟨lcid, role, now, rfl⟩ | ⟨lcid, role, now, member⟩
  · exact staged.keeps
  all_goals specialize closed (by simp [State.Pairing, now])
  · exact closed.keeps (.inl (ended_enterRemv log valid))
  · apply closed.keeps
    have sends : ∀ sent reply, (reply = if role = gNodeRole then
        pairingResponse else pairingRequest) →
          (Control.run env [.send sent, .wait reply]
            ({ control with lcid, role }.enterNego)).Staged := by
      intro sent reply first
      apply staged_negotiates
      · exact log
      · exact valid
      · simp [Act.ordinary]
      · exact rests_first first
    split
    case isTrue gNode => exact sends _ _ (if_pos gNode).symm
    case isFalse tNode => exact sends _ _ (if_neg tNode).symm
  · have ordinary : Ordinary [[.bind lcid role], [.bind lcid role, .fail]] := by
      simp [Ordinary, Act.ordinary]
    exact closed.keeps (.inl (closed.run (ordinary script member)))

end

theorem own_notMem {field : Field} {side : Bool} (role : stage.gNode = side)
    (own : field ∈ if side then [Field.ra, .gConfirm] else [.rb, .tConfirm]) :
    field ∉ stage.kept := by
  intro found
  obtain ⟨opcode, member, inside⟩ := mem_flatMap.mp found
  unfold Stage.line at member
  rw [role] at member
  have whole : field ∈ (prescribed side stage.method).flatMap carried :=
    mem_flatMap.mpr ⟨opcode, mem_of_mem_take member, inside⟩
  have none : ∀ field ∈ (if side then [Field.ra, .gConfirm]
      else [.rb, .tConfirm]),
        field ∉ (prescribed side stage.method).flatMap carried := by
    cases side <;> cases stage.method with
    | none => decide
    | some method => cases method <;> decide
  exact none field own whole

theorem turn_asked {later : UInt16} (fits : stage.Fits chosen control)
    (rests : stage.rests = true) (asks : AsksUser control method opcode)
    (other : opcode ≠ pairingStart) (next : ∀ before,
      (prescribed stage.gNode (some method))[before]? = some opcode →
        (prescribed stage.gNode (some method))[before + 1]? = some later) :
    stage.turn later = true := by
  obtain ⟨auth, awaited, looked, expected⟩ := asks
  have started : stage.method.isSome = true := by
    have state := fits.state
    rw [auth] at state
    split at state
    · assumption
    · cases state
  have method : stage.method = some method := by
    obtain ⟨own, found⟩ := isSome_iff_exists.mp started
    have same := fits.dispatcher.symm.trans looked
    rw [found] at same ⊢
    exact same
  have line : stage.line = prescribed stage.gNode (some _) :=
    congrArg (prescribed stage.gNode) method
  have last : stage.last = some opcode := by
    have waiting := fits.awaits.symm.trans awaited
    unfold Stage.rests at rests
    rw [waiting, ← fits.expect, expected] at rests
    exact of_decide_eq_true rests
  unfold Stage.last at last
  unfold Stage.turn
  cases count : stage.count with
  | zero =>
    rw [count] at last
    dsimp only at last
    split at last <;> cases last
    · exact absurd rfl other
  | succ before =>
    rw [count, line] at last
    have due := next before last
    rw [line, due]
    simp

theorem followed_confirmed (rests : stage.rests = true)
    (due : control.role = gNodeRole → stage.timer = false →
      stage.turn tNodeDhKey = true) :
    Followed env chosen kept stage (confirmed env control size) := by
  unfold confirmed
  split
  case isTrue gNode => exact followed_finishG rests (due gNode)
  case isFalse _ =>
    apply followed_cons _ rfl rfl
    split
    · have flags : ∀ rest, stage.follows env chosen
          ([Act.flag false] ++ rest) = stage.follows env chosen rest :=
        fun _ => rfl
      exact followed_map _ _ flags rfl (followed_checkG rests)
    · exact followed_idle rests

theorem Staged.setConfirm (staged : control.Staged)
    (careful : control.state.Pairing → ConfirmInTurn control)
    (listed : script ∈ Scripts.setConfirm env control size) :
    control.Keeps (control.run env script) := by
  apply staged.run ordinary_setConfirm _ listed
  intro stage rests _ fits
  have answered : ∀ kept, (control.authMethod = AuthMethod.numberCompare ∨
      control.authMethod = AuthMethod.noEntry) →
        Followed env (SLink.getAuthPkgDispatcher control.authMethod)
          stage.kept stage (confirmed env control kept) := by
    intro kept method
    apply followed_confirmed rests
    intro gNode free
    have role : stage.gNode = true := by
      rw [fits.role, gNode]
      rfl
    rcases careful fits.pairing gNode method with on | numCmp | noEntry
    · have off := fits.timer.trans free
      rw [on] at off
      cases off
    · apply turn_asked fits rests numCmp (by decide)
      rw [role]
      intro before found
      rcases before with _ | _ | _ | _ | before <;>
        first | rfl | cases found
    · apply turn_asked fits rests noEntry (by decide)
      rw [role]
      intro before found
      rcases before with _ | _ | _ | _ | _ | before <;>
        first | rfl | cases found
  apply followed_map _ _ (fun _ => rfl) rfl
  split
  case isTrue compares => exact answered size (.inl compares)
  case isFalse _ =>
    split
    case isTrue plain => exact answered 16 (.inr plain)
    case isFalse _ => exact followed_fail

theorem turn_coded (fits : stage.Fits chosen control)
    (rests : stage.rests = true) (asked : control.timerHandle = true ∨
      ∃ method ∈ [Dispatcher.passCode, .passWord], AsksUser control method
          (if control.role = gNodeRole then pairingInitInfo
            else gNodeCfmWithRa)) (free : stage.timer = false) :
    stage.turn (if control.role = gNodeRole then tNodeCfmWithRb
      else gNodeDhKey) = true := by
  rcases asked with on | ⟨method, member, asks⟩
  · have off := fits.timer.trans free
    rw [on] at off
    cases off
  · have kinds : method = .passCode ∨ method = .passWord := by
      simpa using member
    by_cases gNode : control.role = gNodeRole
    · have role : stage.gNode = true := by
        rw [fits.role, gNode]
        rfl
      rw [if_pos gNode] at asks ⊢
      apply turn_asked fits rests asks (by decide)
      rw [role]
      intro before found
      rcases kinds with rfl | rfl <;>
        rcases before with _ | _ | _ | _ | before <;>
          first | rfl | cases found
    · have role : stage.gNode = false := by
        rw [fits.role]
        exact decide_eq_false gNode
      rw [if_neg gNode] at asks ⊢
      apply turn_asked fits rests asks (by decide)
      rw [role]
      intro before found
      rcases kinds with rfl | rfl <;>
        rcases before with _ | _ | _ | _ | before <;>
          first | rfl | cases found

theorem followed_answerKept (rests : stage.rests = true)
    (due : control.recvFlag = true → stage.timer = false →
      stage.turn gNodeDhKey = true) :
    Followed env chosen kept stage (answerKept control) := by
  unfold answerKept
  split
  case isTrue flagged => exact followed_answerG rests (due flagged)
  case isFalse _ => exact followed_idle rests

section

variable (staged : control.Staged)
include staged

section

variable (careful : control.state.Pairing → CodeInTurn control)
include careful

theorem Staged.setPassCode
    (listed : script ∈ Scripts.setPassCode env values control) :
    control.Keeps (control.run env script) := by
  apply staged.run ordinary_setPassCode _ listed
  intro stage rests _ fits
  have asked := careful fits.pairing
  apply followed_map [.delUapiTimer] stage (fun _ => rfl) rfl
  split
  case isTrue gNode =>
    apply followed_setGPassCode _ rests
    · intro free
      have due := turn_coded fits rests (asked (.inl gNode)) free
      rwa [if_pos gNode] at due
    · have role := fits.role.trans (decide_eq_true gNode)
      exact ⟨own_notMem role (by simp), own_notMem role (by simp)⟩
  case isFalse tNode =>
    have role := fits.role.trans (decide_eq_false tNode)
    have spared : .rb ∉ stage.kept ∧ .tConfirm ∉ stage.kept :=
      ⟨own_notMem role (by simp), own_notMem role (by simp)⟩
    unfold Scripts.setTPassCode
    cases env.randNum with
    | none => exact followed_fail
    | some random =>
      apply followed_cons
      · apply followed_map _ _ (fun _ => rfl)
        · simp [Script.spares, spared]
        · apply followed_answerKept rests
          intro flagged free
          have due := turn_coded fits rests (asked (.inr flagged)) free
          rwa [if_neg tNode] at due
      · rfl
      · simp [Script.spares, spared]

theorem Staged.setPassWord
    (listed : script ∈ Scripts.setPassWord values control) :
    control.Keeps (control.run env script) := by
  apply staged.run ordinary_setPassWord _ listed
  intro stage rests _ fits
  have asked := careful fits.pairing
  apply followed_map [.delUapiTimer] stage (fun _ => rfl) rfl
  split
  case isTrue gNode =>
    have role := fits.role.trans (decide_eq_true gNode)
    have spared : .gConfirm ∉ stage.kept := own_notMem role (by simp)
    have waits : (stage.waits env tNodeCfmWithRb).rests = true := by
      apply rests_waits env rests
      intro free
      have due := turn_coded fits rests (asked (.inl gNode)) free
      rwa [if_pos gNode] at due
    have sends : stage.follows env
        (SLink.getAuthPkgDispatcher control.authMethod)
          [.store .gConfirm values.confirm, .send gNodeCfmWithRa,
            .wait tNodeCfmWithRb] = true := waits
    apply followed_cons (followed_one sends _) rfl rfl
    simp [Script.spares, spared]
  case isFalse tNode =>
    have role := fits.role.trans (decide_eq_false tNode)
    have spared : .tConfirm ∉ stage.kept := own_notMem role (by simp)
    apply followed_cons _ rfl rfl
    apply followed_map [.store .tConfirm values.confirm] stage fun _ => rfl
    · simp [Script.spares, spared]
    · apply followed_answerKept rests
      intro flagged free
      have due := turn_coded fits rests (asked (.inr flagged)) free
      rwa [if_neg tNode] at due

end

theorem Staged.reported (status : PairStatus) :
    (control.note (.reported status)).Staged := by
  rcases staged with closed | ⟨stage, ready, rests, fits⟩
  · exact .inl (closed.note rfl)
  · exact .inr ⟨stage, ready, rests, fits.pass rfl⟩

theorem Staged.lost :
    ({ control with lcid := invalidLcid } : Control).Staged := by
  rcases staged with closed | ⟨stage, ready, rests, fits⟩
  · exact .inl { closed with }
  · exact .inr ⟨stage, ready, rests, { fits with }⟩

end

theorem resting_staged : Resting env Staged Ended where
  of_rests closed := .inl closed
  outside staged idle := staged.closed idle
  run closed ordinary := closed.run ordinary
  leave staged := ended_enterRemv staged.log.1 staged.log.2
  cancel staged :=
    ended_enterRemv (throughout_plain staged.log.1 trivial) staged.log.2
  encp staged := closed_enterEncp staged.log.1 staged.log.2
  full staged :=
    ⟨by simp [State.Pairing], staged.log.2, attempt_concat _ _,
      throughout_plain staged.log.1 trivial⟩
  failed staged := staged.failed.staged
  refused staged := staged.refused.staged
  lapsed closed := { closed with }
  lost staged := staged.lost
  reported staged _ := staged.reported _

theorem Staged.missed (staged : control.Staged) :
    control.Keeps (control.run env (Scripts.missStart env)) := by
  rw [← append_nil (Scripts.missStart env)]
  apply staged.missStart (by simp) fun _ => rfl
  intro link _ _
  split
  case isTrue gNode => exact rests_first (if_pos gNode).symm
  case isFalse _ => exact rests_freshStage _ _

theorem spares_event {event : Event} (plain : match event with
      | .packet _ _ | .startPairing | .setConfirm | .setPassCode _
      | .setPassWord _ | .encryptChange _ _ => False
      | _ => True)
    (listed : script ∈ Scripts.event env values size control event)
    (kept : List Field) : script.spares kept = true := by
  cases event with
  | packet | startPairing | setConfirm | setPassCode | setPassWord
  | encryptChange => cases plain
  | encryptParamReq =>
    rw [mem_singleton.mp listed]
    unfold Scripts.encryptParamReq Script.spares
    cases control.state <;> cases env.logicLink <;>
      first | rfl | (dsimp only; split_ifs <;> rfl)
  | removePairing =>
    rw [mem_singleton.mp listed]
    unfold Scripts.removePair
    cases control.state <;> rfl
  | disconnected =>
    rw [mem_singleton.mp listed]
    unfold Scripts.disconnected
    cases control.state <;> rfl
  | recoverKey key =>
    rw [mem_singleton.mp listed]
    unfold Scripts.recoverKey
    split <;> rfl
  | recvTimeout | uapiTimeout =>
    rw [mem_singleton.mp listed]
    split <;> rfl
  | _ =>
    rw [mem_singleton.mp listed]
    rfl

theorem Staged.event (staged : control.Staged) (valid : values.method ≤ 5)
    {event : Event} (careful : InTurn env event size control)
    (listed : script ∈ Scripts.event env values size control event) :
    control.Keeps (control.run env script) := by
  have only : ∀ {single : Script}, script ∈ [single] → script = single :=
    mem_singleton.mp
  cases event with
  | packet opcode pkg =>
    have started : control.Keeps (Control.run env
        (Scripts.passiveStart env control) control) :=
      staged.passiveStart
    unfold Scripts.event at listed
    dsimp only at listed
    split at listed
    · rw [only listed]
      exact started
    · obtain ⟨rest, member, rfl⟩ := mem_map.mp listed
      rw [run_append Scripts.passiveStart_goesOn]
      have received := started.staged.received valid careful.1 careful.2 member
      by_cases init : control.state = .init
      · have closed : control.Ended :=
          staged.closed (by simp [State.Pairing, init])
        exact closed.keeps received.staged
      · have same : Control.run env (Scripts.passiveStart env control)
            control = control := by
          unfold Scripts.passiveStart
          rw [if_neg init]
          rfl
        rw [same] at received ⊢
        exact received
  | startPairing => exact staged.activeStart listed
  | setConfirm => exact staged.setConfirm careful listed
  | setPassCode passCode => exact staged.setPassCode careful listed
  | setPassWord passWord => exact staged.setPassWord careful listed
  | encryptChange status evtStatus =>
    rw [only listed]
    unfold Scripts.encryptChange
    split_ifs
    any_goals exact staged.keeps
    · exact staged.missed
    · exact staged.refused
    · have resting : Resting env Staged Ended := resting_staged
      exact keeps_plain (fun _ => rfl) (resting.of_rests (resting.full staged))
  | _ =>
    exact keeps_plain (spares_event trivial listed)
      (resting_staged.event staged trivial listed)

end Control

def messagesFor (gNode : Bool) : List UInt16 :=
  if gNode then
    [pairingStart, pairingResponse, pairingInitInfo,
      tNodeCfmWithRb, tNodeCfm, randNumRb,
      tNodeDhKey]
  else
    [pairingRequest, pairingConfirm, gNodeCfmWithRa,
      gNodeCfm, randNumRa, gNodeDhKey]

theorem Attempt.orderly_once {attempt : Attempt}
    (orderly : attempt.orderly = true) :
    attempt.handed.Nodup ∧
      ∀ opcode ∈ attempt.handed, opcode ∈ messagesFor attempt.gNode := by
  have whole : ∀ gNode method, (pairingStart :: prescribed gNode method).Nodup ∧
        (prescribed gNode method).all (messagesFor gNode).contains := by
    intro gNode method
    cases gNode <;> cases method with
    | none => decide
    | some method => cases method <;> decide
  obtain ⟨once, listed⟩ := whole attempt.gNode attempt.method
  have meant : ∀ opcode ∈ prescribed attempt.gNode attempt.method,
      opcode ∈ messagesFor attempt.gNode := fun opcode found =>
    contains_iff_mem.mp (all_eq_true.mp listed opcode found)
  unfold Attempt.orderly at orderly
  rw [or_eq_true, and_eq_true] at orderly
  rcases orderly with part | ⟨gNode, part⟩
  · have part := isPrefixOf_iff_prefix.mp part
    have later := (nodup_cons.mp once).2
    exact ⟨later.sublist part.sublist, fun opcode found =>
      meant opcode (part.subset found)⟩
  · have part := isPrefixOf_iff_prefix.mp part
    refine ⟨once.sublist part.sublist, ?_⟩
    intro opcode found
    rcases mem_cons.mp (part.subset found) with rfl | later
    · rw [gNode]
      decide
    · exact meant opcode later

namespace Session

structure MessageOrder (session : Session) : Prop where
  throughout : Throughout InOrder session.log
  orderly : ∀ current ∈ attempt session.log, current.orderly = true
  once : ∀ current ∈ attempt session.log, current.handed.Nodup
  meant : ∀ current ∈ attempt session.log, ∀ opcode ∈ current.handed,
    opcode ∈ messagesFor current.gNode

def PeerKept (config : Config) (session : Session) (event : Env × Event) :
    Prop :=
  ∀ slink ∈ session.find, ∀ later ∈ (session.step config event).find,
    ∀ field ∈ arrived session.log,
      later.control.value field = slink.control.value field

def Ordered (log : List Note) : Prop :=
  Throughout InOrder log ∧ ∀ current ∈ attempt log, current.orderly = true

theorem ordered_of_staged {control : Control} (staged : control.Staged) :
    Ordered control.log := by
  refine ⟨staged.log.1, ?_⟩
  rcases staged with closed | ⟨stage, _, _, fits⟩
  · rw [closed.quiet]
    simp
  · intro current found
    rw [fits.attempt] at found
    cases found
    exact Stage.orderly_handed stage fits.begun

variable {session : Session}

theorem messageOrder_of_staged
    (upholds : session.Upholds Control.Staged Ordered) :
    session.MessageOrder := by
  have ordered : Ordered session.log := by
    unfold Upholds at upholds
    cases found : session.find with
    | none =>
      rw [found] at upholds
      exact upholds
    | some slink =>
      rw [found] at upholds
      rw [← log_of_find found]
      exact ordered_of_staged upholds
  obtain ⟨throughout, orderly⟩ := ordered
  exact ⟨throughout, orderly,
    fun current found => (Attempt.orderly_once (orderly current found)).1,
    fun current found => (Attempt.orderly_once (orderly current found)).2⟩

theorem staged_freshControl {log : List Note} (ended : Ordered log) :
    (freshControl log).Staged :=
  .inl ⟨by simp [freshControl, State.Pairing], (by decide : (0 : UInt8) ≤ 5),
    attempt_concat log _, Control.throughout_plain ended.1 trivial⟩

theorem peerKept_of_staged {config : Config} {event : Env × Event}
    (upholds : session.Upholds Control.Staged Ordered)
    (careful : Heeds InTurn config session event) :
    PeerKept config session event := by
  obtain ⟨env, event⟩ := event
  intro slink found later reached field member
  rw [← log_of_find found] at member
  cases handled : session.handled config env event with
  | none =>
    obtain ⟨same, logged⟩ := step_unhandled handled
    unfold find at found reached
    rw [same] at reached
    obtain ⟨stored, held, rfl⟩ := map_eq_some_iff.mp found
    obtain ⟨again, also, rfl⟩ := map_eq_some_iff.mp reached
    cases held.symm.trans also
    cases field <;> rfl
  | some touched =>
    obtain ⟨staged, _⟩ := upholds.handled
      (fun log ended => staged_freshControl ended) handled
    rcases handled_cases handled with held | ⟨absent, _⟩
    · cases found.symm.trans held
      obtain ⟨values, valid, script, listed, done⟩ :=
        follows_handler config env event slink
      rw [step_handled handled] at reached
      have result : later = handler config env event slink := by
        cases gone : (handler config env event slink).removed with
        | true =>
          have lost : (finish (handler config env event slink)).find =
              none := by
            unfold finish find
            rw [gone]
            rfl
          cases lost.symm.trans reached
        | false =>
          cases (find_finish gone).symm.trans reached
          rfl
      rw [result, done]
      exact (staged.event valid (careful slink handled) listed).values
        field member
    · cases absent.symm.trans found

/-- While each event comes in its turn, packets are handed over in order, each
once, and what has arrived from the peer stays. -/
theorem messageOrder_of_inTurn (config : Config) (events : List (Env × Event))
    (careful : Meets (step config) (Heeds InTurn config) {} events) :
    Always (step config) MessageOrder {} events ∧
      Meets (step config) (PeerKept config) {} events := by
  have start : Upholds Control.Staged Ordered {} :=
    ⟨throughout_nil InOrder, by simp [attempt]⟩
  have keeps : ∀ (session : Session) (event : Env × Event),
      session.Upholds Control.Staged Ordered →
        Heeds InTurn config session event →
          (session.step config event).Upholds Control.Staged Ordered := by
    intro session event upholds heeds
    refine upholds.step (fun log ended => staged_freshControl ended) ?_ heeds
    intro values size control script staged _ inTurn valid listed
    have done := (staged.event valid inTurn listed).staged
    unfold Leaves
    split
    · exact ordered_of_staged done
    · exact done
  constructor
  · exact always_of_meets (fun _ => messageOrder_of_staged) keeps start careful
  · exact .imp keeps (fun _ _ => peerKept_of_staged) start careful

section Examples

theorem messageOrder_plainPairing :
    (attempt (run (step plainConfig) {} (plainPairing.take 4)).log).map
        (·.handed) = some [pairingRequest, pairingConfirm, randNumRa] ∧
      Always (step plainConfig) MessageOrder {} plainPairing ∧
      Meets (step plainConfig) (PeerKept plainConfig) {} plainPairing := by
  refine ⟨by decide, messageOrder_of_inTurn plainConfig plainPairing ?_⟩
  refine ⟨?_, ?_, ?_, ?_, ?_, ?_, trivial⟩ <;> decide

/-- A peer sends its random number again, while the user is asked. -/
def twiceRandom : List (Env × Event) :=
  unaskedConfirm.take 3 ++ [(plainEnvG, .packet tNodeCfm (List.replicate 16 3)),
      (plainEnvG, .packet randNumRb (List.replicate 16 4)),
      (plainEnvG, .packet randNumRb (List.replicate 16 5))]

theorem messageOrder_twiceRandom :
    ¬ ∀ (config : Config) (events : List (Env × Event)),
      Always (step config) MessageOrder {} events ∧
        Meets (step config) (PeerKept config) {} events := by
  intro claim
  have order : MessageOrder (run (step plainConfig) {} twiceRandom) :=
    (claim plainConfig twiceRandom).1.at_end
  have broken : ¬ ∀ current ∈ attempt
      (run (step plainConfig) {} twiceRandom).log, current.orderly = true := by
    decide
  exact broken order.orderly

end Examples

end Session

end NearLink.Sm
