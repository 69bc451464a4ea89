import NearLink.Sm.Watch

/-!
# No pairing hangs

The handlers keep a link waiting unless a packet is dropped after its timer was
stopped, a negotiation is restarted while the old timer runs, a call comes at
the wrong moment, or a timer does not start.  A timer that expires outside a
pairing leaves its handle in use, and a negotiation that starts then takes it
for a running one.  A step that goes on with a freed link is read with its
record intact; such a link is gone when the step ends.
-/

namespace NearLink.Sm

open Sdf Cm Transition Scripts Opcode List

instance (control : Control) : Decidable control.Live :=
  inferInstanceAs (Decidable (_ ∨ _ ∧ _))

/-- A packet after `SM_PASSIVE_START`: the expected one is not dropped while
the link waits for nothing else, and a request that is not expected restarts
only a negotiation that can wait for the answer. -/
def AttentivePacket (env : Env) (control : Control) (opcode : UInt16)
    (pkg : Bytes) : Prop :=
  if 0 < pkg.length ∧ opcode = control.expectOpCode then
    control.Live → control.uapiTimerHandle = false →
      ∀ method ∈ control.dispatcher, Accepts opcode pkg method
  else
    opcode = pairingRequest → ∀ link ∈ env.logicLink,
      control.Unexpired ∧ if link.2 = gNodeRole then
        control.timerHandle = false ∧ pkg.length < 10
      else control.timerHandle = false ∨ pkg.length < 10

instance (env : Env) (control : Control) (opcode : UInt16) (pkg : Bytes) :
    Decidable (AttentivePacket env control opcode pkg) :=
  inferInstanceAs (Decidable (ite _ _ _))

/-- The size of the code that `SmSetConfirm` checks. -/
def keptSize (control : Control) (size : Nat) : Nat :=
  if control.authMethod = AuthMethod.numberCompare then size else 16

def AttentiveConfirm (control : Control) (size : Nat) : Prop :=
  control.authMethod = AuthMethod.numberCompare ∨
      control.authMethod = AuthMethod.noEntry →
    if control.role = gNodeRole then control.timerHandle = false
    else
      control.timerHandle = true ∨
        if control.recvFlag = true ∧ keptSize control size = 16 then
          control.state = .auth
        else ¬ control.Live

instance (control : Control) (size : Nat) :
    Decidable (AttentiveConfirm control size) :=
  inferInstanceAs (Decidable (_ → ite _ _ _))

def AttentiveCode (control : Control) : Prop :=
  if control.role = gNodeRole then control.timerHandle = false
  else if control.recvFlag = true then
    control.timerHandle = false ∧ control.dispatcher ≠ some .numCmp
  else control.timerHandle = true ∨ ¬ control.Live

instance (control : Control) : Decidable (AttentiveCode control) :=
  inferInstanceAs (Decidable (ite _ _ _))

def Attentive (env : Env) (event : Event) (size : Nat) (control : Control) :
    Prop :=
  (env.recvTimerAdd = true ∧ env.uapiTimerAdd = true) ∧
    match event with
    | .packet opcode pkg =>
      (control.state = .init → control.Unexpired) ∧
        AttentivePacket env (control.run env (Scripts.passiveStart env control))
          opcode pkg
    | .startPairing =>
      control.state = .init → control.timerHandle = false ∧ control.Unexpired
    | .setConfirm => control.state.Pairing → AttentiveConfirm control size
    | .setPassCode _ | .setPassWord _ =>
      control.state.Pairing → AttentiveCode control
    | .encryptChange status evtStatus =>
      status = 5 → evtStatus = 5 → control.state = .encp →
        ∀ link ∈ env.logicLink, control.Unexpired ∧
          (link.2 = gNodeRole → control.timerHandle = false)
    | _ => True

instance (env : Env) (event : Event) (size : Nat) (control : Control) :
    Decidable (Attentive env event size control) :=
  match event with
  | .packet _ _ =>
    inferInstanceAs (Decidable (_ ∧ (_ → _) ∧ AttentivePacket _ _ _ _))
  | .startPairing => inferInstanceAs (Decidable (_ ∧ (_ → _ ∧ _)))
  | .setConfirm => inferInstanceAs (Decidable (_ ∧ (_ → AttentiveConfirm _ _)))
  | .setPassCode _ | .setPassWord _ =>
    inferInstanceAs (Decidable (_ ∧ (_ → AttentiveCode _)))
  | .encryptChange _ _ =>
    inferInstanceAs (Decidable (_ ∧ (_ → _ → _ →
      ∀ link ∈ env.logicLink, control.Unexpired ∧
        (link.2 = gNodeRole → control.timerHandle = false))))
  | .removePairing | .encryptParamReq | .setLocalPsk _ | .recoverKey _
  | .recvTimeout | .uapiTimeout | .sendControllerDataFail | .disconnected
  | .otherPairing _ => inferInstanceAs (Decidable (_ ∧ True))

def Watch.of (control : Control) : Watch :=
  { nego := control.state = .nego
    method := control.dispatcher
    timer := control.timerHandle
    uapi := control.uapiTimerHandle
    spoke := Sm.spoke control.log
    last := none
    met := true
    ready := true }

def Watch.fresh (timer uapi : Bool) : Watch :=
  { nego := true
    method := some .nego
    timer := timer
    uapi := uapi
    spoke := false
    last := some none
    met := true
    ready := true }

namespace Control

variable {env : Env} {values : Values} {control : Control}
  {opcode : UInt16} {pkg : Bytes} {script : Script} {scripts : List Script}

theorem Watched.fits (watched : control.Watched)
    (pairing : control.state.Pairing) :
    (Watch.of control).Fits (SLink.getAuthPkgDispatcher control.authMethod)
      control := by
  have directed := watched.directed
  have state : control.state =
      if (Watch.of control).nego then .nego else .auth := by
    unfold Watch.of
    rcases pairing with nego | auth
    · simp [nego]
    · simp [auth]
  refine ⟨state, rfl, ?_, ?_, directed.method, rfl, rfl,
    watched.current pairing, rfl, ?_, ?_, ?_⟩
  · intro nego
    exact directed.nego (of_decide_eq_true nego)
  · intro auth
    rcases pairing with nego | now
    · exact absurd nego (of_decide_eq_false auth)
    · exact directed.auth now
  · intro sent known
    cases known
  · exact fun _ => watched.waits.2 pairing
  · exact fun _ => rfl

theorem rests_fresh (timer uapi : Bool) :
    (Watch.fresh timer uapi).rests = true := by
  cases timer <;> cases uapi <;> rfl

theorem fits_negotiate (control : Control) (valid : control.authMethod ≤ 5)
    (current : control.Unexpired) :
    (Watch.fresh control.timerHandle control.uapiTimerHandle).Fits
      (SLink.getAuthPkgDispatcher control.authMethod) control.enterNego := by
  have last : outstanding (control.log ++ [Note.negotiates control.role]) =
    none := outstanding_concat control.log _
  refine ⟨rfl, rfl, fun _ => rfl, ?_, valid, rfl, rfl, current,
    spoke_concat control.log _, ?_, ?_, fun _ => rfl⟩
  · exact nofun
  · intro sent known
    cases known
    exact last
  · intro _ sent found
    have none : Option.none = some sent := last.symm.trans found
    cases none

theorem Watched.run (watched : control.Watched)
    (timers : env.recvTimerAdd = true ∧ env.uapiTimerAdd = true)
    (ordinary : Ordinary scripts) (attended : control.state.Pairing → Attended
      (SLink.getAuthPkgDispatcher control.authMethod) (Watch.of control)
        scripts)
    (listed : script ∈ scripts) :
    (control.run env script).Watched := by
  by_cases pairing : control.state.Pairing
  · exact (watched.fits pairing).run timers (ordinary script listed)
      (attended pairing script listed)
  · have idle : control.Idle := ⟨pairing, watched.directed.method⟩
    exact (idle.run (ordinary script listed)).watched

theorem Watched.passiveStart (watched : control.Watched)
    (current : control.state = .init → control.Unexpired) :
    (control.run env (Scripts.passiveStart env control)).Watched := by
  have valid := watched.directed.method
  unfold Scripts.passiveStart
  split
  case isTrue init =>
    cases env.logicLink with
    | none =>
      have idle : (control.enterRemv env).Idle :=
        ⟨by simp [State.Pairing, Control.enterRemv], valid⟩
      exact idle.watched
    | some link =>
      have fits := fits_negotiate
        { control with lcid := link.1, role := link.2 } valid (current init)
      exact fits.watched (rests_fresh _ _)
  case isFalse _ => exact watched

variable {chosen : Option Dispatcher} {size : Nat}

theorem attends_taken {nego : Bool} {method : Dispatcher} (opcode : UInt16)
    (state : (Watch.of control).nego = nego)
    (looked : control.dispatcher = some method) (rest : Script) :
    (Watch.of control).attends chosen
        ([.delTimer, .note (.handed opcode)] ++ rest) =
      (Watch.taken nego method control.uapiTimerHandle
        (spoke control.log)).attends chosen rest := by
  have same : ({ Watch.of control with
      timer := false
      last := some none
      met := true } : Watch) =
        Watch.taken nego method control.uapiTimerHandle
          (spoke control.log) := by
    rw [← state]
    simp [Watch.of, Watch.taken, looked]
  rw [← same]
  rfl

section

variable (watched : control.Watched)
include watched

variable (timers : env.recvTimerAdd = true ∧ env.uapiTimerAdd = true)
include timers

theorem Watched.dispatched (valid : values.method ≤ 5) {method : Dispatcher}
    (looked : control.dispatcher = some method)
    (accepts : control.Live → control.uapiTimerHandle = false →
      Accepts opcode pkg method)
    (listed : script ∈ (Scripts.dispatch env values control opcode pkg
      method).map ([Act.delTimer, .note (.handed opcode)] ++ ·)) :
    (control.run env script).Watched := by
  apply watched.run timers ((ordinary_dispatch valid).map ordinary_taken) _
    listed
  intro pairing
  have waits : ∀ nego, (Watch.of control).nego = nego →
      (Watch.taken nego method control.uapiTimerHandle
        (spoke control.log)).rests = true ∨ Accepts opcode pkg method := by
    intro nego state
    by_cases live : control.Live
    · cases uapi : control.uapiTimerHandle with
      | true => exact .inl rfl
      | false => exact .inr (accepts live uapi)
    · have silent : nego = true ∧ spoke control.log = false := by
        rcases pairing with now | now
        · refine ⟨state.symm.trans (decide_eq_true now), ?_⟩
          rw [Bool.eq_false_iff]
          exact fun spoken => live (.inr ⟨now, spoken⟩)
        · exact absurd (.inl now) live
      rw [silent.1, silent.2]
      left
      cases control.uapiTimerHandle <;> rfl
  obtain ⟨picked, found, auth⟩ := Watch.chosen_some watched.directed.method
  rw [found]
  rcases pairing with now | now
  · have state : (Watch.of control).nego = true := decide_eq_true now
    have equal : some method = some .nego :=
      looked.symm.trans (watched.directed.nego now)
    cases equal
    apply attended_map _ _ (attends_taken opcode state looked)
    exact attended_nego auth found (waits true state)
  · have state : (Watch.of control).nego = false :=
      decide_eq_false (by simp [now])
    obtain ⟨other, equal, differs⟩ := watched.directed.auth now
    have rests := waits false state
    apply attended_map _ _ (attends_taken opcode state looked)
    cases method with
    | nego =>
      rw [looked] at equal
      cases equal
      exact absurd rfl differs
    | numCmp => exact attended_numCmp rfl rests
    | noEntry => exact attended_noEntry rfl rests
    | oob => exact attended_oob rests
    | psk => exact attended_psk rests
    | _ => exact attended_pass (by simp) rfl rests

theorem Watched.missStart {rest : Script}
    (ordinary : ∀ act ∈ rest, act.ordinary = true)
    (attends : ∀ link ∈ env.logicLink, control.Unexpired ∧
      (Watch.fresh control.timerHandle control.uapiTimerHandle).attends
        (SLink.getAuthPkgDispatcher control.authMethod)
          ((if link.2 = gNodeRole then
            [.exchange pairingRequest pairingResponse]
          else []) ++ rest) = true) :
    (control.run env (Scripts.missStart env ++ rest)).Watched := by
  have valid := watched.directed.method
  unfold Scripts.missStart
  cases linked : env.logicLink with
  | none =>
    have idle : (Scripts.missed control).Idle :=
      ⟨by simp [State.Pairing, Scripts.missed], valid⟩
    exact (idle.run ordinary).watched
  | some link =>
    have fits := fits_negotiate
      { Scripts.missed control with
          lcid := link.1, role := link.2 } valid (attends link linked).1
    have plain : ∀ act ∈ (if link.2 = gNodeRole then
        [Act.exchange pairingRequest pairingResponse]
          else []) ++ rest, act.ordinary = true := by
      refine forall_mem_append.mpr ⟨fun act first => ?_, ordinary⟩
      split at first
      · rw [mem_singleton.mp first]
        rfl
      · cases first
    have done := fits.run timers plain (attends link linked).2
    exact done

theorem Watched.restart (valid : values.method ≤ 5)
    (free : ∀ link ∈ env.logicLink,
      control.Unexpired ∧ if link.2 = gNodeRole then
        control.timerHandle = false ∧ pkg.length < 10
      else control.timerHandle = false ∨ pkg.length < 10)
    (listed : script ∈ Scripts.restart env values control pkg) :
    (control.run env script).Watched := by
  obtain ⟨rest, rfl, ordinary, ⟨rfl, absent⟩ | ⟨method, nego, member, found, rfl⟩⟩ :=
    restart_cases valid listed
  · apply watched.missStart timers ordinary
    rw [absent]
    exact nofun
  · apply watched.missStart timers ordinary
    intro link held
    rw [nego (Option.isSome_of_mem held)] at found
    obtain ⟨current, attentive⟩ := free link held
    refine ⟨current, ?_⟩
    split at attentive
    case isTrue gNode =>
      rw [if_pos gNode, attentive.1, request_short attentive.2 found]
      rfl
    case isFalse tNode =>
      rw [if_neg tNode]
      by_cases short : pkg.length < 10
      · rw [request_short short found]
        exact rests_fresh _ _
      · rw [attentive.resolve_right short]
        have long : Scripts.dispatch env values control
            pairingRequest pkg .nego = [[.fail], [.method values.method, .fail],
                [.method values.method, .send pairingResponse,
                  .wait pairingConfirm]] := by
          unfold Scripts.dispatch Scripts.nego
          rw [if_neg (by decide), if_pos rfl, if_neg short]
        rw [long] at found
        simp only [mem_cons, not_mem_nil, or_false] at found
        rcases found with rfl | rfl | rfl <;> rfl

theorem Watched.received (valid : values.method ≤ 5)
    (attentive : AttentivePacket env control opcode pkg)
    (listed : script ∈ Scripts.received env values control opcode pkg) :
    (control.run env script).Watched := by
  have refused : (control.externalError env).Watched :=
    (idle_externalError watched.directed.method).watched
  unfold AttentivePacket at attentive
  rcases received_cases listed with rfl | rfl | rfl | ⟨looked, rfl⟩ |
    ⟨method, looked, expected, linked, member⟩ |
    ⟨unexpected, request, member⟩
  · exact watched
  · exact refused
  · exact (idle_internalError watched.directed.method).watched
  · apply watched.run timers (by simp [Ordinary, Act.ordinary]) _
      (mem_singleton_self _)
    intro pairing
    rcases pairing with now | now
    · have found := watched.directed.nego now
      rw [looked] at found
      cases found
    · obtain ⟨method, found, _⟩ := watched.directed.auth now
      rw [looked] at found
      cases found
  · rw [if_pos expected] at attentive
    exact watched.dispatched timers valid looked
      (fun live off => attentive live off method looked) member
  · rw [if_neg unexpected] at attentive
    exact watched.restart timers valid (attentive request) member

theorem Watched.activeStart
    (free : control.state = .init →
      control.timerHandle = false ∧ control.Unexpired)
    (listed : script ∈ Scripts.activeStart env control) :
    (control.run env script).Watched := by
  have valid := watched.directed.method
  rcases Scripts.activeStart_cases listed with
    rfl | ⟨now, rfl⟩ | ⟨lcid, role, now, rfl⟩ | ⟨lcid, role, now, member⟩
  · exact watched
  · have idle : (control.enterRemv env).Idle :=
      ⟨by simp [State.Pairing, Control.enterRemv], valid⟩
    exact idle.watched
  · obtain ⟨off, current⟩ := free now
    have fits := fits_negotiate { control with lcid, role } valid current
    have ordinary : Ordinary [[.send pairingRequest, .wait pairingResponse],
          [.send pairingStart, .wait pairingRequest]] := by
      simp [Ordinary, Act.ordinary]
    have attends : ∀ sent reply, answer (some .nego) sent = some reply →
        (Watch.fresh control.timerHandle control.uapiTimerHandle).attends
            (SLink.getAuthPkgDispatcher control.authMethod)
              [.send sent, .wait reply] = true := by
      intro sent reply answers
      exact rests_exchange off answers
    split
    · exact fits.run timers (ordinary _ (mem_cons_self ..)) (attends _ _ rfl)
    · exact fits.run timers (ordinary _ (mem_cons_of_mem _
        (mem_cons_self ..))) (attends _ _ rfl)
  · have idle : control.Idle := ⟨by simp [State.Pairing, now], valid⟩
    have ordinary : Ordinary [[.bind lcid role], [.bind lcid role, .fail]] := by
      simp [Ordinary, Act.ordinary]
    exact (idle.run (ordinary script member)).watched

end

theorem rests_unasked (pairing : control.state.Pairing)
    (waits : control.timerHandle = true ∨ ¬ control.Live) :
    ({ Watch.of control with uapi := false } : Watch).rests = true := by
  rcases waits with timer | silent
  · simp [Watch.rests, Watch.of, timer]
  · have now : control.state = .nego :=
      pairing.resolve_right fun auth => silent (.inl auth)
    have unspoken : spoke control.log = false := by
      rw [Bool.eq_false_iff]
      exact fun spoken => silent (.inr ⟨now, spoken⟩)
    simp [Watch.rests, Watch.of, now, unspoken]

theorem attended_confirmedT (pairing : control.state.Pairing)
    (tNode : control.role ≠ gNodeRole) (rests : control.timerHandle = true ∨
      if control.recvFlag = true ∧ size = 16 then control.state = .auth
      else ¬ control.Live) :
    Attended chosen { Watch.of control with uapi := false }
      (confirmed env control size) := by
  have quiet : ¬ (control.recvFlag = true ∧ size = 16) →
      ({ Watch.of control with uapi := false } : Watch).rests = true := by
    intro unchecked
    rw [if_neg unchecked] at rests
    exact rests_unasked pairing rests
  unfold confirmed
  rw [if_neg tNode]
  apply attended_cons _ rfl
  split
  case isFalse unflagged =>
    exact attended_dropped (quiet fun both => unflagged both.1)
  case isTrue flagged =>
    apply attended_map [.flag false] { Watch.of control with uapi := false }
      fun _ => rfl
    unfold checkG
    split
    case isTrue short => exact attended_dropped (quiet fun both => short both.2)
    case isFalse whole =>
      rw [if_pos ⟨flagged, not_not.mp whole⟩] at rests
      apply attended_pair rfl
      by_cases auth : control.state = .auth
      · simp [Watch.attends, Watch.exec, Watch.sends, Watch.of, auth]
      · have timer := rests.resolve_right auth
        have now : control.state = .nego := pairing.resolve_right auth
        simp [Watch.attends, Watch.exec, Watch.sends, Watch.of, now,
          Watch.rests, timer, answer_tNodeDhKey]

theorem Watched.setConfirm (watched : control.Watched)
    (timers : env.recvTimerAdd = true ∧ env.uapiTimerAdd = true)
    (attentive : control.state.Pairing → AttentiveConfirm control size)
    (listed : script ∈ Scripts.setConfirm env control size) :
    (control.run env script).Watched := by
  apply watched.run timers ordinary_setConfirm _ listed
  intro pairing
  have answered : ∀ kept, (control.authMethod = AuthMethod.numberCompare ∨
      control.authMethod = AuthMethod.noEntry) → keptSize control size = kept →
          Attended (SLink.getAuthPkgDispatcher control.authMethod)
            { Watch.of control with uapi := false }
              (confirmed env control kept) := by
    intro kept asked same
    have rests := attentive pairing asked
    by_cases gNode : control.role = gNodeRole
    · rw [if_pos gNode] at rests
      unfold confirmed
      rw [if_pos gNode]
      exact attended_finishG rests
    · rw [if_neg gNode, same] at rests
      exact attended_confirmedT pairing gNode rests
  unfold Scripts.setConfirm
  split
  case isTrue compares =>
    exact attended_map _ _ (fun _ => rfl)
      (answered size (.inl compares) (if_pos compares))
  case isFalse other =>
    split
    case isTrue plain =>
      exact attended_map _ _ (fun _ => rfl)
        (answered 16 (.inr plain) (if_neg other))
    case isFalse _ => exact attended_map _ _ (fun _ => rfl) attended_fail

theorem attended_answerKept {watch : Watch} (pairing : control.state.Pairing)
    (tNode : control.role ≠ gNodeRole) (attentive : AttentiveCode control)
    (same : watch = { Watch.of control with uapi := false }) :
    Attended chosen watch (answerKept control) := by
  unfold AttentiveCode at attentive
  rw [if_neg tNode] at attentive
  unfold answerKept
  split
  case isTrue flagged =>
    rw [if_pos flagged] at attentive
    apply attended_answerG
    · rw [same]
      exact attentive.1
    · rw [same]
      exact attentive.2
  case isFalse unflagged =>
    rw [if_neg unflagged] at attentive
    rw [same]
    exact attended_dropped (rests_unasked pairing attentive)

section

variable (watched : control.Watched)
  (timers : env.recvTimerAdd = true ∧ env.uapiTimerAdd = true)
  (attentive : control.state.Pairing → AttentiveCode control)
include watched timers attentive

theorem Watched.setPassCode
    (listed : script ∈ Scripts.setPassCode env values control) :
    (control.run env script).Watched := by
  apply watched.run timers ordinary_setPassCode _ listed
  intro pairing
  have code := attentive pairing
  apply attended_map [.delUapiTimer] { Watch.of control with uapi := false }
    fun _ => rfl
  split
  case isTrue gNode =>
    unfold AttentiveCode at code
    rw [if_pos gNode] at code
    exact attended_setGPassCode code
  case isFalse tNode =>
    unfold Scripts.setTPassCode
    cases env.randNum with
    | none => exact attended_fail
    | some random =>
      apply attended_cons _ rfl
      apply attended_map _ _ (fun _ => rfl)
      exact attended_answerKept pairing tNode code rfl

theorem Watched.setPassWord
    (listed : script ∈ Scripts.setPassWord values control) :
    (control.run env script).Watched := by
  apply watched.run timers ordinary_setPassWord _ listed
  intro pairing
  have code := attentive pairing
  apply attended_map [.delUapiTimer] { Watch.of control with uapi := false }
    fun _ => rfl
  split
  case isTrue gNode =>
    unfold AttentiveCode at code
    rw [if_pos gNode] at code
    apply attended_pair rfl
    exact rests_exchange code (answer_gNodeCfmWithRa _)
  case isFalse tNode =>
    apply attended_cons _ rfl
    apply attended_map [.store .tConfirm values.confirm]
      { Watch.of control with uapi := false } fun _ => rfl
    exact attended_answerKept pairing tNode code rfl

end

theorem Watched.reported (watched : control.Watched) (status : PairStatus) :
    (control.note (.reported status)).Watched := by
  have last : outstanding (control.log ++ [Note.reported status]) =
    outstanding control.log := outstanding_concat control.log _
  have said : spoke (control.log ++ [Note.reported status]) =
    spoke control.log := spoke_concat control.log _
  obtain ⟨⟨waits, expects⟩, ⟨nego, auth, valid⟩, current⟩ := watched
  refine ⟨⟨?_, ?_⟩, ⟨nego, auth, valid⟩, current⟩
  · intro live
    apply waits
    rcases live with now | ⟨now, spoken⟩
    · exact .inl now
    · exact .inr ⟨now, said.symm.trans spoken⟩
  · intro pairing sent found
    exact expects pairing sent (last.symm.trans found)

theorem resting_watched : Resting env Watched Idle where
  of_rests idle := idle.watched
  outside watched idle := ⟨idle, watched.directed.method⟩
  run idle ordinary := idle.run ordinary
  leave watched :=
    ⟨by simp [State.Pairing, Control.enterRemv], watched.directed.method⟩
  cancel watched :=
    ⟨by simp [State.Pairing, Control.enterRemv], watched.directed.method⟩
  encp watched := idle_enterEncp watched.directed.method
  full watched := ⟨by simp [State.Pairing], watched.directed.method⟩
  failed watched := (idle_internalError watched.directed.method).watched
  refused watched := (idle_externalError watched.directed.method).watched
  lapsed idle := ⟨idle.state, idle.method⟩
  lost watched :=
    ⟨watched.waits, ⟨watched.directed.nego, watched.directed.auth,
      watched.directed.method⟩, watched.current⟩
  reported watched _ := watched.reported _

/-- The link has lost its key, and neither timer stands in the way of the first
packet. -/
theorem Watched.missed (watched : control.Watched)
    (timers : env.recvTimerAdd = true ∧ env.uapiTimerAdd = true)
    (free : ∀ link ∈ env.logicLink, control.Unexpired ∧
      (link.2 = gNodeRole → control.timerHandle = false)) :
    (control.run env (Scripts.missStart env)).Watched := by
  rw [← append_nil (Scripts.missStart env)]
  apply watched.missStart timers (by simp)
  intro link found
  refine ⟨(free link found).1, ?_⟩
  split
  case isTrue gNode =>
    rw [(free link found).2 gNode]
    rfl
  case isFalse _ => exact rests_fresh _ _

theorem Watched.event (watched : control.Watched) (valid : values.method ≤ 5)
    {event : Event} (attentive : Attentive env event size control)
    (listed : script ∈ Scripts.event env values size control event) :
    (control.run env script).Watched := by
  obtain ⟨timers, attentive⟩ := attentive
  cases event with
  | packet opcode pkg =>
    have started : (Control.run env (Scripts.passiveStart env control)
        control).Watched := watched.passiveStart attentive.1
    unfold Scripts.event at listed
    dsimp only at listed
    split at listed
    · rw [mem_singleton.mp listed]
      exact started
    · obtain ⟨rest, member, rfl⟩ := mem_map.mp listed
      rw [run_append Scripts.passiveStart_goesOn]
      exact started.received timers valid attentive.2 member
  | startPairing => exact watched.activeStart timers attentive listed
  | setConfirm => exact watched.setConfirm timers attentive listed
  | setPassCode passCode => exact watched.setPassCode timers attentive listed
  | setPassWord passWord => exact watched.setPassWord timers attentive listed
  | encryptChange status evtStatus =>
    exact resting_watched.event watched (fun missing lacks now =>
      watched.missed timers (attentive missing lacks now)) listed
  | _ => exact resting_watched.event watched trivial listed

end Control

namespace Session

section Examples

def shortConfirm : List (Env × Event) :=
  plainPairing.take 1 ++
    [(plainEnv, .packet pairingConfirm [16, 1, 2, 2, 2, 2])]

end Examples

end Session

end NearLink.Sm
