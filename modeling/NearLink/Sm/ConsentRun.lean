import NearLink.Sm.Consent

/-!
# No code without consent

Every event keeps the gate of a link unless the user confirms before being
asked, the timer that stands for the question cannot be started, or a pass code
or password is set on a T node that asks.
-/

namespace NearLink.Sm

open Sdf Cm Transition Scripts Opcode List

attribute [local simp] Gate.holds Consent.next

/-- An expected random number of the G node finds the timer of the user
running, or can start it. -/
def AskingPacket (env : Env) (control : Control) (opcode : UInt16)
    (pkg : Bytes) : Prop :=
  opcode = control.expectOpCode → opcode = randNumRa →
    ¬ pkg.length < 16 → control.state = .auth →
      control.dispatcher.any Dispatcher.defers = true →
        control.uapiTimerHandle = true ∨ env.uapiTimerAdd = true

instance (env : Env) (control : Control) (opcode : UInt16) (pkg : Bytes) :
    Decidable (AskingPacket env control opcode pkg) :=
  inferInstanceAs (Decidable (_ → _ → _ → _ → _ → _ ∨ _))

/-- The user confirms after being asked, or a T node has no code to check. -/
def AskedConfirm (control : Control) : Prop :=
  control.authMethod = AuthMethod.numberCompare ∨
      control.authMethod = AuthMethod.noEntry →
    consent control.log = .over ∨ consent control.log = .asked ∨
      consent control.log = .given ∨
        control.role ≠ gNodeRole ∧ control.recvFlag = false

instance (control : Control) : Decidable (AskedConfirm control) :=
  inferInstanceAs (Decidable (_ → _ ∨ _ ∨ _ ∨ _ ∧ _))

/-- A pass code or a password does not take the question from a T node, nor
make it wait for the code of the peer. -/
def AskedCode (control : Control) : Prop :=
  control.state = .auth → control.dispatcher.any Dispatcher.defers = true →
    control.role ≠ gNodeRole → (control.expectOpCode = gNodeDhKey →
          control.uapiTimerHandle = false) ∧
        (control.recvFlag = true → control.timerHandle = false →
          control.expectOpCode = gNodeDhKey)

instance (control : Control) : Decidable (AskedCode control) :=
  inferInstanceAs (Decidable (_ → _ → _ → (_ → _) ∧ (_ → _ → _)))

/-- Nothing stands for the consent of the user but the consent. -/
def Considerate (env : Env) (event : Event) (_ : Nat) (control : Control) :
    Prop :=
  match event with
  | .packet opcode pkg =>
    AskingPacket env
      (control.run env (Scripts.passiveStart env control)) opcode pkg
  | .setConfirm => control.state.Pairing → AskedConfirm control
  | .setPassCode _ | .setPassWord _ => AskedCode control
  | _ => True

instance (env : Env) (event : Event) (size : Nat) (control : Control) :
    Decidable (Considerate env event size control) :=
  match event with
  | .packet _ _ => inferInstanceAs (Decidable (AskingPacket _ _ _ _))
  | .setConfirm => inferInstanceAs (Decidable (_ → AskedConfirm _))
  | .setPassCode _ | .setPassWord _ => inferInstanceAs (Decidable (AskedCode _))
  | .removePairing | .encryptParamReq | .startPairing | .setLocalPsk _
  | .recoverKey _ | .recvTimeout | .uapiTimeout | .encryptChange _ _
  | .sendControllerDataFail | .disconnected | .otherPairing _ => isTrue trivial

namespace Control

variable {env : Env} {values : Values} {control : Control}
  {opcode : UInt16} {pkg : Bytes} {script : Script} {scripts : List Script}

theorem Gated.run (gated : control.Gated) (ordinary : Ordinary scripts)
    (passed : (Gate.of control).holds = true → (Gate.of control).Fits
        (SLink.getAuthPkgDispatcher control.authMethod) control →
          Passed env (SLink.getAuthPkgDispatcher control.authMethod)
            (Gate.of control) scripts)
    (listed : script ∈ scripts) :
    (control.run env script).Gated := by
  rcases gated with free | ⟨fits, holds⟩
  · exact .inl (free.run (ordinary script listed))
  · exact fits.run (ordinary script listed) (passed holds fits script listed)

theorem Gated.log (gated : control.Gated) :
    Throughout Consented control.log ∧ control.authMethod ≤ 5 := by
  rcases gated with free | ⟨fits, _⟩
  · exact ⟨free.log, free.method⟩
  · exact ⟨fits.log, fits.authMethod⟩

def freshGate (control : Control) : Gate :=
  { auth := false
    method := some .nego
    gNode := control.role = gNodeRole
    consent := .unasked
    expect := control.enterNego.expectOpCode
    timer := control.timerHandle
    uapi := control.uapiTimerHandle
    ready := true }

theorem fits_freshGate (control : Control)
    (log : Throughout Consented control.log) (valid : control.authMethod ≤ 5) :
    (freshGate control).Fits
      (SLink.getAuthPkgDispatcher control.authMethod) control.enterNego := by
  refine ⟨rfl, rfl, fun _ => rfl, ?_, rfl, consent_concat control.log _, ?_,
    rfl, rfl, rfl, valid, fun _ => rfl, throughout_concat.mpr ⟨log, trivial⟩⟩
  · exact nofun
  · simp [freshGate]

theorem gated_negotiates (log : Throughout Consented control.log)
    (valid : control.authMethod ≤ 5)
    (ordinary : ∀ act ∈ script, act.ordinary = true)
    (calm : ∀ act ∈ script, act.calm = true) :
    (Control.run env script control.enterNego).Gated :=
  (fits_freshGate control log valid).run ordinary (passes_calm rfl rfl calm)

theorem Gated.passiveStart (gated : control.Gated) :
    (control.run env (Scripts.passiveStart env control)).Gated := by
  obtain ⟨log, valid⟩ := gated.log
  unfold Scripts.passiveStart
  split
  · cases env.logicLink with
    | none => exact .inl (free_enterRemv log valid)
    | some link =>
      have started : (Control.run env [] ({ control with
          lcid := link.1
          role := link.2 }.enterNego)).Gated :=
        gated_negotiates log valid (by simp) (by simp)
      exact started
  · exact gated

theorem Gated.dispatched (gated : control.Gated)
    (valid : values.method ≤ 5) {method : Dispatcher}
    (looked : control.dispatcher = some method)
    (expected : opcode = control.expectOpCode)
    (asking : AskingPacket env control opcode pkg)
    (listed : script ∈ (Scripts.dispatch env values control opcode pkg
      method).map ([Act.delTimer, .note (.handed opcode)] ++ ·)) :
    (control.run env script).Gated := by
  apply gated.run ((ordinary_dispatch valid).map ordinary_taken) _ listed
  intro holds fits
  apply passed_map _ { Gate.of control with timer := false } fun _ => rfl
  cases auth : (Gate.of control).auth with
  | false =>
    have equal : some method = some .nego :=
      looked.symm.trans (fits.nego auth)
    cases equal
    have unasked : (Gate.of control).consent = .unasked := by
      simpa [auth] using holds
    exact passed_nego rfl auth unasked rfl rfl rfl
  | true =>
    have now : control.state = .auth := of_decide_eq_true auth
    obtain ⟨other, equal, defers⟩ := fits.auth auth
    have same : some other = some method := equal.symm.trans looked
    cases same
    have asks : opcode = randNumRa → ¬ pkg.length < 16 →
        control.uapiTimerHandle = true ∨ env.uapiTimerAdd = true := by
      intro ra long
      exact asking expected ra long now (by simpa [looked] using defers)
    cases method with
    | numCmp => exact passed_numCmp auth rfl rfl holds expected asks
    | noEntry => exact passed_noEntry auth rfl rfl holds expected asks
    | _ => cases defers

theorem free_miss (log : Throughout Consented control.log)
    (valid : control.authMethod ≤ 5) :
    (Scripts.missed control).Free := by
  have entered : ({ control.note (.entered .miss) with
      state := .miss } : Control).Free := by
    refine ⟨by simp, ?_, valid, consent_concat control.log _,
      throughout_concat.mpr ⟨log, trivial⟩⟩
    exact nofun
  exact entered.note rfl

theorem Gated.missStart (gated : control.Gated) {rest : Script}
    (ordinary : ∀ act ∈ rest, act.ordinary = true)
    (calm : env.logicLink.isSome = true → ∀ act ∈ rest, act.calm = true) :
    (control.run env (Scripts.missStart env ++ rest)).Gated := by
  obtain ⟨log, valid⟩ := gated.log
  have missed := free_miss log valid
  unfold Scripts.missStart
  cases linked : env.logicLink with
  | none => exact .inl (missed.run ordinary)
  | some link =>
    have exchange : ∀ act ∈ (if link.2 = gNodeRole then
        [Act.exchange pairingRequest pairingResponse]
          else []), act.ordinary = true ∧ act.calm = true := by
      intro act found
      split at found
      · rw [mem_singleton.mp found]
        exact ⟨rfl, rfl⟩
      · cases found
    have started : (Control.run env ((if link.2 = gNodeRole then
        [Act.exchange pairingRequest pairingResponse]
          else []) ++ rest) ({ Scripts.missed control with
          lcid := link.1, role := link.2 }.enterNego)).Gated := by
      apply gated_negotiates
      · exact missed.log
      · exact missed.method
      · exact forall_mem_append.mpr ⟨fun act first => (exchange act first).1,
          ordinary⟩
      · exact forall_mem_append.mpr ⟨fun act first => (exchange act first).2,
          calm (by simp [linked])⟩
    exact started

theorem calm_request (listed : script ∈ Scripts.dispatch env values control
    pairingRequest pkg .nego) : ∀ act ∈ script, act.calm = true := by
  have scripts : Scripts.dispatch env values control pairingRequest
      pkg .nego = if pkg.length < 10 then [[]]
        else
          [[.fail], [.method values.method, .fail],
            [.method values.method, .send pairingResponse,
              .wait pairingConfirm]] := rfl
  rw [scripts] at listed
  split at listed
  · rw [mem_singleton.mp listed]
    simp
  · simp only [mem_cons, not_mem_nil, or_false] at listed
    rcases listed with rfl | rfl | rfl
    · simp [Act.calm]
    · simp [Act.calm]
    · simp [Act.calm]
      decide

section

variable (gated : control.Gated)
include gated

theorem Gated.restart (valid : values.method ≤ 5)
    (listed : script ∈ Scripts.restart env values control pkg) :
    (control.run env script).Gated := by
  obtain ⟨rest, rfl, ordinary, ⟨rfl, _⟩ | ⟨method, nego, member, found, rfl⟩⟩ :=
    restart_cases valid listed
  · exact gated.missStart ordinary (by simp)
  · apply gated.missStart ordinary
    intro linked
    rw [nego linked] at found
    exact forall_mem_cons.mpr ⟨rfl, calm_request found⟩

theorem Gated.failed : (control.internalError env).Gated := by
  rcases gated with free | ⟨fits, _⟩
  · exact .inl free.internalError
  · exact .inl fits.failed

theorem Gated.refused : (control.externalError env).Gated := by
  rcases gated with free | ⟨fits, _⟩
  · exact .inl free.externalError
  · exact .inl fits.refused

theorem Gated.received (valid : values.method ≤ 5)
    (asking : AskingPacket env control opcode pkg)
    (listed : script ∈ Scripts.received env values control opcode pkg) :
    (control.run env script).Gated := by
  rcases received_cases listed with rfl | rfl | rfl | ⟨looked, rfl⟩ |
    ⟨method, looked, expected, linked, member⟩ |
    ⟨unexpected, request, member⟩
  · exact gated
  · exact gated.refused
  · exact gated.failed
  · apply gated.run (by simp [Ordinary, Act.ordinary]) _
      (mem_singleton_self _)
    intro holds _
    exact passed_cons passed_nil holds
  · exact gated.dispatched valid looked expected.2 asking member
  · exact gated.restart valid member

theorem Gated.activeStart (listed : script ∈ Scripts.activeStart env control) :
    (control.run env script).Gated := by
  obtain ⟨log, valid⟩ := gated.log
  rcases Scripts.activeStart_cases listed with
    rfl | ⟨now, rfl⟩ | ⟨lcid, role, now, rfl⟩ | ⟨lcid, role, now, member⟩
  · exact gated
  · exact .inl (free_enterRemv log valid)
  · have sends : ∀ sent reply, isCode sent = false →
        (Control.run env [.send sent, .wait reply]
          ({ control with lcid, role }.enterNego)).Gated := by
      intro sent reply plain
      apply gated_negotiates
      · exact log
      · exact valid
      · simp [Act.ordinary]
      · simp [Act.calm, plain]
    split <;> exact sends _ _ rfl
  · apply gated.run (by simp [Ordinary, Act.ordinary]) _ member
    intro _ fits
    have state := fits.state
    rw [now] at state
    split at state <;> cases state

end

variable {gate : Gate}

theorem holds_unasked (holds : gate.holds = true)
    (answered : gate.auth = true → gate.gNode = false →
      gate.expect = gNodeDhKey → gate.uapi = false) :
    ({ gate with uapi := false } : Gate).holds = true := by
  cases auth : gate.auth with
  | false => simpa [auth] using holds
  | true =>
    cases gNode : gate.gNode with
    | true => simpa [auth, gNode] using holds
    | false =>
      rcases holds_tNode auth gNode holds with ra | ⟨key, given⟩
      · simp [ra]
      · have consented := given (answered auth gNode key)
        simp [key, consented]

def confirmedGate (gate : Gate) : Gate :=
  { gate with
    consent := gate.consent.next .confirmed
    uapi := false }

theorem holds_confirmed (holds : gate.holds = true) :
    (confirmedGate gate).holds = true := by
  cases auth : gate.auth with
  | false =>
    have unasked : gate.consent = .unasked := by
      simpa [auth] using holds
    simp [confirmedGate, auth, unasked]
  | true =>
    cases gNode : gate.gNode with
    | true =>
      rcases holds_gNode auth gNode holds with
        equal | equal | equal | ⟨equal, used⟩
      · exact holds_waiting auth gNode (.inl equal)
      · exact holds_waiting auth gNode (.inr (.inl equal))
      · exact holds_waiting auth gNode (.inr (.inr equal))
      · simp [confirmedGate, auth, gNode, equal, used]
    | false =>
      have split : gate.expect = randNumRa ∨ gate.expect = gNodeDhKey ∧
            (gate.consent = .asked ∧ gate.uapi = true ∨
              gate.consent = .given) := by
        simpa [auth, gNode] using holds
      rcases split with ra | ⟨key, ⟨asked, _⟩ | given⟩
      · simp [confirmedGate, auth, gNode, ra]
      · simp [confirmedGate, auth, gNode, key, asked]
      · simp [confirmedGate, auth, gNode, key, given]

variable {chosen : Option Dispatcher} {size : Nat}

theorem passed_finishG (auth : gate.auth = true) (gNode : gate.gNode = true)
    (holds : gate.holds = true) (given : gate.consent = .given) :
    Passed env chosen gate (finishG env) := by
  have waits : ((gate.sends gNodeDhKey).waits env tNodeDhKey).holds = true := by
    have used : (gate.sends gNodeDhKey).consent = .used := by
      simp [Gate.sends, given, isCode]
    cases timer : gate.timer with
    | true =>
      have same : (gate.sends gNodeDhKey).waits env
          tNodeDhKey = gate.sends gNodeDhKey := by
        simp [Gate.waits, Gate.sends, timer]
      rw [same]
      rcases holds_gNode auth gNode holds with
        equal | equal | equal | ⟨_, spent⟩
      · exact holds_waiting auth gNode (.inl equal)
      · exact holds_waiting auth gNode (.inr (.inl equal))
      · exact holds_waiting auth gNode (.inr (.inr equal))
      · rw [given] at spent
        cases spent
    | false =>
      rw [waits_sent timer]
      have live : (gate.sends gNodeDhKey).auth = true := auth
      have role : (gate.sends gNodeDhKey).gNode = true := gNode
      simp [live, role, used]
  apply passed_pair rfl
  split
  · simp only [Gate.passes, Gate.allows, Gate.exec, given]
    simpa using waits
  · rfl

theorem passed_confirmed (holds : gate.holds = true)
    (role : gate.gNode = decide (control.role = gNodeRole))
    (asked : gate.consent = .given ∨
      control.role ≠ gNodeRole ∧ control.recvFlag = false) :
    Passed env chosen gate (confirmed env control size) := by
  have live : gate.consent = .given → gate.auth = true := by
    intro given
    rw [← Bool.not_eq_false]
    intro nego
    simp [nego, given] at holds
  unfold confirmed
  split
  case isTrue gNode =>
    have given := asked.resolve_right fun other => other.1 gNode
    exact passed_finishG (live given) (role.trans (decide_eq_true gNode))
      holds given
  case isFalse tNode =>
    apply passed_cons _ rfl
    split
    case isTrue flagged =>
      have given : gate.consent = .given := by
        apply asked.resolve_right
        intro other
        rw [flagged] at other
        exact Bool.noConfusion other.2
      exact passed_map [.flag false] gate (fun _ => rfl)
        (passed_checkG (live given) given holds)
    case isFalse _ => exact passed_idle holds

theorem Gated.setConfirm (gated : control.Gated)
    (asked : control.state.Pairing → AskedConfirm control)
    (listed : script ∈ Scripts.setConfirm env control size) :
    (control.run env script).Gated := by
  apply gated.run ordinary_setConfirm _ listed
  intro holds fits
  have pairing : control.state.Pairing := by
    have state := fits.state
    split at state
    · exact .inr state
    · exact .inl state
  have answered : ∀ kept, (control.authMethod = AuthMethod.numberCompare ∨
      control.authMethod = AuthMethod.noEntry) →
        Passed env (SLink.getAuthPkgDispatcher control.authMethod)
          (confirmedGate (Gate.of control)) (confirmed env control kept) := by
    intro kept method
    apply passed_confirmed (holds_confirmed holds) rfl
    rcases asked pairing method with quiet | asked | given | tNode
    · exact absurd quiet fits.live
    · left
      simp [confirmedGate, Gate.of, asked]
    · left
      simp [confirmedGate, Gate.of, given]
    · exact .inr tNode
  unfold Scripts.setConfirm
  split
  case isTrue compares =>
    exact passed_map _ _ (fun _ => rfl) (answered size (.inl compares))
  case isFalse _ =>
    split
    case isTrue plain =>
      exact passed_map _ _ (fun _ => rfl) (answered 16 (.inr plain))
    case isFalse _ => exact passed_map _ _ (fun _ => rfl) passed_fail

theorem holds_waits (holds : gate.holds = true)
    (free : gate.auth = true → gate.timer = false →
      ({ gate with
        expect := opcode
        timer := env.recvTimerAdd } : Gate).holds = true) :
    (gate.waits env opcode).holds = true := by
  cases timer : gate.timer with
  | true =>
    have same : gate.waits env opcode = gate := by
      simp [Gate.waits, timer]
    rw [same]
    exact holds
  | false =>
    rw [waits_free timer]
    by_cases auth : gate.auth = true
    · exact free auth timer
    · simpa [auth] using holds

section

variable (gNode : gate.gNode = true) (holds : gate.holds = true)
include gNode holds

theorem holds_confirmValue :
    ((gate.sends gNodeCfmWithRa).waits env tNodeCfmWithRb).holds = true := by
  apply holds_waits holds
  intro auth _
  exact holds_waiting auth gNode (.inl rfl)

theorem passed_setGPassCode :
    Passed env chosen gate (Scripts.setGPassCode env values) := by
  unfold Scripts.setGPassCode
  cases env.randNum with
  | none => exact passed_fail
  | some random =>
    apply passed_pair rfl
    exact holds_confirmValue gNode holds

end

theorem passed_answerKept (holds : gate.holds = true)
    (free : control.recvFlag = true → gate.auth = true → gate.timer = false →
        gate.gNode = false ∧ gate.consent = .given) :
    Passed env chosen gate (answerKept control) := by
  unfold answerKept
  split
  case isTrue flagged =>
    have waits : ((gate.sends tNodeCfmWithRb).waits env
        gNodeDhKey).holds = true := by
      apply holds_waits holds
      intro auth timer
      obtain ⟨tNode, given⟩ := free flagged auth timer
      simp [auth, tNode, given]
    apply passed_cons _ rfl
    apply passed_pair rfl
    exact waits
  case isFalse _ => exact passed_idle holds

theorem unasked_tNode (fits : (Gate.of control).Fits chosen control)
    (holds : (Gate.of control).holds = true) (tNode : control.role ≠ gNodeRole)
    (asked : AskedCode control) :
    ({ Gate.of control with uapi := false } : Gate).holds = true ∧
      (control.recvFlag = true → (Gate.of control).auth = true →
        (Gate.of control).timer = false → (Gate.of control).gNode = false ∧
            (Gate.of control).consent = .given) := by
  have role : (Gate.of control).gNode = false := decide_eq_false tNode
  have careful : (Gate.of control).auth = true →
      (control.expectOpCode = gNodeDhKey → control.uapiTimerHandle = false) ∧
        (control.recvFlag = true → control.timerHandle = false →
          control.expectOpCode = gNodeDhKey) := by
    intro auth
    obtain ⟨method, found, defers⟩ := fits.auth auth
    have looked : control.dispatcher.any Dispatcher.defers = true := by
      rw [fits.dispatcher, found]
      exact defers
    exact asked (of_decide_eq_true auth) looked tNode
  constructor
  · apply holds_unasked holds
    intro auth _ key
    exact (careful auth).1 key
  · intro flagged auth timer
    have key := (careful auth).2 flagged timer
    refine ⟨role, ?_⟩
    rcases holds_tNode auth role holds with ra | ⟨_, given⟩
    · have equal : gNodeDhKey = randNumRa := key.symm.trans ra
      exact absurd equal (by decide)
    · exact given ((careful auth).1 key)

section

variable (gated : control.Gated)
include gated

theorem Gated.setPassCode (asked : AskedCode control)
    (listed : script ∈ Scripts.setPassCode env values control) :
    (control.run env script).Gated := by
  apply gated.run ordinary_setPassCode _ listed
  intro holds fits
  apply passed_map [.delUapiTimer] { Gate.of control with uapi := false }
    fun _ => rfl
  split
  case isTrue gNode =>
    have role : (Gate.of control).gNode = true := decide_eq_true gNode
    apply passed_setGPassCode
    · exact role
    · apply holds_unasked holds
      intro _ tNode
      rw [role] at tNode
      cases tNode
  case isFalse tNode =>
    obtain ⟨still, given⟩ := unasked_tNode fits holds tNode asked
    unfold Scripts.setTPassCode
    cases env.randNum with
    | none => exact passed_fail
    | some random =>
      apply passed_cons _ rfl
      exact passed_map _ _ (fun _ => rfl) (passed_answerKept still given)

theorem Gated.setPassWord (asked : AskedCode control)
    (listed : script ∈ Scripts.setPassWord values control) :
    (control.run env script).Gated := by
  apply gated.run ordinary_setPassWord _ listed
  intro holds fits
  apply passed_map [.delUapiTimer] { Gate.of control with uapi := false }
    fun _ => rfl
  split
  case isTrue gNode =>
    have role : (Gate.of control).gNode = true := decide_eq_true gNode
    have still : ({ Gate.of control with uapi := false } : Gate).holds =
        true := by
      apply holds_unasked holds
      intro _ tNode
      rw [role] at tNode
      cases tNode
    apply passed_pair rfl
    exact holds_confirmValue role still
  case isFalse tNode =>
    obtain ⟨still, given⟩ := unasked_tNode fits holds tNode asked
    apply passed_cons _ rfl
    exact passed_map [.store .tConfirm values.confirm]
      { Gate.of control with uapi := false } (fun _ => rfl)
      (passed_answerKept still given)

theorem Gated.free (idle : ¬ control.state.Pairing) : control.Free := by
  rcases gated with free | ⟨fits, _⟩
  · exact free
  · have state := fits.state
    split at state
    · exact absurd (.inr state) idle
    · exact absurd (.inl state) idle

theorem Gated.reported {status : PairStatus} (failure : status ≠ .ok) :
    (control.note (.reported status)).Gated := by
  rcases gated with free | ⟨fits, holds⟩
  · exact .inl (free.note rfl)
  · have allowed : Consented control.log (.reported status) := by
      cases status with
      | ok => exact absurd rfl failure
      | _ => trivial
    exact (fits.pass allowed fun _ => rfl).gated holds

theorem Gated.lost :
    ({ control with lcid := invalidLcid } : Control).Gated := by
  rcases gated with free | ⟨fits, holds⟩
  · exact .inl { free with }
  · exact .inr ⟨{ fits with }, holds⟩

end

theorem resting_gated : Resting env Gated Free where
  of_rests free := .inl free
  outside gated idle := gated.free idle
  run free ordinary := free.run ordinary
  leave gated := free_enterRemv gated.log.1 gated.log.2
  cancel gated :=
    free_enterRemv (throughout_quiet gated.log.1 nofun) gated.log.2
  encp gated := free_enterEncp gated.log.1 gated.log.2
  full gated :=
    ⟨by simp, nofun, gated.log.2, consent_concat _ _,
      throughout_quiet gated.log.1 trivial⟩
  failed gated := gated.failed
  refused gated := gated.refused
  lapsed free := { free with }
  lost gated := gated.lost
  reported gated failure := gated.reported failure

theorem Gated.missed (gated : control.Gated) :
    (control.run env (Scripts.missStart env)).Gated := by
  rw [← append_nil (Scripts.missStart env)]
  exact gated.missStart (by simp) (by simp)

theorem Gated.event (gated : control.Gated) (valid : values.method ≤ 5)
    {event : Event} (considerate : Considerate env event size control)
    (listed : script ∈ Scripts.event env values size control event) :
    (control.run env script).Gated := by
  cases event with
  | packet opcode pkg =>
    have started : (Control.run env (Scripts.passiveStart env control)
        control).Gated := gated.passiveStart
    unfold Scripts.event at listed
    dsimp only at listed
    split at listed
    · rw [mem_singleton.mp listed]
      exact started
    · obtain ⟨rest, member, rfl⟩ := mem_map.mp listed
      rw [run_append Scripts.passiveStart_goesOn]
      exact started.received valid considerate member
  | startPairing => exact gated.activeStart listed
  | setConfirm => exact gated.setConfirm considerate listed
  | setPassCode passCode => exact gated.setPassCode considerate listed
  | setPassWord passWord => exact gated.setPassWord considerate listed
  | encryptChange status evtStatus =>
    exact resting_gated.event gated (fun _ _ _ => gated.missed) listed
  | _ => exact resting_gated.event gated trivial listed

end Control

namespace Session

/-- No code is sent and no success reported without the consent of the
user, where the method asks for it. -/
def ConsentGate (session : Session) : Prop :=
  Throughout Consented session.log

/-- Where the user is asked before confirming, and the question stands until
the answer, no code is sent without consent. -/
theorem consentGate_of_considerate (config : Config)
    (events : List (Env × Event))
    (considerate : Meets (step config) (Heeds Considerate config) {} events) :
    Always (step config) ConsentGate {} events := by
  have sound : ∀ session : Session,
      session.Upholds Control.Gated (Throughout Consented) →
        session.ConsentGate := by
    intro session upholds
    unfold Upholds at upholds
    cases found : session.find with
    | none =>
      rw [found] at upholds
      exact upholds
    | some slink =>
      rw [found] at upholds
      have logged : slink.log = session.log := by
        obtain ⟨stored, _, rfl⟩ := Option.map_eq_some_iff.mp found
        rfl
      unfold ConsentGate
      rw [← logged]
      exact upholds.log.1
  apply always_upholds sound _ _ _ considerate
  · exact throughout_nil Consented
  · intro log ended
    refine .inl ⟨by simp [freshControl], ?_, (by decide : (0 : UInt8) ≤ 5),
      consent_concat log _, Control.throughout_quiet ended trivial⟩
    exact nofun
  · intro env event values size control script gated _ heeds valid listed
    have done := gated.event valid heeds listed
    unfold Leaves
    split
    · exact done.log.1
    · exact done

section Examples

theorem consentGate_plainPairing :
    Note.sent tNodeDhKey ∈ (run (step plainConfig) {} plainPairing).log ∧
      Always (step plainConfig) ConsentGate {} plainPairing := by
  refine ⟨by decide, consentGate_of_considerate plainConfig plainPairing ?_⟩
  refine ⟨?_, ?_, ?_, ?_, ?_, ?_, trivial⟩ <;> decide

def plainEnvG : Env :=
  { plainEnv with logicLink := some (1, gNodeRole) }

def unaskedConfirm : List (Env × Event) :=
  [(plainEnvG, .startPairing), (plainEnvG, .packet pairingResponse
      (setPairingReqRspMsg plainParams).toBytes),
    (plainEnvG, .packet pairingInitInfo (List.replicate 64 8)),
    (plainEnvG, .setConfirm)]

theorem consentGate_unaskedConfirm :
    ¬ ∀ (config : Config) (events : List (Env × Event)),
      Always (step config) ConsentGate {} events := by
  intro claim
  have gate : Throughout Consented
      (run (step plainConfig) {} unaskedConfirm).log :=
    (claim plainConfig unaskedConfirm).at_end
  have split : (run (step plainConfig) {} unaskedConfirm).log =
      ((run (step plainConfig) {} (unaskedConfirm.take 3)).log ++
        [Note.confirmed]) ++ .sent gNodeDhKey :: [] := by
    decide
  rcases gate _ _ _ split rfl with quiet | given
  · cases quiet
  · cases given

end Examples

end Session

end NearLink.Sm
