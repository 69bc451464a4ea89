import NearLink.Sm.Reports

/-!
# What a pairing waits for

While a link pairs, the receive timer or the user input timer is to run, and
the opcode it expects is to be the answer to the last message it has sent.
Whether a script leaves a link so can be computed from the script: `Watch`
follows the timers and the last message through its acts.
-/

namespace NearLink.Sm

open Sdf Cm Transition Scripts Opcode List Control

def methodAnswers : Option Dispatcher → List (UInt16 × Option UInt16)
  | some .numCmp => [(tNodeCfmWithRb, some randNumRa), (randNumRa, none)]
  | some .psk => [(randNumRb, some gNodeCfm), (tNodeCfm, some gNodeDhKey)]
  | _ => []

/-- The other answers.  `PAIRING_INIT_INFO` ends the negotiation and
`T_NODE_DHKEY` the authentication. -/
def commonAnswers : List (UInt16 × Option UInt16) :=
  [(pairingStart, some pairingRequest), (pairingRequest, some pairingResponse),
    (pairingResponse, some pairingConfirm),
    (pairingConfirm, some pairingInitInfo),
    (tNodeCfm, some randNumRa),
    (randNumRa, some randNumRb),
    (randNumRb, some gNodeDhKey),
    (gNodeCfmWithRa, some tNodeCfmWithRb),
    (tNodeCfmWithRb, some gNodeDhKey),
    (gNodeCfm, some tNodeCfm),
    (gNodeDhKey, some tNodeDhKey)]

def answer (method : Option Dispatcher) (opcode : UInt16) : Option UInt16 :=
  ((methodAnswers method ++ commonAnswers).lookup opcode).join

/-- The last message of the current attempt, unless a packet was handed to
the dispatcher since. -/
def outstanding (log : List Note) : Option UInt16 :=
  log.foldl (fun last entry =>
      match entry with
      | .created | .negotiates _ | .handed _ => none
      | .sent opcode => some opcode
      | _ => last) none

def spoke (log : List Note) : Bool :=
  log.foldl (fun sent entry =>
      match entry with
      | .created | .negotiates _ => false
      | .sent _ => true
      | _ => sent) false

theorem outstanding_concat (log : List Note) (entry : Note) :
    outstanding (log ++ [entry]) =
      match entry with
      | .created | .negotiates _ | .handed _ => none
      | .sent opcode => some opcode
      | _ => outstanding log := by
  unfold outstanding
  rw [foldl_append]
  rfl

theorem spoke_concat (log : List Note) (entry : Note) :
    spoke (log ++ [entry]) =
      match entry with
      | .created | .negotiates _ => false
      | .sent _ => true
      | _ => spoke log := by
  unfold spoke
  rw [foldl_append]
  rfl

namespace Control

/-- In `NEGO` after the first message, or in `AUTH`. -/
def Live (control : Control) : Prop :=
  control.state = .auth ∨ control.state = .nego ∧ spoke control.log = true

def Expects (control : Control) : Prop :=
  ∀ sent ∈ outstanding control.log, ∀ reply ∈ answer control.dispatcher sent,
    control.expectOpCode = reply

def Waits (control : Control) : Prop :=
  (control.Live →
    control.running .receive = true ∨ control.running .user = true) ∧
    (control.state.Pairing → control.Expects)

/-- No handle in use is that of an expired timer. -/
def Unexpired (control : Control) : Prop :=
  (control.timerHandle = true → control.timerExpired = false) ∧
    (control.uapiTimerHandle = true → control.uapiTimerExpired = false)

instance (control : Control) : Decidable control.Unexpired :=
  inferInstanceAs (Decidable ((_ → _) ∧ (_ → _)))

theorem Unexpired.runs {control : Control} (unexpired : control.Unexpired)
    (used : control.timerHandle = true ∨ control.uapiTimerHandle = true) :
    control.running .receive = true ∨ control.running .user = true := by
  refine used.imp (fun used => ?_) (fun used => ?_)
  · simp [running, used, unexpired.1 used]
  · simp [running, used, unexpired.2 used]

structure Directed (control : Control) : Prop where
  nego : control.state = .nego → control.dispatcher = some .nego
  auth : control.state = .auth →
    ∃ method, control.dispatcher = some method ∧ method ≠ .nego
  method : control.authMethod ≤ 5

end Control

/-- What is known of a link that pairs: the timers, the last message where it
is known, whether the expected opcode is the answer to it, and whether the
method is the one that the script was made for. -/
structure Watch where
  nego : Bool
  method : Option Dispatcher
  timer : Bool
  uapi : Bool
  spoke : Bool
  last : Option (Option UInt16)
  met : Bool
  ready : Bool

namespace Watch

def answeredBy (watch : Watch) (opcode : UInt16) : Bool :=
  match watch.last with
  | none => false
  | some none => true
  | some (some sent) =>
    answer watch.method sent = none || answer watch.method sent = some opcode

def sends (watch : Watch) (opcode : UInt16) : Watch :=
  { watch with
    spoke := true
    last := some (some opcode)
    met := (answer watch.method opcode).isNone }

def waits (watch : Watch) (opcode : UInt16) : Watch :=
  if watch.timer then watch
  else { watch with timer := true, met := watch.answeredBy opcode }

def authenticates (watch : Watch) (chosen : Option Dispatcher) : Watch :=
  { watch with
    nego := false
    method := chosen
    met :=
      match watch.last with
      | none => false
      | some none => true
      | some (some sent) => (answer chosen sent).isNone }

@[grind =] def exec (chosen : Option Dispatcher) (watch : Watch) :
    Act → Option Watch
  | .ask => some { watch with uapi := true }
  | .authenticate => some (watch.authenticates chosen)
  | .succeed => if watch.nego then some watch else none
  | .delTimer => some { watch with timer := false }
  | .delUapiTimer => some { watch with uapi := false }
  | .fail | .external | .expire => none
  | .send opcode | .attempt opcode => some (watch.sends opcode)
  | .exchange opcode reply => some ((watch.sends opcode).waits reply)
  | .wait opcode => some (watch.waits opcode)
  | .method _ => some { watch with ready := false }
  | .note (.handed _) => some { watch with last := some none, met := true }
  | .note (.sent opcode) => some (watch.sends opcode)
  | _ => some watch

def rests (watch : Watch) : Bool :=
  (watch.timer || watch.uapi || watch.nego && !watch.spoke) && watch.met

@[grind =] def attends (chosen : Option Dispatcher) (watch : Watch) : Script → Bool
  | [] => watch.rests
  | act :: rest =>
    if act = .authenticate ∧ watch.nego = false then watch.rests
    else if act = .authenticate ∧ watch.ready = false then false
    else
      match watch.exec chosen act with
      | none => true
      | some next => attends chosen next rest

structure Fits (chosen : Option Dispatcher) (watch : Watch)
    (control : Control) : Prop where
  state : control.state = if watch.nego then .nego else .auth
  dispatcher : control.dispatcher = watch.method
  nego : watch.nego = true → watch.method = some .nego
  auth : watch.nego = false →
    ∃ method, watch.method = some method ∧ method ≠ .nego
  authMethod : control.authMethod ≤ 5
  timer : control.timerHandle = watch.timer
  uapi : control.uapiTimerHandle = watch.uapi
  current : control.Unexpired
  spoke : Sm.spoke control.log = watch.spoke
  last : ∀ sent, watch.last = some sent → outstanding control.log = sent
  met : watch.met = true → control.Expects
  ready : watch.ready = true →
    chosen = SLink.getAuthPkgDispatcher control.authMethod

end Watch

namespace Control

variable {env : Env} {control : Control}

structure Idle (control : Control) : Prop where
  state : ¬ control.state.Pairing
  method : control.authMethod ≤ 5

structure Watched (control : Control) : Prop where
  waits : control.Waits
  directed : control.Directed
  current : control.state.Pairing → control.Unexpired

theorem Idle.watched (idle : control.Idle) : control.Watched := by
  refine ⟨⟨?_, ?_⟩, ⟨?_, ?_, idle.method⟩, ?_⟩
  · intro live
    rcases live with auth | ⟨nego, _⟩
    · exact absurd (.inr auth) idle.state
    · exact absurd (.inl nego) idle.state
  · exact fun pairing => absurd pairing idle.state
  · exact fun nego => absurd (.inl nego) idle.state
  · exact fun auth => absurd (.inr auth) idle.state
  · exact fun pairing => absurd pairing idle.state

section

variable (valid : control.authMethod ≤ 5)
include valid

theorem idle_internalError : (control.internalError env).Idle := by
  unfold Control.internalError
  cases now : control.state with
  | init | nego | auth =>
    exact ⟨by simp [State.Pairing, Control.enterRemv], valid⟩
  | _ => exact ⟨by simp [State.Pairing, Control.note, now], valid⟩

theorem idle_externalError : (control.externalError env).Idle := by
  unfold Control.externalError
  cases now : control.state with
  | nego | auth => exact ⟨by simp [State.Pairing, Control.enterRemv], valid⟩
  | _ => exact ⟨by simp [State.Pairing, Control.note, now], valid⟩

theorem idle_enterEncp : (control.enterEncp env).Idle := by
  have entered : ¬ State.Pairing .encp := by decide
  unfold Control.enterEncp
  split_ifs
  all_goals exact ⟨entered, valid⟩

end

theorem Idle.exec (idle : control.Idle) {act : Act}
    (ordinary : act.ordinary = true) : (control.exec env act).Idle := by
  have failed : (control.internalError env).Idle :=
    idle_internalError idle.method
  have waited : ∀ opcode, (control.waitExpectOpCode env opcode).Idle := by
    intro opcode
    unfold Control.waitExpectOpCode
    split
    · exact idle
    · exact ⟨idle.state, idle.method⟩
  cases act with
  | store field value => cases field <;> exact ⟨idle.state, idle.method⟩
  | method authMethod => exact ⟨idle.state, of_decide_eq_true ordinary⟩
  | fail => exact failed
  | external | expire => exact idle_externalError idle.method
  | send | attempt =>
    simp only [Control.exec]
    split
    · exact ⟨idle.state, idle.method⟩
    · exact failed
  | exchange opcode reply =>
    simp only [Control.exec, Control.waitExpectOpCode]
    split_ifs
    · exact ⟨idle.state, idle.method⟩
    · exact ⟨idle.state, idle.method⟩
    · exact failed
  | wait opcode => exact waited opcode
  | ask =>
    simp only [Control.exec, Control.waitUapiInput]
    split
    · exact idle
    · exact ⟨idle.state, idle.method⟩
  | authenticate =>
    simp only [Control.exec, Control.negoSuccess]
    cases now : control.state with
    | nego => exact absurd (.inl now) idle.state
    | _ => exact ⟨idle.state, idle.method⟩
  | succeed =>
    simp only [Control.exec, Control.authSuccess]
    cases now : control.state with
    | auth => exact absurd (.inr now) idle.state
    | _ => exact ⟨idle.state, idle.method⟩
  | report | leave | negotiate | miss | encp | full => cases ordinary
  | _ => exact ⟨idle.state, idle.method⟩

theorem Idle.run (idle : control.Idle) {script : Script}
    (ordinary : ∀ act ∈ script, act.ordinary = true) :
    (control.run env script).Idle :=
  run_of (fun act found _ holds => holds.exec (ordinary act found)) idle

end Control

namespace Watch

variable {env : Env} {chosen : Option Dispatcher} {watch : Watch}
  {control : Control}

theorem chosen_some {authMethod : UInt8} (valid : authMethod ≤ 5) :
    ∃ method, SLink.getAuthPkgDispatcher authMethod = some method ∧
      method ≠ .nego := by
  have small : authMethod.toNat ≤ 5 := UInt8.le_iff_toNat_le.mp valid
  have same : authMethod = UInt8.ofNat authMethod.toNat :=
    UInt8.ofNat_toNat.symm
  rw [same]
  generalize authMethod.toNat = value at small
  have table : value = 0 ∨ value = 1 ∨ value = 2 ∨ value = 3 ∨ value = 4 ∨
      value = 5 := by omega
  rcases table with rfl | rfl | rfl | rfl | rfl | rfl
  · exact ⟨.numCmp, rfl, by simp⟩
  · exact ⟨.noEntry, rfl, by simp⟩
  · exact ⟨.passCode, rfl, by simp⟩
  · exact ⟨.passWord, rfl, by simp⟩
  · exact ⟨.oob, rfl, by simp⟩
  · exact ⟨.psk, rfl, by simp⟩

variable (fits : watch.Fits chosen control)
include fits

theorem Fits.watched (rests : watch.rests = true) : control.Watched := by
  simp only [Watch.rests, Bool.and_eq_true, Bool.or_eq_true,
    Bool.not_eq_true'] at rests
  obtain ⟨armed, met⟩ := rests
  refine ⟨⟨?_, fun _ => fits.met met⟩, ⟨?_, ?_, fits.authMethod⟩,
    fun _ => fits.current⟩
  · intro live
    apply fits.current.runs
    rw [fits.timer, fits.uapi]
    rcases armed with armed | ⟨nego, silent⟩
    · exact armed
    · rcases live with auth | ⟨_, spoken⟩
      · rw [fits.state, nego] at auth
        cases auth
      · rw [fits.spoke, silent] at spoken
        cases spoken
  · intro now
    rw [fits.state] at now
    cases nego : watch.nego with
    | true => rw [fits.dispatcher, fits.nego nego]
    | false =>
      rw [nego] at now
      cases now
  · intro now
    rw [fits.state] at now
    rw [fits.dispatcher]
    cases nego : watch.nego with
    | true =>
      rw [nego] at now
      cases now
    | false => exact fits.auth nego

theorem Fits.sends (opcode : UInt16) :
    (watch.sends opcode).Fits chosen (control.sent opcode) := by
  have last : outstanding (control.log ++ [Note.sent opcode]) = some opcode :=
    outstanding_concat control.log (.sent opcode)
  refine { fits with spoke := spoke_concat _ _, last := ?_, met := ?_ }
  · intro sent known
    cases known
    exact last
  · intro met sent found reply asked
    have silent : answer watch.method opcode = none :=
      Option.isNone_iff_eq_none.mp met
    have same : some opcode = some sent := last.symm.trans found
    cases same
    have looked : answer control.dispatcher opcode = some reply := asked
    rw [fits.dispatcher, silent] at looked
    cases looked

theorem Fits.waits (opcode : UInt16) (adds : env.recvTimerAdd = true) :
    (watch.waits opcode).Fits chosen (control.waitExpectOpCode env opcode) := by
  unfold Watch.waits Control.waitExpectOpCode
  rw [fits.timer]
  cases timer : watch.timer with
  | true => exact fits
  | false =>
    refine { fits with
      timer := adds
      current := ⟨fun _ => rfl, fits.current.2⟩
      spoke := ?_
      last := ?_
      met := ?_ }
    · exact (spoke_concat control.log (.waits opcode)).trans fits.spoke
    · intro sent known
      exact (outstanding_concat control.log (.waits opcode)).trans
        (fits.last sent known)
    · intro met sent found reply asked
      have same : outstanding control.log = some sent :=
        (outstanding_concat control.log (.waits opcode)).symm.trans found
      have looked : answer watch.method sent = some reply :=
        fits.dispatcher ▸ asked
      cases known : watch.last with
      | none => simp [Watch.answeredBy, known] at met
      | some last =>
        have equal := fits.last last known
        rw [same] at equal
        rw [← equal] at known
        simp [Watch.answeredBy, known, looked] at met
        exact met.symm

theorem Fits.authenticates (nego : watch.nego = true)
    (ready : watch.ready = true) :
    (watch.authenticates chosen).Fits chosen control.negoSuccess := by
  have now : control.state = .nego := by
    rw [fits.state, nego]
    rfl
  have picked := fits.ready ready
  have last : outstanding (control.log ++ [Note.posted] ++
      [Note.authenticates chosen]) = outstanding control.log :=
    (outstanding_concat _ _).trans (outstanding_concat control.log .posted)
  have said : Sm.spoke (control.log ++ [Note.posted] ++
      [Note.authenticates chosen]) = Sm.spoke control.log :=
    (spoke_concat _ _).trans (spoke_concat control.log .posted)
  unfold Control.negoSuccess
  rw [now]
  rw [← picked]
  refine ⟨rfl, rfl, ?_, ?_, fits.authMethod, fits.timer, fits.uapi,
    fits.current, said.trans fits.spoke, fun sent known => last.trans (fits.last sent known),
    ?_, fits.ready⟩
  · exact nofun
  · intro _
    rw [picked]
    exact chosen_some fits.authMethod
  · intro met sent found reply asked
    have same : outstanding control.log = some sent := last.symm.trans found
    have looked : answer chosen sent = some reply := asked
    cases known : watch.last with
    | none => simp [Watch.authenticates, known] at met
    | some before =>
      have equal := fits.last before known
      rw [same] at equal
      rw [← equal] at known
      simp [Watch.authenticates, known, looked] at met

theorem Fits.note {entry : Note}
    (last : ∀ log, outstanding (log ++ [entry]) = outstanding log)
    (said : ∀ log, Sm.spoke (log ++ [entry]) = Sm.spoke log) :
    watch.Fits chosen (control.note entry) := by
  exact { fits with
    spoke := (said _).trans fits.spoke
    last := fun sent known => (last _).trans (fits.last sent known)
    met := fun met sent found =>
      fits.met met sent ((last _).symm.trans found) }

theorem Fits.handed (opcode : UInt16) :
    { watch with last := some none, met := true }.Fits chosen
      (control.note (.handed opcode)) := by
  have last : outstanding (control.log ++ [Note.handed opcode]) = none :=
    outstanding_concat control.log (.handed opcode)
  refine { fits with spoke := ?_, last := ?_, met := ?_ }
  · exact (spoke_concat control.log (.handed opcode)).trans fits.spoke
  · intro sent known
    cases known
    exact last
  · intro _ sent found
    have none : Option.none = some sent := last.symm.trans found
    cases none

section

variable (timers : env.recvTimerAdd = true ∧ env.uapiTimerAdd = true)
include timers

theorem Fits.exec {act : Act} (ordinary : act.ordinary = true)
    (starts : act = .authenticate → watch.nego = true ∧ watch.ready = true) :
    (control.exec env act).Idle ∨ control.goesOn env act = true ∧
        ∃ next, watch.exec chosen act = some next ∧
          next.Fits chosen (control.exec env act) := by
  have failed : (control.internalError env).Idle :=
    idle_internalError fits.authMethod
  have refused : (control.externalError env).Idle :=
    idle_externalError fits.authMethod
  cases act with
  | store field value =>
    refine .inr ⟨rfl, watch, rfl, ?_⟩
    cases field <;> exact { fits with }
  | fail => exact .inl failed
  | external | expire => exact .inl refused
  | send opcode =>
    simp only [Control.exec]
    split
    case isTrue accepted => exact .inr ⟨accepted, _, rfl, fits.sends opcode⟩
    case isFalse _ => exact .inl failed
  | attempt opcode =>
    simp only [Control.exec]
    split
    · exact .inr ⟨rfl, _, rfl, fits.sends opcode⟩
    · exact .inl failed
  | exchange opcode reply =>
    simp only [Control.exec]
    split
    · exact .inr ⟨rfl, _, rfl, (fits.sends opcode).waits reply timers.1⟩
    · exact .inl failed
  | wait opcode => exact .inr ⟨rfl, _, rfl, fits.waits opcode timers.1⟩
  | ask =>
    refine .inr ⟨rfl, _, rfl, ?_⟩
    have noted : watch.Fits chosen (control.note .asks) :=
      fits.note (fun log => outstanding_concat log _)
        (fun log => spoke_concat log _)
    simp only [Control.exec, Control.waitUapiInput]
    split
    case isTrue runs => exact { fits with uapi := runs }
    case isFalse _ =>
      exact { noted with
        uapi := timers.2
        current := ⟨fits.current.1, fun _ => rfl⟩ }
  | authenticate =>
    obtain ⟨nego, ready⟩ := starts rfl
    have now : control.goesOn env .authenticate = true := by
      simp [Control.goesOn, fits.state, nego]
    exact .inr ⟨now, _, rfl, fits.authenticates nego ready⟩
  | succeed =>
    cases nego : watch.nego with
    | true =>
      have now : control.state = .nego := by
        rw [fits.state, nego]
        rfl
      refine .inr ⟨rfl, watch, by simp [Watch.exec, nego], ?_⟩
      simp only [Control.exec, Control.authSuccess, now]
      exact fits.note (fun log => outstanding_concat log _)
        (fun log => spoke_concat log _)
    | false =>
      have now : control.state = .auth := by
        rw [fits.state, nego]
        rfl
      simp only [Control.exec, Control.authSuccess, now]
      exact .inl (idle_enterEncp fits.authMethod)
  | method authMethod =>
    exact .inr ⟨rfl, _, rfl, { fits with
      authMethod := of_decide_eq_true ordinary
      ready := nofun }⟩
  | prompt =>
    exact .inr ⟨rfl, watch, rfl, fits.note (fun log => outstanding_concat log _)
        (fun log => spoke_concat log _)⟩
  | delTimer =>
    exact .inr ⟨rfl, _, rfl, { fits with
      timer := rfl
      current := ⟨nofun, fits.current.2⟩ }⟩
  | delUapiTimer =>
    exact .inr ⟨rfl, _, rfl, { fits with
      uapi := rfl
      current := ⟨fits.current.1, nofun⟩ }⟩
  | note entry =>
    have plain : (∀ log, outstanding (log ++ [entry]) = outstanding log) →
        (∀ log, Sm.spoke (log ++ [entry]) = Sm.spoke log) →
            watch.Fits chosen (control.note entry) :=
      fun last said => fits.note last said
    cases entry with
    | handed opcode => exact .inr ⟨rfl, _, rfl, fits.handed opcode⟩
    | sent opcode => exact .inr ⟨rfl, _, rfl, fits.sends opcode⟩
    | authenticates | posted | waits | asks | prompted | confirmed =>
      exact .inr ⟨rfl, _, rfl, plain (fun log => outstanding_concat log _)
        (fun log => spoke_concat log _)⟩
    | created | negotiates | entered | reported => cases ordinary
  | report | leave | negotiate | miss | encp | full | lapse => cases ordinary
  | _ => exact .inr ⟨rfl, watch, rfl, { fits with }⟩

theorem Fits.run {script : Script}
    (ordinary : ∀ act ∈ script, act.ordinary = true)
    (attends : watch.attends chosen script = true) :
    (control.run env script).Watched := by
  induction script generalizing watch control with
  | nil => exact fits.watched attends
  | cons act rest hypothesis =>
    have behind : ∀ other ∈ rest, other.ordinary = true :=
      fun other found => ordinary other (.tail _ found)
    have first := ordinary act (mem_cons_self ..)
    unfold Watch.attends at attends
    split at attends
    case isTrue stops =>
      obtain ⟨rfl, nego⟩ := stops
      have now : control.state = .auth := by
        rw [fits.state, nego]
        rfl
      have posted : watch.Fits chosen (control.note .posted) :=
        fits.note (fun log => outstanding_concat log _)
          (fun log => spoke_concat log _)
      simp only [Control.run, Control.goesOn, Control.exec,
        Control.negoSuccess, now]
      exact posted.watched attends
    case isFalse nego =>
      split at attends
      case isTrue _ => cases attends
      case isFalse ready =>
        have starts : act = .authenticate →
            watch.nego = true ∧ watch.ready = true := by
          intro found
          simp only [found, true_and, Bool.not_eq_false] at nego ready
          exact ⟨nego, ready⟩
        rcases fits.exec timers first starts with
          idle | ⟨goesOn, next, stepped, follows⟩
        · unfold Control.run
          split
          · exact (idle.run behind).watched
          · exact idle.watched
        · rw [stepped] at attends
          unfold Control.run
          rw [if_pos goesOn]
          exact hypothesis follows behind attends

end

end Watch

def Attended (chosen : Option Dispatcher) (watch : Watch)
    (scripts : List Script) : Prop :=
  ∀ script ∈ scripts, watch.attends chosen script = true

def Watch.taken (nego : Bool) (method : Dispatcher) (uapi spoke : Bool) :
    Watch :=
  { nego := nego
    method := some method
    timer := false
    uapi := uapi
    spoke := spoke
    last := some none
    met := true
    ready := true }

def Accepts (opcode : UInt16) (pkg : Bytes) : Dispatcher → Prop
  | .nego =>
    if opcode = pairingStart then ¬ pkg.length < 1
    else if opcode = pairingRequest then ¬ pkg.length < 10
    else if opcode = pairingResponse then ¬ pkg.length < 10
    else if opcode = pairingConfirm then ¬ pkg.length < 70
    else if opcode = pairingInitInfo then ¬ pkg.length < 64
    else False
  | .numCmp =>
    if opcode = tNodeCfmWithRb then ¬ pkg.length < 32
    else if opcode = randNumRa then ¬ pkg.length < 16
    else if opcode = gNodeDhKey then pkg.length = 16
    else if opcode = tNodeDhKey then pkg.length = 16
    else False
  | .noEntry =>
    if opcode = tNodeCfm then True
    else if opcode = randNumRa then ¬ pkg.length < 16
    else if opcode = randNumRb then ¬ pkg.length < 16
    else if opcode = gNodeDhKey then pkg.length = 16
    else if opcode = tNodeDhKey then pkg.length = 16
    else False
  | .passCode | .passWord | .oob =>
    if opcode = gNodeCfmWithRa then ¬ pkg.length < 32
    else if opcode = tNodeCfmWithRb then ¬ pkg.length < 32
    else if opcode = gNodeDhKey then pkg.length = 16
    else if opcode = tNodeDhKey then pkg.length = 16
    else False
  | .psk =>
    if opcode = randNumRa then ¬ pkg.length < 16
    else if opcode = randNumRb then ¬ pkg.length < 16
    else if opcode = gNodeCfm then ¬ pkg.length < 16
    else if opcode = tNodeCfm then ¬ pkg.length < 16
    else if opcode = gNodeDhKey then pkg.length = 16
    else if opcode = tNodeDhKey then pkg.length = 16
    else False

instance (opcode : UInt16) (pkg : Bytes) (method : Dispatcher) :
    Decidable (Accepts opcode pkg method) :=
  match method with
  | .nego | .numCmp | .noEntry | .passCode | .passWord | .oob | .psk =>
    inferInstanceAs (Decidable (ite _ _ _))

section Attended

variable {env : Env} {values : Values} {control : Control}
  {opcode : UInt16} {pkg : Bytes} {chosen : Option Dispatcher}
  {uapi spoke : Bool} {watch : Watch} {scripts : List Script}

theorem attended_cons {script : Script}
    (attended : Attended chosen watch scripts)
    (first : watch.attends chosen script = true) :
    Attended chosen watch (script :: scripts) := by
  exact forall_mem_cons.mpr ⟨first, attended⟩

theorem attended_nil : Attended chosen watch [] := by
  intro script listed
  cases listed

theorem attended_map (first : Script) (next : Watch)
    (before : ∀ rest, watch.attends chosen (first ++ rest) =
      next.attends chosen rest)
    (attended : Attended chosen next scripts) :
    Attended chosen watch (scripts.map (first ++ ·)) := by
  refine forall_mem_map.mpr fun rest member => ?_
  rw [before]
  exact attended rest member

theorem attended_dropped (rests : watch.rests = true) :
    Attended chosen watch [[]] :=
  attended_cons attended_nil rests

theorem attended_fail : Attended chosen watch [[.fail]] :=
  attended_cons attended_nil rfl

theorem attended_pair {first second : Script}
    (one : watch.attends chosen first = true)
    (two : watch.attends chosen second = true) :
    Attended chosen watch [first, second] :=
  attended_cons (attended_cons attended_nil two) one

theorem attended_ite {test yes no : Prop} [Decidable test]
    {first second : List Script}
    (accepts : watch.rests = true ∨ if test then yes else no)
    (here : watch.rests = true ∨ yes → Attended chosen watch first)
    (there : watch.rests = true ∨ no → Attended chosen watch second) :
    Attended chosen watch (if test then first else second) := by
  split
  case isTrue holds =>
    rw [if_pos holds] at accepts
    exact here accepts
  case isFalse fails =>
    rw [if_neg fails] at accepts
    exact there accepts

theorem attended_long {least : Nat}
    (accepts : watch.rests = true ∨ ¬ pkg.length < least)
    (long : Attended chosen watch scripts) :
    Attended chosen watch (if pkg.length < least then [[]] else scripts) := by
  split
  case isTrue short => exact attended_dropped (accepts.resolve_right (· short))
  case isFalse _ => exact long

theorem attended_longIte {test no : Prop} [Decidable test] {least : Nat}
    {second : List Script}
    (accepts : watch.rests = true ∨
      if test then ¬ pkg.length < least else no)
    (long : Attended chosen watch scripts)
    (there : watch.rests = true ∨ no → Attended chosen watch second) :
    Attended chosen watch (if test then
      if pkg.length < least then [[]] else scripts else second) :=
  attended_ite accepts (fun accepts => attended_long accepts long) there

theorem attended_other (accepts : watch.rests = true ∨ False) :
    Attended chosen watch [[]] :=
  attended_dropped (accepts.resolve_right id)

variable {method : Dispatcher} {size : Nat}

section

variable
  (whole : (Watch.taken false method uapi spoke).rests = true ∨ size = 16)
include whole

theorem attended_checkG :
    Attended chosen (Watch.taken false method uapi spoke) (checkG size) := by
  unfold checkG
  split
  case isTrue short => exact attended_dropped (whole.resolve_right short)
  case isFalse _ => exact attended_pair rfl rfl

theorem attended_checkT :
    Attended chosen (Watch.taken false method uapi spoke) (checkT size) := by
  unfold checkT
  split
  case isTrue short => exact attended_dropped (whole.resolve_right short)
  case isFalse _ => exact attended_pair rfl rfl

end

theorem attended_lastT {test : Prop} [Decidable test]
    (accepts : (Watch.taken false method uapi spoke).rests = true ∨
      if test then size = 16 else False) :
    Attended chosen (Watch.taken false method uapi spoke)
      (if test then checkT size else [[]]) :=
  attended_ite accepts attended_checkT attended_other

section

variable (same : control.uapiTimerHandle = uapi)
include same

theorem attended_keepG
    (whole : (Watch.taken false method uapi spoke).rests = true ∨
      pkg.length = 16) : Attended chosen (Watch.taken false method uapi spoke)
      (keepG control pkg) := by
  unfold keepG
  split
  case isTrue runs =>
    apply attended_cons attended_nil
    rw [← same, runs]
    rfl
  case isFalse _ =>
    exact attended_map [.flag false] (Watch.taken false method uapi spoke)
      (fun _ => rfl) (attended_checkG whole)

theorem attended_numCmp
    (accepts : (Watch.taken false .numCmp uapi spoke).rests = true ∨
      Accepts opcode pkg .numCmp) :
    Attended chosen (Watch.taken false .numCmp uapi spoke)
      (Scripts.numCmp control opcode pkg) := by
  apply attended_longIte accepts
  · exact attended_pair rfl rfl
  intro accepts
  apply attended_longIte accepts
  · exact attended_pair rfl rfl
  intro accepts
  apply attended_ite accepts
  · exact attended_keepG same
  exact attended_lastT

theorem attended_noEntry
    (accepts : (Watch.taken false .noEntry uapi spoke).rests = true ∨
      Accepts opcode pkg .noEntry) :
    Attended chosen (Watch.taken false .noEntry uapi spoke)
      (Scripts.noEntry control opcode pkg) := by
  apply attended_ite accepts
  · exact fun _ => attended_cons attended_nil rfl
  intro accepts
  apply attended_longIte accepts
  · exact attended_cons attended_nil rfl
  intro accepts
  apply attended_longIte accepts
  · exact attended_cons attended_nil rfl
  intro accepts
  apply attended_ite accepts
  · exact attended_keepG same
  exact attended_lastT

end

section

variable (method : Option Dispatcher)

theorem answer_gNodeDhKey :
    answer method gNodeDhKey = some tNodeDhKey := by
  cases method with
  | none => rfl
  | some method => cases method <;> rfl

theorem answer_gNodeCfmWithRa :
    answer method gNodeCfmWithRa = some tNodeCfmWithRb := by
  cases method with
  | none => rfl
  | some method => cases method <;> rfl

theorem answer_tNodeDhKey :
    answer method tNodeDhKey = none := by
  cases method with
  | none => rfl
  | some method => cases method <;> rfl

end

theorem answer_tNodeCfmWithRb {method : Option Dispatcher}
    (other : method ≠ some .numCmp) :
    answer method tNodeCfmWithRb = some gNodeDhKey := by
  cases method with
  | none => rfl
  | some method =>
    cases method with
    | numCmp => exact absurd rfl other
    | _ => rfl

section

variable (free : watch.timer = false)
include free

theorem rests_exchange {sent reply : UInt16}
    (answers : answer watch.method sent = some reply) :
    ((watch.sends sent).waits reply).rests = true := by
  have off : (watch.sends sent).timer = false := free
  unfold Watch.waits
  rw [off]
  simp [Watch.rests, Watch.answeredBy, Watch.sends, answers]

theorem attended_finishG : Attended chosen watch (finishG env) := by
  apply attended_pair rfl
  split
  · exact rests_exchange free (answer_gNodeDhKey _)
  · rfl

theorem attended_setGPassCode :
    Attended chosen watch (Scripts.setGPassCode env values) := by
  unfold Scripts.setGPassCode
  cases env.randNum with
  | none => exact attended_fail
  | some random =>
    apply attended_pair rfl
    exact rests_exchange free (answer_gNodeCfmWithRa _)

theorem attended_answerG (other : watch.method ≠ some .numCmp) :
    Attended chosen watch answerG := by
  apply attended_cons _ rfl
  apply attended_pair rfl
  exact rests_exchange free (answer_tNodeCfmWithRb other)

end

theorem attended_pass (other : method ≠ .numCmp)
    (same : control.uapiTimerHandle = uapi)
    (accepts : (Watch.taken false method uapi spoke).rests = true ∨
      Accepts opcode pkg .passCode) :
    Attended chosen (Watch.taken false method uapi spoke)
      (Scripts.pass env control opcode pkg) := by
  have answers : (Watch.taken false method uapi spoke).method ≠
      some .numCmp := by
    intro equal
    exact other (Option.some.inj equal)
  have savesG : ∀ rest, (Watch.taken false method uapi spoke).attends chosen
      (saveG pkg ++ rest) =
        (Watch.taken false method uapi spoke).attends chosen rest :=
    fun _ => rfl
  apply attended_longIte accepts
  · split
    case isTrue runs =>
      apply attended_cons attended_nil
      rw [savesG, ← same, runs]
      rfl
    case isFalse _ =>
      exact attended_map _ _ savesG (attended_answerG rfl answers)
  intro accepts
  apply attended_longIte accepts
  · exact attended_cons (attended_map _ _ (fun _ => rfl)
      (attended_finishG rfl)) rfl
  intro accepts
  apply attended_ite accepts
  · exact attended_checkG
  exact attended_lastT

theorem attended_oob
    (accepts : (Watch.taken false .oob uapi spoke).rests = true ∨
      Accepts opcode pkg .oob) :
    Attended chosen (Watch.taken false .oob uapi spoke)
      (Scripts.oob env opcode pkg) := by
  apply attended_longIte accepts
  · exact attended_cons (attended_pair rfl rfl) rfl
  intro accepts
  apply attended_longIte accepts
  · exact attended_cons (attended_map _ _ (fun _ => rfl)
      (attended_finishG rfl)) rfl
  intro accepts
  apply attended_ite accepts
  · exact attended_checkG
  exact attended_lastT

theorem attended_psk
    (accepts : (Watch.taken false .psk uapi spoke).rests = true ∨
      Accepts opcode pkg .psk) :
    Attended chosen (Watch.taken false .psk uapi spoke)
      (Scripts.psk env values opcode pkg) := by
  apply attended_longIte accepts
  · exact attended_pair rfl rfl
  intro accepts
  apply attended_longIte accepts
  · exact attended_pair rfl rfl
  intro accepts
  apply attended_longIte accepts
  · exact attended_cons (attended_pair rfl rfl) rfl
  intro accepts
  apply attended_longIte accepts
  · exact attended_cons (attended_map [.store .tConfirm (slice pkg 0 16)]
      (Watch.taken false .psk uapi spoke) (fun _ => rfl)
      (attended_finishG rfl)) rfl
  intro accepts
  apply attended_ite accepts
  · exact attended_checkG
  exact attended_lastT

/-! ### The start of an authentication -/

def Watch.begun (method : Dispatcher) (uapi spoke : Bool)
    (last : Option UInt16) : Watch :=
  { nego := false
    method := some method
    timer := false
    uapi := uapi
    spoke := spoke
    last := some last
    met := true
    ready := true }

variable {last : Option UInt16}

section

variable (calm : last = none ∨ last = some pairingInitInfo)
include calm

theorem attended_startPassCode :
    Attended chosen (Watch.begun .passCode uapi spoke last)
      (startPassCode env values control) := by
  unfold startPassCode
  split
  · apply attended_cons _ rfl
    apply attended_cons
    · have prompts : ∀ rest, (Watch.begun .passCode uapi spoke last).attends
          chosen ([Act.prompt] ++ rest) = (Watch.begun .passCode uapi spoke
            last).attends chosen rest := fun _ => rfl
      exact attended_map _ _ prompts (attended_setGPassCode rfl)
    · simp [Watch.attends, Watch.exec, Watch.rests, Watch.begun]
  · apply attended_cons _ rfl
    apply attended_cons
    · cases env.randNum with
      | none => exact attended_cons attended_nil rfl
      | some random =>
        apply attended_pair rfl
        rcases calm with rfl | rfl <;> rfl
    · rcases calm with rfl | rfl <;> rfl

theorem attended_startDrawn {random : Bytes} (drawn : method ≠ .passCode)
    (auth : method ≠ .nego) :
    Attended chosen (Watch.begun method uapi spoke last)
      (startDrawn values control method random) := by
  have asks : ∀ first : Act, first = .store .ra random →
      (Watch.begun .passWord uapi spoke last).attends chosen
        [first, .ask] = true := by
    intro first kind
    rw [kind]
    simp [Watch.attends, Watch.exec, Watch.rests, Watch.begun]
  by_cases gNode : control.role = gNodeRole
  · cases method with
    | passCode => exact absurd rfl drawn
    | nego => exact absurd rfl auth
    | passWord =>
      simp only [startDrawn, if_pos gNode]
      exact attended_cons attended_nil (asks _ rfl)
    | oob =>
      simp only [startDrawn, if_pos gNode]
      exact attended_pair rfl rfl
    | psk =>
      simp only [startDrawn, if_pos gNode]
      exact attended_cons attended_nil rfl
    | _ =>
      simp only [startDrawn, Scripts.startConfirmed, if_pos gNode]
      apply attended_cons attended_nil
      rcases calm with rfl | rfl <;> rfl
  · cases method with
    | passCode => exact absurd rfl drawn
    | nego => exact absurd rfl auth
    | oob =>
      simp only [startDrawn, if_neg gNode]
      apply attended_pair rfl
      rcases calm with rfl | rfl <;> rfl
    | numCmp | noEntry =>
      simp only [startDrawn, Scripts.startConfirmed, if_neg gNode]
      exact attended_pair rfl rfl
    | _ =>
      simp only [startDrawn, if_neg gNode]
      apply attended_cons attended_nil
      rcases calm with rfl | rfl <;> rfl

end

theorem attended_start (auth : method ≠ .nego)
    (calm : last = none ∨ last = some pairingInitInfo) :
    Attended chosen (Watch.begun method uapi spoke last)
      (Scripts.start env values control (some method)) := by
  by_cases other : method = .passCode
  · rw [other]
    exact attended_startPassCode calm
  · rw [start_drawn auth other]
    cases env.randNum with
    | none => exact attended_fail
    | some random => exact attended_startDrawn calm other auth

theorem attended_nego (auth : method ≠ .nego)
    (picked : SLink.getAuthPkgDispatcher control.authMethod = some method)
    (accepts : (Watch.taken true .nego uapi spoke).rests = true ∨
      Accepts opcode pkg .nego) :
    Attended (some method) (Watch.taken true .nego uapi spoke)
      (Scripts.nego env values control opcode pkg) := by
  have started : Attended (some method) (Watch.taken true .nego uapi spoke)
      (Scripts.authenticate env values control) := by
    unfold Scripts.authenticate
    rw [picked]
    exact attended_map [.authenticate] (Watch.begun method uapi spoke none)
      (fun _ => rfl) (attended_start auth (.inl rfl))
  have answered : Attended (some method) (Watch.taken true .nego uapi spoke)
      ((Scripts.authenticate env values control).map
        ([Act.attempt pairingInitInfo] ++ ·)) := by
    have before : ∀ rest, ((Watch.taken true .nego uapi spoke).sends
        pairingInitInfo).attends (some method)
          ([Act.authenticate] ++ rest) = (Watch.begun method uapi true
              (some pairingInitInfo)).attends (some method) rest := by
      intro rest
      cases method <;> rfl
    apply attended_map _ _ (fun _ => rfl)
    unfold Scripts.authenticate
    rw [picked]
    exact attended_map _ _ before (attended_start auth (.inr rfl))
  have failed : Attended (some method) (Watch.taken true .nego uapi spoke)
      ((Scripts.authenticate env values control).map ([Act.fail] ++ ·)) := by
    refine forall_mem_map.mpr fun rest _ => ?_
    rfl
  apply attended_longIte accepts
  · exact attended_cons attended_nil rfl
  intro accepts
  apply attended_longIte accepts
  · exact attended_cons (attended_pair rfl rfl) rfl
  intro accepts
  apply attended_longIte accepts
  · exact attended_cons (attended_pair rfl rfl) rfl
  intro accepts
  apply attended_longIte accepts
  · apply attended_cons _ rfl
    split
    · exact answered
    · exact failed
  intro accepts
  apply attended_longIte accepts
  · exact started
  · exact attended_other

end Attended

end NearLink.Sm
