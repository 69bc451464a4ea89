import NearLink.Sm.Watch

/-!
# The consent of the user

In the number comparison and the no-entry method the verification code of a
node may leave it only after the user was asked and has confirmed, in the same
attempt and once for each time the user is asked.  The record says how far an
attempt has come: `Consent`.  The code keeps no such value; it looks at the
timer of the user and at what has arrived.  A step that goes on with a freed
link is read with its record intact.
-/

namespace NearLink.Sm

open Sdf Cm Transition Scripts Opcode List Control

inductive Consent where
  | over
  | unasked
  | asked
  | given
  | used
  deriving DecidableEq

def isCode (opcode : UInt16) : Bool :=
  opcode = gNodeDhKey || opcode = tNodeDhKey

def Dispatcher.defers : Dispatcher → Bool
  | .numCmp | .noEntry => true
  | .nego | .passCode | .passWord | .oob | .psk => false

def Consent.next (consent : Consent) : Note → Consent
  | .created | .entered _ => .over
  | .negotiates _ => .unasked
  | .authenticates method =>
    if method.any Dispatcher.defers then consent else .over
  | .prompted => if consent = .over then .over else .asked
  | .confirmed => if consent = .asked then .given else consent
  | .sent opcode =>
    if isCode opcode = true ∧ consent = .given then .used else consent
  | .posted | .handed _ | .waits _ | .asks | .reported _ => consent

def consent (log : List Note) : Consent :=
  log.foldl Consent.next .over

def Consented (before : List Note) : Note → Prop
  | .sent opcode =>
    isCode opcode = true → consent before = .over ∨ consent before = .given
  | .reported .ok => consent before ≠ .unasked ∧ consent before ≠ .asked
  | _ => True

theorem consent_concat (log : List Note) (entry : Note) :
    consent (log ++ [entry]) = (consent log).next entry := by
  unfold consent
  rw [foldl_append]
  rfl

namespace Control

variable {env : Env} {control : Control} {log : List Note} {entry : Note}

/-- A link that is not in `NEGO` and, if in `AUTH`, has another method. -/
structure Free (control : Control) : Prop where
  state : control.state ≠ .nego
  auth : control.state = .auth → ∃ method,
    control.dispatcher = some method ∧ method ≠ .nego ∧ method.defers = false
  method : control.authMethod ≤ 5
  quiet : consent control.log = .over
  log : Throughout Consented control.log

theorem consented_over (quiet : consent log = .over) (entry : Note) :
    Consented log entry := by
  cases entry with
  | sent opcode => exact fun _ => .inl quiet
  | reported status =>
    cases status with
    | ok => exact ⟨by simp [quiet], by simp [quiet]⟩
    | _ => trivial
  | _ => trivial

section

variable (free : control.Free) (stays : Consent.next .over entry = .over)
include free stays

theorem Free.noted :
    consent (control.log ++ [entry]) = .over ∧
      Throughout Consented (control.log ++ [entry]) := by
  refine ⟨?_, throughout_concat.mpr ⟨free.log, consented_over free.quiet _⟩⟩
  rw [consent_concat, free.quiet]
  exact stays

theorem Free.note : (control.note entry).Free := by
  obtain ⟨quiet, log⟩ := free.noted stays
  exact ⟨free.state, free.auth, free.method, quiet, log⟩

end

theorem free_enterRemv (log : Throughout Consented control.log)
    (valid : control.authMethod ≤ 5) : (control.enterRemv env).Free := by
  refine ⟨by simp [Control.enterRemv], ?_, valid,
    consent_concat control.log _, throughout_concat.mpr ⟨log, trivial⟩⟩
  intro now
  simp [Control.enterRemv] at now

theorem throughout_quiet (throughout : Throughout Consented log)
    (quiet : Consented log entry) : Throughout Consented (log ++ [entry]) :=
  throughout_concat.mpr ⟨throughout, quiet⟩

theorem free_failed (log : Throughout Consented control.log)
    (valid : control.authMethod ≤ 5) {status : PairStatus}
    (failure : status ≠ .ok) :
    (((control.note .posted).note (.reported status)).enterRemv env).Free := by
  have posted : Throughout Consented (control.note .posted).log :=
    throughout_quiet log trivial
  have reported : Throughout Consented
      ((control.note .posted).note (.reported status)).log := by
    apply throughout_quiet posted
    cases status with
    | ok => exact absurd rfl failure
    | _ => trivial
  exact free_enterRemv reported valid

section

variable (free : control.Free)
include free

theorem Free.internalError : (control.internalError env).Free := by
  have posted : (control.note .posted).Free := free.note rfl
  unfold Control.internalError
  cases now : control.state with
  | init => exact free_enterRemv posted.log posted.method
  | nego => exact absurd now free.state
  | auth => exact free_failed free.log free.method (by simp)
  | _ => exact posted

theorem Free.externalError : (control.externalError env).Free := by
  have posted : (control.note .posted).Free := free.note rfl
  unfold Control.externalError
  cases now : control.state with
  | nego => exact absurd now free.state
  | auth => exact free_failed free.log free.method (by simp)
  | _ => exact posted

theorem Free.sent (opcode : UInt16) : (control.sent opcode).Free := by
  apply free.note
  simp [Consent.next]

theorem Free.waitExpectOpCode (opcode : UInt16) :
    (control.waitExpectOpCode env opcode).Free := by
  unfold Control.waitExpectOpCode
  split
  · exact free
  · obtain ⟨quiet, log⟩ := free.noted (rfl : Consent.next .over (.waits opcode) = .over)
    exact ⟨free.state, free.auth, free.method, quiet, log⟩

end

theorem free_enterEncp (log : Throughout Consented control.log)
    (valid : control.authMethod ≤ 5) : (control.enterEncp env).Free := by
  have entered : ({ control.note (.entered .encp) with
      state := .encp } : Control).Free := by
    refine ⟨by simp, ?_, valid, consent_concat control.log _,
      throughout_quiet log trivial⟩
    exact nofun
  unfold Control.enterEncp
  split_ifs
  any_goals exact entered
  exact entered.note rfl

theorem Free.authSuccess (free : control.Free) :
    (control.authSuccess env).Free := by
  have posted : (control.note .posted).Free := free.note rfl
  unfold Control.authSuccess
  cases control.state with
  | auth =>
    have reported : ((control.note .posted).note (.reported .ok)).Free :=
      posted.note rfl
    exact free_enterEncp reported.log reported.method
  | _ => exact posted

theorem Free.exec (free : control.Free) {act : Act}
    (ordinary : act.ordinary = true) : (control.exec env act).Free := by
  cases act with
  | store field value => cases field <;> exact { free with }
  | method authMethod =>
    exact { free with method := of_decide_eq_true ordinary }
  | fail => exact free.internalError
  | external | expire => exact free.externalError
  | send opcode | attempt opcode =>
    simp only [Control.exec]
    split
    · exact free.sent opcode
    · exact free.internalError
  | exchange opcode reply =>
    simp only [Control.exec]
    split
    · exact (free.sent opcode).waitExpectOpCode reply
    · exact free.internalError
  | wait opcode => exact free.waitExpectOpCode opcode
  | prompt => exact free.note rfl
  | ask =>
    simp only [Control.exec, Control.waitUapiInput]
    split
    · exact free
    · obtain ⟨still, logged⟩ := free.noted (rfl : Consent.next .over .asks = .over)
      exact { free with quiet := still, log := logged }
  | authenticate =>
    have posted : (control.note .posted).Free := free.note rfl
    simp only [Control.exec, Control.negoSuccess]
    cases now : control.state with
    | nego => exact absurd now free.state
    | _ => exact posted
  | succeed => exact free.authSuccess
  | note entry =>
    apply free.note
    cases entry with
    | authenticates | sent => simp [Consent.next]
    | created | negotiates | entered | reported => cases ordinary
    | _ => rfl
  | report | leave | negotiate | miss | encp | full => cases ordinary
  | _ => exact { free with }

theorem Free.run (free : control.Free) {script : Script}
    (ordinary : ∀ act ∈ script, act.ordinary = true) :
    (control.run env script).Free :=
  run_of (fun act found _ holds => holds.exec (ordinary act found)) free

end Control

/-- What is known of a link in `NEGO`, or in `AUTH` with one of the two
methods. -/
structure Gate where
  auth : Bool
  method : Option Dispatcher
  gNode : Bool
  consent : Consent
  expect : UInt16
  timer : Bool
  uapi : Bool
  ready : Bool

namespace Gate

/-- A T node waits for the code of the peer only while the user is asked or
after the consent, and a G node only after its own code is sent. -/
def holds (gate : Gate) : Bool :=
  if gate.auth then
    (if gate.gNode then
        gate.expect = tNodeCfmWithRb || gate.expect = tNodeCfm ||
          gate.expect = randNumRb ||
            gate.expect = tNodeDhKey && gate.consent = .used
      else
        gate.expect = randNumRa || gate.expect = gNodeDhKey &&
            (gate.consent = .asked && gate.uapi || gate.consent = .given))
  else gate.consent = .unasked

def sends (gate : Gate) (opcode : UInt16) : Gate :=
  { gate with consent := gate.consent.next (.sent opcode) }

def waits (env : Env) (gate : Gate) (opcode : UInt16) : Gate :=
  if gate.timer then gate
  else { gate with expect := opcode, timer := env.recvTimerAdd }

@[grind =] def allows (gate : Gate) : Act → Bool
  | .succeed => !gate.auth || gate.consent = .given || gate.consent = .used
  | .authenticate => gate.ready
  | .send opcode | .attempt opcode | .exchange opcode _
  | .note (.sent opcode) => !isCode opcode || gate.consent = .given
  | .note (.authenticates _) => false
  | _ => true

@[grind =] def exec (env : Env) (chosen : Option Dispatcher) (gate : Gate) :
    Act → Option Gate
  | .prompt | .note .prompted => some { gate with consent := .asked }
  | .note .confirmed =>
    some { gate with consent := gate.consent.next .confirmed }
  | .ask => some { gate with uapi := gate.uapi || env.uapiTimerAdd }
  | .authenticate =>
    if chosen.any Dispatcher.defers then
      some { gate with auth := true, method := chosen }
    else none
  | .succeed => if gate.auth then none else some gate
  | .delTimer => some { gate with timer := false }
  | .delUapiTimer => some { gate with uapi := false }
  | .fail | .external | .expire => none
  | .send opcode | .attempt opcode | .note (.sent opcode) =>
    some (gate.sends opcode)
  | .exchange opcode reply => some ((gate.sends opcode).waits env reply)
  | .wait opcode => some (gate.waits env opcode)
  | .method _ => some { gate with ready := false }
  | .bind _ role => some { gate with gNode := role = gNodeRole }
  | _ => some gate

@[grind =] def passes (env : Env) (chosen : Option Dispatcher) (gate : Gate) :
    Script → Bool
  | [] => gate.holds
  | act :: rest =>
    if act = .authenticate ∧ gate.auth = true then gate.holds
    else
      gate.allows act &&
        match gate.exec env chosen act with
        | none => true
        | some next => passes env chosen next rest

structure Fits (chosen : Option Dispatcher) (gate : Gate)
    (control : Control) : Prop where
  state : control.state = if gate.auth then .auth else .nego
  dispatcher : control.dispatcher = gate.method
  nego : gate.auth = false → gate.method = some .nego
  auth : gate.auth = true →
    ∃ method, gate.method = some method ∧ method.defers = true
  role : gate.gNode = decide (control.role = gNodeRole)
  consent : Sm.consent control.log = gate.consent
  live : gate.consent ≠ .over
  expect : control.expectOpCode = gate.expect
  timer : control.timerHandle = gate.timer
  uapi : control.uapiTimerHandle = gate.uapi
  authMethod : control.authMethod ≤ 5
  ready : gate.ready = true →
    chosen = SLink.getAuthPkgDispatcher control.authMethod
  log : Throughout Consented control.log

variable {env : Env} {chosen : Option Dispatcher} {gate : Gate}
  {control : Control}

section

variable (fits : gate.Fits chosen control) {entry : Note}
include fits

theorem Fits.failed : (control.internalError env).Free := by
  have state := fits.state
  unfold Control.internalError
  cases auth : gate.auth with
  | true | false =>
    rw [auth] at state
    rw [state]
    exact free_failed fits.log fits.authMethod (by simp)

theorem Fits.refused : (control.externalError env).Free := by
  have state := fits.state
  unfold Control.externalError
  cases auth : gate.auth with
  | true | false =>
    rw [auth] at state
    rw [state]
    exact free_failed fits.log fits.authMethod (by simp)

theorem Fits.note (allowed : Consented control.log entry)
    (live : gate.consent.next entry ≠ .over) :
    { gate with consent := gate.consent.next entry }.Fits chosen
      (control.note entry) := by
  have noted : Sm.consent (control.log ++ [entry]) =
      gate.consent.next entry := by
    rw [consent_concat, fits.consent]
  exact { fits with
    consent := noted
    live
    log := throughout_concat.mpr ⟨fits.log, allowed⟩ }

theorem Fits.pass (allowed : Consented control.log entry)
    (same : ∀ consent : Consent, consent.next entry = consent) :
    gate.Fits chosen (control.note entry) := by
  have live : gate.consent.next entry ≠ .over := by
    rw [same]
    exact fits.live
  have noted := fits.note allowed live
  rw [same] at noted
  exact noted

theorem Fits.sends {opcode : UInt16}
    (allowed : (!isCode opcode || gate.consent = .given) = true) :
    (gate.sends opcode).Fits chosen (control.sent opcode) := by
  apply fits.note
  · intro code
    right
    rw [fits.consent]
    simpa [code] using allowed
  · simp only [Consent.next]
    split
    · simp
    · exact fits.live

theorem Fits.prompted : { gate with consent := .asked }.Fits chosen
    (control.note .prompted) := by
  have asks : gate.consent.next .prompted = .asked := by
    simp [Consent.next, fits.live]
  have noted : { gate with consent := gate.consent.next .prompted }.Fits
      chosen (control.note .prompted) :=
    fits.note trivial (by simp [asks])
  rwa [asks] at noted

theorem Fits.waits (opcode : UInt16) : (gate.waits env opcode).Fits chosen
      (control.waitExpectOpCode env opcode) := by
  have noted : gate.Fits chosen (control.note (.waits opcode)) :=
    fits.pass trivial (fun _ => rfl)
  unfold Gate.waits Control.waitExpectOpCode
  rw [fits.timer]
  cases gate.timer with
  | true => exact fits
  | false => exact { noted with expect := rfl, timer := rfl }

theorem Fits.authenticates (nego : gate.auth = false)
    (ready : gate.ready = true) :
    control.negoSuccess.Free ∨ chosen.any Dispatcher.defers = true ∧
        { gate with auth := true, method := chosen }.Fits chosen
          control.negoSuccess := by
  have now : control.state = .nego := by
    rw [fits.state, nego]
    rfl
  have picked := fits.ready ready
  obtain ⟨method, found, auth⟩ := Watch.chosen_some fits.authMethod
  have equal : chosen = some method := picked.trans found
  have posted : gate.Fits chosen (control.note .posted) :=
    fits.pass trivial (fun _ => rfl)
  have logged : Sm.consent (control.log ++ [Note.posted] ++
      [Note.authenticates chosen]) =
        gate.consent.next (.authenticates chosen) := by
    rw [consent_concat]
    exact congrArg (·.next (.authenticates chosen)) posted.consent
  have throughout : Throughout Consented (control.log ++ [Note.posted] ++
      [Note.authenticates chosen]) :=
    throughout_concat.mpr ⟨posted.log, trivial⟩
  unfold Control.negoSuccess
  rw [now]
  rw [← picked]
  cases defers : method.defers with
  | true =>
    have defer : chosen.any Dispatcher.defers = true := by
      rw [equal]
      exact defers
    right
    refine ⟨defer, { fits with
      state := rfl
      dispatcher := rfl
      nego := nofun
      auth := fun _ => ⟨method, equal, defers⟩
      consent := logged.trans ?_
      log := throughout }⟩
    simp [Consent.next, defer]
  | false =>
    left
    refine ⟨by simp, ?_, fits.authMethod, ?_, throughout⟩
    · intro _
      exact ⟨method, equal, auth, defers⟩
    · refine logged.trans ?_
      simp [Consent.next, equal, defers]

theorem Fits.exec {act : Act} (ordinary : act.ordinary = true)
    (allowed : gate.allows act = true)
    (starts : act = .authenticate → gate.auth = false) :
    (control.exec env act).Free ∨ control.goesOn env act = true ∧
        ∃ next, gate.exec env chosen act = some next ∧
          next.Fits chosen (control.exec env act) := by
  have ⟨state, dispatcher, nego, auth, role, consent, live, expect, timer,
    uapi, valid, ready, log⟩ := fits
  cases act with
  | store field value =>
    refine .inr ⟨rfl, gate, rfl, ?_⟩
    cases field <;>
      exact { fits with }
  | fail => exact .inl fits.failed
  | external | expire => exact .inl fits.refused
  | send opcode =>
    simp only [Control.exec]
    split
    case isTrue accepted => exact .inr ⟨accepted, _, rfl, fits.sends allowed⟩
    case isFalse _ => exact .inl fits.failed
  | attempt opcode =>
    simp only [Control.exec]
    split
    · exact .inr ⟨rfl, _, rfl, fits.sends allowed⟩
    · exact .inl fits.failed
  | exchange opcode reply =>
    simp only [Control.exec]
    split
    · exact .inr ⟨rfl, _, rfl, (fits.sends allowed).waits reply⟩
    · exact .inl fits.failed
  | wait opcode => exact .inr ⟨rfl, _, rfl, fits.waits opcode⟩
  | prompt => exact .inr ⟨rfl, _, rfl, fits.prompted⟩
  | ask =>
    have noted : gate.Fits chosen (control.note .asks) :=
      fits.pass trivial (fun _ => rfl)
    refine .inr ⟨rfl, _, rfl, ?_⟩
    simp only [Control.exec, Control.waitUapiInput]
    rw [uapi]
    cases runs : gate.uapi with
    | true => exact { fits with uapi := fits.uapi.trans runs }
    | false => exact { noted with uapi := rfl }
  | authenticate =>
    have now := starts rfl
    have goes : control.goesOn env .authenticate = true := by
      simp [Control.goesOn, state, now]
    rcases fits.authenticates now allowed with free | ⟨defers, follows⟩
    · exact .inl free
    · refine .inr ⟨goes, _, ?_, follows⟩
      simp only [Gate.exec, if_pos defers]
  | succeed =>
    have posted : gate.Fits chosen (control.note .posted) :=
      fits.pass trivial (fun _ => rfl)
    cases now : gate.auth with
    | true =>
      have equal : control.state = .auth := by
        rw [state, now]
        rfl
      have reported : Throughout Consented
          ((control.note .posted).note (.reported .ok)).log := by
        apply throughout_quiet posted.log
        have checked : gate.consent = .given ∨ gate.consent = .used := by
          simpa [Gate.allows, now] using allowed
        constructor
        all_goals
          rw [posted.consent]
          rcases checked with equal | equal <;> simp [equal]
      simp only [Control.exec, Control.authSuccess, equal]
      exact .inl (free_enterEncp reported valid)
    | false =>
      have equal : control.state = .nego := by
        rw [state, now]
        rfl
      refine .inr ⟨rfl, gate, by simp [Gate.exec, now], ?_⟩
      simp only [Control.exec, Control.authSuccess, equal]
      exact posted
  | method authMethod =>
    exact .inr ⟨rfl, _, rfl, { fits with
      authMethod := of_decide_eq_true ordinary
      ready := (absurd · Bool.false_ne_true) }⟩
  | bind lcid role => exact .inr ⟨rfl, _, rfl, { fits with role := rfl }⟩
  | delTimer => exact .inr ⟨rfl, _, rfl, { fits with timer := rfl }⟩
  | delUapiTimer => exact .inr ⟨rfl, _, rfl, { fits with uapi := rfl }⟩
  | note entry =>
    cases entry with
    | sent opcode => exact .inr ⟨rfl, _, rfl, fits.sends allowed⟩
    | prompted => exact .inr ⟨rfl, _, rfl, fits.prompted⟩
    | confirmed =>
      refine .inr ⟨rfl, _, rfl, fits.note trivial ?_⟩
      simp only [Consent.next]
      split
      · simp
      · exact live
    | posted | handed | waits | asks =>
      exact .inr ⟨rfl, _, rfl, fits.pass trivial (fun _ => rfl)⟩
    | authenticates method => cases allowed
    | created | negotiates | entered | reported => cases ordinary
  | report | leave | negotiate | miss | encp | full => cases ordinary
  | _ => exact .inr ⟨rfl, gate, rfl, { fits with }⟩

end

def of (control : Control) : Gate :=
  { auth := control.state = .auth
    method := control.dispatcher
    gNode := control.role = gNodeRole
    consent := Sm.consent control.log
    expect := control.expectOpCode
    timer := control.timerHandle
    uapi := control.uapiTimerHandle
    ready := true }

end Gate

def Control.Gated (control : Control) : Prop :=
  control.Free ∨
    (Gate.of control).Fits (SLink.getAuthPkgDispatcher control.authMethod)
        control ∧
      (Gate.of control).holds = true

namespace Gate

variable {env : Env} {chosen : Option Dispatcher} {gate : Gate}
  {control : Control}

theorem Fits.gated (fits : gate.Fits chosen control)
    (holds : gate.holds = true) : control.Gated := by
  have auth : decide (control.state = .auth) = gate.auth := by
    rw [fits.state]
    cases gate.auth with
    | true | false => rfl
  have same : Gate.of control = { gate with ready := true } := by
    unfold Gate.of
    rw [auth, fits.dispatcher, ← fits.role, fits.consent, fits.expect,
      fits.timer, fits.uapi]
  right
  rw [same]
  exact ⟨{ fits with ready := fun _ => rfl }, holds⟩

theorem Fits.run (fits : gate.Fits chosen control) {script : Script}
    (ordinary : ∀ act ∈ script, act.ordinary = true)
    (passes : gate.passes env chosen script = true) :
    (control.run env script).Gated := by
  induction script generalizing gate control with
  | nil => exact fits.gated passes
  | cons act rest hypothesis =>
    have behind : ∀ other ∈ rest, other.ordinary = true :=
      fun other found => ordinary other (.tail _ found)
    have first := ordinary act (mem_cons_self ..)
    unfold Gate.passes at passes
    split at passes
    case isTrue stops =>
      obtain ⟨rfl, auth⟩ := stops
      have now : control.state = .auth := by
        rw [fits.state, auth]
        rfl
      have posted : gate.Fits chosen (control.note .posted) :=
        fits.pass trivial (fun _ => rfl)
      simp only [Control.run, Control.goesOn, Control.exec,
        Control.negoSuccess, now]
      exact posted.gated passes
    case isFalse goes =>
      simp only [Bool.and_eq_true] at passes
      obtain ⟨allowed, next⟩ := passes
      have starts : act = .authenticate → gate.auth = false := by
        intro found
        simpa [found] using goes
      have stepped : (control.exec env act).Free ∨ _ :=
        fits.exec first allowed starts
      rcases stepped with free | ⟨goesOn, after, stepped, follows⟩
      · left
        unfold Control.run
        split
        · exact free.run behind
        · exact free
      · rw [stepped] at next
        unfold Control.run
        rw [if_pos goesOn]
        exact hypothesis follows behind next

end Gate

def Passed (env : Env) (chosen : Option Dispatcher) (gate : Gate)
    (scripts : List Script) : Prop :=
  ∀ script ∈ scripts, gate.passes env chosen script = true

section Passed

variable {env : Env} {values : Values} {control : Control}
  {opcode : UInt16} {pkg : Bytes} {chosen : Option Dispatcher} {gate : Gate}
  {scripts : List Script} {script : Script}

theorem passed_nil : Passed env chosen gate [] := by
  intro script listed
  cases listed

theorem passed_cons (passed : Passed env chosen gate scripts)
    (first : gate.passes env chosen script = true) :
    Passed env chosen gate (script :: scripts) := by
  exact forall_mem_cons.mpr ⟨first, passed⟩

theorem passed_pair {first second : Script}
    (one : gate.passes env chosen first = true)
    (two : gate.passes env chosen second = true) :
    Passed env chosen gate [first, second] :=
  passed_cons (passed_cons passed_nil two) one

theorem passed_idle (holds : gate.holds = true) :
    Passed env chosen gate [[]] :=
  passed_cons passed_nil holds

theorem passed_fail : Passed env chosen gate [[.fail]] :=
  passed_cons passed_nil rfl

theorem passed_map (first : Script) (next : Gate)
    (before : ∀ rest, gate.passes env chosen (first ++ rest) =
      next.passes env chosen rest)
    (passed : Passed env chosen next scripts) :
    Passed env chosen gate (scripts.map (first ++ ·)) := by
  refine forall_mem_map.mpr fun rest member => ?_
  rw [before]
  exact passed rest member

section

variable (auth : gate.auth = true) {size : Nat}
include auth

theorem passed_checkG (given : gate.consent = .given)
    (holds : gate.holds = true) :
    Passed env chosen gate (checkG size) := by
  unfold checkG
  split
  · exact passed_idle holds
  · apply passed_pair rfl
    simp [Gate.passes, Gate.allows, Gate.exec, Gate.sends, Consent.next,
      given, auth, isCode]

theorem passed_checkT (used : gate.consent = .used)
    (holds : gate.holds = true) :
    Passed env chosen gate (checkT size) := by
  unfold checkT
  split
  · exact passed_idle holds
  · apply passed_pair rfl
    simp [Gate.passes, Gate.allows, Gate.exec, used, auth]

theorem passed_keepG (uapi : control.uapiTimerHandle = gate.uapi)
    (holds : gate.holds = true)
    (asked : gate.uapi = false → gate.consent = .given) :
    Passed env chosen gate (keepG control pkg) := by
  unfold keepG
  split
  · exact passed_cons passed_nil holds
  case isFalse off =>
    have given : gate.consent = .given := by
      apply asked
      rw [← uapi]
      exact Bool.eq_false_iff.mpr off
    exact passed_map [.flag false] gate (fun _ => rfl)
      (passed_checkG auth given holds)

theorem holds_gNode (gNode : gate.gNode = true) (holds : gate.holds = true) :
    gate.expect = tNodeCfmWithRb ∨ gate.expect = tNodeCfm ∨
      gate.expect = randNumRb ∨
        gate.expect = tNodeDhKey ∧ gate.consent = .used := by
  simpa [Gate.holds, auth, gNode, or_assoc] using holds

theorem holds_tNode (tNode : gate.gNode = false) (holds : gate.holds = true) :
    gate.expect = randNumRa ∨ gate.expect = gNodeDhKey ∧
        (gate.uapi = false → gate.consent = .given) := by
  have split : gate.expect = randNumRa ∨ gate.expect = gNodeDhKey ∧
        (gate.consent = .asked ∧ gate.uapi = true ∨ gate.consent = .given) := by
    simpa [Gate.holds, auth, tNode] using holds
  rcases split with ra | ⟨key, asked⟩
  · exact .inl ra
  · refine .inr ⟨key, ?_⟩
    intro off
    rcases asked with ⟨_, runs⟩ | given
    · rw [off] at runs
      cases runs
    · exact given

theorem passes_asks (tNode : gate.gNode = false) (free : gate.timer = false)
    (asks : gate.uapi = true ∨ env.uapiTimerAdd = true) :
    (Gate.waits env { gate with
        consent := .asked
        uapi := gate.uapi || env.uapiTimerAdd } gNodeDhKey).holds =
      true := by
  have runs : (gate.uapi || env.uapiTimerAdd) = true := by
    simpa using asks
  unfold Gate.waits
  simp only [free, Bool.false_eq_true, if_false, runs]
  simp [Gate.holds, auth, tNode]

end

theorem waits_free (free : gate.timer = false) :
    gate.waits env opcode =
      { gate with expect := opcode, timer := env.recvTimerAdd } := by
  simp [Gate.waits, free]

theorem waits_sent {sent : UInt16} (free : gate.timer = false) :
    (gate.sends sent).waits env opcode =
      { gate.sends sent with
        expect := opcode
        timer := env.recvTimerAdd } := by
  simp [Gate.waits, Gate.sends, free]

theorem holds_waiting {other : Gate} (auth : other.auth = true)
    (gNode : other.gNode = true) (expect : other.expect = tNodeCfmWithRb ∨
      other.expect = tNodeCfm ∨ other.expect = randNumRb) :
    other.holds = true := by
  rcases expect with equal | equal | equal
  all_goals simp [Gate.holds, auth, gNode, equal]

section

variable (auth : gate.auth = true) (free : gate.timer = false)
  (uapi : control.uapiTimerHandle = gate.uapi) (holds : gate.holds = true)
  (expected : opcode = gate.expect)
  (asks : opcode = randNumRa → ¬ pkg.length < 16 →
    gate.uapi = true ∨ env.uapiTimerAdd = true)
include auth free uapi holds expected asks

theorem passed_numCmp :
    Passed env chosen gate (Scripts.numCmp control opcode pkg) := by
  subst expected
  cases gNode : gate.gNode with
  | true =>
    rcases holds_gNode auth gNode holds with
      equal | equal | equal | ⟨equal, used⟩
    all_goals rw [equal]
    any_goals exact passed_idle holds
    · unfold Scripts.numCmp
      rw [if_pos rfl]
      split
      · exact passed_idle holds
      · apply passed_pair rfl
        exact holds_waiting auth gNode (.inl equal)
    · exact passed_checkT auth used holds
  | false =>
    rcases holds_tNode auth gNode holds with equal | ⟨equal, given⟩
    all_goals rw [equal]
    · unfold Scripts.numCmp
      rw [if_neg (by decide), if_pos rfl]
      split
      · exact passed_idle holds
      case isFalse long =>
        apply passed_pair rfl
        exact passes_asks auth gNode free (asks equal long)
    · exact passed_keepG auth uapi holds given

theorem passed_noEntry :
    Passed env chosen gate (Scripts.noEntry control opcode pkg) := by
  subst expected
  cases gNode : gate.gNode with
  | true =>
    rcases holds_gNode auth gNode holds with
      equal | equal | equal | ⟨equal, used⟩
    all_goals rw [equal]
    · exact passed_idle holds
    · apply passed_cons passed_nil
      have waits : ((gate.sends randNumRa).waits env
          randNumRb).holds = true := by
        rw [waits_sent free]
        exact holds_waiting auth gNode (.inr (.inr rfl))
      exact waits
    · unfold Scripts.noEntry
      rw [if_neg (by decide), if_neg (by decide), if_pos rfl]
      split
      · exact passed_idle holds
      · apply passed_cons passed_nil
        exact holds_waiting auth gNode (.inr (.inr equal))
    · exact passed_checkT auth used holds
  | false =>
    rcases holds_tNode auth gNode holds with equal | ⟨equal, given⟩
    all_goals rw [equal]
    · unfold Scripts.noEntry
      rw [if_neg (by decide), if_pos rfl]
      split
      · exact passed_idle holds
      case isFalse long =>
        apply passed_cons passed_nil
        have runs : (gate.uapi || env.uapiTimerAdd) = true := by
          simpa using asks equal long
        have waits : ({ (gate.sends randNumRb).waits env
            gNodeDhKey with
              consent := .asked
              uapi := ((gate.sends randNumRb).waits env
                gNodeDhKey).uapi || env.uapiTimerAdd } :
                  Gate).holds = true := by
          rw [waits_sent free]
          simp [Gate.holds, Gate.sends, auth, gNode, runs]
        exact waits
    · exact passed_keepG auth uapi holds given

end

theorem passed_startConfirmed {random : Bytes} {awaited first : UInt16}
    (auth : gate.auth = true) (free : gate.timer = false)
    (role : gate.gNode = decide (control.role = gNodeRole))
    (kind : awaited = tNodeCfmWithRb ∨ awaited = tNodeCfm)
    (plain : isCode first = false) :
    Passed env chosen gate
      (Scripts.startConfirmed values random control awaited first) := by
  unfold Scripts.startConfirmed
  split
  case isTrue gNode =>
    have now : gate.gNode = true := role.trans (decide_eq_true gNode)
    have waits : (gate.waits env awaited).holds = true := by
      rw [waits_free free]
      apply holds_waiting
      · exact auth
      · exact now
      · rcases kind with equal | equal
        · exact .inl equal
        · exact .inr (.inl equal)
    exact passed_cons passed_nil waits
  case isFalse tNode =>
    have now : gate.gNode = false := role.trans (decide_eq_false tNode)
    apply passed_pair rfl
    have waits : ((gate.sends first).waits env randNumRa).holds =
        true := by
      rw [waits_sent free]
      simp [Gate.holds, Gate.sends, auth, now]
    simp only [Gate.passes, Gate.allows, Gate.exec, plain]
    simpa using waits

theorem passed_authenticate (ready : gate.ready = true)
    (nego : gate.auth = false) (free : gate.timer = false)
    (picked : SLink.getAuthPkgDispatcher control.authMethod = chosen)
    (role : gate.gNode = decide (control.role = gNodeRole)) :
    Passed env chosen gate (Scripts.authenticate env values control) := by
  have starts : ∀ rest, gate.passes env chosen ([Act.authenticate] ++ rest) =
      if chosen.any Dispatcher.defers then
        ({ gate with auth := true, method := chosen } : Gate).passes env
          chosen rest
      else true := by
    intro rest
    simp only [cons_append, nil_append, Gate.passes, nego, Gate.allows, ready,
      Gate.exec, Bool.false_eq_true, and_false, if_false, Bool.true_and]
    cases chosen.any Dispatcher.defers with
    | true | false => rfl
  unfold Scripts.authenticate
  rw [picked]
  cases defers : chosen.any Dispatcher.defers with
  | false =>
    refine forall_mem_map.mpr fun rest _ => ?_
    have free := starts rest
    rw [defers] at free
    exact free
  | true =>
    have follows : ∀ rest, gate.passes env chosen ([Act.authenticate] ++ rest) =
          ({ gate with auth := true, method := chosen } : Gate).passes env
            chosen rest := by
      intro rest
      rw [starts, if_pos defers]
    apply passed_map _ _ follows
    cases chosen with
    | none => cases defers
    | some method =>
      cases method with
      | numCmp =>
        unfold Scripts.start
        cases env.randNum with
        | none => exact passed_fail
        | some random =>
          exact passed_startConfirmed rfl free role (.inl rfl) rfl
      | noEntry =>
        unfold Scripts.start
        cases env.randNum with
        | none => exact passed_fail
        | some random =>
          exact passed_startConfirmed rfl free role (.inr rfl) rfl
      | _ => cases defers

@[grind =] def Act.calm : Act → Bool
  | .prompt | .authenticate | .succeed => false
  | .send opcode | .attempt opcode | .exchange opcode _ => !isCode opcode
  | .note (.handed _) => true
  | .note _ => false
  | _ => true

theorem exec_calm (env : Env) (chosen : Option Dispatcher) {act : Act}
    (nego : gate.auth = false)
    (unasked : gate.consent = .unasked) (calm : act.calm = true) :
    gate.allows act = true ∧ (gate.exec env chosen act = none ∨
        ∃ next, gate.exec env chosen act = some next ∧
          next.auth = false ∧ next.consent = .unasked) := by
  have sends : ∀ {opcode : UInt16}, (!isCode opcode) = true →
      (gate.sends opcode).consent = .unasked := by
    intro opcode plain
    have code : isCode opcode = false := by simpa using plain
    simp [Gate.sends, Consent.next, code, unasked]
  have waits : ∀ (other : Gate) (opcode : UInt16),
      (other.waits env opcode).auth = other.auth ∧
        (other.waits env opcode).consent = other.consent := by
    intro other opcode
    unfold Gate.waits
    split <;> exact ⟨rfl, rfl⟩
  have allowed : ∀ {opcode : UInt16}, (!isCode opcode) = true →
      (!isCode opcode || decide (gate.consent = .given)) = true := by
    intro opcode plain
    rw [plain]
    rfl
  cases act with
  | send | attempt => exact ⟨allowed calm, .inr ⟨_, rfl, nego, sends calm⟩⟩
  | exchange opcode reply =>
    obtain ⟨auth, consent⟩ := waits (gate.sends opcode) reply
    exact ⟨allowed calm, .inr ⟨_, rfl, auth.trans nego,
      consent.trans (sends calm)⟩⟩
  | wait opcode =>
    obtain ⟨auth, consent⟩ := waits gate opcode
    exact ⟨rfl, .inr ⟨_, rfl, auth.trans nego, consent.trans unasked⟩⟩
  | note entry =>
    cases entry with
    | handed opcode => exact ⟨rfl, .inr ⟨_, rfl, nego, unasked⟩⟩
    | _ => cases calm
  | fail | external | expire => exact ⟨rfl, .inl rfl⟩
  | prompt | authenticate | succeed => cases calm
  | _ => exact ⟨rfl, .inr ⟨_, rfl, nego, unasked⟩⟩

section

variable (nego : gate.auth = false) (unasked : gate.consent = .unasked)
include nego unasked

theorem passes_calm (calm : ∀ act ∈ script, act.calm = true) :
    gate.passes env chosen script = true := by
  induction script generalizing gate with
  | nil => simp [Gate.passes, Gate.holds, nego, unasked]
  | cons act rest hypothesis =>
    have behind : ∀ other ∈ rest, other.calm = true :=
      fun other found => calm other (.tail _ found)
    obtain ⟨allowed, stepped⟩ := exec_calm env chosen nego unasked
      (calm act (mem_cons_self ..))
    unfold Gate.passes
    rw [if_neg (by simp [nego]), allowed]
    rcases stepped with ended | ⟨next, equal, still, same⟩
    · rw [ended]
      rfl
    · rw [equal]
      exact hypothesis still same behind

theorem passed_calm (calm : ∀ script ∈ scripts, ∀ act ∈ script, act.calm = true)
    :
    Passed env chosen gate scripts :=
  fun script listed => passes_calm nego unasked (calm script listed)

end

theorem passed_nego (ready : gate.ready = true) (nego : gate.auth = false)
    (unasked : gate.consent = .unasked) (free : gate.timer = false)
    (picked : SLink.getAuthPkgDispatcher control.authMethod = chosen)
    (role : gate.gNode = decide (control.role = gNodeRole)) :
    Passed env chosen gate (Scripts.nego env values control opcode pkg) := by
  have idle : Passed env chosen gate [[]] :=
    passed_calm nego unasked (by simp)
  have authenticates : Passed env chosen gate
      (Scripts.authenticate env values control) :=
    passed_authenticate ready nego free picked role
  have answered : Passed env chosen gate
      ((Scripts.authenticate env values control).map
        ([Act.attempt pairingInitInfo] ++ ·)) := by
    apply passed_map _ _ (fun _ => rfl)
    exact passed_authenticate ready nego free picked role
  have failed : Passed env chosen gate
      ((Scripts.authenticate env values control).map ([Act.fail] ++ ·)) := by
    refine forall_mem_map.mpr fun rest _ => ?_
    rfl
  unfold Scripts.nego
  split_ifs
  any_goals exact idle
  · exact passed_calm nego unasked (by decide)
  · exact passed_calm nego unasked (by simp [Act.calm, isCode]; decide)
  · exact passed_calm nego unasked (by simp [Act.calm, isCode]; decide)
  · exact passed_cons answered rfl
  · exact passed_cons failed rfl
  · exact authenticates

end Passed

end NearLink.Sm
