import NearLink.Sm.Watch

/-!
# The order of a pairing

Each role and method prescribes which packets a node takes, and in which order.
The record says what an attempt has handed to its packet handlers so far.  The
code keeps only the opcode that it expects next, which stands until another
wait is armed.  A step that goes on with a freed link is read with its record
intact.
-/

namespace NearLink.Sm

open Sdf Cm Transition Scripts Opcode Option Control
open List hiding getElem?_eq_some_iff

def Dispatcher.messagesT : Dispatcher → List UInt16
  | .nego => []
  | .numCmp | .passCode | .passWord | .oob => [tNodeCfmWithRb, tNodeDhKey]
  | .noEntry => [tNodeCfm, randNumRb, tNodeDhKey]
  | .psk => [randNumRb, tNodeCfm, tNodeDhKey]

def Dispatcher.messagesG : Dispatcher → List UInt16
  | .nego => []
  | .numCmp | .noEntry => [randNumRa, gNodeDhKey]
  | .passCode | .passWord | .oob => [gNodeCfmWithRa, gNodeDhKey]
  | .psk => [randNumRa, gNodeCfm, gNodeDhKey]

/-- The packets that a node takes, where a method is chosen with those of the
method.  A G node may be asked to begin first. -/
def prescribed (gNode : Bool) (method : Option Dispatcher) : List UInt16 :=
  if gNode then
    [pairingResponse, pairingInitInfo] ++
      (method.map Dispatcher.messagesT).getD []
  else
    [pairingRequest, pairingConfirm] ++
      (method.map Dispatcher.messagesG).getD []

structure Attempt where
  gNode : Bool
  method : Option Dispatcher := none
  handed : List UInt16 := []

namespace Attempt

def orderly (attempt : Attempt) : Bool :=
  attempt.handed.isPrefixOf (prescribed attempt.gNode attempt.method) ||
    attempt.gNode && attempt.handed.isPrefixOf
      (pairingStart :: prescribed attempt.gNode attempt.method)

def take (attempt : Attempt) (opcode : UInt16) : Attempt :=
  { attempt with handed := attempt.handed ++ [opcode] }

def next (attempt : Option Attempt) : Note → Option Attempt
  | .created | .entered _ => none
  | .negotiates role => some { gNode := role = gNodeRole }
  | .authenticates method =>
    attempt.map fun attempt => { attempt with method := method }
  | .handed opcode => attempt.map (·.take opcode)
  | .posted | .sent _ | .waits _ | .asks | .prompted | .confirmed
  | .reported _ => attempt

end Attempt

def attempt (log : List Note) : Option Attempt :=
  log.foldl Attempt.next none

theorem attempt_concat (log : List Note) (entry : Note) :
    attempt (log ++ [entry]) = Attempt.next (attempt log) entry := by
  unfold attempt
  rw [foldl_append]
  rfl

def InOrder (before : List Note) : Note → Prop
  | .handed opcode =>
    ∀ current ∈ attempt before, (current.take opcode).orderly = true
  | _ => True

/-- No packet was handed over since the expected opcode was set. -/
def awaits (log : List Note) : Bool :=
  log.foldl (fun awaited entry =>
      match entry with
      | .negotiates _ | .waits _ => true
      | .handed _ => false
      | _ => awaited) false

theorem awaits_concat (log : List Note) (entry : Note) :
    awaits (log ++ [entry]) =
      match entry with
      | .negotiates _ | .waits _ => true
      | .handed _ => false
      | _ => awaits log := by
  unfold awaits
  rw [foldl_append]
  rfl

def carried (opcode : UInt16) : List Field :=
  if opcode = tNodeCfmWithRb then [.tConfirm, .rb]
  else if opcode = tNodeCfm then [.tConfirm]
  else if opcode = randNumRb then [.rb]
  else if opcode = gNodeCfmWithRa then [.gConfirm, .ra]
  else if opcode = gNodeCfm then [.gConfirm]
  else if opcode = randNumRa then [.ra]
  else []

def Control.value (control : Control) : Field → Bytes
  | .ra => control.ra
  | .rb => control.rb
  | .gConfirm => control.gConfirm
  | .tConfirm => control.tConfirm

def Script.spares (kept : List Field) (script : Script) : Bool :=
  script.all fun act =>
    match act with
    | .store field _ => !kept.contains field
    | _ => true

namespace Control

variable {env : Env} {control : Control} {field : Field} {act : Act}
  {script : Script} {log : List Note} {entry : Note}

@[simp] theorem value_note (entry : Note) (field : Field) :
    (control.note entry).value field = control.value field := by
  cases field <;> rfl

theorem value_store {stored : Field} (other : field ≠ stored) (bytes : Bytes) :
    (control.store bytes stored).value field = control.value field := by
  cases stored <;> cases field <;> first | rfl | exact absurd rfl other

@[simp] theorem value_internalError (field : Field) :
    (control.internalError env).value field = control.value field := by
  unfold internalError
  cases control.state <;> cases field <;> rfl

@[simp] theorem value_externalError (field : Field) :
    (control.externalError env).value field = control.value field := by
  unfold externalError
  cases control.state <;> cases field <;> rfl

@[simp] theorem value_waitExpectOpCode (opcode : UInt16) (field : Field) :
    (control.waitExpectOpCode env opcode).value field =
      control.value field := by
  unfold waitExpectOpCode
  split <;> cases field <;> rfl

theorem value_enterEncp (field : Field) :
    (control.enterEncp env).value field = control.value field := by
  unfold enterEncp
  split_ifs <;> cases field <;> rfl

theorem value_exec (spared : ∀ bytes, act ≠ .store field bytes) :
    (control.exec env act).value field = control.value field := by
  cases act with
  | store stored bytes =>
    apply value_store
    intro same
    exact spared bytes (by rw [same])
  | fail => exact value_internalError field
  | external | expire => exact value_externalError field
  | send | attempt =>
    simp only [exec]
    split
    · exact value_note _ field
    · exact value_internalError field
  | exchange opcode reply =>
    simp only [exec]
    split
    · rw [value_waitExpectOpCode]
      exact value_note _ field
    · exact value_internalError field
  | wait opcode => exact value_waitExpectOpCode opcode field
  | ask =>
    simp only [exec, waitUapiInput]
    split <;> cases field <;> rfl
  | authenticate =>
    simp only [exec, negoSuccess]
    cases control.state <;> cases field <;> rfl
  | succeed =>
    simp only [exec, authSuccess]
    cases control.state with
    | auth =>
      rw [value_enterEncp]
      cases field <;> rfl
    | _ => cases field <;> rfl
  | encp => exact value_enterEncp field
  | _ => cases field <;> rfl

theorem value_run {kept : List Field} (spares : script.spares kept = true)
    (found : field ∈ kept) :
    (control.run env script).value field = control.value field := by
  have keeps : ∀ act ∈ script, ∀ other : Control,
      other.value field = control.value field →
        (other.exec env act).value field = control.value field := by
    intro act listed other same
    rw [← same]
    apply value_exec
    intro bytes equal
    have spared := all_eq_true.mp spares act listed
    rw [equal] at spared
    simp [found] at spared
  exact run_of keeps rfl

structure Ended (control : Control) : Prop where
  state : ¬ control.state.Pairing
  method : control.authMethod ≤ 5
  quiet : attempt control.log = none
  log : Throughout InOrder control.log

theorem inOrder_over (quiet : attempt log = none) (entry : Note) :
    InOrder log entry := by
  cases entry with
  | handed opcode =>
    intro current found
    rw [quiet] at found
    cases found
  | _ => trivial

theorem throughout_plain (throughout : Throughout InOrder log)
    (plain : InOrder log entry) : Throughout InOrder (log ++ [entry]) :=
  throughout_concat.mpr ⟨throughout, plain⟩

section

variable (closed : control.Ended) (stays : Attempt.next none entry = none)
include closed stays

theorem Ended.noted :
    attempt (control.log ++ [entry]) = none ∧
      Throughout InOrder (control.log ++ [entry]) := by
  refine ⟨?_, throughout_plain closed.log (inOrder_over closed.quiet _)⟩
  rw [attempt_concat, closed.quiet]
  exact stays

theorem Ended.note : (control.note entry).Ended := by
  obtain ⟨quiet, log⟩ := closed.noted stays
  exact ⟨closed.state, closed.method, quiet, log⟩

end

theorem ended_enterRemv (log : Throughout InOrder control.log)
    (valid : control.authMethod ≤ 5) : (control.enterRemv env).Ended :=
  ⟨by simp [State.Pairing, Control.enterRemv], valid,
    attempt_concat control.log _, throughout_plain log trivial⟩

theorem ended_failed (log : Throughout InOrder control.log)
    (valid : control.authMethod ≤ 5) {status : PairStatus} :
    (((control.note .posted).note (.reported status)).enterRemv env).Ended := by
  have posted : Throughout InOrder (control.note .posted).log :=
    throughout_plain log trivial
  have reported : Throughout InOrder
      ((control.note .posted).note (.reported status)).log :=
    throughout_plain posted trivial
  exact ended_enterRemv reported valid

section

variable (closed : control.Ended)
include closed

theorem Ended.internalError : (control.internalError env).Ended := by
  have posted : (control.note .posted).Ended := closed.note rfl
  unfold Control.internalError
  cases control.state with
  | init => exact ended_enterRemv posted.log posted.method
  | nego | auth => exact ended_failed closed.log closed.method
  | _ => exact posted

theorem Ended.externalError : (control.externalError env).Ended := by
  have posted : (control.note .posted).Ended := closed.note rfl
  unfold Control.externalError
  cases control.state with
  | nego | auth => exact ended_failed closed.log closed.method
  | _ => exact posted

theorem Ended.sent (opcode : UInt16) : (control.sent opcode).Ended :=
  closed.note rfl

theorem Ended.waitExpectOpCode (opcode : UInt16) :
    (control.waitExpectOpCode env opcode).Ended := by
  have waits : Attempt.next none (.waits opcode) = none := rfl
  unfold Control.waitExpectOpCode
  split
  · exact closed
  · obtain ⟨quiet, log⟩ := closed.noted waits
    exact ⟨closed.state, closed.method, quiet, log⟩

end

theorem closed_enterEncp (log : Throughout InOrder control.log)
    (valid : control.authMethod ≤ 5) : (control.enterEncp env).Ended := by
  have entered : ({ control.note (.entered .encp) with
      state := .encp } : Control).Ended :=
    ⟨by simp [State.Pairing], valid, attempt_concat control.log _,
      throughout_plain log trivial⟩
  unfold Control.enterEncp
  split_ifs
  any_goals exact entered
  exact entered.note rfl

theorem Ended.exec (closed : control.Ended) (ordinary : act.ordinary = true) :
    (control.exec env act).Ended := by
  have ⟨state, method, quiet, log⟩ := closed
  have posted : (control.note .posted).Ended := closed.note rfl
  cases act with
  | store field value => cases field <;> exact { closed with }
  | method authMethod => exact ⟨state, of_decide_eq_true ordinary, quiet, log⟩
  | fail => exact closed.internalError
  | external | expire => exact closed.externalError
  | send opcode | attempt opcode =>
    simp only [Control.exec]
    split
    · exact closed.sent opcode
    · exact closed.internalError
  | exchange opcode reply =>
    simp only [Control.exec]
    split
    · exact (closed.sent opcode).waitExpectOpCode reply
    · exact closed.internalError
  | wait opcode => exact closed.waitExpectOpCode opcode
  | prompt => exact closed.note rfl
  | ask =>
    have asks : Attempt.next none .asks = none := rfl
    simp only [Control.exec, Control.waitUapiInput]
    split
    · exact closed
    · obtain ⟨still, logged⟩ := closed.noted asks
      exact ⟨state, method, still, logged⟩
  | authenticate =>
    simp only [Control.exec, Control.negoSuccess]
    cases now : control.state with
    | nego => exact absurd (.inl now) state
    | _ => exact posted
  | succeed =>
    simp only [Control.exec, Control.authSuccess]
    cases now : control.state with
    | auth => exact absurd (.inr now) state
    | _ => exact posted
  | note entry =>
    apply closed.note
    cases entry with
    | created | negotiates | entered | reported => cases ordinary
    | _ => rfl
  | report | leave | negotiate | miss | encp | full => cases ordinary
  | _ => exact { closed with }

theorem Ended.run (closed : control.Ended)
    (ordinary : ∀ act ∈ script, act.ordinary = true) :
    (control.run env script).Ended :=
  run_of (fun act found _ holds => holds.exec (ordinary act found)) closed

end Control

/-- How far an attempt has come.  There is no method before `AUTH`. -/
structure Stage where
  gNode : Bool
  method : Option Dispatcher
  /-- `PAIRING_START` was handed over. -/
  begun : Bool
  count : Nat
  awaits : Bool
  expect : UInt16
  timer : Bool
  ready : Bool

namespace Stage

def line (stage : Stage) : List UInt16 := prescribed stage.gNode stage.method

def handed (stage : Stage) : List UInt16 :=
  (if stage.begun then [pairingStart] else []) ++
    stage.line.take stage.count

def turn (stage : Stage) (opcode : UInt16) : Bool :=
  stage.line[stage.count]? = some opcode ||
    (stage.gNode && !stage.begun && stage.count = 0 && opcode = pairingStart)

def last (stage : Stage) : Option UInt16 :=
  match stage.count with
  | 0 => if stage.begun then some pairingStart else none
  | before + 1 => stage.line[before]?

/-- Between two events, the packet that is expected is the next one, or the
last one. -/
def rests (stage : Stage) : Bool :=
  if stage.awaits then stage.turn stage.expect
  else stage.last = some stage.expect

def takes (stage : Stage) (opcode : UInt16) : Stage :=
  if stage.line[stage.count]? = some opcode then
    { stage with count := stage.count + 1, awaits := false }
  else { stage with begun := true, awaits := false }

def waits (env : Env) (stage : Stage) (opcode : UInt16) : Stage :=
  if stage.timer then stage
  else
    { stage with
      expect := opcode
      awaits := true
      timer := env.recvTimerAdd }

@[grind =] def allows (stage : Stage) : Act → Bool
  | .authenticate => stage.ready
  | .note (.handed opcode) => stage.turn opcode
  | .bind .. | .note (.waits _) | .note (.authenticates _) => false
  | _ => true

@[grind =] def exec (env : Env) (chosen : Option Dispatcher) (stage : Stage) :
    Act → Option Stage
  | .authenticate => some { stage with method := chosen }
  | .succeed => if stage.method.isSome then none else some stage
  | .delTimer => some { stage with timer := false }
  | .fail | .external | .expire => none
  | .exchange _ reply => some (stage.waits env reply)
  | .wait opcode => some (stage.waits env opcode)
  | .note (.handed opcode) => some (stage.takes opcode)
  | .method _ => some { stage with ready := false }
  | _ => some stage

/-- A script hands over what is next, and leaves the link waiting for what is
next. -/
@[grind =] def follows (env : Env) (chosen : Option Dispatcher) (stage : Stage) :
    Script → Bool
  | [] => stage.rests
  | act :: rest =>
    if act = .authenticate ∧ stage.method.isSome = true then stage.rests
    else
      stage.allows act &&
        match stage.exec env chosen act with
        | none => true
        | some next => follows env chosen next rest

structure Fits (chosen : Option Dispatcher) (stage : Stage)
    (control : Control) : Prop where
  state : control.state = if stage.method.isSome then .auth else .nego
  dispatcher : control.dispatcher = some (stage.method.getD .nego)
  auth : ∀ method ∈ stage.method, method ≠ .nego
  begun : stage.begun = true → stage.gNode = true
  role : stage.gNode = decide (control.role = gNodeRole)
  bounded : stage.count ≤ stage.line.length
  attempt : Sm.attempt control.log =
    some ⟨stage.gNode, stage.method, stage.handed⟩
  awaits : Sm.awaits control.log = stage.awaits
  expect : control.expectOpCode = stage.expect
  timer : control.timerHandle = stage.timer
  authMethod : control.authMethod ≤ 5
  ready : stage.ready = true →
    chosen = SLink.getAuthPkgDispatcher control.authMethod
  log : Throughout InOrder control.log

variable {env : Env} {chosen : Option Dispatcher} {stage : Stage}
  {control : Control} {opcode : UInt16}

theorem Fits.failed (fits : stage.Fits chosen control) :
    (control.internalError env).Ended := by
  have state := fits.state
  unfold Control.internalError
  cases now : stage.method.isSome with
  | true | false =>
    rw [now] at state
    rw [state]
    exact ended_failed fits.log fits.authMethod

theorem Fits.refused (fits : stage.Fits chosen control) :
    (control.externalError env).Ended := by
  have state := fits.state
  unfold Control.externalError
  cases now : stage.method.isSome with
  | true | false =>
    rw [now] at state
    rw [state]
    exact ended_failed fits.log fits.authMethod

/-- A note that neither the attempt nor the awaited packet depends on. -/
def passing : Note → Bool
  | .posted | .sent _ | .asks | .prompted | .confirmed | .reported _ => true
  | .created | .negotiates _ | .authenticates _ | .entered _ | .handed _
  | .waits _ => false

theorem Fits.pass (fits : stage.Fits chosen control) {entry : Note}
    (passes : passing entry = true) :
    stage.Fits chosen (control.note entry) := by
  have attempted : Sm.attempt (control.log ++ [entry]) =
      some ⟨stage.gNode, stage.method, stage.handed⟩ := by
    rw [attempt_concat, fits.attempt]
    cases entry <;> first | rfl | cases passes
  have awaited : Sm.awaits (control.log ++ [entry]) =
      stage.awaits := by
    rw [awaits_concat, fits.awaits]
    cases entry <;> first | rfl | cases passes
  have quiet : InOrder control.log entry := by
    cases entry with
    | handed opcode => cases passes
    | _ => trivial
  exact { fits with
    attempt := attempted
    awaits := awaited
    log := throughout_plain fits.log quiet }

theorem handed_takes (due : stage.turn opcode = true) :
    (stage.takes opcode).handed = stage.handed ++ [opcode] := by
  unfold takes
  split
  case isTrue next =>
    show _ ++ stage.line.take (stage.count + 1) = _
    rw [take_add_one, next]
    simp [handed]
  case isFalse other =>
    have start : (stage.gNode && !stage.begun && decide (stage.count = 0) &&
        decide (opcode = pairingStart)) = true := by
      simpa [turn, other] using due
    simp only [Bool.and_eq_true, Bool.not_eq_true', decide_eq_true_eq] at start
    obtain ⟨⟨⟨_, fresh⟩, zero⟩, first⟩ := start
    show [pairingStart] ++ stage.line.take stage.count = _
    simp [handed, fresh, zero, first]

theorem orderly_handed (stage : Stage)
    (asked : stage.begun = true → stage.gNode = true) :
    (⟨stage.gNode, stage.method, stage.handed⟩ : Attempt).orderly = true := by
  have part : stage.line.take stage.count <+: stage.line :=
    take_prefix ..
  unfold Attempt.orderly
  cases started : stage.begun with
  | false =>
    have whole : stage.handed <+: stage.line := by
      simpa [handed, started] using part
    have found : stage.handed.isPrefixOf
        (prescribed stage.gNode stage.method) = true :=
      isPrefixOf_iff_prefix.mpr whole
    rw [found, Bool.true_or]
  | true =>
    have whole : stage.handed <+: pairingStart :: stage.line := by
      simpa [handed, started] using part
    have found : stage.handed.isPrefixOf
        (pairingStart :: prescribed stage.gNode stage.method) =
          true := isPrefixOf_iff_prefix.mpr whole
    rw [found, asked started, Bool.and_true, Bool.or_true]

theorem Fits.takes (fits : stage.Fits chosen control)
    (due : stage.turn opcode = true) :
    (stage.takes opcode).Fits chosen (control.note (.handed opcode)) := by
  have handed := handed_takes due
  have attempted : Sm.attempt (control.log ++ [Note.handed opcode]) =
      some ⟨stage.gNode, stage.method, (stage.takes opcode).handed⟩ := by
    rw [attempt_concat, fits.attempt, handed]
    rfl
  have awaited : Sm.awaits (control.log ++ [Note.handed opcode]) =
      false := awaits_concat control.log _
  have begun : (stage.takes opcode).begun = true →
      (stage.takes opcode).gNode = true := by
    unfold Stage.takes
    split
    · exact fits.begun
    case isFalse other =>
      intro _
      have start : (stage.gNode && !stage.begun &&
          decide (stage.count = 0) &&
            decide (opcode = pairingStart)) = true := by
        simpa [turn, other] using due
      simp only [Bool.and_eq_true] at start
      exact start.1.1.1
  have bounded : (stage.takes opcode).count ≤ stage.line.length := by
    unfold Stage.takes
    split
    case isTrue next =>
      obtain ⟨inside, _⟩ := getElem?_eq_some_iff.mp next
      exact inside
    case isFalse _ => exact fits.bounded
  have quiet : InOrder control.log (.handed opcode) := by
    intro current found
    rw [fits.attempt] at found
    cases found
    have orderly := orderly_handed (stage.takes opcode) begun
    rw [handed] at orderly
    have same : (stage.takes opcode).gNode = stage.gNode ∧
        (stage.takes opcode).method = stage.method := by
      unfold Stage.takes
      split <;> exact ⟨rfl, rfl⟩
    rw [same.1, same.2] at orderly
    exact orderly
  have throughout := throughout_plain fits.log quiet
  unfold Stage.takes at attempted begun bounded ⊢
  split
  case isTrue next =>
    rw [if_pos next] at attempted begun bounded
    exact { fits with
      begun, bounded
      attempt := attempted
      awaits := awaited
      log := throughout }
  case isFalse other =>
    rw [if_neg other] at attempted begun bounded
    exact { fits with
      begun, bounded
      attempt := attempted
      awaits := awaited
      log := throughout }

theorem Fits.waits (fits : stage.Fits chosen control) (opcode : UInt16) :
    (stage.waits env opcode).Fits chosen
      (control.waitExpectOpCode env opcode) := by
  have attempted : Sm.attempt (control.log ++ [Note.waits opcode]) =
      some ⟨stage.gNode, stage.method, stage.handed⟩ := by
    rw [attempt_concat, fits.attempt]
    rfl
  have awaited : Sm.awaits (control.log ++ [Note.waits opcode]) =
      true := awaits_concat control.log _
  unfold Stage.waits Control.waitExpectOpCode
  rw [fits.timer]
  cases stage.timer with
  | true => exact fits
  | false =>
    exact { fits with
      attempt := attempted
      awaits := awaited
      expect := rfl
      timer := rfl
      log := throughout_plain fits.log trivial }

theorem prescribed_prefix (gNode : Bool) (method : Option Dispatcher) :
    prescribed gNode none <+: prescribed gNode method := by
  cases gNode with
  | true => exact ⟨(method.map Dispatcher.messagesT).getD [], rfl⟩
  | false => exact ⟨(method.map Dispatcher.messagesG).getD [], rfl⟩

theorem Fits.authenticates (fits : stage.Fits chosen control)
    (nego : stage.method = none) (ready : stage.ready = true) :
    { stage with method := chosen }.Fits chosen control.negoSuccess := by
  have now : control.state = .nego := by
    rw [fits.state, nego]
    rfl
  have picked := fits.ready ready
  obtain ⟨method, found, auth⟩ := Watch.chosen_some fits.authMethod
  have equal : chosen = some method := picked.trans found
  have posted : stage.Fits chosen (control.note .posted) := fits.pass rfl
  obtain ⟨rest, longer⟩ := prescribed_prefix stage.gNode chosen
  have line : stage.line ++ rest = prescribed stage.gNode chosen := by
    rw [← longer, Stage.line, nego]
  have handed : stage.handed =
      ({ stage with method := chosen } : Stage).handed := by
    show _ ++ _ = _ ++ (prescribed stage.gNode chosen).take stage.count
    rw [← line, take_append_of_le_length fits.bounded]
  have attempted : Sm.attempt (control.log ++ [Note.posted] ++
      [Note.authenticates chosen]) = some ⟨stage.gNode, chosen,
        ({ stage with method := chosen } : Stage).handed⟩ := by
    rw [attempt_concat]
    refine (congrArg (Attempt.next · (.authenticates chosen))
      posted.attempt).trans ?_
    rw [handed]
    rfl
  have awaited : Sm.awaits (control.log ++ [Note.posted] ++
      [Note.authenticates chosen]) = stage.awaits := by
    rw [awaits_concat]
    exact posted.awaits
  have throughout : Throughout InOrder (control.log ++ [Note.posted] ++
      [Note.authenticates chosen]) :=
    throughout_plain posted.log trivial
  have bounded : stage.count ≤ (prescribed stage.gNode chosen).length := by
    rw [← line, length_append]
    exact Nat.le_add_right_of_le fits.bounded
  unfold Control.negoSuccess
  rw [now]
  rw [← picked]
  refine ⟨?_, ?_, ?_, fits.begun, fits.role, bounded, attempted, awaited,
    fits.expect, fits.timer, fits.authMethod, fits.ready, throughout⟩
  any_goals
    rw [equal]
    rfl
  intro other member
  rw [equal] at member
  cases member
  exact auth

theorem Fits.exec (fits : stage.Fits chosen control) {act : Act}
    (ordinary : act.ordinary = true) (allowed : stage.allows act = true)
    (starts : act = .authenticate → stage.method = none) :
    (control.exec env act).Ended ∨ control.goesOn env act = true ∧
        ∃ next, stage.exec env chosen act = some next ∧
          next.Fits chosen (control.exec env act) := by
  have ⟨state, dispatcher, auth, begun, role, bounded, attempted, awaits,
    expect, timer, valid, ready, log⟩ := fits
  have sent : ∀ opcode, stage.Fits chosen (control.sent opcode) :=
    fun opcode => fits.pass rfl
  cases act with
  | store field value =>
    refine .inr ⟨rfl, stage, rfl, ?_⟩
    cases field <;>
      exact { fits with }
  | fail => exact .inl fits.failed
  | external | expire => exact .inl fits.refused
  | send opcode =>
    simp only [Control.exec]
    split
    case isTrue accepted => exact .inr ⟨accepted, stage, rfl, sent opcode⟩
    case isFalse _ => exact .inl fits.failed
  | attempt opcode =>
    simp only [Control.exec]
    split
    · exact .inr ⟨rfl, stage, rfl, sent opcode⟩
    · exact .inl fits.failed
  | exchange opcode reply =>
    simp only [Control.exec]
    split
    · exact .inr ⟨rfl, _, rfl, (sent opcode).waits reply⟩
    · exact .inl fits.failed
  | wait opcode => exact .inr ⟨rfl, _, rfl, fits.waits opcode⟩
  | prompt => exact .inr ⟨rfl, stage, rfl, fits.pass rfl⟩
  | ask =>
    have noted : stage.Fits chosen (control.note .asks) := fits.pass rfl
    refine .inr ⟨rfl, stage, rfl, ?_⟩
    simp only [Control.exec, Control.waitUapiInput]
    split
    · exact fits
    · exact { noted with }
  | authenticate =>
    have nego := starts rfl
    have goes : control.goesOn env .authenticate = true := by
      simp [Control.goesOn, state, nego]
    exact .inr ⟨goes, _, rfl, fits.authenticates nego allowed⟩
  | succeed =>
    have posted : stage.Fits chosen (control.note .posted) :=
      fits.pass rfl
    cases now : stage.method.isSome with
    | true =>
      have equal : control.state = .auth := by
        rw [state, now]
        rfl
      have reported : Throughout InOrder
          ((control.note .posted).note (.reported .ok)).log :=
        throughout_plain posted.log trivial
      simp only [Control.exec, Control.authSuccess, equal]
      exact .inl (closed_enterEncp reported valid)
    | false =>
      have equal : control.state = .nego := by
        rw [state, now]
        rfl
      refine .inr ⟨rfl, stage, by simp [Stage.exec, now], ?_⟩
      simp only [Control.exec, Control.authSuccess, equal]
      exact posted
  | method authMethod =>
    exact .inr ⟨rfl, _, rfl, { fits with
      authMethod := of_decide_eq_true ordinary
      ready := (absurd · Bool.false_ne_true) }⟩
  | delTimer => exact .inr ⟨rfl, _, rfl, { fits with timer := rfl }⟩
  | note entry =>
    cases entry with
    | handed opcode => exact .inr ⟨rfl, _, rfl, fits.takes allowed⟩
    | sent opcode => exact .inr ⟨rfl, stage, rfl, sent opcode⟩
    | posted | asks | prompted | confirmed =>
      exact .inr ⟨rfl, stage, rfl, fits.pass rfl⟩
    | waits | authenticates => cases allowed
    | created | negotiates | entered | reported => cases ordinary
  | bind lcid role => cases allowed
  | report | leave | negotiate | miss | encp | full => cases ordinary
  | _ => exact .inr ⟨rfl, stage, rfl, { fits with }⟩

end Stage

/-- A link without an attempt, or at a stage between two events. -/
def Control.Staged (control : Control) : Prop :=
  control.Ended ∨ ∃ stage : Stage, stage.ready = true ∧ stage.rests = true ∧
      stage.Fits (SLink.getAuthPkgDispatcher control.authMethod) control

namespace Stage

variable {env : Env} {chosen : Option Dispatcher} {stage : Stage}
  {control : Control}

theorem Fits.staged (fits : stage.Fits chosen control)
    (rests : stage.rests = true) : control.Staged :=
  .inr ⟨{ stage with ready := true }, rfl, rests,
    { fits with ready := fun _ => rfl }⟩

theorem Fits.run (fits : stage.Fits chosen control) {script : Script}
    (ordinary : ∀ act ∈ script, act.ordinary = true)
    (follows : stage.follows env chosen script = true) :
    (control.run env script).Staged := by
  induction script generalizing stage control with
  | nil => exact fits.staged follows
  | cons act rest hypothesis =>
    have behind : ∀ other ∈ rest, other.ordinary = true :=
      fun other found => ordinary other (.tail _ found)
    have first := ordinary act (mem_cons_self ..)
    unfold Stage.follows at follows
    split at follows
    case isTrue stops =>
      obtain ⟨rfl, auth⟩ := stops
      have now : control.state = .auth := by
        rw [fits.state, auth]
        rfl
      have posted : stage.Fits chosen (control.note .posted) :=
        fits.pass rfl
      simp only [Control.run, Control.goesOn, Control.exec,
        Control.negoSuccess, now]
      exact posted.staged follows
    case isFalse goes =>
      simp only [Bool.and_eq_true] at follows
      obtain ⟨allowed, next⟩ := follows
      have starts : act = .authenticate → stage.method = none := by
        intro found
        simpa [found] using goes
      have stepped : (control.exec env act).Ended ∨ _ :=
        fits.exec first allowed starts
      rcases stepped with closed | ⟨goesOn, after, stepped, later⟩
      · left
        unfold Control.run
        split
        · exact closed.run behind
        · exact closed
      · rw [stepped] at next
        unfold Control.run
        rw [if_pos goesOn]
        exact hypothesis later behind next

end Stage

def Stage.kept (stage : Stage) : List Field :=
  (stage.line.take stage.count).flatMap carried

def Followed (env : Env) (chosen : Option Dispatcher) (kept : List Field)
    (stage : Stage) (scripts : List Script) : Prop :=
  ∀ script ∈ scripts, stage.follows env chosen script = true ∧
    script.spares kept = true

section Followed

variable {env : Env} {values : Values} {control : Control}
  {opcode : UInt16} {pkg : Bytes} {chosen : Option Dispatcher}
  {kept : List Field} {stage : Stage} {scripts : List Script} {script : Script}

theorem followed_nil : Followed env chosen kept stage [] := by
  intro script listed
  cases listed

theorem followed_cons (followed : Followed env chosen kept stage scripts)
    (first : stage.follows env chosen script = true)
    (spares : script.spares kept = true) :
    Followed env chosen kept stage (script :: scripts) := by
  exact forall_mem_cons.mpr ⟨⟨first, spares⟩, followed⟩

theorem followed_one (first : stage.follows env chosen script = true)
    (spares : script.spares kept = true) :
    Followed env chosen kept stage [script] :=
  followed_cons followed_nil first spares

theorem followed_idle (rests : stage.rests = true) :
    Followed env chosen kept stage [[]] :=
  followed_one rests rfl

theorem followed_fail : Followed env chosen kept stage [[.fail]] :=
  followed_one rfl rfl

theorem followed_map (first : Script) (next : Stage)
    (before : ∀ rest, stage.follows env chosen (first ++ rest) =
      next.follows env chosen rest)
    (spares : first.spares kept = true)
    (followed : Followed env chosen kept next scripts) :
    Followed env chosen kept stage (scripts.map (first ++ ·)) := by
  refine forall_mem_map.mpr fun rest member => ?_
  obtain ⟨follows, spared⟩ := followed rest member
  constructor
  · rw [before]
    exact follows
  · unfold Script.spares at spares spared ⊢
    rw [all_append, spares, spared]
    rfl

section

variable (rests : stage.rests = true) {size : Nat}
include rests

theorem followed_short {length : Nat}
    (followed : Followed env chosen kept stage scripts) :
    Followed env chosen kept stage
      (if pkg.length < length then [[]] else scripts) := by
  split
  · exact followed_idle rests
  · exact followed

theorem follows_succeed : stage.follows env chosen [.succeed] = true := by
  have rest : ∀ next, (if stage.method.isSome then none else some stage) =
      some next → next.follows env chosen [] = true := by
    intro next same
    split at same <;> cases same
    · exact rests
  simp only [Stage.follows, Stage.allows, Stage.exec, reduceCtorEq,
    false_and, if_false, Bool.true_and]
  split
  · rfl
  case h_2 next same => exact rest next same

theorem followed_checkG :
    Followed env chosen kept stage (checkG size) := by
  unfold checkG
  split
  · exact followed_idle rests
  · exact followed_cons (followed_one (follows_succeed rests) rfl) rfl rfl

theorem followed_checkT :
    Followed env chosen kept stage (checkT size) := by
  unfold checkT
  split
  · exact followed_idle rests
  · exact followed_cons (followed_one (follows_succeed rests) rfl) rfl rfl

theorem followed_keepG :
    Followed env chosen kept stage (keepG control pkg) := by
  unfold keepG
  split
  · exact followed_one rests rfl
  · have flags : ∀ rest, stage.follows env chosen ([Act.flag false] ++ rest) =
        stage.follows env chosen rest := fun _ => rfl
    exact followed_map _ _ flags rfl (followed_checkG rests)

end

theorem rests_waits (env : Env) (rests : stage.rests = true)
    (due : stage.timer = false → stage.turn opcode = true) :
    (stage.waits env opcode).rests = true := by
  unfold Stage.waits
  cases timer : stage.timer with
  | true => exact rests
  | false => exact due timer

theorem followed_finishG (rests : stage.rests = true)
    (due : stage.timer = false → stage.turn tNodeDhKey = true) :
    Followed env chosen kept stage (finishG env) := by
  have waits := rests_waits env rests due
  apply followed_cons _ rfl rfl
  split
  · exact followed_one waits rfl
  · exact followed_one rfl rfl

theorem followed_answerG (rests : stage.rests = true)
    (due : stage.timer = false → stage.turn gNodeDhKey = true) :
    Followed env chosen kept stage answerG := by
  have waits := rests_waits env rests due
  apply followed_cons _ rfl rfl
  apply followed_cons _ rfl rfl
  exact followed_one waits rfl

theorem followed_setGPassCode (spares : .ra ∉ kept ∧ .gConfirm ∉ kept)
    (rests : stage.rests = true)
    (due : stage.timer = false → stage.turn tNodeCfmWithRb = true) :
    Followed env chosen kept stage (Scripts.setGPassCode env values) := by
  have waits := rests_waits env rests due
  unfold Scripts.setGPassCode
  cases env.randNum with
  | none => exact followed_fail
  | some random =>
    refine followed_cons (followed_one waits ?_) rfl ?_
    all_goals simp [Script.spares, spares]

theorem rests_takes (due : stage.turn opcode = true)
    (same : stage.expect = opcode) : (stage.takes opcode).rests = true := by
  unfold Stage.takes
  split
  case isTrue next =>
    show decide (stage.line[stage.count]? = some stage.expect) = true
    rw [next, same]
    exact decide_eq_true rfl
  case isFalse other =>
    have start : (stage.gNode && !stage.begun && decide (stage.count = 0) &&
        decide (opcode = pairingStart)) = true := by
      simpa [Stage.turn, other] using due
    simp only [Bool.and_eq_true, decide_eq_true_eq] at start
    simp [Stage.rests, Stage.last, start.1.2, same, start.2]

variable {method : Dispatcher}

theorem turn_cases (chosen : stage.method = some method)
    (due : stage.turn opcode = true) :
    opcode ∈ [pairingStart, pairingRequest, pairingResponse, pairingConfirm,
        pairingInitInfo] ∨
      ∃ index, stage.count = index + 2 ∧
        (if stage.gNode then method.messagesT else method.messagesG)[index]? =
          some opcode := by
  unfold Stage.turn Stage.line at due
  rw [chosen] at due
  cases side : stage.gNode with
  | true =>
    simp only [side, prescribed, map_some, getD_some, if_true] at due ⊢
    rcases count : stage.count with _ | _ | index
    · left
      simp [count] at due
      rcases due with rfl | ⟨_, rfl⟩ <;> simp
    · left
      simp [count] at due
      simp [← due]
    · right
      refine ⟨index, rfl, ?_⟩
      simpa [count] using due
  | false =>
    simp only [side, prescribed, map_some, getD_some,
      Bool.false_eq_true, if_false] at due ⊢
    rcases count : stage.count with _ | _ | index
    · left
      simp [count] at due
      simp [← due]
    · left
      simp [count] at due
      simp [← due]
    · right
      refine ⟨index, rfl, ?_⟩
      simpa [count] using due

theorem dispatch_negotiation (auth : method ≠ .nego)
    (found : opcode ∈ [pairingStart, pairingRequest,
      pairingResponse, pairingConfirm,
      pairingInitInfo]) :
    Scripts.dispatch env values control opcode pkg method = [[]] := by
  simp only [mem_cons, not_mem_nil, or_false] at found
  cases method with
  | nego => exact absurd rfl auth
  | _ => rcases found with rfl | rfl | rfl | rfl | rfl <;> rfl

def Stage.reached (gNode : Bool) (method : Dispatcher) (begun : Bool)
    (index : Nat) (expect : UInt16) (ready : Bool) : Stage :=
  { gNode := gNode
    method := some method
    begun := begun
    count := index + 2
    awaits := false
    expect := expect
    timer := false
    ready := ready }

/-- The message at this index of the method's. -/
def Due (gNode : Bool) (method : Dispatcher) (index : Nat) (opcode : UInt16) :
    Prop :=
  (if gNode then method.messagesT else method.messagesG)[index]? = some opcode

/-- `Followed` once the message at this index was handed over. -/
def FollowedAt (env : Env) (chosen : Option Dispatcher) (gNode : Bool)
    (method : Dispatcher) (begun ready : Bool) (index : Nat) (opcode : UInt16) :
    List Script → Prop :=
  Followed env chosen (Stage.reached gNode method begun index 0 true).kept
    (Stage.reached gNode method begun (index + 1) opcode ready)

variable {begun ready gNode : Bool} {index : Nat}

theorem followed_numCmp (message : Due gNode .numCmp index opcode) :
    FollowedAt env chosen gNode .numCmp begun ready index opcode
      (Scripts.numCmp control opcode pkg) := by
  cases gNode with
  | true =>
    rcases index with _ | _ | index <;> cases message
    · exact followed_short rfl (followed_cons (followed_one rfl rfl) rfl rfl)
    · exact followed_checkT rfl
  | false =>
    rcases index with _ | _ | index <;> cases message
    · exact followed_short rfl (followed_cons (followed_one rfl rfl) rfl rfl)
    · exact followed_keepG rfl

theorem followed_noEntry (message : Due gNode .noEntry index opcode) :
    FollowedAt env chosen gNode .noEntry begun ready index opcode
      (Scripts.noEntry control opcode pkg) := by
  cases gNode with
  | true =>
    rcases index with _ | _ | _ | index <;> cases message
    · exact followed_one rfl rfl
    · exact followed_short rfl (followed_one rfl rfl)
    · exact followed_checkT rfl
  | false =>
    rcases index with _ | _ | index <;> cases message
    · exact followed_short rfl (followed_one rfl rfl)
    · exact followed_keepG rfl

theorem followed_pass (kind : method = .passCode ∨ method = .passWord)
    (message : Due gNode method index opcode) :
    FollowedAt env chosen gNode method begun ready index opcode
      (Scripts.pass env control opcode pkg) := by
  rcases kind with rfl | rfl <;> cases gNode with
  | true =>
    rcases index with _ | _ | index <;> cases message
    · apply followed_short rfl
      exact followed_cons (followed_map _ _ (fun _ => rfl) rfl
        (followed_finishG rfl fun _ => rfl)) rfl rfl
    · exact followed_checkT rfl
  | false =>
    rcases index with _ | _ | index <;> cases message
    · apply followed_short rfl
      split
      · exact followed_one rfl rfl
      · exact followed_map _ _ (fun _ => rfl) rfl
          (followed_answerG rfl fun _ => rfl)
    · exact followed_checkG rfl

theorem followed_oob (message : Due gNode .oob index opcode) :
    FollowedAt env chosen gNode .oob begun ready index opcode
      (Scripts.oob env opcode pkg) := by
  cases gNode with
  | true =>
    rcases index with _ | _ | index <;> cases message
    · apply followed_short rfl
      exact followed_cons (followed_map _ _ (fun _ => rfl) rfl
        (followed_finishG rfl fun _ => rfl)) rfl rfl
    · exact followed_checkT rfl
  | false =>
    rcases index with _ | _ | index <;> cases message
    · apply followed_short rfl
      exact followed_cons (followed_cons (followed_one rfl rfl) rfl rfl) rfl rfl
    · exact followed_checkG rfl

theorem followed_psk (message : Due gNode .psk index opcode) :
    FollowedAt env chosen gNode .psk begun ready index opcode
      (Scripts.psk env values opcode pkg) := by
  cases gNode with
  | true =>
    rcases index with _ | _ | _ | index <;> cases message
    · exact followed_short rfl (followed_cons (followed_one rfl rfl) rfl rfl)
    · apply followed_short rfl
      exact followed_cons (followed_map [.store .tConfirm (slice pkg 0 16)]
        (Stage.reached true .psk begun 2 tNodeCfm ready) (fun _ => rfl) rfl
        (followed_finishG rfl fun _ => rfl)) rfl rfl
    · exact followed_checkT rfl
  | false =>
    rcases index with _ | _ | _ | index <;> cases message
    · exact followed_short rfl (followed_cons (followed_one rfl rfl) rfl rfl)
    · apply followed_short rfl
      exact followed_cons (followed_cons (followed_one rfl rfl) rfl rfl) rfl rfl
    · exact followed_checkG rfl

theorem followed_method (message : Due gNode method index opcode) :
    FollowedAt env chosen gNode method begun ready index opcode
      (Scripts.dispatch env values control opcode pkg method) := by
  cases method with
  | nego => cases gNode <;> cases message
  | numCmp => exact followed_numCmp message
  | noEntry => exact followed_noEntry message
  | passCode => exact followed_pass (.inl rfl) message
  | passWord => exact followed_pass (.inr rfl) message
  | oob => exact followed_oob message
  | psk => exact followed_psk message

/-! ### The negotiation -/

def Stage.started (gNode : Bool) (method : Dispatcher) (begun : Bool)
    (expect : UInt16) : Stage :=
  { gNode := gNode
    method := some method
    begun := begun
    count := 2
    awaits := false
    expect := expect
    timer := false
    ready := true }

theorem followed_startPassCode
    (gNode : (if control.role = gNodeRole then pairingInitInfo
      else pairingConfirm) = opcode) :
    Followed env chosen []
      (Stage.started (control.role = gNodeRole) .passCode begun opcode)
        (startPassCode env values control) := by
  subst gNode
  unfold startPassCode
  by_cases gNode : control.role = gNodeRole
  · rw [if_pos gNode, if_pos gNode, decide_eq_true gNode]
    refine followed_cons (followed_cons ?_ rfl rfl) rfl rfl
    exact followed_map [.prompt]
      (Stage.started true .passCode begun pairingInitInfo) (fun _ => rfl) rfl
      (followed_setGPassCode (by simp) rfl fun _ => rfl)
  · rw [if_neg gNode, if_neg gNode, decide_eq_false gNode]
    refine followed_cons (followed_cons ?_ rfl rfl) rfl rfl
    cases env.randNum with
    | none => exact followed_one rfl rfl
    | some random => exact followed_cons (followed_one rfl rfl) rfl rfl

theorem followed_startDrawn {random : Bytes} (drawn : method ≠ .passCode)
    (auth : method ≠ .nego)
    (gNode : (if control.role = gNodeRole then pairingInitInfo
      else pairingConfirm) = opcode) :
    Followed env chosen []
      (Stage.started (control.role = gNodeRole) method begun opcode)
        (startDrawn values control method random) := by
  subst gNode
  by_cases gNode : control.role = gNodeRole
  · cases method with
    | passCode => exact absurd rfl drawn
    | nego => exact absurd rfl auth
    | passWord | psk =>
      simp only [startDrawn, if_pos gNode, decide_eq_true gNode]
      exact followed_one rfl rfl
    | oob =>
      simp only [startDrawn, if_pos gNode, decide_eq_true gNode]
      exact followed_cons (followed_one rfl rfl) rfl rfl
    | _ =>
      simp only [startDrawn, Scripts.startConfirmed, if_pos gNode,
        decide_eq_true gNode]
      exact followed_one rfl rfl
  · cases method with
    | passCode => exact absurd rfl drawn
    | nego => exact absurd rfl auth
    | passWord | psk =>
      simp only [startDrawn, if_neg gNode, decide_eq_false gNode]
      exact followed_one rfl rfl
    | oob =>
      simp only [startDrawn, if_neg gNode, decide_eq_false gNode]
      exact followed_cons (followed_one rfl rfl) rfl rfl
    | _ =>
      simp only [startDrawn, Scripts.startConfirmed, if_neg gNode,
        decide_eq_false gNode]
      exact followed_cons (followed_one rfl rfl) rfl rfl

theorem followed_start (auth : method ≠ .nego)
    (gNode : (if control.role = gNodeRole then pairingInitInfo
      else pairingConfirm) = opcode) :
    Followed env chosen []
      (Stage.started (control.role = gNodeRole) method begun opcode)
        (Scripts.start env values control (some method)) := by
  by_cases other : method = .passCode
  · rw [other]
    exact followed_startPassCode gNode
  · rw [start_drawn auth other]
    cases env.randNum with
    | none => exact followed_fail
    | some random => exact followed_startDrawn other auth gNode

/-- The stage of a link in `NEGO` that has taken so many packets. -/
def Stage.negotiating (gNode begun : Bool) (count : Nat) (expect : UInt16) :
    Stage :=
  { gNode := gNode
    method := none
    begun := begun
    count := count
    awaits := false
    expect := expect
    timer := false
    ready := true }

section

variable (auth : method ≠ .nego)
  (picked : SLink.getAuthPkgDispatcher control.authMethod = some method)
include auth picked

theorem followed_authenticate
    (gNode : (if control.role = gNodeRole then pairingInitInfo
      else pairingConfirm) = opcode) :
    Followed env (some method) []
      (Stage.negotiating (control.role = gNodeRole) begun 2 opcode)
        (Scripts.authenticate env values control) := by
  unfold Scripts.authenticate
  rw [picked]
  exact followed_map [.authenticate]
    (Stage.started (control.role = gNodeRole) method begun opcode)
    (fun _ => rfl) rfl (followed_start auth gNode)

theorem followed_nego {count : Nat}
    (role : gNode = decide (control.role = gNodeRole))
    (message : (prescribed gNode none)[count]? = some opcode) :
    Followed env (some method) []
      (Stage.negotiating gNode begun (count + 1) opcode)
        (Scripts.nego env values control opcode pkg) := by
  cases gNode with
  | true =>
    have now := of_decide_eq_true role.symm
    rcases count with _ | _ | count <;> cases message
    · exact followed_short rfl
        (followed_cons (followed_cons (followed_one rfl rfl) rfl rfl)
          rfl rfl)
    · have authenticates : Followed env (some method) []
          (Stage.negotiating (control.role = gNodeRole) begun 2
            pairingInitInfo) (Scripts.authenticate env values control) :=
        followed_authenticate auth picked (if_pos now)
      rw [decide_eq_true now] at authenticates
      exact followed_short rfl authenticates
  | false =>
    have now := of_decide_eq_false role.symm
    rcases count with _ | _ | count <;> cases message
    · exact followed_short rfl
        (followed_cons (followed_cons (followed_one rfl rfl) rfl rfl)
          rfl rfl)
    · have authenticates : Followed env (some method) []
          (Stage.negotiating (control.role = gNodeRole) begun 2
            pairingConfirm) (Scripts.authenticate env values control) :=
        followed_authenticate auth picked (if_neg now)
      rw [decide_eq_false now] at authenticates
      apply followed_short rfl
      refine followed_cons ?_ rfl rfl
      split
      · exact followed_map [.attempt pairingInitInfo]
          (Stage.negotiating false begun 2 pairingConfirm) (fun _ => rfl)
          rfl authenticates
      · exact forall_mem_map.mpr fun rest member =>
          ⟨rfl, (authenticates rest member).2⟩

end

theorem followed_begin :
    Followed env chosen [] (Stage.negotiating true true 0 pairingStart)
      (Scripts.nego env values control pairingStart pkg) :=
  followed_short rfl (followed_one rfl rfl)

theorem followed_dispatch
    (fits : stage.Fits (SLink.getAuthPkgDispatcher control.authMethod) control)
    (ready : stage.ready = true) (rests : stage.rests = true)
    (awaited : stage.awaits = true) (expected : opcode = stage.expect)
    (looked : control.dispatcher = some method) :
    stage.turn opcode = true ∧
      Followed env (SLink.getAuthPkgDispatcher control.authMethod) stage.kept
        ({ stage with timer := false }.takes opcode)
          (Scripts.dispatch env values control opcode pkg method) := by
  obtain ⟨gNode, chosen, begun, count, awaits, expect, timer, ready⟩ := stage
  subst ready awaited expected
  have due : Stage.turn ⟨gNode, chosen, begun, count, true, opcode, timer,
      true⟩ opcode = true := rests
  refine ⟨due, ?_⟩
  have role : gNode = decide (control.role = gNodeRole) := fits.role
  have equal : some (chosen.getD .nego) = some method :=
    fits.dispatcher.symm.trans looked
  cases chosen with
  | none =>
    have same : .nego = method := some.inj equal
    subst same
    obtain ⟨method, picked, auth⟩ := Watch.chosen_some fits.authMethod
    rw [picked]
    have kept : ∀ before, (prescribed gNode none)[before]? = some opcode →
        ((prescribed gNode none).take before).flatMap carried = [] := by
      intro before next
      rcases before with _ | _ | before
      · rfl
      · cases gNode <;> rfl
      · cases gNode <;> cases next
    by_cases next : (prescribed gNode none)[count]? = some opcode
    · have same : Stage.takes ⟨gNode, none, begun, count, true, opcode,
          false, true⟩ opcode =
            Stage.negotiating gNode begun (count + 1) opcode := if_pos next
      have empty : Stage.kept ⟨gNode, none, begun, count, true, opcode,
          timer, true⟩ = [] := kept count next
      rw [same, empty]
      exact followed_nego auth picked role next
    · have start : (gNode && !begun && decide (count = 0) &&
          decide (opcode = pairingStart)) = true := by
        simpa [Stage.turn, Stage.line, next] using due
      simp only [Bool.and_eq_true, Bool.not_eq_true', decide_eq_true_eq]
        at start
      obtain ⟨⟨⟨rfl, rfl⟩, rfl⟩, rfl⟩ := start
      exact followed_begin
  | some own =>
    have same : own = method := some.inj equal
    subst same
    have other := fits.auth own rfl
    rcases turn_cases rfl due with negotiation | ⟨index, same, message⟩
    · rw [dispatch_negotiation other negotiation]
      exact followed_idle (rests_takes due rfl)
    · cases same
      have next : (Stage.line ⟨gNode, some own, begun, index + 2, true,
          opcode, false, true⟩)[index + 2]? = some opcode := by
        cases gNode with
        | true | false => exact message
      have taken : Stage.takes ⟨gNode, some own, begun, index + 2, true,
          opcode, false, true⟩ opcode =
            Stage.reached gNode own begun (index + 1) opcode true :=
        if_pos next
      rw [taken]
      exact followed_method message

end Followed

end NearLink.Sm
