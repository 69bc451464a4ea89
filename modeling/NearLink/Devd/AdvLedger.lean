import NearLink.Devd.Adv

/-!
# The account of an advertising set

The log of a set is read as an account of its requests, which says when a
request is pending, what its commands have set and whether a report is due.
-/

namespace NearLink.Devd

open Sdf

inductive Part where
  | advData
  | scanRspData
  deriving DecidableEq

namespace Part

def status : Part → AdvNodeStatus
  | .advData => .setAdvData
  | .scanRspData => .setScanRspData

def event : Part → AdvEvent
  | .advData => .setAdvData
  | .scanRspData => .setScanRspData

def payload : Part → AdvData → Bytes
  | .advData, data => data.advData
  | .scanRspData, data => data.scanRspData

def command : Part → Fragment → Bytes → AdvCommand
  | .advData => .setAdvData
  | .scanRspData => .setScanRspData

@[grind =] def carried : Part → AdvCommand → Bytes
  | .advData, .setAdvData _ data => data
  | .scanRspData, .setScanRspData _ data => data
  | _, _ => []

end Part

namespace AdvRequest

def payload : AdvRequest → Option AdvData
  | .setAdvParam _ data => some data
  | .setAdvData data => some data
  | .enableAdv _ => none
  | .removeAdv => none

def overhead : AdvRequest → Nat
  | .setAdvParam .. => 2
  | .setAdvData _ => 0
  | .enableAdv _ => 1
  | .removeAdv => 1

def limit (request : AdvRequest) : Nat :=
  request.overhead + match request.payload with
    | none => 0
    | some data => data.advData.length + data.scanRspData.length

end AdvRequest

structure Pending where
  request : AdvRequest
  answers : List (AdvCommand × Bool) := []

namespace Pending

def acknowledged (pending : Pending) (part : Part) : Bytes :=
  pending.answers.flatMap fun answer =>
    if answer.2 then part.carried answer.1 else []

def succeeded (pending : Pending) : Bool :=
  pending.answers.getLast?.any Prod.snd

def answered (pending : Pending) (command : AdvCommand) (ok : Bool) :
    Pending :=
  { pending with answers := pending.answers ++ [(command, ok)] }

variable (pending : Pending)
include pending

@[simp] theorem acknowledged_answered (part : Part) (command : AdvCommand)
    (ok : Bool) : (pending.answered command ok).acknowledged part =
      pending.acknowledged part ++
        if ok then part.carried command else [] := by
  simp [acknowledged, answered]

section

variable (command : AdvCommand) (ok : Bool)

@[simp] theorem succeeded_answered :
    (pending.answered command ok).succeeded = ok := by
  simp [succeeded, answered]

@[simp] theorem length_answered :
    (pending.answered command ok).answers.length =
      pending.answers.length + 1 := by
  simp [answered]

@[simp] theorem request_answered :
    (pending.answered command ok).request = pending.request :=
  rfl

end

end Pending

/-- What the log says about a set: the request that has no final result, and
the last parameters and payload whose commands have all succeeded. -/
structure Ledger where
  pending : Option Pending := none
  param : Option AdvParam := none
  data : Option AdvData := none

namespace Ledger

def answersScans (ledger : Ledger) (data : AdvData) : Bool :=
  data.scanRspData ≠ [] && ledger.param.any AdvParam.scanable

def loaded (ledger : Ledger) (pending : Pending) (data : AdvData) : Bool :=
  pending.acknowledged .advData = data.advData &&
    (pending.acknowledged .scanRspData = data.scanRspData ||
      !ledger.answersScans data)

def loading (ledger : Ledger) : Bool :=
  match ledger.pending with
  | none => false
  | some pending =>
    pending.request.payload.any fun data => !ledger.loaded pending data

def paramAfter (ledger : Ledger) : AdvCommand → Bool → Option AdvParam
  | .setAdvParam param, true => some param
  | _, _ => ledger.param

/-- The payload, once all the commands of the pending request's own have
succeeded. -/
def dataAfter (ledger : Ledger) (pending : Pending) : Option AdvData :=
  match pending.request.payload with
  | none => ledger.data
  | some data => if ledger.loaded pending data then some data else ledger.data

def answered (ledger : Ledger) (pending : Pending) (command : AdvCommand)
    (ok : Bool) : Ledger :=
  let after : Ledger :=
    { ledger with
      pending := some (pending.answered command ok)
      param := ledger.paramAfter command ok }
  { after with data := after.dataAfter (pending.answered command ok) }

/-- Whether a report is final for the pending request, if it is due.  Its
result tells whether the last command has succeeded. -/
def due (ledger : Ledger) (pending : Pending) (event : AdvEvent)
    (result : UInt8) : Option Bool :=
  if (result = 0 : Bool) ≠ pending.succeeded then none
  else
    match pending.request, event with
    | .setAdvParam _ data, .enableAdv =>
      if result = 0 → ledger.loaded pending data ∧
          (.enableAdv true, true) ∈ pending.answers then some true
      else none
    | .setAdvData data, .setAdvData =>
      if result ≠ 0 then some true
      else if pending.acknowledged .advData = data.advData then
        some !ledger.answersScans data
      else none
    | .setAdvData data, .setScanRspData =>
      if result = 0 → ledger.loaded pending data then some true else none
    | .enableAdv true, .enableAdv => some true
    | .enableAdv false, .disableAdv => some true
    | .removeAdv, .removeAdv => some true
    | _, _ => none

def record (ledger : Ledger) : AdvNote → Option Ledger
  | .created => some {}
  | .accepted request =>
    if ledger.pending = none then
      some { ledger with pending := some { request := request } }
    else none
  | .answered command ok =>
    match ledger.pending with
    | none => none
    | some pending => some (ledger.answered pending command ok)
  | .reported .terminatedAdv _ => some ledger
  | .reported event result =>
    match ledger.pending with
    | none => none
    | some pending =>
      match ledger.due pending event result with
      | none => none
      | some true => some { ledger with pending := none }
      | some false => some ledger
  | .removed => if ledger.pending = none then some {} else none

def of (log : List AdvNote) : Option Ledger :=
  log.foldlM record {}

theorem of_concat (log : List AdvNote) (entry : AdvNote) :
    of (log ++ [entry]) = (of log).bind fun ledger => ledger.record entry := by
  simp [of]

end Ledger

namespace AdvSet

structure Agrees (set : AdvSet) (ledger : Ledger) : Prop where
  account : Ledger.of set.log = some ledger
  absent : set.node = none → ledger.pending = none
  busy : ∀ node ∈ set.node, node.status = .idle ↔ ledger.pending = none
  param : ∀ node ∈ set.node, node.param = ledger.param
  data : ∀ node ∈ set.node, node.data = ledger.data
  buffered : ∀ node ∈ set.node, node.tempData.isSome = ledger.loading
  waits : ∀ pending ∈ ledger.pending, set.outstanding.length = 1 ∧
    pending.answers.length < pending.request.limit

/-- Every request gets the reports due to it, and the node shows what has been
set. -/
def Lawful (set : AdvSet) : Prop :=
  ∃ ledger, set.Agrees ledger

variable {ledger : Ledger} {pending : Pending}

theorem record_answered (current : ledger.pending = some pending)
    (command : AdvCommand) (ok : Bool) : ledger.record (.answered command ok) =
      some (ledger.answered pending command ok) := by
  simp [Ledger.record, current]

theorem record_final {event : AdvEvent} {result : UInt8}
    (current : ledger.pending = some pending)
    (due : ledger.due pending event result = some true) :
    ledger.record (.reported event result) =
      some { ledger with pending := none } := by
  cases event with
  | terminatedAdv =>
    exfalso
    revert due
    simp only [Ledger.due]
    split
    · exact nofun
    · split <;> simp_all
  | _ => simp [Ledger.record, current, due]

end AdvSet

end NearLink.Devd
