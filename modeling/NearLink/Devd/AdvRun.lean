import NearLink.Devd.AdvPhase

/-!
# Completions of an advertising set

Every completion leads from phase to phase, so a run whose steps are orderly
gives every request the reports due to it.
-/

namespace NearLink.Devd

open Sdf Transition Nat Ledger

namespace AdvSet

variable {ledger : Ledger} {set : AdvSet} {pending : Pending} {event : AdvEvent}
  {node : AdvNode} {result : UInt8}

theorem kept_advTerminatedCbk {status : UInt8} (kept : set.Kept ledger)
    (late : status = 0 → ∀ node ∈ set.node, node.status = .idle) :
    (set.advTerminatedCbk status).Kept ledger := by
  unfold advTerminatedCbk
  split
  · exact kept
  case h_2 node present =>
    have recorded := kept.recorded node present
    have account : Ledger.of (set.report .terminatedAdv status).log =
        some ledger := account_note kept.account rfl
    split
    case isTrue zero =>
      have idle := late zero node present
      obtain ⟨rests, answered, buffer⟩ := kept.rests present idle
      refine ⟨account, ?_, ?_⟩
      · intro member same
        cases same
        exact ⟨recorded.param, recorded.data, by simp⟩
      · show Phase ledger _ set.outstanding
        rw [answered]
        exact .idle rests rfl buffer
    case isFalse => exact ⟨account, kept.recorded, kept.phase⟩

theorem toUInt8_eq_zero {status : UInt16} (short : ¬ 0xFF < status) :
    status.toUInt8 = 0 ↔ status = 0 := by
  rw [← UInt8.toNat_inj, ← UInt16.toNat_inj, UInt16.toNat_toUInt8]
  have bound : status.toNat < 2 ^ 8 := by
    have most := UInt16.le_iff_toNat_le.mp (UInt16.not_lt.mp short)
    exact lt_of_le_of_lt most (by decide)
  rw [mod_eq_of_lt bound]
  exact Iff.rfl

section

variable (account : Ledger.of set.log = some ledger)
  (current : ledger.pending = some pending)
  (due : ledger.due pending event result = some true)
include account current due

theorem kept_finish (recorded : Recorded ledger node)
    (answered : set.outstanding = []) (idle : node.status = .idle)
    (buffer : node.tempData = none) :
    ((set.report event result).put node).Kept
      { ledger with pending := none } := by
  constructor
  · exact account_note account (record_final current due)
  · intro member same
    cases same
    exact { recorded with }
  · show Phase _ _ set.outstanding
    rw [answered]
    exact .idle rfl idle buffer

theorem kept_removed (answered : set.outstanding = []) :
    (set.report event result).removeAdvNode.Kept {} := by
  have told : Ledger.of (set.report event result).log =
      some { ledger with pending := none } :=
    account_note account (record_final current due)
  constructor
  · exact account_note told rfl
  · exact nofun
  · show Phase _ none set.outstanding
    rw [answered]
    exact .absent rfl

end

theorem request_payload (param : AdvParam) (data : AdvData) :
    (Pending.mk (.setAdvParam param data) []).request.payload = some data :=
  rfl

theorem kept_setAdvParamCbk {env : AdvEnv} {maxLen : Nat} (set : AdvSet)
    {param : AdvParam} {data : AdvData} {status : UInt16}
    (account : Ledger.of set.log = some (ledger.answered
      { request := .setAdvParam param data } (.setAdvParam param)
        (status = 0))) (present : set.node = some node)
    (recorded : Recorded ledger node) (answered : set.outstanding = [])
    (saved : node.tempParam = some param) (buffer : node.tempData = some data)
    (short : ¬ 0xFF < status)
    (served : status = 0 → node.isUpdateData = false ∧
      Serves env maxLen data.advData.length) :
    ∃ next, (set.setAdvParamCbk env maxLen status).Kept next := by
  have unloaded : ∀ after : Ledger, ∀ ok, after.loaded
      (Pending.answered { request := .setAdvParam param data }
        (.setAdvParam param) ok) data = false := by
    intro after ok
    have some_data := List.ne_nil_of_length_pos data.sized.1
    cases ok <;>
      simp [Ledger.loaded, Pending.acknowledged, Pending.answered,
        Part.carried, some_data.symm]
  have kept_data := data_answered ledger (.setAdvParam param)
    (status = 0) (request_payload param data)
  rw [unloaded, if_neg (by simp)] at kept_data
  unfold setAdvParamCbk
  simp only [present]
  by_cases failed : status ≠ 0
  · rw [if_pos failed, if_neg short]
    have zero : status.toUInt8 ≠ 0 := (toUInt8_eq_zero short).not.mpr failed
    have due : (ledger.answered { request := .setAdvParam param data }
        (.setAdvParam param) (status = 0)).due
          (Pending.answered { request := .setAdvParam param data }
            (.setAdvParam param) (status = 0))
            .enableAdv status.toUInt8 = some true := by
      simp [Ledger.due, zero, failed]
    cases known : node.param with
    | none => exact ⟨_, kept_removed account rfl due answered⟩
    | some own =>
      refine ⟨_, kept_finish account rfl due ⟨?_, ?_, recorded.number⟩
        answered rfl rfl⟩
      · simp only [failed, decide_false, Ledger.answered, Ledger.paramAfter]
        rw [← known]
        exact recorded.param
      · exact recorded.data.trans kept_data.symm
  · have zero : status = 0 := not_not.mp failed
    obtain ⟨sets, serves⟩ := served zero
    rw [if_neg failed]
    refine ⟨_, kept_sendAdvDataToDli .advData account ⟨?_, ?_,
      recorded.number⟩ answered ⟨rfl, rfl, sets, ?_, rfl, buffer, ?_, ?_, ?_,
      ?_⟩ data.sized.1 serves⟩
    any_goals simp [Pending.acknowledged, Pending.answered, Part.carried]
    · simp [saved, zero, Ledger.answered, Ledger.paramAfter]
    · exact recorded.data.trans kept_data.symm
    · simp [zero, Ledger.answered, Ledger.paramAfter]
    · simp [AdvRequest.lead]

end AdvSet

namespace Part

@[simp] theorem carried_command (part : Part) (operation : Fragment)
    (bytes : Bytes) :
    part.carried (part.command operation bytes) = bytes := by
  cases part <;> rfl

theorem carried_other {part other : Part} (different : other ≠ part)
    (operation : Fragment) (bytes : Bytes) :
    other.carried (part.command operation bytes) = [] := by
  cases part <;> cases other <;> first | rfl | exact absurd rfl different

end Part

namespace Loads

variable {ledger : Ledger} {node : AdvNode} {part : Part}
  {pending : Pending} {data : AdvData} {sent length : Nat}

section

variable (loads : Loads ledger node part pending data sent)
include loads

theorem advance (operation : Fragment) {bytes : Bytes}
    (carries : bytes = ((part.payload data).drop sent).take length)
    (some_bytes : 0 < length) :
    Loads (ledger.answered pending (part.command operation bytes) true) node
      part (pending.answered (part.command operation bytes) true) data
        (sent + length) := { loads with
  current := rfl
  known := by
    rw [param_answered_part]
    exact loads.known
  few := by
    have few := loads.few
    rw [Pending.length_answered, Pending.request_answered]
    omega
  here := by
    rw [Pending.acknowledged_answered, loads.here, if_pos rfl,
      Part.carried_command, carries, List.take_add]
  early := by
    intro first
    rw [Pending.acknowledged_answered, loads.early first,
      Part.carried_other (by rw [first]; decide)]
    rfl
  late := by
    intro second
    obtain ⟨before, scans⟩ := loads.late second
    rw [Pending.acknowledged_answered, before,
      Part.carried_other (by rw [second]; decide)]
    exact ⟨by simp, by
      rw [Ledger.answersScans, param_answered_part]
      exact scans⟩ }

theorem refused (left : sent < (part.payload data).length)
    (operation : Fragment) (bytes : Bytes) :
    (ledger.answered pending (part.command operation bytes) false).loaded
      (pending.answered (part.command operation bytes) false) data =
        false := by
  rw [loaded_congr
    (param_answered_part ledger pending false part operation bytes)]
  have same := loads.not_loaded left
  simpa [Ledger.loaded] using same

end

theorem turn (loads : Loads ledger node .advData pending data
      data.advData.length)
    (scans : ledger.answersScans data = true) :
    Loads ledger { node with
      dataOffset := 0, sendLen := 0, status := .setScanRspData }
        .scanRspData pending data 0 := { loads with
  status := rfl
  here := loads.early rfl
  early := nofun
  late := fun _ => ⟨loads.here.trans (List.take_length ..), scans⟩ }

theorem loaded (loads : Loads ledger node part pending data
      (part.payload data).length)
    (last : part = .advData → ledger.answersScans data = false) :
    ledger.loaded pending data = true := by
  have here := loads.here
  cases part with
  | advData => simp [Ledger.loaded, here, Part.payload, last rfl]
  | scanRspData => simp [Ledger.loaded, here, Part.payload, (loads.late rfl).1]

section

variable (loads : Loads ledger node part pending data sent)
include loads

theorem request_updates (updates : node.isUpdateData = true) :
    pending.request = .setAdvData data := by
  have payload := loads.payload
  rw [loads.updates] at updates
  cases request : pending.request with
  | setAdvData own =>
    rw [request] at payload
    cases payload
    rfl
  | _ => rw [request] at updates; cases updates

theorem request_sets (sets : node.isUpdateData = false) :
    ∃ param, pending.request = .setAdvParam param data := by
  have payload := loads.payload
  rw [loads.updates] at sets
  cases request : pending.request with
  | setAdvParam param own =>
    rw [request] at payload
    cases payload
    exact ⟨param, rfl⟩
  | setAdvData own => rw [request] at sets; cases sets
  | _ => rw [request] at payload; cases payload

end

end Loads

def AdvNode.answersScans (node : AdvNode) (data : AdvData) : Bool :=
  data.scanRspData ≠ [] && node.param.any AdvParam.scanable

/-- How much of its part the node has still to send. -/
def AdvNode.left (node : AdvNode) (data : AdvData) : Nat :=
  (if node.status = .setAdvData then data.advData
    else data.scanRspData).length - node.dataOffset

namespace AdvSet

variable {ledger : Ledger} {node : AdvNode} {part : Part}
  {pending : Pending} {data : AdvData} {sent : Nat}

theorem left_part (status : node.status = part.status) :
    node.left data = (part.payload data).length - node.dataOffset := by
  unfold AdvNode.left
  cases part with
  | advData | scanRspData => simp [status, Part.status, Part.payload]

theorem updateAdvDataStatus_more (status : node.status = part.status)
    (left : node.dataOffset < (part.payload data).length) :
    updateAdvDataStatus node data = (node, none) := by
  cases part <;> simp_all [updateAdvDataStatus, Part.status, Part.payload]

theorem updateAdvDataStatus_turn (status : node.status = .setAdvData)
    (done : data.advData.length ≤ node.dataOffset)
    (scans : node.answersScans data = true) :
    updateAdvDataStatus node data =
      ({ node with dataOffset := 0, sendLen := 0, status := .setScanRspData },
        some .setAdvData) := by
  simp only [AdvNode.answersScans, Bool.and_eq_true, decide_eq_true_eq] at scans
  simp [updateAdvDataStatus, status, done, scans]

theorem updateAdvDataStatus_last (status : node.status = part.status)
    (done : (part.payload data).length ≤ node.dataOffset)
    (last : part = .advData → node.answersScans data = false) :
    updateAdvDataStatus node data =
      ({ node with dataOffset := 0, sendLen := 0, status := .idle },
        some part.event) := by
  have long : ¬ node.dataOffset < (part.payload data).length :=
    not_lt.mpr done
  cases part with
  | advData =>
    have silent : ¬ (data.scanRspData ≠ [] ∧
        node.param.any AdvParam.scanable = true) := by
      simpa [AdvNode.answersScans] using last rfl
    rw [updateAdvDataStatus]
    simp only [status, Part.status, if_true, if_neg silent]
    exact if_neg long
  | scanRspData =>
    rw [updateAdvDataStatus]
    simp only [status, Part.status, reduceCtorEq, if_false]
    exact if_neg long

def Finishes (env : AdvEnv) (maxLen : Nat) (node : AdvNode)
    (status : UInt16) : AdvCommand → Prop
  | .setAdvParam _ => status = 0 → ∀ data ∈ node.tempData,
    node.isUpdateData = false ∧ Serves env maxLen data.advData.length
  | .setAdvData .. | .setScanRspData .. =>
    ∀ data ∈ node.tempData,
      let updated := updateAdvDataStatus node data
      if status = 0 then
        if updated.1.status = .idle then
          node.isUpdateData = false → env.dli = true
        else Serves env maxLen (updated.1.left data)
      else if node.isUpdateData then updated.2.isSome = true
      else node.data.isSome = true
  | .enableAdv _ => True
  | .removeAdv => status = 0

variable {env : AdvEnv} {maxLen : Nat} {operation : Fragment} {bytes : Bytes}
  {set : AdvSet} {enable ok : Bool}

theorem finishes_part {status : UInt16}
    (finishes : Finishes env maxLen node status (part.command operation bytes))
    (buffer : node.tempData = some data) : if status = 0 then
      if (updateAdvDataStatus node data).1.status = .idle then
        node.isUpdateData = false → env.dli = true
      else Serves env maxLen ((updateAdvDataStatus node data).1.left data)
    else if node.isUpdateData then
      (updateAdvDataStatus node data).2.isSome = true
    else node.data.isSome = true := by
  cases part <;> exact finishes data buffer

theorem recorded_updateAdvDataStatus {after : Ledger} (data : AdvData)
    (recorded : Recorded after node) :
    Recorded after (updateAdvDataStatus node data).1 := by
  unfold updateAdvDataStatus
  by_cases more : node.dataOffset < (if node.status = .setAdvData
      then data.advData else data.scanRspData).length
  · rw [if_pos more]
    exact recorded
  · rw [if_neg more]
    split_ifs <;> exact { recorded with }

theorem event_updateAdvDataStatus
    (loads : Loads ledger node part pending data sent)
    (reported : (updateAdvDataStatus node data).2.isSome) :
    (updateAdvDataStatus node data).2 = some part.event := by
  have status := loads.status
  revert reported
  unfold updateAdvDataStatus
  cases part with
  | advData =>
    simp only [status, Part.status, if_true]
    split_ifs
    · simp
    · exact fun _ => rfl
    · exact fun _ => rfl
  | scanRspData =>
    simp only [status, Part.status, reduceCtorEq, if_false]
    split
    · simp
    · exact fun _ => rfl

theorem kept_fragment_failed {status : UInt16}
    (account : Ledger.of set.log = some (ledger.answered pending
      (part.command operation bytes) false)) (present : set.node = some node)
    (recorded : Recorded ledger node) (answered : set.outstanding = [])
    (loads : Loads ledger node part pending data sent)
    (left : sent < (part.payload data).length) (short : ¬ 0xFF < status)
    (failed : status ≠ 0) (reported : if node.isUpdateData then
        (updateAdvDataStatus node data).2.isSome = true
      else node.data.isSome = true) :
    ∃ next, (set.setAdvDataCbk env maxLen status).Kept next := by
  have zero : status.toUInt8 ≠ 0 := (toUInt8_eq_zero short).not.mpr failed
  have kept_data := data_answered ledger
    (part.command operation bytes) false loads.payload
  rw [loads.refused left, if_neg (by simp)] at kept_data
  have still : Recorded (ledger.answered pending
      (part.command operation bytes) false) node :=
    ⟨recorded.param.trans (param_answered_part ..).symm,
      recorded.data.trans kept_data.symm, recorded.number⟩
  have after := recorded_updateAdvDataStatus data still
  unfold setAdvDataCbk
  simp only [present, loads.buffer, if_neg short]
  by_cases updates : node.isUpdateData = true
  · rw [if_pos updates] at reported
    rw [if_pos updates, event_updateAdvDataStatus loads reported]
    unfold updateAdvDataHandle
    rw [if_pos failed]
    have due : (ledger.answered pending (part.command operation bytes)
        false).due (pending.answered (part.command operation bytes) false)
          part.event status.toUInt8 = some true := by
      cases part <;>
        simp [Ledger.due, loads.request_updates updates, zero, Part.event]
    cases known : (updateAdvDataStatus node data).1.data with
    | none => exact ⟨_, kept_removed account rfl due answered⟩
    | some own =>
      exact ⟨_, kept_finish account rfl due ⟨after.param,
        known.symm.trans after.data, after.number⟩ answered rfl rfl⟩
  · obtain ⟨param, request⟩ :=
      loads.request_sets (Bool.eq_false_iff.mpr updates)
    rw [if_neg updates] at reported
    rw [if_neg updates, setAdvDataHandle, if_pos failed]
    have due : (ledger.answered pending (part.command operation bytes)
        false).due (pending.answered (part.command operation bytes) false)
          .enableAdv status.toUInt8 = some true := by
      simp [Ledger.due, request, zero]
    cases known : (updateAdvDataStatus node data).1.data with
    | none =>
      rw [recorded.data.trans kept_data.symm, ← after.data, known] at reported
      cases reported
    | some own =>
      exact ⟨_, kept_finish account rfl due ⟨after.param,
        known.symm.trans after.data, after.number⟩ answered rfl rfl⟩

section

variable (account : Ledger.of set.log = some ledger)
  (present : set.node = some node)
include account present

theorem kept_fragment_more {next : AdvNode} {told : Option AdvEvent}
    (recorded : Recorded ledger next) (answered : set.outstanding = [])
    (buffer : node.tempData = some data)
    (updated : updateAdvDataStatus node data = (next, told))
    (loads : Loads ledger next part pending data next.dataOffset)
    (left : next.dataOffset < (part.payload data).length)
    (serves : Serves env maxLen (next.left data))
    (due : ∀ event ∈ told, node.isUpdateData = true →
      ledger.record (.reported event 0) = some ledger) :
    (set.setAdvDataCbk env maxLen 0).Kept ledger := by
  rw [left_part loads.status] at serves
  unfold setAdvDataCbk
  simp only [present, buffer, updated]
  rw [if_neg (by decide)]
  split
  case isTrue own =>
    unfold updateAdvDataHandle
    rw [if_neg (by simp), if_neg loads.busy]
    cases told with
    | none =>
      exact kept_sendAdvDataToDli part account recorded answered loads left
        serves
    | some event =>
      have told := account_note account (due event rfl own)
      exact kept_sendAdvDataToDli part told recorded answered loads left serves
  case isFalse _ =>
    rw [setAdvDataHandle, if_neg (by simp), if_neg loads.busy]
    exact kept_sendAdvDataToDli part account recorded answered loads left serves

theorem kept_fragment_last (param : node.param = ledger.param)
    (number : node.advStatus ≠ 1) (stored : ledger.data = some data)
    (answered : set.outstanding = [])
    (updated : updateAdvDataStatus node data =
      ({ node with dataOffset := 0, sendLen := 0, status := .idle },
      some part.event))
    (loads : Loads ledger node part pending data (part.payload data).length)
    (last : part = .advData → ledger.answersScans data = false)
    (succeeded : pending.succeeded = true)
    (served : node.isUpdateData = false → env.dli = true) :
    ∃ next, (set.setAdvDataCbk env maxLen 0).Kept next := by
  have loaded := loads.loaded last
  unfold setAdvDataCbk
  simp only [present, loads.buffer, updated]
  rw [if_neg (by decide)]
  by_cases own : node.isUpdateData = true
  · rw [if_pos own]
    have due : ledger.due pending part.event 0 = some true := by
      have request := loads.request_updates own
      cases part with
      | advData =>
        have here := loads.here
        simp only [Part.payload] at here
        simp [Ledger.due, succeeded, request, Part.event, here, last rfl]
      | scanRspData => simp [Ledger.due, succeeded, request, Part.event, loaded]
    exact ⟨_, kept_finish account loads.current due
      ⟨param, stored.symm, number⟩ answered rfl rfl⟩
  · have sets := Bool.eq_false_iff.mpr own
    obtain ⟨wanted, request⟩ := loads.request_sets sets
    rw [if_neg own, setAdvDataHandle, if_neg (by simp), if_pos rfl]
    rw [if_pos (by simp [mayEnable, number])]
    refine ⟨_, kept_sendEnable account ⟨param, stored.symm, number⟩ answered rfl
      loads.current ?_ (served sets)⟩
    have few := loads.few
    rw [request] at few
    rw [Enables, request]
    refine ⟨rfl, loaded, stored, ?_⟩
    cases part <;>
      simp [AdvRequest.lead, Part.before, Part.payload] at few ⊢ <;> omega

end

theorem record_first {event : AdvEvent}
    (current : ledger.pending = some pending)
    (request : pending.request = .setAdvData data)
    (succeeded : pending.succeeded = true)
    (loaded : pending.acknowledged .advData = data.advData)
    (scans : ledger.answersScans data = true) (first : event = .setAdvData) :
    ledger.record (.reported event 0) = some ledger := by
  have due : ledger.due pending .setAdvData 0 = some false := by
    simp [Ledger.due, succeeded, request, loaded, scans]
  rw [first]
  simp [Ledger.record, current, due]

theorem kept_fragment (set : AdvSet) {status : UInt16}
    (carries : bytes = ((part.payload data).drop sent).take node.sendLen)
    (account : Ledger.of set.log = some (ledger.answered pending
      (part.command operation bytes) (status = 0)))
    (present : set.node = some node) (recorded : Recorded ledger node)
    (answered : set.outstanding = [])
    (loads : Loads ledger node part pending data sent)
    (some_bytes : 0 < node.sendLen)
    (offset : node.dataOffset = sent + node.sendLen)
    (within : node.dataOffset ≤ (part.payload data).length)
    (short : ¬ 0xFF < status)
    (finishes : Finishes env maxLen node status (part.command operation
      bytes)) :
    ∃ next, (set.setAdvDataCbk env maxLen status).Kept next := by
  have found := finishes_part finishes loads.buffer
  by_cases failed : status ≠ 0
  · rw [decide_eq_false failed] at account
    rw [if_neg failed] at found
    exact kept_fragment_failed account present recorded answered loads
      (by omega) short failed found
  · have zero : status = 0 := not_not.mp failed
    subst zero
    rw [if_pos rfl] at found
    have param := param_answered_part ledger pending true part operation bytes
    have stored := data_answered ledger
      (part.command operation bytes) true loads.payload
    have advanced := loads.advance operation carries some_bytes
    have scans : ∀ own, (ledger.answered pending
        (part.command operation bytes) true).answersScans own =
          ledger.answersScans own := by
      intro own
      rw [Ledger.answersScans, param]
      rfl
    have shows : node.answersScans data = ledger.answersScans data := by
      rw [AdvNode.answersScans, recorded.param]
      rfl
    by_cases more : node.dataOffset < (part.payload data).length
    · have updated := updateAdvDataStatus_more loads.status more
      rw [updated, if_neg loads.busy] at found
      rw [advanced.not_loaded (by omega), if_neg (by simp)] at stored
      rw [← offset] at advanced
      exact ⟨_, kept_fragment_more account present
        ⟨recorded.param.trans param.symm, recorded.data.trans stored.symm,
          recorded.number⟩ answered loads.buffer updated advanced more found
        (by simp)⟩
    · have full : sent + node.sendLen = (part.payload data).length := by
        omega
      rw [full] at advanced
      by_cases last : part = .advData → ledger.answersScans data = false
      · have updated := updateAdvDataStatus_last loads.status
          (not_lt.mp more) fun first => shows.trans (last first)
        rw [updated, if_pos rfl] at found
        have quiet := fun first => (scans data).trans (last first)
        rw [advanced.loaded quiet, if_pos rfl] at stored
        exact kept_fragment_last account present
          (recorded.param.trans param.symm) recorded.number stored answered
          updated advanced quiet (by simp) found
      · obtain ⟨first, answers⟩ := Classical.not_imp.mp last
        rw [Bool.not_eq_false] at answers
        subst first
        have updated := updateAdvDataStatus_turn loads.status
          (not_lt.mp more) (shows.trans answers)
        rw [updated, if_neg (by simp)] at found
        have turned := advanced.turn ((scans data).trans answers)
        have some_data : 0 < data.scanRspData.length := by
          simp only [Ledger.answersScans, Bool.and_eq_true,
            decide_eq_true_eq] at answers
          exact List.length_pos_of_ne_nil answers.1
        rw [turned.not_loaded some_data, if_neg (by simp)] at stored
        have shown : Recorded _ { node with
            dataOffset := 0, sendLen := 0, status := .setScanRspData } :=
          ⟨recorded.param.trans param.symm, recorded.data.trans stored.symm,
            recorded.number⟩
        refine ⟨_, kept_fragment_more account present shown answered
          loads.buffer updated turned some_data found ?_⟩
        intro event told own
        cases told
        exact record_first rfl (loads.request_updates own) (by simp)
          (turned.late rfl).1 ((scans data).trans answers) rfl

theorem data_enabled (enables : Enables ledger pending enable) :
    (ledger.answered pending (.enableAdv enable) ok).data = ledger.data := by
  unfold Enables at enables
  cases request : pending.request with
  | setAdvParam param own =>
    rw [request] at enables
    have payload : pending.request.payload = some own := by
      rw [request]
      rfl
    rw [data_answered ledger (.enableAdv enable) ok payload, enables.2.2.1]
    exact ite_self _
  | enableAdv wanted =>
    show Ledger.dataAfter _ (pending.answered (.enableAdv enable) ok) = _
    rw [Ledger.dataAfter, Pending.request_answered, request]
    rfl
  | _ => rw [request] at enables; cases enables

theorem due_enabled {result : UInt8} (enables : Enables ledger pending enable)
    (same : result = 0 ↔ ok) :
    (ledger.answered pending (.enableAdv enable) ok).due
      (pending.answered (.enableAdv enable) ok)
        (if enable then .enableAdv else .disableAdv) result = some true := by
  have agrees : (result = 0 : Bool) = ok := by simp [same]
  unfold Enables at enables
  cases request : pending.request with
  | setAdvParam param own =>
    rw [request] at enables
    obtain ⟨rfl, loaded, stored⟩ := enables
    have still : (ledger.answered pending (.enableAdv true) ok).loaded
        (pending.answered (.enableAdv true) ok) own = true := by
      have param : (ledger.answered pending (.enableAdv true) ok).param =
          ledger.param := rfl
      rw [loaded_congr param]
      simpa [Ledger.loaded, Part.carried] using loaded
    unfold Ledger.due
    simp only [Pending.succeeded_answered, agrees, ne_eq, not_true,
      if_false, Pending.request_answered, request, if_true, still]
    rw [if_pos]
    intro zero
    simp [Pending.answered, same.mp zero]
  | enableAdv wanted =>
    rw [request] at enables
    cases enables.1
    cases enable <;> simp [Ledger.due, agrees, request]
  | _ => rw [request] at enables; cases enables

theorem kept_enableAdvCbk (set : AdvSet) {status : UInt16}
    (account : Ledger.of set.log = some (ledger.answered pending
      (.enableAdv enable) (status = 0))) (present : set.node = some node)
    (recorded : Recorded ledger node) (answered : set.outstanding = [])
    (shown : node.status = if enable then .enableAdv else .disableAdv)
    (buffer : node.tempData = none) (enables : Enables ledger pending enable)
    (short : ¬ 0xFF < status) :
    ∃ next, (set.enableAdvCbk status).Kept next := by
  have event : (if node.status = .enableAdv then AdvEvent.enableAdv
      else .disableAdv) = if enable then .enableAdv else .disableAdv := by
    cases enable <;> simp [shown]
  have same : status.toUInt8 = 0 ↔ decide (status = 0) = true := by
    simp [toUInt8_eq_zero short]
  have due := due_enabled enables same
  rw [← event] at due
  unfold enableAdvCbk
  simp only [present, if_neg short]
  refine ⟨_, kept_finish account rfl due ⟨recorded.param,
    recorded.data.trans (data_enabled enables).symm, ?_⟩ answered rfl buffer⟩
  dsimp only
  split
  · split <;> decide
  · exact recorded.number

theorem kept_removeAdvCbk (set : AdvSet) {status : UInt16}
    (account : Ledger.of set.log = some (ledger.answered
      { request := .removeAdv } .removeAdv (status = 0)))
    (present : set.node = some node) (answered : set.outstanding = [])
    (succeeded : status = 0) :
    ∃ next, (set.removeAdvCbk status).Kept next := by
  subst succeeded
  unfold removeAdvCbk
  simp only [present]
  exact ⟨_, kept_removed account rfl rfl answered⟩

/-- When the layers below serve a request, the node is ready for it, and its
commands are answered as the node expects. -/
def Orderly (maxLen : Nat) (set : AdvSet) (event : AdvEnv × Event) : Prop :=
  match event.2 with
  | .create => True
  | .setAdvParam _ data =>
    ∀ node ∈ set.node, node.status = .idle →
      data.scanRspData.length ≤ 0x07FF ∧ event.1.paramAlloc = true ∧
        event.1.dataAlloc = true ∧ event.1.dli = true
  | .setAdvData data =>
    ∀ node ∈ set.node, node.status = .idle →
      node.param.isSome = true ∧ data.scanRspData.length ≤ 0x07FF ∧
        event.1.dataAlloc = true ∧ Serves event.1 maxLen data.advData.length
  | .enableAdv enable =>
    ∀ node ∈ set.node, mayEnable node enable = true → event.1.dli = true
  | .removeAdv => ∀ node ∈ set.node, node.status = .idle ∧ event.1.dli = true
  | .complete status =>
    ∀ command ∈ set.outstanding.head?, ∀ node ∈ set.node,
      ¬ 0xFF < status ∧ Finishes event.1 maxLen node status command
  | .terminated status => status = 0 → ∀ node ∈ set.node, node.status = .idle

theorem kept_complete {status : UInt16} (kept : set.Kept ledger)
    (served : ∀ command ∈ set.outstanding.head?, ∀ node ∈ set.node,
      ¬ 0xFF < status ∧ Finishes env maxLen node status command) :
    ∃ next, (set.complete env maxLen status).Kept next := by
  obtain ⟨present, outstanding, log⟩ := set
  obtain ⟨account, recorded, phase⟩ := kept
  cases phase with
  | absent rests => exact ⟨ledger, account, recorded, .absent rests⟩
  | idle rests status buffer =>
    exact ⟨ledger, account, recorded, .idle rests status buffer⟩
  | @setting node param data current shown saved buffer =>
    obtain ⟨short, finishes⟩ := served _ rfl _ rfl
    have answers := account_concat account
      (record_answered current (.setAdvParam param) (status = 0))
    exact kept_setAdvParamCbk ⟨some node, [], _⟩ answers rfl
      (recorded _ rfl) rfl saved buffer short
      fun zero => finishes zero data buffer
  | @sending node part pending data sent operation loads some_bytes offset
      within =>
      obtain ⟨short, finishes⟩ := served _ rfl _ rfl
      have answers := account_concat account (record_answered loads.current
        (part.command operation
          (((part.payload data).drop sent).take node.sendLen)) (status = 0))
      have fragment := kept_fragment ⟨some node, [], _⟩ rfl answers
        rfl (recorded _ rfl) rfl loads some_bytes offset within short
        finishes
      cases part <;> exact fragment
  | @enabling node pending enable current shown buffer enables =>
    obtain ⟨short, finishes⟩ := served _ rfl _ rfl
    have answers := account_concat account
      (record_answered current (.enableAdv enable) (status = 0))
    exact kept_enableAdvCbk ⟨some node, [], _⟩ answers rfl
      (recorded _ rfl) rfl shown buffer enables short
  | @removing node current shown buffer =>
    obtain ⟨short, finishes⟩ := served _ rfl _ rfl
    have answers := account_concat account
      (record_answered current .removeAdv (status = 0))
    exact kept_removeAdvCbk ⟨some node, [], _⟩ answers rfl rfl finishes

theorem kept_step (event : AdvEnv × Event) (kept : set.Kept ledger)
    (orderly : Orderly maxLen set event) :
    ∃ next, (set.step maxLen event).Kept next := by
  obtain ⟨env, event⟩ := event
  cases event with
  | create => exact kept_create kept
  | setAdvParam param data => exact kept_setAdvParam kept orderly
  | setAdvData data => exact kept_setAdvData kept orderly
  | enableAdv enable => exact kept_enableAdv kept orderly
  | removeAdv => exact kept_removeAdv kept orderly
  | complete status => exact kept_complete kept orderly
  | terminated status => exact ⟨ledger, kept_advTerminatedCbk kept orderly⟩

/-- In every run whose steps are orderly, every request returns the node to
idle, or removes it, after a bounded number of answers and with the reports
due to it, and the node shows the last parameters and payload that have been
set. -/
theorem lawful_of_orderly (maxLen : Nat) (events : List (AdvEnv × Event))
    (orderly : Meets (step maxLen) (Orderly maxLen) {} events) :
    Always (step maxLen) Lawful {} events := by
  have sound : ∀ set : AdvSet, (∃ ledger, set.Kept ledger) →
      set.Lawful := fun set ⟨ledger, kept⟩ => ⟨ledger, kept.agrees⟩
  have preserved : ∀ (set : AdvSet) event, (∃ ledger, set.Kept ledger) →
      Orderly maxLen set event →
        ∃ ledger, (set.step maxLen event).Kept ledger :=
    fun set event ⟨ledger, kept⟩ => kept_step event kept
  apply always_of_meets sound preserved
  · exact ⟨{}, rfl, nofun, .absent rfl⟩
  · exact orderly

instance (env : AdvEnv) (maxLen : Nat) (node : AdvNode) (status : UInt16)
    (command : AdvCommand) :
    Decidable (Finishes env maxLen node status command) :=
  match command with
  | .setAdvParam _ =>
    inferInstanceAs (Decidable (_ → ∀ data ∈ node.tempData, _ ∧ _))
  | .setAdvData .. | .setScanRspData .. =>
    inferInstanceAs (Decidable (∀ data ∈ node.tempData, ite _ _ _))
  | .enableAdv _ => isTrue trivial
  | .removeAdv => inferInstanceAs (Decidable (status = 0))

instance (maxLen : Nat) (set : AdvSet) (event : AdvEnv × Event) :
    Decidable (Orderly maxLen set event) :=
  match event with
  | (_, .create) => isTrue trivial
  | (_, .setAdvParam ..) | (_, .setAdvData _) | (_, .enableAdv _) =>
    inferInstanceAs (Decidable (∀ node ∈ set.node, _ → _))
  | (_, .removeAdv) => inferInstanceAs (Decidable (∀ node ∈ set.node, _ ∧ _))
  | (_, .complete _) =>
    inferInstanceAs (Decidable (∀ command ∈ set.outstanding.head?,
      ∀ node ∈ set.node, _ ∧ _))
  | (_, .terminated _) => inferInstanceAs (Decidable (_ → ∀ node ∈ set.node, _))

def scanableParam : AdvParam := { advMode := 2, settings := [] }

def shortData : AdvData where
  advData := [1, 2, 3]
  scanRspData := [4]
  sized := by decide

/-- The parameters are set, in fragments of two bytes, and the set enabled.
Then the payload is updated, once with success and once in vain. -/
theorem lawful_updates :
    Always (step 2) Lawful {} [({}, .create),
       ({}, .setAdvParam scanableParam shortData),
       ({}, .complete 0), ({}, .complete 0), ({}, .complete 0),
       ({}, .complete 0), ({}, .complete 0),
       ({}, .setAdvData shortData),
       ({}, .complete 0), ({}, .complete 0), ({}, .complete 0),
       ({}, .setAdvData shortData),
       ({}, .complete 0), ({}, .complete 7),
       ({}, .enableAdv false), ({}, .complete 0),
       ({}, .removeAdv), ({}, .complete 0)] :=
  lawful_of_orderly 2 _ (by
    refine ⟨?_, ?_, ?_, ?_, ?_, ?_, ?_, ?_, ?_, ?_, ?_, ?_, ?_, ?_, ?_, ?_,
      ?_, ?_, trivial⟩ <;> decide)

def setAfterUpdate : List (AdvEnv × Event) :=
  [({}, .create), ({}, .setAdvParam { advMode := 1, settings := [] } shortData),
   ({}, .complete 0), ({}, .complete 0), ({}, .complete 0),
   ({}, .setAdvData shortData), ({}, .complete 0),
   ({}, .enableAdv false), ({}, .complete 0),
   ({}, .setAdvParam { advMode := 1, settings := [] } shortData),
   ({}, .complete 0), ({}, .complete 0)]

/-- The set is not enabled, and the service learns only that the payload is
set. -/
theorem lawful_not_throughout :
    ¬ ∀ events, Always (step 251) Lawful {} events := by
  intro claim
  obtain ⟨ledger, agrees⟩ := (claim setAfterUpdate).at_end
  have none : Ledger.of (run (step 251) {} setAfterUpdate).log = none := by
    decide
  rw [agrees.account] at none
  cases none

end AdvSet

end NearLink.Devd
