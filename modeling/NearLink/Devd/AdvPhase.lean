import NearLink.Devd.AdvLedger

/-!
# Phases of an advertising set

What a node holds between two events is fixed by its pending request and by
the answers that the request has got.  The invariant names these phases.
-/

namespace NearLink.Devd

open Sdf List

namespace AdvRequest

def updates : AdvRequest → Bool
  | .setAdvData _ => true
  | _ => false

def lead : AdvRequest → Nat
  | .setAdvParam .. => 1
  | _ => 0

end AdvRequest

def Part.before : Part → AdvData → Nat
  | .advData, _ => 0
  | .scanRspData, data => data.advData.length

/-- The node sends a part of the payload, of which `sent` bytes have been
acknowledged. -/
structure Loads (ledger : Ledger) (node : AdvNode) (part : Part)
    (pending : Pending) (data : AdvData) (sent : Nat) : Prop where
  current : ledger.pending = some pending
  payload : pending.request.payload = some data
  updates : node.isUpdateData = pending.request.updates
  known : ledger.param.isSome
  status : node.status = part.status
  buffer : node.tempData = some data
  few : pending.answers.length ≤ pending.request.lead + part.before data + sent
  here : pending.acknowledged part = (part.payload data).take sent
  early : part = .advData → pending.acknowledged .scanRspData = []
  late : part = .scanRspData →
    pending.acknowledged .advData = data.advData ∧ ledger.answersScans data

def Enables (ledger : Ledger) (pending : Pending) (enable : Bool) : Prop :=
  match pending.request with
  | .enableAdv wanted => wanted = enable ∧ pending.answers = []
  | .setAdvParam _ data =>
    enable = true ∧ ledger.loaded pending data ∧
      ledger.data = some data ∧ pending.answers.length ≤
        1 + data.advData.length + data.scanRspData.length
  | _ => False

inductive Phase (ledger : Ledger) :
    Option AdvNode → List AdvCommand → Prop where
  | absent (rests : ledger.pending = none) : Phase ledger none []
  | idle {node : AdvNode} (rests : ledger.pending = none)
      (status : node.status = .idle) (buffer : node.tempData = none) :
      Phase ledger (some node) []
  | setting {node : AdvNode} {param : AdvParam} {data : AdvData}
      (current : ledger.pending = some { request := .setAdvParam param data })
      (status : node.status = .setAdvParams)
      (saved : node.tempParam = some param)
      (buffer : node.tempData = some data) :
      Phase ledger (some node) [.setAdvParam param]
  | sending {node : AdvNode} {part : Part} {pending : Pending}
      {data : AdvData} {sent : Nat} (operation : Fragment)
      (loads : Loads ledger node part pending data sent)
      (some_bytes : 0 < node.sendLen)
      (offset : node.dataOffset = sent + node.sendLen)
      (within : node.dataOffset ≤ (part.payload data).length) :
      Phase ledger (some node) [part.command operation
        (((part.payload data).drop sent).take node.sendLen)]
  | enabling {node : AdvNode} {pending : Pending} {enable : Bool}
      (current : ledger.pending = some pending)
      (status : node.status = if enable then .enableAdv else .disableAdv)
      (buffer : node.tempData = none)
      (enables : Enables ledger pending enable) :
      Phase ledger (some node) [.enableAdv enable]
  | removing {node : AdvNode}
      (current : ledger.pending = some { request := .removeAdv })
      (status : node.status = .removeAdv) (buffer : node.tempData = none) :
      Phase ledger (some node) [.removeAdv]

/-- The node shows what the ledger says has been set.  Its advertising status
is never the number that the checks of the requests ask for. -/
structure Recorded (ledger : Ledger) (node : AdvNode) : Prop where
  param : node.param = ledger.param
  data : node.data = ledger.data
  number : node.advStatus ≠ 1

namespace AdvSet

structure Kept (set : AdvSet) (ledger : Ledger) : Prop where
  account : Ledger.of set.log = some ledger
  recorded : ∀ node ∈ set.node, Recorded ledger node
  phase : Phase ledger set.node set.outstanding

end AdvSet

namespace Loads

variable {ledger : Ledger} {node : AdvNode} {part : Part} {pending : Pending}
  {data : AdvData} {sent : Nat}
  (loads : Loads ledger node part pending data sent)
include loads

theorem not_loaded (left : sent < (part.payload data).length) :
    ledger.loaded pending data = false := by
  have short : (part.payload data).take sent ≠ part.payload data := by
    intro whole
    have same := congrArg List.length whole
    rw [length_take] at same
    omega
  cases part with
  | advData =>
    have part := loads.here
    simp only [Part.payload] at part short
    simp [Ledger.loaded, part, short]
  | scanRspData =>
    have part := loads.here
    simp only [Part.payload] at part short
    simp [Ledger.loaded, part, short, (loads.late rfl).2]

theorem loading (left : sent < (part.payload data).length) :
    ledger.loading = true := by
  simp [Ledger.loading, loads.current, loads.payload, loads.not_loaded left]

theorem busy : node.status ≠ .idle := by
  rw [loads.status]
  cases part <;> exact fun same => by cases same

theorem below_limit (left : sent < (part.payload data).length) :
    pending.answers.length < pending.request.limit := by
  have few := loads.few
  have payload := loads.payload
  cases request : pending.request with
  | enableAdv | removeAdv => rw [request] at payload; cases payload
  | _ =>
    rw [request] at payload few
    cases payload
    cases part <;>
      simp [AdvRequest.limit, AdvRequest.overhead, AdvRequest.payload,
        AdvRequest.lead, Part.before, Part.payload] at * <;> omega

end Loads

namespace Ledger

variable {ledger : Ledger} {pending : Pending} {command : AdvCommand}
  {ok : Bool} {data : AdvData}

theorem loaded_congr {first second : Ledger}
    (same : first.param = second.param) (pending : Pending) (data : AdvData) :
    first.loaded pending data = second.loaded pending data := by
  simp [loaded, answersScans, same]

@[simp] theorem param_answered_part (ledger : Ledger) (pending : Pending)
    (ok : Bool) (part : Part) (operation : Fragment) (bytes : Bytes) :
    (ledger.answered pending (part.command operation bytes) ok).param =
      ledger.param := by
  cases part <;> rfl

theorem data_answered (ledger : Ledger) (command : AdvCommand) (ok : Bool)
    (payload : pending.request.payload = some data) :
    (ledger.answered pending command ok).data =
      if (ledger.answered pending command ok).loaded
          (pending.answered command ok) data
      then some data else ledger.data := by
  show dataAfter _ (pending.answered command ok) = _
  rw [dataAfter, Pending.request_answered, payload]
  rfl

end Ledger

namespace Phase

variable {ledger : Ledger} {node : AdvNode} {outstanding : List AdvCommand}

theorem rests (phase : Phase ledger none outstanding) :
    ledger.pending = none := by
  cases phase with
  | absent rests => exact rests

theorem idle_iff (phase : Phase ledger (some node) outstanding) :
    node.status = .idle ↔ ledger.pending = none := by
  cases phase with
  | idle rests status buffer => simp [rests, status]
  | setting current status saved buffer => simp [current, status]
  | sending operation loads some_bytes offset within =>
    simp [loads.busy, loads.current]
  | @enabling node pending enable current status buffer enables =>
    cases enable <;> simp [current, status]
  | removing current status buffer => simp [current, status]

theorem buffered (phase : Phase ledger (some node) outstanding) :
    node.tempData.isSome = ledger.loading := by
  cases phase with
  | idle rests status buffer => simp [Ledger.loading, rests, buffer]
  | @setting node param data current status saved buffer =>
    have some_data := ne_nil_of_length_pos data.sized.1
    simp [Ledger.loading, Ledger.loaded, current, buffer,
      AdvRequest.payload, Pending.acknowledged, some_data]
  | sending operation loads some_bytes offset within =>
    rw [loads.buffer, loads.loading (by omega)]
    rfl
  | @enabling node pending enable current status buffer enables =>
    unfold Enables at enables
    cases request : pending.request with
    | setAdvParam param data =>
      rw [request] at enables
      simp [Ledger.loading, current, buffer, request,
        AdvRequest.payload, enables.2.1]
    | enableAdv wanted =>
      simp [Ledger.loading, current, buffer, request, AdvRequest.payload]
    | _ => rw [request] at enables; cases enables
  | removing current status buffer =>
    simp [Ledger.loading, current, buffer, AdvRequest.payload]

theorem waits {present : Option AdvNode}
    (phase : Phase ledger present outstanding) {pending : Pending}
    (waiting : pending ∈ ledger.pending) :
    outstanding.length = 1 ∧
      pending.answers.length < pending.request.limit := by
  cases phase with
  | absent rests => rw [rests] at waiting; cases waiting
  | idle rests status buffer => rw [rests] at waiting; cases waiting
  | setting current status saved buffer =>
    rw [current] at waiting
    cases waiting
    exact ⟨rfl, by simp [AdvRequest.limit, AdvRequest.overhead]⟩
  | sending operation loads some_bytes offset within =>
    rw [loads.current] at waiting
    cases waiting
    exact ⟨rfl, loads.below_limit (by omega)⟩
  | enabling current status buffer enables =>
    rw [current] at waiting
    cases waiting
    refine ⟨rfl, ?_⟩
    unfold Enables at enables
    cases request : pending.request with
    | setAdvParam param data =>
      rw [request] at enables
      simp [AdvRequest.limit, AdvRequest.overhead, AdvRequest.payload]
      omega
    | enableAdv wanted =>
      rw [request] at enables
      simp [enables.2, AdvRequest.limit, AdvRequest.overhead]
    | _ => rw [request] at enables; cases enables
  | removing current status buffer =>
    rw [current] at waiting
    cases waiting
    exact ⟨rfl, by simp [AdvRequest.limit, AdvRequest.overhead]⟩

end Phase

namespace AdvSet

variable {ledger next : Ledger} {set : AdvSet} {entry : AdvNote}

theorem Kept.agrees (kept : set.Kept ledger) : set.Agrees ledger where
  account := kept.account
  absent := fun absent => (absent ▸ kept.phase).rests
  busy := fun node member => by
    have phase := kept.phase
    rw [Option.mem_def.mp member] at phase
    exact phase.idle_iff
  param := fun node member => (kept.recorded node member).param
  data := fun node member => (kept.recorded node member).data
  buffered := fun node member => by
    have phase := kept.phase
    rw [Option.mem_def.mp member] at phase
    exact phase.buffered
  waits := fun _ => kept.phase.waits

theorem account_concat {log : List AdvNote}
    (account : Ledger.of log = some ledger)
    (record : ledger.record entry = some next) :
    Ledger.of (log ++ [entry]) = some next := by
  rw [Ledger.of_concat, account]
  exact record

theorem account_note (account : Ledger.of set.log = some ledger)
    (record : ledger.record entry = some next) :
    Ledger.of (set.note entry).log = some next :=
  account_concat account record

theorem record_accepted (request : AdvRequest) (rests : ledger.pending = none) :
    ledger.record (.accepted request) =
      some { ledger with pending := some { request := request } } := by
  simp [Ledger.record, rests]

/-- The next command with a part of `left` bytes is built and taken. -/
def Serves (env : AdvEnv) (maxLen left : Nat) : Prop :=
  0 < maxLen ∧ env.commandAlloc = true ∧ env.dli = true ∧
    min left maxLen ≤ 0xFF

instance (env : AdvEnv) (maxLen left : Nat) :
    Decidable (Serves env maxLen left) :=
  inferInstanceAs (Decidable (_ ∧ _ ∧ _))

variable {env : AdvEnv} {node : AdvNode} {data : AdvData} {maxLen : Nat}
  {param : AdvParam} {pending : Pending} {enable : Bool}

theorem sendAdvDataToDli_eq (set : AdvSet) (part : Part)
    (known : node.param = some param) (buffer : node.tempData = some data)
    (status : node.status = part.status)
    (scans : part = .scanRspData → param.scanable = true) :
    set.sendAdvDataToDli env maxLen node =
      set.sendFragment env maxLen node (part.payload data) part.command := by
  cases part with
  | advData =>
    simp [sendAdvDataToDli, known, buffer, status, Part.status,
      Part.payload, Part.command]
  | scanRspData =>
    simp [sendAdvDataToDli, known, buffer, status, Part.status,
      Part.payload, Part.command, scans]

theorem sendAdvDataToDli_part (set : AdvSet) (part : Part)
    (known : node.param = some param) (buffer : node.tempData = some data)
    (status : node.status = part.status)
    (scans : part = .scanRspData → param.scanable = true)
    (left : node.dataOffset < (part.payload data).length)
    (answered : set.outstanding = [])
    (serves : Serves env maxLen
      ((part.payload data).length - node.dataOffset)) :
    set.sendAdvDataToDli env maxLen node =
      let operation := AdvNode.getAdvDataOperation maxLen
        (part.payload data).length node.dataOffset
      let length := min ((part.payload data).length - node.dataOffset) maxLen
      { set with
        node := some { node with
          sendLen := length
          dataOffset := node.dataOffset + length }
        outstanding := [part.command operation.2
          (((part.payload data).drop node.dataOffset).take length)] } := by
  obtain ⟨longest, alloc, dli, short⟩ := serves
  have length : (AdvNode.getAdvDataOperation maxLen
      (part.payload data).length node.dataOffset).1 =
        min ((part.payload data).length - node.dataOffset) maxLen := by
    rw [AdvNode.getAdvDataOperation, if_neg (by omega)]
  have some_bytes :
      min ((part.payload data).length - node.dataOffset) maxLen ≠ 0 := by
    omega
  rw [sendAdvDataToDli_eq set part known buffer status scans, sendFragment]
  simp only [length, some_bytes, alloc, Nat.not_lt.mpr short, or_false,
    Bool.true_eq_false, if_false, send, dli, if_true, answered, nil_append]
  rfl

theorem kept_sendAdvDataToDli (part : Part)
    (account : Ledger.of set.log = some ledger)
    (recorded : Recorded ledger node) (answered : set.outstanding = [])
    (loads : Loads ledger node part pending data node.dataOffset)
    (left : node.dataOffset < (part.payload data).length)
    (serves : Serves env maxLen
      ((part.payload data).length - node.dataOffset)) :
    (set.sendAdvDataToDli env maxLen node).Kept ledger := by
  obtain ⟨param, known⟩ := Option.isSome_iff_exists.mp
    (recorded.param ▸ loads.known)
  have scans : part = .scanRspData → param.scanable = true := by
    intro second
    have scanable := (loads.late second).2
    simp only [Ledger.answersScans, ← recorded.param, known,
      Bool.and_eq_true] at scanable
    exact scanable.2
  rw [sendAdvDataToDli_part set part known loads.buffer loads.status scans
    left answered serves]
  have longest := serves.1
  constructor
  · exact account
  · intro member same
    cases same
    exact { recorded with }
  · apply Phase.sending
    · exact { loads with }
    · show 0 < min _ _
      omega
    · rfl
    · show node.dataOffset + _ ≤ _
      omega

theorem kept_create (kept : set.Kept ledger) :
    ∃ next, set.create.Kept next := by
  unfold create
  split
  case h_1 absent =>
    have phase := kept.phase
    rw [absent] at phase
    cases alone : set.outstanding with
    | cons command commands => rw [alone] at phase; cases phase
    | nil =>
      refine ⟨{}, account_note kept.account rfl, ?_, ?_⟩
      · intro node member
        cases member
        exact ⟨rfl, rfl, by decide⟩
      · show Phase {} _ set.outstanding
        rw [alone]
        exact .idle rfl rfl rfl
  case h_2 => exact ⟨ledger, kept⟩

theorem Kept.rests (kept : set.Kept ledger) (present : set.node = some node)
    (idle : node.status = .idle) :
    ledger.pending = none ∧ set.outstanding = [] ∧ node.tempData = none := by
  have phase := kept.phase
  rw [present] at phase
  have rests := phase.idle_iff.mp idle
  generalize set.outstanding = outstanding at phase
  cases phase with
  | idle rests status buffer => exact ⟨rests, rfl, buffer⟩
  | setting current => rw [current] at rests; cases rests
  | sending operation loads => rw [loads.current] at rests; cases rests
  | enabling current => rw [current] at rests; cases rests
  | removing current => rw [current] at rests; cases rests

theorem saveAdvData_saved (fits : data.scanRspData.length ≤ 0x07FF)
    (alloc : env.dataAlloc = true) :
    saveAdvData env node data =
      ({ node with tempData := some data }, true) := by
  rw [saveAdvData, if_pos ⟨fits, alloc⟩]

theorem kept_setAdvParam (kept : set.Kept ledger)
    (served : ∀ node ∈ set.node, node.status = .idle →
      data.scanRspData.length ≤ 0x07FF ∧ env.paramAlloc = true ∧
        env.dataAlloc = true ∧ env.dli = true) :
    ∃ next, (set.setAdvParam env param data).Kept next := by
  unfold setAdvParam
  split
  · exact ⟨ledger, kept⟩
  case h_2 node present =>
    have recorded := kept.recorded node present
    rw [if_neg recorded.number]
    by_cases idle : node.status = .idle
    · obtain ⟨fits, paramAlloc, dataAlloc, dli⟩ := served node present idle
      obtain ⟨rests, answered, buffer⟩ := kept.rests present idle
      rw [if_neg (not_not.mpr idle), if_pos paramAlloc,
        saveAdvData_saved fits dataAlloc]
      simp only [if_true, send, dli, put, note, answered, nil_append]
      refine ⟨_, account_note kept.account (record_accepted _ rests), ?_, ?_⟩
      · intro member same
        cases same
        exact { recorded with }
      · exact .setting rfl rfl rfl rfl
    · rw [if_pos idle]
      exact ⟨ledger, kept⟩

theorem kept_setAdvData (kept : set.Kept ledger)
    (served : ∀ node ∈ set.node, node.status = .idle →
      node.param.isSome ∧ data.scanRspData.length ≤ 0x07FF ∧
        env.dataAlloc = true ∧ Serves env maxLen data.advData.length) :
    ∃ next, (set.setAdvData env maxLen data).Kept next := by
  unfold setAdvData
  split
  · exact ⟨ledger, kept⟩
  case h_2 node present =>
    have recorded := kept.recorded node present
    by_cases idle : node.status = .idle
    · obtain ⟨known, fits, dataAlloc, serves⟩ := served node present idle
      obtain ⟨rests, answered, buffer⟩ := kept.rests present idle
      rw [if_neg (not_not.mpr idle), saveAdvData_saved fits dataAlloc]
      refine ⟨_, kept_sendAdvDataToDli .advData
        (account_note kept.account (record_accepted _ rests))
        { recorded with } answered
        ⟨rfl, rfl, rfl, ?_, rfl, rfl, ?_, rfl, fun _ => rfl, nofun⟩
        data.sized.1 serves⟩
      · exact recorded.param ▸ known
      · exact Nat.zero_le _
    · rw [if_pos idle]
      exact ⟨ledger, kept⟩

theorem kept_sendEnable (account : Ledger.of set.log = some ledger)
    (recorded : Recorded ledger node) (answered : set.outstanding = [])
    (buffer : node.tempData = none) (current : ledger.pending = some pending)
    (enables : Enables ledger pending enable) (dli : env.dli = true) :
    (set.sendEnable env node enable).Kept ledger := by
  rw [sendEnable, if_pos dli]
  simp only [send, dli, if_true, put, answered, nil_append]
  constructor
  · exact account
  · intro member same
    cases same
    exact { recorded with }
  · exact .enabling current rfl buffer enables

theorem kept_enableAdv (kept : set.Kept ledger)
    (served : ∀ node ∈ set.node, mayEnable node enable = true → env.dli =
      true) :
    ∃ next, (set.enableAdv env enable).Kept next := by
  unfold enableAdv
  split
  · exact ⟨ledger, kept⟩
  case h_2 node present =>
    by_cases may : mayEnable node enable = true
    · have idle : node.status = .idle := by
        simp only [mayEnable, Bool.and_eq_true, decide_eq_true_eq] at may
        exact may.2
      obtain ⟨rests, answered, buffer⟩ := kept.rests present idle
      have recorded := kept.recorded node present
      rw [if_pos may]
      exact ⟨_, kept_sendEnable
        (account_note kept.account (record_accepted _ rests))
        { recorded with } answered buffer
        rfl ⟨rfl, rfl⟩ (served node present may)⟩
    · rw [if_neg may]
      exact ⟨ledger, kept⟩

theorem kept_removeAdv (kept : set.Kept ledger)
    (served : ∀ node ∈ set.node, node.status = .idle ∧ env.dli = true) :
    ∃ next, (set.removeAdv env).Kept next := by
  unfold removeAdv
  split
  · exact ⟨ledger, kept⟩
  case h_2 node present =>
    obtain ⟨idle, dli⟩ := served node present
    obtain ⟨rests, answered, buffer⟩ := kept.rests present idle
    have recorded := kept.recorded node present
    rw [if_neg recorded.number]
    simp only [send, dli, if_true, put, note, answered, nil_append]
    refine ⟨_, account_note kept.account (record_accepted _ rests), ?_, ?_⟩
    · intro member same
      cases same
      exact { recorded with }
    · exact .removing rfl rfl buffer

end AdvSet

end NearLink.Devd
