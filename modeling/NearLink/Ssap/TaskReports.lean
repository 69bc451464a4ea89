import NearLink.Ssap.TaskQueueRun

/-!
# Callbacks are invoked once

A task with a callback is told nothing when its request is an empty write,
when the reply comes while the flag of the first find is still set, or when
the handler of the reply returns early.  In every run without these, each
callback is invoked once.
-/

namespace NearLink.Ssap

open Sdf Transition List Bool Client MsgCode

namespace TaskFunc

def Sends (func : TaskFunc) : Prop :=
  ∀ handle type, func ≠ writeReq handle type []

theorem Sends.request {func : TaskFunc} (sends : func.Sends)
    (callback : func.appCallback) (link : Link) (oldDevice : Bool) :
    (func.request link oldDevice).isSome := by
  cases func with
  | writeReq handle type value =>
    have written : value ≠ [] := fun empty =>
      sends handle type (empty ▸ rfl)
    simp [TaskFunc.request, written]
  | initFindReq type startHandle endHandle => rfl
  | valueInd handle type value => cases callback
  | _ => rfl

end TaskFunc

namespace LinkCall

def Sends : LinkCall → Prop
  | processRequestTask param _ => param.func.Sends
  | processHighPriorityRequestTask param _ => param.func.Sends
  | cleanLinkTaskByAppId _ => True

end LinkCall

def Reportable (opcode : MsgCode) (request pdu : Bytes) : MsgCode → Prop
  | .errorRsp => 6 ≤ pdu.length ∧ byteAt pdu 2 = opcode.value
  | .findStructureRsp => pduBaseLen ≤ pdu.length ∧ pdu.length ≤ stackMtuMax
  | .findStructureByUuidRsp =>
    pduBaseLen ≤ pdu.length ∧ pdu.length ≤ stackMtuMax
  | .readRsp =>
    pduBaseLen ≤ pdu.length ∧ pdu.length ≤ stackMtuMax ∧
      (handleNum request = 1 → byteAt pdu 1 &&& 8 ≠ 0 →
        4 ≤ pdu.length ∧ decode16 pdu 2 % 0x8000 ≤ 255)
  | .writeRsp =>
    writeResult pdu = 0 ∧ writeDataOffset < pdu.length % 0x10000 ∨
      (writeResult pdu = 1 ∨ writeResult pdu = 2) ∧
        pdu.length % 0x10000 = 6
  | .callMethodRsp => pduBaseLen ≤ pdu.length
  | _ => True

namespace TaskLink

/-- Writes are not empty.  A reply to a task that has a callback and a
registered application comes after the first find is over, and its handler
reports it. -/
def Orderly (link : TaskLink) : TaskEvent → Prop
  | .call call => call.Sends
  | .recv pdu calls =>
    (∀ call ∈ calls, call.Sends) ∧ ∀ code task opcode request,
        pdu.head?.bind ofByte = some code →
        link.checkOpcode code = .success →
        code.getOpcodeType = .rsp →
        link.curTask = ⟨some opcode, some request, some task⟩ →
        task.valid → task.func.appCallback →
          link.hasInitReqTask = false ∧ Reportable opcode request pdu code
  | .timeout calls => ∀ call ∈ calls, call.Sends

end TaskLink

variable {request pdu lastBuff : Bytes} {oldDevice : Bool} {opcode : MsgCode}
  {func : TaskFunc}

theorem errorHandle_request {link : Link}
    (built : func.request link oldDevice = some (opcode, request))
    (callback : func.appCallback) (errCode : UInt8) :
    (errorHandle request errCode opcode).isSome := by
  cases func with
  | initFindReq | valueInd => cases callback
  | writeReq handle type value =>
    simp only [TaskFunc.request] at built
    split at built <;> cases built
    · rfl
  | _ =>
    cases built
    rfl

theorem findPdu_length (msgCode : MsgCode) (type : UInt8)
    (itemType : FindItemType) (startHandle endHandle : UInt16) (uuid : Bytes) :
    6 ≤ (TaskFunc.findPdu msgCode type itemType startHandle endHandle
      uuid).length := by
  simp [TaskFunc.findPdu, encode16]

theorem find_length {link : Link}
    (built : func.request link oldDevice = some (opcode, request))
    (find : opcode = .findStructureReq ∨ opcode = .findStructureByUuidReq) :
    6 ≤ request.length := by
  cases func with
  | initFindReq | findReq | findByUuidReq =>
    cases built
    exact findPdu_length _ _ _ _ _ _
  | writeReq | valueInd =>
    simp only [TaskFunc.request] at built
    split at built <;> cases built
    · simp at find
  | _ =>
    cases built
    simp at find

theorem write_request {link : Link}
    (built : func.request link oldDevice = some (.writeReq, request)) :
    writeDataOffset < request.length ∧ byteAt request 1 = 0x23 := by
  cases func with
  | writeReq handle type value =>
    simp only [TaskFunc.request] at built
    split at built
    · cases built
    next written =>
      cases built
      have long := length_pos_of_ne_nil written
      refine ⟨?_, rfl⟩
      simp [encode16, writeDataOffset]
      omega
  | valueInd handle type value =>
    simp only [TaskFunc.request] at built
    split at built <;> cases built
  | _ => cases built

theorem findRspHandle_isSome (built : 6 ≤ lastBuff.length)
    (long : pduBaseLen ≤ pdu.length ∧ pdu.length ≤ stackMtuMax) :
    (findRspHandle lastBuff pdu).isSome := by
  unfold findRspHandle
  rw [if_neg (by omega), if_neg (by omega), if_neg (by omega)]
  rfl

theorem readRspReport_isSome
    (long : pduBaseLen ≤ pdu.length ∧ pdu.length ≤ stackMtuMax)
    (single : handleNum lastBuff = 1 → byteAt pdu 1 &&& 8 ≠ 0 →
      4 ≤ pdu.length ∧ decode16 pdu 2 % 0x8000 ≤ 255) :
    (readRspReport lastBuff pdu).isSome := by
  unfold readRspReport
  rw [if_neg (by omega), if_neg (by omega)]
  split
  next one =>
    unfold singleReadRspDecode
    split
    · rfl
    next error =>
      obtain ⟨item, code⟩ := single one error
      rw [if_neg (by unfold pduBaseLen; omega), if_neg (by omega)]
      rfl
  · rfl

theorem writeRspHandle_isSome
    (built : writeDataOffset < lastBuff.length ∧ byteAt lastBuff 1 = 0x23)
    (formed :
      writeResult pdu = 0 ∧ writeDataOffset < pdu.length % 0x10000 ∨
        (writeResult pdu = 1 ∨ writeResult pdu = 2) ∧
          pdu.length % 0x10000 = 6) :
    (writeRspHandle lastBuff pdu).isSome := by
  have verified : byteAt lastBuff 1 &&& writeReqNeedOriginRet ≠ 0 := by
    rw [built.2]
    decide
  have instant : Server.ctrlOper lastBuff ≠ 2 := by
    unfold Server.ctrlOper
    rw [built.2]
    decide
  unfold writeRspHandle
  rcases formed with ⟨success, long⟩ | ⟨failed, exact⟩
  · rw [if_neg (by unfold writeDataOffset at long; unfold pduBaseLen; omega),
      if_neg (by omega), if_pos success, if_pos verified, if_neg (by omega)]
    rfl
  · rw [if_neg (by unfold pduBaseLen; omega), if_neg (by omega)]
    rcases failed with part | cancel
    · rw [if_neg (by rw [part]; decide), if_pos (.inr part)]
      unfold handleWriteRspHandleError
      rw [if_neg (not_not.mpr exact)]
      rfl
    · rw [if_neg (by rw [cancel]; decide), if_pos (.inl ⟨cancel, instant⟩)]
      unfold handleWriteRspHandleError
      rw [if_neg (not_not.mpr exact)]
      rfl

theorem rspReport_isSome {link : TaskLink} {code : MsgCode} {task : QueuedTask}
    {base : Link}
    (current : link.curTask = ⟨some opcode, some request, some task⟩)
    (built : task.func.request base link.oldDevice = some (opcode, request))
    (callback : task.func.appCallback) (response : code.getOpcodeType = .rsp)
    (checked : code = .errorRsp ∨ code.recvOpcodeMap = some opcode)
    (reportable : Reportable opcode request pdu code) :
    (link.rspReport code pdu).isSome := by
  unfold TaskLink.rspReport
  rw [current]
  cases code with
  | errorRsp =>
    change (errorRspHandle opcode request pdu).isSome
    unfold errorRspHandle
    rw [if_neg (Nat.not_lt.mpr reportable.1), if_neg (not_not.mpr reportable.2)]
    exact errorHandle_request built callback _
  | exchangeInfoRsp => rfl
  | findStructureRsp =>
    rcases checked with other | same
    · cases other
    · cases same
      exact findRspHandle_isSome (find_length built (.inl rfl)) reportable
  | findStructureByUuidRsp =>
    rcases checked with other | same
    · cases other
    · cases same
      exact findRspHandle_isSome (find_length built (.inr rfl)) reportable
  | readRsp =>
    exact readRspReport_isSome ⟨reportable.1, reportable.2.1⟩ reportable.2.2
  | readByUuidRsp => rfl
  | writeRsp =>
    rcases checked with other | same
    · cases other
    · cases same
      exact writeRspHandle_isSome (write_request built) reportable
  | callMethodRsp =>
    change (callMethodRspHandle request pdu).isSome
    unfold callMethodRspHandle
    rw [if_neg (Nat.not_lt.mpr reportable)]
    rfl
  | _ => cases response

namespace LogEntry

def serial : LogEntry → Nat
  | queued serial _ _ => serial
  | disowned serial => serial
  | started serial => serial
  | sent serial _ _ => serial
  | answered serial _ => serial
  | expired serial => serial
  | reported serial _ _ => serial
  | freed serial => serial

def Plain : LogEntry → Prop
  | queued _ _ _ => False
  | reported _ _ _ => False
  | freed _ => False
  | _ => True

end LogEntry

open LogEntry

/-- The callback of a task was invoked before its parameters were freed. -/
def Settled (log : List LogEntry) (serial : Nat) : Prop :=
  freed serial ∈ log ∧ reports serial log = 1 ∧ ReportedFirst serial log

structure Tracked (told : Option Nat) (next : Nat)
    (tasks : List QueuedTask) (log : List LogEntry) : Prop where
  fresh : ∀ entry ∈ log, entry.serial < next
  named : ∀ task ∈ tasks, ∀ param high,
    queued task.serial param high ∈ log → param = task.toTaskParam
  owned : ∀ task ∈ tasks, task.valid = false → disowned task.serial ∈ log
  held : ∀ task ∈ tasks, freed task.serial ∉ log
  counted : ∀ task ∈ tasks,
    reports task.serial log = if told = some task.serial then 1 else 0
  settled : ∀ serial param high, queued serial param high ∈ log →
    param.func.appCallback → disowned serial ∉ log →
      (∃ task ∈ tasks, task.serial = serial) ∨ Settled log serial

namespace Tracked

variable {told : Option Nat} {next : Nat} {tasks : List QueuedTask}
variable {log : List LogEntry} {task : QueuedTask}

theorem settled_concat {serial : Nat} {entry : LogEntry}
    (settled : Settled log serial)
    (other : entry.Plain ∨ entry.serial ≠ serial) :
    Settled (log ++ [entry]) serial := by
  have silent : isReport serial entry = false := by
    cases entry with
    | reported reportedSerial reply report =>
      rcases other with plain | different
      · cases plain
      · exact beq_false_of_ne different
    | _ => rfl
  refine ⟨mem_append_left _ settled.1, ?_,
    throughout_concat.mpr ⟨settled.2.2, ?_⟩⟩
  · rw [reports_concat, silent]
    exact settled.2.1
  · rintro rfl
    rcases other with plain | different
    · cases plain
    · exact absurd rfl different

section

variable (tracked : Tracked told next tasks log)
include tracked

theorem note {entry : LogEntry} (plain : entry.Plain)
    (known : entry.serial < next) :
    Tracked told next tasks (log ++ [entry]) := by
  have silent : ∀ serial, isReport serial entry = false := by
    intro serial
    cases entry with
    | reported reportedSerial reply report => cases plain
    | _ => rfl
  constructor
  · exact forall_mem_append.mpr ⟨tracked.fresh, forall_mem_singleton.mpr known⟩
  · intro task member param high queued
    rcases mem_append.mp queued with before | last
    · exact tracked.named task member param high before
    · rw [← mem_singleton.mp last] at plain
      cases plain
  · intro task member invalid
    exact mem_append_left _ (tracked.owned task member invalid)
  · intro task member freed
    rcases mem_append.mp freed with before | last
    · exact tracked.held task member before
    · rw [← mem_singleton.mp last] at plain
      cases plain
  · intro task member
    rw [reports_concat, silent]
    exact tracked.counted task member
  · intro serial param high queued callback owned
    rcases mem_append.mp queued with before | last
    · rcases tracked.settled serial param high before callback
        (fun lost => owned (mem_append_left _ lost)) with on | settled
      · exact .inl on
      · exact .inr (settled_concat settled (.inl plain))
    · rw [← mem_singleton.mp last] at plain
      cases plain

theorem queue (param : TaskParam) (high : Bool)
    (below : ∀ serial, told = some serial → serial < next)
    (under : ∀ task ∈ tasks, task.serial < next) : Tracked told (next + 1)
      ({ param with serial := next, valid := true } :: tasks)
      (log ++ [queued next param high]) := by
  have absent : ∀ entry ∈ log, entry.serial ≠ next :=
    fun entry member => Nat.ne_of_lt (tracked.fresh entry member)
  have counts : ∀ serial,
      reports serial (log ++ [queued next param high]) = reports serial log :=
    fun serial => reports_concat serial log _
  constructor
  · exact forall_mem_append.mpr ⟨
      fun entry before => Nat.lt_succ_of_lt (tracked.fresh entry before),
      forall_mem_singleton.mpr (Nat.lt_succ_self next)⟩
  · intro task member other otherHigh queued
    rcases mem_cons.mp member with rfl | earlier
    · rcases mem_append.mp queued with before | last
      · exact absurd rfl (absent _ before)
      · cases mem_singleton.mp last
        rfl
    · rcases mem_append.mp queued with before | last
      · exact tracked.named task earlier other otherHigh before
      · have same : task.serial = next :=
          congrArg LogEntry.serial (mem_singleton.mp last)
        exact absurd same (Nat.ne_of_lt (under task earlier))
  · intro task member invalid
    rcases mem_cons.mp member with rfl | earlier
    · cases invalid
    · exact mem_append_left _ (tracked.owned task earlier invalid)
  · intro task member freed
    rcases mem_append.mp freed with before | last
    · rcases mem_cons.mp member with rfl | earlier
      · exact absent _ before rfl
      · exact tracked.held task earlier before
    · cases mem_singleton.mp last
  · intro task member
    rw [counts]
    rcases mem_cons.mp member with rfl | earlier
    · change _ = if told = some next then 1 else 0
      rw [if_neg fun same => Nat.lt_irrefl next (below next same)]
      exact reports_eq_zero fun reply report reported =>
        absent _ reported rfl
    · exact tracked.counted task earlier
  · intro serial other otherHigh queued callback owned
    rcases mem_append.mp queued with before | last
    · rcases tracked.settled serial other otherHigh before callback
        (fun lost => owned (mem_append_left _ lost)) with
        ⟨task, member, same⟩ | settled
      · exact .inl ⟨task, .tail _ member, same⟩
      · exact .inr (settled_concat settled (.inr (absent _ before).symm))
    · cases mem_singleton.mp last
      exact .inl ⟨_, .head _, rfl⟩

theorem regroup {others : List QueuedTask}
    (kept : ∀ other ∈ others, ∃ task ∈ tasks,
      task.serial = other.serial ∧ task.toTaskParam = other.toTaskParam ∧
        (other.valid = false → task.valid = false ∨
          disowned other.serial ∈ log))
    (whole : ∀ task ∈ tasks, ∃ other ∈ others, other.serial = task.serial) :
    Tracked told next others log := by
  constructor
  · exact tracked.fresh
  · intro other member param high queued
    obtain ⟨task, among, same, params, _⟩ := kept other member
    exact (tracked.named task among param high (same ▸ queued)).trans params
  · intro other member invalid
    obtain ⟨task, among, same, _, lost⟩ := kept other member
    rcases lost invalid with earlier | now
    · exact same ▸ tracked.owned task among earlier
    · exact now
  · intro other member
    obtain ⟨task, among, same, _⟩ := kept other member
    exact same ▸ tracked.held task among
  · intro other member
    obtain ⟨task, among, same, _⟩ := kept other member
    exact same ▸ tracked.counted task among
  · intro serial param high queued callback owned
    rcases tracked.settled serial param high queued callback owned with
      ⟨task, member, same⟩ | settled
    · obtain ⟨other, among, again⟩ := whole task member
      exact .inl ⟨other, among, again.trans same⟩
    · exact .inr settled

end

theorem report (tracked : Tracked none next tasks log) (member : task ∈ tasks)
    (known : task.serial < next) (reply : Option Bytes) (report : Report) :
    Tracked (some task.serial) next tasks
      (log ++ [.reported task.serial reply report]) := by
  constructor
  · exact forall_mem_append.mpr ⟨tracked.fresh, forall_mem_singleton.mpr known⟩
  · intro other among param high queued
    rcases mem_append.mp queued with before | last
    · exact tracked.named other among param high before
    · cases mem_singleton.mp last
  · intro other among invalid
    exact mem_append_left _ (tracked.owned other among invalid)
  · intro other among freed
    rcases mem_append.mp freed with before | last
    · exact tracked.held other among before
    · cases mem_singleton.mp last
  · intro other among
    rw [reports_concat, tracked.counted other among]
    simp [isReport]
  · intro serial param high queued callback owned
    rcases mem_append.mp queued with before | last
    · rcases tracked.settled serial param high before callback
        (fun lost => owned (mem_append_left _ lost)) with on | settled
      · exact .inl on
      · refine .inr (settled_concat settled (.inr ?_))
        rintro rfl
        exact tracked.held task member settled.1
    · cases mem_singleton.mp last

/-- A task leaves the link after it was told, unless it has no callback or no
application any more. -/
theorem release (tracked : Tracked told next tasks log) (member : task ∈ tasks)
    (known : task.serial < next)
    (due : task.func.appCallback → disowned task.serial ∉ log →
      told = some task.serial) {others : List QueuedTask}
    (kept : ∀ other ∈ others, other ∈ tasks ∧ other.serial ≠ task.serial)
    (whole : ∀ other ∈ tasks, other.serial ≠ task.serial → other ∈ others)
    {rest : Option Nat} (follows : ∀ serial, serial ≠ task.serial →
      (rest = some serial ↔ told = some serial)) :
    Tracked rest next others (log ++ [freed task.serial]) := by
  have counts : ∀ serial,
      reports serial (log ++ [freed task.serial]) = reports serial log :=
    fun serial => reports_concat serial log _
  constructor
  · exact forall_mem_append.mpr ⟨tracked.fresh, forall_mem_singleton.mpr known⟩
  · intro other among param high queued
    rcases mem_append.mp queued with before | last
    · exact tracked.named other (kept other among).1 param high before
    · cases mem_singleton.mp last
  · intro other among invalid
    exact mem_append_left _ (tracked.owned other (kept other among).1 invalid)
  · intro other among gone
    rcases mem_append.mp gone with before | last
    · exact tracked.held other (kept other among).1 before
    · exact (kept other among).2
        (congrArg LogEntry.serial (mem_singleton.mp last))
  · intro other among
    rw [counts, tracked.counted other (kept other among).1]
    simp only [follows other.serial (kept other among).2]
  · intro serial param high queued callback owned
    have before : LogEntry.queued serial param high ∈ log := by
      rcases mem_append.mp queued with before | last
      · exact before
      · cases mem_singleton.mp last
    have registered : disowned serial ∉ log :=
      fun lost => owned (mem_append_left _ lost)
    by_cases same : serial = task.serial
    · subst same
      have named := tracked.named task member param high before
      have told := due (named ▸ callback) registered
      have once := tracked.counted task member
      rw [if_pos told] at once
      refine .inr ⟨mem_append_right _ (mem_singleton_self _),
        (counts _).trans once, throughout_concat.mpr ⟨?_, fun _ => once⟩⟩
      intro earlier entry after split found
      refine absurd ?_ (tracked.held task member)
      rw [split, found]
      exact mem_append_right _ mem_cons_self
    · rcases tracked.settled serial param high before callback registered with
        ⟨other, among, found⟩ | settled
      · exact .inl ⟨other, whole other among (found ▸ same), found⟩
      · exact .inr (settled_concat settled (.inr (Ne.symm same)))

end Tracked

namespace TaskLink

/-- What holds between the events of an orderly run, and while the callback of
the current task runs. -/
structure Served (told : Option Nat) (link : TaskLink) : Prop where
  tracked : Tracked told link.serial link.tasks link.log
  sends : ∀ task ∈ link.paramList, task.func.Sends
  built : ∀ task opcode request, link.busy →
    link.curTask = ⟨some opcode, some request, some task⟩ →
      ∃ base, task.func.request base link.oldDevice = some (opcode, request)
  unsent : link.busy = false →
    ∀ task, link.curTask.param = some task → task.func.appCallback = false
  telling : ∀ serial, told = some serial → link.busy ∧
    ∃ task, link.curTask.param = some task ∧ task.serial = serial

variable {link : TaskLink} {told : Option Nat}

theorem Served.create (base : Link) (oldDevice hasInitReqTask : Bool) :
    (create base oldDevice hasInitReqTask).Served none := by
  refine ⟨?_, ?_, ?_, ?_, ?_⟩
  · constructor <;> simp [TaskLink.create, tasks]
  all_goals simp [TaskLink.create]

variable {task : QueuedTask}

theorem mem_tasks_current (current : link.curTask.param = some task) : task ∈ link.tasks := by
  unfold tasks
  rw [current]
  exact .head _

theorem Served.addTaskParam (served : link.Served told) (sound : link.Sound)
    {param : TaskParam} (high : Bool) (sends : param.func.Sends) :
    (link.addTaskParam param high).Served told := by
  have moved := link.addTaskParam_tasks param high
  have below : ∀ serial, told = some serial → serial < link.serial := by
    intro serial telling
    obtain ⟨_, task, current, rfl⟩ := served.telling serial telling
    exact sound.below task (mem_tasks_current current)
  refine ⟨?_, ?_, served.built, served.unsent, served.telling⟩
  · apply (served.tracked.queue param high below sound.below).regroup
    · intro task member
      exact ⟨task, moved.mem_iff.mp member, rfl, rfl, .inl⟩
    · intro task member
      exact ⟨task, moved.mem_iff.mpr member, rfl⟩
  · intro task member
    have listed : task = link.allocTaskParam param ∨ task ∈ link.paramList := by
      cases high with
      | true => exact mem_cons.mp member
      | false =>
        rcases mem_append.mp member with earlier | last
        · exact .inr earlier
        · exact .inl (mem_singleton.mp last)
    rcases listed with rfl | earlier
    · exact sends
    · exact served.sends task earlier

section

variable {rest : List QueuedTask} (served : link.Served none)
  (sound : link.Sound) (queue : link.paramList = task :: rest)
  (idle : link.busy = false)
include served sound queue idle

theorem Served.start_tracked :
    Tracked none link.serial (task :: rest)
      ((({ link with paramList := rest }).note
        (.started task.serial)).linkAddCurrentTask task).log := by
  have known : task.serial < link.serial :=
    sound.below task (mem_append_right _ (queue ▸ mem_cons_self))
  have started := @Tracked.note _ _ _ _ served.tracked
    (.started task.serial) trivial known
  cases current : link.curTask.param with
  | none =>
    have whole : link.tasks = task :: rest := by
      unfold tasks
      rw [current, queue]
      rfl
    unfold linkAddCurrentTask
    simp only [note, current]
    exact whole ▸ started
  | some old =>
    have whole : link.tasks = old :: task :: rest := by
      unfold tasks
      rw [current, queue]
      rfl
    have distinct := sound.distinct
    rw [whole] at distinct started
    have apart := (nodup_cons.mp distinct).1
    unfold linkAddCurrentTask
    simp only [note, current]
    refine started.release mem_cons_self
      (sound.below old (mem_tasks_current current)) ?_ ?_ ?_ fun _ _ => Iff.rfl
    · intro callback
      rw [served.unsent idle old current] at callback
      cases callback
    · intro other member
      exact ⟨.tail _ member, fun same => apart (same ▸ mem_map_of_mem member)⟩
    · exact forall_mem_cons.mpr ⟨fun different => absurd rfl different,
        fun _ later _ => later⟩

theorem Served.start :
    (link.start task rest).Served none := by
  have tracked := served.start_tracked sound queue idle
  have known : task.serial < link.serial :=
    sound.below task (mem_append_right _ (queue ▸ mem_cons_self))
  have sends : ∀ other ∈ task :: rest, other.func.Sends :=
    fun other member => served.sends other (queue ▸ member)
  have later : ∀ other ∈ rest, other.func.Sends :=
    fun other member => sends other (.tail _ member)
  obtain ⟨buff, timer, log, same⟩ := linkAddCurrentTask_eq
    (({ link with paramList := rest }).note (.started task.serial)) task
  unfold TaskLink.start
  dsimp only
  rw [same] at tracked ⊢
  split
  next unbuilt =>
    refine ⟨tracked, later, ?_, ?_, nofun⟩
    · intro other opcode request busy
      exact absurd (idle.symm.trans busy) false_ne_true
    · rintro _ other ⟨⟩
      cases callback : task.func.appCallback with
      | false => rfl
      | true =>
        have some := (sends task mem_cons_self).request callback
          link.link link.oldDevice
        have none := congrArg Option.isSome unbuilt
        exact absurd (none.symm.trans some) false_ne_true
  next opcode pdu built =>
    refine ⟨tracked.note trivial known, later, ?_, nofun, nofun⟩
    rintro other otherOpcode request _ ⟨⟩
    exact ⟨link.link, built⟩

end

theorem Served.excuteTasks {queue : List QueuedTask}
    (served : link.Served none) (sound : link.Sound)
    (same : link.paramList = queue) :
    (TaskLink.excuteTasks queue link).Served none := by
  induction queue generalizing link with
  | nil => exact served
  | cons task rest induction =>
    unfold TaskLink.excuteTasks
    cases state : link.busy with
    | true => exact served
    | false =>
      exact induction (served.start sound same state)
        (sound.start same state) (start_paramList _ _ _)

section

variable (served : link.Served told)
include served

section

variable (sound : link.Sound)
include sound

theorem Served.processTask {param : TaskParam} (high delay : Bool)
    (sends : param.func.Sends) :
    (link.processTask param high delay).Served told := by
  have added := served.addTaskParam sound high sends
  cases delay with
  | true => exact added
  | false =>
    cases told with
    | none => exact added.excuteTasks (sound.addTaskParam param high) rfl
    | some serial =>
      have busy := (added.telling serial rfl).1
      change (link.addTaskParam param high).excuteProcessTask.Served _
      rw [excuteProcessTask_busy busy]
      exact added

theorem Served.dropTask (member : task ∈ link.paramList) :
    (link.dropTask task).Served told := by
  have known := sound.below task (mem_append_right _ member)
  have apart : ∀ other, link.curTask.param = some other →
      other.serial ≠ task.serial := by
    intro other current same
    have distinct := sound.distinct
    unfold tasks at distinct
    rw [current] at distinct
    exact (nodup_cons.mp distinct).1 (same ▸ mem_map_of_mem member)
  have noted := @Tracked.note _ _ _ _ served.tracked
    (.disowned task.serial) trivial known
  refine ⟨?_, ?_, served.built, served.unsent, served.telling⟩
  · change Tracked told link.serial (_ ++ link.paramList.filter _)
      (link.log ++ [LogEntry.disowned task.serial] ++ [.freed task.serial])
    refine noted.release (mem_append_right _ member) known ?_ ?_ ?_
      fun _ _ => Iff.rfl
    · intro _ owned
      exact absurd (mem_append_right _ (mem_singleton_self _)) owned
    · intro other among
      rcases mem_append.mp among with current | queued
      · exact ⟨mem_append_left _ current,
          apart other (Option.mem_toList.mp current)⟩
      · obtain ⟨listed, different⟩ := mem_filter.mp queued
        exact ⟨mem_append_right _ listed, of_decide_eq_true different⟩
    · intro other among different
      rcases mem_append.mp among with current | queued
      · exact mem_append_left _ current
      · exact mem_append_right _
          (mem_filter.mpr ⟨queued, decide_eq_true different⟩)
  · exact fun other among =>
      served.sends other (mem_filter.mp among).1

theorem Served.cleanTasks {appId : Int} {queue : List QueuedTask}
    (listed : ∀ task ∈ queue, task ∈ link.paramList)
    (distinct : (queue.map QueuedTask.serial).Nodup) :
    (TaskLink.cleanTasks appId queue link).Served told := by
  induction queue generalizing link with
  | nil => exact served
  | cons task rest induction =>
    obtain ⟨absent, later⟩ := nodup_cons.mp distinct
    unfold TaskLink.cleanTasks
    split
    · have dropped :=
        served.dropTask sound (listed task mem_cons_self)
      apply induction dropped (sound.dropTask task) _ later
      intro other member
      refine mem_filter.mpr ⟨listed other (.tail _ member), decide_eq_true ?_⟩
      exact fun same => absent (same ▸ mem_map_of_mem member)
    · exact induction served sound
        (fun other member => listed other (.tail _ member)) later

theorem Served.disownCurrent (current : link.curTask.param = some task) :
    (link.disownCurrent task).Served told := by
  have known := sound.below task (mem_tasks_current current)
  have noted := @Tracked.note _ _ _ _ served.tracked
    (.disowned task.serial) trivial known
  have whole : link.tasks = task :: link.paramList := by
    unfold tasks
    rw [current]
    rfl
  rw [whole] at noted
  refine ⟨?_, served.sends, ?_, ?_, ?_⟩
  · apply noted.regroup
    · refine forall_mem_cons.mpr ⟨?_,
        fun other later => ⟨other, .tail _ later, rfl, rfl, .inl⟩⟩
      exact ⟨task, .head _, rfl, rfl, fun _ => .inr
        (mem_append_right _ (mem_singleton_self _))⟩
    · exact forall_mem_cons.mpr ⟨⟨_, .head _, rfl⟩,
        fun other later => ⟨other, .tail _ later, rfl⟩⟩
  · intro other opcode request busy same
    have was : link.curTask = ⟨some opcode, some request, some task⟩ := by
      have fields := same
      unfold TaskLink.disownCurrent at fields
      cases state : link.curTask with
      | mk lastOpcode lastBuff lastParam =>
        rw [state] at current fields
        cases fields
        cases current
        rfl
    have named : some { task with valid := false } = some other :=
      congrArg CurTask.param same
    cases named
    exact served.built task opcode request busy was
  · rintro idle other ⟨⟩
    exact served.unsent idle task current
  · intro serial telling
    obtain ⟨busy, other, same, named⟩ := served.telling serial telling
    cases current.symm.trans same
    exact ⟨busy, _, rfl, named⟩

theorem Served.cleanLinkTaskByAppId (appId : Int) :
    (link.cleanLinkTaskByAppId appId).Served told := by
  have cleaned : (TaskLink.cleanTasks appId link.paramList link).Served told :=
    served.cleanTasks sound (fun _ member => member)
      (nodup_append.mp (map_append ▸ sound.distinct)).2.1
  unfold TaskLink.cleanLinkTaskByAppId
  dsimp only
  split
  · exact cleaned
  next current =>
    split
    · exact cleaned.disownCurrent sound.cleanTasks current
    · exact cleaned

theorem Served.call {call : LinkCall} (sends : call.Sends) :
    (link.call call).Served told := by
  cases call with
  | processRequestTask param delay =>
    exact served.processTask sound false delay sends
  | processHighPriorityRequestTask param delay =>
    exact served.processTask sound true delay sends
  | cleanLinkTaskByAppId appId => exact served.cleanLinkTaskByAppId sound appId

theorem Served.calls {calls : List LinkCall}
    (sends : ∀ call ∈ calls, call.Sends) :
    (calls.foldl TaskLink.call link).Served told := by
  induction calls generalizing link with
  | nil => exact served
  | cons call calls induction =>
    exact induction (served.call sound (sends call mem_cons_self))
      (sound.call call) fun later member => sends later (.tail _ member)

end

theorem Served.other (base : Link) (flag : Bool) :
    ({ link with link := base, hasInitReqTask := flag }).Served told :=
  { served with }

end

def Due (link : TaskLink) (told : Option Nat) : Prop :=
  ∀ task, link.curTask.param = some task → task.func.appCallback →
    disowned task.serial ∉ link.log → told = some task.serial

section

variable (served : link.Served told)
include served

theorem Served.due {serial : Nat} (telling : told = some serial)
    : link.Due told := by
  intro task current _ _
  obtain ⟨_, other, same, named⟩ := served.telling serial telling
  cases current.symm.trans same
  exact telling.trans (congrArg some named.symm)

theorem Served.due_invalid (invalid : link.taskValid = false)
    : link.Due told := by
  intro task current _ owned
  refine absurd (served.tracked.owned task (mem_tasks_current current) ?_) owned
  unfold taskValid at invalid
  rw [current] at invalid
  exact invalid

theorem Served.clear (sound : link.Sound) {ended : Nat → LogEntry}
    (ending : Ending ended) (busy : link.busy) (due : link.Due told) :
    (link.linkClearCurrentTask ended).Served none := by
  obtain ⟨task, opcode, request, current, _⟩ := sound.waits busy
  have holds : link.curTask.param = some task :=
    congrArg CurTask.param current
  have known := sound.below task (mem_tasks_current holds)
  have whole : link.tasks = task :: link.paramList := by
    unfold tasks
    rw [holds]
    rfl
  have apart : task.serial ∉ link.paramList.map QueuedTask.serial := by
    have distinct := sound.distinct
    rw [whole] at distinct
    exact (nodup_cons.mp distinct).1
  have noted : Tracked told link.serial (task :: link.paramList)
      (link.log ++ [ended task.serial]) := by
    rw [← whole]
    rcases ending with ⟨pdu, rfl⟩ | rfl
    all_goals exact served.tracked.note trivial known
  unfold linkClearCurrentTask
  rw [current]
  refine ⟨?_, served.sends, ?_, ?_, ?_⟩
  · change Tracked none link.serial link.paramList
      (link.log ++ [ended task.serial] ++ [LogEntry.freed task.serial])
    refine noted.release mem_cons_self known ?_ ?_ ?_ ?_
    · intro callback owned
      exact due task holds callback fun lost => owned (mem_append_left _ lost)
    · intro other member
      exact ⟨.tail _ member, fun same => apart (same ▸ mem_map_of_mem member)⟩
    · exact forall_mem_cons.mpr ⟨fun different => absurd rfl different,
        fun _ later _ => later⟩
    · intro serial different
      refine ⟨nofun, fun telling => ?_⟩
      obtain ⟨_, other, same, named⟩ := served.telling serial telling
      cases holds.symm.trans same
      exact absurd named.symm different
  · intro other otherOpcode otherRequest waiting
    cases waiting
  · intro _ other waiting
    cases waiting
  · intro serial telling
    cases telling

end

theorem Served.taskExecuteCallback (served : link.Served none)
    (sound : link.Sound) {opcode : MsgCode} {reply : Option Bytes}
    (report : Report) {calls : List LinkCall} (busy : link.busy)
    (expects : link.curTask.opcode = some opcode)
    (answers : ∀ pdu, reply = some pdu → RepliesTo opcode pdu)
    (sends : ∀ call ∈ calls, call.Sends) :
    ∃ told, (link.taskExecuteCallback reply report calls).Served told ∧
      (link.taskExecuteCallback reply report calls).Due told := by
  obtain ⟨task, sentOpcode, request, current, _⟩ := sound.waits busy
  cases expects.symm.trans (congrArg CurTask.opcode current)
  have holds : link.curTask.param = some task :=
    congrArg CurTask.param current
  unfold TaskLink.taskExecuteCallback
  simp only [current]
  split
  · have told := sound.report report current busy answers
    have noted : (link.note (.reported task.serial reply report)).Served
        (some task.serial) := by
      refine ⟨?_, served.sends, served.built, served.unsent, ?_⟩
      · exact served.tracked.report (mem_tasks_current holds)
          (sound.below task (mem_tasks_current holds)) reply report
      · rintro serial ⟨⟩
        exact ⟨busy, task, holds, rfl⟩
    have called := noted.calls told sends
    exact ⟨_, called, called.due rfl⟩
  next silent =>
    refine ⟨none, served, ?_⟩
    intro other same callback _
    cases holds.symm.trans same
    exact absurd callback silent

theorem valueInd_silent {func : TaskFunc} {base : Link} {oldDevice : Bool}
    {request : Bytes}
    (built : func.request base oldDevice = some (.valueInd, request)) :
    func.appCallback = false := by
  cases func with
  | valueInd handle type value => rfl
  | writeReq handle type value =>
    simp only [TaskFunc.request] at built
    split at built <;> cases built
  | _ => cases built

theorem Served.waits (served : link.Served told) (sound : link.Sound)
    (busy : link.busy) :
    ∃ task opcode request base,
      link.curTask = ⟨some opcode, some request, some task⟩ ∧
        task.func.request base link.oldDevice = some (opcode, request) := by
  obtain ⟨task, opcode, request, current, _⟩ := sound.waits busy
  obtain ⟨base, built⟩ := served.built task opcode request busy current
  exact ⟨task, opcode, request, base, current, built⟩

section

variable (served : link.Served none)
include served

variable (sound : link.Sound) {calls : List LinkCall} {pdu : Bytes}
  {code : MsgCode}
include sound

section

variable (received : pdu.head?.bind ofByte = some code) (busy : link.busy)
  (checked : code = .errorRsp ∨ code.recvOpcodeMap = link.curTask.opcode)
  (sends : ∀ call ∈ calls, call.Sends)
include received busy checked sends

theorem Served.rspDispatch
    (reportable : ∀ task opcode request,
      link.curTask = ⟨some opcode, some request, some task⟩ →
      task.func.appCallback → code.getOpcodeType = .rsp ∧
      Reportable opcode request pdu code) :
    ∃ told, (link.rspDispatch code pdu calls).Served told ∧
      (link.rspDispatch code pdu calls).Due told := by
  obtain ⟨task, opcode, request, base, current, built⟩ :=
    served.waits sound busy
  have expects : link.curTask.opcode = some opcode :=
    congrArg CurTask.opcode current
  unfold TaskLink.rspDispatch
  dsimp only
  split
  next unreported =>
    refine ⟨none, served.other _ link.hasInitReqTask, ?_⟩
    intro other same callback _
    cases (congrArg CurTask.param current).symm.trans same
    obtain ⟨response, formed⟩ :=
      reportable task opcode request current callback
    have missing := congrArg Option.isSome unreported
    refine absurd (missing.symm.trans ?_) false_ne_true
    apply rspReport_isSome
    · exact current
    · exact built
    · exact callback
    · exact response
    · exact expects ▸ checked
    · exact formed
  next report reported =>
    apply Served.taskExecuteCallback
    · exact served.other _ link.hasInitReqTask
    · exact sound.other _ link.hasInitReqTask
    · exact busy
    · exact expects
    · rintro answer ⟨⟩
      apply rspReport_answers received _ _ reported
      · exact expects
      · exact checked
    · exact sends

theorem Served.recvRsp
    (reportable : ∀ task opcode request,
      link.curTask = ⟨some opcode, some request, some task⟩ → task.valid →
      task.func.appCallback → code.getOpcodeType = .rsp ∧
      link.hasInitReqTask = false ∧ Reportable opcode request pdu code) :
    (link.recvRsp code pdu calls).Served none := by
  obtain ⟨task, opcode, request, base, current, built⟩ :=
    served.waits sound busy
  have holds : link.curTask.param = some task :=
    congrArg CurTask.param current
  have valid : link.taskValid = task.valid := by
    unfold taskValid
    rw [holds]
  have ending : Ending fun serial => .answered serial pdu := .inl ⟨pdu, rfl⟩
  unfold TaskLink.recvRsp
  split
  next first =>
    have cleared := (sound.other link.link false).clear ending busy
    refine Served.excuteTasks ?_ cleared rfl
    refine (served.other link.link false).clear
      (sound.other link.link false) ending busy ?_
    intro other same callback owned
    cases holds.symm.trans same
    cases state : task.valid with
    | false =>
      exact absurd (served.tracked.owned task (mem_tasks_current holds)
        state) owned
    | true =>
      obtain ⟨_, done, _⟩ :=
        reportable task opcode request current state callback
      exact absurd (done.symm.trans first.1) false_ne_true
  · split
    next registered =>
      have dispatched := sound.rspDispatch calls received busy checked
      obtain ⟨told, handled, due⟩ := served.rspDispatch sound received busy
        checked sends fun other otherOpcode otherRequest same callback => by
          cases holds.symm.trans (congrArg CurTask.param same)
          obtain ⟨response, _, formed⟩ := reportable task otherOpcode
            otherRequest same (valid ▸ registered) callback
          exact ⟨response, formed⟩
      exact Served.excuteTasks
        (handled.clear dispatched.1 ending dispatched.2 due)
        (dispatched.1.clear ending dispatched.2) rfl
    next lost =>
      exact Served.excuteTasks (served.clear sound ending busy
          (served.due_invalid (eq_false_of_not_eq_true lost)))
        (sound.clear ending busy) rfl

end

theorem Served.recv (orderly : link.Orderly (.recv pdu calls)) :
    (link.recv pdu calls).Served none := by
  unfold TaskLink.recv
  cases received : pdu.head?.bind ofByte with
  | none => exact served
  | some code =>
    dsimp only
    split
    · exact served
    next passed =>
      have accepted := not_not.mp passed
      split
      next response =>
        obtain ⟨busy, checked⟩ := checkOpcode_response accepted response
        apply served.recvRsp sound received busy checked orderly.1
        intro task opcode request current valid callback
        have replies : code.getOpcodeType = .rsp := by
          rcases response with rsp | ack
          · exact rsp
          · obtain ⟨base, built⟩ :=
              served.built task opcode request busy current
            have indicated : opcode = .valueInd := by
              cases code <;> simp_all [getOpcodeType,
                recvOpcodeMap]
            subst indicated
            rw [valueInd_silent built] at callback
            cases callback
        exact ⟨replies, orderly.2 code task opcode request received accepted
          replies current valid callback⟩
      · exact (served.other _ link.hasInitReqTask).calls
          (sound.other _ link.hasInitReqTask) orderly.1

theorem Served.timeoutCbk (busy : link.busy)
    (sends : ∀ call ∈ calls, call.Sends) :
    (link.timeoutCbk calls).Served none := by
  obtain ⟨task, opcode, request, base, current, built⟩ :=
    served.waits sound busy
  have expects : link.curTask.opcode = some opcode :=
    congrArg CurTask.opcode current
  have ending : Ending .expired := .inr rfl
  unfold TaskLink.timeoutCbk
  dsimp only
  split
  · split
    next unreported =>
      refine Served.excuteTasks ?_
        ((sound.other link.link false).clear ending busy) rfl
      refine (served.other link.link false).clear
        (sound.other link.link false) ending busy ?_
      intro other same callback _
      cases (congrArg CurTask.param current).symm.trans same
      have some := errorHandle_request built callback errcodeTimeout
      unfold timeoutReport at unreported
      simp only [current] at unreported
      rw [unreported] at some
      cases some
    next report _ =>
      have told := @Sound.taskExecuteCallback _
        (sound.other link.link false) opcode none report calls busy expects
        (by simp)
      obtain ⟨serial, handled, due⟩ := @Served.taskExecuteCallback _
        (served.other link.link false) (sound.other link.link false) opcode
        none report calls busy expects (by simp) sends
      exact Served.excuteTasks (handled.clear told.1 ending told.2 due)
        (told.1.clear ending told.2) rfl
  next lost =>
    exact Served.excuteTasks (served.clear sound ending busy
        (served.due_invalid (eq_false_of_not_eq_true lost)))
      (sound.clear ending busy) rfl

theorem Served.step {event : TaskEvent} (orderly : link.Orderly event) :
    (link.step event).Served none := by
  cases event with
  | call call => exact served.call sound orderly
  | recv pdu calls => exact served.recv sound orderly
  | timeout calls =>
    unfold TaskLink.step
    dsimp only
    split
    next timer =>
      exact served.timeoutCbk sound (sound.timed timer) orderly
    · exact served

end

theorem kept_step (link : TaskLink) (event : TaskEvent)
    (kept : link.Sound ∧ link.Served none) (orderly : link.Orderly event) :
    (link.step event).Sound ∧ (link.step event).Served none :=
  ⟨kept.1.step event, kept.2.step kept.1 orderly⟩

end TaskLink

end NearLink.Ssap
