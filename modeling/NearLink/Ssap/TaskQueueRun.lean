import NearLink.Ssap.TaskQueue

/-!
# One request at a time

In every run of a link at most one request awaits its reply, the tasks are
started in the order of the queue, and a task is told of replies to its own
opcode only.  Every callback is invoked once in the runs in which every reply
can be reported.
-/

namespace NearLink.Ssap

open Sdf Transition List MsgCode

namespace LogEntry

section

variable (log : List LogEntry) (entry : LogEntry)

@[simp] theorem waiting_concat :
    waiting (log ++ [entry]) = waitingAfter (waiting log) entry := by
  simp [waiting]

@[simp] theorem awaited_concat :
    awaited (log ++ [entry]) = awaitedAfter (awaited log) entry := by
  simp [awaited]

end

@[simp] theorem reports_concat (serial : Nat) (log : List LogEntry)
    (entry : LogEntry) :
    reports serial (log ++ [entry]) =
      reports serial log + if isReport serial entry then 1 else 0 := by
  simp [reports, countP_singleton]

variable {serial : Nat} {log : List LogEntry}

theorem filter_absent {serials : List Nat} (absent : serial ∉ serials) :
    serials.filter (· ≠ serial) = serials := by
  apply filter_eq_self.mpr
  intro other member
  exact decide_eq_true fun same => absent (same ▸ member)

theorem reports_eq_zero
    (absent : ∀ reply report, reported serial reply report ∉ log) :
    reports serial log = 0 := by
  apply countP_eq_zero.mpr
  intro entry member report
  cases entry with
  | reported other reply data =>
    have same : other = serial := by simpa [isReport] using report
    subst same
    exact absent reply data member
  | _ => simp [isReport] at report

structure Proper (log : List LogEntry) : Prop where
  single : OneAwaited log
  ordered : InQueueOrder log
  answers : RepliesOnly log

theorem Proper.nil : Proper [] :=
  ⟨throughout_nil _, throughout_nil _, throughout_nil _⟩

theorem Proper.concat {entry : LogEntry} (proper : Proper log)
    (awaits : (awaitedAfter (awaited log) entry).length ≤ 1)
    (starts : ∀ serial, entry = .started serial →
      (waiting log).head? = some serial)
    (tells : ∀ serial pdu report, entry = .reported serial (some pdu) report →
      ∃ opcode request, .sent serial opcode request ∈ log ∧
        RepliesTo opcode pdu) : Proper (log ++ [entry]) := by
  refine ⟨throughout_concat.mpr ⟨proper.single, ?_⟩,
    throughout_concat.mpr ⟨proper.ordered, starts⟩,
    throughout_concat.mpr ⟨proper.answers, tells⟩⟩
  simpa using awaits

end LogEntry

namespace TaskLink

open LogEntry

def tasks (link : TaskLink) : List QueuedTask :=
  link.curTask.param.toList ++ link.paramList

structure Sound (link : TaskLink) : Prop where
  queue : waiting link.log = link.paramList.map QueuedTask.serial
  distinct : (link.tasks.map QueuedTask.serial).Nodup
  below : ∀ task ∈ link.tasks, task.serial < link.serial
  idle : link.busy = false → awaited link.log = []
  waits : link.busy → ∃ task opcode pdu,
    link.curTask = ⟨some opcode, some pdu, some task⟩ ∧
      awaited link.log = [task.serial] ∧
      sent task.serial opcode pdu ∈ link.log ∧ link.timer
  timed : link.timer → link.busy
  proper : Proper link.log

variable {link : TaskLink}

theorem Sound.create (base : Link) (oldDevice hasInitReqTask : Bool) :
    (create base oldDevice hasInitReqTask).Sound := by
  constructor <;> simp [TaskLink.create, tasks, waiting, awaited, Proper.nil]

theorem Sound.awaited_le (sound : link.Sound) :
    (awaited link.log).length ≤ 1 := by
  cases state : link.busy with
  | false => simp [sound.idle state]
  | true =>
    obtain ⟨task, opcode, pdu, current, awaits, _⟩ := sound.waits state
    simp [awaits]

theorem addTaskParam_tasks (link : TaskLink) (param : TaskParam) (high : Bool) :
    (link.addTaskParam param high).tasks.Perm
      (link.allocTaskParam param :: link.tasks) := by
  cases high with
  | true => exact perm_middle
  | false =>
    change (_ ++ (link.paramList ++ [_])).Perm _
    rw [← append_assoc]
    exact perm_append_comm

variable {task : QueuedTask} {code : MsgCode}

section

variable (sound : link.Sound)
include sound

theorem Sound.addTaskParam (param : TaskParam) (high : Bool) :
    (link.addTaskParam param high).Sound := by
  have fresh : ∀ task ∈ link.tasks, task.serial ≠ link.serial :=
    fun task member => Nat.ne_of_lt (sound.below task member)
  have moved := link.addTaskParam_tasks param high
  have awaits : awaited (link.addTaskParam param high).log =
      awaited link.log := awaited_concat _ _
  constructor
  · change waiting (link.log ++ [_]) = _
    rw [waiting_concat, sound.queue]
    cases high <;>
      simp [waitingAfter, TaskLink.addTaskParam, allocTaskParam]
  · apply (moved.map QueuedTask.serial).nodup_iff.mpr
    refine nodup_cons.mpr ⟨?_, sound.distinct⟩
    simp only [mem_map, not_exists, not_and]
    exact fun task member => fresh task member
  · intro task member
    rcases mem_cons.mp (moved.subset member) with rfl | earlier
    · exact Nat.lt_succ_self _
    · exact Nat.lt_succ_of_lt (sound.below task earlier)
  · intro idle
    rw [awaits]
    exact sound.idle idle
  · intro busy
    obtain ⟨task, opcode, pdu, current, awaited, sent, timer⟩ :=
      sound.waits busy
    exact ⟨task, opcode, pdu, current, awaits.trans awaited,
      mem_append_left _ sent, timer⟩
  · exact sound.timed
  · apply sound.proper.concat
    · exact sound.awaited_le
    · rintro serial ⟨⟩
    · rintro serial pdu report ⟨⟩

theorem Sound.pop {rest : List QueuedTask}
    (queue : link.paramList = task :: rest) :
    (({ link with paramList := rest }).note (.started task.serial)).Sound := by
  have first := sound.queue
  rw [queue] at first
  have distinct := sound.distinct
  unfold tasks at distinct
  rw [queue, map_append] at distinct
  have absent : task.serial ∉ rest.map QueuedTask.serial :=
    (nodup_cons.mp (nodup_append.mp distinct).2.1).1
  constructor
  · change waiting (link.log ++ [_]) = rest.map _
    rw [waiting_concat, first]
    exact (filter_cons_of_neg (by simp)).trans (filter_absent absent)
  · refine List.Nodup.sublist ?_ sound.distinct
    unfold tasks
    rw [queue]
    exact ((sublist_cons_self task rest).append_left _).map _
  · intro other member
    apply sound.below
    unfold tasks
    rw [queue]
    exact ((sublist_cons_self task rest).append_left _).subset member
  · intro idle
    exact (awaited_concat _ _).trans (sound.idle idle)
  · intro busy
    obtain ⟨current, opcode, pdu, same, awaits, sent, timer⟩ :=
      sound.waits busy
    exact ⟨current, opcode, pdu, same, (awaited_concat _ _).trans awaits,
      mem_append_left _ sent, timer⟩
  · exact sound.timed
  · apply sound.proper.concat
    · exact sound.awaited_le
    · rintro serial ⟨⟩
      rw [first]
      rfl
    · rintro serial pdu report ⟨⟩

theorem Sound.linkAddCurrentTask (idle : link.busy = false)
    (absent : task.serial ∉ link.paramList.map QueuedTask.serial)
    (below : task.serial < link.serial) :
    (link.linkAddCurrentTask task).Sound := by
  have queued := (nodup_append.mp (map_append ▸ sound.distinct)).2.1
  have tasksBelow : ∀ other ∈ task :: link.paramList,
      other.serial < link.serial := by
    exact forall_mem_cons.mpr ⟨below,
      fun other later => sound.below other (mem_append_right _ later)⟩
  cases current : link.curTask.param with
  | none =>
    unfold TaskLink.linkAddCurrentTask
    rw [current]
    exact ⟨sound.queue, nodup_cons.mpr ⟨absent, queued⟩, tasksBelow,
      sound.idle, fun busy => absurd busy (by simp [idle]), sound.timed,
      sound.proper⟩
  | some old =>
    have gone : old.serial ∉ link.paramList.map QueuedTask.serial := by
      have distinct := sound.distinct
      unfold tasks at distinct
      rw [current] at distinct
      exact (nodup_cons.mp distinct).1
    unfold TaskLink.linkAddCurrentTask
    rw [current]
    refine ⟨?_, nodup_cons.mpr ⟨absent, queued⟩, tasksBelow, ?_,
      fun busy => absurd busy (by simp [freeTaskParams, note, idle]), nofun,
      ?_⟩
    · change waiting (link.log ++ [_]) = link.paramList.map _
      rw [waiting_concat, sound.queue]
      exact filter_absent gone
    · intro _
      exact (awaited_concat _ _).trans (sound.idle idle)
    · apply sound.proper.concat
      · exact sound.awaited_le
      · rintro serial ⟨⟩
      · rintro serial pdu report ⟨⟩

theorem Sound.send {opcode : MsgCode} {pdu : Bytes} (idle : link.busy = false)
    (current : link.curTask.param = some task) :
    (link.send task.serial opcode pdu).Sound := by
  have awaits : awaited (link.log ++ [LogEntry.sent task.serial opcode pdu]) =
      [task.serial] := by
    rw [awaited_concat, sound.idle idle]
    rfl
  refine ⟨(waiting_concat _ _).trans sound.queue, sound.distinct, sound.below,
    ?_, ?_, fun _ => rfl, ?_⟩
  · rintro ⟨⟩
  · intro _
    exact ⟨task, opcode, pdu, congrArg _ current, awaits,
      mem_append_right _ (mem_singleton_self _), rfl⟩
  · apply sound.proper.concat
    · rw [← awaited_concat, awaits]
      exact le_rfl
    · rintro serial ⟨⟩
    · rintro serial other report ⟨⟩

end

theorem linkAddCurrentTask_eq (link : TaskLink) (task : QueuedTask) :
    ∃ buff timer log, link.linkAddCurrentTask task =
      { link with
        curTask := ⟨link.curTask.opcode, buff, some task⟩
        timer := timer
        log := log } := by
  unfold linkAddCurrentTask
  cases link.curTask.param with
  | none => exact ⟨link.curTask.buff, link.timer, link.log, rfl⟩
  | some old => exact ⟨none, false, link.log ++ [LogEntry.freed old.serial], rfl⟩

theorem Sound.start (sound : link.Sound) {rest : List QueuedTask}
    (queue : link.paramList = task :: rest) (idle : link.busy = false) :
    (link.start task rest).Sound := by
  have distinct := sound.distinct
  unfold tasks at distinct
  rw [queue, map_append] at distinct
  have added := (sound.pop queue).linkAddCurrentTask idle
    (nodup_cons.mp (nodup_append.mp distinct).2.1).1
    (sound.below task (mem_append_right _ (queue ▸ mem_cons_self)))
  obtain ⟨buff, timer, log, same⟩ := linkAddCurrentTask_eq
    (({ link with paramList := rest }).note (.started task.serial)) task
  unfold TaskLink.start
  dsimp only
  rw [same] at added ⊢
  split
  · exact added
  · exact added.send idle rfl

theorem start_paramList (link : TaskLink) (task : QueuedTask)
    (rest : List QueuedTask) : (link.start task rest).paramList = rest := by
  obtain ⟨buff, timer, log, same⟩ := linkAddCurrentTask_eq
    (({ link with paramList := rest }).note (.started task.serial)) task
  unfold start
  dsimp only
  rw [same]
  split <;> rfl

section

variable (sound : link.Sound) {queue : List QueuedTask}
include sound

theorem Sound.excuteTasks (same : link.paramList = queue) :
    (TaskLink.excuteTasks queue link).Sound := by
  induction queue generalizing link with
  | nil => exact sound
  | cons task rest induction =>
    unfold TaskLink.excuteTasks
    cases state : link.busy with
    | true => exact sound
    | false => exact induction (sound.start same state) (start_paramList _ _ _)

theorem Sound.excuteProcessTask : link.excuteProcessTask.Sound :=
  sound.excuteTasks rfl

theorem Sound.processTask (param : TaskParam) (high delay : Bool) :
    (link.processTask param high delay).Sound := by
  have added := sound.addTaskParam param high
  cases delay with
  | true => exact added
  | false => exact added.excuteProcessTask

theorem Sound.dropTask (task : QueuedTask) : (link.dropTask task).Sound := by
  have fewer : (link.dropTask task).tasks.Sublist link.tasks :=
    filter_sublist.append_left _
  have awaits : awaited (link.dropTask task).log = awaited link.log :=
    (awaited_concat _ _).trans (awaited_concat _ _)
  refine ⟨?_, List.Nodup.sublist (fewer.map _) sound.distinct,
    fun other member => sound.below other (fewer.subset member), ?_, ?_,
    sound.timed, ?_⟩
  · change waiting (link.log ++ [_] ++ [_]) = (link.paramList.filter _).map _
    rw [waiting_concat, waiting_concat]
    simp [waitingAfter, sound.queue, filter_map, Function.comp_def]
  · intro idle
    rw [awaits]
    exact sound.idle idle
  · intro busy
    obtain ⟨current, opcode, pdu, same, awaited, sent, timer⟩ :=
      sound.waits busy
    exact ⟨current, opcode, pdu, same, awaits.trans awaited,
      mem_append_left _ (mem_append_left _ sent), timer⟩
  · apply Proper.concat
    · apply sound.proper.concat
      · exact sound.awaited_le
      · rintro serial ⟨⟩
      · rintro serial pdu report ⟨⟩
    · change (awaited (link.log ++ [_])).length ≤ 1
      rw [awaited_concat]
      exact sound.awaited_le
    · rintro serial ⟨⟩
    · rintro serial pdu report ⟨⟩

theorem Sound.cleanTasks {appId : Int} :
    (TaskLink.cleanTasks appId queue link).Sound := by
  induction queue generalizing link with
  | nil => exact sound
  | cons task rest induction =>
    unfold TaskLink.cleanTasks
    split
    · exact induction (sound.dropTask task)
    · exact induction sound

theorem Sound.disownCurrent (current : link.curTask.param = some task) :
    (link.disownCurrent task).Sound := by
  have serials : (link.disownCurrent task).tasks.map QueuedTask.serial =
      link.tasks.map QueuedTask.serial := by
    unfold tasks
    rw [current]
    rfl
  refine ⟨(waiting_concat _ _).trans sound.queue, serials ▸ sound.distinct,
    ?_, fun idle => (awaited_concat _ _).trans (sound.idle idle), ?_,
    sound.timed, ?_⟩
  · intro other member
    have named := mem_map_of_mem (f := QueuedTask.serial) member
    rw [serials] at named
    obtain ⟨earlier, among, same⟩ := mem_map.mp named
    exact same ▸ sound.below earlier among
  · intro busy
    obtain ⟨awaitedTask, opcode, pdu, same, awaits, sent, timer⟩ :=
      sound.waits busy
    cases current.symm.trans (congrArg CurTask.param same)
    refine ⟨{ task with valid := false }, opcode, pdu, ?_,
      (awaited_concat _ _).trans awaits, mem_append_left _ sent, timer⟩
    unfold TaskLink.disownCurrent
    rw [same]
  · apply sound.proper.concat
    · exact sound.awaited_le
    · rintro serial ⟨⟩
    · rintro serial pdu report ⟨⟩

theorem Sound.cleanLinkTaskByAppId (appId : Int) :
    (link.cleanLinkTaskByAppId appId).Sound := by
  have cleaned : (TaskLink.cleanTasks appId link.paramList link).Sound :=
    sound.cleanTasks
  unfold TaskLink.cleanLinkTaskByAppId
  dsimp only
  split
  · exact cleaned
  next current =>
    split
    · exact cleaned.disownCurrent current
    · exact cleaned

theorem Sound.call (call : LinkCall) : (link.call call).Sound := by
  cases call with
  | processRequestTask param delay => exact sound.processTask param false delay
  | processHighPriorityRequestTask param delay =>
    exact sound.processTask param true delay
  | cleanLinkTaskByAppId appId => exact sound.cleanLinkTaskByAppId appId

theorem Sound.calls (calls : List LinkCall) :
    (calls.foldl TaskLink.call link).Sound := by
  induction calls generalizing link with
  | nil => exact sound
  | cons call calls induction => exact induction (sound.call call)

end

theorem excuteProcessTask_busy (busy : link.busy) :
    link.excuteProcessTask = link := by
  unfold excuteProcessTask
  cases link.paramList with
  | nil => rfl
  | cons task rest => exact if_pos busy

theorem cleanTasks_busy (appId : Int) (queue : List QueuedTask) :
    (cleanTasks appId queue link).busy = link.busy := by
  induction queue generalizing link with
  | nil => rfl
  | cons task rest induction =>
    unfold cleanTasks
    split <;> exact induction

theorem call_busy (busy : link.busy) (call : LinkCall) :
    (link.call call).busy := by
  have processed : ∀ param high delay,
      (link.processTask param high delay).busy := by
    intro param high delay
    unfold processTask
    cases delay with
    | true => exact busy
    | false =>
      have added : (link.addTaskParam param high).busy := busy
      simp only [excuteProcessTask_busy added]
      exact busy
  cases call with
  | processRequestTask param delay => exact processed param false delay
  | processHighPriorityRequestTask param delay =>
    exact processed param true delay
  | cleanLinkTaskByAppId appId =>
    have cleaned : (cleanTasks appId link.paramList link).busy :=
      (cleanTasks_busy _ _).trans busy
    change (link.cleanLinkTaskByAppId appId).busy
    unfold cleanLinkTaskByAppId
    dsimp only
    split
    · exact cleaned
    · split <;> exact cleaned

theorem calls_busy (busy : link.busy) (calls : List LinkCall) :
    (calls.foldl TaskLink.call link).busy := by
  induction calls generalizing link with
  | nil => exact busy
  | cons call calls induction => exact induction (call_busy busy call)

theorem Sound.report (sound : link.Sound) {opcode : MsgCode} {request : Bytes}
    {reply : Option Bytes} (report : Report)
    (current : link.curTask = ⟨some opcode, some request, some task⟩)
    (busy : link.busy)
    (answers : ∀ pdu, reply = some pdu → RepliesTo opcode pdu) :
    (link.note (.reported task.serial reply report)).Sound := by
  obtain ⟨waiting, sentOpcode, pdu, same, awaits, sent, timer⟩ :=
    sound.waits busy
  cases current.symm.trans same
  refine ⟨(waiting_concat _ _).trans sound.queue, sound.distinct, sound.below,
    fun idle => (awaited_concat _ _).trans (sound.idle idle), ?_, sound.timed,
    ?_⟩
  · intro _
    exact ⟨task, opcode, request, current, (awaited_concat _ _).trans awaits,
      mem_append_left _ sent, timer⟩
  · apply sound.proper.concat
    · exact sound.awaited_le
    · rintro serial ⟨⟩
    · rintro serial other told ⟨⟩
      exact ⟨opcode, request, sent, answers other rfl⟩

def Ending (ended : Nat → LogEntry) : Prop :=
  (∃ pdu, ended = fun serial => .answered serial pdu) ∨ ended = .expired

theorem Sound.clear (sound : link.Sound) {ended : Nat → LogEntry}
    (ending : Ending ended) (busy : link.busy) :
    (link.linkClearCurrentTask ended).Sound := by
  obtain ⟨task, opcode, request, current, awaits, sent, timer⟩ :=
    sound.waits busy
  have gone : task.serial ∉ link.paramList.map QueuedTask.serial := by
    have distinct := sound.distinct
    unfold tasks at distinct
    rw [current] at distinct
    exact (nodup_cons.mp distinct).1
  have ends : awaited (link.log ++ [ended task.serial]) = [] ∧
      waiting (link.log ++ [ended task.serial]) = waiting link.log := by
    rw [awaited_concat, waiting_concat, awaits]
    rcases ending with ⟨pdu, rfl⟩ | rfl
    all_goals exact ⟨by simp [awaitedAfter], rfl⟩
  have proper : Proper (link.log ++ [ended task.serial]) := by
    apply sound.proper.concat
    · rw [← awaited_concat, ends.1]
      exact Nat.zero_le _
    · intro serial same
      rcases ending with ⟨pdu, rfl⟩ | rfl <;> cases same
    · intro serial pdu report same
      rcases ending with ⟨pdu, rfl⟩ | rfl <;> cases same
  unfold linkClearCurrentTask
  rw [current]
  refine ⟨?_, ?_, ?_, ?_, nofun, nofun, ?_⟩
  · change waiting (link.log ++ [_] ++ [_]) = link.paramList.map _
    rw [waiting_concat, ends.2, sound.queue]
    exact filter_absent gone
  · exact (nodup_append.mp (map_append ▸ sound.distinct)).2.1
  · intro other member
    exact sound.below other (mem_append_right _ member)
  · intro _
    exact (awaited_concat _ _).trans ends.1
  · apply proper.concat
    · rw [ends.1]
      exact Nat.zero_le _
    · rintro serial ⟨⟩
    · rintro serial pdu report ⟨⟩

theorem Sound.other (sound : link.Sound) (base : Link) (flag : Bool) :
    ({ link with link := base, hasInitReqTask := flag }).Sound :=
  { sound with }

theorem Sound.taskExecuteCallback (sound : link.Sound) {opcode : MsgCode}
    {reply : Option Bytes} (report : Report) (calls : List LinkCall)
    (busy : link.busy) (expects : link.curTask.opcode = some opcode)
    (answers : ∀ pdu, reply = some pdu → RepliesTo opcode pdu) :
    (link.taskExecuteCallback reply report calls).Sound ∧
      (link.taskExecuteCallback reply report calls).busy := by
  obtain ⟨task, sentOpcode, request, current, _⟩ := sound.waits busy
  cases expects.symm.trans (congrArg CurTask.opcode current)
  unfold TaskLink.taskExecuteCallback
  simp only [current]
  split
  · have told := sound.report report current busy answers
    have stays : (link.note (.reported task.serial reply report)).busy := busy
    exact ⟨told.calls calls, calls_busy stays calls⟩
  · exact ⟨sound, busy⟩

theorem checkOpcode_response (checked : link.checkOpcode code = .success)
    (response : code.getOpcodeType = .rsp ∨ code.getOpcodeType = .ack) :
    link.busy ∧
      (code = .errorRsp ∨ code.recvOpcodeMap = link.curTask.opcode) := by
  unfold checkOpcode at checked
  by_cases error : code = .errorRsp
  · rw [if_pos error] at checked
    split at checked
    next busy =>
      exact ⟨busy, .inl error⟩
    · cases checked
  · rw [if_neg error] at checked
    cases expected : code.recvOpcodeMap with
    | none => cases code <;> simp_all [getOpcodeType,
        recvOpcodeMap]
    | some lastOpcode =>
      simp only [expected] at checked
      split at checked
      · cases checked
      next busy =>
        split at checked
        · cases checked
        next same =>
          exact ⟨by simpa using busy, .inr (not_not.mp same).symm⟩

theorem rspReport_answers {opcode : MsgCode} {pdu : Bytes} {report : Report}
    (received : pdu.head?.bind ofByte = some code)
    (expects : link.curTask.opcode = some opcode)
    (checked : code = .errorRsp ∨ code.recvOpcodeMap = link.curTask.opcode)
    (reported : link.rspReport code pdu = some report) :
    RepliesTo opcode pdu := by
  refine ⟨code, received, ?_⟩
  rcases checked with rfl | same
  · right
    refine ⟨rfl, ?_⟩
    unfold rspReport at reported
    rw [expects] at reported
    cases buff : link.curTask.buff with
    | none => simp [buff] at reported
    | some lastBuff =>
      simp only [buff, Client.errorRspHandle] at reported
      split at reported
      · cases reported
      · split at reported
        · cases reported
        next named =>
          exact not_not.mp named
  · exact .inl (same.trans expects)

section

variable (sound : link.Sound) {code : MsgCode} {pdu : Bytes}
include sound

section

variable (calls : List LinkCall) (received : pdu.head?.bind ofByte = some code)
  (busy : link.busy)
  (checked : code = .errorRsp ∨ code.recvOpcodeMap = link.curTask.opcode)
include received busy checked

theorem Sound.rspDispatch :
    (link.rspDispatch code pdu calls).Sound ∧
      (link.rspDispatch code pdu calls).busy := by
  obtain ⟨task, opcode, request, current, _⟩ := sound.waits busy
  unfold TaskLink.rspDispatch
  dsimp only
  split
  · exact ⟨sound.other _ link.hasInitReqTask, busy⟩
  next report reported =>
    have expects : link.curTask.opcode = some opcode :=
      congrArg CurTask.opcode current
    apply Sound.taskExecuteCallback
    · exact sound.other _ link.hasInitReqTask
    · exact busy
    · exact expects
    · rintro answer ⟨⟩
      apply rspReport_answers received _ _ reported
      · exact expects
      · exact checked

theorem Sound.recvRsp :
    (link.recvRsp code pdu calls).Sound := by
  apply Sound.excuteProcessTask
  split_ifs
  · exact (sound.other link.link false).clear (.inl ⟨pdu, rfl⟩) busy
  · have dispatched := sound.rspDispatch calls received busy checked
    exact dispatched.1.clear (.inl ⟨pdu, rfl⟩) dispatched.2
  · exact sound.clear (.inl ⟨pdu, rfl⟩) busy

end

theorem Sound.recv (pdu : Bytes) (calls : List LinkCall) :
    (link.recv pdu calls).Sound := by
  unfold TaskLink.recv
  cases received : pdu.head?.bind ofByte with
  | none => exact sound
  | some code =>
    dsimp only
    split
    · exact sound
    next checked =>
      split
      next response =>
        obtain ⟨busy, expected⟩ :=
          checkOpcode_response (not_not.mp checked) response
        exact sound.recvRsp calls received busy expected
      · exact (sound.other _ link.hasInitReqTask).calls calls

theorem Sound.timeoutCbk (calls : List LinkCall) (busy : link.busy) :
    (link.timeoutCbk calls).Sound := by
  obtain ⟨task, opcode, request, current, _⟩ := sound.waits busy
  unfold TaskLink.timeoutCbk
  dsimp only
  apply Sound.excuteProcessTask
  split
  · split
    · exact (sound.other link.link false).clear (.inr rfl) busy
    next report _ =>
      have told := @Sound.taskExecuteCallback _
        (sound.other link.link false) opcode none report calls busy
        (congrArg CurTask.opcode current) (by simp)
      exact told.1.clear (.inr rfl) told.2
  · exact sound.clear (.inr rfl) busy

theorem Sound.step (event : TaskEvent) : (link.step event).Sound := by
  cases event with
  | call call => exact sound.call call
  | recv pdu calls => exact sound.recv pdu calls
  | timeout calls =>
    unfold TaskLink.step
    dsimp only
    split
    next timer =>
      exact sound.timeoutCbk calls (sound.timed timer)
    · exact sound

end

theorem Sound.connected (base : Link) (oldDevice : Bool) :
    (connected base oldDevice).Sound :=
  (Sound.create base oldDevice true).processTask initFind false true

end TaskLink

end NearLink.Ssap
