import Mathlib.Data.List.Nodup
import NearLink.Dli.Command

/-!
# Every command completes once

A command that waits for a command complete event should lead to one call of
its callback and one release of its context, and have one inner callback
registered for as long as it is outstanding.  This holds while such commands
are only taken off the list by command complete events that name their opcode.
Every other way out, such as a timeout or a failing command status, leaves the
inner callback behind.
-/

namespace NearLink.Dli

open Sdf Transition List Nat

def DliTask.posted : DliTask → Option Command
  | cmdSendInner node => some node.info
  | eventPacketReceived _ => none
  | cmdWorkCallback => none

def CpTask.concluding : CpTask → Option Command
  | innerEventCbkReg _ => none
  | innerEventCbkUnReg _ => none
  | eventTask _ node _ => node.map (·.info)
  | timeoutCallback node => some node.info

def CpTask.registering : CpTask → Option Command
  | innerEventCbkReg command => some command
  | innerEventCbkUnReg _ => none
  | eventTask _ _ _ => none
  | timeoutCallback _ => none

def CpTask.unregistering : CpTask → Option Nat
  | innerEventCbkReg _ => none
  | innerEventCbkUnReg opcode => some opcode
  | eventTask _ _ _ => none
  | timeoutCallback _ => none

namespace CmdLayer

def outstanding (state : CmdLayer) : List Command :=
  state.dliTasks.filterMap DliTask.posted ++ state.cmdTx.map (·.info) ++
    state.cpTasks.filterMap CpTask.concluding

def callsOf (state : CmdLayer) (command : Command) : Nat :=
  state.calls.countP fun call =>
    call.context = some command.object ∧ some call.cbk = command.cbk

def freesOf (state : CmdLayer) (command : Command) : Nat :=
  state.freed.count command.object

def registered (state : CmdLayer) (opcode : Nat) : Nat :=
  state.eventCbkList.count (dynamicTable opcode)

def waiting (state : CmdLayer) (opcode : Nat) : Nat :=
  state.outstanding.countP fun command =>
    command.Complete ∧ command.cmd = opcode

def registrations (state : CmdLayer) : List Command :=
  state.cpTasks.filterMap CpTask.registering

def unregistrations (state : CmdLayer) : List Nat :=
  state.cpTasks.filterMap CpTask.unregistering

def Quiet (state : CmdLayer) (opcode : Nat) : Prop :=
  (∀ command ∈ state.registrations, command.cmd ≠ opcode) ∧
    opcode ∉ state.unregistrations

/-- An accepted command has been reported and freed once, unless it is still
outstanding. -/
def CompletesOnce (state : CmdLayer) (command : Command) : Prop :=
  if command ∈ state.outstanding then
    state.callsOf command = 0 ∧ state.freesOf command = 0
  else state.callsOf command = 1 ∧ state.freesOf command = 1

structure AllComplete (state : CmdLayer) : Prop where
  once : ∀ command ∈ state.accepted, command.Complete →
    state.CompletesOnce command
  callbacks : ∀ opcode, state.Quiet opcode →
    state.registered opcode = state.waiting opcode

/-- The packet takes no waiting command off the list, unless it is a command
complete event that names an opcode. -/
def PacketRegular (cmdTx : List CmdTxNode) (bytes : Bytes) : Prop :=
  let event := decode2Byte bytes 0
  let data := bytes.drop 4
  ∀ node, nodeToRemove cmdTx event (eventOpcode event data)
      (eventGetStatus event data) = some node →
    node.info.Complete → event = cmdCompleteEvt ∧ eventOpcode event data ≠ 0

/-- A step that takes waiting commands off the list in the intended way only:
commands use no opcode that a module handles, find room on the list, and are
neither taken off by packets that are not regular nor by a timeout. -/
def Regular (state : CmdLayer) : CmdEvent → Prop
  | .execute cmd event _ => event = cmdCompleteEvt →
      ∀ table ∈ state.eventCbkList, ∀ line ∈ table,
        line.opcode = cmd → line.func = .executeCommandCbk
  | .packet _ => True
  | .dliThread _ =>
    (∀ node tasks, state.dliTasks = .cmdSendInner node :: tasks →
        node.info.Complete → state.cmdTx.length ≤ cmdMaxCnt) ∧
      ∀ bytes tasks, state.dliTasks = .eventPacketReceived bytes :: tasks →
        PacketRegular state.cmdTx bytes
  | .cpThread => True
  | .timeout object => ∀ node, state.timedNode object = some node →
      ¬ node.info.Complete

@[grind =] def Concludes : CpTask → Prop
  | .eventTask event (some node) data => node.info.Complete →
      event = cmdCompleteEvt ∧ 2 ≤ data.length ∧
        decode2Byte data 0 = node.info.cmd
  | .timeoutCallback node => ¬ node.info.Complete
  | _ => True

structure Tracked (state : CmdLayer) : Prop where
  fresh : ∀ command ∈ state.accepted, command.object < state.nextObject
  distinct : (state.accepted.map (·.object)).Nodup
  answered : ∀ command ∈ state.accepted, command.Complete →
    ∃ cbk, command.cbk = some cbk
  known : ∀ command ∈ state.outstanding, command ∈ state.accepted
  single : state.outstanding.Nodup
  called : ∀ call ∈ state.calls, ∀ object, call.context = some object →
    object < state.nextObject
  released : ∀ object ∈ state.freed, object < state.nextObject
  once : ∀ command ∈ state.accepted, command.Complete →
    state.CompletesOnce command
  balance : ∀ opcode, state.registered opcode +
      state.registrations.countP (·.cmd = opcode) =
    state.waiting opcode + state.unregistrations.count opcode
  registering : ∀ command ∈ state.registrations,
    command ∈ state.outstanding ∧ command.Complete
  registeringOnce : state.registrations.Nodup
  ordered : state.cpTasks.Pairwise fun earlier later =>
    ∀ command, earlier.concluding = some command →
      later.registering ≠ some command
  concludes : ∀ task ∈ state.cpTasks, Concludes task
  handlers : ∀ table ∈ state.eventCbkList, ∀ line ∈ table,
    line.func ≠ .executeCommandCbk → ∀ command ∈ state.outstanding,
      command.Complete → line.opcode ≠ command.cmd

variable {state next : CmdLayer}

theorem Tracked.allComplete (tracked : Tracked state) : AllComplete state := by
  refine ⟨tracked.once, ?_⟩
  intro opcode quiet
  have balance := tracked.balance opcode
  have registering : state.registrations.countP (·.cmd = opcode) = 0 := by
    apply countP_eq_zero.mpr
    simpa using quiet.1
  have unregistering : state.unregistrations.count opcode = 0 :=
    count_eq_zero.mpr quiet.2
  rw [registering, unregistering] at balance
  exact balance

theorem Tracked.same (tracked : Tracked state) {first second : Command}
    (firstKnown : first ∈ state.accepted)
    (secondKnown : second ∈ state.accepted)
    (equal : first.object = second.object) : first = second :=
  inj_on_of_nodup_map tracked.distinct firstKnown secondKnown equal

theorem tracked_enabled (modules : List (List Nat)) :
    Tracked (enabled modules) where
  fresh := by simp [enabled]
  distinct := nodup_nil
  answered := by simp [enabled]
  known := by simp [enabled, outstanding]
  single := nodup_nil
  called := by simp [enabled]
  released := by simp [enabled]
  once := by simp [enabled]
  balance := by
    intro opcode
    have none : (enabled modules).registered opcode = 0 := by
      apply count_eq_zero.mpr
      intro member
      rcases mem_cons.mp member with common | table
      · cases common
      · obtain ⟨opcodes, -, equal⟩ := mem_map.mp table
        have line : (⟨opcode, .executeCommandCbk⟩ : InnerCbkLine) ∈
            opcodes.map fun opcode => ⟨opcode, .moduleCbk⟩ := by
          rw [equal]
          exact mem_singleton_self _
        obtain ⟨_, -, differs⟩ := mem_map.mp line
        cases differs
    rw [none]
    rfl
  registering := by simp [enabled, registrations]
  registeringOnce := nodup_nil
  ordered := List.Pairwise.nil
  concludes := by simp [enabled]
  handlers := by simp [enabled, outstanding]

/-- A step after which the commands `gone`, none of them a waiting one, are no
longer outstanding, and which has called and freed at most for these. -/
structure Advances (state next : CmdLayer) (gone : List Command) : Prop where
  accepted : next.accepted = state.accepted
  nextObject : next.nextObject = state.nextObject
  eventCbkList : next.eventCbkList = state.eventCbkList
  registrations : next.registrations = state.registrations
  unregistrations : next.unregistrations = state.unregistrations
  ordered : next.cpTasks.Pairwise fun earlier later =>
    ∀ command, earlier.concluding = some command →
      later.registering ≠ some command
  concludes : ∀ task ∈ next.cpTasks, Concludes task
  left : state.outstanding.Perm (gone ++ next.outstanding)
  foreign : ∀ command ∈ gone, ¬ command.Complete
  calls : ∃ more, next.calls = state.calls ++ more ∧
    ∀ call ∈ more, ∀ object, call.context = some object →
      ∃ command ∈ gone, command.object = object
  freed : ∃ more, next.freed = state.freed ++ more ∧
    ∀ object ∈ more, ∃ command ∈ gone, command.object = object

variable {gone : List Command}

section

variable (advances : Advances state next gone) {command : Command}
include advances

theorem Advances.mem_iff (complete : command.Complete) :
    command ∈ next.outstanding ↔ command ∈ state.outstanding := by
  rw [advances.left.mem_iff, mem_append]
  constructor
  · exact .inr
  · rintro (member | member)
    · exact absurd complete (advances.foreign command member)
    · exact member

theorem Advances.waiting (opcode : Nat) :
    next.waiting opcode = state.waiting opcode := by
  have none : gone.countP (fun command =>
      command.Complete ∧ command.cmd = opcode) = 0 := by
    apply countP_eq_zero.mpr
    intro command member
    simp [advances.foreign command member]
  rw [CmdLayer.waiting, CmdLayer.waiting, advances.left.countP_eq,
    countP_append, none, zero_add]

section

variable (tracked : Tracked state) (accepted : command ∈ state.accepted)
  (complete : command.Complete)
include tracked accepted complete

theorem Advances.object_ne {other : Command} (member : other ∈ gone)
    : other.object ≠ command.object := by
  intro equal
  have known : other ∈ state.accepted := by
    apply tracked.known
    rw [advances.left.mem_iff]
    exact mem_append_left _ member
  exact advances.foreign other member
    (tracked.same known accepted equal ▸ complete)

theorem Advances.completesOnce :
    next.CompletesOnce command := by
  have calls : next.callsOf command = state.callsOf command := by
    obtain ⟨more, extended, contexts⟩ := advances.calls
    have none : more.countP (fun call =>
        call.context = some command.object ∧
          some call.cbk = command.cbk) = 0 := by
      apply countP_eq_zero.mpr
      intro call member
      simp only [decide_eq_true_eq, not_and]
      intro context
      obtain ⟨other, gone, object⟩ := contexts call member _ context
      exact absurd object (advances.object_ne tracked accepted complete gone)
    rw [callsOf, extended, countP_append, none]
    rfl
  have frees : next.freesOf command = state.freesOf command := by
    obtain ⟨more, extended, objects⟩ := advances.freed
    have none : more.count command.object = 0 := by
      apply count_eq_zero.mpr
      intro member
      obtain ⟨other, gone, object⟩ := objects _ member
      exact advances.object_ne tracked accepted complete gone object
    rw [freesOf, extended, count_append, none]
    rfl
  have before := tracked.once command accepted complete
  simp only [CompletesOnce, advances.mem_iff complete, calls, frees] at before ⊢
  exact before

end

theorem Advances.below (tracked : Tracked state) {object : Nat}
    (member : ∃ command ∈ gone, command.object = object) :
    object < state.nextObject := by
  obtain ⟨command, inside, rfl⟩ := member
  apply tracked.fresh
  apply tracked.known
  rw [advances.left.mem_iff]
  exact mem_append_left _ inside

end

theorem Tracked.advance (tracked : Tracked state)
    (advances : Advances state next gone) : Tracked next := { advances with
  fresh := by
    rw [advances.accepted, advances.nextObject]
    exact tracked.fresh
  distinct := by
    rw [advances.accepted]
    exact tracked.distinct
  answered := by
    rw [advances.accepted]
    exact tracked.answered
  known := by
    intro command member
    rw [advances.accepted]
    apply tracked.known
    rw [advances.left.mem_iff]
    exact mem_append_right _ member
  single := by
    have all := advances.left.nodup_iff.mp tracked.single
    exact (nodup_append.mp all).2.1
  called := by
    obtain ⟨more, extended, contexts⟩ := advances.calls
    rw [extended, advances.nextObject]
    exact forall_mem_append.mpr ⟨tracked.called,
      fun call added object context => advances.below tracked (contexts call
        added object context)⟩
  released := by
    obtain ⟨more, extended, objects⟩ := advances.freed
    rw [extended, advances.nextObject]
    exact forall_mem_append.mpr ⟨tracked.released,
      fun object added => advances.below tracked (objects object added)⟩
  once := by
    rw [advances.accepted]
    intro command accepted complete
    exact advances.completesOnce tracked accepted complete
  balance := by
    intro opcode
    rw [registered, advances.eventCbkList, advances.registrations,
      advances.unregistrations, advances.waiting]
    exact tracked.balance opcode
  registering := by
    rw [advances.registrations]
    intro command member
    obtain ⟨inside, complete⟩ := tracked.registering command member
    exact ⟨(advances.mem_iff complete).mpr inside, complete⟩
  registeringOnce := by
    rw [advances.registrations]
    exact tracked.registeringOnce
  handlers := by
    rw [advances.eventCbkList]
    intro table member line inside differs command open' complete
    exact tracked.handlers table member line inside differs command
      ((advances.mem_iff complete).mp open') complete }

/-- Moving commands between the list and the tasks keeps track of them, as
long as new tasks report waiting commands in the intended way. -/
theorem Tracked.move (tracked : Tracked state) (extra : List CpTask)
    (cpTasks : next.cpTasks = state.cpTasks ++ extra)
    (plain : ∀ task ∈ extra, task.registering = none ∧
      task.unregistering = none ∧ Concludes task)
    (moved : state.outstanding.Perm next.outstanding)
    (accepted : next.accepted = state.accepted)
    (nextObject : next.nextObject = state.nextObject)
    (eventCbkList : next.eventCbkList = state.eventCbkList)
    (calls : next.calls = state.calls) (freed : next.freed = state.freed) :
    Tracked next := by
  have registrations : extra.filterMap CpTask.registering = [] := by
    apply filterMap_eq_nil_iff.mpr
    exact fun task member => (plain task member).1
  have unregistrations : extra.filterMap CpTask.unregistering = [] := by
    apply filterMap_eq_nil_iff.mpr
    exact fun task member => (plain task member).2.1
  have advances : Advances state next [] :=
    { accepted := accepted
      nextObject := nextObject
      eventCbkList := eventCbkList
      registrations := by
        simp [CmdLayer.registrations, cpTasks, registrations]
      unregistrations := by
        simp [CmdLayer.unregistrations, cpTasks, unregistrations]
      ordered := by
        rw [cpTasks, pairwise_append]
        refine ⟨tracked.ordered, ?_, ?_⟩
        · apply pairwise_of_forall_mem_list
          intro earlier _ later member command _
          simp [(plain later member).1]
        · intro earlier _ later member command _
          simp [(plain later member).1]
      concludes := by
        rw [cpTasks]
        exact forall_mem_append.mpr ⟨tracked.concludes,
          fun task added => (plain task added).2.2⟩
      left := moved
      foreign := by simp
      calls := ⟨[], by simp [calls], by simp⟩
      freed := ⟨[], by simp [freed], by simp⟩ }
  exact tracked.advance advances

theorem sendLoop_info (accepts cmdNum : Nat) (nodes : List CmdTxNode) :
    (sendLoop accepts cmdNum nodes).2.map (·.info) = nodes.map (·.info) := by
  induction nodes generalizing accepts cmdNum with
  | nil => rfl
  | cons node nodes induction =>
    unfold sendLoop
    split_ifs
    · rfl
    · simp [induction]
    · cases accepts with
      | zero => rfl
      | succ accepts => simp [induction]

theorem markStatus_info (cmdTx : List CmdTxNode) (opcode : Nat) :
    (markStatus cmdTx opcode).map (·.info) = cmdTx.map (·.info) := by
  unfold markStatus
  split
  · rfl
  · rw [map_map]
    apply map_congr_left
    intro node _
    simp only [Function.comp]
    split <;> rfl

variable {cmdTx : List CmdTxNode} {node : CmdTxNode} {opcode status event : Nat}
  {reported posted listed : List Command} {command : Command}
  {tasks : List DliTask}

theorem info_perm_erase (member : node ∈ cmdTx) :
    (cmdTx.map (·.info)).Perm (node.info :: (cmdTx.erase node).map (·.info)) :=
  (perm_cons_erase member).map (·.info)

theorem nodeToRemove_mem
    (found : nodeToRemove cmdTx event opcode status = some node) :
    node ∈ cmdTx := by
  have located := (Option.filter_eq_some_iff.mp found).1
  split at located
  · split at located
    · cases located
    · split at located
      · exact mem_of_find?_eq_some located
      · exact mem_of_find?_eq_some (Option.filter_eq_some_iff.mp located).1
  · split at located
    all_goals exact mem_of_find?_eq_some located

theorem nodeToRemove_cmd (nonzero : opcode ≠ 0)
    (found : nodeToRemove cmdTx cmdCompleteEvt opcode status = some node) :
    node.info.cmd = opcode := by
  have located := (Option.filter_eq_some_iff.mp found).1
  split at located
  · have matched := find?_some located
    simp only [nonzero, false_or, decide_eq_true_eq] at matched
    exact matched.1
  · have matched := find?_some located
    simpa only [nonzero, false_or, decide_eq_true_eq] using matched

theorem perm_middle_parts (command : Command) :
    (command :: posted ++ listed ++ reported).Perm
      (posted ++ (listed ++ [command]) ++ reported) := by
  have joined : posted ++ (listed ++ [command]) ++ reported =
      (posted ++ listed) ++ command :: reported := by
    simp
  rw [joined]
  exact perm_middle.symm

theorem perm_reported {rest : List Command}
    (taken : listed.Perm (command :: rest)) :
    (posted ++ listed ++ reported).Perm
      (posted ++ rest ++ (reported ++ [command])) := by
  have joined : posted ++ listed ++ reported =
      posted ++ (listed ++ reported) := append_assoc _ _ _
  have split : posted ++ rest ++ (reported ++ [command]) =
      posted ++ (rest ++ reported ++ [command]) := by
    simp
  rw [joined, split]
  apply List.Perm.append_left
  exact (taken.append_right reported).trans
    (perm_append_singleton command (rest ++ reported)).symm

theorem Tracked.cmdSendInner (tracked : Tracked state)
    (posted : state.dliTasks = .cmdSendInner node :: tasks) (accepts : Nat)
    (room : node.info.Complete → state.cmdTx.length ≤ cmdMaxCnt) :
    Tracked ({ state with dliTasks := tasks }.cmdSendInner accepts node) := by
  have before : state.outstanding = node.info ::
      tasks.filterMap DliTask.posted ++ state.cmdTx.map (·.info) ++
        state.cpTasks.filterMap CpTask.concluding := by
    rw [outstanding, posted]
    rfl
  unfold CmdLayer.cmdSendInner
  split
  · refine tracked.move [] (append_nil _).symm (by simp) ?_
      rfl rfl rfl rfl rfl
    rw [before]
    simp only [outstanding, cmdListSend, sendLoop_info, map_append,
      map_cons, map_nil]
    exact perm_middle_parts node.info
  next full =>
    have foreign : ¬ node.info.Complete := fun complete =>
      full (room complete)
    dsimp only
    split
    · refine tracked.move [] (append_nil _).symm (by simp) ?_
        rfl rfl rfl rfl rfl
      rw [before]
      simp only [outstanding, cmdListSend, sendLoop_info, map_append,
        map_cons, map_nil]
      exact perm_middle_parts node.info
    · have advances : Advances state
          (({ state with dliTasks := tasks }.cmdListSend
            accepts).cmdNodeDestroy node) [node.info] :=
        { accepted := rfl
          nextObject := rfl
          eventCbkList := rfl
          registrations := rfl
          unregistrations := rfl
          ordered := tracked.ordered
          concludes := tracked.concludes
          left := by
            rw [before]
            simp only [outstanding, cmdListSend, cmdNodeDestroy, sendLoop_info]
            exact List.Perm.refl _
          foreign := by simpa using foreign
          calls := ⟨[], (append_nil _).symm, by simp⟩
          freed := ⟨[node.info.object], rfl, by simp⟩ }
      exact tracked.advance advances

theorem Tracked.cmdListSend (tracked : Tracked state)
    (posted : state.dliTasks = .cmdWorkCallback :: tasks) (accepts : Nat) :
    Tracked ({ state with dliTasks := tasks }.cmdListSend accepts) := by
  refine tracked.move [] (append_nil _).symm (by simp) ?_
    rfl rfl rfl rfl rfl
  simp only [outstanding, CmdLayer.cmdListSend, sendLoop_info, posted]
  exact List.Perm.refl _

/-- The task that reports the node a regular packet takes off the list reports
it in the intended way. -/
theorem concludes_packet {bytes : Bytes} (regular : PacketRegular cmdTx bytes)
    (found : nodeToRemove cmdTx (decode2Byte bytes 0)
      (eventOpcode (decode2Byte bytes 0) (bytes.drop 4))
      (eventGetStatus (decode2Byte bytes 0) (bytes.drop 4)) = some node) :
    Concludes (.eventTask (decode2Byte bytes 0) (some node)
      (bytes.drop 4)) := by
  intro complete
  obtain ⟨event, nonzero⟩ := regular node found complete
  rw [event] at found nonzero ⊢
  have long : 2 ≤ (bytes.drop 4).length := by
    by_contra short
    exact nonzero (if_neg fun holds => short holds.2)
  have opcode : eventOpcode cmdCompleteEvt (bytes.drop 4) =
      decode2Byte (bytes.drop 4) 0 :=
    if_pos ⟨.inr rfl, long⟩
  refine ⟨rfl, long, ?_⟩
  rw [← opcode]
  exact (nodeToRemove_cmd nonzero found).symm

section

variable (tracked : Tracked state)
include tracked

theorem Tracked.eventPacketReceived {bytes : Bytes} {tasks : List DliTask}
    (posted : state.dliTasks = .eventPacketReceived bytes :: tasks)
    (regular : PacketRegular state.cmdTx bytes) :
    Tracked ({ state with dliTasks := tasks }.eventPacketReceived bytes) := by
  have before : state.outstanding =
      tasks.filterMap DliTask.posted ++ state.cmdTx.map (·.info) ++
        state.cpTasks.filterMap CpTask.concluding := by
    rw [outstanding, posted]
    rfl
  unfold CmdLayer.eventPacketReceived cmdNodeRemove
  dsimp only
  split
  · refine tracked.move [_] rfl ?_ ?_ rfl rfl rfl rfl rfl
    · simp [CpTask.registering, CpTask.unregistering, Concludes]
    · rw [before]
      simp only [outstanding, markStatus_info, filterMap_append,
        filterMap_cons, CpTask.concluding, Option.map_none,
        filterMap_nil, append_nil]
      exact List.Perm.refl _
  · cases found : nodeToRemove state.cmdTx (decode2Byte bytes 0)
        (eventOpcode (decode2Byte bytes 0) (bytes.drop 4))
        (eventGetStatus (decode2Byte bytes 0) (bytes.drop 4)) with
    | none =>
      refine tracked.move [_] rfl ?_ ?_ rfl rfl rfl rfl rfl
      · simp [CpTask.registering, CpTask.unregistering, Concludes]
      · rw [before]
        simp only [outstanding, filterMap_append, filterMap_cons,
          CpTask.concluding, Option.map_none, filterMap_nil, append_nil]
        exact List.Perm.refl _
    | some node =>
      have concludes := concludes_packet regular found
      have member := nodeToRemove_mem found
      refine tracked.move [_] rfl ?_ ?_ rfl rfl rfl rfl rfl
      · simpa [CpTask.registering, CpTask.unregistering] using concludes
      · rw [before]
        simp only [outstanding, filterMap_append]
        exact perm_reported (info_perm_erase member)

theorem Tracked.cmdTimerCallback {object : Nat}
    (timed : state.timedNode object = some node)
    (foreign : ¬ node.info.Complete) :
    Tracked (state.cmdTimerCallback node) := by
  have member := mem_of_find?_eq_some timed
  refine tracked.move [_] rfl ?_ ?_ rfl rfl rfl rfl rfl
  · simpa [CpTask.registering, CpTask.unregistering, Concludes] using foreign
  · simp only [outstanding, CmdLayer.cmdTimerCallback, postNextTask,
      filterMap_append]
    have posted : [DliTask.cmdWorkCallback].filterMap DliTask.posted = [] :=
      rfl
    rw [posted, append_nil]
    exact perm_reported (info_perm_erase member)

theorem Tracked.packet (bytes : Bytes) :
    Tracked { state with dliTasks := state.dliTasks ++
      [.eventPacketReceived bytes] } := by
  refine tracked.move [] (append_nil _).symm (by simp) ?_
    rfl rfl rfl rfl rfl
  have posted : [DliTask.eventPacketReceived bytes].filterMap
    DliTask.posted = [] := rfl
  simp only [outstanding, filterMap_append, posted, append_nil]
  exact List.Perm.refl _

theorem Tracked.dliThread (accepts : Nat) (cbkList : Nat → Option Nat)
    (regular : state.Regular (.dliThread accepts)) :
    Tracked (state.step cbkList (.dliThread accepts)) := by
  simp only [step]
  cases posted : state.dliTasks with
  | nil => exact tracked
  | cons task tasks =>
    cases task with
    | cmdSendInner node =>
      exact tracked.cmdSendInner posted accepts (regular.1 node tasks posted)
    | eventPacketReceived bytes =>
      exact tracked.eventPacketReceived posted (regular.2 bytes tasks posted)
    | cmdWorkCallback => exact tracked.cmdListSend posted accepts

end

theorem mem_outstanding_of_concluding {task : CpTask}
    (member : task ∈ state.cpTasks)
    (concluding : task.concluding = some command) :
    command ∈ state.outstanding :=
  mem_append_right _ (mem_filterMap.mpr ⟨task, member, concluding⟩)

def accept (state : CmdLayer) (command : Command) : CmdLayer :=
  { state with
    cpTasks := state.cpTasks ++
      if command.Complete then [.innerEventCbkReg command] else []
    dliTasks := state.dliTasks ++ [.cmdSendInner ⟨command, false, false⟩]
    nextObject := state.nextObject + 1
    accepted := state.accepted ++ [command] }

section

variable (state : CmdLayer) (command : Command)

theorem accept_outstanding :
    (state.accept command).outstanding.Perm (command :: state.outstanding) := by
  have concluding : (if command.Complete then
      [CpTask.innerEventCbkReg command] else []).filterMap
        CpTask.concluding = [] := by
    split <;> rfl
  have posted : [DliTask.cmdSendInner ⟨command, false, false⟩].filterMap
    DliTask.posted = [command] := rfl
  simp only [outstanding, accept, filterMap_append, concluding,
    append_nil, posted, append_assoc]
  exact perm_middle

theorem accept_registrations :
    (state.accept command).registrations = state.registrations ++
      if command.Complete then [command] else [] := by
  simp only [registrations, accept, filterMap_append]
  split <;> rfl

theorem accept_unregistrations :
    (state.accept command).unregistrations = state.unregistrations := by
  simp only [unregistrations, accept, filterMap_append]
  split <;> simp [CpTask.unregistering, List.filterMap]

end

section Accept

variable {command other : Command} (tracked : Tracked state)
  (numbered : command.object = state.nextObject)

include tracked numbered

theorem Tracked.ne_new (known : other ∈ state.accepted) : other ≠ command := by
  rintro rfl
  have below := tracked.fresh other known
  omega

theorem Tracked.accept_completesOnce
    (accepted : other ∈ (state.accept command).accepted)
    (complete : other.Complete) :
    (state.accept command).CompletesOnce other := by
  have calls : (state.accept command).callsOf other = state.callsOf other :=
    rfl
  have frees : (state.accept command).freesOf other = state.freesOf other :=
    rfl
  have member : other ∈ (state.accept command).outstanding ↔
      other = command ∨ other ∈ state.outstanding := by
    rw [(accept_outstanding state command).mem_iff, mem_cons]
  simp only [CompletesOnce, calls, frees, member]
  rcases mem_append.mp accepted with before | new
  · have once := tracked.once other before complete
    have differs := tracked.ne_new numbered before
    simpa only [CompletesOnce, differs, false_or] using once
  · have same := mem_singleton.mp new
    subst same
    rw [if_pos (.inl rfl)]
    constructor
    · apply countP_eq_zero.mpr
      intro call inside
      simp only [decide_eq_true_eq, not_and]
      intro context
      have below := tracked.called call inside _ context
      omega
    · apply count_eq_zero.mpr
      intro inside
      have below := tracked.released _ inside
      omega

omit numbered in
theorem Tracked.accept_balance (opcode : Nat) :
    (state.accept command).registered opcode +
        (state.accept command).registrations.countP (·.cmd = opcode) =
      (state.accept command).waiting opcode +
        (state.accept command).unregistrations.count opcode := by
  have before := tracked.balance opcode
  have registered : (state.accept command).registered opcode =
    state.registered opcode := rfl
  rw [registered, accept_registrations, accept_unregistrations, waiting,
    (accept_outstanding state command).countP_eq, countP_append, countP_cons]
  rw [waiting] at before
  by_cases complete : command.Complete
  · by_cases same : command.cmd = opcode
    · simp only [complete, same, if_true, countP_singleton,
        decide_true, and_self] at before ⊢
      omega
    · simp only [complete, same, if_true, countP_singleton,
        decide_false, and_false, Bool.false_eq_true, if_false] at before ⊢
      omega
  · simp only [complete, if_false, countP_nil, false_and, decide_false,
      Bool.false_eq_true] at before ⊢
    omega

theorem Tracked.accept (handled : command.Complete →
      ∀ table ∈ state.eventCbkList, ∀ line ∈ table,
        line.opcode = command.cmd → line.func = .executeCommandCbk)
    (answered : command.Complete → ∃ cbk, command.cbk = some cbk) :
    Tracked (state.accept command) where
  fresh := by
    intro other member
    rcases mem_append.mp member with before | new
    · exact lt_succ_of_lt (tracked.fresh other before)
    · rw [mem_singleton.mp new, numbered]
      exact lt_succ_self _
  distinct := by
    have new : command.object ∉ state.accepted.map (·.object) := by
      intro member
      obtain ⟨other, known, equal⟩ := mem_map.mp member
      have below := tracked.fresh other known
      omega
    simp only [CmdLayer.accept, map_append, map_singleton]
    exact nodup_append_comm.mp (nodup_cons.mpr ⟨new, tracked.distinct⟩)
  answered := by
    refine forall_mem_append.mpr ⟨tracked.answered,
      fun other new complete => ?_⟩
    rw [mem_singleton.mp new] at complete ⊢
    exact answered complete
  known := by
    intro other member
    rw [(accept_outstanding state command).mem_iff, mem_cons] at member
    rcases member with rfl | before
    · exact mem_append_right _ (mem_singleton_self _)
    · exact mem_append_left _ (tracked.known other before)
  single := by
    rw [(accept_outstanding state command).nodup_iff, nodup_cons]
    refine ⟨?_, tracked.single⟩
    intro member
    exact tracked.ne_new numbered (tracked.known _ member) rfl
  called := by
    intro call member object context
    exact lt_succ_of_lt (tracked.called call member object context)
  released := by
    intro object member
    exact lt_succ_of_lt (tracked.released object member)
  once := fun _ => tracked.accept_completesOnce numbered
  balance := tracked.accept_balance
  registering := by
    intro other member
    rw [(accept_outstanding state command).mem_iff]
    rw [accept_registrations] at member
    rcases mem_append.mp member with before | new
    · obtain ⟨inside, complete⟩ := tracked.registering other before
      exact ⟨.tail _ inside, complete⟩
    · split at new
      next complete =>
        rw [mem_singleton.mp new]
        exact ⟨.head _, complete⟩
      · cases new
  registeringOnce := by
    rw [accept_registrations]
    split
    · have new : command ∉ state.registrations := fun member =>
        tracked.ne_new numbered
          (tracked.known _ (tracked.registering _ member).1) rfl
      exact nodup_append_comm.mp (nodup_cons.mpr ⟨new, tracked.registeringOnce⟩)
    · rw [append_nil]
      exact tracked.registeringOnce
  ordered := by
    simp only [CmdLayer.accept]
    split
    · apply pairwise_append.mpr
      refine ⟨tracked.ordered, pairwise_singleton _ _, ?_⟩
      intro earlier member later single other concluding
      rw [mem_singleton.mp single]
      intro same
      have known := tracked.known other
        (mem_outstanding_of_concluding member concluding)
      exact tracked.ne_new numbered known (Option.some.inj same).symm
    · rw [append_nil]
      exact tracked.ordered
  concludes := by
    refine forall_mem_append.mpr ⟨tracked.concludes, fun task new => ?_⟩
    split at new
    · rw [mem_singleton.mp new]
      trivial
    · cases new
  handlers := by
    intro table member line inside differs other open' complete
    rw [(accept_outstanding state command).mem_iff, mem_cons] at open'
    rcases open' with rfl | before
    · intro same
      exact differs (handled complete table member line inside same)
    · exact tracked.handlers table member line inside differs other before
        complete

end Accept

theorem Tracked.executeCommand (tracked : Tracked state) {cmd : Nat}
    {cbk : Option Nat} (regular : state.Regular (.execute cmd event cbk)) :
    Tracked (state.executeCommand cmd event cbk) := by
  unfold CmdLayer.executeCommand
  split
  · exact tracked
  next valid =>
    have answered : event = cmdCompleteEvt → ∃ callback,
        cbk = some callback := by
      intro complete
      apply Option.ne_none_iff_exists'.mp
      intro missing
      exact valid (.inr (.inr ⟨complete, missing⟩))
    have numbered : (⟨state.nextObject, cmd, event, cbk⟩ : Command).object =
      state.nextObject := rfl
    exact tracked.accept numbered regular answered

end CmdLayer

end NearLink.Dli
