import Mathlib.Data.List.Perm.Basic
import NearLink.Dli.CommandOnce

/-!
# Runs of the command layer

The tasks of the control plane: registrations take effect in the order in which
they were posted, so the handler of a waiting command is found when the command
is reported, and its inner callback is unregistered afterwards.
-/

namespace NearLink.Dli.CmdLayer

open Sdf Transition List Option

variable {state next : CmdLayer} {cbkList : Nat → Option Nat}
  {context : Option Command} {tasks : List CpTask} {task : CpTask}
  {command : Command} {cbk : Nat}

structure Handled (context : Option Command) (state next : CmdLayer) :
    Prop where
  cmdTx : next.cmdTx = state.cmdTx
  eventCbkList : next.eventCbkList = state.eventCbkList
  cpTasks : next.cpTasks = state.cpTasks
  nextObject : next.nextObject = state.nextObject
  accepted : next.accepted = state.accepted
  freed : next.freed = state.freed
  posted : next.dliTasks.filterMap DliTask.posted =
    state.dliTasks.filterMap DliTask.posted
  calls : ∃ more, next.calls = state.calls ++ more ∧
    ∀ call ∈ more, call.context = context.map (·.object)

theorem Handled.refl (context : Option Command) (state : CmdLayer) :
    Handled context state state :=
  ⟨rfl, rfl, rfl, rfl, rfl, rfl, rfl, [], by simp, by simp⟩

theorem Handled.trans {middle : CmdLayer} (first : Handled context state middle)
    (second : Handled context middle next) :
    Handled context state next where
  cmdTx := second.cmdTx.trans first.cmdTx
  eventCbkList := second.eventCbkList.trans first.eventCbkList
  cpTasks := second.cpTasks.trans first.cpTasks
  nextObject := second.nextObject.trans first.nextObject
  accepted := second.accepted.trans first.accepted
  freed := second.freed.trans first.freed
  posted := second.posted.trans first.posted
  calls := by
    obtain ⟨earlier, extended, earlierContexts⟩ := first.calls
    obtain ⟨later, extendedAgain, laterContexts⟩ := second.calls
    refine ⟨earlier ++ later, ?_, ?_⟩
    · rw [extendedAgain, extended, append_assoc]
    · exact forall_mem_append.mpr ⟨earlierContexts, laterContexts⟩

section

variable (context : Option Command) (state : CmdLayer)

theorem handled_cmdNum (cmdNum : Nat)
    : Handled context state { state with cmdNum } :=
  ⟨rfl, rfl, rfl, rfl, rfl, rfl, rfl, [], by simp, by simp⟩

theorem handled_postNextTask :
    Handled context state state.postNextTask where
  cmdTx := rfl
  eventCbkList := rfl
  cpTasks := rfl
  nextObject := rfl
  accepted := rfl
  freed := rfl
  posted := by
    rw [postNextTask, filterMap_append]
    exact append_nil _
  calls := ⟨[], by simp [postNextTask], by simp⟩

theorem handled_commandErrorCbk (arg : Bytes) (evtOpcode : Nat) :
    Handled context state
      (state.commandErrorCbk cbkList context arg evtOpcode) := by
  unfold commandErrorCbk
  split
  · exact .refl _ _
  · split
    · exact .refl _ _
    · unfold runRegCbk
      split
      · exact .refl _ _
      · exact ⟨rfl, rfl, rfl, rfl, rfl, rfl, rfl, [_], rfl, by simp⟩

end

section

variable (foreign : ∀ command, context = some command → ¬ command.Complete)
include foreign

section

variable (state : CmdLayer) (arg : Bytes) (evtOpcode : Nat)

theorem handled_executeCommandCbk :
    Handled context state (state.executeCommandCbk context arg evtOpcode) := by
  cases context with
  | none => exact .refl _ _
  | some command =>
    have other := foreign command rfl
    simp only [executeCommandCbk, other, if_false]
    cases command.cbk with
    | none => exact .refl _ _
    | some cbk => exact ⟨rfl, rfl, rfl, rfl, rfl, rfl, rfl, [_], rfl, by simp⟩

theorem handled_commandStatusCbk : Handled context state
      (state.commandStatusCbk cbkList context arg evtOpcode) := by
  unfold commandStatusCbk
  split
  · exact .refl _ _
  · dsimp only
    split
    · apply (handled_cmdNum context state _).trans
      unfold runErrorCbk
      split
      any_goals exact .refl _ _
      · exact handled_executeCommandCbk foreign _ _ _
      · exact handled_commandErrorCbk _ _ _ _
    · exact handled_cmdNum context state _

theorem handled_runCmdCbk :
    Handled context state (state.runCmdCbk cbkList context arg evtOpcode) := by
  unfold runCmdCbk
  split
  · exact handled_executeCommandCbk foreign _ _ _
  · exact handled_commandErrorCbk _ _ _ _
  · exact handled_commandStatusCbk foreign _ _ _
  · exact .refl _ _
  · exact .refl _ _

end

theorem handled_recvEventHandler (state : CmdLayer) (event : Nat) (data :
      Bytes) :
    Handled context state
      (state.recvEventHandler cbkList event context data) := by
  unfold recvEventHandler
  split_ifs
  · exact .refl _ _
  · exact ((handled_cmdNum context state _).trans
      (handled_runCmdCbk foreign _ _ _)).trans (handled_postNextTask _ _)
  · exact (handled_runCmdCbk foreign _ _ _).trans (handled_postNextTask _ _)

end

structure ForeignTask (task : CpTask) : Prop where
  registering : task.registering = none
  unregistering : task.unregistering = none
  foreign : ∀ command, task.concluding = some command → ¬ command.Complete

def release (state : CmdLayer) (commands : List Command) : CmdLayer :=
  { state with freed := state.freed ++ commands.map (·.object) }

theorem outstanding_report (head : state.cpTasks = task :: tasks) :
    state.outstanding.Perm (task.concluding.toList ++
      { state with cpTasks := tasks }.outstanding) := by
  cases concluding : task.concluding with
  | none =>
    have same : state.outstanding =
        { state with cpTasks := tasks }.outstanding := by
      simp only [outstanding, head, filterMap_cons, concluding]
    rw [same]
    exact List.Perm.refl _
  | some command =>
    have split : state.outstanding =
        state.dliTasks.filterMap DliTask.posted ++ state.cmdTx.map (·.info) ++
            command :: tasks.filterMap CpTask.concluding := by
      simp only [outstanding, head, filterMap_cons, concluding]
    rw [split]
    exact perm_middle

theorem Tracked.report (tracked : Tracked state)
    (head : state.cpTasks = task :: tasks) (foreign : ForeignTask task)
    (handled : Handled task.concluding { state with cpTasks := tasks } next) :
    Tracked (next.release task.concluding.toList) := by
  have ordered := tracked.ordered
  have concludes := tracked.concludes
  rw [head] at ordered concludes
  have cpTasks : (next.release task.concluding.toList).cpTasks = tasks :=
    handled.cpTasks
  have open' : (next.release task.concluding.toList).outstanding =
      { state with cpTasks := tasks }.outstanding := by
    simp only [outstanding, release, handled.posted, handled.cmdTx,
      handled.cpTasks]
  have advances : Advances state (next.release task.concluding.toList)
      task.concluding.toList :=
    { accepted := handled.accepted
      nextObject := handled.nextObject
      eventCbkList := handled.eventCbkList
      registrations := by
        simp [registrations, cpTasks, head, foreign.registering]
      unregistrations := by
        simp [unregistrations, cpTasks, head, foreign.unregistering]
      ordered := by
        rw [cpTasks]
        exact (pairwise_cons.mp ordered).2
      concludes := by
        rw [cpTasks]
        exact fun later member =>
          concludes later (.tail _ member)
      left := by
        rw [open']
        exact outstanding_report head
      foreign := by
        intro command member
        exact foreign.foreign command (mem_toList.mp member)
      calls := by
        obtain ⟨more, extended, contexts⟩ := handled.calls
        refine ⟨more, extended, ?_⟩
        intro call member object context
        rw [contexts call member] at context
        obtain ⟨command, concluding, equal⟩ := map_eq_some_iff.mp context
        exact ⟨command, mem_toList.mpr concluding, equal⟩
      freed := by
        refine ⟨task.concluding.toList.map (·.object), ?_, ?_⟩
        · simp only [release, handled.freed]
        · intro object member
          exact mem_map.mp member }
  exact tracked.advance advances

section Registrations

variable {tasks : List CpTask}

/-- The inner callbacks of an opcode that are still to be registered are those
of outstanding commands. -/
theorem Tracked.registrations_le (tracked : Tracked state) (opcode : Nat) :
    state.registrations.countP (·.cmd = opcode) ≤ state.waiting opcode := by
  rw [countP_eq_length_filter, waiting, countP_eq_length_filter]
  apply List.Subperm.length_le
  apply subperm_of_subset (tracked.registeringOnce.filter _)
  intro command member
  obtain ⟨inside, same⟩ := mem_filter.mp member
  obtain ⟨outstanding, complete⟩ := tracked.registering command inside
  apply mem_filter.mpr
  refine ⟨outstanding, ?_⟩
  simpa [complete] using same

def retable (state : CmdLayer) (tasks : List CpTask)
    (tables : List (List InnerCbkLine)) : CmdLayer :=
  { state with cpTasks := tasks, eventCbkList := tables }

section

variable (tracked : Tracked state)
include tracked

theorem Tracked.retable {task : CpTask} (head : state.cpTasks = task :: tasks)
    (silent : task.concluding = none) {tables : List (List InnerCbkLine)}
    (kept : ∀ table ∈ tables, table ∈ state.eventCbkList ∨ ∃ opcode,
      table = dynamicTable opcode)
    (balance : ∀ opcode, (state.retable tasks tables).registered opcode +
      (state.retable tasks tables).registrations.countP (·.cmd = opcode) =
      state.waiting opcode + (state.retable tasks tables).unregistrations.count
      opcode) :
    Tracked (state.retable tasks tables) := by
  have same : (state.retable tasks tables).outstanding =
      state.outstanding := by
    simp only [outstanding, CmdLayer.retable, head, filterMap_cons, silent]
  have fewer : (state.retable tasks tables).registrations.Sublist
      state.registrations := by
    rw [registrations, registrations, head]
    exact (sublist_cons_self task tasks).filterMap _
  have ordered := tracked.ordered
  have concludes := tracked.concludes
  rw [head] at ordered concludes
  exact
    { fresh := tracked.fresh
      distinct := tracked.distinct
      answered := tracked.answered
      known := by
        rw [same]
        exact tracked.known
      single := by
        rw [same]
        exact tracked.single
      called := tracked.called
      released := tracked.released
      once := by
        intro command accepted complete
        have once := tracked.once command accepted complete
        rw [CompletesOnce] at once ⊢
        rw [same]
        exact once
      balance := by
        intro opcode
        have waiting : (state.retable tasks tables).waiting opcode =
            state.waiting opcode := by
          rw [CmdLayer.waiting, same, CmdLayer.waiting]
        rw [waiting]
        exact balance opcode
      registering := by
        intro command member
        rw [same]
        exact tracked.registering command (fewer.subset member)
      registeringOnce := tracked.registeringOnce.sublist fewer
      ordered := (pairwise_cons.mp ordered).2
      concludes := fun later member =>
        concludes later (.tail _ member)
      handlers := by
        intro table member line inside differs command outstanding complete
        rw [same] at outstanding
        rcases kept table member with before | ⟨opcode, rfl⟩
        · exact tracked.handlers table before line inside differs command
            outstanding complete
        · rw [mem_singleton.mp inside] at differs
          exact absurd rfl differs }

theorem Tracked.register {command : Command}
    (head : state.cpTasks = .innerEventCbkReg command :: tasks) :
    Tracked (state.retable tasks
      (state.eventCbkList ++ [dynamicTable command.cmd])) := by
  apply tracked.retable head rfl
  · exact forall_mem_append.mpr ⟨fun _ before => .inl before,
      fun _ new => .inr ⟨command.cmd, mem_singleton.mp new⟩⟩
  · intro opcode
    have balance := tracked.balance opcode
    simp only [registered, registrations, unregistrations, head, filterMap_cons,
      CpTask.registering, CpTask.unregistering, countP_cons] at balance
    simp only [registered, registrations, unregistrations, CmdLayer.retable,
      count_append, count_singleton]
    by_cases same : command.cmd = opcode
    · simp [same] at balance ⊢
      omega
    · have differs : dynamicTable command.cmd ≠ dynamicTable opcode := by
        intro equal
        exact same (by simpa [dynamicTable] using equal)
      simp [same, differs] at balance ⊢
      omega

theorem Tracked.unregister {opcode : Nat}
    (head : state.cpTasks = .innerEventCbkUnReg opcode :: tasks) :
    Tracked (state.retable tasks
      (state.eventCbkList.erase (dynamicTable opcode))) := by
  apply tracked.retable head rfl
  · intro table member
    exact .inl (mem_of_mem_erase member)
  · intro other
    have balance := tracked.balance other
    have enough := tracked.registrations_le other
    simp only [registered, registrations, unregistrations, head, filterMap_cons,
      CpTask.registering, CpTask.unregistering, count_cons] at balance enough
    simp only [registered, registrations, unregistrations, CmdLayer.retable]
    by_cases same : opcode = other
    · subst same
      simp at balance ⊢
      omega
    · have differs : dynamicTable other ≠ dynamicTable opcode := by
        intro equal
        exact same (by simpa [dynamicTable] using equal.symm)
      rw [count_erase_of_ne differs]
      simp [same] at balance ⊢
      omega

end

end Registrations

section Complete

variable {node : CmdTxNode} {data : Bytes} {tasks : List CpTask}
  (tracked : Tracked state)
  (head : state.cpTasks = .eventTask cmdCompleteEvt (some node) data :: tasks)
  (complete : node.info.Complete)

include tracked head

omit tracked in
theorem report_outstanding : node.info ∈ state.outstanding :=
  mem_outstanding_of_concluding (head ▸ mem_cons_self) rfl

theorem Tracked.report_registered : node.info ∉ state.registrations := by
  have ordered := tracked.ordered
  rw [head] at ordered
  have later := (pairwise_cons.mp ordered).1
  rw [registrations, head]
  intro member
  obtain ⟨task, inside, registering⟩ := mem_filterMap.mp member
  rcases mem_cons.mp inside with rfl | behind
  · cases registering
  · exact later task behind node.info rfl registering

include complete

theorem Tracked.registered_pos : 1 ≤ state.registered node.info.cmd := by
  have more : state.registrations.countP (·.cmd = node.info.cmd) + 1 ≤
      state.waiting node.info.cmd := by
    rw [countP_eq_length_filter, waiting,
      countP_eq_length_filter, ← length_cons]
    apply List.Subperm.length_le
    apply subperm_of_subset
    · apply nodup_cons.mpr
      refine ⟨?_, tracked.registeringOnce.filter _⟩
      intro member
      exact tracked.report_registered head (mem_of_mem_filter member)
    · intro command member
      apply mem_filter.mpr
      rcases mem_cons.mp member with rfl | inside
      · exact ⟨report_outstanding head, by simp [complete]⟩
      · obtain ⟨registering, same⟩ := mem_filter.mp inside
        obtain ⟨outstanding, waits⟩ := tracked.registering command registering
        exact ⟨outstanding, by simpa [waits] using same⟩
  have balance := tracked.balance node.info.cmd
  omega

theorem Tracked.findFunc_report :
    findFunc state.eventCbkList node.info.cmd = some .executeCommandCbk := by
  have table : dynamicTable node.info.cmd ∈ state.eventCbkList :=
    count_pos_iff.mp (tracked.registered_pos head complete)
  have line : (⟨node.info.cmd, .executeCommandCbk⟩ : InnerCbkLine) ∈
      state.eventCbkList.flatten :=
    mem_flatten.mpr ⟨_, table, mem_singleton_self _⟩
  rw [findFunc]
  cases found : state.eventCbkList.flatten.find? (·.opcode = node.info.cmd) with
  | none =>
    have missing := find?_eq_none.mp found _ line
    simp at missing
  | some first =>
    have opcode : first.opcode = node.info.cmd := by
      simpa using find?_some found
    obtain ⟨owner, member, inside⟩ := mem_flatten.mp
      (mem_of_find?_eq_some found)
    rw [map_some]
    congr 1
    by_contra differs
    exact tracked.handlers owner member first inside differs node.info
      (report_outstanding head) complete opcode

end Complete

section

variable (state : CmdLayer) (cbkList : Nat → Option Nat)

theorem runCmdCbk_complete (data : Bytes) (complete : command.Complete)
    (answered : command.cbk = some cbk)
    (found : findFunc state.eventCbkList command.cmd = some .executeCommandCbk)
    :
    ∃ call, state.runCmdCbk cbkList (some command) data command.cmd =
        { state with
          cpTasks := state.cpTasks ++ [.innerEventCbkUnReg command.cmd]
          calls := state.calls ++ [call] } ∧
      call.context = some command.object ∧ call.cbk = cbk := by
  simp only [runCmdCbk, found, executeCommandCbk, complete, if_true, answered]
  exact ⟨_, rfl, rfl, rfl⟩

theorem recvEventHandler_complete {data : Bytes} (complete : command.Complete)
    (answered : command.cbk = some cbk) (long : 2 ≤ data.length)
    (named : decode2Byte data 0 = command.cmd)
    (found : findFunc state.eventCbkList command.cmd = some .executeCommandCbk)
    :
    ∃ cmdNum call,
      state.recvEventHandler cbkList cmdCompleteEvt (some command) data =
        { state with
          cmdNum
          dliTasks := state.dliTasks ++ [.cmdWorkCallback]
          cpTasks := state.cpTasks ++ [.innerEventCbkUnReg command.cmd]
          calls := state.calls ++ [call] } ∧
      call.context = some command.object ∧ call.cbk = cbk := by
  have dispatched : ¬ ((cmdCompleteEvt = cmdCompleteEvt ∧
      some command = none) ∨ data.length = 0) := by
    rintro (⟨-, missing⟩ | empty)
    · cases missing
    · omega
  have opcode : getEvtOpcode cmdCompleteEvt data = command.cmd := by
    simp [getEvtOpcode, long, named]
  rw [recvEventHandler, if_neg dispatched, opcode]
  dsimp only
  split
  · obtain ⟨call, result, context, called⟩ := runCmdCbk_complete
      { state with cmdNum := (data.getD 2 0).toNat } cbkList data complete
      answered found
    rw [result]
    exact ⟨_, call, rfl, context, called⟩
  · obtain ⟨call, result, context, called⟩ := runCmdCbk_complete state
      cbkList data complete answered found
    rw [result]
    exact ⟨_, call, rfl, context, called⟩

end

/-- A waiting command is reported: it is called and freed once, and the
removal of its inner callback is posted. -/
structure Reported (state next : CmdLayer) (command : Command)
    (tasks : List CpTask) : Prop where
  accepted : next.accepted = state.accepted
  nextObject : next.nextObject = state.nextObject
  eventCbkList : next.eventCbkList = state.eventCbkList
  cpTasks : next.cpTasks = tasks ++ [.innerEventCbkUnReg command.cmd]
  left : state.outstanding.Perm (command :: next.outstanding)
  calls : ∃ call, next.calls = state.calls ++ [call] ∧
    call.context = some command.object ∧ some call.cbk = command.cbk
  freed : next.freed = state.freed ++ [command.object]

section Reported

variable {command : Command} {tasks : List CpTask} {task : CpTask}
  (tracked : Tracked state) (reported : Reported state next command tasks)

include tracked reported

theorem Reported.known : command ∈ state.accepted := by
  apply tracked.known
  rw [reported.left.mem_iff]
  exact .head _

theorem Reported.absent : command ∉ next.outstanding := by
  have single := reported.left.nodup_iff.mp tracked.single
  exact (nodup_cons.mp single).1

theorem Reported.completesOnce {other : Command}
    (accepted : other ∈ state.accepted) (waits : other.Complete) :
    next.CompletesOnce other := by
  have once := tracked.once other accepted waits
  obtain ⟨call, extended, context, called⟩ := reported.calls
  have calls : next.callsOf other = state.callsOf other +
      if command = other then 1 else 0 := by
    rw [callsOf, extended, countP_append, countP_singleton]
    congr 1
    by_cases same : command = other
    · subst same
      simp [context, called]
    · have differs : command.object ≠ other.object := fun equal =>
        same (tracked.same (reported.known tracked) accepted equal)
      simp [context, same, differs]
  have frees : next.freesOf other = state.freesOf other +
      if command = other then 1 else 0 := by
    rw [freesOf, reported.freed, count_append, count_singleton]
    congr 1
    by_cases same : command = other
    · subst same
      simp
    · have differs : command.object ≠ other.object := fun equal =>
        same (tracked.same (reported.known tracked) accepted equal)
      simp [same, differs]
  rw [CompletesOnce] at once ⊢
  rw [calls, frees]
  by_cases same : command = other
  · subst same
    have open' : command ∈ state.outstanding := by
      rw [reported.left.mem_iff]
      exact .head _
    rw [if_pos open'] at once
    rw [if_neg (reported.absent tracked), once.1, once.2]
    simp
  · have member : other ∈ next.outstanding ↔ other ∈ state.outstanding := by
      rw [reported.left.mem_iff, mem_cons]
      exact (or_iff_right (Ne.symm same)).symm
    simpa only [same, if_false, Nat.add_zero, member] using once

theorem Tracked.reportComplete (complete : command.Complete)
    (head : state.cpTasks = task :: tasks)
    (concluding : task.concluding = some command)
    (registering : task.registering = none)
    (unregistering : task.unregistering = none) : Tracked next := by
  have ordered := tracked.ordered
  have concludes := tracked.concludes
  rw [head] at ordered concludes
  have behind := (pairwise_cons.mp ordered).1
  have registrations : next.registrations = state.registrations := by
    rw [CmdLayer.registrations, CmdLayer.registrations, reported.cpTasks,
      head, filterMap_append, filterMap_cons_none registering]
    exact append_nil _
  have unregistrations : next.unregistrations =
      state.unregistrations ++ [command.cmd] := by
    rw [CmdLayer.unregistrations, CmdLayer.unregistrations, reported.cpTasks,
      head, filterMap_append, filterMap_cons_none unregistering]
    rfl
  have fewer : ∀ other ∈ next.outstanding, other ∈ state.outstanding := by
    intro other member
    rw [reported.left.mem_iff]
    exact .tail _ member
  exact
    { fresh := by
        rw [reported.accepted, reported.nextObject]
        exact tracked.fresh
      distinct := by
        rw [reported.accepted]
        exact tracked.distinct
      answered := by
        rw [reported.accepted]
        exact tracked.answered
      known := by
        rw [reported.accepted]
        exact fun other member => tracked.known other (fewer other member)
      single := (nodup_cons.mp (reported.left.nodup_iff.mp tracked.single)).2
      called := by
        obtain ⟨call, extended, context, -⟩ := reported.calls
        rw [extended, reported.nextObject]
        refine forall_mem_append.mpr ⟨tracked.called,
          fun other new object owned => ?_⟩
        rw [mem_singleton.mp new, context] at owned
        rw [← some.inj owned]
        exact tracked.fresh command (reported.known tracked)
      released := by
        rw [reported.freed, reported.nextObject]
        exact forall_mem_append.mpr ⟨tracked.released,
          forall_mem_singleton.mpr (tracked.fresh command (reported.known
            tracked))⟩
      once := by
        rw [reported.accepted]
        exact fun other accepted waits =>
          reported.completesOnce tracked accepted waits
      balance := by
        intro opcode
        have balance := tracked.balance opcode
        have waiting : state.waiting opcode = next.waiting opcode +
            if command.cmd = opcode then 1 else 0 := by
          rw [CmdLayer.waiting, reported.left.countP_eq, countP_cons]
          simp [complete, CmdLayer.waiting]
        rw [registered, reported.eventCbkList, registrations,
          unregistrations, count_append, count_singleton]
        simp only [beq_iff_eq]
        rw [registered] at balance
        omega
      registering := by
        rw [registrations]
        intro other member
        obtain ⟨inside, waits⟩ := tracked.registering other member
        refine ⟨?_, waits⟩
        rw [reported.left.mem_iff, mem_cons] at inside
        rcases inside with rfl | inside
        · rw [CmdLayer.registrations, head,
            filterMap_cons_none registering] at member
          obtain ⟨later, position, again⟩ := mem_filterMap.mp member
          exact absurd again (behind later position _ concluding)
        · exact inside
      registeringOnce := by
        rw [registrations]
        exact tracked.registeringOnce
      ordered := by
        rw [reported.cpTasks, pairwise_append]
        refine ⟨(pairwise_cons.mp ordered).2, pairwise_singleton _ _, ?_⟩
        intro earlier _ later single other _
        rw [mem_singleton.mp single]
        simp [CpTask.registering]
      concludes := by
        rw [reported.cpTasks]
        refine forall_mem_append.mpr ⟨
          fun later before => concludes later (.tail _ before),
          forall_mem_singleton.mpr ?_⟩
        trivial
      handlers := by
        rw [reported.eventCbkList]
        intro table member line inside differs other outstanding waits
        exact tracked.handlers table member line inside differs other
          (fewer other outstanding) waits }

end Reported

section

variable (tracked : Tracked state) {tasks : List CpTask} {node : CmdTxNode}
  {data : Bytes} {event : Nat}
include tracked

theorem Tracked.eventTask
    (head : state.cpTasks = .eventTask event (some node) data :: tasks)
    (cbkList : Nat → Option Nat) :
    Tracked (({ state with cpTasks := tasks }.recvEventHandler cbkList event
      (some node.info) data).cmdNodeDestroy node) := by
  by_cases complete : node.info.Complete
  · have concludes := tracked.concludes _ (head ▸ mem_cons_self)
    obtain ⟨rfl, long, named⟩ := concludes complete
    have found := tracked.findFunc_report head complete
    obtain ⟨cbk, answered⟩ := tracked.answered node.info
      (tracked.known _ (report_outstanding head)) complete
    obtain ⟨cmdNum, call, result, context, called⟩ :=
      recvEventHandler_complete { state with cpTasks := tasks } cbkList
        complete answered long named found
    rw [result]
    have left := outstanding_report head
    have reported : Reported state (cmdNodeDestroy { state with
        cmdNum
        dliTasks := state.dliTasks ++ [DliTask.cmdWorkCallback]
        cpTasks := tasks ++ [CpTask.innerEventCbkUnReg node.info.cmd]
        calls := state.calls ++ [call] } node) node.info tasks :=
      { accepted := rfl
        nextObject := rfl
        eventCbkList := rfl
        cpTasks := rfl
        left := by
          apply left.trans
          apply List.Perm.cons
          simp only [outstanding, cmdNodeDestroy, filterMap_append]
          have posted : [DliTask.cmdWorkCallback].filterMap
            DliTask.posted = [] := rfl
          have silent : [CpTask.innerEventCbkUnReg node.info.cmd].filterMap
            CpTask.concluding = [] := rfl
          rw [posted, silent, append_nil, append_nil]
          exact List.Perm.refl _
        calls := ⟨call, rfl, context, called ▸ answered.symm⟩
        freed := rfl }
    exact tracked.reportComplete reported complete head rfl rfl rfl
  · have foreign : ∀ command, some node.info = some command →
        ¬ command.Complete := by
      intro command same
      rw [← some.inj same]
      exact complete
    exact tracked.report head ⟨rfl, rfl, foreign⟩
      (handled_recvEventHandler foreign _ event data)

theorem Tracked.unsolicited
    (head : state.cpTasks = .eventTask event none data :: tasks)
    (cbkList : Nat → Option Nat) :
    Tracked ({ state with cpTasks := tasks }.recvEventHandler cbkList event
      none data) := by
  have foreign : ∀ command, (none : Option Command) = some command →
      ¬ command.Complete := by
    intro command same
    cases same
  have same : ({ state with cpTasks := tasks }.recvEventHandler cbkList event
      none data).release [] = { state with
        cpTasks := tasks }.recvEventHandler cbkList event none data := by
    simp [release]
  rw [← same]
  exact tracked.report head ⟨rfl, rfl, foreign⟩
    (handled_recvEventHandler foreign _ event data)

theorem Tracked.timeoutCallback
    (head : state.cpTasks = .timeoutCallback node :: tasks)
    (cbkList : Nat → Option Nat) :
    Tracked (({ state with cpTasks := tasks }.timeoutCallback cbkList
      node).cmdNodeDestroy node) := by
  have other : Concludes (.timeoutCallback node) :=
    tracked.concludes _ (head ▸ mem_cons_self)
  have foreign : ∀ command, some node.info = some command →
      ¬ command.Complete := by
    intro command same
    rw [← some.inj same]
    exact other
  refine tracked.report head ⟨rfl, rfl, foreign⟩ ?_
  unfold CmdLayer.timeoutCallback
  split
  · exact (handled_cmdNum _ _ _).trans (handled_recvEventHandler foreign _ _ _)
  · exact handled_recvEventHandler foreign _ _ _

theorem Tracked.cpThread (cbkList : Nat → Option Nat) :
    Tracked (state.step cbkList .cpThread) := by
  simp only [step]
  cases head : state.cpTasks with
  | nil => exact tracked
  | cons task tasks =>
    cases task with
    | innerEventCbkReg command => exact tracked.register head
    | innerEventCbkUnReg opcode => exact tracked.unregister head
    | eventTask event node data =>
      cases node with
      | none => exact tracked.unsolicited head cbkList
      | some node => exact tracked.eventTask head cbkList
    | timeoutCallback node => exact tracked.timeoutCallback head cbkList

theorem Tracked.step (event : CmdEvent) (cbkList : Nat → Option Nat)
    (regular : state.Regular event) : Tracked (state.step cbkList event) := by
  cases event with
  | execute cmd event cbk => exact tracked.executeCommand regular
  | packet bytes =>
    simp only [CmdLayer.step]
    split
    · exact tracked.packet bytes
    · exact tracked
  | dliThread accepts => exact tracked.dliThread accepts cbkList regular
  | cpThread => exact tracked.cpThread cbkList
  | timeout object =>
    simp only [CmdLayer.step]
    cases timed : state.timedNode object with
    | none => exact tracked
    | some node => exact tracked.cmdTimerCallback timed (regular node timed)

end

/-- In every run whose steps take waiting commands off the list in the
intended way only, every such command completes once and inner callbacks are
registered for the outstanding ones. -/
theorem allComplete_always (cbkList : Nat → Option Nat)
    (modules : List (List Nat)) (events : List CmdEvent)
    (regular : Meets (CmdLayer.step cbkList) Regular (enabled modules) events) :
    Always (CmdLayer.step cbkList) AllComplete (enabled modules) events :=
  always_of_meets (fun _ => Tracked.allComplete)
    (fun _ event tracked regular => tracked.step event cbkList regular)
    (tracked_enabled modules) regular

/-- `DLI_READ_LOCAL_BUFFER` is sent and answered by a command complete
event. -/
def answeredRun : List CmdEvent :=
  [.execute 0x0402 cmdCompleteEvt (some 1), .cpThread, .dliThread 1,
    .packet [0x02, 0x00, 0x04, 0x00, 0x02, 0x04, 0x01, 0x00], .dliThread 1,
    .cpThread, .cpThread]

theorem allComplete_answeredRun :
    Always (CmdLayer.step fun _ => none) AllComplete (enabled []) answeredRun := by
  apply allComplete_always
  refine ⟨?_, trivial, ⟨?_, ?_⟩, trivial, ⟨?_, ?_⟩, trivial, trivial, trivial⟩
  · intro _
    decide
  · intro _ _ _ _
    decide
  · intro _ _ posted
    cases posted
  · intro _ _ posted
    cases posted
  · intro _ _ posted
    cases posted
    intro _ _ _
    decide

/-- `DLI_READ_LOCAL_BUFFER` is sent and runs into its timeout. -/
def expiredRun : List CmdEvent :=
  [.execute 0x0402 cmdCompleteEvt (some 1), .cpThread, .dliThread 1,
    .timeout 0, .cpThread]

theorem allComplete_fails :
    ¬ Always (CmdLayer.step fun _ => none) AllComplete (enabled [])
      expiredRun := by
  intro always
  have last := always.at_end
  have quiet : (run (CmdLayer.step fun _ => none) (enabled [])
      expiredRun).Quiet 0x0402 := by
    constructor <;> decide
  have callbacks := last.callbacks 0x0402 quiet
  revert callbacks
  decide

end NearLink.Dli.CmdLayer
