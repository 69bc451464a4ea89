import NearLink.Cm.ConcurrentAdd

/-!
# The invariant of the connecting devices

The counts of the table are those of its nodes, every node is wanted by some
module, and the running timers are those of the direct connections.  This
holds in every run whose requests name addresses of a supported type.  With
any other type the key of a node is changed behind its back, and the timeout
of a direct connection no longer finds its entry.
-/

namespace NearLink.Cm

open Keyed Transition List

def ConnEvent.requested : ConnEvent → List SleAddr
  | directConnectAdd _ addr _ => [addr]
  | backgroundConnectAdd _ bgAddrs => bgAddrs.map BgConnAddr.addr
  | _ => []

def ConnEvent.Supported (event : ConnEvent) : Prop :=
  ∀ addr ∈ event.requested, addr.Supported

instance (event : ConnEvent) : Decidable event.Supported :=
  inferInstanceAs (Decidable (∀ addr ∈ event.requested, addr.Supported))

def Lower.willing (timer : Nat) : Lower where
  link := fun _ => none
  taskMem := true
  nodeMem := fun _ => true
  bgMem := fun _ => true
  directMapMem := true
  keyMem := true
  argsMem := true
  alarmMem := true
  cellMem := true
  timer := some timer
  cancel := true
  needCollab := false
  collab := false
  filter := fun _ => true
  establish := true
  release := true

namespace ConnTable

variable {table : ConnTable} {dev : ConnectingDev} {addr : SleAddr}
  {moduleId : UInt8} {lower : Lower} {timer : ConnTimer} {handle : Nat}

structure Sound (table : ConnTable) : Prop where
  size : table.sizeConnectingDev = table.devices.length
  sizes : ∀ dev ∈ table.devices, dev.sizeDoingDirect = dev.direct.length
  wanted : table.Wanted
  ids : (table.timers.map ConnTimer.id).Nodup
  running : (table.timers.map ConnTimer.id).Perm
    (table.devices.flatMap fun dev => dev.direct.map DirectConn.timerId)

/-- The invariant that carries `Sound` through supported requests. -/
structure Invariant (table : ConnTable) : Prop where
  formed : table.Formed
  wanted : table.Wanted

theorem Invariant.sound (invariant : table.Invariant) : table.Sound := by
  obtain ⟨formed, wanted⟩ := invariant
  refine ⟨formed.size, fun dev member => (formed.devs dev member).size,
    wanted, formed.ids, ?_⟩
  have running := formed.running.map ConnTimer.id
  unfold owned at running
  rw [map_flatMap] at running
  simpa only [ConnectingDev.owned_ids] using running

theorem Invariant.init : init.Invariant :=
  ⟨Formed.init, by simp [Wanted, ConnTable.init]⟩

theorem Invariant.alike {other : ConnTable} (alike : Alike table other)
    (invariant : table.Invariant) : other.Invariant :=
  ⟨alike.formed invariant.formed, alike.wanted invariant.wanted⟩

theorem Invariant.erase (invariant : table.Invariant) (addr : SleAddr) :
    (table.eraseConnectingDev addr).Invariant :=
  ⟨invariant.formed.erase addr, fun _ member =>
    invariant.wanted _ (mem_erase member)⟩

theorem find_wanted (wanted : table.Wanted)
    (located : table.connectingDevFind addr = some dev) : dev.Wanted :=
  wanted dev (find_mem located).1

section

variable (invariant : table.Invariant)
include invariant

theorem Invariant.doing {result : ConnTable × Bool}
    (doing : Doing table moduleId addr result) :
    (result.2 = true → result.1.Invariant) ∧
      (result.2 = false → (result.1.eraseConnectingDev addr).Invariant) := by
  have others {after : ConnTable} (formed : after.Formed)
      (elsewhere : ∀ wanted, wanted ≠ addr →
        after.connectingDevFind wanted = table.connectingDevFind wanted)
      (here : ∀ dev, after.connectingDevFind addr = some dev → dev.Wanted) :
      after.Invariant := by
    refine ⟨formed, formed.wanted_iff.mpr ?_⟩
    intro wanted dev located
    by_cases same : wanted = addr
    · exact here dev (same ▸ located)
    · rw [elsewhere wanted same] at located
      exact find_wanted invariant.wanted located
  constructor
  · intro success
    obtain ⟨formed, ⟨conn, entry⟩, -⟩ := doing.entered success
    refine others formed doing.elsewhere ?_
    intro dev located
    left
    intro idle
    unfold directEntry ConnectingDev.directFind at entry
    rw [located, Option.bind_some, idle] at entry
    cases entry
  · intro failure
    obtain ⟨formed, absent⟩ := doing.cleared failure
    refine others formed ?_ ?_
    · intro wanted differs
      rw [find_erase_ne differs]
      exact doing.elsewhere wanted differs
    · intro dev located
      rw [absent] at located
      cases located

theorem Invariant.directConnectAdd (supported : addr.Supported)
    (named : addr ≠ SleAddr.empty) (frameType : UInt8) :
    (table.directConnectAddInner lower moduleId addr frameType).Invariant := by
  have result := invariant.doing (directConnectDoingConnList_doing
    invariant.formed lower supported named moduleId frameType)
  unfold directConnectAddInner
  split
  · exact invariant
  split
  · exact invariant
  dsimp only
  split
  next success =>
    exact result.1 success
  next failure =>
    have alike := (report_alike (table.directConnectDoingConnList lower
      moduleId addr frameType).1 ⟨moduleId, invalidLcid, addr,
        .disconnected, dliMemoryCapacityExceeded⟩).erase addr
    exact (result.2 (Bool.eq_false_iff.mpr failure)).alike alike

theorem Invariant.bgConnectAdd {bgAddrs : List BgConnAddr}
    (supported : ∀ bgAddr ∈ bgAddrs, bgAddr.addr.Supported) :
    (table.bgConnectAddInner lower moduleId bgAddrs).Invariant := by
  have listing := bgConnectAddAll_listing invariant.formed lower moduleId
    supported
  unfold bgConnectAddInner
  split
  · exact invariant
  split
  · exact invariant
  dsimp only
  split
  next success =>
    exact ⟨listing.kept.formed, listing.wanted success invariant.wanted⟩
  · have formed := listing.kept.formed
    refine ⟨formed.destroy _, ((formed.destroy _).wanted_iff).mpr ?_⟩
    intro wanted dev located
    rw [formed.find_destroy] at located
    split at located
    · cases located
    next outside =>
      rw [listing.elsewhere wanted outside] at located
      exact find_wanted invariant.wanted located

end

theorem Formed.timer_entry (formed : table.Formed)
    (running : timer ∈ table.timers) :
    ∃ dev conn, table.connectingDevFind timer.addr = some dev ∧
      dev.directFind timer.moduleId = some conn ∧
      conn.timerId = timer.id := by
  have member := formed.running.mem_iff.mp running
  obtain ⟨dev, inside, owned⟩ := mem_flatMap.mp member
  obtain ⟨conn, entry, rfl⟩ := mem_map.mp owned
  have proper := formed.devs dev inside
  refine ⟨dev, conn, ?_, proper.find entry, rfl⟩
  have located := formed.find_of_mem inside
  rwa [← proper.addrs conn entry] at located

theorem Invariant.expire (invariant : table.Invariant) (moduleId : UInt8)
    (addr : SleAddr) : (table.directConnExpire moduleId addr).Invariant := by
  unfold directConnExpire
  cases located : table.connectingDevFind addr with
  | none => exact invariant
  | some dev =>
    have formed := invariant.formed.expire located moduleId
    refine ⟨formed, formed.wanted_iff.mpr ?_⟩
    intro wanted node found
    rw [invariant.formed.find_expire located] at found
    split at found
    · split at found <;> cases found
      · assumption
    · exact find_wanted invariant.wanted found

theorem erase_timers_subset (table : ConnTable) (addr : SleAddr) :
    (table.eraseConnectingDev addr).timers ⊆ table.timers := by
  unfold eraseConnectingDev
  split
  · exact filter_subset_self _
  · exact List.Subset.refl _

theorem expire_timers {conn : DirectConn}
    (located : table.connectingDevFind timer.addr = some dev)
    (found : dev.directFind timer.moduleId = some conn)
    (same : conn.timerId = timer.id) :
    timer.id ∉ (table.directConnExpire timer.moduleId
      timer.addr).timers.map ConnTimer.id := by
  have erased : timer.id ∉ (table.eraseDoingDirectConnMap dev
      timer.moduleId).timers.map ConnTimer.id := by
    unfold eraseDoingDirectConnMap
    rw [found, ← same]
    simp [timerDel]
  unfold directConnExpire tryDestroyConnectingDevEmptyNode
  rw [located]
  dsimp only
  split
  · intro member
    exact erased (map_subset _ (erase_timers_subset _ _) member)
  · exact erased

theorem timeout_alike (lower : Lower)
    (formed : (table.directConnExpire moduleId addr).Formed) :
    Alike (table.directConnExpire moduleId addr)
      (table.directConnTimeoutCbkInner lower moduleId addr) := by
  have cancelled := Quiet.command (table.directConnExpire moduleId addr)
    .connectCancel
  have started := cancelled.trans
    ((cancelled.alike.formed formed).startRemaining_quiet lower)
  unfold directConnTimeoutCbkInner
  dsimp only
  split_ifs
  · exact started.alike.trans (report_alike _ _)
  · exact started.alike
  · exact cancelled.alike

theorem timerDel_absent (absent : handle ∉ table.timers.map ConnTimer.id) :
    Alike table (table.timerDel handle) := by
  refine ⟨rfl, rfl, ?_, rfl⟩
  unfold timerDel
  rw [filter_eq_self]
  intro timer member
  simp only [bne_iff_ne, ne_eq]
  intro same
  exact absent (same ▸ mem_map_of_mem member)

theorem Invariant.timer_alike (invariant : table.Invariant)
    (fired : lookup ConnTimer.id handle table.timers = some timer) :
    Alike (table.directConnExpire timer.moduleId timer.addr)
      (table.timerProc lower handle) := by
  obtain ⟨dev, conn, located, found, same⟩ :=
    invariant.formed.timer_entry (lookup_mem fired)
  have gone := expire_timers located found same
  rw [lookup_key fired] at gone
  have alike := timeout_alike lower
    (invariant.expire timer.moduleId timer.addr).formed
  unfold timerProc
  rw [fired]
  refine alike.trans (timerDel_absent ?_)
  rw [alike.2.2.1]
  exact gone

theorem Invariant.timerProc (invariant : table.Invariant) (handle : Nat) :
    (table.timerProc lower handle).Invariant := by
  cases fired : lookup ConnTimer.id handle table.timers with
  | none =>
    unfold ConnTable.timerProc
    rw [fired]
    exact invariant
  | some timer =>
    exact (invariant.expire timer.moduleId timer.addr).alike
      (invariant.timer_alike fired)

theorem foldl_report_alike {Item : Type*} (items : List Item)
    (table : ConnTable) (sent : Item → LinkReport) :
    Alike table (items.foldl (fun current item =>
      current.report (sent item)) table) := by
  induction items generalizing table with
  | nil => exact .refl table
  | cons item items induction =>
    exact (report_alike table (sent item)).trans (induction _)

section

variable (invariant : table.Invariant)
include invariant

theorem Invariant.doingConnDirectRemove :
    (table.doingConnDirectRemove lower moduleId addr).Invariant := by
  unfold ConnTable.doingConnDirectRemove
  cases located : table.connectingDevFind addr with
  | none => exact invariant.alike (report_alike _ _)
  | some dev =>
    have direct := foldl_report_alike dev.direct table fun conn =>
      ⟨conn.moduleId, invalidLcid, addr, .disconnected, dliSuccess⟩
    have notified := direct.trans (foldl_report_alike dev.doingBgConnSet _
      fun conn =>
        ⟨conn.moduleId, invalidLcid, addr, .disconnected, dliSuccess⟩)
    have erased := (invariant.alike notified).erase addr
    exact erased.alike (erased.formed.startRmv_quiet lower).alike

theorem Invariant.directConnectRmv (discReason : UInt8) :
    (table.directConnectRmvInner lower moduleId addr discReason).Invariant := by
  unfold directConnectRmvInner
  cases lower.link addr with
  | none => exact invariant.doingConnDirectRemove
  | some link =>
    obtain ⟨status, lcid⟩ := link
    cases status with
    | connected =>
      dsimp only
      split
      · exact invariant.alike (Quiet.command _ _).alike
      · exact invariant.alike ((Quiet.command _ _).alike.trans
          (report_alike _ _))
    | disconnecting => exact invariant.alike (report_alike _ _)
    | _ => exact invariant.doingConnDirectRemove

theorem Invariant.bgConnectRmv :
    (table.bgConnectRmvInner lower moduleId addr).Invariant := by
  unfold bgConnectRmvInner
  split
  · exact invariant
  cases located : table.connectingDevFind addr with
  | none => exact invariant
  | some dev =>
    dsimp only
    cases dev.doingConnBgFind moduleId with
    | none => exact invariant
    | some conn =>
      obtain ⟨kept, wanted⟩ :=
        doingConnBgRemove_kept invariant.formed located moduleId
      exact .alike (kept.formed.startRmv_quiet lower).alike
        ⟨kept.formed, wanted invariant.wanted⟩

theorem Invariant.bgConnectClear :
    (table.bgConnectClearInner lower moduleId).Invariant := by
  obtain ⟨kept, wanted⟩ := doingConnBgClear_kept invariant.formed moduleId
  exact .alike (kept.formed.startRmv_quiet lower).alike
    ⟨kept.formed, wanted invariant.wanted⟩

theorem Invariant.complete (connectResult : LinkState) :
    (table.concurrentConnDoingComplete lower addr connectResult).Invariant := by
  have restarted {current : ConnTable} (kept : current.Invariant) :
      (if current.devices.isEmpty then current
        else (current.startAllowListConnReq lower none).1).Invariant := by
    split
    · exact kept
    · exact kept.alike (kept.formed.start_quiet lower none).alike
  apply restarted
  split
  · exact invariant.erase addr
  · exact invariant

end

theorem notifyConnFailed_alike (table : ConnTable) :
    Alike table table.notifyConnFailed := by
  have all (devs : List ConnectingDev) (current : ConnTable) :
      Alike current (devs.foldl (fun current dev =>
        if dev.isDirectDoing then
          current.notifyDirectConnectFailed dev.moduleId dev.addr
            dliMemoryCapacityExceeded
        else current) current) := by
    induction devs generalizing current with
    | nil => exact .refl current
    | cons dev devs induction =>
      rw [foldl_cons]
      split
      · exact (report_alike current _).trans (induction _)
      · exact induction current
  exact all table.devices table

theorem begin_alike (table : ConnTable) : Alike table table.begin :=
  Alike.refl table

theorem Invariant.step (invariant : table.Invariant)
    (event : ConnEvent × Lower) (supported : event.1.Supported) :
    (table.step event).Invariant := by
  obtain ⟨event, lower⟩ := event
  have start : table.begin.Invariant := invariant.alike (begin_alike table)
  unfold ConnTable.step
  split
  next accepted =>
    cases event with
    | directConnectAdd moduleId addr frameType =>
      have named : addr ≠ SleAddr.empty := by
        simp only [ConnEvent.accepted, Bool.and_eq_true, bne_iff_ne,
          ne_eq] at accepted
        exact accepted.2
      exact start.directConnectAdd
        (supported addr (by simp [ConnEvent.requested])) named frameType
    | directConnectRemove moduleId addr discReason =>
      exact start.directConnectRmv discReason
    | backgroundConnectAdd moduleId bgAddrs =>
      apply start.bgConnectAdd
      intro bgAddr member
      exact supported bgAddr.addr (mem_map_of_mem member)
    | backgroundConnectRemove moduleId addr => exact start.bgConnectRmv
    | backgroundConnectClear moduleId => exact start.bgConnectClear
    | timer handle => exact start.timerProc handle
    | doingComplete addr connectResult => exact start.complete connectResult
    | collabStart => exact start.alike (start.formed.collabStart_quiet).alike
    | collabFailed => exact start.alike (notifyConnFailed_alike _)
  · exact start

/-- In every run whose requests name addresses of a supported type the counts
are right, every node is wanted and the running timers are those of the direct
connections. -/
theorem sound_of_supported (events : List (ConnEvent × Lower))
    (supported : ∀ event ∈ events, event.1.Supported) :
    Always step Sound init events := by
  have meets : Meets step (fun _ event => event.1.Supported) init events :=
    meets_of_forall supported
  exact always_of_meets (fun _ invariant => invariant.sound)
    (fun _ event invariant => invariant.step event) Invariant.init meets

/-- A direct connection that is entered and times out. -/
theorem sound_timedOut :
    Always step Sound init
      [(.directConnectAdd moduleSsap ⟨4, 0x1234⟩ 0, Lower.willing 7),
        (.timer 7, Lower.willing 8)] :=
  sound_of_supported _ (by decide)

/-- An address of the second type: its key is changed, so that the timeout
does not find the entry, which stays in the table without a timer. -/
theorem sound_fails :
    ¬ Always step Sound init
      [(.directConnectAdd moduleSsap ⟨1, 0x1234⟩ 0, Lower.willing 7),
        (.timer 7, Lower.willing 8)] := by
  intro always
  have running := always.at_end.running
  revert running
  decide

end ConnTable

end NearLink.Cm
