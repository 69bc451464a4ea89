import NearLink.Cm.ConcurrentConn

/-!
# The operations on a table of supported addresses

As long as all addresses have a type that `CM_CheckAndFixAddrType` leaves
alone, programming the allow list does not change the table.  The address then
names at most one node, and every operation is described by the nodes that
look-ups find afterwards.
-/

namespace NearLink.Cm

open Keyed Transition ConnectingDev
open List hiding lookup

/-- The types of addresses that `CM_CheckAndFixAddrType` supports. -/
def SleAddr.Supported (addr : SleAddr) : Prop :=
  addr.type = 0 ∨ addr.type = 4

instance (addr : SleAddr) : Decidable addr.Supported :=
  inferInstanceAs (Decidable (_ ∨ _))

theorem SleAddr.fix_of_supported {addr : SleAddr} (supported : addr.Supported) :
    addr.checkAndFixAddrType = addr := by
  unfold checkAndFixAddrType
  rcases supported with zero | four
  · simp [zero]
  · simp [four]

namespace ConnectingDev

def owned (dev : ConnectingDev) : List ConnTimer :=
  dev.direct.map fun conn => ⟨conn.timerId, conn.moduleId, conn.addr⟩

/-- A node with a count that is right, at most one entry for a module, and
the address of the node in every alarm. -/
structure Formed (dev : ConnectingDev) : Prop where
  size : dev.sizeDoingDirect = dev.direct.length
  modules : (dev.direct.map DirectConn.moduleId).Nodup
  addrs : ∀ conn ∈ dev.direct, conn.addr = dev.addr

def Wanted (dev : ConnectingDev) : Prop :=
  dev.direct ≠ [] ∨ dev.doingBgConnSet ≠ []

instance (dev : ConnectingDev) : Decidable dev.Wanted :=
  inferInstanceAs (Decidable (_ ∨ _))

section

variable (dev : ConnectingDev)
include dev

theorem owned_ids :
    dev.owned.map ConnTimer.id = dev.direct.map DirectConn.timerId := by
  simp [owned, Function.comp_def]

@[simp] theorem destroy_kept :
    dev.destroyDoingDirectConnMap.serial = dev.serial ∧
      dev.destroyDoingDirectConnMap.addr = dev.addr ∧
      dev.destroyDoingDirectConnMap.doingBgConnSet = dev.doingBgConnSet ∧
      dev.destroyDoingDirectConnMap.sizeDoingDirect = dev.sizeDoingDirect := by
  unfold destroyDoingDirectConnMap
  split <;> simp

end

theorem destroy_direct {dev : ConnectingDev}
    (size : dev.sizeDoingDirect = dev.direct.length) :
    dev.destroyDoingDirectConnMap.direct = dev.direct := by
  unfold destroyDoingDirectConnMap
  split
  next zero =>
    rw [zero] at size
    exact (length_eq_zero_iff.mp size.symm).symm
  · rfl

variable {dev : ConnectingDev} {conn : DirectConn}

theorem Formed.find (formed : dev.Formed) (member : conn ∈ dev.direct) :
    dev.directFind conn.moduleId = some conn :=
  lookup_of_mem formed.modules member

@[simp] theorem eraseDirect_kept (dev : ConnectingDev) (moduleId : UInt8) :
    (dev.eraseDirect moduleId).serial = dev.serial ∧
      (dev.eraseDirect moduleId).addr = dev.addr ∧
      (dev.eraseDirect moduleId).doingBgConnSet = dev.doingBgConnSet := by
  unfold eraseDirect
  split <;> simp

theorem length_remove_of_lookup {moduleId : UInt8}
    (located : dev.directFind moduleId = some conn) :
    (remove DirectConn.moduleId moduleId dev.direct).length + 1 =
      dev.direct.length := by
  have whole := (perm_of_lookup located).length_eq
  exact whole.symm

section

variable (formed : dev.Formed)
include formed

variable (moduleId : UInt8)

theorem eraseDirect_direct :
    (dev.eraseDirect moduleId).direct =
      remove DirectConn.moduleId moduleId dev.direct := by
  unfold eraseDirect
  cases located : dev.directFind moduleId with
  | none =>
    rw [destroy_direct formed.size]
    exact (remove_absent located).symm
  | some conn =>
    apply destroy_direct
    have length := length_remove_of_lookup located
    have size := formed.size
    simp only [direct, Option.getD_some] at length size ⊢
    omega

theorem eraseDirect_size :
    (dev.eraseDirect moduleId).sizeDoingDirect =
      (dev.eraseDirect moduleId).direct.length := by
  rw [eraseDirect_direct formed]
  unfold eraseDirect
  have size := formed.size
  cases located : dev.directFind moduleId with
  | none =>
    rw [(destroy_kept _).2.2.2, remove_absent located]
    exact size
  | some conn =>
    have length := length_remove_of_lookup located
    rw [(destroy_kept _).2.2.2]
    simp only
    omega

theorem Formed.eraseDirect :
    (dev.eraseDirect moduleId).Formed := by
  refine ⟨eraseDirect_size formed moduleId, ?_, ?_⟩
  · rw [eraseDirect_direct formed]
    exact (remove_sublist.map _).nodup formed.modules
  · intro conn member
    rw [eraseDirect_direct formed] at member
    rw [(eraseDirect_kept ..).2.1]
    exact formed.addrs conn (remove_sublist.subset member)

theorem directFind_eraseDirect (moduleId other : UInt8) :
    (dev.eraseDirect moduleId).directFind other =
      if other = moduleId then none else dev.directFind other := by
  unfold directFind
  rw [eraseDirect_direct formed]
  split
  case isTrue same =>
    rw [same]
    exact lookup_remove_self formed.modules
  case isFalse same => exact lookup_remove_ne same

end

section

variable (dev : ConnectingDev)

theorem createMap_direct :
    dev.createDoingDirectConnMap.direct = dev.direct := by
  unfold createDoingDirectConnMap
  cases map : dev.doingDirectConnMap with
  | none => simp [direct, map]
  | some conns => rfl

theorem createMap_serial :
    dev.createDoingDirectConnMap.serial = dev.serial := by
  unfold createDoingDirectConnMap
  cases dev.doingDirectConnMap <;> rfl

theorem createMap_addr :
    dev.createDoingDirectConnMap.addr = dev.addr := by
  unfold createDoingDirectConnMap
  cases dev.doingDirectConnMap <;> rfl

end

theorem Formed.createMap (formed : dev.Formed) :
    dev.createDoingDirectConnMap.Formed := by
  constructor
  · have size := formed.size
    unfold createDoingDirectConnMap
    cases map : dev.doingDirectConnMap with
    | none => simp [direct]
    | some conns => exact size
  · rw [createMap_direct]
    exact formed.modules
  · rw [createMap_direct, createMap_addr]
    exact formed.addrs

theorem Formed.congr {other : ConnectingDev} (formed : dev.Formed)
    (map : other.doingDirectConnMap = dev.doingDirectConnMap)
    (size : other.sizeDoingDirect = dev.sizeDoingDirect)
    (addr : other.addr = dev.addr) : other.Formed := by
  have direct : other.direct = dev.direct := by
    unfold ConnectingDev.direct
    rw [map]
  constructor
  · rw [direct, size]
    exact formed.size
  · rw [direct]
    exact formed.modules
  · rw [direct, addr]
    exact formed.addrs

end ConnectingDev

namespace ConnTable

def owned (table : ConnTable) : List ConnTimer :=
  table.devices.flatMap ConnectingDev.owned

/-- A table whose addresses are supported and name one node each, with a
running timer for every direct connection. -/
structure Formed (table : ConnTable) : Prop where
  size : table.sizeConnectingDev = table.devices.length
  addrs : (table.devices.map ConnectingDev.addr).Nodup
  serials : (table.devices.map ConnectingDev.serial).Nodup
  fresh : ∀ dev ∈ table.devices, dev.serial < table.nextSerial
  supported : ∀ dev ∈ table.devices, dev.addr.Supported
  named : ∀ dev ∈ table.devices, dev.addr ≠ SleAddr.empty
  devs : ∀ dev ∈ table.devices, dev.Formed
  ids : (table.timers.map ConnTimer.id).Nodup
  running : table.timers.Perm table.owned

def Wanted (table : ConnTable) : Prop :=
  ∀ dev ∈ table.devices, dev.Wanted

def Alike (table other : ConnTable) : Prop :=
  other.devices = table.devices ∧
    other.sizeConnectingDev = table.sizeConnectingDev ∧
    other.timers = table.timers ∧ other.nextSerial = table.nextSerial

theorem Alike.refl (table : ConnTable) : Alike table table :=
  ⟨rfl, rfl, rfl, rfl⟩

variable {second first third : ConnTable}

theorem Alike.trans (left : Alike first second) (right : Alike second third) :
    Alike first third :=
  ⟨right.1.trans left.1, right.2.1.trans left.2.1,
    right.2.2.1.trans left.2.2.1, right.2.2.2.trans left.2.2.2⟩

variable {table other : ConnTable} {dev : ConnectingDev} {addr : SleAddr}

section

variable (alike : Alike table other)
include alike

theorem Alike.find (addr : SleAddr) :
    other.connectingDevFind addr = table.connectingDevFind addr := by
  unfold connectingDevFind
  rw [alike.1]

theorem Alike.formed (formed : table.Formed) :
    other.Formed := by
  obtain ⟨devices, size, timers, serial⟩ := alike
  constructor
  · rw [size, devices]
    exact formed.size
  · rw [devices]
    exact formed.addrs
  · rw [devices]
    exact formed.serials
  · rw [devices, serial]
    exact formed.fresh
  · rw [devices]
    exact formed.supported
  · rw [devices]
    exact formed.named
  · rw [devices]
    exact formed.devs
  · rw [timers]
    exact formed.ids
  · unfold owned
    rw [timers, devices]
    exact formed.running

theorem Alike.wanted (wanted : table.Wanted) :
    other.Wanted := by
  unfold Wanted
  rw [alike.1]
  exact wanted

end

theorem Formed.init : init.Formed := by
  constructor <;> simp [ConnTable.init, owned]

theorem find_mem (located : table.connectingDevFind addr = some dev) :
    dev ∈ table.devices ∧ dev.addr = addr :=
  ⟨lookup_mem located, lookup_key located⟩

theorem Formed.find_of_mem (formed : table.Formed)
    (member : dev ∈ table.devices) :
    table.connectingDevFind dev.addr = some dev :=
  lookup_of_mem formed.addrs member

theorem Formed.split (formed : table.Formed)
    (located : table.connectingDevFind addr = some dev) :
    table.timers.Perm (dev.owned ++
      (remove ConnectingDev.addr addr table.devices).flatMap
        ConnectingDev.owned) := by
  have parts := (perm_of_lookup located).flatMap_right ConnectingDev.owned
  exact formed.running.trans parts

theorem find_erase_ne {wanted : SleAddr} (differs : wanted ≠ addr) :
    (table.eraseConnectingDev addr).connectingDevFind wanted =
      table.connectingDevFind wanted := by
  unfold eraseConnectingDev
  split
  · exact lookup_remove_ne differs
  · rfl

theorem Formed.find_erase (formed : table.Formed) (addr : SleAddr) :
    (table.eraseConnectingDev addr).connectingDevFind addr = none := by
  unfold eraseConnectingDev
  split
  · exact lookup_remove_self formed.addrs
  · assumption

theorem mem_erase (member : dev ∈
    (table.eraseConnectingDev addr).devices) : dev ∈ table.devices := by
  unfold eraseConnectingDev at member
  split at member
  · exact remove_sublist.subset member
  · exact member

section

variable (formed : table.Formed)
include formed

theorem Formed.erase (addr : SleAddr) :
    (table.eraseConnectingDev addr).Formed := by
  cases located : table.connectingDevFind addr with
  | none => simpa only [eraseConnectingDev, located] using formed
  | some dev =>
    have sublist : (remove ConnectingDev.addr addr table.devices).Sublist
      table.devices := remove_sublist
    simp only [eraseConnectingDev, located]
    constructor
    · have length := (perm_of_lookup located).length_eq
      have size := formed.size
      rw [length_cons] at length
      simp only
      omega
    · exact (sublist.map _).nodup formed.addrs
    · exact (sublist.map _).nodup formed.serials
    · exact fun dev member => formed.fresh dev (sublist.subset member)
    · exact fun dev member => formed.supported dev (sublist.subset member)
    · exact fun dev member => formed.named dev (sublist.subset member)
    · exact fun dev member => formed.devs dev (sublist.subset member)
    · exact (filter_sublist.map _).nodup formed.ids
    · apply filter_perm_rest formed.ids (formed.split located)
      intro timer
      simp [← owned_ids]

theorem Formed.destroy (addrs : List SleAddr) :
    (table.destroyConnectingDevMap addrs).Formed := by
  induction addrs generalizing table with
  | nil => exact formed
  | cons addr addrs induction => exact induction (formed.erase addr)

theorem Formed.find_destroy (addrs : List SleAddr) (addr : SleAddr) :
    (table.destroyConnectingDevMap addrs).connectingDevFind addr =
      if addr ∈ addrs then none else table.connectingDevFind addr := by
  unfold destroyConnectingDevMap
  induction addrs generalizing table with
  | nil => simp
  | cons first addrs induction =>
    rw [foldl_cons, induction (formed.erase first)]
    by_cases same : addr = first
    · subst same
      simp [formed.find_erase]
    · simp [same, find_erase_ne same]

variable (located : table.connectingDevFind addr = some dev)
  {written : ConnectingDev}
include located

theorem Formed.put_devices (serial : written.serial = dev.serial) :
    (table.put written).devices =
      modify ConnectingDev.addr addr (fun _ => written) table.devices := by
  unfold put
  rw [serial]
  exact modify_of_found _ formed.serials located

theorem Formed.find_put (serial : written.serial = dev.serial)
    (kept : written.addr = dev.addr) (wanted : SleAddr) :
    (table.put written).connectingDevFind wanted =
      if wanted = addr then some written
      else table.connectingDevFind wanted := by
  unfold connectingDevFind
  rw [formed.put_devices located serial]
  exact lookup_modify_of_found _ located
    (kept.trans (find_mem located).2) wanted

theorem Formed.devAt_serial : table.devAt dev.serial = some dev :=
  lookup_of_mem formed.serials (find_mem located).1

section

variable (serial : written.serial = dev.serial) (kept : written.addr = dev.addr)
  (proper : written.Formed)
include serial kept proper

theorem Formed.write {timers : List ConnTimer}
    (ids : (timers.map ConnTimer.id).Nodup)
    (running : timers.Perm (written.owned ++
      (remove ConnectingDev.addr addr table.devices).flatMap
      ConnectingDev.owned)) :
    { table.put written with timers := timers }.Formed := by
  have old := find_mem located
  have devices := formed.put_devices located serial
  have sameSerials : (table.put written).devices.map ConnectingDev.serial =
      table.devices.map ConnectingDev.serial := by
    rw [devices]
    apply map_modify_of_lookup
    intro record found
    rw [connectingDevFind] at located
    rw [located] at found
    cases found
    exact serial
  have sameAddrs : (table.put written).devices.map ConnectingDev.addr =
      table.devices.map ConnectingDev.addr := by
    rw [devices]
    apply map_modify_of_lookup
    intro record found
    rw [connectingDevFind] at located
    rw [located] at found
    cases found
    exact kept
  have members (property : ConnectingDev → Prop)
      (all : ∀ dev ∈ table.devices, property dev)
      (new : property written) :
      ∀ dev ∈ (table.put written).devices, property dev := by
    exact forall_modify all fun _ _ => new
  constructor
  · have length := congrArg List.length sameAddrs
    rw [length_map, length_map] at length
    exact formed.size.trans length.symm
  · exact sameAddrs ▸ formed.addrs
  · exact sameSerials ▸ formed.serials
  · apply members _ formed.fresh
    rw [serial]
    exact formed.fresh dev old.1
  · apply members _ formed.supported
    rw [kept]
    exact formed.supported dev old.1
  · apply members _ formed.named
    rw [kept]
    exact formed.named dev old.1
  · exact members _ formed.devs proper
  · exact ids
  · have parts := (modify_perm_of_lookup (fun _ => written)
      located).flatMap_right ConnectingDev.owned
    rw [flatMap_cons, ← devices] at parts
    exact running.trans parts.symm

theorem Formed.put (direct : written.direct = dev.direct)
    : (table.put written).Formed := by
  apply formed.write located serial kept proper formed.ids
  have owned : written.owned = dev.owned := by
    unfold ConnectingDev.owned
    rw [direct]
  rw [owned]
  exact formed.split located

end

theorem find_eraseDirect (moduleId : UInt8) (wanted : SleAddr) :
    (table.eraseDoingDirectConnMap dev moduleId).connectingDevFind wanted =
      if wanted = addr then some (dev.eraseDirect moduleId)
      else table.connectingDevFind wanted := by
  have put := formed.find_put located (dev.eraseDirect_kept moduleId).1
    (dev.eraseDirect_kept moduleId).2.1 wanted
  unfold eraseDoingDirectConnMap
  cases dev.directFind moduleId with
  | none | some => exact put

end

theorem owned_eraseDirect (formed : dev.Formed) {conn : DirectConn}
    {moduleId : UInt8} (located : dev.directFind moduleId = some conn) :
    dev.owned.Perm (⟨conn.timerId, conn.moduleId, conn.addr⟩ ::
      (dev.eraseDirect moduleId).owned) := by
  unfold ConnectingDev.owned
  rw [eraseDirect_direct formed]
  exact (perm_of_lookup located).map _

section

variable (formed : table.Formed)
include formed

theorem Formed.eraseDirect (located : table.connectingDevFind addr = some dev)
    (moduleId : UInt8) :
    (table.eraseDoingDirectConnMap dev moduleId).Formed := by
  have proper := formed.devs dev (find_mem located).1
  have serial := (dev.eraseDirect_kept moduleId).1
  have kept := (dev.eraseDirect_kept moduleId).2.1
  unfold eraseDoingDirectConnMap
  cases found : dev.directFind moduleId with
  | none =>
    apply formed.put located serial kept (proper.eraseDirect moduleId)
    rw [eraseDirect_direct proper]
    exact remove_absent found
  | some conn =>
    apply formed.write located serial kept (proper.eraseDirect moduleId)
    · exact (filter_sublist.map _).nodup formed.ids
    · have parts : table.timers.Perm
          ([⟨conn.timerId, conn.moduleId, conn.addr⟩] ++
            ((dev.eraseDirect moduleId).owned ++
              (remove ConnectingDev.addr addr table.devices).flatMap
                ConnectingDev.owned)) :=
        (formed.split located).trans
          ((owned_eraseDirect proper found).append_right _)
      apply filter_perm_rest formed.ids parts
      intro timer
      simp

theorem Formed.find_tryDestroy (addr wanted : SleAddr) (dev : ConnectingDev) :
    (table.tryDestroyConnectingDevEmptyNode dev addr).connectingDevFind wanted =
      if wanted = addr ∧ dev.doingBgConnSet.isEmpty ∧
        dev.sizeDoingDirect = 0 then none
      else table.connectingDevFind wanted := by
  unfold tryDestroyConnectingDevEmptyNode
  split
  case isTrue empty =>
    by_cases same : wanted = addr
    · rw [if_pos ⟨same, empty⟩, same]
      exact formed.find_erase addr
    · rw [if_neg fun both => same both.1]
      exact find_erase_ne same
  case isFalse empty => rw [if_neg fun both => empty both.2]

theorem Formed.tryDestroy (dev : ConnectingDev) (addr : SleAddr) :
    (table.tryDestroyConnectingDevEmptyNode dev addr).Formed := by
  unfold tryDestroyConnectingDevEmptyNode
  split
  · exact formed.erase addr
  · exact formed

end

structure Quiet (table other : ConnTable) : Prop where
  alike : Alike table other
  reports : other.reports = table.reports

theorem Quiet.trans (left : Quiet first second) (right : Quiet second third) :
    Quiet first third :=
  ⟨left.alike.trans right.alike, right.reports.trans left.reports⟩

theorem Quiet.command (table : ConnTable) (sent : ConnCommand) :
    Quiet table (table.command sent) :=
  ⟨Alike.refl table, rfl⟩

theorem resetAllowList_devices (filter : Nat → Bool) (index : Nat)
    {devs : List ConnectingDev} (supported : ∀ dev ∈ devs, dev.addr.Supported) :
    (resetAllowList filter index devs).1 = devs := by
  induction devs generalizing index with
  | nil => rfl
  | cons dev devs induction =>
    have fixed := SleAddr.fix_of_supported (supported dev (by simp))
    have rest := induction (index + 1) fun later member =>
      supported later (.tail _ member)
    unfold resetAllowList
    split
    · simp only [fixed, rest]
    · simp only [fixed]

variable {lower : Lower}

theorem Formed.setConnectParam_quiet (formed : table.Formed) (lower : Lower) :
    Quiet table (table.setConnectParamAndResetAllowList lower).1 := by
  unfold setConnectParamAndResetAllowList connectSetAllowListParam
  have devices :
      (resetAllowList lower.filter 0 table.devices).1 = table.devices :=
    resetAllowList_devices lower.filter 0 formed.supported
  split
  · exact ⟨Alike.refl table, rfl⟩
  · dsimp only
    split
    · split
      all_goals exact ⟨⟨devices, rfl, rfl, rfl⟩, rfl⟩
    · exact ⟨⟨devices, rfl, rfl, rfl⟩, rfl⟩

theorem Formed.start_quiet (formed : table.Formed) (lower : Lower)
    (directConnAddr : Option SleAddr) :
    Quiet table (table.startAllowListConnReq lower directConnAddr).1 := by
  have programmed := formed.setConnectParam_quiet lower
  unfold startAllowListConnReq
  split
  · exact .command table _
  · dsimp only
    split_ifs
    any_goals exact programmed
    exact programmed.trans (.command _ _)

theorem notifyLinkCollabResult_quiet (table : ConnTable) :
    Quiet table (table.notifyLinkCollabResult lower) := by
  unfold notifyLinkCollabResult
  split
  · exact .command table _
  · exact ⟨Alike.refl table, rfl⟩

section

variable (formed : table.Formed)
include formed

theorem Formed.startRemaining_quiet (lower : Lower) :
    Quiet table (table.startRemaining lower).1 := by
  unfold startRemaining
  split
  · exact notifyLinkCollabResult_quiet table
  · exact formed.start_quiet lower none

theorem Formed.command (sent : ConnCommand) : (table.command sent).Formed :=
  (Quiet.command table sent).alike.formed formed

theorem Formed.startRmv_quiet (lower : Lower) :
    Quiet table (table.startRmvAllowListConnReq lower).1 := by
  unfold startRmvAllowListConnReq
  split
  · exact (Quiet.command table _).trans
      ((formed.command _).startRemaining_quiet lower)
  · exact .command table _

theorem Formed.restart_quiet (lower : Lower) (cancels : Bool) :
    Quiet table (table.restartAllowListConnReq lower cancels).1 := by
  unfold restartAllowListConnReq
  split_ifs
  · exact (Quiet.command table _).trans
      ((formed.command _).start_quiet lower none)
  · exact .command table _
  · exact formed.start_quiet lower none

theorem Formed.collabStart_quiet :
    Quiet table (table.collabStartConnReq lower) := by
  unfold collabStartConnReq
  split
  · exact notifyLinkCollabResult_quiet table
  · dsimp only
    split
    · exact (formed.setConnectParam_quiet lower).trans (.command _ _)
    · exact formed.setConnectParam_quiet lower

end

def Silent (table other : ConnTable) : Prop :=
  ∃ sent, other.reports = table.reports ++ sent ∧
    ∀ report ∈ sent, report.result ≠ .disconnected

theorem Silent.of_eq (reports : other.reports = table.reports) :
    Silent table other :=
  ⟨[], by rw [reports, append_nil], by simp⟩

theorem Silent.trans (left : Silent first second)
    (right : Silent second third) :
    Silent first third := by
  obtain ⟨early, firstReports, firstSilent⟩ := left
  obtain ⟨late, secondReports, secondSilent⟩ := right
  refine ⟨early ++ late, ?_, ?_⟩
  · rw [secondReports, firstReports, append_assoc]
  · exact forall_mem_append.mpr ⟨firstSilent, secondSilent⟩

section

variable (table : ConnTable)

theorem Silent.notifyConnecting (moduleId : UInt8) (addr : SleAddr) :
    Silent table (table.notifyConnecting moduleId addr) :=
  ⟨_, rfl, by simp⟩

@[simp] theorem erase_reports (addr : SleAddr) :
    (table.eraseConnectingDev addr).reports = table.reports := by
  unfold eraseConnectingDev
  split <;> rfl

@[simp] theorem eraseDirect_reports (dev : ConnectingDev) (moduleId : UInt8) :
    (table.eraseDoingDirectConnMap dev moduleId).reports =
      table.reports := by
  unfold eraseDoingDirectConnMap
  cases dev.directFind moduleId <;> rfl

@[simp] theorem tryDestroy_reports (dev : ConnectingDev) (addr : SleAddr) :
    (table.tryDestroyConnectingDevEmptyNode dev addr).reports =
      table.reports := by
  unfold tryDestroyConnectingDevEmptyNode
  split <;> simp

@[simp] theorem destroy_reports (addrs : List SleAddr) :
    (table.destroyConnectingDevMap addrs).reports = table.reports := by
  unfold destroyConnectingDevMap
  induction addrs generalizing table with
  | nil => rfl
  | cons addr addrs induction => simp [induction]

theorem report_alike (sent : LinkReport) :
    Alike table (table.report sent) :=
  Alike.refl table

end

theorem Alike.erase (alike : Alike table other) (addr : SleAddr) :
    Alike (table.eraseConnectingDev addr) (other.eraseConnectingDev addr) := by
  unfold eraseConnectingDev
  rw [alike.find]
  obtain ⟨devices, size, timers, serial⟩ := alike
  cases table.connectingDevFind addr with
  | none => exact ⟨devices, size, timers, serial⟩
  | some dev =>
    refine ⟨?_, ?_, ?_, serial⟩
    · simp only [devices]
    · simp only [size]
    · simp only [timers]

theorem Formed.create (formed : table.Formed) {mem : Bool}
    (supported : addr.Supported) (named : addr ≠ SleAddr.empty)
    {created : ConnTable}
    (result : table.createAppModuleConnectingDev mem addr =
      some (created, dev)) :
    created.Formed ∧ created.connectingDevFind addr = some dev ∧
      (∀ wanted, wanted ≠ addr → created.connectingDevFind wanted =
          table.connectingDevFind wanted) ∧
      created.reports = table.reports ∧
      (∀ moduleId, dev.directFind moduleId =
        (table.connectingDevFind addr).bind fun old =>
          old.directFind moduleId) ∧
      dev.doingBgConnSet = ((table.connectingDevFind addr).map
        ConnectingDev.doingBgConnSet).getD [] := by
  unfold createAppModuleConnectingDev at result
  cases located : table.connectingDevFind addr with
  | some old =>
    simp only [located, Option.some.injEq, Prod.mk.injEq] at result
    obtain ⟨rfl, rfl⟩ := result
    exact ⟨formed, located, fun _ _ => rfl, rfl, fun _ => rfl, rfl⟩
  | none =>
    simp only [located] at result
    split at result
    · obtain ⟨rfl, rfl⟩ := result
      have absent := lookup_eq_none.mp located
      refine ⟨?_, ?_, ?_, rfl, fun _ => rfl, rfl⟩
      · constructor
        · simp [formed.size]
        · exact nodup_cons.mpr ⟨absent, formed.addrs⟩
        · refine nodup_cons.mpr ⟨?_, formed.serials⟩
          intro member
          obtain ⟨old, inside, same⟩ := mem_map.mp member
          have older := formed.fresh old inside
          simp only at same
          omega
        · exact forall_mem_cons.mpr ⟨Nat.lt_succ_self _,
            fun dev member => Nat.lt_succ_of_lt (formed.fresh dev member)⟩
        · exact forall_mem_cons.mpr ⟨supported, formed.supported⟩
        · exact forall_mem_cons.mpr ⟨named, formed.named⟩
        · refine forall_mem_cons.mpr ⟨?_, formed.devs⟩
          constructor <;> simp [ConnectingDev.direct]
        · exact formed.ids
        · exact formed.running
      · simp [connectingDevFind, lookup]
      · intro wanted differs
        simp [connectingDevFind, lookup, Ne.symm differs]
    · cases result

end ConnTable

end NearLink.Cm
