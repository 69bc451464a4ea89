import NearLink.Keyed
import NearLink.Transition

/-!
# Timers of an event centre

A timer is a descriptor that the loop of the event centre waits for.  The owner
holds nothing but the number of the descriptor, and the kernel gives the lowest
number that is free, so that a number is soon used again.  A descriptor of a
timer carries a serial number beside its own, by which the log tells two timers
with one number apart.

The callback of a timer may do anything.  The loop starts it with one step, the
calls it makes are steps of their own, and its return is one step more.
-/

namespace NearLink.Sdf

open Keyed

def evcMaxEventNum : Nat := 128

structure TimerDesc where
  eventHandle : Nat
  period : Bool
  serial : Nat
  deriving DecidableEq

/-- `SDF_EvcEvent`, with the descriptor block its `args` points to. -/
inductive EvcEvent where
  | timer (desc : TimerDesc)
  | event (eventHandle : Nat)

def EvcEvent.eventHandle : EvcEvent → Nat
  | .timer desc => desc.eventHandle
  | .event eventHandle => eventHandle

inductive TimerRecord where
  | created (serial : Nat)
  | added (serial : Nat)
  | deleted (serial : Nat)
  | expired (serial : Nat)
  | closed (serial : Nat)
  deriving DecidableEq

inductive EvcError where
  | wrongHandle
  | alreadyListened
  | memFailed
  | epollCtlFailed

inductive TimerError where
  | memFailed
  | timerCreateFailed
  | timerSetFailed
  | evcFailed

/-- What the calls that `SDF_EvcListenEvent` makes return. -/
structure ListenFate where
  descFound : Bool := true
  memory : Bool := true
  epollCtl : Bool := true

/-- What the calls that `SDF_TimerAdd` makes return. -/
structure AddFate where
  memory : Bool := true
  create : Bool := true
  settime : Bool := true
  listen : ListenFate := {}

/-- `SDF_EvcDesc`, the open descriptors of the process, and what `TimerProc`
keeps while the callback runs. -/
structure EventCentre where
  eventVector : List EvcEvent := []
  descriptors : List Nat := []
  firing : Option TimerDesc := none
  serials : Nat := 0
  log : List TimerRecord := []

def lowestFree (taken : List Nat) : Nat :=
  ((List.range (taken.length + 1)).find? fun number =>
    ! taken.contains number).getD 0

namespace EventCentre

variable (centre : EventCentre)

def note (entry : TimerRecord) : EventCentre :=
  { centre with log := centre.log ++ [entry] }

def close (fd : Nat) : EventCentre :=
  { centre with descriptors := centre.descriptors.filter (· ≠ fd) }

/-- `CleanTimerDesc` and `CleanEventDesc` -/
def cleanDesc : EvcEvent → EventCentre
  | .timer desc => (centre.close desc.eventHandle).note (.closed desc.serial)
  | .event eventHandle => centre.close eventHandle

def findEvcEvent (eventHandle : Nat) : Option EvcEvent :=
  lookup EvcEvent.eventHandle eventHandle centre.eventVector

def evcListenEvent (event : EvcEvent) (fate : ListenFate) :
    EventCentre × Option EvcError :=
  if fate.descFound = false then (centre, some .wrongHandle)
  else if evcMaxEventNum ≤ centre.eventVector.length then
    (centre, some .wrongHandle)
  else if (centre.findEvcEvent event.eventHandle).isSome then
    (centre, some .alreadyListened)
  else if fate.memory = false then (centre, some .memFailed)
  else
    let listed :=
      { centre with eventVector := centre.eventVector ++ [event] }
    if fate.epollCtl = false then
      -- `SDF_VectorRemoveLast` runs the destructor of the vector.
      ({ listed with eventVector := listed.eventVector.dropLast }.cleanDesc
        event, some .epollCtlFailed)
    else (listed, none)

def evcCancelEvent (eventHandle : Int) : EventCentre :=
  if eventHandle < 0 then centre
  else match centre.findEvcEvent eventHandle.toNat with
    | none => centre
    | some event =>
      { centre with
        eventVector := remove EvcEvent.eventHandle eventHandle.toNat
          centre.eventVector }.cleanDesc event

def timerAdd (period : Bool) (fate : AddFate) :
    EventCentre × Except TimerError Nat :=
  if fate.memory = false then (centre, .error .memFailed)
  else if fate.create = false then (centre, .error .timerCreateFailed)
  else
    let tFd := lowestFree centre.descriptors
    let serial := centre.serials
    let created :=
      { centre with
        descriptors := tFd :: centre.descriptors
        serials := serial + 1 }.note (.created serial)
    -- The descriptor 0 is taken for a failure and stays open.
    if tFd = 0 then (created, .error .timerCreateFailed)
    else if fate.settime = false then
      ((created.close tFd).note (.closed serial), .error .timerSetFailed)
    else
      match created.evcListenEvent (.timer ⟨tFd, period, serial⟩)
          fate.listen with
      | (listened, none) => (listened.note (.added serial), .ok tFd)
      | (refused, some _) =>
        ((refused.close tFd).note (.closed serial), .error .evcFailed)

def timerDel (handle : Int) : EventCentre :=
  centre.evcCancelEvent handle

/-- `SDF_EventAdd`, once its memory is there. -/
def eventAdd (fate : ListenFate) : EventCentre :=
  let eFd := lowestFree centre.descriptors
  let created := { centre with descriptors := eFd :: centre.descriptors }
  match created.evcListenEvent (.event eFd) fate with
  | (listened, none) => listened
  | (refused, some _) => refused.close eFd

/-- `EvcProcessEvent`; `TimerProc` up to its callback. -/
def evcProcessEvent (eventHandle readLen : Nat) : EventCentre :=
  match centre.findEvcEvent eventHandle with
  | some (.timer desc) =>
    if readLen = 8 then { centre with firing := some desc } else centre
  | _ => centre

/-- `TimerProc` from the return of its callback. -/
def timerProcReturn : EventCentre :=
  match centre.firing with
  | none => centre
  | some desc =>
    let returned := { centre with firing := none }
    if desc.period then returned
    else (returned.note (.expired desc.serial)).timerDel desc.eventHandle

def noteDeleted (handle : Int) : EventCentre :=
  match centre.findEvcEvent handle.toNat with
  | some (.timer desc) =>
    if handle < 0 then centre else centre.note (.deleted desc.serial)
  | _ => centre

end EventCentre

/-- One call into the event centre, or one step of its loop.  `occupy` and
`vacate` stand for the rest of the program, which opens descriptors and closes
those that it opened. -/
inductive EvcInput where
  | timerAdd (period : Bool) (fate : AddFate)
  | timerDel (handle : Int)
  | eventAdd (fate : ListenFate)
  | occupy
  | vacate (fd : Nat)
  | processEvent (eventHandle readLen : Nat)
  | callbackReturns

namespace EventCentre

def step (centre : EventCentre) : EvcInput → EventCentre
  | .timerAdd period fate => (centre.timerAdd period fate).1
  | .timerDel handle => (centre.noteDeleted handle).timerDel handle
  | .eventAdd fate => centre.eventAdd fate
  | .occupy =>
    { centre with
      descriptors := lowestFree centre.descriptors :: centre.descriptors }
  | .vacate fd =>
    if fd ∈ centre.eventVector.map EvcEvent.eventHandle then centre
    else centre.close fd
  | .processEvent eventHandle readLen =>
    -- The loop waits for the callback before it takes the next event.
    if centre.firing.isSome then centre
    else centre.evcProcessEvent eventHandle readLen
  | .callbackReturns => centre.timerProcReturn

def created (descriptors : List Nat) : EventCentre :=
  { descriptors := descriptors }

end EventCentre

theorem exists_free (taken : List Nat) :
    ∃ number ∈ List.range (taken.length + 1), number ∉ taken := by
  by_contra none
  push Not at none
  have within : (List.range (taken.length + 1)).Subperm taken :=
    List.subperm_of_subset List.nodup_range none
  have shorter := within.length_le
  simp at shorter

/-- `timerfd_create` returns a number that is not open, and the lowest. -/
theorem lowestFree_least (taken : List Nat) :
    lowestFree taken ∉ taken ∧
      ∀ number, number < lowestFree taken → number ∈ taken := by
  obtain ⟨free, ranged, unused⟩ := exists_free taken
  cases located : (List.range (taken.length + 1)).find? fun number =>
      ! taken.contains number with
  | none =>
    rw [List.find?_eq_none] at located
    have used := located free ranged
    simp [unused] at used
  | some number =>
    have chosen : lowestFree taken = number := by
      unfold lowestFree
      rw [located]
      rfl
    rw [chosen]
    rw [List.find?_range_eq_some] at located
    obtain ⟨isFree, _, lower⟩ := located
    refine ⟨by simpa using isFree, ?_⟩
    intro smaller below
    simpa using lower smaller below

end NearLink.Sdf
