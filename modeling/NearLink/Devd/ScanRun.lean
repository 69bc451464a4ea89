import NearLink.Devd.Scan

/-!
# What updates, answers and calls keep

What one update does is said once.  From it follows what every answer and
every call keeps, with and without commands that were given up.
-/

namespace NearLink.Devd

open Transition

theorem checkScanParams_scanParams (frame1 frame4 : ScanSetting) :
    Stm.checkScanParams (Stm.scanParams frame1 frame4) = true := by
  have taken : ∀ (active : Bool) (setting : ScanSetting),
      ∀ frame ∈ Stm.frameParams active setting,
        4 ≤ frame.scanInterval ∧ 4 ≤ frame.scanWindow := by
    intro active setting frame member
    have slots := setting.slots
    unfold Stm.frameParams at member
    unfold Slots at slots
    split at member
    case isTrue window =>
      rw [if_neg window] at slots
      rw [List.mem_singleton.mp member]
      exact ⟨slots.2, slots.1⟩
    case isFalse _ => cases member
  unfold Stm.checkScanParams
  rw [Bool.and_eq_true, List.all_eq_true]
  constructor
  · unfold Stm.scanParams
    split_ifs <;> rfl
  · intro frame member
    have ranges : 4 ≤ frame.scanInterval ∧ 4 ≤ frame.scanWindow := by
      rcases List.mem_append.mp member with first | second
      · exact taken true frame1 frame first
      · exact taken false frame4 frame second
    simp [ranges]

def willingLayer : Layer :=
  { timerAdd := fun _ => true
    alloc := fun _ => true
    accept := fun _ => true }

def Layer.Takes (layer : Layer) : Prop :=
  ∀ count, layer.alloc count = true ∧ layer.accept count = true

namespace Stm

variable {layer : Layer} {stm : Stm} {stale : List Command}
  {target : Option ScanSetting} {message : Message}

def Quiet (stm : Stm) : Prop :=
  (∀ target ∈ stm.frame1Target, target.window = 0) ∧
    ∀ target ∈ stm.frame4Target, target.window = 0

def Current (stm : Stm) : Prop :=
  (∃ target ∈ stm.frame1Target,
      scanSettingsEqual target stm.currentScanSetting = true) ∧
    ∃ target ∈ stm.frame4Target,
      scanSettingsEqual target stm.currentFrame4ScanSetting = true

/-- In the two states without a command the scan is what the scanners ask
for. -/
structure Settled (stm : Stm) : Prop where
  stopped : stm.state = .stopped → stm.Quiet
  started : stm.state = .started → stm.Current

def Scans (frame1 frame4 : ScanSetting) : Prop :=
  ¬ (frame1.window = 0 ∧ frame4.window = 0)

def own (stm : Stm) : List Command :=
  match stm.state with
  | .starting => [.start (scanParams stm.inflightScanSetting
      stm.inflightFrame4ScanSetting)]
  | .stopping => [.stop]
  | .stopped | .started => []

def Kept (stm : Stm) : Prop :=
  match stm.state with
  | .stopped =>
    stm.internalTimer = false ∧ stm.currentScanSetting = resetScanSetting ∧
        stm.inflightScanSetting = resetScanSetting ∧
          stm.currentFrame4ScanSetting = resetScanSetting ∧
            stm.inflightFrame4ScanSetting = resetScanSetting
  | .starting =>
    stm.lastStart = some (scanParams stm.inflightScanSetting
      stm.inflightFrame4ScanSetting) ∧
        Scans stm.inflightScanSetting stm.inflightFrame4ScanSetting
  | .started =>
    stm.internalTimer = false ∧
      stm.lastStart = some (scanParams stm.currentScanSetting
        stm.currentFrame4ScanSetting)
  | .stopping =>
    stm.lastStart = some (scanParams stm.currentScanSetting
      stm.currentFrame4ScanSetting)

structure Coherent (stale : List Command) (stm : Stm) : Prop where
  outstanding : stm.outstanding = stale ++ stm.own
  kept : stm.Kept

section

variable (idle : stm.outstanding = stale)
include idle

theorem coherent_enterStarting
    (scans : Scans stm.inflightScanSetting stm.inflightFrame4ScanSetting) :
    (stm.enterStarting layer).Coherent stale := by
  have fields : ∀ timed : Stm, timed = ({ stm with
      state := .starting }).startScanTimer layer →
        timed.outstanding = stale ∧
          timed.inflightScanSetting = stm.inflightScanSetting ∧
            timed.inflightFrame4ScanSetting =
              stm.inflightFrame4ScanSetting ∧ timed.state = .starting := by
    intro timed equal
    rw [equal]
    unfold startScanTimer
    split
    all_goals exact ⟨idle, rfl, rfl, rfl⟩
  obtain ⟨outstanding, inflight1, inflight4, state⟩ := fields _ rfl
  unfold enterStarting
  dsimp only
  rw [if_neg scans]
  split_ifs
  · constructor
    · simpa [enterStopped, stopScanTimer, notify, own] using outstanding
    · exact ⟨rfl, rfl, rfl, rfl, rfl⟩
  · constructor
    · simp only [own, state, inflight1, inflight4, outstanding]
    · simp only [Kept, state, inflight1, inflight4]
      exact ⟨trivial, scans⟩
  · constructor
    · simpa [enterStopped, stopScanTimer, notify, own] using outstanding
    · exact ⟨rfl, rfl, rfl, rfl, rfl⟩

theorem coherent_enterStopping
    (runs : stm.lastStart = some (scanParams stm.currentScanSetting
      stm.currentFrame4ScanSetting)) :
    (stm.enterStopping layer).Coherent stale := by
  have fields : ∀ timed : Stm, timed = ({ stm with
      state := .stopping }).startScanTimer layer →
        timed.outstanding = stale ∧ timed.state = .stopping ∧
          timed.lastStart = some (scanParams timed.currentScanSetting
            timed.currentFrame4ScanSetting) := by
    intro timed equal
    rw [equal]
    unfold startScanTimer
    split <;> exact ⟨idle, rfl, runs⟩
  obtain ⟨outstanding, state, started⟩ := fields _ rfl
  unfold enterStopping
  split
  · constructor
    · simp only [own, state, outstanding]
    · simp only [Kept, state]
      exact started
  · constructor
    · simpa [own, stopScanTimer] using outstanding
    · exact ⟨rfl, started⟩

theorem coherent_enterStopped (unarmed : stm.internalTimer = false) :
    stm.enterStopped.Coherent stale := by
  constructor
  · simpa [own, enterStopped] using idle
  · exact ⟨unarmed, rfl, rfl, rfl, rfl⟩

end

def aimed (stm : Stm) : Stm :=
  { stm with
    inflightScanSetting := normalize stm.frame1Target
    inflightFrame4ScanSetting := normalize stm.frame4Target }

def dropped (stm : Stm) (frame1 frame4 : ScanSetting) : Stm :=
  { stm with
    inflightScanSetting := frame1
    inflightFrame4ScanSetting := frame4 }

theorem normalize_window (zero : (normalize target).window = 0) :
    ∀ setting ∈ target, setting.window = 0 := by
  intro setting found
  cases found
  by_contra window
  simp [normalize, window] at zero

theorem inflight_normalize :
    (if scanSettingsEqual (normalize target) resetScanSetting = true then
        resetScanSetting
      else normalize target) = normalize target := by
  cases target with
  | none => rfl
  | some setting =>
    by_cases zero : setting.window = 0
    · simp [normalize, zero]
    · simp [normalize, zero, scanSettingsEqual, resetScanSetting]

theorem update_cases (layer : Layer) (coherent : stm.Coherent stale) :
    stm.update layer = stm ∧ stm.Settled ∨
      stm.state = .stopped ∧ Scans stm.aimed.inflightScanSetting
          stm.aimed.inflightFrame4ScanSetting ∧
        stm.update layer = stm.aimed.enterStarting layer ∨
      stm.state = .started ∧ ∃ frame1 frame4,
        stm.update layer = (stm.dropped frame1 frame4).enterStopping layer := by
  have kept := coherent.kept
  unfold Kept at kept
  unfold update
  cases now : stm.state with
  | stopped =>
    rw [now] at kept
    obtain ⟨_, current1, inflight1, current4, inflight4⟩ := kept
    unfold updateStopped
    dsimp only
    split
    case isTrue zero =>
      left
      refine ⟨rfl, ?_, by simp [now]⟩
      intro _
      exact ⟨normalize_window zero.1, normalize_window zero.2⟩
    case isFalse scans =>
      right
      left
      refine ⟨rfl, scans, ?_⟩
      have first : (if scanSettingsEqual (normalize stm.frame1Target)
          stm.currentScanSetting = true then stm.inflightScanSetting
            else normalize stm.frame1Target) =
              normalize stm.frame1Target := by
        rw [current1, inflight1, inflight_normalize]
      have fourth : (if scanSettingsEqual (normalize stm.frame4Target)
          stm.currentFrame4ScanSetting = true then
            stm.inflightFrame4ScanSetting
          else normalize stm.frame4Target) =
            normalize stm.frame4Target := by
        rw [current4, inflight4, inflight_normalize]
      rw [first, fourth]
      rfl
  | started =>
    unfold updateStarted
    cases frame1 : stm.frame1Target with
    | none =>
      right
      right
      exact ⟨rfl, stm.inflightScanSetting, stm.inflightFrame4ScanSetting, rfl⟩
    | some target1 =>
      cases frame4 : stm.frame4Target with
      | none =>
        right
        right
        exact ⟨rfl, stm.inflightScanSetting, stm.inflightFrame4ScanSetting, rfl⟩
      | some target4 =>
        dsimp only
        split
        case isTrue same =>
          rw [Bool.and_eq_true] at same
          left
          refine ⟨rfl, by simp [now], ?_⟩
          intro _
          exact ⟨⟨target1, frame1, same.1⟩, target4, frame4, same.2⟩
        case isFalse _ => exact .inr (.inr ⟨rfl, _, _, rfl⟩)
  | _ => exact .inl ⟨rfl, by simp [now], by simp [now]⟩

theorem Coherent.idle (coherent : stm.Coherent stale)
    (resting : stm.state = .stopped ∨ stm.state = .started) :
    stm.outstanding = stale := by
  have outstanding := coherent.outstanding
  unfold own at outstanding
  rcases resting with now | now <;> simpa [now] using outstanding

theorem Coherent.update (coherent : stm.Coherent stale) :
    (stm.update layer).Coherent stale := by
  have idle := coherent.idle
  have kept := coherent.kept
  rcases update_cases layer coherent with
    ⟨same, _⟩ | ⟨now, scans, starts⟩ | ⟨now, frame1, frame4, stops⟩
  · rw [same]
    exact coherent
  · rw [starts]
    exact coherent_enterStarting (idle (.inl now)) scans
  · rw [stops]
    unfold Kept at kept
    rw [now] at kept
    exact coherent_enterStopping (idle (.inr now)) kept.2

theorem tries_enterStarting (layer : Layer) (stm : Stm) :
    stm.tries < (stm.enterStarting layer).tries := by
  have same : (({ stm with state := .starting } : Stm).startScanTimer
      layer).tries = stm.tries := by
    unfold startScanTimer
    split <;> rfl
  unfold enterStarting
  dsimp only
  split_ifs
  · simp [enterStopped, stopScanTimer, notify, same]
  · simp [same]
  · simp [same]
  · simp [enterStopped, stopScanTimer, notify, same]

theorem tries_enterStopping (layer : Layer) (stm : Stm) :
    stm.tries < (stm.enterStopping layer).tries := by
  have same : (({ stm with state := .stopping } : Stm).startScanTimer
      layer).tries = stm.tries := by
    unfold startScanTimer
    split <;> rfl
  unfold enterStopping
  split
  · simp [same]
  · simp [stopScanTimer, same]

theorem Coherent.acts (coherent : stm.Coherent stale) :
    (stm.update layer).Settled ∨ stm.tries < (stm.update layer).tries := by
  rcases update_cases layer coherent with
    ⟨same, settled⟩ | ⟨_, _, starts⟩ | ⟨_, frame1, frame4, stops⟩
  · rw [same]
    exact .inl settled
  · rw [starts]
    exact .inr (tries_enterStarting layer stm.aimed)
  · rw [stops]
    exact .inr (tries_enterStopping layer (stm.dropped frame1 frame4))

section

variable (takes : layer.Takes)
  (scans : Scans stm.inflightScanSetting stm.inflightFrame4ScanSetting)
include takes scans

theorem enterStarting_taken :
    ∃ armed, stm.enterStarting layer = { stm with
      state := .starting
      internalTimer := armed
      tries := stm.tries + 1
      outstanding := stm.outstanding ++
        [.start (scanParams stm.inflightScanSetting
          stm.inflightFrame4ScanSetting)]
      lastStart := some (scanParams stm.inflightScanSetting
        stm.inflightFrame4ScanSetting) } := by
  obtain ⟨alloc, accept⟩ := takes stm.tries
  unfold enterStarting
  dsimp only
  rw [alloc, accept, checkScanParams_scanParams, if_neg scans]
  simp only [Bool.not_true, Bool.false_eq_true, if_false, Bool.and_self,
    if_true]
  unfold startScanTimer
  split <;> exact ⟨_, rfl⟩

theorem state_enterStarting :
    (stm.enterStarting layer).state = .starting := by
  obtain ⟨armed, equal⟩ := enterStarting_taken takes scans
  rw [equal]

end

theorem state_enterStopping (takes : layer.Takes) :
    (stm.enterStopping layer).state = .stopping := by
  unfold enterStopping
  rw [(takes stm.tries).2, if_pos rfl]
  unfold startScanTimer
  split <;> rfl

theorem settled_starting (now : stm.state = .starting) : stm.Settled :=
  ⟨by simp [now], by simp [now]⟩

theorem settled_stopping (now : stm.state = .stopping) : stm.Settled :=
  ⟨by simp [now], by simp [now]⟩

theorem Coherent.settles (coherent : stm.Coherent stale) (takes : layer.Takes) :
    (stm.update layer).Settled := by
  rcases update_cases layer coherent with
    ⟨same, settled⟩ | ⟨_, scans, starts⟩ | ⟨_, frame1, frame4, stops⟩
  · rw [same]
    exact settled
  · rw [starts]
    exact settled_starting (state_enterStarting takes scans)
  · rw [stops]
    exact settled_stopping (state_enterStopping takes)

/-- `STARTED` after a start that succeeded. -/
def credited (stm : Stm) : Stm :=
  { (({ stm with
      currentScanSetting := stm.inflightScanSetting
      currentFrame4ScanSetting := stm.inflightFrame4ScanSetting }).notify
        .success true).stopScanTimer with state := .started }

theorem processMessage_startOk (layer : Layer) (now : stm.state = .starting) :
    stm.processMessage layer .startOk = stm.credited.update layer := by
  unfold processMessage
  rw [now]
  rfl

theorem processMessage_stopOk (layer : Layer) (now : stm.state = .stopping) :
    stm.processMessage layer .stopOk =
      (((stm.notify .success false).stopScanTimer).enterStopped).update
        layer := by
  unfold processMessage
  rw [now]
  rfl

section

variable (kept : stm.Kept) (now : stm.state = .starting)
  (idle : stm.outstanding = stale)
include kept now idle

theorem coherent_credited : stm.credited.Coherent stale := by
  unfold Kept at kept
  rw [now] at kept
  refine ⟨?_, rfl, kept.1⟩
  simpa [own, credited, stopScanTimer, notify] using idle

theorem coherent_starting
    (ends : message = .startOk ∨ message = .startErr ∨
      message = .internalTimeout) :
    (stm.processMessage layer message).Coherent stale := by
  have failed : ∀ result, (((stm.notify result true).stopScanTimer
      ).enterStopped).Coherent stale := by
    intro result
    exact coherent_enterStopped idle rfl
  rcases ends with rfl | rfl | rfl
  · rw [processMessage_startOk layer now]
    exact (coherent_credited kept now idle).update
  · unfold processMessage
    rw [now]
    exact failed .fail
  · unfold processMessage
    rw [now]
    exact failed .timeout

end

theorem coherent_stopping (kept : stm.Kept) (now : stm.state = .stopping)
    (idle : stm.outstanding = stale)
    (ends : message = .stopOk ∨ message = .stopErr ∨ message =
      .internalTimeout) :
    (stm.processMessage layer message).Coherent stale := by
  unfold Kept at kept
  rw [now] at kept
  unfold processMessage
  rw [now]
  have stopped : ∀ result, ((((stm.notify result false).stopScanTimer
      ).enterStopped).update layer).Coherent stale := by
    intro result
    apply Coherent.update
    exact coherent_enterStopped idle rfl
  rcases ends with rfl | rfl | rfl
  · exact stopped .success
  · have failed : Coherent stale { (stm.notify .fail
        false).stopScanTimer with state := .started } := by
      refine ⟨?_, rfl, kept⟩
      simpa [own, stopScanTimer, notify] using idle
    exact failed
  · exact stopped .timeout

structure Stable (layer : Layer) (property : Stm → Prop) : Prop where
  scanners : ∀ stm scanners, property stm →
    property { stm with scanners := scanners }
  modules : ∀ stm modules, property stm →
    property { stm with scanModule := modules }
  timer : ∀ stm armed, property stm →
    property { stm with durationTimer := armed }
  notices : ∀ stm notices, property stm →
    property { stm with notices := notices }
  update : ∀ stm, property stm → property (stm.update layer)

section Stable

variable {property : Stm → Prop}

theorem Stable.clearExpiredParam (stable : Stable layer property)
    (holds : property stm) (reading : Option Timespec) :
    property (stm.clearExpiredParam layer reading) := by
  cases reading with
  | none => exact holds
  | some now => exact stable.update _ (stable.scanners stm _ holds)

theorem updateExpireTimer_keeps (timer : ∀ stm armed, property stm →
      property { stm with durationTimer := armed })
    (clears : ∀ stm reading, property stm →
      property (stm.clearExpiredParam layer reading))
    {added timeout : Bool} {readings : List (Option Timespec)}
    (holds : property stm) :
    property (updateExpireTimer layer added timeout readings stm) := by
  have unarmed : ∀ timeout stm, property stm →
      property (stm.unarm timeout) := by
    intro timeout stm holds
    cases timeout with
    | true => exact holds
    | false => exact timer stm false holds
  fun_induction Stm.updateExpireTimer layer added timeout readings stm with
  | case1 | case2 => exact unarmed _ _ holds
  | case3 _ _ _ _ _ _ _ _ induction =>
    exact induction (clears _ _ (unarmed _ _ holds))
  | case4 =>
    unfold startDurationTimer
    split
    · exact timer _ true (unarmed _ _ holds)
    · exact unarmed _ _ holds
  | case5 => exact unarmed _ _ holds

variable (stable : Stable layer property)
include stable

section

variable (holds : property stm)
include holds

theorem Stable.updateExpireTimer {added timeout : Bool}
    {readings : List (Option Timespec)} :
    property (updateExpireTimer layer added timeout readings stm) :=
  updateExpireTimer_keeps stable.timer
    (fun _ reading kept => stable.clearExpiredParam kept reading) holds

variable (scannerId : Nat)

theorem Stable.changeScanner (change : Scanner → Scanner) :
    property (stm.changeScanner scannerId change) := by
  unfold Stm.changeScanner
  split
  · exact holds
  · exact stable.scanners stm _ holds

theorem Stable.setDuration (added : Bool) (request : Request)
    (readings : List (Option Timespec)) :
    property (setDuration layer added request readings stm).1 := by
  unfold Stm.setDuration
  split
  · split
    · exact stable.updateExpireTimer holds
    · exact holds
    · exact holds
  · exact holds

theorem Stable.addScanParam (request : Request) (cloned added : Bool)
    (readings : List (Option Timespec)) :
    property (stm.addScanParam layer scannerId request cloned added
      readings).1 := by
  have changed := fun change =>
    stable.changeScanner holds scannerId change
  unfold Stm.addScanParam
  split_ifs
  any_goals exact stable.setDuration (changed _) added request readings
  any_goals exact holds
  exact changed Scanner.reset

theorem Stable.removeScanParam (added : Bool)
    (readings : List (Option Timespec)) :
    property (stm.removeScanParam layer scannerId added readings).1 := by
  unfold Stm.removeScanParam
  split_ifs
  · exact holds
  · exact holds
  · exact stable.updateExpireTimer
      (stable.changeScanner holds scannerId Scanner.reset)

end

theorem Stable.updateIf {result : Stm × Bool} (holds : property result.1) :
    property (updateIf layer result) := by
  unfold Stm.updateIf
  split
  · exact stable.update _ holds
  · exact holds

theorem Stable.removeScanModule (holds : property stm) (moduleId : Nat) :
    property (stm.removeScanModule moduleId) := by
  unfold Stm.removeScanModule
  split
  · have modules := stable.modules stm
      (stm.scanModule.set moduleId ⟨false, false⟩) holds
    exact stable.scanners _ (stm.scanners.filter (·.moduleId ≠ moduleId))
      modules
  · exact holds

theorem Stable.allStopped (holds : property stm) (added : Bool)
    (readings : List (Option Timespec)) :
    property (if (stm.removeAllScanParam layer added readings).state =
        .stopped then
        (stm.removeAllScanParam layer added readings).notify .success false
      else stm.removeAllScanParam layer added readings) := by
  have removed : property (stm.removeAllScanParam layer added readings) :=
    stable.updateExpireTimer (stable.scanners stm _ holds)
  split
  · exact stable.notices _ _ removed
  · exact removed

theorem Stable.step {system : System} {event : Event}
    (holds : property system.stm) (answers : ∀ ok, event ≠ .answer ok)
    (timely : event ≠ .busyTimeout) :
    property (system.step layer event).stm := by
  cases event with
  | regScanModule listens =>
    unfold System.step createScanModule
    dsimp only
    split
    · exact holds
    · exact stable.modules _ _ holds
  | deregScanModule moduleId =>
    exact stable.update _ (stable.removeScanModule holds moduleId)
  | allocScannerId moduleId alloc =>
    unfold System.step createScanner
    dsimp only
    split
    · split
      · exact holds
      · split
        · exact stable.scanners _ _ holds
        · exact holds
    · exact holds
  | removeScannerId scannerId =>
    exact stable.update _ (stable.scanners _ _ holds)
  | startScan scannerId request cloned added readings =>
    exact stable.updateIf (stable.addScanParam holds ..)
  | stopScan scannerId added readings =>
    exact stable.updateIf (stable.removeScanParam holds ..)
  | stopAllScan added readings =>
    exact stable.update _ (stable.allStopped holds added readings)
  | durationTimeout added readings =>
    unfold System.step durationTimeout
    dsimp only
    split
    · exact holds
    · exact stable.updateExpireTimer (stable.clearExpiredParam holds _)
  | answer ok => exact absurd rfl (answers ok)
  | busyTimeout => exact absurd rfl timely

end Stable

theorem stable_coherent (layer : Layer) (stale : List Command) :
    Stable layer (Coherent stale) where
  scanners _ _ coherent := ⟨coherent.outstanding, coherent.kept⟩
  modules _ _ coherent := ⟨coherent.outstanding, coherent.kept⟩
  timer _ _ coherent := ⟨coherent.outstanding, coherent.kept⟩
  notices _ _ coherent := ⟨coherent.outstanding, coherent.kept⟩
  update _ coherent := coherent.update

end Stm

end NearLink.Devd
