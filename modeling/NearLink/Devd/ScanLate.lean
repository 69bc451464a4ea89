import NearLink.Devd.ScanRun

/-!
# Answers that come late

A busy timeout gives a command up, and the answers say nothing about the
command they belong to.  The machine and the controller agree as long as a late
answer is the one that the machine has assumed.
-/

namespace NearLink.Devd

open Transition List Stm

namespace Stm

variable {layer : Layer} {stm : Stm} {stale : List Command} {scanning : Bool}

def Off (stm : Stm) : Prop :=
  stm.state = .stopped ∨ stm.state = .starting

def On (stm : Stm) : Prop :=
  stm.state = .started ∨ stm.state = .stopping

theorem off_enterStarting : (stm.enterStarting layer).Off := by
  have same : (({ stm with state := .starting } : Stm).startScanTimer
      layer).state = .starting := by
    unfold startScanTimer
    split <;> rfl
  unfold enterStarting
  dsimp only
  split_ifs
  · exact .inl rfl
  · exact .inr same
  · exact .inr same
  · exact .inl rfl

theorem on_enterStopping : (stm.enterStopping layer).On := by
  have same : (({ stm with state := .stopping } : Stm).startScanTimer
      layer).state = .stopping := by
    unfold startScanTimer
    split <;> rfl
  unfold enterStopping
  split
  · exact .inr same
  · exact .inl rfl

theorem Off.on (off : stm.Off) : ¬ stm.On := by
  intro on
  rcases off with now | now <;> simp [On, now] at on

/-- An update changes neither what the machine takes the scan for nor the
commands that were given up. -/
theorem off_update (coherent : stm.Coherent stale) (off : stm.Off) :
    (stm.update layer).Off := by
  rcases update_cases layer coherent with
    ⟨same, _⟩ | ⟨_, _, starts⟩ | ⟨now, _⟩
  · rw [same]
    exact off
  · rw [starts]
    exact off_enterStarting
  · exact absurd (.inl now) off.on

theorem on_update (coherent : stm.Coherent stale) (on : stm.On) :
    (stm.update layer).On := by
  rcases update_cases layer coherent with
    ⟨same, _⟩ | ⟨now, _⟩ | ⟨_, frame1, frame4, stops⟩
  · rw [same]
    exact on
  · exact absurd on (Off.on (.inl now))
  · rw [stops]
    exact on_enterStopping

/-- The controller scans as the machine has it, up to a stop command that was
given up and has no answer yet. -/
def Late (scanning : Bool) (stm : Stm) : Prop :=
  ∃ stale, stm.Coherent stale ∧ (stm.On ∧ stale = [] ∧ scanning = true ∨
      stm.Off ∧ (scanning = true → Command.stop ∈ stale))

theorem stable_late (layer : Layer) (scanning : Bool) :
    Stable layer (Late scanning) where
  scanners _ _ late := by
    obtain ⟨stale, coherent, agrees⟩ := late
    exact ⟨stale, ⟨coherent.outstanding, coherent.kept⟩, agrees⟩
  modules _ _ late := by
    obtain ⟨stale, coherent, agrees⟩ := late
    exact ⟨stale, ⟨coherent.outstanding, coherent.kept⟩, agrees⟩
  timer _ _ late := by
    obtain ⟨stale, coherent, agrees⟩ := late
    exact ⟨stale, ⟨coherent.outstanding, coherent.kept⟩, agrees⟩
  notices _ _ late := by
    obtain ⟨stale, coherent, agrees⟩ := late
    exact ⟨stale, ⟨coherent.outstanding, coherent.kept⟩, agrees⟩
  update _ late := by
    obtain ⟨stale, coherent, ⟨on, rest⟩ | ⟨off, rest⟩⟩ := late
    · exact ⟨stale, coherent.update, .inl ⟨on_update coherent on, rest⟩⟩
    · exact ⟨stale, coherent.update, .inr ⟨off_update coherent off, rest⟩⟩

def Waits (stm : Stm) (command : Command) : Prop :=
  stm.state = .starting ∧ command ≠ .stop ∨
    stm.state = .stopping ∧ command = .stop

instance (stm : Stm) (command : Command) : Decidable (stm.Waits command) :=
  inferInstanceAs (Decidable (_ ∧ _ ∨ _ ∧ _))

end Stm

namespace System

variable {layer : Layer} {system : System} {command : Command} {scanning : Bool}

/-- An answer to the command of the state, or a late one that the machine has
assumed: a start that was given up fails, and not while a later one waits for
its answer, and a stop that was given up succeeds. -/
def Timely (system : System) (event : Event) : Prop :=
  match event with
  | .answer ok =>
    match system.stm.outstanding with
    | [] => True
    | command :: commands =>
      commands = [] ∧ system.stm.Waits command ∨
        if command = .stop then ok = true
        else ok = false ∧ system.stm.state ≠ .starting
  | _ => True

/-- An answer of the kind that the state waits for is the answer to the
command of the state, the last one. -/
def Credited (system : System) (event : Event) : Prop :=
  match event with
  | .answer _ =>
    ∀ command commands, system.stm.outstanding = command :: commands →
      system.stm.Waits command → commands = []
  | _ => True

/-- With nothing outstanding, the machine is in `STARTED` exactly when the
controller scans. -/
def Agrees (system : System) : Prop :=
  system.stm.outstanding = [] →
    (system.stm.state = .started ↔ system.scanning = true)

theorem agrees_of_late (late : system.stm.Late system.scanning) :
    system.Agrees := by
  obtain ⟨stale, coherent, agrees⟩ := late
  intro empty
  have split := coherent.outstanding
  rw [empty] at split
  obtain ⟨none, own⟩ := append_eq_nil_iff.mp split.symm
  rcases agrees with ⟨on, _, scans⟩ | ⟨off, scans⟩
  · rcases on with now | now
    · exact ⟨fun _ => scans, fun _ => now⟩
    · simp [Stm.own, now] at own
  · rw [none] at scans
    rcases off with now | now
    · constructor
      · intro started
        rw [now] at started
        cases started
      · intro scanning
        cases scans scanning
    · simp [Stm.own, now] at own

theorem late_cases {stm : Stm} (late : stm.Late scanning)
    {commands : List Command}
    (outstanding : stm.outstanding = command :: commands) :
    commands = [] ∧ stm.Waits command ∧ stm.Coherent [] ∧ stm.own = [command] ∧
          (stm.state = .stopping → scanning = true) ∧
            (stm.state = .starting → scanning = false) ∨
      ∃ rest, stm.Coherent (command :: rest) ∧ commands = rest ++ stm.own ∧
        stm.Off ∧ (scanning = true → Command.stop ∈ command :: rest) := by
  obtain ⟨stale, coherent, agrees⟩ := late
  have split := coherent.outstanding
  rw [outstanding] at split
  cases stale with
  | nil =>
    have own : stm.own = command :: commands := split.symm
    left
    cases now : stm.state with
    | starting =>
      have single := own
      simp only [Stm.own, now, List.cons.injEq] at single
      obtain ⟨equal, none⟩ := single
      rw [← none] at own
      refine ⟨none.symm, .inl ⟨now, by simp [← equal]⟩, coherent, own,
        by simp, ?_⟩
      intro _
      rcases agrees with ⟨on, _⟩ | ⟨_, scans⟩
      · simp [Stm.On, now] at on
      · rw [← Bool.not_eq_true]
        intro runs
        cases scans runs
    | stopping =>
      have single := own
      simp only [Stm.own, now, List.cons.injEq] at single
      obtain ⟨equal, none⟩ := single
      rw [← none] at own
      refine ⟨none.symm, .inr ⟨now, equal.symm⟩, coherent, own, ?_, by simp⟩
      intro _
      rcases agrees with ⟨_, _, scans⟩ | ⟨off, _⟩
      · exact scans
      · simp [Stm.Off, now] at off
    | _ => simp [Stm.own, now] at own
  | cons first rest =>
    right
    rw [cons_append, List.cons.injEq] at split
    obtain ⟨equal, behind⟩ := split
    rw [← equal] at coherent agrees
    refine ⟨rest, coherent, behind, ?_⟩
    rcases agrees with ⟨_, none, _⟩ | off
    · cases none
    · exact off

theorem late_awaited (stm : Stm) (kept : stm.Kept) (idle : stm.outstanding = [])
    (waits : stm.Waits command)
    (scans : stm.state = .stopping → scanning = true)
    (stopped : stm.state = .starting → scanning = false) (ok : Bool) :
    (stm.processMessage layer (command.reply ok)).Late
      (command.effect ok scanning) := by
  rcases waits with ⟨now, start⟩ | ⟨now, rfl⟩
  · cases command with
    | stop => exact absurd rfl start
    | start params =>
      rw [stopped now]
      cases ok with
      | true =>
        have coherent : stm.credited.Coherent [] :=
          coherent_credited kept now idle
        have on : stm.credited.On := .inl rfl
        have same : stm.processMessage layer .startOk =
          stm.credited.update layer := processMessage_startOk layer now
        refine ⟨[], ?_, .inl ⟨?_, rfl, rfl⟩⟩
        · exact same ▸ coherent.update
        · exact same ▸ on_update coherent on
      | false =>
        refine ⟨[], coherent_starting kept now idle
          (.inr (.inl rfl)), .inr ⟨?_, ?_⟩⟩
        · unfold Stm.processMessage
          rw [now]
          exact .inl rfl
        · exact nofun
  · rw [scans now]
    cases ok with
    | true =>
      have coherent : (((stm.notify .success
          false).stopScanTimer).enterStopped).Coherent [] :=
        coherent_enterStopped idle rfl
      have off : (((stm.notify .success
          false).stopScanTimer).enterStopped).Off := .inl rfl
      have same := processMessage_stopOk layer now
      refine ⟨[], ?_, .inr ⟨?_, ?_⟩⟩
      · exact same ▸ coherent.update
      · exact same ▸ off_update coherent off
      · exact nofun
    | false =>
      refine ⟨[], coherent_stopping kept now idle
        (.inr (.inl rfl)), .inl ⟨?_, rfl, rfl⟩⟩
      unfold Stm.processMessage
      rw [now]
      exact .inl rfl

theorem processMessage_dropped (layer : Layer) (stm : Stm) (off : stm.Off)
    (other : ¬ stm.Waits command) (ok : Bool) :
    stm.processMessage layer (command.reply ok) = stm := by
  unfold Stm.processMessage
  rcases off with now | now <;> rw [now]
  · cases command <;> cases ok <;> rfl
  · cases command with
    | start params => exact absurd (.inl ⟨now, by simp⟩) other
    | stop =>
      cases ok with
      | true | false => rfl

section

variable (late : system.stm.Late system.scanning) {event : Event}
include late

theorem late_answer {ok : Bool} (timely : system.Timely (.answer ok)) :
    (system.step layer (.answer ok)).stm.Late
      (system.step layer (.answer ok)).scanning := by
  unfold Timely at timely
  unfold step
  cases outstanding : system.stm.outstanding with
  | nil => exact late
  | cons command commands =>
    rw [outstanding] at timely
    dsimp only at timely ⊢
    rcases late_cases late outstanding with
      ⟨rfl, waits, coherent, _, scans, stopped⟩ |
        ⟨rest, coherent, equal, off, scans⟩
    · exact late_awaited { system.stm with outstanding := [] }
        coherent.kept rfl waits scans stopped ok
    · have other : ¬ system.stm.Waits command := by
        intro waits
        have starting : system.stm.state = .starting ∧ command ≠ .stop := by
          rcases waits with starts | ⟨now, _⟩
          · exact starts
          · exact absurd (.inr now) off.on
        rcases timely with ⟨none, _⟩ | assumed
        · rw [none] at equal
          obtain ⟨_, own⟩ := append_eq_nil_iff.mp equal.symm
          simp [Stm.own, starting.1] at own
        · rw [if_neg starting.2] at assumed
          exact assumed.2 starting.1
      have dropped := processMessage_dropped layer
        { system.stm with outstanding := commands } off other ok
      rw [dropped]
      refine ⟨rest, ⟨equal, coherent.kept⟩, .inr ⟨off, ?_⟩⟩
      have late := timely.resolve_left fun awaited => other awaited.2
      intro runs
      cases command with
      | stop =>
        rw [late] at runs
        simp [Command.effect] at runs
      | start params =>
        rw [late.1] at runs
        have before : system.scanning = true := by
          simpa [Command.effect] using runs
        rcases mem_cons.mp (scans before) with first | later
        · cases first
        · exact later

theorem late_timeout : (system.step layer .busyTimeout).stm.Late
      (system.step layer .busyTimeout).scanning := by
  obtain ⟨stale, coherent, agrees⟩ := late
  have outstanding := coherent.outstanding
  have kept := coherent.kept
  unfold step
  dsimp only
  split
  case isFalse _ => exact ⟨stale, coherent, agrees⟩
  case isTrue armed =>
    cases now : system.stm.state with
    | starting =>
      rcases agrees with ⟨on, _⟩ | ⟨_, scans⟩
      · simp [Stm.On, now] at on
      · refine ⟨stale ++ system.stm.own, coherent_starting kept now
          outstanding (.inr (.inr rfl)), .inr ⟨?_, ?_⟩⟩
        · unfold Stm.processMessage
          rw [now]
          exact .inl rfl
        · exact fun runs => mem_append_left _ (scans runs)
    | stopping =>
      have own : system.stm.own = [.stop] := by simp [Stm.own, now]
      rw [own] at outstanding
      have given : (((system.stm.notify .timeout
          false).stopScanTimer).enterStopped).Coherent
            (stale ++ [Command.stop]) :=
        coherent_enterStopped outstanding rfl
      refine ⟨stale ++ [Command.stop], coherent_stopping kept now
        outstanding (.inr (.inr rfl)), .inr ⟨?_, ?_⟩⟩
      · unfold Stm.processMessage
        rw [now]
        exact off_update given (.inl rfl)
      · exact fun _ => mem_append_right _ (mem_cons_self ..)
    | _ => simp [Stm.Kept, now, armed] at kept

theorem late_step (timely : system.Timely event) :
    (system.step layer event).stm.Late (system.step layer event).scanning := by
  by_cases answers : ∃ ok, event = .answer ok
  · obtain ⟨ok, rfl⟩ := answers
    exact late_answer late timely
  · by_cases gives : event = .busyTimeout
    · rw [gives]
      exact late_timeout late
    · have stays : (system.step layer event).scanning = system.scanning := by
        cases event with
        | answer ok => exact absurd ⟨ok, rfl⟩ answers
        | busyTimeout => exact absurd rfl gives
        | _ => rfl
      rw [stays]
      apply (stable_late layer system.scanning).step late
      · exact fun ok equal => answers ⟨ok, equal⟩
      · exact gives

theorem credited_of_late (timely : system.Timely event) :
    system.Credited event := by
  cases event with
  | answer ok =>
    intro command commands outstanding waits
    rcases late_cases late outstanding with
      ⟨none, _⟩ | ⟨rest, _, equal, off, _⟩
    · exact none
    · have starting : system.stm.state = .starting ∧ command ≠ .stop := by
        rcases waits with starts | ⟨now, _⟩
        · exact starts
        · exact absurd (.inr now) off.on
      unfold Timely at timely
      rw [outstanding] at timely
      rcases timely with ⟨none, _⟩ | assumed
      · exact none
      · rw [if_neg starting.2] at assumed
        exact absurd starting.1 assumed.2
  | _ => trivial

end

/-- Whatever the scanners have come to ask for, the next update settles a
machine without a command, or tries one. -/
def Acts (layer : Layer) (system : System) : Prop :=
  ∀ scanners, ∀ stm : Stm, stm = { system.stm with scanners := scanners } →
    stm.state = .stopped ∨ stm.state = .started →
      (stm.update layer).Settled ∨ stm.tries < (stm.update layer).tries

theorem acts_of_late (late : system.stm.Late system.scanning) :
    system.Acts layer := by
  obtain ⟨stale, coherent, _⟩ := late
  intro scanners stm equal _
  have changed : stm.Coherent stale := by
    rw [equal]
    exact ⟨coherent.outstanding, coherent.kept⟩
  exact changed.acts

def Fails (system : System) (event : Event) : Prop :=
  match event with
  | .answer ok =>
    ok = false ∧ ∃ command commands,
      system.stm.outstanding = command :: commands ∧ system.stm.Waits command
  | .busyTimeout => system.stm.internalTimer = true
  | _ => False

/-- After a failure the machine waits for the next update, unless it has
already tried a command for what the scanners ask for. -/
def Recovers (layer : Layer) (system : System) (event : Event) : Prop :=
  system.Fails event → (system.step layer event).stm.state = .stopped ∨
      (system.step layer event).stm.state = .started ∨
        system.stm.tries < (system.step layer event).stm.tries

theorem recovers_of_late (late : system.stm.Late system.scanning)
    (event : Event) : system.Recovers layer event := by
  obtain ⟨stale, coherent, _⟩ := late
  intro fails
  cases event with
  | answer ok =>
    obtain ⟨rfl, command, commands, outstanding, waits⟩ := fails
    unfold step
    rw [outstanding]
    dsimp only
    rcases waits with ⟨now, start⟩ | ⟨now, rfl⟩
    · cases command with
      | stop => exact absurd rfl start
      | start params =>
        rw [now]
        exact .inl rfl
    · rw [now]
      exact .inr (.inl rfl)
  | busyTimeout =>
    have kept := coherent.kept
    have armed : system.stm.internalTimer = true := fails
    unfold step
    rw [if_pos armed]
    cases now : system.stm.state with
    | starting =>
      unfold Stm.processMessage
      rw [now]
      exact .inl rfl
    | stopping =>
      have given : (((system.stm.notify .timeout
          false).stopScanTimer).enterStopped).Coherent
            system.stm.outstanding :=
        coherent_enterStopped rfl rfl
      unfold Stm.processMessage
      rw [now]
      unfold Stm.stoppingDispatch
      rcases update_cases layer given with
        ⟨same, _⟩ | ⟨_, _, starts⟩ | ⟨started, _⟩
      · rw [same]
        exact .inl rfl
      · rw [starts]
        have tried := tries_enterStarting layer (((system.stm.notify .timeout
            false).stopScanTimer).enterStopped).aimed
        exact .inr (.inr tried)
      · cases started
    | _ => simp [Stm.Kept, now, armed] at kept
  | _ => cases fails

instance (system : System) (event : Event) :
    Decidable (system.Timely event) :=
  match event with
  | .answer ok =>
    match found : system.stm.outstanding with
    | [] => isTrue (by simp [Timely, found])
    | command :: commands =>
      decidable_of_iff (commands = [] ∧ system.stm.Waits command ∨
        if command = .stop then ok = true
        else ok = false ∧ system.stm.state ≠ .starting)
        (by simp [Timely, found])
  | .regScanModule _ | .deregScanModule _ | .allocScannerId ..
  | .removeScannerId _ | .startScan .. | .stopScan .. | .stopAllScan ..
  | .durationTimeout .. | .busyTimeout => isTrue trivial

theorem late_initial : ({} : System).stm.Late ({} : System).scanning := by
  refine ⟨[], ⟨rfl, rfl, rfl, rfl, rfl, rfl⟩, .inr ⟨.inl rfl, ?_⟩⟩
  exact nofun

/-- Where a late answer is the one that the machine has assumed, the machine
and the controller agree, every answer is credited to its command, and no
change is lost behind one. -/
theorem agrees_of_timely (layer : Layer) (events : List Event)
    (timely : Meets (step layer) Timely {} events) :
    Always (step layer) Agrees {} events ∧
      Meets (step layer) Credited {} events ∧
        Always (step layer) (Acts layer) {} events ∧
          Meets (step layer) (Recovers layer) {} events := by
  have kept : ∀ (system : System) (event : Event),
      system.stm.Late system.scanning → system.Timely event →
        (system.step layer event).stm.Late (system.step layer event).scanning :=
    fun _ _ late timely => late_step late timely
  refine ⟨?_, ?_, ?_, ?_⟩
  · exact always_of_meets (fun _ => agrees_of_late) kept late_initial timely
  · exact .imp kept (fun _ _ late => credited_of_late late) late_initial timely
  · exact always_of_meets (fun _ => acts_of_late) kept late_initial timely
  · exact .imp kept (fun _ event late _ => recovers_of_late late event)
      late_initial timely

section Examples

def askedScan : List Event :=
  [.regScanModule true, .allocScannerId 0 true,
    .startScan 1 ⟨0, 0, .lowPower, 1⟩ true true []]

def lateStop : List Event :=
  askedScan ++ [.answer true, .stopScan 1 true [], .busyTimeout, .answer true]

theorem agrees_lateStop :
    (run (step willingLayer) {} lateStop).stm.state = .stopped ∧
      Always (step willingLayer) Agrees {} lateStop ∧
        Meets (step willingLayer) Credited {} lateStop ∧
          Always (step willingLayer) (Acts willingLayer) {} lateStop ∧
            Meets (step willingLayer) (Recovers willingLayer) {} lateStop := by
  refine ⟨by decide, agrees_of_timely willingLayer lateStop ?_⟩
  refine ⟨?_, ?_, ?_, ?_, ?_, ?_, ?_, trivial⟩ <;> decide

/-- The success of a start comes after the busy timeout. -/
theorem agrees_lateStart :
    ¬ ∀ (layer : Layer) (events : List Event),
      Always (step layer) Agrees {} events := by
  intro claim
  have agrees := (claim willingLayer
    (askedScan ++ [Event.busyTimeout, .answer true])).at_end
  have stopped := (agrees (by decide)).mpr (by decide)
  revert stopped
  decide

end Examples

end System

end NearLink.Devd
