import NearLink.Sm.Reports

/-!
# The end of an aborted pairing

A link that enters `REMV` is freed at once, in the middle of the handler that
posted the error.  Handlers that look at the result of what they called return;
others go on with the freed link, which is read as if its memory were intact.
The scripts show which acts can abort a pairing and what stands behind them.
-/

namespace NearLink.Sm

open Sdf Cm Transition Scripts Opcode List Bool

/-- The note of something that is not to be done on a freed link: a packet, a
timer, another expected opcode, an event, a state. -/
def Note.loud : Note → Bool
  | .sent _ | .waits _ | .asks | .posted | .negotiates _ | .authenticates _
  | .entered _ => true
  | .created | .handed _ | .prompted | .confirmed | .reported _ => false

/-- Once the notes of a handling have the entry of `REMV`, the link is gone at
the end, and nothing loud comes after it. -/
def Closes (notes : List Note) (gone : Bool) : Prop :=
  ∀ before after, notes = before ++ .entered .remv :: after →
    gone = true ∧ ∀ entry ∈ after, entry.loud = false

section Closes

variable {notes : List Note} {gone : Bool} {entry : Note}

theorem closes_entered (calm : .entered .remv ∉ notes) :
    Closes (notes ++ [.entered .remv]) true := by
  intro before after split
  rcases eq_nil_or_concat after with rfl | ⟨middle, last, rfl⟩
  · refine ⟨rfl, ?_⟩
    intro entry found
    cases found
  · have ends : notes ++ [Note.entered .remv] =
        (before ++ .entered .remv :: middle) ++ [last] := by
      simpa using split
    obtain ⟨rfl, _⟩ := append_inj' ends rfl
    apply absurd _ calm
    exact mem_append_right _ (mem_cons_self ..)

theorem Closes.concat (closes : Closes notes gone)
    (quiet : entry.loud = false) : Closes (notes ++ [entry]) gone := by
  intro before after split
  rcases eq_nil_or_concat after with rfl | ⟨middle, last, rfl⟩
  · obtain ⟨_, equal⟩ := append_inj' split rfl
    cases equal
    cases quiet
  · have ends : notes ++ [entry] =
        (before ++ .entered .remv :: middle) ++ [last] := by
      simpa using split
    obtain ⟨earlier, equal⟩ := append_inj' ends rfl
    cases equal
    obtain ⟨freed, silent⟩ := closes before middle earlier
    refine ⟨freed, ?_⟩
    rw [concat_eq_append]
    exact forall_mem_append.mpr ⟨silent, forall_mem_singleton.mpr quiet⟩

end Closes

namespace Act

@[grind =] def aborts (env : Env) : Act → Bool
  | .fail | .external | .expire | .leave => true
  | .attempt opcode | .exchange opcode _ => !env.setControllerData opcode
  | _ => false

/-- The act notes no entry of a state on its own. -/
@[grind =] def proper : Act → Bool
  | .note (.entered _) => false
  | _ => true

@[grind =] def quiet : Act → Bool
  | .prompt | .lose | .delTimer | .delUapiTimer | .store _ _ | .flag _
  | .method _ | .report _ | .bind _ _ | .lapse _ => true
  | .note entry => !entry.loud
  | _ => false

end Act

@[grind =] def Script.final (env : Env) : Script → Bool
  | [] => true
  | act :: rest =>
    act.proper && (!act.aborts env || rest.all Act.quiet) &&
      Script.final env rest

namespace Control

variable {env : Env} {earlier : List Note} {control : Control} {entry : Note}
  {script : Script}

/-- A handling that began with a record and has not entered `REMV`. -/
def Open (earlier : List Note) (control : Control) : Prop :=
  ∃ notes, control.log = earlier ++ notes ∧ .entered .remv ∉ notes

def Closed (earlier : List Note) (control : Control) : Prop :=
  control.removed = true ∧
    ∃ notes, control.log = earlier ++ notes ∧ Closes notes true

theorem Open.note (opened : control.Open earlier)
    (other : entry ≠ .entered .remv) : (control.note entry).Open earlier := by
  obtain ⟨notes, logged, calm⟩ := opened
  refine ⟨notes ++ [entry], ?_, ?_⟩
  · unfold Control.note
    rw [logged, append_assoc]
  · intro found
    rcases mem_append.mp found with inside | last
    · exact calm inside
    · exact other (mem_singleton.mp last).symm

theorem Open.enterRemv (opened : control.Open earlier)
    (removes : env.directConnectRemove = true) :
    (control.enterRemv env).Closed earlier := by
  obtain ⟨notes, logged, calm⟩ := opened
  refine ⟨?_, notes ++ [Note.entered .remv], ?_, closes_entered calm⟩
  · unfold Control.enterRemv
    simp [removes]
  · unfold Control.enterRemv Control.note
    rw [logged, append_assoc]

theorem Closed.note (closed : control.Closed earlier)
    (quiet : entry.loud = false) : (control.note entry).Closed earlier := by
  obtain ⟨gone, notes, logged, closes⟩ := closed
  refine ⟨gone, notes ++ [entry], ?_, closes.concat quiet⟩
  unfold Control.note
  rw [logged, append_assoc]

theorem Closed.exec (closed : control.Closed earlier) {act : Act}
    (quiet : act.quiet = true) : (control.exec env act).Closed earlier := by
  cases act with
  | store field value =>
    cases field with
    | _ => exact closed
  | flag | method | bind | lose | delTimer | delUapiTimer | lapse =>
    exact closed
  | prompt | report => exact closed.note rfl
  | note entry =>
    apply closed.note
    simpa [Act.quiet] using quiet
  | _ => cases quiet

section

variable (opened : control.Open earlier) {act : Act}
include opened

theorem Open.internalError (removes : env.directConnectRemove = true) :
    (control.internalError env).Open earlier ∨
      (control.internalError env).Closed earlier := by
  have posted : (control.note .posted).Open earlier :=
    opened.note (by simp)
  unfold Control.internalError
  cases control.state with
  | init => exact .inr (posted.enterRemv removes)
  | nego | auth => exact .inr ((posted.note (by simp)).enterRemv removes)
  | _ => exact .inl posted

theorem Open.externalError (removes : env.directConnectRemove = true) :
    (control.externalError env).Open earlier ∨
      (control.externalError env).Closed earlier := by
  have posted : (control.note .posted).Open earlier :=
    opened.note (by simp)
  unfold Control.externalError
  cases control.state with
  | nego | auth => exact .inr ((posted.note (by simp)).enterRemv removes)
  | _ => exact .inl posted

theorem Open.waitExpectOpCode (opcode : UInt16) :
    (control.waitExpectOpCode env opcode).Open earlier := by
  have noted : (control.note (.waits opcode)).Open earlier :=
    opened.note (by simp)
  unfold Control.waitExpectOpCode
  split
  · exact opened
  · exact noted

theorem Open.enterEncp : (control.enterEncp env).Open earlier := by
  have entered : (control.note (.entered .encp)).Open earlier :=
    opened.note (by simp)
  have posted : ((control.note (.entered .encp)).note .posted).Open
    earlier := entered.note (by simp)
  unfold Control.enterEncp
  split_ifs
  any_goals exact entered
  exact posted

theorem Open.authSuccess : (control.authSuccess env).Open earlier := by
  have posted : (control.note .posted).Open earlier :=
    opened.note (by simp)
  unfold Control.authSuccess
  cases control.state with
  | auth => exact (posted.note (by simp)).enterEncp
  | _ => exact posted

theorem Open.negoSuccess : control.negoSuccess.Open earlier := by
  have posted : (control.note .posted).Open earlier :=
    opened.note (by simp)
  unfold Control.negoSuccess
  cases control.state with
  | nego =>
    have started : ((control.note .posted).note (.authenticates
      (SLink.getAuthPkgDispatcher control.authMethod))).Open earlier :=
        posted.note (by simp)
    exact started
  | _ => exact posted

theorem Open.exec (proper : act.proper = true)
    (stays : act.aborts env = false) (goesOn : control.goesOn env act = true) :
    (control.exec env act).Open earlier := by
  cases act with
  | store field value =>
    cases field with
    | ra | rb | gConfirm | tConfirm => exact opened
  | send opcode =>
    have accepted : env.setControllerData opcode = true := goesOn
    simp only [Control.exec, if_pos accepted]
    exact opened.note (by simp)
  | attempt opcode =>
    have accepted : env.setControllerData opcode = true := by
      simpa [Act.aborts] using stays
    simp only [Control.exec, if_pos accepted]
    exact opened.note (by simp)
  | exchange opcode answer =>
    have accepted : env.setControllerData opcode = true := by
      simpa [Act.aborts] using stays
    have sent : (control.sent opcode).Open earlier :=
      opened.note (by simp)
    simp only [Control.exec, if_pos accepted]
    exact sent.waitExpectOpCode answer
  | wait opcode => exact opened.waitExpectOpCode opcode
  | prompt | report => exact opened.note (by simp)
  | ask =>
    have asked : (control.note .asks).Open earlier :=
      opened.note (by simp)
    simp only [Control.exec, Control.waitUapiInput]
    split
    · exact opened
    · exact asked
  | authenticate => exact opened.negoSuccess
  | succeed => exact opened.authSuccess
  | negotiate =>
    have noted : (control.note (.negotiates control.role)).Open earlier :=
      opened.note (by simp)
    exact noted
  | miss =>
    have noted : (control.note (.entered .miss)).Open earlier :=
      opened.note (by simp)
    exact noted
  | encp => exact opened.enterEncp
  | full =>
    have noted : (control.note (.entered .full)).Open earlier :=
      opened.note (by simp)
    exact noted
  | note entry =>
    apply opened.note
    rintro rfl
    cases proper
  | fail | external | expire | leave => cases stays
  | _ => exact opened

theorem Open.abort (removes : env.directConnectRemove = true)
    (aborts : act.aborts env = true ∨ control.goesOn env act = false) :
    (control.exec env act).Open earlier ∨
      (control.exec env act).Closed earlier := by
  have refused : ∀ {opcode : UInt16}, env.setControllerData opcode = false →
      ¬ env.setControllerData opcode = true := by
    intro opcode refused
    simp [refused]
  cases act with
  | fail => exact opened.internalError removes
  | external | expire => exact opened.externalError removes
  | leave => exact .inr (opened.enterRemv removes)
  | send opcode | attempt opcode | exchange opcode answer =>
    have lost : env.setControllerData opcode = false := by
      simpa [Act.aborts, Control.goesOn] using aborts
    simp only [Control.exec, if_neg (refused lost)]
    exact opened.internalError removes
  | authenticate => exact .inl opened.negoSuccess
  | _ =>
    rcases aborts with aborts | returns
    · cases aborts
    · cases returns

end

theorem Closed.run (closed : control.Closed earlier)
    (quiet : script.all Act.quiet = true) :
    (control.run env script).Closed earlier :=
  run_of (fun act found _ closed =>
    closed.exec (all_eq_true.mp quiet act found)) closed

theorem Open.run (opened : control.Open earlier)
    (removes : env.directConnectRemove = true)
    (final : Script.final env script = true) :
    (control.run env script).Open earlier ∨
      (control.run env script).Closed earlier := by
  induction script generalizing control with
  | nil => exact .inl opened
  | cons act rest hypothesis =>
    simp only [Script.final, and_eq_true, or_eq_true, not_eq_true'] at final
    obtain ⟨⟨proper, behind⟩, tail⟩ := final
    unfold Control.run
    cases goesOn : control.goesOn env act with
    | false => exact opened.abort removes (.inr goesOn)
    | true =>
      rcases behind with stays | quiet
      · exact hypothesis (opened.exec proper stays goesOn) tail
      · cases aborts : act.aborts env with
        | false => exact hypothesis (opened.exec proper aborts goesOn) tail
        | true =>
          rcases opened.abort removes (.inl aborts) with
            open' | closed
          · exact hypothesis open' tail
          · exact .inr (closed.run quiet)

end Control

def Finals (env : Env) (scripts : List Script) : Prop :=
  ∀ script ∈ scripts, Script.final env script = true

/-- A state that `SM_INTERNAL_ERROR` takes to `REMV`. -/
def State.Aborts (state : State) : Prop :=
  state = .init ∨ state.Pairing

instance (state : State) : Decidable state.Aborts :=
  inferInstanceAs (Decidable (_ ∨ _))

/-- The end of a method on the G node finds no failure that its handlers
ignore. -/
def Env.FinishesG (env : Env) : Prop :=
  env.cmacGenerate .ownCode = true ∧ env.setControllerData gNodeDhKey = true

instance (env : Env) : Decidable env.FinishesG :=
  inferInstanceAs (Decidable (_ ∧ _))

attribute [local simp] Finals Script.final Act.proper Act.aborts

section Finals

variable {env : Env} {values : Values} {control : Control}
  {opcode : UInt16} {pkg : Bytes} {scripts : List Script}
  {first : Script} {size : Nat}

theorem Finals.cons {script : Script} (finals : Finals env scripts)
    (first : Script.final env script = true) :
    Finals env (script :: scripts) := by
  exact forall_mem_cons.mpr ⟨first, finals⟩

theorem final_append {rest : Script}
    (before : ∀ act ∈ first, act.proper = true ∧ act.aborts env = false)
    (final : Script.final env rest = true) :
    Script.final env (first ++ rest) = true := by
  induction first with
  | nil => exact final
  | cons act acts hypothesis =>
    obtain ⟨proper, stays⟩ := before act (mem_cons_self ..)
    have tail := hypothesis fun other found =>
      before other (.tail _ found)
    simp [-Act.proper, -Act.aborts, proper, stays, tail]

theorem Finals.map (finals : Finals env scripts)
    (before : ∀ act ∈ first, act.proper = true ∧ act.aborts env =
      false) :
    Finals env (scripts.map (first ++ ·)) := by
  exact forall_mem_map.mpr fun rest member =>
    final_append before (finals rest member)

theorem Finals.mapCons (finals : Finals env scripts) {act : Act}
    (proper : act.proper = true) (stays : act.aborts env = false) :
    Finals env (scripts.map (act :: ·)) := by
  have before : ∀ other ∈ [act],
      other.proper = true ∧ other.aborts env = false := by
    intro other found
    rw [mem_singleton.mp found]
    exact ⟨proper, stays⟩
  exact finals.map before

theorem finals_idle : Finals env [[]] := by
  simp

theorem finals_fail : Finals env [[.fail]] := by
  simp

theorem finals_finishG (finishes : env.FinishesG) :
    Finals env (finishG env) := by
  unfold finishG
  rw [if_pos finishes.1]
  simp [finishes.2]

theorem finals_checkG : Finals env (checkG size) := by
  unfold checkG
  split
  · exact finals_idle
  · simp

theorem finals_checkT : Finals env (checkT size) := by
  unfold checkT
  split
  · exact finals_idle
  · simp

theorem finals_keepG : Finals env (keepG control pkg) := by
  unfold keepG
  split
  · simp
  · exact finals_checkG.mapCons rfl rfl

theorem finals_answerG : Finals env answerG := by
  simp [answerG]

theorem before_saveG : ∀ act ∈ saveG pkg,
    act.proper = true ∧ act.aborts env = false := by
  simp [saveG]

theorem before_saveT : ∀ act ∈ saveT pkg,
    act.proper = true ∧ act.aborts env = false := by
  simp [saveT]

theorem finals_numCmp :
    Finals env (Scripts.numCmp control opcode pkg) := by
  unfold Scripts.numCmp
  split_ifs
  any_goals exact finals_idle
  · simp [saveT]
  · simp
  · exact finals_keepG
  · exact finals_checkT

theorem finals_noEntry (sends : opcode = randNumRa → ¬ pkg.length < 16 →
      env.setControllerData randNumRb = true) :
    Finals env (Scripts.noEntry control opcode pkg) := by
  unfold Scripts.noEntry
  split_ifs with cfm ra short
  any_goals exact finals_idle
  · simp
  · simp [sends ra short]
  · simp
  · exact finals_keepG
  · exact finals_checkT

section

variable
  (finishes : opcode = tNodeCfmWithRb → ¬ pkg.length < 32 → env.FinishesG)
include finishes

theorem finals_pass :
    Finals env (Scripts.pass env control opcode pkg) := by
  unfold Scripts.pass
  split_ifs with cfmRa shortRa asked cfmRb shortRb
  any_goals exact finals_idle
  · simp [saveG]
  · exact finals_answerG.map before_saveG
  · exact ((finals_finishG (finishes cfmRb shortRb)).map
      before_saveT).cons rfl
  · exact finals_checkG
  · exact finals_checkT

theorem finals_oob :
    Finals env (Scripts.oob env opcode pkg) := by
  unfold Scripts.oob
  split_ifs with cfmRa shortRa cfmRb shortRb
  any_goals exact finals_idle
  · simp [saveG]
  · exact ((finals_finishG (finishes cfmRb shortRb)).map
      before_saveT).cons rfl
  · exact finals_checkG
  · exact finals_checkT

end

theorem finals_psk (finishes : opcode = tNodeCfm → ¬ pkg.length < 16 →
      env.FinishesG) :
    Finals env (Scripts.psk env values opcode pkg) := by
  unfold Scripts.psk
  split_ifs with ra shortRa rb shortRb gCfm shortG tCfm shortT
  any_goals exact finals_idle
  · simp
  · simp
  · simp
  · exact ((finals_finishG (finishes tCfm shortT)).mapCons rfl
      rfl).cons rfl
  · exact finals_checkG
  · exact finals_checkT

theorem finals_setGPassCode
    (sends : env.setControllerData gNodeCfmWithRa = true) :
    Finals env (Scripts.setGPassCode env values) := by
  unfold Scripts.setGPassCode
  cases env.randNum with
  | none => exact finals_fail
  | some random => simp [sends]

theorem finals_answerKept : Finals env (answerKept control) := by
  unfold answerKept
  split
  · exact finals_answerG
  · exact finals_idle

theorem finals_setTPassCode :
    Finals env (Scripts.setTPassCode env values control) := by
  unfold Scripts.setTPassCode
  cases env.randNum with
  | none => exact finals_fail
  | some random =>
    apply Finals.cons
    · exact finals_answerKept.map (by simp)
    · simp

theorem finals_setPassWord :
    Finals env (Scripts.setPassWord values control) := by
  unfold Scripts.setPassWord
  split
  · simp
  · exact ((finals_answerKept.mapCons rfl rfl).cons rfl).mapCons rfl rfl

theorem finals_confirmed
    (finishes : control.role = gNodeRole → env.FinishesG) :
    Finals env (confirmed env control size) := by
  unfold confirmed
  split
  case isTrue gNode => exact finals_finishG (finishes gNode)
  case isFalse _ =>
    split
    · exact (finals_checkG.mapCons rfl rfl).cons rfl
    · exact finals_idle.cons rfl

theorem finals_setConfirm
    (finishes : control.authMethod = AuthMethod.numberCompare ∨
        control.authMethod = AuthMethod.noEntry →
      control.role = gNodeRole → env.FinishesG) :
    Finals env (Scripts.setConfirm env control size) := by
  have before : ∀ act ∈ [Act.note .confirmed, .delUapiTimer],
      act.proper = true ∧ act.aborts env = false := by
    simp
  unfold Scripts.setConfirm
  split
  case isTrue compares =>
    exact (finals_confirmed (finishes (.inl compares))).map before
  case isFalse _ =>
    split
    case isTrue plain =>
      exact (finals_confirmed (finishes (.inr plain))).map before
    case isFalse _ => exact finals_fail.map before

theorem finals_setPassCode (sends : control.role = gNodeRole →
      env.setControllerData gNodeCfmWithRa = true) :
    Finals env (Scripts.setPassCode env values control) := by
  unfold Scripts.setPassCode
  split
  case isTrue gNode => exact (finals_setGPassCode (sends gNode)).mapCons rfl rfl
  case isFalse _ => exact finals_setTPassCode.mapCons rfl rfl

theorem finals_startPassCode (sends : control.role = gNodeRole →
      env.setControllerData gNodeCfmWithRa = true) :
    Finals env (startPassCode env values control) := by
  unfold startPassCode
  split
  case isTrue gNode =>
    apply Finals.cons _ rfl
    apply Finals.cons _ rfl
    exact (finals_setGPassCode (sends gNode)).mapCons rfl rfl
  case isFalse _ =>
    cases env.randNum with
    | none | some => simp

theorem finals_startDrawn {method : Dispatcher} {random : Bytes} :
    Finals env (startDrawn values control method random) := by
  by_cases gNode : control.role = gNodeRole
  all_goals
    cases method with
    | passCode | nego => exact finals_idle
    | _ => simp [startDrawn, Scripts.startConfirmed, gNode]

theorem finals_start {chosen : Option Dispatcher}
    (sends : chosen = some .passCode → control.role = gNodeRole →
      env.setControllerData gNodeCfmWithRa = true) :
    Finals env (Scripts.start env values control chosen) := by
  cases chosen with
  | none => exact finals_idle
  | some method =>
    cases method with
    | nego => exact finals_idle
    | passCode => exact finals_startPassCode (sends rfl)
    | _ =>
      simp only [Scripts.start]
      cases env.randNum with
      | none => exact finals_fail
      | some random => exact finals_startDrawn

end Finals

def PrudentPacket (env : Env) (control : Control) (opcode : UInt16)
    (pkg : Bytes) : Dispatcher → Prop
  | .nego =>
    (opcode = pairingConfirm → ¬ pkg.length < 70 → env.pubPriKey.isSome = true ∧
        env.setControllerData pairingInitInfo = true) ∧
    (opcode = pairingConfirm ∧ ¬ pkg.length < 70 ∨
        opcode = pairingInitInfo ∧ ¬ pkg.length < 64 →
      SLink.getAuthPkgDispatcher control.authMethod = some .passCode →
        control.role = gNodeRole → env.setControllerData gNodeCfmWithRa = true)
  | .numCmp => True
  | .noEntry =>
    opcode = randNumRa → ¬ pkg.length < 16 →
      env.setControllerData randNumRb = true
  | .passCode | .passWord | .oob =>
    opcode = tNodeCfmWithRb → ¬ pkg.length < 32 → env.FinishesG
  | .psk => opcode = tNodeCfm → ¬ pkg.length < 16 → env.FinishesG

instance (env : Env) (control : Control) (opcode : UInt16) (pkg : Bytes)
    (method : Dispatcher) :
    Decidable (PrudentPacket env control opcode pkg method) :=
  match method with
  | .nego => inferInstanceAs (Decidable ((_ → _ → _ ∧ _) ∧ (_ → _ → _ → _)))
  | .numCmp => isTrue trivial
  | .noEntry | .passCode | .passWord | .oob | .psk =>
    inferInstanceAs (Decidable (_ → _ → _))

/-- What holds of a packet after `SM_PASSIVE_START`. -/
def PrudentReceived (env : Env) (control : Control) (opcode : UInt16)
    (pkg : Bytes) : Prop :=
  if 0 < pkg.length ∧ opcode = control.expectOpCode then
    control.state.Aborts → ∀ method ∈ control.dispatcher,
      PrudentPacket env control opcode pkg method
  else
    opcode = pairingRequest → ¬ pkg.length < 10 →
      ∀ link ∈ env.logicLink, link.2 = gNodeRole →
        env.setControllerData pairingRequest = true

instance (env : Env) (control : Control) (opcode : UInt16) (pkg : Bytes) :
    Decidable (PrudentReceived env control opcode pkg) :=
  inferInstanceAs (Decidable (ite _ _ _))

/-- The link can be removed, and where a handler goes on after a failure that
aborts the pairing, nothing fails. -/
def Prudent (env : Env) (event : Event) (_ : Nat) (control : Control) :
    Prop :=
  env.directConnectRemove = true ∧
    match event with
    | .packet opcode pkg =>
      PrudentReceived env (control.run env (Scripts.passiveStart env control))
          opcode pkg
    | .setConfirm =>
      control.authMethod = AuthMethod.numberCompare ∨
          control.authMethod = AuthMethod.noEntry →
        control.role = gNodeRole → control.state.Aborts → env.FinishesG
    | .setPassCode _ =>
      control.role = gNodeRole → control.state.Aborts →
        env.setControllerData gNodeCfmWithRa = true
    | _ => True

instance (env : Env) (event : Event) (size : Nat) (control : Control) :
    Decidable (Prudent env event size control) :=
  match event with
  | .packet _ _ => inferInstanceAs (Decidable (_ ∧ PrudentReceived _ _ _ _))
  | .setConfirm => inferInstanceAs (Decidable (_ ∧ (_ → _ → _ → _)))
  | .setPassCode _ => inferInstanceAs (Decidable (_ ∧ (_ → _ → _)))
  | .removePairing | .encryptParamReq | .startPairing | .setPassWord _
  | .setLocalPsk _ | .recoverKey _ | .recvTimeout | .uapiTimeout
  | .encryptChange _ _ | .sendControllerDataFail | .disconnected
  | .otherPairing _ => inferInstanceAs (Decidable (_ ∧ True))

section Finals

variable {env : Env} {values : Values} {control : Control} {opcode : UInt16}
  {pkg : Bytes}

theorem finals_nego (prudent : PrudentPacket env control opcode pkg .nego) :
    Finals env (Scripts.nego env values control opcode pkg) := by
  have authenticates : opcode = pairingConfirm ∧ ¬ pkg.length < 70 ∨
      opcode = pairingInitInfo ∧ ¬ pkg.length < 64 →
        Finals env (Scripts.authenticate env values control) := by
    intro long
    exact (finals_start (prudent.2 long)).mapCons rfl rfl
  unfold Scripts.nego
  split_ifs with start shortStart request shortRequest response
    shortResponse confirm shortConfirm keys init shortInit
  any_goals exact finals_idle
  · simp
  · simp
  · simp
  · obtain ⟨_, accepted⟩ := prudent.1 confirm shortConfirm
    have started := authenticates (.inl ⟨confirm, shortConfirm⟩)
    exact (started.mapCons rfl (by simp [accepted])).cons rfl
  · exact absurd (prudent.1 confirm shortConfirm).1 keys
  · exact authenticates (.inr ⟨init, shortInit⟩)

variable {method : Dispatcher}

theorem finals_dispatch (prudent : PrudentPacket env control opcode pkg method) :
    Finals env
      (Scripts.dispatch env values control opcode pkg method) := by
  cases method with
  | nego => exact finals_nego prudent
  | numCmp => exact finals_numCmp
  | noEntry => exact finals_noEntry prudent
  | oob => exact finals_oob prudent
  | psk => exact finals_psk prudent
  | _ => exact finals_pass prudent

theorem finals_request :
    Finals env (Scripts.dispatch env values control
      pairingRequest pkg method) := by
  have other : PrudentPacket env control pairingRequest pkg .nego := by
    constructor
    · exact nofun
    · intro found
      rcases found with ⟨equal, _⟩ | ⟨equal, _⟩ <;> cases equal
  cases method with
  | nego => exact finals_nego other
  | _ => exact finals_idle

theorem final_restart {script : Script}
    (sends : ¬ pkg.length < 10 → ∀ link ∈ env.logicLink, link.2 = gNodeRole →
        env.setControllerData pairingRequest = true)
    (listed : script ∈ Scripts.dispatch env values control
      pairingRequest pkg method) :
    Script.final env (Scripts.missStart env ++
      [Act.note (.handed pairingRequest)] ++ script) = true := by
  have final : Script.final env script = true :=
    finals_request script listed
  unfold Scripts.missStart
  cases linked : env.logicLink with
  | none => simp [final]
  | some link =>
    dsimp only
    split
    case isTrue gNode =>
      by_cases short : pkg.length < 10
      · rw [request_short short listed]
        simp [Act.quiet, Note.loud]
      · have accepted := sends short link linked gNode
        simp [final, accepted]
    case isFalse _ => simp [final]

theorem final_missStart :
    Script.final env (Scripts.missStart env) = true := by
  unfold Scripts.missStart
  cases env.logicLink with
  | none => rfl
  | some link =>
    dsimp only
    split
    · simp
    · rfl

theorem final_passiveStart :
    Script.final env (Scripts.passiveStart env control) =
      true := by
  unfold Scripts.passiveStart
  split
  · cases env.logicLink with
    | none | some => rfl
  · rfl

theorem finals_activeStart :
    Finals env (Scripts.activeStart env control) := by
  unfold Scripts.activeStart
  cases control.state with
  | init =>
    cases env.logicLink with
    | none => simp
    | some link =>
      dsimp only
      split <;> simp
  | encp =>
    cases env.logicLink with
    | none => exact finals_idle
    | some link => simp
  | _ => exact finals_idle

theorem final_removePair :
    Script.final env (Scripts.removePair control) = true := by
  unfold Scripts.removePair
  cases control.state <;> rfl

theorem final_encryptChange {status : UInt16} {evtStatus : UInt8} :
    Script.final env
      (Scripts.encryptChange env control status evtStatus) = true := by
  unfold Scripts.encryptChange
  split_ifs
  any_goals rfl
  exact final_missStart

theorem final_encryptParamReq :
    Script.final env (Scripts.encryptParamReq env control) =
      true := by
  unfold Scripts.encryptParamReq
  cases control.state with
  | init =>
    cases env.logicLink with
    | none => rfl
    | some link => cases env.paramReqNegativeReply <;> rfl
  | nego => cases env.paramReqNegativeReply <;> rfl
  | encp =>
    cases env.logicLink with
    | none => rfl
    | some link =>
      dsimp only
      split_ifs <;> rfl
  | _ => rfl

end Finals

namespace Control

variable {env : Env} {values : Values} {control : Control}
  {earlier : List Note} {opcode : UInt16} {pkg : Bytes} {script : Script}
  {scripts : List Script}

section

variable (settled : ¬ control.state.Aborts)
include settled

theorem internalError_settled :
    control.internalError env = control.note .posted := by
  unfold Control.internalError
  cases now : control.state with
  | init => exact absurd (.inl now) settled
  | nego => exact absurd (.inr (.inl now)) settled
  | auth => exact absurd (.inr (.inr now)) settled
  | _ => rfl

theorem externalError_settled :
    control.externalError env = control.note .posted := by
  unfold Control.externalError
  cases now : control.state with
  | nego => exact absurd (.inr (.inl now)) settled
  | auth => exact absurd (.inr (.inr now)) settled
  | _ => rfl

theorem state_settled {act : Act} (ordinary : act.ordinary = true) :
    (control.exec env act).state = control.state := by
  have failed : (control.internalError env).state = control.state := by
    rw [internalError_settled settled]
    rfl
  have refused : (control.externalError env).state = control.state := by
    rw [externalError_settled settled]
    rfl
  cases act with
  | store field value => cases field <;> rfl
  | fail => exact failed
  | external | expire => exact refused
  | send | attempt =>
    simp only [Control.exec]
    split
    · rfl
    · exact failed
  | exchange opcode answer =>
    simp only [Control.exec, Control.waitExpectOpCode]
    split_ifs
    · rfl
    · rfl
    · exact failed
  | wait opcode =>
    simp only [Control.exec, Control.waitExpectOpCode]
    split <;> rfl
  | ask =>
    simp only [Control.exec, Control.waitUapiInput]
    split <;> rfl
  | authenticate =>
    simp only [Control.exec, Control.negoSuccess]
    cases now : control.state with
    | nego => exact absurd (.inr (.inl now)) settled
    | _ => exact now
  | succeed =>
    simp only [Control.exec, Control.authSuccess]
    cases now : control.state with
    | auth => exact absurd (.inr (.inr now)) settled
    | _ => exact now
  | flag | method | prompt | bind | lose | note | delTimer | delUapiTimer => rfl
  | _ => cases ordinary

end

section

variable (opened : control.Open earlier)
include opened

theorem Open.settled (settled : ¬ control.state.Aborts) {act : Act}
    (ordinary : act.ordinary = true) : (control.exec env act).Open earlier := by
  have posted : (control.note .posted).Open earlier :=
    opened.note (by simp)
  have failed : (control.internalError env).Open earlier := by
    rw [internalError_settled settled]
    exact posted
  have refused : (control.externalError env).Open earlier := by
    rw [externalError_settled settled]
    exact posted
  have sent : ∀ opcode, (control.sent opcode).Open earlier :=
    fun opcode => opened.note (by simp)
  have plain : act.proper = true := by
    cases act with
    | note entry =>
      cases entry with
      | entered state => cases ordinary
      | _ => rfl
    | _ => rfl
  cases act with
  | fail => exact failed
  | external | expire => exact refused
  | send opcode | attempt opcode =>
    simp only [Control.exec]
    split
    · exact sent opcode
    · exact failed
  | exchange opcode answer =>
    simp only [Control.exec]
    split
    · exact (sent opcode).waitExpectOpCode answer
    · exact failed
  | authenticate => exact opened.negoSuccess
  | note entry =>
    apply opened.note
    rintro rfl
    cases ordinary
  | report | leave | negotiate | miss | encp | full => cases ordinary
  | _ => exact opened.exec plain rfl rfl

theorem Open.run_settled (settled : ¬ control.state.Aborts)
    (ordinary : Ordinary scripts) (listed : script ∈ scripts) :
    (control.run env script).Open earlier := by
  have keeps : ∀ act ∈ script, ∀ other : Control,
      other.Open earlier ∧ ¬ other.state.Aborts →
        (other.exec env act).Open earlier ∧
          ¬ (other.exec env act).state.Aborts := by
    intro act found other holds
    have plain := ordinary script listed act found
    refine ⟨holds.1.settled holds.2 plain, ?_⟩
    rw [state_settled holds.2 plain]
    exact holds.2
  exact (run_of keeps ⟨opened, settled⟩).1

theorem Open.run_finals (removes : env.directConnectRemove = true)
    (finals : Finals env scripts) (listed : script ∈ scripts) :
    (control.run env script).Open earlier ∨
      (control.run env script).Closed earlier :=
  opened.run removes (finals script listed)

end

section

variable (opened : control.Open earlier) (valid : values.method ≤ 5)
include opened valid

theorem Open.received (removes : env.directConnectRemove = true)
    (prudent : PrudentReceived env control opcode pkg)
    (listed : script ∈ Scripts.received env values control opcode pkg) :
    (control.run env script).Open earlier ∨
      (control.run env script).Closed earlier := by
  have single : ∀ {act : Act}, act.proper = true →
      Finals env [[act]] := by
    intro act proper
    simp [-Act.proper, proper]
  have open_of : ∀ {only : Script}, Finals env [only] →
      (control.run env only).Open earlier ∨
        (control.run env only).Closed earlier := fun finals =>
    opened.run_finals removes finals (mem_singleton_self _)
  unfold PrudentReceived at prudent
  rcases received_cases listed with rfl | rfl | rfl | ⟨looked, rfl⟩ |
    ⟨method, looked, expected, linked, member⟩ |
    ⟨unexpected, request, member⟩
  · exact open_of finals_idle
  · exact open_of (single rfl)
  · exact open_of finals_fail
  · exact open_of (single rfl)
  · rw [if_pos expected] at prudent
    by_cases aborts : control.state.Aborts
    · have finals : Finals env
          (Scripts.dispatch env values control opcode pkg method) :=
        finals_dispatch (prudent aborts method looked)
      exact opened.run_finals removes (finals.map (by simp)) member
    · exact .inl (opened.run_settled aborts
        ((ordinary_dispatch valid).map ordinary_taken) member)
  · rw [if_neg unexpected] at prudent
    obtain ⟨rest, rfl, _, ⟨rfl, _⟩ | ⟨method, _, answer, found, rfl⟩⟩ :=
      restart_cases valid member
    · apply opened.run removes
      rw [append_nil]
      exact final_missStart
    · apply opened.run removes
      rw [← singleton_append, ← append_assoc]
      exact final_restart (prudent request) found

theorem Open.event {size : Nat} {event : Event}
    (prudent : Prudent env event size control)
    (listed : script ∈ Scripts.event env values size control event) :
    (control.run env script).Open earlier ∨
      (control.run env script).Closed earlier := by
  obtain ⟨removes, prudent⟩ := prudent
  have plain : ∀ {other : Script}, script ∈ [other] →
      Script.final env other = true →
        (control.run env script).Open earlier ∨
          (control.run env script).Closed earlier := by
    intro other only final
    rw [mem_singleton.mp only]
    exact opened.run removes final
  cases event with
  | packet opcode pkg =>
    have started : (Control.run env (Scripts.passiveStart env control)
        control).Open earlier ∨ (Control.run env
          (Scripts.passiveStart env control) control).Closed earlier :=
      opened.run removes final_passiveStart
    unfold Scripts.event at listed
    dsimp only at listed
    split at listed
    case isTrue gone =>
      rw [mem_singleton.mp listed]
      exact started
    case isFalse stays =>
      obtain ⟨rest, member, rfl⟩ := mem_map.mp listed
      rw [run_append Scripts.passiveStart_goesOn]
      rcases started with opened | closed
      · exact opened.received valid removes prudent member
      · exact absurd closed.1 stays
  | startPairing =>
    exact opened.run_finals removes finals_activeStart listed
  | removePairing => exact plain listed final_removePair
  | setConfirm =>
    by_cases aborts : control.state.Aborts
    · have finals : Finals env
          (Scripts.setConfirm env control size) :=
        finals_setConfirm fun method gNode => prudent method gNode aborts
      exact opened.run_finals removes finals listed
    · exact .inl (opened.run_settled aborts ordinary_setConfirm listed)
  | setPassCode passCode =>
    by_cases aborts : control.state.Aborts
    · have finals : Finals env
          (Scripts.setPassCode env values control) :=
        finals_setPassCode fun gNode => prudent gNode aborts
      exact opened.run_finals removes finals listed
    · exact .inl (opened.run_settled aborts ordinary_setPassCode listed)
  | setPassWord passWord =>
    exact opened.run_finals removes finals_setPassWord listed
  | recoverKey key =>
    apply plain listed
    unfold Scripts.recoverKey
    split <;> rfl
  | recvTimeout | uapiTimeout =>
    apply plain listed
    split <;> rfl
  | encryptChange status evtStatus => exact plain listed final_encryptChange
  | encryptParamReq => exact plain listed final_encryptParamReq
  | disconnected =>
    apply plain listed
    unfold Scripts.disconnected
    cases control.state <;> rfl
  | _ => exact plain listed rfl

end

end Control

namespace Session

/-- What has entered `REMV` is gone at the end of the event, nothing loud is
done on it in between, and what comes next works on a new link. -/
def AbortFinal (config : Config) (session : Session) (event : Env × Event) : Prop :=
  let next := session.step config event
  ∀ before after,
    next.log = session.log ++ before ++ .entered .remv :: after →
      next.slink = none ∧ (∀ entry ∈ after, entry.loud = false) ∧
        ∀ env later slink, next.handled config env later = some slink →
          slink.state = .init ∧ slink.timerHandle = false ∧
            slink.uapiTimerHandle = false

variable {session : Session} {config : Config} {slink : SLink} {env : Env}

theorem handled_open {event : Event}
    (found : session.handled config env event = some slink) :
    slink.control.Open session.log := by
  rcases handled_cases found with held | ⟨_, equal⟩
  · refine ⟨[], ?_, by simp⟩
    rw [log_of_find held, append_nil]
  · refine ⟨[.created], ?_, by simp⟩
    rw [equal]
    rfl

theorem handled_fresh {event : Event} (gone : session.slink = none)
    (found : session.handled config env event = some slink) :
    slink.state = .init ∧ slink.timerHandle = false ∧
      slink.uapiTimerHandle = false := by
  rcases handled_cases found with held | ⟨_, equal⟩
  · unfold find at held
    rw [gone] at held
    cases held
  · rw [equal]
    exact ⟨rfl, rfl, rfl⟩

theorem abortFinal_step {event : Env × Event}
    (prudent : Heeds Prudent config session event) :
    session.AbortFinal config event := by
  obtain ⟨env, event⟩ := event
  intro before after logged
  cases found : session.handled config env event with
  | none =>
    rw [(step_unhandled found).2, append_assoc] at logged
    have empty := self_eq_append_right.mp logged
    simp at empty
  | some slink =>
    obtain ⟨values, valid, script, listed, done⟩ :=
      follows_handler config env event slink
    have stepped := step_handled found
    generalize handler config env event slink = result at stepped done
    rw [stepped] at logged ⊢
    have same : result.control.log =
        session.log ++ before ++ .entered .remv :: after := logged
    rcases (handled_open found).event valid (prudent slink found) listed with
      opened | closed
    · rw [← done] at opened
      obtain ⟨notes, equal, calm⟩ := opened
      rw [same, append_assoc] at equal
      rw [← append_cancel_left equal] at calm
      apply absurd _ calm
      exact mem_append_right _ (mem_cons_self ..)
    · rw [← done] at closed
      obtain ⟨removed, notes, equal, closes⟩ := closed
      rw [same, append_assoc] at equal
      obtain ⟨_, quiet⟩ := closes before after (append_cancel_left equal).symm
      have gone : (finish result).slink = none := by
        have freed : result.removed = true := removed
        simp [finish, freed]
      exact ⟨gone, quiet, fun _ _ _ => handled_fresh gone⟩

/-- Where the link can be removed and nothing fails that a handler ignores,
an abort is final at every step, from any state. -/
theorem abortFinal_of_prudent (config : Config) (start : Session)
    (events : List (Env × Event))
    (prudent : Meets (step config) (Heeds Prudent config) start events) :
    Meets (step config) (AbortFinal config) start events := by
  have each : ∀ session event, True → Heeds Prudent config session event →
      AbortFinal config session event :=
    fun _ _ _ => abortFinal_step
  exact .imp (fun _ _ _ _ => trivial) each trivial prudent

section Examples

def timedOutPairing : List (Env × Event) :=
  plainPairing.take 2 ++ [(plainEnv, .recvTimeout)]

theorem abortFinal_timedOutPairing :
    Note.entered .remv ∈ (run (step plainConfig) {} timedOutPairing).log ∧
      Meets (step plainConfig) (AbortFinal plainConfig) {}
        timedOutPairing := by
  refine ⟨by decide, abortFinal_of_prudent plainConfig {} timedOutPairing ?_⟩
  refine ⟨?_, ?_, ?_, trivial⟩ <;> decide

/-- A T node cannot make its keys when the parameters are confirmed. -/
def keylessPairing : List (Env × Event) :=
  plainPairing.take 1 ++
    [({ plainEnv with pubPriKey := none }, .packet pairingConfirm
      ([16, 1, 2, 2, 2, 2] ++ List.replicate 64 8))]

theorem abortFinal_keylessPairing :
    ¬ ∀ (config : Config) (start : Session) (events : List (Env × Event)),
      Meets (step config) (AbortFinal config) start events := by
  intro claim
  have final := (claim plainConfig {} keylessPairing).2.1
  have split : (run (step plainConfig) {} keylessPairing).log =
      (run (step plainConfig) {} (keylessPairing.take 1)).log ++
        [Note.handed pairingConfirm, .posted, .reported .error] ++
          .entered .remv :: [.posted] := by
    decide
  have quiet := (final _ _ split).2.1 .posted (mem_singleton.mpr rfl)
  cases quiet

end Examples

end Session

end NearLink.Sm
