import NearLink.Sm.ControlRun
import NearLink.Sm.LinkKey

/-!
# One report for each pairing

The record of the links falls into segments: a link is created, or a
negotiation starts.  A segment that starts with a negotiation is one attempt to
pair.  It is to hold one `SM_CBK_EVENT_AUTH_COMPLETE`, and the link is to enter
`ENCP` or `REMV` right after it.  A step that goes on with a freed link is read
with its record intact.
-/

namespace NearLink.Sm

open Sdf Cm Transition Scripts Opcode List Bool

namespace Note

@[grind =] def starts : Note → Bool
  | .created | .negotiates _ => true
  | _ => false

@[grind =] def isReport : Note → Bool
  | .reported _ => true
  | _ => false

@[grind =] def isEntry : Note → Bool
  | .entered _ => true
  | _ => false

def inner (entry : Note) : Bool :=
  !entry.starts && !entry.isReport && !entry.isEntry

end Note

def segments (log : List Note) : List (List Note) × List Note :=
  log.foldl (fun (past, current) entry =>
      if entry.starts then (past ++ [current], [entry])
      else (past, current ++ [entry])) ([], [])

def current (log : List Note) : List Note := (segments log).2

def past (log : List Note) : List (List Note) := (segments log).1

section Segments

variable {log : List Note} {entry : Note}

theorem segments_concat (log : List Note) (entry : Note) :
    segments (log ++ [entry]) =
      if entry.starts then (past log ++ [current log], [entry])
      else (past log, current log ++ [entry]) := by
  unfold segments
  rw [foldl_append]
  rfl

theorem past_start (starts : entry.starts = true) :
    past (log ++ [entry]) = past log ++ [current log] := by
  unfold past
  rw [segments_concat, if_pos starts]
  rfl

theorem current_start (starts : entry.starts = true) :
    current (log ++ [entry]) = [entry] := by
  unfold current
  rw [segments_concat, if_pos starts]

theorem past_inside (inside : entry.starts = false) :
    past (log ++ [entry]) = past log := by
  unfold past
  rw [segments_concat, if_neg (by simp [inside])]
  rfl

theorem current_inside (inside : entry.starts = false) :
    current (log ++ [entry]) = current log ++ [entry] := by
  unfold current
  rw [segments_concat, if_neg (by simp [inside])]
  rfl

end Segments

def IsAttempt (segment : List Note) : Prop :=
  ∃ role rest, segment = .negotiates role :: rest

/-- An attempt that has neither reported nor left `NEGO` and `AUTH`. -/
def Running (segment : List Note) : Prop :=
  IsAttempt segment ∧
    ∀ entry ∈ segment, entry.isReport = false ∧ entry.isEntry = false

/-- An attempt with one report, after which the link enters a state: `ENCP`
from `AUTH` after a success, `REMV` after a failure. -/
def Finished (segment : List Note) (status : PairStatus) : Prop :=
  ∃ before between state after,
    segment = before ++ .reported status :: between ++ .entered state :: after ∧
      Running before ∧ (∀ entry ∈ between, entry.inner = true) ∧
        (∀ entry ∈ after, entry.isReport = false) ∧
          if status = .ok then
            state = .encp ∧ ∃ method, .authenticates method ∈ before
          else state = .remv

def Accounted (segment : List Note) : Prop :=
  IsAttempt segment → ∃ status, Finished segment status

section Attempts

variable {segment : List Note} {entry : Note} {status : PairStatus}

theorem IsAttempt.append (attempt : IsAttempt segment) (rest : List Note) :
    IsAttempt (segment ++ rest) := by
  obtain ⟨role, tail, rfl⟩ := attempt
  exact ⟨role, tail ++ rest, rfl⟩

theorem IsAttempt.of_concat (inside : entry.starts = false)
    (attempt : IsAttempt (segment ++ [entry])) : IsAttempt segment := by
  obtain ⟨role, tail, equal⟩ := attempt
  cases segment with
  | nil =>
    cases equal
    cases inside
  | cons first rest =>
    cases equal
    exact ⟨role, rest, rfl⟩

theorem Running.concat (running : Running segment)
    (inner : entry.inner = true) : Running (segment ++ [entry]) := by
  simp only [Note.inner, and_eq_true, not_eq_true'] at inner
  refine ⟨running.1.append _, ?_⟩
  exact forall_mem_append.mpr ⟨running.2,
    forall_mem_singleton.mpr ⟨inner.1.2, inner.2⟩⟩

theorem Finished.concat (finished : Finished segment status)
    (silent : entry.isReport = false) :
    Finished (segment ++ [entry]) status := by
  obtain ⟨before, between, state, after, rfl, running, inner, quiet, ends⟩ :=
    finished
  refine ⟨before, between, state, after ++ [entry], ?_, running, inner, ?_,
    ends⟩
  · simp
  · exact forall_mem_append.mpr ⟨quiet, forall_mem_singleton.mpr silent⟩

theorem Accounted.concat (accounted : Accounted segment)
    (inside : entry.starts = false) (silent : entry.isReport = false) :
    Accounted (segment ++ [entry]) := by
  intro attempt
  obtain ⟨status, finished⟩ := accounted (attempt.of_concat inside)
  exact ⟨status, finished.concat silent⟩

section

variable (running : Running segment)
include running

theorem Running.failed (failure : status ≠ .ok) {between : List Note}
    (inner : ∀ entry ∈ between, entry.inner = true) :
    Finished (segment ++ .reported status :: between ++ [.entered .remv])
      status := by
  refine ⟨segment, between, .remv, [], rfl, running, inner, ?_, ?_⟩
  · intro other found
    cases found
  · rw [if_neg failure]

theorem Running.succeeded
    (authenticates : ∃ method, .authenticates method ∈ segment) :
    Finished (segment ++ [.reported .ok] ++ [.entered .encp]) .ok := by
  refine ⟨segment, [], .encp, [], rfl, running, ?_, ?_, ?_⟩
  any_goals
    intro other found
    cases found
  exact ⟨rfl, authenticates⟩

theorem Running.silent :
    segment.filter Note.isReport = [] := by
  apply filter_eq_nil_iff.mpr
  intro entry found
  simp [(running.2 entry found).1]

end

theorem Finished.report (finished : Finished segment status) :
    segment.filter Note.isReport = [.reported status] := by
  obtain ⟨before, between, state, after, rfl, running, inner, quiet, _⟩ :=
    finished
  have during : between.filter Note.isReport = [] := by
    apply filter_eq_nil_iff.mpr
    intro entry found
    have split := inner entry found
    simp only [Note.inner, and_eq_true, not_eq_true'] at split
    simp [split.1.2]
  have later : after.filter Note.isReport = [] := by
    apply filter_eq_nil_iff.mpr
    intro entry found
    simp [quiet entry found]
  rw [append_assoc, filter_append, running.silent, cons_append,
    filter_cons_of_pos rfl, filter_append, during,
    filter_cons_of_neg (by simp [Note.isReport]), later]
  rfl

end Attempts

/-- A state between `NegoEntry` and the end of the authentication. -/
def State.Pairing (state : State) : Prop :=
  state = .nego ∨ state = .auth

instance (state : State) : Decidable state.Pairing :=
  inferInstanceAs (Decidable (_ ∨ _))

structure Ledger (state : State) (log : List Note) : Prop where
  past : ∀ segment ∈ past log, Accounted segment
  pairing : state.Pairing → Running (current log)
  auth : state = .auth → ∃ method, .authenticates method ∈ current log
  init : state = .init → ¬ IsAttempt (current log)
  /-- A link that is paired or has lost its key ended its attempt well. -/
  paired : state ≠ .init → ¬ state.Pairing → state ≠ .remv →
    IsAttempt (current log) → Finished (current log) .ok
  remv : state = .remv → Accounted (current log)

section Ledger

variable {state : State} {log : List Note} {entry : Note}

theorem Ledger.accounted (ledger : Ledger state log) (idle : ¬ state.Pairing) :
    Accounted (current log) := by
  by_cases init : state = .init
  · intro attempt
    exact absurd attempt (ledger.init init)
  · by_cases remv : state = .remv
    · exact ledger.remv remv
    · intro attempt
      exact ⟨.ok, ledger.paired init idle remv attempt⟩

theorem Ledger.concat (ledger : Ledger state log) (inner : entry.inner = true) :
    Ledger state (log ++ [entry]) := by
  have split := inner
  simp only [Note.inner, and_eq_true, not_eq_true'] at split
  obtain ⟨⟨inside, silent⟩, _⟩ := split
  constructor
  · rw [past_inside inside]
    exact ledger.past
  · intro pairing
    rw [current_inside inside]
    exact (ledger.pairing pairing).concat inner
  · intro auth
    obtain ⟨method, found⟩ := ledger.auth auth
    rw [current_inside inside]
    exact ⟨method, mem_append_left _ found⟩
  · intro init attempt
    rw [current_inside inside] at attempt
    exact ledger.init init (attempt.of_concat inside)
  · intro notInit idle notRemv attempt
    rw [current_inside inside] at attempt ⊢
    exact (ledger.paired notInit idle notRemv
      (attempt.of_concat inside)).concat silent
  · intro remv
    rw [current_inside inside]
    exact (ledger.remv remv).concat inside silent

theorem ledger_remv (ended : ∀ segment ∈ past log, Accounted segment)
    (accounted : Accounted (current log)) : Ledger .remv log where
  past := ended
  pairing pairing := by rcases pairing with now | now <;> cases now
  auth now := by cases now
  init now := by cases now
  paired _ _ other := absurd rfl other
  remv _ := accounted

section

variable {status : PairStatus} (ledger : Ledger state log)
  (pairing : state.Pairing) (failure : status ≠ .ok)
include ledger pairing failure

theorem Ledger.failed :
    Ledger .remv (log ++ [.reported status] ++ [.entered .remv]) := by
  apply ledger_remv
  · rw [past_inside rfl, past_inside rfl]
    exact ledger.past
  · rw [current_inside rfl, current_inside rfl]
    intro _
    exact ⟨status, (ledger.pairing pairing).failed failure (by simp)⟩

theorem Ledger.cancelled (inner : entry.inner = true) :
    Ledger .remv
      (log ++ [.reported status] ++ [entry] ++ [.entered .remv]) := by
  have split := inner
  simp only [Note.inner, and_eq_true, not_eq_true'] at split
  obtain ⟨⟨inside, _⟩, _⟩ := split
  have alone : ∀ other ∈ [entry], other.inner = true := by
    intro other found
    rw [mem_singleton.mp found]
    exact inner
  apply ledger_remv
  · rw [past_inside rfl, past_inside inside, past_inside rfl]
    exact ledger.past
  · rw [current_inside rfl, current_inside inside, current_inside rfl,
      append_assoc (current log)]
    intro _
    exact ⟨status, (ledger.pairing pairing).failed failure alone⟩

end

theorem Ledger.left (ledger : Ledger state log) (idle : ¬ state.Pairing) :
    Ledger .remv (log ++ [.entered .remv]) := by
  apply ledger_remv
  · rw [past_inside rfl]
    exact ledger.past
  · rw [current_inside rfl]
    exact (ledger.accounted idle).concat rfl rfl

theorem ledger_paired (notInit : state ≠ .init) (idle : ¬ state.Pairing)
    (notRemv : state ≠ .remv) (ended : ∀ segment ∈ past log, Accounted segment)
    (finished : IsAttempt (current log) → Finished (current log) .ok) :
    Ledger state log where
  past := ended
  pairing pairing := absurd pairing idle
  auth now := absurd (.inr now) idle
  init now := absurd now notInit
  paired _ _ _ := finished
  remv now := absurd now notRemv

theorem Ledger.succeeded (ledger : Ledger .auth log) :
    Ledger .encp (log ++ [.reported .ok] ++ [.entered .encp]) := by
  apply ledger_paired
  · simp
  · decide
  · simp
  · rw [past_inside rfl, past_inside rfl]
    exact ledger.past
  · rw [current_inside rfl, current_inside rfl]
    intro _
    exact (ledger.pairing (.inr rfl)).succeeded (ledger.auth rfl)

theorem Ledger.entered (ledger : Ledger state log) {target : State}
    (idle : ¬ state.Pairing) (stays : state ≠ .remv)
    (notInit : target ≠ .init) (rests : ¬ target.Pairing)
    (notRemv : target ≠ .remv) :
    Ledger target (log ++ [.entered target]) := by
  apply ledger_paired notInit rests notRemv
  · rw [past_inside rfl]
    exact ledger.past
  · rw [current_inside rfl]
    intro attempt
    have earlier : IsAttempt (current log) := attempt.of_concat rfl
    have notNew : state ≠ .init := fun init => ledger.init init earlier
    exact (ledger.paired notNew idle stays earlier).concat rfl

theorem Ledger.closed (ledger : Ledger state log) (idle : ¬ state.Pairing) :
    ∀ segment ∈ NearLink.Sm.past log ++ [current log], Accounted segment := by
  exact forall_mem_append.mpr ⟨ledger.past,
    forall_mem_singleton.mpr (ledger.accounted idle)⟩

theorem ledger_negotiates {role : UInt8}
    (ended : ∀ segment ∈ past log ++ [current log], Accounted segment) :
    Ledger .nego (log ++ [.negotiates role]) := by
  constructor
  · rw [past_start rfl]
    exact ended
  · intro _
    rw [current_start rfl]
    refine ⟨⟨role, [], rfl⟩, ?_⟩
    intro entry found
    rw [mem_singleton.mp found]
    exact ⟨rfl, rfl⟩
  · exact nofun
  · exact nofun
  · intro _ idle
    exact absurd (.inl rfl) idle
  · exact nofun

theorem Ledger.authenticates (ledger : Ledger .nego log)
    {method : Option Dispatcher} :
    Ledger .auth (log ++ [.authenticates method]) := by
  have running := ledger.pairing (.inl rfl)
  constructor
  · rw [past_inside rfl]
    exact ledger.past
  · intro _
    rw [current_inside rfl]
    exact running.concat rfl
  · intro _
    rw [current_inside rfl]
    exact ⟨method, mem_append_right _ (mem_singleton.mpr rfl)⟩
  · exact nofun
  · intro _ idle
    exact absurd (.inr rfl) idle
  · exact nofun

theorem ledger_init (ended : ∀ segment ∈ past log, Accounted segment)
    (new : ¬ IsAttempt (current log)) : Ledger .init log where
  past := ended
  pairing pairing := by rcases pairing with now | now <;> cases now
  auth now := by cases now
  init _ := new
  paired notInit := absurd rfl notInit
  remv now := by cases now

theorem Ledger.reported (ledger : Ledger .init log) {status : PairStatus} :
    Ledger .init (log ++ [.reported status]) := by
  apply ledger_init
  · rw [past_inside rfl]
    exact ledger.past
  · rw [current_inside rfl]
    intro attempt
    exact ledger.init rfl (attempt.of_concat rfl)

end Ledger

/-- An act that reports and changes the state only as the state machine does
for an event that it is sent, and stores none but the six methods. -/
@[grind =] def Act.ordinary : Act → Bool
  | .report _ | .leave | .negotiate | .miss | .encp | .full | .lapse _ => false
  | .note entry => entry.inner
  | .method authMethod => authMethod ≤ 5
  | _ => true

def Ordinary (scripts : List Script) : Prop :=
  ∀ script ∈ scripts, ∀ act ∈ script, act.ordinary = true

namespace Control

/-- The ledger of a link through its course.  A link that is freed stays in
`REMV`. -/
structure Kept (control : Control) : Prop where
  ledger : Ledger control.state control.log
  gone : control.removed = true → control.state = .remv

variable {env : Env} {control : Control}

theorem Kept.present (kept : control.Kept) {state : State}
    (now : control.state = state) (other : state ≠ .remv) :
    control.removed = false := by
  rw [eq_false_iff]
  intro gone
  exact other (now.symm.trans (kept.gone gone))

theorem Kept.note (kept : control.Kept) {entry : Note}
    (inner : entry.inner = true) : (control.note entry).Kept :=
  ⟨kept.ledger.concat inner, kept.gone⟩

theorem Kept.enterRemv (kept : Ledger .remv (control.log ++
    [.entered .remv])) : (control.enterRemv env).Kept :=
  ⟨kept, fun _ => rfl⟩

section

variable (kept : control.Kept)
include kept

theorem Kept.internalError : (control.internalError env).Kept := by
  have posted : (control.note .posted).Kept := kept.note rfl
  unfold Control.internalError
  cases now : control.state with
  | init =>
    apply Kept.enterRemv
    apply posted.ledger.left
    simp [State.Pairing, Control.note, now]
  | nego | auth =>
    apply Kept.enterRemv
    apply posted.ledger.failed _ (by simp)
    simp [State.Pairing, Control.note, now]
  | _ => exact posted

theorem Kept.externalError : (control.externalError env).Kept := by
  have posted : (control.note .posted).Kept := kept.note rfl
  unfold Control.externalError
  cases now : control.state with
  | nego | auth =>
    apply Kept.enterRemv
    apply posted.ledger.failed _ (by simp)
    simp [State.Pairing, Control.note, now]
  | _ => exact posted

omit kept in
theorem settled_externalError :
    ¬ (control.externalError env).state.Pairing := by
  unfold Control.externalError
  cases now : control.state with
  | nego | auth => simp [State.Pairing, Control.enterRemv]
  | _ => simp [State.Pairing, Control.note, now]

theorem Kept.waitExpectOpCode (opcode : UInt16) :
    (control.waitExpectOpCode env opcode).Kept := by
  unfold Control.waitExpectOpCode
  split
  · exact kept
  · exact ⟨kept.ledger.concat rfl, kept.gone⟩

theorem Kept.waitUapiInput : (control.waitUapiInput env).Kept := by
  unfold Control.waitUapiInput
  split
  · exact kept
  · exact ⟨kept.ledger.concat rfl, kept.gone⟩

theorem Kept.sent (opcode : UInt16) :
    (control.sent opcode).Kept := kept.note rfl

end

theorem Kept.enterEncp (kept : Ledger .encp (control.log ++
    [.entered .encp])) (present : control.removed = false) :
    (control.enterEncp env).Kept := by
  have gone : control.removed = true → State.encp = .remv := by
    rw [present]
    exact nofun
  unfold Control.enterEncp
  split_ifs
  · exact ⟨kept, gone⟩
  · exact ⟨kept, gone⟩
  · exact ⟨kept.concat rfl, gone⟩
  · exact ⟨kept, gone⟩

variable (kept : control.Kept)
include kept

theorem Kept.authSuccess : (control.authSuccess env).Kept := by
  have posted : (control.note .posted).Kept := kept.note rfl
  unfold Control.authSuccess
  cases now : control.state with
  | auth =>
    have started : Ledger .auth (control.note .posted).log :=
      now ▸ posted.ledger
    apply Kept.enterEncp
    · exact started.succeeded
    · exact kept.present now (by simp)
  | _ => exact posted

theorem Kept.negoSuccess : control.negoSuccess.Kept := by
  have posted : (control.note .posted).Kept := kept.note rfl
  unfold Control.negoSuccess
  cases now : control.state with
  | nego =>
    have started : Ledger .nego (control.note .posted).log :=
      now ▸ posted.ledger
    have present := kept.present now (by simp)
    refine ⟨started.authenticates, ?_⟩
    intro gone
    exact absurd gone (by simp [Control.note, present])
  | _ => exact posted

theorem Kept.exec {act : Act} (ordinary : act.ordinary = true) :
    (control.exec env act).Kept := by
  cases act with
  | store field value => cases field <;> exact ⟨kept.ledger, kept.gone⟩
  | fail => exact kept.internalError
  | external | expire => exact kept.externalError
  | send opcode | attempt opcode =>
    simp only [Control.exec]
    split
    · exact kept.sent opcode
    · exact kept.internalError
  | exchange opcode answer =>
    simp only [Control.exec]
    split
    · exact (kept.sent opcode).waitExpectOpCode answer
    · exact kept.internalError
  | wait opcode => exact kept.waitExpectOpCode opcode
  | prompt => exact kept.note rfl
  | ask => exact kept.waitUapiInput
  | authenticate => exact kept.negoSuccess
  | succeed => exact kept.authSuccess
  | note entry => exact kept.note ordinary
  | report | leave | negotiate | miss | encp | full => cases ordinary
  | _ => exact ⟨kept.ledger, kept.gone⟩

theorem Kept.run {scripts : List Script} {script : Script}
    (ordinary : Ordinary scripts) (listed : script ∈ scripts) :
    (control.run env script).Kept :=
  run_of (fun act found _ holds => holds.exec (ordinary script listed act
    found)) kept

end Control

attribute [local simp] Ordinary Act.ordinary

section Ordinary

variable {env : Env} {values : Values} {control : Control}
  {opcode : UInt16} {pkg : Bytes} {scripts : List Script}

theorem ordinary_idle : Ordinary [[]] := by
  simp

variable {script : Script} {size : Nat}

section

variable (ordinary : Ordinary scripts)
include ordinary

theorem Ordinary.cons (first : ∀ act ∈ script, act.ordinary = true) :
    Ordinary (script :: scripts) := by
  exact forall_mem_cons.mpr ⟨first, ordinary⟩

theorem Ordinary.map {first : Script}
    (before : ∀ act ∈ first, act.ordinary = true) :
    Ordinary (scripts.map (first ++ ·)) := by
  intro script listed act found
  obtain ⟨rest, member, rfl⟩ := mem_map.mp listed
  rcases mem_append.mp found with earlier | later
  · exact before act earlier
  · exact ordinary rest member act later

theorem Ordinary.mapCons {act : Act} (first : act.ordinary = true) :
    Ordinary (scripts.map (act :: ·)) := by
  have before : ∀ other ∈ [act], other.ordinary = true := by
    intro other found
    rw [mem_singleton.mp found]
    exact first
  exact ordinary.map before

end

theorem ordinary_finishG : Ordinary (finishG env) := by
  unfold Ordinary finishG
  split <;> simp

theorem ordinary_checkG : Ordinary (checkG size) := by
  unfold Ordinary checkG
  split <;> simp

theorem ordinary_checkT : Ordinary (checkT size) := by
  unfold Ordinary checkT
  split <;> simp

theorem ordinary_answerG : Ordinary answerG := by
  simp [answerG]

theorem ordinary_keepG : Ordinary (keepG control pkg) := by
  unfold keepG
  split
  · simp
  · exact ordinary_checkG.mapCons rfl

theorem ordinary_numCmp :
    Ordinary (Scripts.numCmp control opcode pkg) := by
  unfold Scripts.numCmp
  split_ifs
  any_goals exact ordinary_idle
  · simp [saveT]
  · simp
  · exact ordinary_keepG
  · exact ordinary_checkT

theorem ordinary_noEntry :
    Ordinary (Scripts.noEntry control opcode pkg) := by
  unfold Scripts.noEntry
  split_ifs
  any_goals exact ordinary_idle
  · simp
  · simp
  · simp
  · exact ordinary_keepG
  · exact ordinary_checkT

theorem ordinary_saveG : ∀ act ∈ saveG pkg, act.ordinary = true := by
  simp [saveG]

theorem ordinary_saveT : ∀ act ∈ saveT pkg, act.ordinary = true := by
  simp [saveT]

theorem ordinary_fail : ∀ act ∈ [Act.fail], act.ordinary = true := by
  simp

theorem ordinary_pass : Ordinary (Scripts.pass env control opcode pkg) := by
  unfold Scripts.pass
  split_ifs
  · exact ordinary_idle
  · simp [saveG]
  · exact ordinary_answerG.map ordinary_saveG
  · exact ordinary_idle
  · exact (ordinary_finishG.map ordinary_saveT).cons ordinary_fail
  · exact ordinary_checkG
  · exact ordinary_checkT
  · exact ordinary_idle

theorem ordinary_oob : Ordinary (Scripts.oob env opcode pkg) := by
  unfold Scripts.oob
  split_ifs
  · exact ordinary_idle
  · simp [saveG]
  · exact ordinary_idle
  · exact (ordinary_finishG.map ordinary_saveT).cons ordinary_fail
  · exact ordinary_checkG
  · exact ordinary_checkT
  · exact ordinary_idle

theorem ordinary_psk : Ordinary (Scripts.psk env values opcode pkg) := by
  unfold Scripts.psk
  split_ifs
  any_goals exact ordinary_idle
  · simp
  · simp
  · simp
  · exact (ordinary_finishG.mapCons rfl).cons ordinary_fail
  · exact ordinary_checkG
  · exact ordinary_checkT

theorem ordinary_setGPassCode :
    Ordinary (Scripts.setGPassCode env values) := by
  unfold Scripts.setGPassCode
  cases env.randNum with
  | none | some => simp

theorem ordinary_answerKept : Ordinary (answerKept control) := by
  unfold answerKept
  split
  · exact ordinary_answerG
  · exact ordinary_idle

theorem ordinary_setTPassCode :
    Ordinary (Scripts.setTPassCode env values control) := by
  unfold Scripts.setTPassCode
  cases env.randNum with
  | none => simp
  | some random =>
    apply Ordinary.cons
    · exact ordinary_answerKept.map (by simp)
    · simp

theorem ordinary_setPassCode :
    Ordinary (Scripts.setPassCode env values control) := by
  unfold Scripts.setPassCode
  split
  · exact ordinary_setGPassCode.mapCons rfl
  · exact ordinary_setTPassCode.mapCons rfl

theorem ordinary_setPassWord :
    Ordinary (Scripts.setPassWord values control) := by
  unfold Scripts.setPassWord
  split
  · simp
  · exact ((ordinary_answerKept.mapCons rfl).cons ordinary_fail).mapCons rfl

theorem ordinary_confirmed : Ordinary (confirmed env control size) := by
  unfold confirmed
  split_ifs
  · exact ordinary_finishG
  · exact (ordinary_checkG.mapCons rfl).cons ordinary_fail
  · exact ordinary_idle.cons ordinary_fail

theorem ordinary_setConfirm :
    Ordinary (Scripts.setConfirm env control size) := by
  have notes : ∀ act ∈ [Act.note .confirmed, .delUapiTimer],
      act.ordinary = true := by
    simp [Note.inner, Note.starts, Note.isReport, Note.isEntry]
  unfold Scripts.setConfirm
  split_ifs
  any_goals exact ordinary_confirmed.map notes
  exact Ordinary.map (by simp) notes

theorem ordinary_startPassCode :
    Ordinary (startPassCode env values control) := by
  unfold startPassCode
  split
  · apply Ordinary.cons
    · apply Ordinary.cons
      · exact ordinary_setGPassCode.mapCons rfl
      · simp
    · exact ordinary_fail
  · cases env.randNum with
    | none | some => simp

variable {method : Dispatcher}

theorem ordinary_startDrawn {random : Bytes} :
    Ordinary (startDrawn values control method random) := by
  by_cases gNode : control.role = gNodeRole
  all_goals
    cases method with
    | passCode | nego => exact ordinary_idle
    | _ => simp [startDrawn, Scripts.startConfirmed, gNode]

theorem ordinary_start {chosen : Option Dispatcher} :
    Ordinary (Scripts.start env values control chosen) := by
  cases chosen with
  | none => exact ordinary_idle
  | some method =>
    cases method with
    | nego => exact ordinary_idle
    | passCode => exact ordinary_startPassCode
    | _ =>
      simp only [Scripts.start]
      cases env.randNum with
      | none => simp
      | some random => exact ordinary_startDrawn

theorem ordinary_nego (valid : values.method ≤ 5) :
    Ordinary (Scripts.nego env values control opcode pkg) := by
  have authenticates : Ordinary (Scripts.authenticate env values control) :=
    ordinary_start.mapCons rfl
  unfold Scripts.nego
  split_ifs
  any_goals exact ordinary_idle
  any_goals exact (authenticates.mapCons rfl).cons ordinary_fail
  · simp
  · simp [valid]
  · simp [valid]
  · exact authenticates

theorem ordinary_handed : ∀ act ∈ [Act.note (.handed opcode)],
    act.ordinary = true := by
  intro act found
  rw [mem_singleton.mp found]
  rfl

theorem ordinary_taken : ∀ act ∈ [Act.delTimer, .note (.handed opcode)],
    act.ordinary = true := by
  exact forall_mem_cons.mpr ⟨rfl, ordinary_handed⟩

theorem ordinary_dispatch (valid : values.method ≤ 5) :
    Ordinary (Scripts.dispatch env values control opcode pkg method) := by
  cases method with
  | nego => exact ordinary_nego valid
  | numCmp => exact ordinary_numCmp
  | noEntry => exact ordinary_noEntry
  | oob => exact ordinary_oob
  | psk => exact ordinary_psk
  | _ => exact ordinary_pass

theorem request_short (short : pkg.length < 10)
    (listed : script ∈ Scripts.dispatch env values control
      pairingRequest pkg method) : script = [] := by
  cases method with
  | nego =>
    have idle : Scripts.nego env values control pairingRequest pkg = [[]] := by
      unfold Scripts.nego
      rw [if_neg (by decide), if_pos rfl, if_pos short]
    exact mem_singleton.mp (idle ▸ listed)
  | _ => exact mem_singleton.mp listed

/-- What a link does with a packet: nothing, an error, or the script of a
method that is at work or starts again. -/
theorem received_cases
    (listed : script ∈ Scripts.received env values control opcode pkg) :
    script = [] ∨ script = [.external] ∨ script = [.fail] ∨
      (control.dispatcher = none ∧ script = [.delTimer]) ∨
      (∃ method, control.dispatcher = some method ∧
        (0 < pkg.length ∧ opcode = control.expectOpCode) ∧
          control.lcid ≠ invalidLcid ∧
            script ∈ (Scripts.dispatch env values control opcode pkg
              method).map ([Act.delTimer, .note (.handed opcode)] ++ ·)) ∨
      (¬ (0 < pkg.length ∧ opcode = control.expectOpCode) ∧
        opcode = pairingRequest ∧
          script ∈ Scripts.restart env values control pkg) := by
  unfold Scripts.received at listed
  split at listed
  case isTrue expected =>
    split at listed
    · simp [mem_singleton.mp listed]
    case isFalse linked =>
      cases looked : control.dispatcher with
      | none =>
        rw [looked] at listed
        simp [mem_singleton.mp listed]
      | some method =>
        rw [looked] at listed
        exact .inr (.inr (.inr (.inr
          (.inl ⟨method, rfl, expected, linked, listed⟩))))
  case isFalse unexpected =>
    split at listed
    · split at listed <;> simp [mem_singleton.mp listed]
    · split at listed
      case isTrue request =>
        exact .inr (.inr (.inr (.inr (.inr ⟨unexpected, request, listed⟩))))
      case isFalse _ => split at listed <;> simp [mem_singleton.mp listed]

theorem restart_cases (valid : values.method ≤ 5)
    (listed : script ∈ Scripts.restart env values control pkg) :
    ∃ rest, script = Scripts.missStart env ++ rest ∧
      (∀ act ∈ rest, act.ordinary = true) ∧ (rest = [] ∧ env.logicLink = none ∨
          ∃ method, (env.logicLink.isSome = true → method = .nego) ∧
            ∃ member ∈ Scripts.dispatch env values control
                pairingRequest pkg method,
              rest = .note (.handed pairingRequest) :: member) := by
  unfold Scripts.restart at listed
  cases chosen : (if env.logicLink.isSome then some Dispatcher.nego
      else control.dispatcher) with
  | none =>
    rw [chosen] at listed
    have unlinked : env.logicLink = none := by
      rw [← Option.not_isSome_iff_eq_none]
      intro linked
      rw [if_pos linked] at chosen
      cases chosen
    exact ⟨[], by simpa using listed, by simp, .inl ⟨rfl, unlinked⟩⟩
  | some method =>
    rw [chosen] at listed
    obtain ⟨member, found, rfl⟩ := mem_map.mp listed
    refine ⟨.note (.handed pairingRequest) :: member,
      append_assoc .., ?_, .inr ⟨method, ?_, member, found, rfl⟩⟩
    · exact ((ordinary_dispatch valid).map ordinary_handed) _
        (mem_map_of_mem found)
    · intro linked
      rw [if_pos linked] at chosen
      exact (Option.some.inj chosen).symm

end Ordinary

/-- What an invariant of the course needs to hold through the events that
neither negotiate nor answer, where `rests` is what it says outside a pairing. -/
structure Resting (env : Env) (holds rests : Control → Prop) : Prop where
  of_rests {control : Control} : rests control → holds control
  outside {control : Control} : holds control → ¬ control.state.Pairing →
    rests control
  run {control : Control} {script : Script} : rests control →
    (∀ act ∈ script, act.ordinary = true) → rests (control.run env script)
  leave {control : Control} : holds control → rests (control.enterRemv env)
  cancel {control : Control} : holds control →
    rests ((control.sent pairFail).enterRemv env)
  encp {control : Control} : holds control → rests (control.enterEncp env)
  full {control : Control} : holds control →
    rests { control.note (.entered .full) with state := .full }
  failed {control : Control} : holds control → holds (control.internalError env)
  refused {control : Control} : holds control →
    holds (control.externalError env)
  lapsed {control : Control} {timer : Timer} : rests control →
    rests (control.exec env (.lapse timer))
  lost {control : Control} : holds control →
    holds { control with lcid := invalidLcid }
  reported {control : Control} {status : PairStatus} : holds control →
    status ≠ .ok → holds (control.note (.reported status))

section Resting

variable {env : Env} {values : Values} {control : Control}
  {holds rests : Control → Prop} (resting : Resting env holds rests)
include resting

variable (held : holds control)
include held

theorem Resting.removePair :
    holds (control.run env (Scripts.removePair control)) := by
  have reported := resting.reported held
    (by decide : PairStatus.activeCancel ≠ .ok)
  have cancelled : holds (Control.run env [.report .activeCancel,
      .send pairFail, .leave] control) := by
    simp only [Control.run, Control.exec, Control.goesOn, if_true]
    split
    · exact resting.of_rests (resting.cancel reported)
    · exact resting.failed reported
  unfold Scripts.removePair
  cases control.state with
  | nego | auth => exact cancelled
  | remv => exact held
  | _ => exact resting.of_rests (resting.leave held)

theorem Resting.encryptParamReq :
    holds (control.run env (Scripts.encryptParamReq env control)) := by
  have reported := resting.reported held
    (by decide : PairStatus.keyMissing ≠ .ok)
  unfold Scripts.encryptParamReq
  cases now : control.state with
  | init =>
    have outside : rests (control.note (.reported .keyMissing)) :=
      resting.outside reported (by simp [State.Pairing, Control.note, now])
    cases env.logicLink with
    | none => exact reported
    | some link =>
      have bound : holds (Control.run env [.bind link.1 link.2]
          (control.note (.reported .keyMissing))) :=
        resting.of_rests (resting.run outside (by simp))
      cases env.paramReqNegativeReply with
      | true => exact bound
      | false => exact resting.of_rests (resting.leave bound)
  | nego =>
    cases env.paramReqNegativeReply with
    | true => exact reported
    | false => exact resting.of_rests (resting.leave reported)
  | encp =>
    have outside : rests control :=
      resting.outside held (by simp [State.Pairing, now])
    cases env.logicLink with
    | none => exact held
    | some link =>
      apply resting.of_rests
      apply resting.run outside
      dsimp only
      split_ifs
      all_goals simp
  | _ => exact held

theorem Resting.disconnected :
    holds (control.run env (Scripts.disconnected control)) := by
  have lost := resting.lost held
  have left : holds (({ control with lcid := invalidLcid } : Control).note
      (.reported .linkDisconnected) |>.enterRemv env) :=
    resting.of_rests (resting.leave (resting.reported lost (by decide)))
  have encrypts := resting.of_rests (resting.encp lost)
  unfold Scripts.disconnected
  cases control.state with
  | nego | auth => exact left
  | miss | full => exact encrypts
  | _ => exact lost

theorem Resting.encryptChange {status : UInt16} {evtStatus : UInt8}
    (missed : status = 5 → evtStatus = 5 → control.state = .encp →
      holds (control.run env (Scripts.missStart env))) :
    holds (control.run env (Scripts.encryptChange env control status
      evtStatus)) := by
  unfold Scripts.encryptChange
  split
  · split
    case isTrue missing =>
      split
      case isTrue lacks => exact missed missing lacks.2 lacks.1
      case isFalse _ => exact held
    case isFalse _ => exact resting.refused held
  · split
    · exact resting.of_rests (resting.full held)
    · exact held

theorem Resting.event {size : Nat} {event : Event} {script : Script}
    (plain : match event with
      | .packet _ _ | .startPairing | .setConfirm | .setPassCode _
      | .setPassWord _ => False
      | .encryptChange status evtStatus => status = 5 → evtStatus = 5 →
          control.state = .encp →
            holds (control.run env (Scripts.missStart env))
      | _ => True)
    (listed : script ∈ Scripts.event env values size control event) :
    holds (control.run env script) := by
  have only : ∀ {single : Script}, script ∈ [single] → script = single :=
    mem_singleton.mp
  have expired : ∀ {running : Bool} {timer : Timer}, holds (control.run env
      (if running then [.expire, .lapse timer] else [])) := by
    intro running timer
    cases running with
    | true =>
      exact resting.of_rests (resting.lapsed
        (resting.outside (resting.refused held) Control.settled_externalError))
    | false => exact held
  cases event with
  | packet | startPairing | setConfirm | setPassCode | setPassWord =>
    cases plain
  | removePairing =>
    rw [only listed]
    exact resting.removePair held
  | recoverKey key =>
    rw [only listed]
    unfold Scripts.recoverKey
    split
    · exact resting.of_rests (resting.encp held)
    · exact held
  | recvTimeout | uapiTimeout =>
    rw [only listed]
    exact expired
  | encryptChange status evtStatus =>
    rw [only listed]
    exact resting.encryptChange held plain
  | encryptParamReq =>
    rw [only listed]
    exact resting.encryptParamReq held
  | sendControllerDataFail =>
    rw [only listed]
    exact resting.failed held
  | disconnected =>
    rw [only listed]
    exact resting.disconnected held
  | _ =>
    rw [only listed]
    exact held

end Resting

def AllAccounted (log : List Note) : Prop :=
  ∀ segment ∈ past log ++ [current log], Accounted segment

theorem AllAccounted.concat {log : List Note} {entry : Note}
    (accounted : AllAccounted log) (inside : entry.starts = false)
    (silent : entry.isReport = false) : AllAccounted (log ++ [entry]) := by
  unfold AllAccounted at accounted ⊢
  rw [past_inside inside, current_inside inside]
  have ⟨ended, last⟩ := forall_mem_append.mp accounted
  exact forall_mem_append.mpr ⟨ended, forall_mem_singleton.mpr
    ((forall_mem_singleton.mp last).concat inside silent)⟩

/-- A pairing is not restarted and not cancelled without a packet to the
peer, and it does not go on after a missing key. -/
def CarefulReport (env : Env) (event : Event) (_ : Nat) (control : Control) : Prop :=
  match event with
  | .packet opcode pkg =>
    let started :=
      control.run env (Scripts.passiveStart env control)
    opcode = pairingRequest →
      ¬ (0 < pkg.length ∧ opcode = started.expectOpCode) →
        started.removed = false → ¬ started.state.Pairing ∧
            (started.state = .remv → env.logicLink.isSome)
  | .removePairing =>
    control.state.Pairing → env.setControllerData pairFail = true
  | .encryptParamReq =>
    control.state = .nego → env.paramReqNegativeReply = false
  | _ => True

instance (env : Env) (event : Event) (size : Nat) (control : Control) :
    Decidable (CarefulReport env event size control) :=
  match event with
  | .packet _ _ => inferInstanceAs (Decidable (_ → _ → _ → _ ∧ _))
  | .removePairing => inferInstanceAs (Decidable (_ → _))
  | .encryptParamReq => inferInstanceAs (Decidable (_ → _))
  | .startPairing | .setConfirm | .setPassCode _ | .setPassWord _
  | .setLocalPsk _ | .recoverKey _ | .recvTimeout | .uapiTimeout
  | .encryptChange _ _ | .sendControllerDataFail | .disconnected
  | .otherPairing _ => isTrue trivial

namespace Control

variable {env : Env} {values : Values} {control : Control}
  {opcode : UInt16} {pkg : Bytes} {script : Script}

theorem Kept.left (kept : control.Kept) (idle : ¬ control.state.Pairing) :
    (control.enterRemv env).Kept :=
  Kept.enterRemv (kept.ledger.left idle)

theorem Kept.negotiate (accounted : AllAccounted control.log)
    (present : control.removed = false) : control.enterNego.Kept := by
  refine ⟨ledger_negotiates accounted, ?_⟩
  intro gone
  have stays : control.removed = true := gone
  rw [present] at stays
  cases stays

variable (kept : control.Kept)
include kept

theorem Kept.passiveStart (present : control.removed = false) :
    (control.run env (Scripts.passiveStart env control)).Kept := by
  unfold Scripts.passiveStart
  split
  case isTrue now =>
    have idle : ¬ control.state.Pairing := by simp [State.Pairing, now]
    cases env.logicLink with
    | none => exact kept.left idle
    | some link =>
      have started : ({ control with
          lcid := link.1
          role := link.2 }.enterNego).Kept :=
        Kept.negotiate (kept.ledger.closed idle) present
      exact started
  case isFalse _ => exact kept

theorem Kept.missStart (present : control.removed = false)
    (idle : ¬ control.state.Pairing)
    (bound : control.state = .remv → env.logicLink.isSome = true) :
    (control.run env (Scripts.missStart env)).Kept := by
  unfold Scripts.missStart
  cases linked : env.logicLink with
  | none =>
    have stays : control.state ≠ .remv := by
      intro now
      have found := bound now
      rw [linked] at found
      cases found
    have missed : Ledger .miss (control.log ++ [Note.entered .miss]) :=
      kept.ledger.entered idle stays (by simp) (by decide) (by simp)
    refine ⟨missed.concat rfl, ?_⟩
    intro gone
    have freed : control.removed = true := gone
    rw [present] at freed
    cases freed
  | some link =>
    have closed : AllAccounted (control.log ++ [Note.entered .miss] ++
        [Note.posted]) := by
      have before : AllAccounted control.log := kept.ledger.closed idle
      exact (before.concat rfl rfl).concat rfl rfl
    have started : ({ Scripts.missed control with
        lcid := link.1, role := link.2 }.enterNego).Kept :=
      .negotiate closed present
    have ordinary : (Act.exchange pairingRequest
        pairingResponse).ordinary = true := rfl
    dsimp only
    split
    · exact started.exec ordinary
    · exact started

section

variable (valid : values.method ≤ 5) (present : control.removed = false)
include valid present

theorem Kept.restart (idle : ¬ control.state.Pairing)
    (bound : control.state = .remv → env.logicLink.isSome = true)
    (listed : script ∈ Scripts.restart env values control pkg) :
    (control.run env script).Kept := by
  have missed : (control.run env (Scripts.missStart env)).Kept :=
    kept.missStart present idle bound
  obtain ⟨rest, rfl, ordinary, _⟩ := restart_cases valid listed
  rw [run_append SLink.missStart_goesOn]
  exact run_of (fun act found _ holds => holds.exec (ordinary act found)) missed

theorem Kept.received
    (careful : opcode = pairingRequest →
      ¬ (0 < pkg.length ∧ opcode = control.expectOpCode) →
      ¬ control.state.Pairing ∧
      (control.state = .remv → env.logicLink.isSome = true))
    (listed : script ∈ Scripts.received env values control opcode pkg) :
    (control.run env script).Kept := by
  rcases received_cases listed with rfl | rfl | rfl | ⟨_, rfl⟩ |
    ⟨method, _, _, _, member⟩ | ⟨unexpected, request, member⟩
  · exact kept
  · exact kept.externalError
  · exact kept.internalError
  · exact kept.run (by simp)
      (mem_singleton_self _)
  · exact kept.run ((ordinary_dispatch valid).map ordinary_taken) member
  · obtain ⟨idle, bound⟩ := careful request unexpected
    exact kept.restart valid present idle bound member

end

theorem Kept.failed (pairing : control.state.Pairing) {status : PairStatus}
    (failure : status ≠ .ok) :
    ((control.note (.reported status)).enterRemv env).Kept :=
  Kept.enterRemv (kept.ledger.failed pairing failure)

section

variable (present : control.removed = false)
include present

section

variable (idle : ¬ control.state.Pairing) (stays : control.state ≠ .remv)
include idle stays

theorem Kept.encp : (control.enterEncp env).Kept := by
  apply Kept.enterEncp
  · exact kept.ledger.entered idle stays (by simp) (by decide) (by simp)
  · exact present

theorem Kept.full :
    ({ control.note (.entered .full) with state := .full }).Kept := by
  have entered : Ledger .full (control.log ++ [Note.entered .full]) :=
    kept.ledger.entered idle stays (by simp) (by decide) (by simp)
  refine ⟨entered, ?_⟩
  · intro gone
    have freed : control.removed = true := gone
    rw [present] at freed
    cases freed

end

theorem Kept.activeStart (listed : script ∈ Scripts.activeStart env control) :
    (control.run env script).Kept := by
  rcases Scripts.activeStart_cases listed with
    rfl | ⟨now, rfl⟩ | ⟨lcid, role, now, rfl⟩ | ⟨lcid, role, now, member⟩
  · exact kept
  · exact kept.left (by simp [State.Pairing, now])
  · have idle : ¬ control.state.Pairing := by simp [State.Pairing, now]
    have started : ({ control with lcid, role }.enterNego).Kept :=
      Kept.negotiate (kept.ledger.closed idle) present
    have ordinary : Ordinary [[.send pairingRequest, .wait pairingResponse],
          [.send pairingStart, .wait pairingRequest]] := by
      simp
    split
    · exact started.run ordinary (mem_cons_self ..)
    · exact started.run ordinary (.tail _ (mem_cons_self ..))
  · exact kept.run (by simp) member

end

theorem Kept.removePair (accepted : control.state.Pairing →
      env.setControllerData pairFail = true) :
    (control.run env (Scripts.removePair control)).Kept := by
  have cancelled : control.state.Pairing →
      (Control.run env [.report .activeCancel, .send pairFail, .leave]
        control).Kept := by
    intro pairing
    simp only [Control.run, Control.exec, Control.goesOn, accepted pairing,
      if_true]
    apply Kept.enterRemv
    exact kept.ledger.cancelled pairing (by simp) rfl
  unfold Scripts.removePair
  cases now : control.state with
  | nego | auth => exact cancelled (by simp [State.Pairing, now])
  | remv => exact kept
  | _ => exact kept.left (by simp [State.Pairing, now])

theorem Kept.encryptParamReq
    (refused : control.state = .nego → env.paramReqNegativeReply = false) :
    (control.run env (Scripts.encryptParamReq env control)).Kept := by
  unfold Scripts.encryptParamReq
  cases now : control.state with
  | init =>
    have ledger : Ledger .init control.log := now ▸ kept.ledger
    have idle : ¬ control.state.Pairing := by simp [State.Pairing, now]
    have reported : (control.note (.reported .keyMissing)).Kept := by
      refine ⟨?_, kept.gone⟩
      have new : Ledger .init (control.log ++ [Note.reported .keyMissing]) :=
        ledger.reported
      exact now ▸ new
    cases env.logicLink with
    | none => exact reported
    | some link =>
      have bound : ({ control.note (.reported .keyMissing) with
          lcid := link.1
          role := link.2 } : Control).Kept :=
        ⟨reported.ledger, reported.gone⟩
      cases env.paramReqNegativeReply with
      | true => exact bound
      | false => exact bound.left idle
  | nego =>
    rw [refused now]
    exact kept.failed (.inl now) (by simp)
  | encp =>
    cases env.logicLink with
    | none => exact kept
    | some link =>
      have ordinary : Ordinary
          [[.bind link.1 link.2], [.bind link.1 link.2, .fail]] := by
        simp
      dsimp only
      split
      all_goals
        split
        · exact kept.run ordinary (mem_cons_self ..)
        · exact kept.run ordinary (.tail _ (mem_cons_self ..))
  | _ => exact kept

section

variable (present : control.removed = false)
include present

theorem Kept.disconnected :
    (control.run env (Scripts.disconnected control)).Kept := by
  have lost : ({ control with lcid := invalidLcid } : Control).Kept :=
    ⟨kept.ledger, kept.gone⟩
  unfold Scripts.disconnected
  cases now : control.state with
  | nego | auth => exact lost.failed (by simp [State.Pairing, now]) (by simp)
  | init | encp | remv => exact lost
  | _ => exact lost.encp present (by simp [State.Pairing, now]) (by simp [now])

theorem Kept.encryptChange (status : UInt16) (evtStatus : UInt8) :
    (Control.run env (Scripts.encryptChange env control status evtStatus)
      control).Kept := by
  have rests : control.state = .encp →
      ¬ control.state.Pairing ∧ control.state ≠ .remv := by
    intro now
    simp [State.Pairing, now]
  unfold Scripts.encryptChange
  split
  · split
    · split
      case isTrue lacks =>
        obtain ⟨idle, stays⟩ := rests lacks.1
        exact kept.missStart present idle (fun now => absurd now stays)
      case isFalse _ => exact kept
    · exact kept.externalError
  · split
    case isTrue encrypted =>
      obtain ⟨idle, stays⟩ := rests encrypted.2
      exact kept.full present idle stays
    case isFalse _ => exact kept

theorem Kept.recoverKey :
    (control.run env (Scripts.recoverKey control)).Kept := by
  unfold Scripts.recoverKey
  split
  case isTrue now =>
    exact kept.encp present (by simp [State.Pairing, now]) (by simp [now])
  case isFalse _ => exact kept

end

theorem Kept.event (valid : values.method ≤ 5)
    (present : control.removed = false) {size : Nat} {event : Event}
    (careful : CarefulReport env event size control)
    (listed : script ∈ Scripts.event env values size control event) :
    (control.run env script).Kept := by
  have only : ∀ {single : Script}, script ∈ [single] → script = single :=
    mem_singleton.mp
  cases event with
  | packet opcode pkg =>
    have started : (Control.run env (Scripts.passiveStart env control)
        control).Kept := kept.passiveStart present
    unfold Scripts.event at listed
    dsimp only at listed
    split at listed
    case isTrue gone =>
      rw [only listed]
      exact started
    case isFalse stays =>
      obtain ⟨rest, member, rfl⟩ := mem_map.mp listed
      have still : (Control.run env (Scripts.passiveStart env control)
          control).removed = false := eq_false_iff.mpr stays
      rw [run_append Scripts.passiveStart_goesOn]
      apply started.received valid still _ member
      intro request unexpected
      exact careful request unexpected still
  | startPairing => exact kept.activeStart present listed
  | removePairing =>
    rw [only listed]
    exact kept.removePair careful
  | setConfirm => exact kept.run ordinary_setConfirm listed
  | setPassCode passCode => exact kept.run ordinary_setPassCode listed
  | setPassWord passWord => exact kept.run ordinary_setPassWord listed
  | setLocalPsk | otherPairing => exact kept.run ordinary_idle listed
  | recoverKey key =>
    rw [only listed]
    exact kept.recoverKey present
  | encryptChange status evtStatus =>
    rw [only listed]
    exact kept.encryptChange present status evtStatus
  | encryptParamReq =>
    rw [only listed]
    exact kept.encryptParamReq careful
  | sendControllerDataFail =>
    rw [only listed]
    exact kept.internalError
  | disconnected =>
    rw [only listed]
    exact kept.disconnected present
  | _ =>
    rw [only listed]
    split
    · have refused : (control.externalError env).Kept := kept.externalError
      exact ⟨refused.ledger, refused.gone⟩
    · exact kept

theorem Kept.leaves : Session.Leaves Kept AllAccounted control := by
  unfold Session.Leaves
  split
  case isTrue gone =>
    apply kept.ledger.closed
    simp [State.Pairing, kept.gone gone]
  case isFalse _ => exact kept

end Control

namespace Session

/-- Each attempt of the record has one report: an attempt that ended, and the
current one unless the link still pairs.  After a failure the link is in
`REMV` or gone. -/
def OneReport (session : Session) : Prop :=
  match session.find with
  | none => AllAccounted session.log
  | some slink =>
    (∀ segment ∈ past session.log, Accounted segment) ∧
      (IsAttempt (current session.log) →
        if slink.state.Pairing then Running (current session.log)
        else ∃ status, Finished (current session.log) status ∧
          (status = .ok ∨ slink.state = .remv))

theorem oneReport_of_kept {session : Session}
    (kept : session.Upholds Control.Kept AllAccounted) :
    session.OneReport := by
  unfold Upholds at kept
  unfold OneReport
  cases found : session.find with
  | none =>
    rw [found] at kept
    exact kept
  | some slink =>
    rw [found] at kept
    have ledger : Ledger slink.state session.log :=
      log_of_find found ▸ kept.ledger
    refine ⟨ledger.past, ?_⟩
    intro attempt
    split
    case isTrue pairing => exact ledger.pairing pairing
    case isFalse pairing =>
      by_cases remv : slink.state = .remv
      · obtain ⟨status, finished⟩ := ledger.remv remv attempt
        exact ⟨status, finished, .inr remv⟩
      · have new : slink.state ≠ .init :=
          fun init => ledger.init init attempt
        exact ⟨.ok, ledger.paired new pairing remv attempt, .inl rfl⟩

theorem kept_fresh {log : List Note} (accounted : AllAccounted log) :
    (freshControl log).Kept := by
  have ledger : Ledger .init (log ++ [Note.created]) := by
    apply ledger_init
    · rw [past_start rfl]
      exact accounted
    · rw [current_start rfl]
      intro attempt
      obtain ⟨role, rest, equal⟩ := attempt
      cases equal
  refine ⟨ledger, ?_⟩
  exact nofun

/-- Where no pairing is restarted, cancelled without a packet, or kept up
after a missing key, every attempt reports once. -/
theorem oneReport_of_careful (config : Config) (events : List (Env × Event))
    (careful : Meets (step config) (Heeds CarefulReport config) {} events) :
    Always (step config) OneReport {} events := by
  apply always_upholds (fun _ => oneReport_of_kept) _ _ _ careful
  · intro segment found
    rw [mem_singleton.mp found]
    intro attempt
    obtain ⟨role, rest, equal⟩ := attempt
    cases equal
  · exact fun log accounted => kept_fresh accounted
  · intro env event values size control script kept present heeds valid listed
    exact (kept.event valid present heeds listed).leaves

section Examples

def removedPairing : List (Env × Event) :=
  plainPairing ++ [(plainEnv, .removePairing)]

theorem oneReport_removedPairing :
    (run (step plainConfig) {} removedPairing).log.filter Note.isReport =
        [.reported .ok] ∧
      Always (step plainConfig) OneReport {} removedPairing := by
  refine ⟨by decide, oneReport_of_careful plainConfig removedPairing ?_⟩
  refine ⟨?_, ?_, ?_, ?_, ?_, ?_, ?_, trivial⟩ <;> decide

/-- The user cancels a pairing, and the packet that says so is refused. -/
def cancelledUnsent : List (Env × Event) :=
  [(plainEnv, .startPairing),
    ({ plainEnv with setControllerData := fun _ => false }, .removePairing)]

theorem oneReport_cancelledUnsent :
    ¬ ∀ (config : Config) (events : List (Env × Event)),
      Always (step config) OneReport {} events := by
  intro claim
  have ended : (run (step plainConfig) {} cancelledUnsent).OneReport :=
    (claim plainConfig cancelledUnsent).2.2
  have last : current (run (step plainConfig) {} cancelledUnsent).log ∈
      past (run (step plainConfig) {} cancelledUnsent).log ++
        [current (run (step plainConfig) {} cancelledUnsent).log] :=
    mem_append_right _ (mem_singleton.mpr rfl)
  have attempt : IsAttempt
      (current (run (step plainConfig) {} cancelledUnsent).log) :=
    ⟨1, _, rfl⟩
  obtain ⟨status, finished⟩ := ended _ last attempt
  have once := finished.report
  cases once

end Examples

end Session

end NearLink.Sm
