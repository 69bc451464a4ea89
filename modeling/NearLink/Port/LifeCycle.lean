import NearLink.Transition
import NearLink.Port.Client

/-!
# The life of a connection

What the user hears of an address is settled by the entry of the address.  The
outputs so far are summed up in a tally, and the tally is a function of the
entry after every event.
-/

namespace NearLink.Port

open Sdf Transition List

/-- The state told last, whether an application is registered and linked, and
whether all reports and deregistrations had their turn. -/
structure Tally where
  told : ConnectState := .disconnected
  registered : Bool := false
  orderly : Bool := true

def Reportable : ConnectState → ConnectState → Prop
  | .disconnected, cur => cur = .connecting ∨ cur = .disconnected
  | .connecting, cur | .connected, cur => cur = .connected ∨ cur = .disconnected
  | .disconnecting, _ => False

instance (pre cur : ConnectState) : Decidable (Reportable pre cur) := by
  cases pre <;> unfold Reportable <;> infer_instance

def Tally.next (tally : Tally) : Output → Tally
  | .stateChange cur pre _ =>
    { tally with
      told := cur
      orderly := tally.orderly &&
        decide (pre = tally.told ∧ Reportable pre cur) }
  | .connect =>
    { tally with
      registered := true
      orderly := tally.orderly && !tally.registered }
  | .deregApp _ =>
    { tally with
      registered := false
      orderly := tally.orderly && tally.registered }
  | _ => tally

def tally (log : List Output) : Tally := log.foldl Tally.next {}

theorem tally_append (log outputs : List Output) :
    tally (log ++ outputs) = outputs.foldl Tally.next (tally log) :=
  foldl_append

def expected : Option InfoCache → Tally
  | none => {}
  | some cache =>
    { told := if cache.stmState = .connected then .connected
        else .connecting
      registered := decide (cache.stmState ≠ .registerApp) }

/-- The list is empty until the property is read, and then never longer than
the client allows. -/
def InfoCache.Bounded (cache : InfoCache) : Prop :=
  match cache.stmState with
  | .idle => False
  | .setNet | .connected => cache.portInfoList.length ≤ clientMaxNum
  | _ => cache.portInfoList = []

def Output.asks : Output → Option State
  | .regApp => some .registerApp
  | .connect => some .createLink
  | .getServices => some .getService
  | .discoverServices => some .findService
  | .readProperty _ => some .readProperty
  | .setPropertyNtf _ => some .setNet
  | _ => none

def Output.Refused (env : Env) : Output → Prop
  | .regApp => env.regApp ≠ errSuccess
  | .connect => env.connect ≠ errSuccess
  | .getServices => env.getServices ≠ errSuccess
  | .discoverServices => env.discoverServices ≠ errSuccess
  | .readProperty handle => env.readProperty handle ≠ errSuccess
  | .setPropertyNtf _ => env.setPropertyNtf ≠ errSuccess
  | _ => False

def Event.answers : Event → Option State
  | .registerApp _ => some .registerApp
  | .stateChanged .connected _ | .stateChanged .disconnected _ =>
    some .createLink
  | .getService _ => some .getService
  | .findService _ => some .findService
  | .readProperty _ _ => some .readProperty
  | .setNtf _ _ _ => some .setNet
  | _ => none

/-- The event is the end of the entry: its answer is a failure, the link is
lost, or the user gives up once the application is registered. -/
def Event.Ends (cache : InfoCache) : Event → Prop
  | .registerApp appId => cache.stmState = .registerApp ∧ appId < 0
  | .getService service =>
    cache.stmState = .getService ∧ service = [] ∧ cache.findFlag = true
  | .findService ret => cache.stmState = .findService ∧ ret ≠ errSuccess
  | .readProperty property ret =>
    cache.stmState = .readProperty ∧ ∀ info, property = some info →
      ret ≠ errSuccess ∨ info.errorCode ≠ errSuccess ∨ info.value.length = 1
  | .stateChanged .disconnected _ | .userDisconnect =>
    cache.stmState ≠ .registerApp
  | _ => False

def Serv.Reads (env : Env) (service : Serv) : Prop :=
  ∃ properties, service.properties = some properties ∧
    ∃ property, properties.find? (·.1 = portPropertyStdUuid) = some property ∧
      env.readProperty property.2 = errSuccess

/-- The event avoids the two defects.  Excluded are a get-service answer of
which a service before the last one cannot be read, and a read answer of
READ_PROPERTY with an empty value, a successful `errorCode` and a failing
`ret`, or with two bytes or more, a successful `ret` and a failing `errorCode`
or a value that fails the check of its number of entries or its length. -/
def Event.Clean (cache : InfoCache) (env : Env) : Event → Prop
  | .getService service =>
    cache.stmState = .getService →
      ∀ earlier ∈ service.dropLast, earlier.Reads env
  | .readProperty (some info) ret =>
    cache.stmState = .readProperty →
      (info.errorCode = errSuccess → info.value.length = 0 → ret = errSuccess) ∧
      (ret = errSuccess → 2 ≤ info.value.length →
        info.errorCode = errSuccess ∧ Client.valueChecked info.value = true)
  | _ => True

theorem length_readInfos (count : Nat) (buf : Bytes) :
    (Client.readInfos count buf).length = count := by
  induction count generalizing buf with
  | zero => rfl
  | succ count induction => simp [Client.readInfos, induction]

theorem length_valueInfos {value : Bytes}
    (checked : Client.valueChecked value = true) :
    (Client.valueInfos value).length ≤ clientMaxNum := by
  simp only [Client.valueChecked, Bool.and_eq_true, decide_eq_true_eq]
    at checked
  simpa [Client.valueInfos, length_readInfos] using checked.1

namespace Client

structure Sound (client : Client) : Prop where
  tally : tally client.log = expected client.cache
  bounded : ∀ cache, client.cache = some cache → cache.Bounded

/-- Nothing happens, and what the entry waits for is still to come. -/
def Stays (client after : Client) (event : Event) : Prop :=
  after = client ∧ ∀ cache, client.cache = some cache →
    event.answers ≠ some cache.stmState

/-- The outputs of an event use no removed entry.  An entry is there
afterwards only if no request was refused, and what it waits for is asked. -/
def Moves (env : Env) (client after : Client) : Prop :=
  ∃ outputs, after.log = client.log ++ outputs ∧ .dangling ∉ outputs ∧
    ∀ cache, after.cache = some cache →
      (∀ output ∈ outputs, ¬ output.Refused env) ∧
        (cache.stmState ≠ .connected →
          ∃ output ∈ outputs, output.asks = some cache.stmState)

/-- What an event leaves behind, the second part as long as it avoids the
defects. -/
structure Handled (env : Env) (client : Client) (cache : InfoCache)
    (event : Event) (after : Client) : Prop where
  sound : after.Sound
  settles : event.Clean cache env →
    (client.Stays after event ∨ client.Moves env after) ∧
      (event.Ends cache → after.cache = none)

section Steps

variable {client after : Client} {cache : InfoCache} {env : Env}
  {preState : ConnectState} {ret : Errcode} {output : Output}
  {property : Option PropertyInfo} {event : Event}

theorem Moves.removed (outputs : List Output)
    (log : after.log = client.log ++ outputs) (used : .dangling ∉ outputs)
    (gone : after.cache = none) : client.Moves env after :=
  ⟨outputs, log, used, fun _ held => nomatch gone.symm.trans held⟩

theorem Moves.before {outputs : List Output}
    (moves : (client.emit outputs).Moves env after) (used : .dangling ∉ outputs)
    (accepted : after.cache ≠ none → ∀ output ∈ outputs, ¬ output.Refused env) :
    client.Moves env after := by
  obtain ⟨rest, log, unused, asked⟩ := moves
  refine ⟨outputs ++ rest, ?_, by simp [used, unused], fun cache held => ?_⟩
  · rw [log, emit, append_assoc]
  · obtain ⟨taken, waits⟩ := asked cache held
    have first := accepted (by simp [held])
    refine ⟨fun output member => ?_, fun open_ => ?_⟩
    · exact (mem_append.mp member).elim (first _) (taken _)
    · obtain ⟨output, member, asks⟩ := waits open_
      exact ⟨output, mem_append_right _ member, asks⟩

theorem sound_switchToDisconnected
    (told : tally client.log = { told := preState, registered := true })
    (live : preState = .connecting ∨ preState = .connected) :
    (client.switchToDisconnected cache preState ret).Sound := by
  refine ⟨?_, nofun⟩
  have ended := tally_append client.log
    [.stateChange .disconnected preState ret, .deregApp cache.appId]
  rw [told] at ended
  refine Eq.trans ended ?_
  rcases live with rfl | rfl <;> rfl

theorem moves_switchToDisconnected :
    client.Moves env (client.switchToDisconnected cache preState ret) :=
  Moves.removed [.stateChange .disconnected preState ret,
    .deregApp cache.appId] rfl (by simp) rfl

theorem sound_switchToDisconnecting
    (told : tally client.log = { told := preState, registered := true })
    (live : preState = .connecting ∨ preState = .connected) :
    (client.switchToDisconnecting cache preState ret).Sound := by
  apply sound_switchToDisconnected _ live
  exact (tally_append client.log [.disconnect]).trans told

theorem moves_switchToDisconnecting :
    client.Moves env (client.switchToDisconnecting cache preState ret) :=
  moves_switchToDisconnected.before (by simp) fun held => absurd rfl held

theorem sound_request
    (told : tally client.log = { told := .connecting, registered := true })
    (silent : ∀ tally : Tally, tally.next output = tally)
    (state : cache.stmState ≠ .connected ∧ cache.stmState ≠ .registerApp)
    (bounded : cache.Bounded) :
    (client.request cache output ret).Sound := by
  have same : tally (client.log ++ [output]) =
      { told := .connecting, registered := true } := by
    rw [tally_append, told]
    exact silent _
  unfold request
  split
  · exact sound_switchToDisconnecting same (.inl rfl)
  · refine ⟨?_, by rintro _ ⟨⟩; exact bounded⟩
    simp only [emit, store, expected, state, if_false, ne_eq, not_false_eq_true,
      decide_true]
    exact same

theorem moves_request (asks : output.asks = some cache.stmState)
    (refused : output.Refused env ↔ ret ≠ errSuccess) :
    client.Moves env (client.request cache output ret) := by
  have used : .dangling ∉ [output] := by
    rw [mem_singleton]
    rintro rfl
    cases asks
  unfold request
  split
  · exact moves_switchToDisconnecting.before used fun held => absurd rfl held
  next taken =>
    refine ⟨[output], rfl, used, ?_⟩
    rintro _ ⟨⟩
    exact ⟨by simpa [refused] using taken,
      fun _ => ⟨output, mem_singleton_self _, asks⟩⟩

theorem sound_enterCreateLink
    (told : tally client.log = { told := .connecting })
    (empty : cache.portInfoList = []) :
    (client.enterCreateLink env cache).Sound := by
  have linked : tally (client.log ++ [Output.connect]) =
      { told := .connecting, registered := true } := by
    rw [tally_append, told]
    rfl
  unfold enterCreateLink
  split
  · exact sound_switchToDisconnected linked (.inl rfl)
  · refine ⟨linked, ?_⟩
    rintro _ ⟨⟩
    exact empty

theorem moves_enterCreateLink :
    client.Moves env (client.enterCreateLink env cache) := by
  unfold enterCreateLink
  split
  · exact moves_switchToDisconnected.before (by simp)
      fun held => absurd rfl held
  next taken =>
    refine ⟨[.connect], rfl, by simp, ?_⟩
    rintro _ ⟨⟩
    exact ⟨by simpa [Output.Refused] using taken,
      fun _ => ⟨.connect, mem_singleton_self _, rfl⟩⟩

theorem enterRegisterApp_steps (told : tally client.log = {}) :
    (client.enterRegisterApp env {}).Sound ∧
      client.Moves env (client.enterRegisterApp env {}) := by
  unfold enterRegisterApp
  split
  · constructor
    · refine ⟨?_, nofun⟩
      have ended := tally_append client.log
        [.stateChange .connecting .disconnected errSuccess, .regApp,
          .stateChange .disconnected .connecting env.regApp]
      rw [told] at ended
      simp only [remove, emit, store, append_assoc, cons_append, nil_append]
      exact ended
    · exact Moves.removed [.stateChange .connecting .disconnected errSuccess,
        .regApp, .stateChange .disconnected .connecting env.regApp]
          (by simp [remove, emit, store]) (by simp) rfl
  next taken =>
    constructor
    · refine ⟨?_, by rintro _ ⟨⟩; exact rfl⟩
      exact (tally_append client.log _).trans (by rw [told]; rfl)
    · refine ⟨_, rfl, by simp, ?_⟩
      rintro _ ⟨⟩
      exact ⟨by simpa [Output.Refused] using taken,
        fun _ => ⟨.regApp, by simp, rfl⟩⟩

theorem sound_findAndReadProperty {service : Serv} (sound : client.Sound)
    (reading : ∀ cache, client.cache = some cache →
      cache.stmState = .readProperty) :
    (client.findAndReadProperty env service).Sound ∧
      ∀ cache, (client.findAndReadProperty env service).cache = some cache →
        cache.stmState = .readProperty := by
  unfold findAndReadProperty
  cases held : client.cache with
  | none =>
    refine ⟨⟨(tally_append ..).trans ?_, ?_⟩, by simp [emit, held]⟩
    · simpa [emit, held, Tally.next] using sound.tally
    · simp [emit, held]
  | some cache =>
    have now := reading cache held
    have told : tally client.log =
        { told := .connecting, registered := true } := by
      simp [sound.tally, held, expected, now]
    dsimp only
    split
    · exact ⟨sound_switchToDisconnecting told (.inl rfl), nofun⟩
    · split
      · exact ⟨sound_switchToDisconnecting told (.inl rfl), nofun⟩
      · refine ⟨sound_request told (fun _ => rfl) (by simp [now])
          (sound.bounded cache held), ?_⟩
        unfold request
        split
        · exact nofun
        · rintro _ ⟨⟩
          exact now

theorem moves_findAndReadProperty {service : Serv}
    (held : client.cache = some cache) (now : cache.stmState = .readProperty) :
    client.Moves env (client.findAndReadProperty env service) := by
  simp only [findAndReadProperty, held]
  split
  · exact moves_switchToDisconnecting
  · split
    · exact moves_switchToDisconnecting
    · exact moves_request (by rw [now]; rfl) Iff.rfl

theorem findAndReadProperty_of_reads {service : Serv}
    (held : client.cache = some cache) (reads : service.Reads env) :
    ∃ handle, env.readProperty handle = errSuccess ∧
      client.findAndReadProperty env service =
        client.emit [.readProperty handle] := by
  obtain ⟨properties, listed, property, found, taken⟩ := reads
  refine ⟨property.2, taken, ?_⟩
  simp [findAndReadProperty, held, listed, found, request, taken, store, emit]

theorem sound_enterReadProperty
    (told : tally client.log = { told := .connecting, registered := true })
    (empty : cache.portInfoList = []) (service : List Serv) :
    (client.enterReadProperty env cache service).Sound := by
  have start : (client.store { cache with
      stmState := .readProperty }).Sound :=
    ⟨told, by rintro _ ⟨⟩; exact empty⟩
  have reading : ∀ held, (client.store { cache with
      stmState := .readProperty }).cache = some held →
        held.stmState = .readProperty := by
    rintro _ ⟨⟩
    rfl
  unfold enterReadProperty
  generalize client.store { cache with stmState := .readProperty } = now at *
  induction service generalizing now with
  | nil => exact start
  | cons service services induction =>
    obtain ⟨next, still⟩ := sound_findAndReadProperty start reading
    exact induction _ next still

theorem moves_enterReadProperty {service : List Serv} (some_ : service ≠ [])
    (reads : ∀ earlier ∈ service.dropLast, earlier.Reads env) :
    client.Moves env (client.enterReadProperty env cache service) := by
  suffices all : ∀ (now : Client) (entry : InfoCache),
      now.cache = some entry → entry.stmState = .readProperty →
        now.Moves env (service.foldl (findAndReadProperty env) now) from
    all (client.store { cache with stmState := .readProperty }) _ rfl rfl
  induction service with
  | nil => exact absurd rfl some_
  | cons service services induction =>
    intro now entry held state
    cases services with
    | nil => exact moves_findAndReadProperty held state
    | cons second services =>
      obtain ⟨handle, taken, read⟩ :=
        findAndReadProperty_of_reads held (reads service (by simp))
      rw [foldl_cons, read]
      have later := induction (by simp)
        (fun earlier member => reads earlier (by simp [member]))
        (now.emit [.readProperty handle]) entry held state
      exact later.before (by simp)
        fun _ => by simpa [Output.Refused] using taken

theorem sound_enterConnected
    (told : tally client.log = { told := .connecting, registered := true })
    (bound : cache.portInfoList.length ≤ clientMaxNum) :
    (client.enterConnected cache).Sound := by
  refine ⟨?_, by rintro _ ⟨⟩; exact bound⟩
  exact (tally_append client.log _).trans (by rw [told]; rfl)

theorem moves_enterConnected :
    client.Moves env (client.enterConnected cache) := by
  refine ⟨_, rfl, by simp, ?_⟩
  rintro _ ⟨⟩
  exact ⟨by simp [Output.Refused], fun open_ => absurd rfl open_⟩

theorem onReadProperty_steps (sound : client.Sound)
    (now : cache.stmState = .readProperty)
    (told : tally client.log = { told := .connecting, registered := true })
    (empty : cache.portInfoList = []) :
    client.Handled env cache (.readProperty property ret)
      (client.onReadProperty env cache property ret) := by
  unfold onReadProperty
  cases property with
  | none =>
    exact ⟨sound_switchToDisconnecting told (.inl rfl),
      fun _ => ⟨.inr moves_switchToDisconnecting, fun _ => rfl⟩⟩
  | some info =>
    dsimp only
    split
    next whole =>
      refine ⟨sound_enterConnected told (by simp [empty]), fun clean =>
        ⟨.inr moves_enterConnected, fun ends => ?_⟩⟩
      have good := (clean now).1 whole.1 whole.2
      have bad := ends.2 info rfl
      simp [good, whole.1, whole.2] at bad
    next part =>
      split
      · exact ⟨sound_switchToDisconnecting told (.inl rfl),
          fun _ => ⟨.inr moves_switchToDisconnecting, fun _ => rfl⟩⟩
      next read =>
        simp only [not_or, not_not, not_lt] at read
        split
        next checked =>
          refine ⟨sound_request told (fun _ => rfl) (by simp) ?_,
            fun clean => ⟨.inr (moves_request rfl Iff.rfl), fun ends => ?_⟩⟩
          · simpa [InfoCache.Bounded, empty] using length_valueInfos checked
          · have bad := ends.2 info rfl
            have good := (clean now).2 read.1 read.2
            simp only [read.1, good.1, ne_eq, not_true_eq_false, false_or]
              at bad
            omega
        next unchecked =>
          exact ⟨sound, fun clean =>
            absurd ((clean now).2 read.1 read.2).2 unchecked⟩

theorem onPropertyChanged_steps (sound : client.Sound)
    (held : client.cache = some cache) (now : cache.stmState = .connected) :
    (client.onPropertyChanged cache property).Sound ∧
      client.Moves env (client.onPropertyChanged cache property) := by
  have same : client.Sound ∧ client.Moves env client := by
    refine ⟨sound, [], by simp, by simp, fun kept there => ?_⟩
    cases held.symm.trans there
    exact ⟨by simp, fun open_ => absurd now open_⟩
  unfold onPropertyChanged
  cases property with
  | none => exact same
  | some info =>
    dsimp only
    split
    · exact same
    · split
      next checked =>
        refine ⟨⟨?_, ?_⟩, [], by simp [store], by simp, ?_⟩
        · have told := sound.tally
          rw [held] at told
          exact told
        · rintro _ ⟨⟩
          simpa [InfoCache.Bounded, now] using length_valueInfos checked
        · rintro _ ⟨⟩
          exact ⟨by simp, fun open_ => absurd now open_⟩
      · exact same

theorem ends_of_other (ends : event.Ends cache)
    (other : event.answers ≠ some cache.stmState) :
    cache.stmState ≠ .registerApp ∧ (event = .userDisconnect ∨
      ∃ ret, event = .stateChanged .disconnected ret) := by
  cases event with
  | userDisconnect => exact ⟨ends, .inl rfl⟩
  | stateChanged state ret =>
    cases state with
    | disconnected => exact ⟨ends, .inr ⟨ret, rfl⟩⟩
    | _ => exact ends.elim
  | registerApp | getService | findService | readProperty =>
    exact absurd (congrArg some ends.1.symm) other
  | _ => exact ends.elim

theorem leave_steps (sound : client.Sound) (held : client.cache = some cache)
    (told : tally client.log = { told := preState, registered := true })
    (live : preState = .connecting ∨ preState = .connected)
    (other : event.answers ≠ some cache.stmState) :
    client.Handled env cache event (client.leave cache preState event) := by
  unfold leave
  split
  · exact ⟨sound_switchToDisconnected told live,
      fun _ => ⟨.inr moves_switchToDisconnected, fun _ => rfl⟩⟩
  · exact ⟨sound_switchToDisconnecting told live,
      fun _ => ⟨.inr moves_switchToDisconnecting, fun _ => rfl⟩⟩
  next lost given =>
    refine ⟨sound, fun _ => ⟨.inl ⟨rfl, fun kept there => ?_⟩, fun ends => ?_⟩⟩
    · cases held.symm.trans there
      exact other
    · rcases (ends_of_other ends other).2 with rfl | ⟨ret, rfl⟩
      · exact absurd rfl given
      · exact absurd rfl (lost ret)

theorem dispatch_eq_leave
    (waits : cache.stmState ≠ .idle ∧ cache.stmState ≠ .registerApp ∧
      cache.stmState ≠ .connected)
    (other : event.answers ≠ some cache.stmState) :
    client.dispatch env cache event = client.leave cache .connecting event := by
  unfold dispatch
  split
  all_goals first | rfl | simp_all [Event.answers]

theorem onRegisterApp_steps
    (told : tally client.log = { told := .connecting })
    (empty : cache.portInfoList = []) (appId : Int) :
    client.Handled env cache (.registerApp appId)
      (client.onRegisterApp env cache appId) := by
  unfold onRegisterApp
  split
  · exact ⟨⟨(tally_append ..).trans (by rw [told]; rfl), nofun⟩,
      fun _ => ⟨.inr (Moves.removed _ rfl (by simp) rfl), fun _ => rfl⟩⟩
  next valid =>
    exact ⟨sound_enterCreateLink told empty,
      fun _ => ⟨.inr moves_enterCreateLink, fun ends => absurd ends.2 valid⟩⟩

theorem handleOnGetService_steps (now : cache.stmState = .getService)
    (told : tally client.log = { told := .connecting, registered := true })
    (empty : cache.portInfoList = []) (service : List Serv) :
    client.Handled env cache (.getService service)
      (client.handleOnGetService env cache service) := by
  unfold handleOnGetService
  split
  next none =>
    split
    next first =>
      exact ⟨sound_request told (fun _ => rfl) (by simp) empty,
        fun _ => ⟨.inr (moves_request rfl Iff.rfl),
          fun ends => absurd ends.2.2 (by simp [first])⟩⟩
    · exact ⟨sound_switchToDisconnecting told (.inl rfl),
        fun _ => ⟨.inr moves_switchToDisconnecting, fun _ => rfl⟩⟩
  next some_ =>
    exact ⟨sound_enterReadProperty told empty service,
      fun clean => ⟨.inr (moves_enterReadProperty some_ (clean now)),
        fun ends => absurd ends.2.1 some_⟩⟩

section

variable (sound : client.Sound)
include sound

theorem dispatch_answered (held : client.cache = some cache)
    (mine : event.answers = some cache.stmState) :
    client.Handled env cache event (client.dispatch env cache event) := by
  have told := sound.tally
  have bounded := sound.bounded cache held
  simp only [held, expected] at told
  unfold InfoCache.Bounded at bounded
  cases event with
  | registerApp appId =>
    have now : cache.stmState = .registerApp := (Option.some.inj mine).symm
    simp only [now] at told bounded
    simp only [dispatch, now]
    exact onRegisterApp_steps told bounded appId
  | stateChanged state ret =>
    cases state with
    | connected =>
      have now : cache.stmState = .createLink := (Option.some.inj mine).symm
      simp only [now] at told bounded
      simp only [dispatch, now]
      exact ⟨sound_request told (fun _ => rfl) (by simp) bounded,
        fun _ => ⟨.inr (moves_request rfl Iff.rfl), nofun⟩⟩
    | disconnected =>
      have now : cache.stmState = .createLink := (Option.some.inj mine).symm
      simp only [now] at told
      simp only [dispatch, now]
      exact ⟨sound_switchToDisconnected told (.inl rfl),
        fun _ => ⟨.inr moves_switchToDisconnected, fun _ => rfl⟩⟩
    | _ => cases mine
  | getService service =>
    have now : cache.stmState = .getService := (Option.some.inj mine).symm
    simp only [dispatch, now]
    simp only [now] at told bounded
    exact handleOnGetService_steps now told bounded service
  | findService ret =>
    have now : cache.stmState = .findService := (Option.some.inj mine).symm
    simp only [now] at told bounded
    simp only [dispatch, now]
    split
    · exact ⟨sound_switchToDisconnecting told (.inl rfl),
        fun _ => ⟨.inr moves_switchToDisconnecting, fun _ => rfl⟩⟩
    next found =>
      exact ⟨sound_request told (fun _ => rfl) (by simp) bounded,
        fun _ => ⟨.inr (moves_request rfl Iff.rfl),
          fun ends => absurd ends.2 found⟩⟩
  | readProperty property ret =>
    have now : cache.stmState = .readProperty := (Option.some.inj mine).symm
    simp only [dispatch, now]
    simp only [now] at told bounded
    exact onReadProperty_steps sound now told bounded
  | setNtf handle enable ret =>
    have now : cache.stmState = .setNet := (Option.some.inj mine).symm
    simp only [now] at told bounded
    simp only [dispatch, now]
    exact ⟨sound_enterConnected told bounded,
      fun _ => ⟨.inr moves_enterConnected, nofun⟩⟩
  | _ => cases mine

theorem dispatch_connected (held : client.cache = some cache)
    (now : cache.stmState = .connected)
    (told : tally client.log = { told := .connected, registered := true })
    (other : event.answers ≠ some cache.stmState) :
    client.Handled env cache event (client.dispatch env cache event) := by
  cases event with
  | propertyChanged property =>
    simp only [dispatch, now]
    obtain ⟨kept, moves⟩ := onPropertyChanged_steps sound held now
    exact ⟨kept, fun _ => ⟨.inr moves, nofun⟩⟩
  | userConnect =>
    simp only [dispatch, now]
    refine ⟨⟨(tally_append ..).trans ?_, ?_⟩, fun _ =>
      ⟨.inr ⟨_, rfl, by simp, fun kept there => ?_⟩, nofun⟩⟩
    · simp only [told, emit, held, expected, now]
      rfl
    · exact sound.bounded
    · cases held.symm.trans there
      exact ⟨by simp [Output.Refused], fun open_ => absurd now open_⟩
  | _ =>
    simp only [dispatch, now]
    exact leave_steps sound held told (.inr rfl) other

theorem dispatch_unanswered (held : client.cache = some cache)
    (other : event.answers ≠ some cache.stmState) :
    client.Handled env cache event (client.dispatch env cache event) := by
  have told := sound.tally
  simp only [held, expected] at told
  cases now : cache.stmState with
  | idle =>
    have bounded := sound.bounded cache held
    simp only [InfoCache.Bounded, now] at bounded
  | registerApp =>
    have same : client.dispatch env cache event = client := by
      rw [now] at other
      cases event with
      | registerApp appId => exact absurd rfl other
      | _ => simp only [dispatch, now]
    rw [same]
    refine ⟨sound, fun _ => ⟨.inl ⟨rfl, fun kept there => ?_⟩,
      fun ends => absurd now (ends_of_other ends other).1⟩⟩
    cases held.symm.trans there
    exact other
  | connected =>
    simp only [now] at told
    exact dispatch_connected sound held now told other
  | _ =>
    rw [dispatch_eq_leave (by simp [now]) other]
    simp only [now] at told
    exact leave_steps sound held told (.inl rfl) other

theorem dispatch_steps (held : client.cache = some cache) (event : Event) :
    client.Handled env cache event (client.dispatch env cache event) := by
  by_cases mine : event.answers = some cache.stmState
  · exact dispatch_answered sound held mine
  · exact dispatch_unanswered sound held mine

theorem step_of_none (gone : client.cache = none) (event : Env × Event) :
    (client.step event).Sound ∧ client.Moves event.1 (client.step event) := by
  obtain ⟨env, event⟩ := event
  have told : tally client.log = {} := by rw [sound.tally, gone, expected]
  cases event with
  | userConnect =>
    simp only [step, gone]
    split
    · exact enterRegisterApp_steps told
    · refine ⟨⟨(tally_append ..).trans ?_, ?_⟩,
        Moves.removed _ rfl (by simp) gone⟩
      · rw [told, emit, gone]
        rfl
      · simp [emit, gone]
  | _ =>
    simp only [step, gone]
    exact ⟨sound, Moves.removed [] (by simp) (by simp) gone⟩

theorem sound_step (event : Env × Event) :
    (client.step event).Sound := by
  cases held : client.cache with
  | none => exact (step_of_none sound held event).1
  | some cache =>
    simpa only [step, held] using (dispatch_steps sound held event.2).sound

end

theorem sound_init : Sound {} :=
  ⟨rfl, nofun⟩

theorem sound_run (events : List (Env × Event)) :
    (run step {} events).Sound :=
  run_invariant_of_step (fun (client : Client) event (sound : client.Sound) =>
    sound_step sound event) sound_init events

end Steps

/-- An event that avoids the defects is answered by requests or changes
nothing, and leaves no entry behind if it is the end of the entry. -/
def Settles (client : Client) : Env × Event → Prop
  | (env, event) =>
    match client.cache with
    | none => client.Moves env (client.step (env, event))
    | some cache =>
      event.Clean cache env → (client.Stays (client.step (env, event)) event ∨
          client.Moves env (client.step (env, event))) ∧
        (event.Ends cache → (client.step (env, event)).cache = none)

/-- In every run the user hears of the address what its entry says, in order
and with one deregistration for each registration.  No event that avoids the
defects uses a removed entry or leaves one behind with nothing under way. -/
theorem life_cycle (events : List (Env × Event)) :
    Always step (fun client => tally client.log = expected client.cache) {}
        events ∧
      Meets step Settles {} events := by
  constructor
  · exact always_of_step (fun (client : Client) (sound : client.Sound) =>
      sound.tally) (fun _ event sound => sound_step sound event) sound_init events
  · apply Meets.imp (fun (client : Client) event (sound : client.Sound) _ =>
      sound_step sound event) _ sound_init (meets_of_forall fun _ _ => trivial)
    rintro client ⟨env, event⟩ sound -
    cases held : client.cache with
    | none =>
      simpa only [Settles, held] using (step_of_none sound held (env, event)).2
    | some cache =>
      simpa only [Settles, step, held] using
        (dispatch_steps sound held event).settles

def refused : List (Env × Event) :=
  [({}, .userConnect), ({}, .registerApp 3),
    ({}, .stateChanged .connected errSuccess),
    ({}, .getService [{ properties := some [(portPropertyStdUuid, 7)] }]),
    ({}, .readProperty (some ⟨7, errSuccess, getPropertyValue []⟩) errSuccess),
    ({}, .setNtf 7 true errFail)]

theorem refused_connected :
    (run step {} refused).cache =
        some { appId := 3, propertyHandle := 7, stmState := .connected } ∧
      (tally (run step {} refused).log).told = .connected := by
  decide +kernel

end Client

end NearLink.Port
