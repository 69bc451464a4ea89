import NearLink.Ssap.AppLink

/-!
# Applications follow their last request

What an application may be in is determined by what the connection manager
does for its address.  The invariant holds in every run in which no
application takes back a connection that waits for the end of the last one.
-/

namespace NearLink.Ssap

open Keyed Transition Option Function

/-- The application asked for a connection, which was neither refused nor lost
since. -/
def App.Wants (app : App) : Prop :=
  app.lastRequest = some .connect ∧ app.dropped = false

instance (app : App) : Decidable app.Wants :=
  inferInstanceAs (Decidable (_ ∧ _))

def App.Resting (app : App) : Prop :=
  app.linkState = .idle ∨ app.linkState = .disconnected

def Shared.Spared (shared : Shared) : Prop :=
  ∀ removal ∈ shared.removals, ∀ other ∈ removal.2,
    other.addr = removal.1 → ¬ other.Wants

namespace Host

/-- With no call of the connection manager outstanding, an application is
connected when it wants a link that is there, and uses none when it asked for
the end of its connection. -/
def Follows (host : Host) (app : App) : Prop :=
  (host.shared.cm app.addr = .up → app.Wants → app.linkState = .connected) ∧
  (host.shared.cm app.addr = .up ∨ host.shared.cm app.addr = .down →
    app.lastRequest = some .disconnect →
      app.linkState ≠ .connected ∧ app.linkState ≠ .connecting)

/-- No operation is cached where the state machine rules it out: in the state
`connected`, a connection while there is one to come, the end of a connection
while it is ended, and any in an application that rests when a link may be
reported. -/
def Uncached (host : Host) (app : App) : Prop :=
  (app.linkState = .connected → app.nextOperator = none) ∧
  (app.linkState = .connecting → app.nextOperator ≠ some .connect) ∧
  (app.linkState = .disconnecting → app.nextOperator ≠ some .disconnect) ∧
  (host.shared.cm app.addr = .down ∨ host.shared.cm app.addr = .adding →
    app.Resting → app.nextOperator = none)

structure Honours (host : Host) : Prop where
  follows : ∀ app ∈ host.apps, host.Follows app
  uncached : ∀ app ∈ host.apps, host.Uncached app
  spared : host.shared.Spared
  single : (host.shared.linkState.map LinkManager.addr).Nodup

/-- The end of a connection is not asked for by an application that waits for
its last one to end before it connects again. -/
def Orderly (host : Host) : LinkEvent → Prop
  | .disconnect appId =>
    ∀ app, host.apps[appId]? = some app → app.Resting → app.nextOperator = none
  | _ => True

end Host

/-- The entry of `g_linkState` that belongs to a state of the connection
manager. -/
def CmState.entry : CmState → Option LinkState
  | down => none
  | adding => some .connecting
  | up => some .connected
  | removing => some .disconnecting

/-- The state that `g_linkState` has for an address. -/
def Shared.actual (shared : Shared) (addr : Addr) : Option LinkState :=
  (shared.findLinkManager addr).map LinkManager.actualLinkState

structure Shared.Matched (shared : Shared) : Prop where
  single : (shared.linkState.map LinkManager.addr).Nodup
  entry : ∀ addr, shared.actual addr = (shared.cm addr).entry

inductive App.Fits : CmState → App → Prop where
  | resting {cm : CmState} {app : App} (state : app.Resting)
      (empty : app.nextOperator = none) (content : ¬ app.Wants) : Fits cm app
  | connecting {app : App} (state : app.linkState = .connecting)
      (empty : app.nextOperator = none) (wants : app.Wants) : Fits .adding app
  | leaving {app : App} (state : app.linkState = .connecting)
      (cached : app.nextOperator = some .disconnect)
      (asked : app.lastRequest = some .disconnect) : Fits .adding app
  | connected {app : App} (state : app.linkState = .connected)
      (empty : app.nextOperator = none) (wants : app.Wants) : Fits .up app
  | disconnecting {app : App} (state : app.linkState = .disconnecting)
      (empty : app.nextOperator = none)
      (asked : app.lastRequest = some .disconnect) : Fits .removing app
  | waiting {app : App} (state : app.Resting ∨ app.linkState = .disconnecting)
      (cached : app.nextOperator = some .connect) (wants : app.Wants) :
      Fits .removing app

namespace App

def Using (app : App) : Prop :=
  app.linkState = .connected ∨ app.linkState = .connecting

variable {app : App} {cm : CmState}

theorem not_wants_of_disconnect (asked : app.lastRequest = some .disconnect) :
    ¬ app.Wants := by
  rintro ⟨connect, _⟩
  rw [asked] at connect
  cases connect

theorem Resting.not_using (resting : app.Resting) : ¬ app.Using := by
  rintro (connected | connecting)
  · rcases resting with idle | gone
    · rw [idle] at connected
      cases connected
    · rw [gone] at connected
      cases connected
  · rcases resting with idle | gone
    · rw [idle] at connecting
      cases connecting
    · rw [gone] at connecting
      cases connecting

theorem Fits.rests (fits : Fits cm app) (idle : ¬ app.Using)
    (present : cm ≠ .removing) :
    app.Resting ∧ app.nextOperator = none ∧ ¬ app.Wants := by
  cases fits with
  | resting state empty content => exact ⟨state, empty, content⟩
  | connecting state empty wants | leaving state cached asked =>
    exact absurd (.inr state) idle
  | connected state empty wants => exact absurd (.inl state) idle
  | _ => exact absurd rfl present

theorem Fits.of_down (fits : Fits .down app) : Fits cm app := by
  cases fits with
  | resting state empty content => exact .resting state empty content

end App

namespace Shared

variable {shared after : Shared} {addr : Addr}

theorem Matched.change (matched : shared.Matched) (addr : Addr) (cm : CmState)
    (single : (after.linkState.map LinkManager.addr).Nodup)
    (changed : after.cm = Function.update shared.cm addr cm)
    (own : after.actual addr = cm.entry) (others : ∀ other, other ≠ addr →
      after.actual other = shared.actual other) : after.Matched := by
  refine ⟨single, fun other => ?_⟩
  rw [changed]
  by_cases same : other = addr
  · subst same
    rw [update_self]
    exact own
  · rw [update_of_ne same, others other same]
    exact matched.entry other

variable (state : LinkState)

theorem single_setActual :
    (shared.setActual addr state).linkState.map LinkManager.addr =
      shared.linkState.map LinkManager.addr :=
  map_modify fun _ => rfl

theorem actual_setActual :
    (shared.setActual addr state).actual addr =
      (shared.actual addr).map fun _ => state := by
  have found : lookup LinkManager.addr addr
      (shared.setActual addr state).linkState =
        (lookup LinkManager.addr addr shared.linkState).map fun manager =>
          { manager with actualLinkState := state } :=
    lookup_modify_self fun _ => rfl
  unfold actual findLinkManager
  rw [found]
  cases lookup LinkManager.addr addr shared.linkState <;> rfl

theorem actual_setActual_ne {other : Addr} (differs : other ≠ addr) :
    (shared.setActual addr state).actual other = shared.actual other := by
  have found : lookup LinkManager.addr other
      (shared.setActual addr state).linkState =
        lookup LinkManager.addr other shared.linkState :=
    lookup_modify_ne (fun _ => rfl) differs
  unfold actual findLinkManager
  rw [found]

theorem absent_of_actual (none : shared.actual addr = none) :
    lookup LinkManager.addr addr shared.linkState = Option.none :=
  map_eq_none_iff.mp none

theorem alloc_some {state : LinkState} (none : shared.actual addr = none)
    (unique : (shared.linkState.map LinkManager.addr).Nodup)
    (allocated : shared.alloc addr state = some after) :
    (after.linkState.map LinkManager.addr).Nodup ∧ after.cm = shared.cm ∧
      after.removals = shared.removals ∧ after.actual addr = some state ∧
      ∀ other, other ≠ addr → after.actual other = shared.actual other := by
  have absent := absent_of_actual none
  unfold alloc at allocated
  split at allocated <;> cases allocated
  · refine ⟨nodup_append_singleton unique (lookup_eq_none.mp absent), rfl, rfl,
      ?_, fun other differs => ?_⟩
    · unfold actual findLinkManager
      rw [lookup_append, absent]
      simp
    · unfold actual findLinkManager
      rw [lookup_append, if_neg (Ne.symm differs), or_none]

variable (matched : shared.Matched)
include matched

theorem Matched.userConnect_cases (addr : Addr) : (shared.cm addr = .down ∧
      shared.userConnect addr = (shared, .disconnected)) ∨
    (shared.cm addr = .down ∧ ∃ after : Shared,
      shared.userConnect addr = (after, .connecting) ∧ after.Matched ∧
        after.cm = Function.update shared.cm addr .adding ∧
        after.removals = shared.removals) ∨
    ∃ state, (shared.cm addr).entry = some state ∧
      shared.userConnect addr = (shared, state) := by
  have entry := matched.entry addr
  unfold userConnect
  cases located : shared.findLinkManager addr with
  | some manager =>
    refine .inr (.inr ⟨manager.actualLinkState, ?_, ?_⟩)
    · rw [← entry, actual, located]
      rfl
    · unfold actual at entry
      rw [located, map_some] at entry
      dsimp only
      unfold tryConnect
      cases state : shared.cm addr with
      | down =>
        rw [state] at entry
        cases entry
      | _ =>
        rw [state] at entry
        rw [some.inj entry]
  | none =>
    have absent : shared.actual addr = none := by
      rw [actual, located]
      rfl
    have down : shared.cm addr = .down := by
      rw [absent] at entry
      cases state : shared.cm addr with
      | down => rfl
      | _ =>
        rw [state] at entry
        cases entry
    cases allocated : shared.alloc addr .idle with
    | none => exact .inl ⟨down, rfl⟩
    | some fresh =>
      obtain ⟨unique, sameCm, sameRemovals, own, others⟩ :=
        alloc_some absent matched.single allocated
      refine .inr (.inl ⟨down, _, rfl, ?_, ?_, ?_⟩)
      · refine matched.change addr .adding ?_ ?_ ?_ ?_
        · rw [single_setActual]
          exact unique
        · change Function.update fresh.cm addr .adding = _
          rw [sameCm]
        · rw [actual_setActual]
          change (fresh.actual addr).map _ = _
          rw [own]
          rfl
        · intro other differs
          rw [actual_setActual_ne _ differs]
          exact others other differs
      · change Function.update fresh.cm addr .adding = _
        rw [sameCm]
      · exact sameRemovals

theorem Matched.userDisconnect_up (up : shared.cm addr = .up)
    (others : List App) : ∃ after : Shared, shared.userDisconnect addr others =
        (after, .disconnecting) ∧ after.Matched ∧
      after.cm = Function.update shared.cm addr .removing ∧
      after.removals = shared.removals ++ [(addr, others)] := by
  have entry := matched.entry addr
  rw [up] at entry
  obtain ⟨manager, located, state⟩ := map_eq_some_iff.mp entry
  have named : manager.addr = addr := lookup_key located
  unfold userDisconnect
  rw [located]
  dsimp only
  unfold tryDisconnect
  rw [state, named]
  refine ⟨_, rfl, ?_, rfl, rfl⟩
  refine matched.change addr .removing ?_ rfl ?_ ?_
  · rw [single_setActual]
    exact matched.single
  · rw [actual_setActual]
    change (shared.actual addr).map _ = _
    rw [entry]
    rfl
  · intro other differs
    rw [actual_setActual_ne _ differs]
    rfl

theorem Matched.record_connected
    (allowed : shared.cm addr = .adding ∨ (shared.cm addr = .down ∧
      shared.linkState.length < maxNumOfLink)) : let reported : Shared :=
      { shared with cm := Function.update shared.cm addr .up }
    let after := reported.recordLinkStateFromCm addr .connected
    after.Matched ∧ after.cm = Function.update shared.cm addr .up ∧
      after.removals = shared.removals := by
  intro reported after
  have entry := matched.entry addr
  rcases allowed with adding | ⟨down, room⟩
  · rw [adding] at entry
    obtain ⟨manager, located, state⟩ := map_eq_some_iff.mp entry
    have same : after = reported.setActual addr .connected := by
      change reported.recordLinkStateFromCm addr .connected = _
      unfold recordLinkStateFromCm
      rw [show reported.findLinkManager addr = some manager from located]
    rw [same]
    refine ⟨matched.change addr .up ?_ rfl ?_ ?_, rfl, rfl⟩
    · rw [single_setActual]
      exact matched.single
    · rw [actual_setActual]
      change (shared.actual addr).map _ = _
      rw [entry]
      rfl
    · intro other differs
      rw [actual_setActual_ne _ differs]
      rfl
  · rw [down] at entry
    have absent : reported.findLinkManager addr = none :=
      absent_of_actual entry
    obtain ⟨fresh, allocated⟩ : ∃ fresh, reported.alloc addr .connected =
        some fresh := ⟨_, if_pos room⟩
    have same : after = fresh := by
      change reported.recordLinkStateFromCm addr .connected = _
      unfold recordLinkStateFromCm
      rw [absent]
      rw [allocated]
      rfl
    rw [same]
    have unseen : reported.actual addr = none := entry
    obtain ⟨unique, sameCm, sameRemovals, own, others⟩ :=
      alloc_some unseen matched.single allocated
    exact ⟨matched.change addr .up unique sameCm own others, sameCm,
      sameRemovals⟩

theorem Matched.record_disconnected (addr : Addr) : let reported : Shared :=
      { shared with cm := Function.update shared.cm addr .down }
    let after := reported.recordLinkStateFromCm addr .disconnected
    after.Matched ∧ after.cm = Function.update shared.cm addr .down ∧
      after.removals = shared.removals := by
  intro reported after
  cases located : shared.findLinkManager addr with
  | none =>
    have same : after = reported := by
      change reported.recordLinkStateFromCm addr .disconnected = _
      unfold recordLinkStateFromCm
      rw [show reported.findLinkManager addr = none from located]
    rw [same]
    refine ⟨matched.change addr .down matched.single rfl ?_ ?_, rfl, rfl⟩
    · change (shared.findLinkManager addr).map _ = _
      rw [located]
      rfl
    · exact fun _ _ => rfl
  | some manager =>
    have same : after = reported.free addr := by
      change reported.recordLinkStateFromCm addr .disconnected = _
      unfold recordLinkStateFromCm
      rw [show reported.findLinkManager addr = some manager from located]
    rw [same]
    have gone : lookup LinkManager.addr addr
        (reported.free addr).linkState = none :=
      lookup_remove_self matched.single
    refine ⟨matched.change addr .down ?_ rfl ?_ ?_, rfl, rfl⟩
    · exact matched.single.sublist (remove_sublist.map _)
    · unfold actual findLinkManager
      rw [gone]
      rfl
    · intro other differs
      have kept : lookup LinkManager.addr other (reported.free addr).linkState =
            lookup LinkManager.addr other shared.linkState :=
        lookup_remove_ne differs
      unfold actual findLinkManager
      rw [kept]

end Shared

inductive Shared.Moves (shared : Shared) (addr : Addr) (others : List App)
    (after : Shared) : Prop where
  | stays (matched : after.Matched) (cm : after.cm = shared.cm)
      (removals : after.removals = shared.removals)
  | adds (matched : after.Matched) (down : shared.cm addr = .down)
      (cm : after.cm = Function.update shared.cm addr .adding)
      (removals : after.removals = shared.removals)
  | removes (matched : after.Matched) (up : shared.cm addr = .up)
      (cm : after.cm = Function.update shared.cm addr .removing)
      (removals : after.removals = shared.removals ++ [(addr, others)])
      (unused : ∀ other ∈ others, other.addr = addr → ¬ other.Using)

structure App.Moved (shared : Shared) (app : App) (others : List App)
    (outcome : Shared × App) : Prop where
  moves : shared.Moves app.addr others outcome.1
  fits : App.Fits (outcome.1.cm app.addr) outcome.2
  addr : outcome.2.addr = app.addr

namespace App

variable {shared : Shared} {app teller : App} {others : List App}
  {reason why : UInt8} {state : LinkState} {connFail : Bool}

theorem disconnectCmLinkCheck_iff :
    app.disconnectCmLinkCheck others = true ↔
      ∀ other ∈ others, other.addr = app.addr → ¬ other.Using := by
  unfold disconnectCmLinkCheck Using
  simp only [List.all_eq_true]
  refine forall₂_congr fun other _ => ?_
  by_cases same : other.addr = app.addr <;> simp [same]

theorem Moved.stays (matched : shared.Matched) {after : App}
    (fits : Fits (shared.cm app.addr) after) (addr : after.addr = app.addr) :
    Moved shared app others (shared, after) :=
  ⟨.stays matched rfl rfl, fits, addr⟩

theorem Moved.notify (matched : shared.Matched) {after : App}
    (fits : Fits (shared.cm app.addr) after) (addr : after.addr = app.addr) :
    Moved shared app others (shared.notify teller state connFail why, after) :=
  ⟨.stays ⟨matched.single, matched.entry⟩ rfl rfl, fits, addr⟩

theorem Moved.of_notify {outcome : Shared × App}
    (moved : Moved (shared.notify teller state connFail why) app others
      outcome) :
    Moved shared app others outcome := by
  obtain ⟨moves, fits, addr⟩ := moved
  refine ⟨?_, fits, addr⟩
  cases moves with
  | stays matched cm removals => exact .stays matched cm removals
  | adds matched down cm removals => exact .adds matched down cm removals
  | removes matched up cm removals unused =>
    exact .removes matched up cm removals unused

section

variable (matched : shared.Matched)
include matched

theorem userConnectInIdleState_moved (resting : app.Resting) (wants :
      app.Wants) :
    Moved shared app others (app.userConnectInIdleState shared reason) := by
  unfold userConnectInIdleState
  dsimp only
  rcases matched.userConnect_cases app.addr with ⟨_, tried⟩ |
    ⟨down, after, tried, afterMatched, cm, removals⟩ | ⟨state, entry, tried⟩
  all_goals rw [tried]
  · exact .notify matched (.resting (.inr rfl) rfl (by simp [Wants])) rfl
  · refine ⟨.adds afterMatched down cm removals, ?_, rfl⟩
    rw [cm, update_self]
    exact .connecting rfl rfl wants
  · cases now : shared.cm app.addr with
    | down =>
      rw [now] at entry
      cases entry
    | adding =>
      rw [now] at entry
      obtain rfl := some.inj entry
      exact .stays matched (now ▸ .connecting rfl rfl wants) rfl
    | up =>
      rw [now] at entry
      obtain rfl := some.inj entry
      exact .notify matched (now ▸ .connected rfl rfl wants) rfl
    | removing =>
      rw [now] at entry
      obtain rfl := some.inj entry
      exact .stays matched (now ▸ .waiting (.inl resting) rfl wants) rfl

theorem userDisconnectInConnectedState_moved (up : shared.cm app.addr = .up)
    (asked : app.lastRequest = some .disconnect) : Moved shared app others
      (app.userDisconnectInConnectedState shared others reason) := by
  have gone : ¬ app.Wants := not_wants_of_disconnect asked
  unfold userDisconnectInConnectedState
  dsimp only
  split
  next checked =>
    obtain ⟨after, tried, afterMatched, cm, removals⟩ :=
      matched.userDisconnect_up up others
    rw [tried]
    refine ⟨.removes afterMatched up cm removals
      (disconnectCmLinkCheck_iff.mp checked), ?_, rfl⟩
    rw [cm, update_self]
    exact .disconnecting rfl rfl asked
  · exact .notify matched (.resting (.inr rfl) rfl gone) rfl

theorem userCall_connect (fits : Fits (shared.cm app.addr) app) :
    Moved shared app others (userCall .connect shared
      { app with lastRequest := some .connect, dropped := false } others
      reason) := by
  obtain ⟨asked, same⟩ : ∃ asked : App, asked =
      { app with lastRequest := some .connect, dropped := false } := ⟨_, rfl⟩
  have wants : asked.Wants := by
    rw [same]
    exact ⟨rfl, rfl⟩
  have home : asked.addr = app.addr := by rw [same]
  have state : asked.linkState = app.linkState := by rw [same]
  have tries : app.Resting → Moved shared app others
      (asked.userConnectInIdleState shared reason) := by
    intro resting
    have moved := @userConnectInIdleState_moved shared asked others reason
      matched (by unfold Resting; rw [state]; exact resting) wants
    exact ⟨home ▸ moved.moves, home ▸ moved.fits, moved.addr.trans home⟩
  rw [← same]
  generalize now : shared.cm app.addr = cm at fits
  unfold userCall
  rw [state]
  cases fits with
  | resting resting empty content =>
    rcases resting with idle | gone
    · rw [idle]
      exact tries (.inl idle)
    · rw [gone]
      exact tries (.inr gone)
  | connecting connecting empty had | leaving connecting cached had =>
    rw [connecting]
    exact .stays matched (now ▸ .connecting rfl rfl wants) home
  | connected connected empty had =>
    rw [connected]
    refine .notify matched ?_ home
    rw [now]
    exact .connected (state.trans connected) (by rw [same]; exact empty)
      wants
  | disconnecting disconnecting empty had =>
    rw [disconnecting]
    exact .stays matched (now ▸ .waiting (.inr rfl) rfl wants) home
  | waiting waits cached had =>
    rcases waits with (idle | gone) | disconnecting
    · rw [idle]
      exact tries (.inl idle)
    · rw [gone]
      exact tries (.inr gone)
    · rw [disconnecting]
      exact .stays matched (now ▸ .waiting (.inr rfl) rfl wants) home

theorem userCall_disconnect (fits : Fits (shared.cm app.addr) app)
    (orderly : app.Resting → app.nextOperator = none) :
    Moved shared app others (userCall .disconnect shared
      { app with lastRequest := some .disconnect, dropped := false } others
      reason) := by
  obtain ⟨asked, same⟩ : ∃ asked : App, asked =
      { app with lastRequest := some .disconnect, dropped := false } :=
    ⟨_, rfl⟩
  have request : asked.lastRequest = some .disconnect := by rw [same]
  have content : ¬ asked.Wants := not_wants_of_disconnect request
  have home : asked.addr = app.addr := by rw [same]
  have state : asked.linkState = app.linkState := by rw [same]
  have cache : asked.nextOperator = app.nextOperator := by rw [same]
  have rests : app.Resting → app.nextOperator = none → Moved shared app others
        (shared.notify asked .disconnected false reason, asked) := by
    intro resting empty
    refine .notify matched (.resting ?_ (cache.trans empty) content) home
    unfold Resting
    rw [state]
    exact resting
  rw [← same]
  generalize now : shared.cm app.addr = cm at fits
  unfold userCall
  rw [state]
  cases fits with
  | resting resting empty had =>
    rcases resting with idle | gone
    · rw [idle]
      exact rests (.inl idle) empty
    · rw [gone]
      exact rests (.inr gone) empty
  | connecting connecting empty had | leaving connecting cached had =>
    rw [connecting]
    exact .stays matched (now ▸ .leaving rfl rfl request) home
  | connected connected empty had =>
    rw [connected]
    have moved := @userDisconnectInConnectedState_moved shared asked others
      reason matched (home.symm ▸ now) request
    exact ⟨home ▸ moved.moves, home ▸ moved.fits, moved.addr.trans home⟩
  | disconnecting disconnecting empty had =>
    rw [disconnecting]
    exact .stays matched (now ▸ .disconnecting rfl rfl request) home
  | waiting waits cached had =>
    rcases waits with resting | disconnecting
    · have empty := orderly resting
      rw [cached] at empty
      cases empty
    · rw [disconnecting]
      exact .stays matched (now ▸ .disconnecting rfl rfl request) home

end

theorem Moved.resumed {told : Shared} {after : App}
    (empty : after.nextOperator = none)
    (moved : Moved shared app others (told, after)) :
    Moved shared app others (after.resume told others reason) := by
  unfold resume
  rw [empty]
  exact moved

section

variable (matched : shared.Matched)
include matched

theorem resume_connect (resting : app.Resting)
    (cached : app.nextOperator = some .connect) (wants : app.Wants) :
    Moved shared app others (app.resume shared others reason) := by
  have moved := @userConnectInIdleState_moved shared
    { app with nextOperator := none } others reason matched resting wants
  have called : app.resume shared others reason =
      userConnectInIdleState shared { app with nextOperator := none }
        reason := by
    unfold resume
    rw [cached]
    unfold userCall
    rcases resting with idle | gone
    · simp only [idle]
    · simp only [gone]
  rw [called]
  exact { moved with }

theorem linkCall_connected (fits : Fits .adding app)
    (now : shared.cm app.addr = .up ∨ ¬ app.Using) :
    Moved shared app others (app.linkCall .connected shared others reason) := by
  have ready : app.linkState = .connecting → shared.cm app.addr = .up :=
    fun connecting => now.resolve_right (not_not.mpr (.inr connecting))
  unfold linkCall
  cases fits with
  | resting resting empty content =>
    have stays := @Moved.stays shared app others matched app
      (.resting resting empty content) rfl
    rcases resting with idle | gone
    · simp only [idle, empty, if_true]
      exact stays
    · simp only [gone]
      exact stays.resumed empty
  | connecting connecting empty wants =>
    simp only [connecting]
    exact .resumed empty (.notify matched
      (ready connecting ▸ .connected rfl empty wants) rfl)
  | leaving connecting cached asked =>
    simp only [connecting]
    rw [cached]
    have moved := @userDisconnectInConnectedState_moved
      (shared.notify app .connected false reason)
      { app with linkState := .connected, nextOperator := none } others
      reason ⟨matched.single, matched.entry⟩ (ready connecting) asked
    apply Moved.of_notify
    exact { moved with }

theorem linkCall_disconnected {before : CmState} (fits : Fits before app) :
    Moved shared app others
      (app.linkCall .disconnected shared others reason) := by
  unfold linkCall
  cases fits with
  | resting resting empty content =>
    have stays := @Moved.stays shared app others matched app
      (.resting resting empty content) rfl
    rcases resting with idle | gone
    · simp only [idle]
      exact stays.resumed empty
    · simp only [gone]
      exact stays.resumed empty
  | connecting connecting empty wants =>
    simp only [connecting]
    exact .resumed empty (.notify matched
      (.resting (.inr rfl) empty (by simp [Wants])) rfl)
  | leaving connecting cached asked =>
    simp only [connecting]
    rw [cached]
    have told : (shared.notify app .disconnected false reason).Matched :=
      ⟨matched.single, matched.entry⟩
    refine .of_notify (.notify told ?_ rfl)
    exact .resting (.inr rfl) rfl (not_wants_of_disconnect asked)
  | connected connected empty wants =>
    simp only [connected]
    exact .resumed empty (.notify matched
      (.resting (.inr rfl) empty (by simp [Wants])) rfl)
  | disconnecting disconnecting empty asked =>
    simp only [disconnecting]
    exact .resumed empty (.notify matched
      (.resting (.inr rfl) empty (not_wants_of_disconnect asked)) rfl)
  | waiting waits cached wants =>
    rcases waits with resting | disconnecting
    · have moved := @resume_connect shared app others reason matched resting
        cached wants
      rcases resting with idle | gone
      · simp only [idle]
        exact moved
      · simp only [gone]
        exact moved
    · simp only [disconnecting]
      have moved := @resume_connect (shared.notify app .disconnected false 0)
        { app with linkState := .disconnected } others reason
        ⟨matched.single, matched.entry⟩ (.inr rfl) cached wants
      apply Moved.of_notify
      exact { moved with }

end

end App

namespace Host

structure Kept (host : Host) : Prop where
  matched : host.shared.Matched
  fits : ∀ app ∈ host.apps, App.Fits (host.shared.cm app.addr) app
  spared : host.shared.Spared

section Moves

variable {shared after : Shared} {addr : Addr} {others : List App} {other : App}

theorem matched_of_moves (moves : shared.Moves addr others after) :
    after.Matched := by
  cases moves with
  | stays matched cm removals | adds matched down cm removals
  | removes matched up cm removals unused => exact matched

theorem fits_of_moves (moves : shared.Moves addr others after)
    (member : other ∈ others) (fits : App.Fits (shared.cm other.addr) other) :
    App.Fits (after.cm other.addr) other := by
  cases moves with
  | stays matched cm removals =>
    rw [cm]
    exact fits
  | adds matched down cm removals =>
    rw [cm]
    by_cases same : other.addr = addr
    · rw [same, down] at fits
      exact fits.of_down
    · rw [update_of_ne same]
      exact fits
  | removes matched up cm removals unused =>
    rw [cm]
    by_cases same : other.addr = addr
    · rw [same, up] at fits
      obtain ⟨resting, empty, content⟩ :=
        fits.rests (unused other member same) (by simp)
      exact .resting resting empty content
    · rw [update_of_ne same]
      exact fits

theorem spared_of_eq (same : after.removals = shared.removals)
    (spared : shared.Spared) : after.Spared := by
  unfold Shared.Spared
  rw [same]
  exact spared

theorem spared_of_moves (moves : shared.Moves addr others after)
    (present : ∀ other ∈ others, other.addr = addr → shared.cm addr = .up →
      ∃ cm, cm ≠ .removing ∧ App.Fits cm other)
    (spared : shared.Spared) : after.Spared := by
  cases moves with
  | stays matched cm removals | adds matched down cm removals =>
    exact spared_of_eq removals spared
  | removes matched up cm removals unused =>
    intro removal member
    rw [removals] at member
    rcases List.mem_append.mp member with old | new
    · exact spared removal old
    · obtain rfl := List.mem_singleton.mp new
      intro other among same
      obtain ⟨cm, there, fits⟩ := present other among same up
      exact (fits.rests (unused other among same) there).2.2

end Moves

theorem mem_set_cases {apps : List App} {appId : Nat} {app other : App}
    (member : other ∈ apps.set appId app) :
    other ∈ apps.eraseIdx appId ∨ other = app := by
  obtain ⟨index, found⟩ := List.mem_iff_getElem?.mp member
  rw [List.getElem?_set] at found
  split at found
  · split at found
    · exact .inr (some.inj found).symm
    · cases found
  next differs =>
    exact .inl
      (List.mem_eraseIdx_iff_getElem?.mpr ⟨index, Ne.symm differs, found⟩)

variable {host : Host} {addr : Addr} {reason : UInt8}

theorem Kept.request (kept : host.Kept) (operator : Operator) (appId : Nat)
    (moved : ∀ app, host.apps[appId]? = some app →
      App.Moved host.shared app (host.apps.eraseIdx appId)
        (App.userCall operator host.shared
          { app with lastRequest := some operator, dropped := false }
          (host.apps.eraseIdx appId) 0)) :
    (host.request operator appId).Kept := by
  unfold Host.request
  cases located : host.apps[appId]? with
  | none => exact kept
  | some app =>
    have outcome := moved app located
    have among : ∀ other ∈ host.apps.eraseIdx appId, other ∈ host.apps :=
      fun other member => List.mem_of_mem_eraseIdx member
    refine ⟨matched_of_moves outcome.moves, ?_, ?_⟩
    · intro other member
      rcases mem_set_cases member with old | rfl
      · exact fits_of_moves outcome.moves old
          (kept.fits other (among other old))
      · rw [outcome.addr]
        exact outcome.fits
    · refine spared_of_moves outcome.moves ?_ kept.spared
      intro other member same up
      have fits := kept.fits other (among other member)
      rw [same, up] at fits
      exact ⟨.up, by simp, fits⟩

/-- `Due` is what holds of an application with the address that is still to be
told. -/
theorem kept_trigger {change : LinkChange} (Due : Shared → App → Prop)
    (turn : ∀ {shared app others}, shared.Matched → app.addr = addr →
      Due shared app →
      App.Moved shared app others (app.linkCall change shared others reason))
    (stays : ∀ {shared after others other}, shared.Moves addr others after →
      other ∈ others → other.addr = addr → Due shared other → Due after other)
    (present : ∀ {shared other}, shared.cm addr = .up → Due shared other →
      ∃ cm, cm ≠ .removing ∧ App.Fits cm other)
    {shared : Shared} {done rest : List App} (matched : shared.Matched)
    (doneFits : ∀ app ∈ done, App.Fits (shared.cm app.addr) app)
    (restFits : ∀ app ∈ rest, app.addr ≠ addr →
      App.Fits (shared.cm app.addr) app)
    (restDue : ∀ app ∈ rest, app.addr = addr → Due shared app)
    (spared : shared.Spared) :
    (trigger change addr reason shared done rest).Kept := by
  induction rest generalizing shared done with
  | nil => exact ⟨matched, doneFits, spared⟩
  | cons app rest induction =>
    unfold trigger
    split
    next same =>
      obtain ⟨moves, fits, home⟩ := @turn shared app (done ++ rest) matched
        same (restDue app (by simp) same)
      refine induction (matched_of_moves moves) ?_ ?_ ?_ ?_
      · intro other member
        rcases List.mem_append.mp member with old | new
        · exact fits_of_moves moves (List.mem_append_left _ old)
            (doneFits other old)
        · obtain rfl := List.mem_singleton.mp new
          rw [home]
          exact fits
      · intro other member differs
        exact fits_of_moves moves (List.mem_append_right _ member)
          (restFits other (.tail _ member) differs)
      · intro other member named
        exact stays (same ▸ moves) (List.mem_append_right _ member) named
          (restDue other (.tail _ member) named)
      · refine spared_of_moves moves ?_ spared
        intro other member named up
        rw [same] at named up
        rcases List.mem_append.mp member with old | new
        · have otherFits := doneFits other old
          rw [named, up] at otherFits
          exact ⟨.up, by simp, otherFits⟩
        · exact present up (restDue other (.tail _ new) named)
    next differs =>
      refine induction matched ?_ ?_ ?_ spared
      · refine List.forall_mem_append.mpr ⟨doneFits, fun other new => ?_⟩
        obtain rfl := List.mem_singleton.mp new
        exact restFits _ (by simp) differs
      · exact fun other member => restFits other (.tail _ member)
      · exact fun other member => restDue other (.tail _ member)

theorem Kept.connected (kept : host.Kept) (reason : UInt8)
    (allowed : host.shared.cm addr = .adding ∨ (host.shared.cm addr = .down ∧
        host.shared.linkState.length < maxNumOfLink)) :
    (host.report .connected addr reason).Kept := by
  obtain ⟨matched, cm, removals⟩ := kept.matched.record_connected allowed
  refine kept_trigger (fun shared app => shared.cm addr ≠ .down ∧
    App.Fits .adding app ∧ (shared.cm addr = .up ∨ ¬ app.Using))
    ?_ ?_ ?_ matched (by simp) ?_ ?_ (spared_of_eq removals kept.spared)
  · rintro shared app others fitting rfl ⟨_, waits, ready⟩
    exact App.linkCall_connected fitting waits ready
  · rintro shared after others other moves member named ⟨present, waits, ready⟩
    cases moves with
    | stays _ cm _ => exact ⟨cm ▸ present, waits, cm ▸ ready⟩
    | adds _ down _ _ => exact absurd down present
    | removes _ _ cm _ unused =>
      refine ⟨?_, waits, .inr (unused other member named)⟩
      rw [cm, update_self]
      simp
  · exact fun _ due => ⟨.adding, by simp, due.2.1⟩
  · intro app member differs
    rw [cm, update_of_ne differs]
    exact kept.fits app member
  · intro app member same
    have fits := kept.fits app member
    rw [same] at fits
    rw [cm, update_self]
    refine ⟨by simp, ?_, .inl rfl⟩
    rcases allowed with adding | ⟨down, _⟩
    · rwa [adding] at fits
    · rw [down] at fits
      exact fits.of_down

theorem Kept.disconnected (kept : host.Kept) (addr : Addr) (reason : UInt8) :
    (host.report .disconnected addr reason).Kept := by
  obtain ⟨matched, cm, removals⟩ := kept.matched.record_disconnected addr
  refine kept_trigger (fun shared app => shared.cm addr ≠ .up ∧
    App.Fits (host.shared.cm addr) app)
    ?_ ?_ ?_ matched (by simp) ?_ ?_ (spared_of_eq removals kept.spared)
  · exact fun matched _ due => App.linkCall_disconnected matched due.2
  · rintro shared after others other moves _ _ ⟨now, had⟩
    refine ⟨?_, had⟩
    cases moves with
    | stays _ cm _ => rwa [cm]
    | adds _ _ cm _ =>
      rw [cm, update_self]
      simp
    | removes _ up _ _ _ => exact absurd up now
  · exact fun up due => absurd up due.1
  · intro app member differs
    rw [cm, update_of_ne differs]
    exact kept.fits app member
  · intro app member same
    have fits := kept.fits app member
    rw [same] at fits
    rw [cm, update_self]
    exact ⟨by simp, fits⟩

theorem Kept.next (kept : host.Kept) (event : LinkEvent)
    (consistent : host.Consistent event) (orderly : host.Orderly event) :
    (host.next event).Kept := by
  have fits : ∀ appId app, host.apps[appId]? = some app →
      App.Fits (host.shared.cm app.addr) app :=
    fun appId app located => kept.fits app (List.mem_of_getElem? located)
  cases event with
  | connect appId =>
    exact kept.request .connect appId fun app located =>
      App.userCall_connect kept.matched (fits appId app located)
  | disconnect appId =>
    exact kept.request .disconnect appId fun app located =>
      App.userCall_disconnect kept.matched (fits appId app located)
        (orderly app located)
  | connected addr reason => exact kept.connected reason consistent
  | disconnected addr reason => exact kept.disconnected addr reason

theorem Kept.init (addrs : List Addr) : (init addrs).Kept where
  matched := ⟨by simp [Host.init], fun _ => rfl⟩
  fits := by
    exact List.forall_mem_map.mpr fun _ _ =>
      .resting (.inl rfl) rfl (by simp [App.Wants])
  spared := by simp [Shared.Spared, Host.init]

theorem Kept.honours (kept : host.Kept) : host.Honours where
  follows := by
    intro app member
    have fits := kept.fits app member
    unfold Follows
    generalize host.shared.cm app.addr = cm at fits
    cases fits with
    | resting resting empty content =>
      refine ⟨fun _ wants => absurd wants content, fun _ _ => ?_⟩
      have unused := resting.not_using
      exact ⟨fun connected => unused (.inl connected),
        fun connecting => unused (.inr connecting)⟩
    | connected state empty wants =>
      refine ⟨fun _ _ => state, fun _ asked => ?_⟩
      exact absurd wants (App.not_wants_of_disconnect asked)
    | _ => simp
  uncached := by
    intro app member
    have fits := kept.fits app member
    unfold Uncached
    generalize host.shared.cm app.addr = cm at fits
    cases fits with
    | resting resting empty content | connecting state empty wants =>
      simp [empty]
    | leaving state cached asked => simp [state, cached, App.Resting]
    | connected state empty wants | disconnecting state empty asked =>
      simp [empty]
    | waiting state cached wants =>
      rcases state with (idle | gone) | disconnecting
      · simp [idle, cached]
      · simp [gone, cached]
      · simp [disconnecting, cached]
  spared := kept.spared
  single := kept.matched.single

/-- Applications get what they asked for last, unless it could not be made or
was lost, in every run in which no application takes back a connection that
waits for the end of the last one. -/
theorem honours_of_orderly (addrs : List Addr) (events : List LinkEvent)
    (consistent : Meets Host.next Consistent (init addrs) events)
    (orderly : Meets Host.next Orderly (init addrs) events) :
    Always Host.next Honours (init addrs) events := by
  have both : Meets Host.next (fun host event =>
      host.Consistent event ∧ host.Orderly event) (init addrs) events :=
    consistent.and orderly
  exact always_of_meets (fun host kept => kept.honours)
    (fun host event kept meets => kept.next event meets.1 meets.2)
    (Kept.init addrs) both

/-- Two applications share a link and give it up one after the other; the
first one asks for it again before it is gone. -/
theorem honours_again :
    Always Host.next Honours (init [⟨0, 1⟩, ⟨0, 1⟩])
      [.connect 0, .connect 1, .connected ⟨0, 1⟩ 0, .disconnect 0,
        .disconnect 1, .connect 0, .disconnected ⟨0, 1⟩ 0,
        .connected ⟨0, 1⟩ 0] := by
  apply honours_of_orderly
  · exact ⟨trivial, trivial, .inl rfl, trivial, trivial, trivial, by
      unfold Consistent; decide, .inl rfl, trivial⟩
  · refine ⟨trivial, trivial, trivial, ?_, ?_, trivial, trivial, trivial,
      trivial⟩
    all_goals
      intro app located resting
      obtain rfl := some.inj located
      rcases resting with idle | gone
      · cases idle
      · cases gone

/-- Applications follow their last request, whatever happened to the link
since, and nothing is cached where the state machine says so. -/
structure Obeys (host : Host) : Prop where
  follows : ∀ app ∈ host.apps,
    (host.shared.cm app.addr = .up → app.lastRequest = some .connect →
      app.linkState = .connected) ∧
    (host.shared.cm app.addr = .up ∨ host.shared.cm app.addr = .down →
      app.lastRequest = some .disconnect →
        app.linkState ≠ .connected ∧ app.linkState ≠ .connecting)
  uncached : ∀ app ∈ host.apps, host.Uncached app ∧
    (app.linkState = .idle → app.nextOperator = none)
  spared : ∀ removal ∈ host.shared.removals, ∀ other ∈ removal.2,
    other.addr = removal.1 → other.lastRequest ≠ some .connect
  single : (host.shared.linkState.map LinkManager.addr).Nodup

/-- The link of the first application is lost, and the second one makes a new
one. -/
theorem obeys_fails :
    ¬ ∀ (addrs : List Addr) (events : List LinkEvent),
      Meets Host.next Consistent (init addrs) events →
        Always Host.next Obeys (init addrs) events := by
  intro obeys
  obtain ⟨_, _, _, _, _, last⟩ := obeys [⟨0, 1⟩, ⟨0, 1⟩]
    [.connect 0, .connected ⟨0, 1⟩ 0, .disconnected ⟨0, 1⟩ 0, .connect 1,
      .connected ⟨0, 1⟩ 0]
    ⟨trivial, .inl rfl, by unfold Consistent; decide, trivial, .inl rfl,
      trivial⟩
  have connected := (last.follows _ List.mem_cons_self).1 rfl rfl
  cases connected

end Host

end NearLink.Ssap
