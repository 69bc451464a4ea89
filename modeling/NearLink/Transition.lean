import Mathlib.Algebra.Order.Ring.Nat
import Mathlib.Data.List.Basic

/-!
# Runs of event-driven machines

A machine is a total step function on a state and an event.  Failures of the
environment are part of the event or of a fixed oracle, so a run is a fold
over the list of events.  The rules below reduce a statement about every state
of every run to a statement about one step.
-/

namespace NearLink.Transition

open List

variable {State Event : Type*}

def run (step : State → Event → State) (start : State) (events : List Event) : State :=
  events.foldl step start

/-- A property holds in every state visited by a run, both ends included. -/
def Always (step : State → Event → State) (property : State → Prop) :
    State → List Event → Prop
  | state, [] => property state
  | state, event :: events =>
    property state ∧ Always step property (step state event) events

def Meets (step : State → Event → State) (condition : State → Event → Prop) :
    State → List Event → Prop
  | _, [] => True
  | state, event :: events =>
    condition state event ∧ Meets step condition (step state event) events

variable {step : State → Event → State}

@[simp] theorem run_cons (start : State) (event : Event) (events : List Event) :
    run step start (event :: events) = run step (step start event) events :=
  rfl

theorem run_append (start : State) (first second : List Event) :
    run step start (first ++ second) =
      run step (run step start first) second := by
  simp [run, foldl_append]

variable {events : List Event} {start : State}

theorem meets_of_forall {condition : Event → Prop}
    (all : ∀ event ∈ events, condition event) :
    Meets step (fun _ event => condition event) start events := by
  induction events generalizing start with
  | nil => trivial
  | cons event events induction =>
    exact ⟨all event (by simp), induction fun later member =>
      all later (.tail _ member)⟩

variable {condition second first : State → Event → Prop}
  {invariant : State → Prop} {α : Type*}

theorem Meets.mem {all : List Event} (among : ∀ event ∈ events, event ∈ all)
    (meets : Meets step condition start events) :
    Meets step (fun state event => condition state event ∧ event ∈ all) start
      events := by
  induction events generalizing start with
  | nil => trivial
  | cons event events induction =>
    exact ⟨⟨meets.1, among event (by simp)⟩,
      induction (fun later member =>
        among later (.tail _ member)) meets.2⟩

theorem Meets.and (left : Meets step first start events)
    (right : Meets step second start events) :
    Meets step (fun state event => first state event ∧ second state event)
      start events := by
  induction events generalizing start with
  | nil => trivial
  | cons event events induction =>
    exact ⟨⟨left.1, right.1⟩, induction left.2 right.2⟩

theorem Meets.at_step {before after : List Event} {event : Event}
    (meets : Meets step condition start (before ++ event :: after)) :
    condition (run step start before) event := by
  induction before generalizing start with
  | nil => exact meets.1
  | cons first before induction => exact induction meets.2

theorem Meets.imp {conclusion : State → Event → Prop}
    (preserved : ∀ state event, invariant state → condition state event →
      invariant (step state event))
    (follows : ∀ state event, invariant state → condition state event →
      conclusion state event) (initial : invariant start)
    (meets : Meets step condition start events) :
    Meets step conclusion start events := by
  induction events generalizing start with
  | nil => trivial
  | cons event events induction =>
    exact ⟨follows start event initial meets.1,
      induction (preserved start event initial meets.1) meets.2⟩

/-- Two conditions that agree where an invariant holds are met by the same
runs. -/
theorem meets_congr
    (preserved : ∀ state event, invariant state → invariant (step state event))
    (agree : ∀ state event, invariant state →
      (first state event ↔ second state event)) (initial : invariant start)
    (events : List Event) :
    Meets step first start events ↔ Meets step second start events := by
  induction events generalizing start with
  | nil => exact Iff.rfl
  | cons event events induction =>
    exact and_congr (agree start event initial)
      (induction (preserved start event initial))

theorem run_extends {view : State → List α}
    (stepped : ∀ state event, view state <+: view (step state event))
    (start : State) (events : List Event) :
    view start <+: view (run step start events) := by
  induction events generalizing start with
  | nil => exact prefix_refl _
  | cons event events induction =>
    exact (stepped start event).trans (induction (step start event))

theorem run_invariant
    (preserved : ∀ state event, invariant state → condition state event →
      invariant (step state event)) (initial : invariant start)
    (meets : Meets step condition start events) :
    invariant (run step start events) := by
  induction events generalizing start with
  | nil => exact initial
  | cons event events induction =>
    exact induction (preserved start event initial meets.1) meets.2

theorem run_invariant_of_step
    (preserved : ∀ state event, invariant state → invariant (step state event))
    (initial : invariant start) (events : List Event) :
    invariant (run step start events) := by
  induction events generalizing start with
  | nil => exact initial
  | cons event events induction =>
    exact induction (preserved start event initial)

section

variable {invariant property : State → Prop}
  (sound : ∀ state, invariant state → property state) {start : State}
include sound

section

variable
  (preserved : ∀ state event, invariant state → condition state event →
    invariant (step state event))
include preserved

/-- When a condition on a step keeps an invariant, and its failure breaks a
property that the invariant implies, a run has the property throughout exactly
when all its steps meet the condition. -/
theorem always_iff_meets
    (necessary : ∀ state event, invariant state → property (step state event) →
      condition state event) (initial : invariant start) :
    Always step property start events ↔ Meets step condition start events := by
  induction events generalizing start with
  | nil => exact ⟨fun _ => trivial, fun _ => sound start initial⟩
  | cons event events induction =>
    constructor
    · rintro ⟨_, later⟩
      have reached : property (step start event) := by
        cases events with
        | nil => exact later
        | cons following events => exact later.1
      have met := necessary start event initial reached
      have next := preserved start event initial met
      exact ⟨met, (induction next).mp later⟩
    · rintro ⟨met, later⟩
      have next := preserved start event initial met
      exact ⟨sound start initial, (induction next).mpr later⟩

theorem always_of_meets (initial : invariant start)
    (meets : Meets step condition start events) :
    Always step property start events := by
  induction events generalizing start with
  | nil => exact sound start initial
  | cons event events induction =>
    have next := preserved start event initial meets.1
    exact ⟨sound start initial, induction next meets.2⟩

end

theorem always_of_step
    (preserved : ∀ state event, invariant state → invariant (step state event))
    (initial : invariant start) (events : List Event) :
    Always step property start events := by
  induction events generalizing start with
  | nil => exact sound start initial
  | cons event events induction =>
    exact ⟨sound start initial, induction (preserved start event initial)⟩

end

theorem Always.at_end {property : State → Prop}
    (always : Always step property start events) :
    property (run step start events) := by
  induction events generalizing start with
  | nil => exact always
  | cons event events induction => exact induction always.2

def Throughout {α : Type*} (fits : List α → α → Prop) (log : List α) : Prop :=
  ∀ before entry after, log = before ++ entry :: after → fits before entry

theorem throughout_nil (fits : List α → α → Prop) : Throughout fits [] := by
  intro before entry after split
  simp at split

theorem throughout_concat {fits : List α → α → Prop} {log : List α} {entry :
      α} :
    Throughout fits (log ++ [entry]) ↔
      Throughout fits log ∧ fits log entry := by
  constructor
  · intro throughout
    refine ⟨?_, throughout log entry [] rfl⟩
    rintro before earlier after rfl
    exact throughout before earlier (after ++ [entry]) (by simp)
  · rintro ⟨throughout, last⟩ before found after split
    rcases eq_nil_or_concat after with rfl | ⟨middle, final, rfl⟩
    · obtain ⟨rfl, rest⟩ := append_inj' split rfl
      cases rest
      exact last
    · have ends : log ++ [entry] = (before ++ found :: middle) ++ [final] := by
        simpa using split
      obtain ⟨rfl, _⟩ := append_inj' ends rfl
      exact throughout before found middle rfl

end NearLink.Transition
