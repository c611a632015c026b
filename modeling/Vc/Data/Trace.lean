import Mathlib

/-!
# Properties along a trace

A step function applied to a list of events passes through one state per prefix
of the list.  `Throughout` says that a property holds in all of these states,
`EveryStep` that a condition holds wherever an event is applied.
-/

namespace Vc.Trace

variable {σ ε : Type}

/-- The property holds in the first state and after every event. -/
def Throughout (step : σ → ε → σ) (property : σ → Prop) : σ → List ε → Prop
  | state, [] => property state
  | state, event :: rest => property state ∧ Throughout step property (step state event) rest

/-- The condition holds of every event in the state that it is applied to. -/
def EveryStep (step : σ → ε → σ) (condition : σ → ε → Prop) : σ → List ε → Prop
  | _, [] => True
  | state, event :: rest =>
    condition state event ∧ EveryStep step condition (step state event) rest

instance decidableEveryStep (step : σ → ε → σ) (condition : σ → ε → Prop)
    [∀ state event, Decidable (condition state event)] (state : σ) (events : List ε) :
    Decidable (EveryStep step condition state events) :=
  match events with
  | [] => .isTrue trivial
  | event :: rest =>
    let _ := decidableEveryStep step condition (step state event) rest
    inferInstanceAs (Decidable (_ ∧ _))

variable {step : σ → ε → σ} {property side : σ → Prop} {condition : σ → ε → Prop} {events : List ε}

theorem Throughout.head {state : σ}
    (throughout : Throughout step property state events) : property state := by
  cases events with
  | nil => exact throughout
  | cons event rest => exact throughout.1

variable {start : σ}

/-- When one event keeps the property exactly under the condition, a whole trace
does so exactly when every step meets the condition.  `side` is what is known of
all the states anyway. -/
theorem throughout_iff_everyStep
    (keeps : ∀ state event, side state → side (step state event) → property state →
      (property (step state event) ↔ condition state event))
    (holds : property start)
    (known : Throughout step side start events) :
    Throughout step property start events ↔ EveryStep step condition start events := by
  induction events generalizing start with
  | nil => exact iff_of_true holds trivial
  | cons event rest ih =>
    have step := keeps start event known.1 known.2.head holds
    constructor
    · rintro ⟨_, later⟩
      have next := later.head
      exact ⟨step.mp next, (ih next known.2).mp later⟩
    · rintro ⟨here, later⟩
      have next := step.mpr here
      exact ⟨holds, (ih next known.2).mpr later⟩

/-- An invariant that one event keeps under the condition holds throughout a trace whose steps all
meet it. -/
theorem throughout_of_everyStep
    (keeps : ∀ state event, property state → condition state event → property (step state event))
    (holds : property start)
    (meets : EveryStep step condition start events) : Throughout step property start events := by
  induction events generalizing start with
  | nil => exact holds
  | cons event rest ih =>
    exact ⟨holds, ih (keeps _ _ holds meets.1) meets.2⟩

theorem Throughout.mono {weaker : σ → Prop} (implies : ∀ state, property state → weaker state)
    (throughout : Throughout step property start events) :
    Throughout step weaker start events := by
  induction events generalizing start with
  | nil => exact implies _ throughout
  | cons event rest ih =>
    exact ⟨implies _ throughout.1, ih throughout.2⟩

end Vc.Trace
