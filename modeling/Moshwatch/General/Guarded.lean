import Mathlib

namespace Guarded

variable {σ ε : Type*} (step : σ → ε → σ) (allowed : σ → ε → Prop)

/-- Every step of the run is one that `allowed` admits in the state before it. -/
def EveryStep : σ → List ε → Prop
  | _, [] => True
  | state, event :: rest => allowed state event ∧ EveryStep (step state event) rest

variable {step allowed}

theorem foldl_preserved (holds : σ → Prop)
    (kept : ∀ state event, holds state → holds (step state event)) (events : List ε)
    {state : σ} (held : holds state) : holds (events.foldl step state) := by
  induction events generalizing state with
  | nil => exact held
  | cons event rest ih => exact ih (kept state event held)

theorem EveryStep.weaken (holds : σ → Prop) {weaker : σ → ε → Prop}
    (kept : ∀ state event, holds state → allowed state event → holds (step state event))
    (implied : ∀ state event, holds state → allowed state event → weaker state event) :
    ∀ (events : List ε) (state : σ), holds state → EveryStep step allowed state events →
      EveryStep step weaker state events := by
  intro events
  induction events with
  | nil => intros; trivial
  | cons event rest ih =>
    intro state held admitted
    exact ⟨implied state event held admitted.1,
      ih (step state event) (kept state event held admitted.1) admitted.2⟩

/-- A property that admitted steps keep, that any other step breaks and that is not regained
    holds after a run exactly when every step was admitted. -/
theorem foldl_iff_everyStep (holds good : σ → Prop)
    (kept : ∀ state event, holds state → holds (step state event))
    (keeps : ∀ state event, holds state → good state → allowed state event →
      good (step state event))
    (breaks : ∀ state event, holds state → ¬ allowed state event → ¬ good (step state event))
    (stays : ∀ state event, holds state → ¬ good state → ¬ good (step state event)) :
    ∀ (events : List ε) (state : σ), holds state → good state →
      (good (events.foldl step state) ↔ EveryStep step allowed state events) := by
  intro events
  induction events with
  | nil =>
    intro state _ fine
    exact iff_of_true fine trivial
  | cons event rest ih =>
    intro state held fine
    rw [List.foldl_cons, EveryStep]
    by_cases admitted : allowed state event
    · rw [ih (step state event) (kept state event held) (keeps state event held fine admitted)]
      exact (and_iff_right admitted).symm
    · refine iff_of_false ?_ fun every => admitted every.1
      have broken := foldl_preserved (fun state => holds state ∧ ¬ good state)
        (fun state event both => ⟨kept state event both.1, stays state event both.1 both.2⟩) rest
        ⟨kept state event held, breaks state event held admitted⟩
      exact broken.2

end Guarded
