import Mathlib

namespace Loop

variable {σ : Type*}

/-- Repeat `body` until it returns `none`, the exit of the loop, or the fuel is spent. -/
def iterate (body : σ → Option σ) : Nat → σ → σ
  | 0, state => state
  | fuel + 1, state =>
    match body state with
    | none => state
    | some next => iterate body fuel next

theorem iterate_of_exit {body : σ → Option σ} {state : σ} (exit : body state = none) (fuel : Nat) :
    iterate body fuel state = state := by
  cases fuel with
  | zero => rfl
  | succ fuel => simp only [iterate, exit]

/-- A loop whose body lowers a measure has left the loop once the fuel covers the measure. -/
theorem iterate_exits {body : σ → Option σ} (measure : σ → Nat)
    (lowers : ∀ state next, body state = some next → measure next < measure state) :
    ∀ (fuel : Nat) (state : σ), measure state ≤ fuel → body (iterate body fuel state) = none := by
  intro fuel
  induction fuel with
  | zero =>
    intro state enough
    cases round : body state with
    | none => exact round
    | some next =>
      have lower := lowers state next round
      omega
  | succ fuel ih =>
    intro state enough
    cases round : body state with
    | none => simp only [iterate, round]
    | some next =>
      simp only [iterate, round]
      have lower := lowers state next round
      exact ih next (by omega)

theorem iterate_invariant {body : σ → Option σ} (holds : σ → Prop)
    (preserved : ∀ state next, holds state → body state = some next → holds next) :
    ∀ (fuel : Nat) (state : σ), holds state → holds (iterate body fuel state) := by
  intro fuel
  induction fuel with
  | zero => intro state held; exact held
  | succ fuel ih =>
    intro state held
    cases round : body state with
    | none => simpa only [iterate, round] using held
    | some next =>
      simp only [iterate, round]
      exact ih next (preserved state next held round)

theorem iterate_of_le {body : σ → Option σ} :
    ∀ (fuel more : Nat) (state : σ), fuel ≤ more → body (iterate body fuel state) = none →
      iterate body more state = iterate body fuel state := by
  intro fuel
  induction fuel with
  | zero =>
    intro more state _ exit
    exact iterate_of_exit exit more
  | succ fuel ih =>
    intro more state enough exit
    cases more with
    | zero => omega
    | succ more =>
      cases round : body state with
      | none => simp only [iterate, round]
      | some next =>
        simp only [iterate, round] at exit ⊢
        exact ih more next (by omega) exit

end Loop
