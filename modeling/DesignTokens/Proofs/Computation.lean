import Mathlib.Logic.Basic

/-!
# Computations that may fail

How a computation with a state that may fail runs when it is put together from
others, and what can be said of the state it leaves.
-/

namespace DesignTokens

variable {ε σ α β : Type}

namespace Fallible

/-! ## Runs -/

variable {x : ExceptT ε (StateM σ) α} {f : α → ExceptT ε (StateM σ) β} {s s' : σ}

theorem run_lift_bind (y : StateM σ β) (f : β → ExceptT ε (StateM σ) α) (s : σ) :
    ((liftM y : ExceptT ε (StateM σ) β) >>= f).run s = (f (y s).1).run (y s).2 := rfl

theorem run_bind_error {e : ε} (failed : x.run s = (.error e, s')) :
    (x >>= f).run s = (.error e, s') := by
  have unfolded : x s = (.error e, s') := failed
  show (x >>= f) s = _
  simp only [bind, ExceptT.bind, ExceptT.mk, StateT.bind, unfolded]
  rfl

theorem run_bind_ok {a : α} (first : x.run s = (.ok a, s')) :
    (x >>= f).run s = (f a).run s' := by
  have unfolded : x s = (.ok a, s') := first
  show (x >>= f) s = _
  simp only [bind, ExceptT.bind, ExceptT.mk, StateT.bind, unfolded]
  rfl

theorem run_bind_eq_ok {b : β} (done : (x >>= f).run s = (.ok b, s')) :
    ∃ a between, x.run s = (.ok a, between) ∧ (f a).run between = (.ok b, s') := by
  cases first : x.run s with
  | mk outcome between =>
    cases outcome with
    | error e =>
      rw [run_bind_error first] at done
      cases done
    | ok a =>
      rw [run_bind_ok first] at done
      exact ⟨a, between, rfl, done⟩

/-! ## Moves -/

/-- Whether a computation leaves each state for one that is related to it. -/
def Moves (R : σ → σ → Prop) (x : ExceptT ε (StateM σ) α) : Prop := ∀ s, R s (x.run s).2

/-- Whether a computation may give a result. -/
def Gives (x : ExceptT ε (StateM σ) α) (a : α) : Prop := ∃ s, (x.run s).1 = .ok a

variable {R : σ → σ → Prop}

theorem moves_of_still (refl : ∀ s, R s s) (still : ∀ s, (x.run s).2 = s) : Moves R x := by
  intro s
  rw [still]
  exact refl s

theorem Moves.bind (trans : ∀ {s s' s''}, R s s' → R s' s'' → R s s'') (first : Moves R x)
    (second : ∀ a, Gives x a → Moves R (f a)) : Moves R (x >>= f) := by
  intro s
  cases run : x.run s with
  | mk outcome between =>
    have moved := first s
    rw [run] at moved
    cases outcome with
    | error e =>
      rw [run_bind_error run]
      exact moved
    | ok a =>
      rw [run_bind_ok run]
      exact trans moved (second a ⟨s, by rw [run]⟩ between)

end Fallible

end DesignTokens
