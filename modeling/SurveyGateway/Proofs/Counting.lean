import Mathlib.Algebra.Group.Nat.Defs
import Mathlib.Data.List.Basic

/-!
# Counting along steps

Something goes from state to state, one step at a time. `countAlong` is how often a fact about the state and its next
step has been the case on the way. A number that each step raises by such a fact is raised by as much on the whole way
(`add_countAlong`).
-/

namespace SurveyGateway

variable {σ α : Type} (step : σ → α → σ)

/-- How often `P` has been the case of a state and its next step. -/
def countAlong (P : σ → α → Bool) (s : σ) : List α → ℕ
  | [] => 0
  | a :: as => (P s a).toNat + countAlong P (step s a) as

/-- A fact about the steps alone is counted in their list. -/
theorem countAlong_const (P : α → Bool) (s : σ) (as : List α) : countAlong step (fun _ => P) s as = as.countP P := by
  induction as generalizing s with
  | nil => rfl
  | cons a as ih =>
    rw [countAlong, ih, List.countP_cons, Nat.add_comm]
    cases P a <;> rfl

variable {step} {I : σ → Prop}

/-- What each step keeps is kept by all. -/
theorem foldl_keeps (hI : ∀ s a, I s → I (step s a)) {s : σ} (hs : I s) (as : List α) : I (as.foldl step s) := by
  induction as generalizing s with
  | nil => exact hs
  | cons a as ih => exact ih (hI s a hs)

/-- What each step adds to a number as long as `I` holds is what all of them add. -/
theorem add_countAlong (hI : ∀ s a, I s → I (step s a)) {n : σ → ℕ} {P : σ → α → Bool}
    (hn : ∀ s a, I s → n (step s a) = n s + (P s a).toNat) {s : σ} (hs : I s) (as : List α) :
    n (as.foldl step s) = n s + countAlong step P s as := by
  induction as generalizing s with
  | nil => rfl
  | cons a as ih =>
    have hrest : n (as.foldl step (step s a)) = n (step s a) + countAlong step P (step s a) as := ih (hI s a hs)
    rw [hn s a hs, Nat.add_assoc] at hrest
    exact hrest

end SurveyGateway
