/-!
# Taking a text apart at separators

`split` takes a list apart at every separator, `cut` at the first one only. Putting the pieces together again
with separators between them gives the list back.
-/

namespace SurveyGateway.Text

variable {α : Type} [BEq α]

/-- The pieces of `xs` between separators; there is always at least one. -/
def split (separator : α) : List α → List (List α)
  | [] => [[]]
  | x :: xs =>
    if x == separator then [] :: split separator xs
    else
      match split separator xs with
      | [] => [[x]]
      | piece :: pieces => (x :: piece) :: pieces

/-- What comes ahead of the first separator, and what comes behind it if there is one. -/
def cut (separator : α) : List α → List α × Option (List α)
  | [] => ([], none)
  | x :: xs =>
    if x == separator then ([], some xs)
    else
      let (ahead, behind) := cut separator xs
      (x :: ahead, behind)

theorem split_ne_nil (separator : α) (xs : List α) : split separator xs ≠ [] := by
  cases xs with
  | nil => simp [split]
  | cons x xs =>
    rw [split]
    split
    · simp
    · split <;> simp

/-- Nothing is lost when a list is split. -/
theorem intercalate_split [LawfulBEq α] (separator : α) (xs : List α) :
    List.intercalate [separator] (split separator xs) = xs := by
  induction xs with
  | nil => rfl
  | cons x xs ih =>
    simp only [List.intercalate] at ih ⊢
    obtain ⟨piece, pieces, hs⟩ := List.exists_cons_of_ne_nil (split_ne_nil separator xs)
    rw [hs] at ih
    rw [split, hs]
    by_cases h : x == separator
    · rw [if_pos h, eq_of_beq h, List.intersperse_cons_cons, List.flatten_cons, List.flatten_cons, ih]
      rfl
    · rw [if_neg h, ← ih]
      cases pieces <;> rfl

end SurveyGateway.Text
