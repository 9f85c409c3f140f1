import Mathlib.Data.List.Infix
import SurveyGateway.Text.Find
import SurveyGateway.Text.Split

/-!
# Where a sequence first occurs

`find?` gives the first position at which a needle occurs. It is found at once behind a list in which it cannot begin:
because the list does not hold its first element (`find?_append_of_notMem`), or because the list does not hold all of
it and its first element does not come again (`find?_append_of_not_infix`). In the second case an occurrence that
begins inside the list and ends behind it would put the first element inside the needle.

`split` and `cut` leave alone what holds no separator (`split_of_notMem`, `cut_of_notMem`), and take apart what is
behind one (`split_append`, `cut_append`), so pieces with separators between them are told apart
(`split_intercalate`).
-/

namespace SurveyGateway.Text

variable {α : Type} [BEq α]

/-! ### Finding -/

theorem findFrom_eq (needle : List α) (i : ℕ) (xs : List α) :
    findFrom needle i xs = (find? needle xs).map (i + ·) := by
  unfold find?
  induction xs generalizing i with
  | nil =>
    rw [findFrom, findFrom]
    split <;> rfl
  | cons x xs ih =>
    rw [findFrom, findFrom]
    split
    · rfl
    · rw [ih (i + 1), ih (0 + 1), Option.map_map]
      congr 1
      funext n
      simp only [Function.comp_apply]
      omega

variable [LawfulBEq α]

theorem find?_cons_of_present {needle xs : List α} {x : α} (h : needle <+: x :: xs) :
    find? needle (x :: xs) = some 0 := by
  rw [find?, findFrom, if_pos (List.isPrefixOf_iff_prefix.mpr h)]

theorem find?_cons_of_absent {needle xs : List α} {x : α} (h : ¬ needle <+: x :: xs) :
    find? needle (x :: xs) = (find? needle xs).map (· + 1) := by
  rw [find?, findFrom, if_neg (fun hp => h (List.isPrefixOf_iff_prefix.mp hp)), findFrom_eq]
  congr 1
  funext n
  omega

/-- A needle stands where it is found, and no earlier one ends ahead of it. -/
theorem find?_eq_some {needle xs : List α} {n : ℕ} (h : find? needle xs = some n) :
    needle <+: xs.drop n ∧ (needle ≠ [] → ¬ needle <:+: xs.take n) := by
  induction xs generalizing n with
  | nil =>
    rw [find?, findFrom] at h
    split at h
    · obtain rfl := Option.some.inj h
      rw [List.isEmpty_iff] at *
      subst needle
      exact ⟨List.nil_prefix, fun hne => absurd rfl hne⟩
    · cases h
  | cons x xs ih =>
    by_cases hp : needle <+: x :: xs
    · rw [find?_cons_of_present hp] at h
      obtain rfl := Option.some.inj h
      refine ⟨hp, fun hne hin => hne ?_⟩
      rwa [List.take_zero, List.infix_nil] at hin
    · rw [find?_cons_of_absent hp] at h
      obtain ⟨m, hm, rfl⟩ := Option.map_eq_some_iff.mp h
      obtain ⟨hpre, hnone⟩ := ih hm
      refine ⟨hpre, fun hne hin => ?_⟩
      rw [List.take_succ_cons, List.infix_cons_iff] at hin
      rcases hin with hin | hin
      · exact hp (hin.trans (List.cons_prefix_cons.mpr ⟨rfl, List.take_prefix m xs⟩))
      · exact hnone hne hin

/-- What begins with an element that a list does not hold is found behind that list. -/
theorem find?_append_of_notMem {x : α} {needle xs : List α} (h : x ∉ xs) (rest : List α) :
    find? (x :: needle) (xs ++ (x :: needle ++ rest)) = some xs.length := by
  induction xs with
  | nil => exact find?_cons_of_present (List.prefix_append _ _)
  | cons y xs ih =>
    have hne : x ≠ y := fun heq => h (heq ▸ List.mem_cons_self)
    have hp : ¬ x :: needle <+: y :: (xs ++ (x :: needle ++ rest)) := fun hp =>
      hne (List.cons_prefix_cons.mp hp).1
    rw [List.cons_append, find?_cons_of_absent hp, ih fun hmem => h (List.mem_cons_of_mem y hmem)]
    rfl

omit [BEq α] [LawfulBEq α] in
/-- A needle whose first element does not come again cannot begin inside a list and end behind it. -/
theorem not_prefix_of_straddle {x : α} {needle xs : List α} (hx : x ∉ needle) (hxs : xs ≠ []) (rest : List α)
    (h : ¬ x :: needle <+: xs) : ¬ x :: needle <+: xs ++ (x :: needle ++ rest) := by
  intro hp
  obtain ⟨y, ys, rfl⟩ := List.exists_cons_of_ne_nil hxs
  rw [List.cons_append, List.cons_prefix_cons] at hp
  obtain ⟨rfl, hp⟩ := hp
  rcases List.prefix_or_prefix_of_prefix hp (List.prefix_append ys _) with hle | hle
  · exact h (List.cons_prefix_cons.mpr ⟨rfl, hle⟩)
  · -- the list ends inside the needle, so the needle goes on with its own first element
    obtain ⟨tail, rfl⟩ := hle
    rw [List.prefix_append_right_inj] at hp
    cases tail with
    | nil => exact h (List.cons_prefix_cons.mpr ⟨rfl, by rw [List.append_nil]⟩)
    | cons z tail =>
      obtain ⟨rfl, -⟩ := List.cons_prefix_cons.mp hp
      exact hx (List.mem_append_right _ List.mem_cons_self)

/-- A needle whose first element does not come again is found behind a list that does not hold the needle. -/
theorem find?_append_of_not_infix {x : α} {needle xs : List α} (hx : x ∉ needle) (h : ¬ x :: needle <:+: xs)
    (rest : List α) : find? (x :: needle) (xs ++ (x :: needle ++ rest)) = some xs.length := by
  induction xs with
  | nil => exact find?_cons_of_present (List.prefix_append _ _)
  | cons y xs ih =>
    have hp : ¬ x :: needle <+: y :: (xs ++ (x :: needle ++ rest)) :=
      not_prefix_of_straddle hx (List.cons_ne_nil y xs) rest fun hp => h hp.isInfix
    rw [List.cons_append, find?_cons_of_absent hp, ih fun hin => h (List.infix_cons hin)]
    rfl

omit [BEq α] [LawfulBEq α] in
/-- What begins with an element that a list does not hold occurs behind that list, if at all. -/
theorem infix_append_of_notMem {x : α} {needle xs ys : List α} (h : x ∉ xs) :
    x :: needle <:+: xs ++ ys ↔ x :: needle <:+: ys := by
  induction xs with
  | nil => rfl
  | cons y xs ih =>
    have hne : x ≠ y := fun heq => h (heq ▸ List.mem_cons_self)
    rw [List.cons_append, List.infix_cons_iff, List.cons_prefix_cons, ih fun hmem => h (List.mem_cons_of_mem y hmem)]
    exact or_iff_right fun hp => hne hp.1

theorem behind?_append (start xs : List α) : behind? start (start ++ xs) = some xs := by
  rw [behind?, if_pos (List.isPrefixOf_iff_prefix.mpr (List.prefix_append start xs)), List.drop_left]

/-! ### Splitting -/

theorem split_of_notMem {separator : α} {xs : List α} (h : separator ∉ xs) : split separator xs = [xs] := by
  induction xs with
  | nil => rfl
  | cons x xs ih =>
    have hne : (x == separator) = false := beq_eq_false_iff_ne.mpr fun heq => h (heq ▸ List.mem_cons_self)
    rw [split, hne, if_neg Bool.false_ne_true, ih fun hmem => h (List.mem_cons_of_mem x hmem)]

/-- The piece ahead of a separator. -/
theorem split_append {separator : α} {xs : List α} (h : separator ∉ xs) (ys : List α) :
    split separator (xs ++ separator :: ys) = xs :: split separator ys := by
  induction xs with
  | nil => rw [List.nil_append, split, if_pos (beq_self_eq_true separator)]
  | cons x xs ih =>
    have hne : (x == separator) = false := beq_eq_false_iff_ne.mpr fun heq => h (heq ▸ List.mem_cons_self)
    rw [List.cons_append, split, hne, if_neg Bool.false_ne_true, ih fun hmem => h (List.mem_cons_of_mem x hmem)]

/-- Pieces without separators are what is between separators. -/
theorem split_intercalate {separator : α} {pieces : List (List α)} (hne : pieces ≠ [])
    (h : ∀ piece ∈ pieces, separator ∉ piece) : split separator (List.intercalate [separator] pieces) = pieces := by
  induction pieces with
  | nil => exact absurd rfl hne
  | cons piece pieces ih =>
    obtain ⟨hpiece, hrest⟩ := List.forall_mem_cons.mp h
    cases pieces with
    | nil => rw [List.intercalate_singleton, split_of_notMem hpiece]
    | cons next pieces =>
      rw [List.intercalate_cons_cons, List.append_assoc, List.singleton_append, split_append hpiece,
        ih (List.cons_ne_nil _ _) hrest]

theorem cut_of_notMem {separator : α} {xs : List α} (h : separator ∉ xs) : cut separator xs = (xs, none) := by
  induction xs with
  | nil => rfl
  | cons x xs ih =>
    have hne : (x == separator) = false := beq_eq_false_iff_ne.mpr fun heq => h (heq ▸ List.mem_cons_self)
    rw [cut, hne, if_neg Bool.false_ne_true, ih fun hmem => h (List.mem_cons_of_mem x hmem)]

/-- What is ahead of the first separator, and what is behind it. -/
theorem cut_append {separator : α} {xs : List α} (h : separator ∉ xs) (ys : List α) :
    cut separator (xs ++ separator :: ys) = (xs, some ys) := by
  induction xs with
  | nil => rw [List.nil_append, cut, if_pos (beq_self_eq_true separator)]
  | cons x xs ih =>
    have hne : (x == separator) = false := beq_eq_false_iff_ne.mpr fun heq => h (heq ▸ List.mem_cons_self)
    rw [List.cons_append, cut, hne, if_neg Bool.false_ne_true, ih fun hmem => h (List.mem_cons_of_mem x hmem)]

end SurveyGateway.Text
