import SurveyGateway.Proofs.Number.Order
import SurveyGateway.Service.Metrics

/-!
# What a histogram shows

A number is put into the first bucket whose bound it does not exceed, and a bucket is shown with all that is in those
before it. So each bucket shows how many numbers are at most its bound, in whatever order they came; only the sum of the
numbers is rounded on the way and may depend on it. What is no number is at most no bound: it is counted, but in no
bucket.

## What is proved

* `cumulative_fill` — what one number changes: the buckets whose bounds it does not exceed show one more.
* `tallies_observed` — what a histogram of numbers shows, if the bounds ascend.
* `withoutSum_observed_perm` — but for the sum, it does not depend on the order of the numbers.
-/

namespace SurveyGateway.Service.Histogram

open Float.Model

variable {bounds values others : List Float} {h : Histogram} {x : Float} {total : ℕ} {ns ms : List ℕ}

/-- The histogram of numbers. -/
def observed (bounds values : List Float) : Histogram := values.foldl (observe bounds) (empty bounds)

/-- The histogram but for its sum. -/
def withoutSum (h : Histogram) : Histogram := { h with sum := 0 }

/-- What a histogram of `values` shows: how many there are, and in each bucket how many are at most its bound. So the
buckets do not decrease and none exceeds the count; and the count, which is shown as the last bucket, is of all values
that are at most infinity and of those that are no number. -/
structure Tallies (bounds values : List Float) (h : Histogram) : Prop where
  count_eq : h.count = values.length
  buckets_eq : cumulative 0 h.buckets = bounds.map fun bound => values.countP (· ≤ bound)
  ascending : (cumulative 0 h.buckets).Pairwise (· ≤ ·)
  le_count : ∀ n ∈ cumulative 0 h.buckets, n ≤ h.count
  infinity : h.count = values.countP (· ≤ 1.0 / 0.0) + values.countP (·.isNaN)

/-! ### Buckets -/

theorem le_bound_trans {a b : Float} (hx : x ≤ a) (hab : a ≤ b) : x ≤ b := by
  rw [Number.le_iff] at *
  exact ⟨hx.1, hab.2.1, hx.2.2.trans hab.2.2⟩

theorem cumulative_succ (total : ℕ) (ns : List ℕ) : cumulative (total + 1) ns = (cumulative total ns).map (· + 1) := by
  induction ns generalizing total with
  | nil => rfl
  | cons n ns ih => rw [cumulative, cumulative, Nat.add_right_comm, ih, List.map_cons]

theorem cumulative_inj (h : cumulative total ns = cumulative total ms) : ns = ms := by
  induction ns generalizing total ms with
  | nil =>
    cases ms with
    | nil => rfl
    | cons => cases h
  | cons n ns ih =>
    cases ms with
    | nil => cases h
    | cons m ms =>
      obtain ⟨hhead, htail⟩ := List.cons.inj h
      obtain rfl : n = m := Nat.add_left_cancel hhead
      rw [ih htail]

/-- No bucket shows less than those before it. -/
theorem le_cumulative (total : ℕ) (ns : List ℕ) : ∀ n ∈ cumulative total ns, total ≤ n := by
  induction ns generalizing total with
  | nil => exact fun _ hn => absurd hn List.not_mem_nil
  | cons n ns ih =>
    intro k hk
    rcases List.mem_cons.mp hk with rfl | hk
    · exact Nat.le_add_right _ _
    · exact (Nat.le_add_right _ _).trans (ih _ k hk)

theorem pairwise_cumulative (total : ℕ) (ns : List ℕ) : (cumulative total ns).Pairwise (· ≤ ·) := by
  induction ns generalizing total with
  | nil => exact List.Pairwise.nil
  | cons n ns ih => exact List.pairwise_cons.mpr ⟨le_cumulative _ ns, ih _⟩

/-- One number more: the buckets whose bounds it does not exceed show one more. -/
theorem cumulative_fill (hbounds : bounds.Pairwise (· ≤ ·)) {shown : Float → ℕ}
    (h : cumulative total ns = bounds.map shown) :
    cumulative total (fill x bounds ns) = bounds.map fun bound => shown bound + if x ≤ bound then 1 else 0 := by
  induction bounds generalizing total ns with
  | nil => exact h
  | cons bound bounds ih =>
    obtain ⟨hbound, hrest⟩ := List.pairwise_cons.mp hbounds
    cases ns with
    | nil => cases h
    | cons n ns =>
      obtain ⟨hhead, htail⟩ := List.cons.inj h
      rw [fill, List.map_cons]
      by_cases hle : x ≤ bound
      · -- all further bounds are above the number as well
        have hall : bounds.map (fun b => shown b + if x ≤ b then 1 else 0) = (bounds.map shown).map (· + 1) := by
          rw [List.map_map]
          exact List.map_congr_left fun b hb => by rw [if_pos (le_bound_trans hle (hbound b hb)), Function.comp_apply]
        rw [if_pos hle, if_pos hle, cumulative, ← Nat.add_assoc, cumulative_succ, htail, hall, hhead]
      · rw [if_neg hle, if_neg hle, cumulative, ih hrest htail, hhead, Nat.add_zero]

/-! ### All numbers -/

theorem observed_append (values : List Float) (x : Float) :
    observed bounds (values ++ [x]) = (observed bounds values).observe bounds x := by
  rw [observed, List.foldl_append]
  rfl

theorem cumulative_zero (bounds : List Float) : cumulative 0 (bounds.map fun _ => 0) = bounds.map fun _ => 0 := by
  induction bounds with
  | nil => rfl
  | cons bound bounds ih => rw [List.map_cons, cumulative, Nat.add_zero, ih]

theorem count_observed (values : List Float) : (observed bounds values).count = values.length := by
  induction values using List.reverseRecOn with
  | nil => rfl
  | append_singleton values x ih => rw [observed_append, observe, ih, List.length_append, List.length_singleton]

theorem buckets_observed (hbounds : bounds.Pairwise (· ≤ ·)) (values : List Float) :
    cumulative 0 (observed bounds values).buckets = bounds.map fun bound => values.countP (· ≤ bound) := by
  induction values using List.reverseRecOn with
  | nil => exact cumulative_zero bounds
  | append_singleton values x ih =>
    rw [observed_append, observe, cumulative_fill hbounds ih]
    exact List.map_congr_left fun bound _ => by
      rw [List.countP_append, List.countP_singleton]
      simp

/-- What is a number is at most infinity. -/
theorem le_infinity_iff (x : Float) : x ≤ 1.0 / 0.0 ↔ x.isNaN = false := by
  have hinfinity : (1.0 / 0.0 : Float).toModel.unpack = .infinity .positive := rfl
  have hnan : (1.0 / 0.0 : Float).isNaN = false := congrArg UnpackedFloat.isNaN hinfinity
  have htop : Number.value (1.0 / 0.0) = ⊤ := congrArg Number.valueOf hinfinity
  rw [Number.le_iff, hnan, htop]
  exact ⟨fun h => h.1, fun h => ⟨h, rfl, le_top⟩⟩

/-- **What a histogram shows**, in whatever order the numbers came. -/
theorem tallies_observed (hbounds : bounds.Pairwise (· ≤ ·)) (values : List Float) :
    Tallies bounds values (observed bounds values) where
  count_eq := count_observed values
  buckets_eq := buckets_observed hbounds values
  ascending := pairwise_cumulative _ _
  le_count n hn := by
    rw [buckets_observed hbounds] at hn
    obtain ⟨bound, -, rfl⟩ := List.mem_map.mp hn
    rw [count_observed]
    exact List.countP_le_length
  infinity := by
    have hsplit := List.length_eq_countP_add_countP (·.isNaN) (l := values)
    rw [count_observed, hsplit, Nat.add_comm]
    congr 1
    exact List.countP_congr fun x _ => by simp [le_infinity_iff]

/-- But for its sum, a histogram does not depend on the order of the numbers. -/
theorem withoutSum_observed_perm (hbounds : bounds.Pairwise (· ≤ ·)) (h : others.Perm values) :
    (observed bounds others).withoutSum = (observed bounds values).withoutSum := by
  have hbuckets : (observed bounds others).buckets = (observed bounds values).buckets := by
    have hshown : cumulative 0 (observed bounds others).buckets = cumulative 0 (observed bounds values).buckets := by
      rw [buckets_observed hbounds, buckets_observed hbounds]
      exact List.map_congr_left fun bound _ => h.countP_eq _
    exact cumulative_inj hshown
  rw [withoutSum, withoutSum, hbuckets, count_observed, count_observed, h.length_eq]

end SurveyGateway.Service.Histogram
