import Mathlib
import SurveyGateway.Proofs.Number.TotalOrder
import SurveyGateway.Statistics

/-!
# The median of a window

The median is found by sorting: it is the float in the middle of the sorted window, or the mean of the two there. It is
told here without sorting. No more than half of the window is ahead of the median and no more than half is behind it,
and the order in which the window comes makes no difference.

## The model

`Central` says that a float of a window is in its middle, and `Straddles` that two are, next to each other. `IsMedian`
says what the median is then. All of them are about any order: that of floats (`Precedes`), and that of bit patterns
(`PrecedesBits`), which tells zeros apart and also one NaN from another.

## What is proved

* `sorted_eq_of_perm` — sorting forgets the order in which a window comes.
* `isMedian_medianOfBits` — what is found by sorting is the median.
* `IsMedian.ofBits` — the median of the bits of floats is that of the floats.
* `median_is_central` — the median of floats, and of bit patterns.
-/

namespace SurveyGateway.Statistics

open Number

/-! ### Medians -/

section Order

variable {α : Type} (precedes : α → α → Prop) [DecidableRel precedes]

/-- One of a window, with at most half of the window ahead of it and at most half behind it. -/
structure Central (window : List α) (x : α) : Prop where
  mem : x ∈ window
  ahead : 2 * window.countP (precedes · x) ≤ window.length
  behind : 2 * window.countP (precedes x ·) ≤ window.length

/-- Two of a window that are next to each other in the middle: as many are left below them as above them. -/
def Straddles (window : List α) (lower upper : α) : Prop :=
  ∃ below above, window.Perm (below ++ lower :: upper :: above) ∧ below.length = above.length ∧
    (∀ x ∈ below, ¬ precedes lower x) ∧ ¬ precedes upper lower ∧ ∀ x ∈ above, ¬ precedes x upper

/-- What the median of a window is: the one in the middle, or the mean of the two there. -/
structure IsMedian (toFloat : α → Float) (window : List α) (m : Float) : Prop where
  odd : window.length % 2 = 1 → ∃ x, Central precedes window x ∧ m = toFloat x
  even : window.length % 2 = 0 →
    ∃ lower upper, Straddles precedes window lower upper ∧ m = (toFloat lower + toFloat upper) / 2.0

variable {precedes} {window below above : List α} {x : α}

/-- What has as many below it as above it is in the middle. -/
theorem central_of_perm (hperm : window.Perm (below ++ x :: above)) (hlength : below.length = above.length)
    (hself : ¬ precedes x x) (hbelow : ∀ y ∈ below, ¬ precedes x y) (habove : ∀ y ∈ above, ¬ precedes y x) :
    Central precedes window x where
  mem := hperm.mem_iff.mpr (by simp)
  ahead := by
    have hcount : above.countP (precedes · x) = 0 := List.countP_eq_zero.mpr (by simpa using habove)
    have hle : below.countP (precedes · x) ≤ below.length := List.countP_le_length
    rw [hperm.countP_eq, hperm.length_eq, List.countP_append, List.countP_cons, hcount, if_neg (by simpa using hself)]
    simp only [List.length_append, List.length_cons]
    omega
  behind := by
    have hcount : below.countP (precedes x ·) = 0 := List.countP_eq_zero.mpr (by simpa using hbelow)
    have hle : above.countP (precedes x ·) ≤ above.length := List.countP_le_length
    rw [hperm.countP_eq, hperm.length_eq, List.countP_append, List.countP_cons, hcount, if_neg (by simpa using hself)]
    simp only [List.length_append, List.length_cons]
    omega

/-- The middle of an odd number. -/
theorem exists_middle (h : window.length % 2 = 1) :
    ∃ below x above, window = below ++ x :: above ∧ below.length = window.length / 2 ∧
      below.length = above.length := by
  have hne : window.drop (window.length / 2) ≠ [] := by
    intro hnil
    have hle := List.drop_eq_nil_iff.mp hnil
    omega
  obtain ⟨x, above, hdrop⟩ := List.exists_cons_of_ne_nil hne
  have hlength := congrArg List.length hdrop
  rw [List.length_drop, List.length_cons] at hlength
  refine ⟨window.take (window.length / 2), x, above, ?_, ?_, ?_⟩
  · rw [← hdrop, List.take_append_drop]
  · rw [List.length_take]
    omega
  · rw [List.length_take]
    omega

/-- The middle of an even number. -/
theorem exists_middle_pair (hne : window ≠ []) (h : window.length % 2 = 0) :
    ∃ below lower upper above, window = below ++ lower :: upper :: above ∧ below.length + 1 = window.length / 2 ∧
      below.length = above.length := by
  have hpos := List.length_pos_iff.mpr hne
  have hlength := List.length_drop (i := window.length / 2 - 1) (l := window)
  match hdrop : window.drop (window.length / 2 - 1) with
  | [] | [_] =>
    rw [hdrop] at hlength
    simp only [List.length_nil, List.length_cons] at hlength
    omega
  | lower :: upper :: above =>
    rw [hdrop] at hlength
    simp only [List.length_cons] at hlength
    refine ⟨window.take (window.length / 2 - 1), lower, upper, above, ?_, ?_, ?_⟩
    · rw [← hdrop, List.take_append_drop]
    · rw [List.length_take]
      omega
    · rw [List.length_take]
      omega

end Order

/-! ### Bit patterns -/

variable {window other : List UInt64}

theorem sorted_perm (window : List UInt64) : (sorted window).Perm window := List.mergeSort_perm _ _

theorem pairwise_totalRank_sorted (window : List UInt64) :
    (sorted window).Pairwise fun a b => totalRank a ≤ totalRank b := by
  have hsorted : (sorted window).Pairwise fun a b => decide (totalRank a ≤ totalRank b) = true := by
    refine List.pairwise_mergeSort (fun a b c hab hbc => ?_) (fun a b => ?_) window
    · exact decide_eq_true (UInt64.le_trans (of_decide_eq_true hab) (of_decide_eq_true hbc))
    · simpa using UInt64.le_total (totalRank a) (totalRank b)
  exact hsorted.imp of_decide_eq_true

/-- Nothing in a sorted window is ahead of what comes earlier. -/
theorem pairwise_sorted (window : List UInt64) : (sorted window).Pairwise fun a b => ¬ PrecedesBits b a :=
  (pairwise_totalRank_sorted window).imp fun h hba => UInt64.not_lt.mpr h (totalRank_lt_iff.mpr hba)

/-- Sorting forgets the order in which a window comes. -/
theorem sorted_eq_of_perm (h : other.Perm window) : sorted other = sorted window :=
  ((sorted_perm other).trans (h.trans (sorted_perm window).symm)).eq_of_pairwise
    (fun _ _ _ _ hab hba => totalRank_inj (UInt64.le_antisymm hab hba)) (pairwise_totalRank_sorted other)
    (pairwise_totalRank_sorted window)

theorem medianOfBits_eq_of_perm (h : other.Perm window) : medianOfBits other = medianOfBits window := by
  rw [medianOfBits, sorted_eq_of_perm h]
  rfl

theorem not_precedesBits_self (a : UInt64) : ¬ PrecedesBits a a := fun h =>
  UInt64.lt_irrefl _ (totalRank_lt_iff.mpr h)

/-- What is found by sorting is the median. -/
theorem isMedian_medianOfBits (hne : window ≠ []) :
    IsMedian PrecedesBits Float.ofBits window (medianOfBits window) where
  odd hodd := by
    have hlength := (sorted_perm window).length_eq
    rw [← hlength] at hodd
    obtain ⟨below, x, above, hsplit, hbelow, habove⟩ := exists_middle hodd
    have hpairs := pairwise_sorted window
    have hperm := (sorted_perm window).symm
    rw [hsplit] at hpairs hperm
    obtain ⟨-, hx, hahead⟩ := List.pairwise_append.mp hpairs
    refine ⟨x, central_of_perm hperm habove (not_precedesBits_self x)
      (fun y hy => hahead y hy x List.mem_cons_self) (List.pairwise_cons.mp hx).1, ?_⟩
    have hget : (sorted window).getD ((sorted window).length / 2) 0 = x := by
      rw [← hbelow, hsplit, List.getD_append_right _ _ _ _ le_rfl, Nat.sub_self, List.getD_cons_zero]
    rw [medianOfBits, hget, if_neg (by omega)]
  even heven := by
    have hlength := (sorted_perm window).length_eq
    have hsorted : sorted window ≠ [] := fun hnil => hne ((hnil ▸ sorted_perm window).symm.eq_nil)
    obtain ⟨below, lower, upper, above, hsplit, hbelow, habove⟩ := exists_middle_pair hsorted (hlength ▸ heven)
    have hpairs := pairwise_sorted window
    have hperm := (sorted_perm window).symm
    rw [hsplit] at hpairs hperm
    obtain ⟨-, hmiddle, hahead⟩ := List.pairwise_append.mp hpairs
    obtain ⟨hlower, hupper⟩ := List.pairwise_cons.mp hmiddle
    refine ⟨lower, upper, ⟨below, above, hperm, habove, fun y hy => hahead y hy lower List.mem_cons_self,
      hlower upper List.mem_cons_self, (List.pairwise_cons.mp hupper).1⟩, ?_⟩
    have hget : (sorted window).getD ((sorted window).length / 2 - 1) 0 = lower := by
      rw [← hbelow, Nat.add_sub_cancel, hsplit, List.getD_append_right _ _ _ _ le_rfl, Nat.sub_self,
        List.getD_cons_zero]
    have hget' : (sorted window).getD ((sorted window).length / 2) 0 = upper := by
      rw [← hbelow, hsplit, List.getD_append_right _ _ _ _ (Nat.le_succ _), Nat.succ_sub le_rfl, Nat.sub_self,
        List.getD_cons_succ, List.getD_cons_zero]
    rw [medianOfBits, hget, hget', if_pos (by omega)]

/-! ### Floats -/

/-- The median of the bits of floats is that of the floats. -/
theorem IsMedian.ofBits {window : List Float} {m : Float}
    (h : IsMedian PrecedesBits Float.ofBits (window.map Float.toBits) m) : IsMedian Precedes id window m where
  odd hodd := by
    obtain ⟨bits, hbits, rfl⟩ := h.odd (by rwa [List.length_map])
    obtain ⟨x, hx, rfl⟩ := List.mem_map.mp hbits.mem
    have hahead := hbits.ahead
    have hbehind := hbits.behind
    rw [List.countP_map, List.length_map] at hahead hbehind
    refine ⟨x, ⟨hx, ?_, ?_⟩, Float.ofBits_toBits x⟩
    · simpa [Function.comp_def, precedes_iff] using hahead
    · simpa [Function.comp_def, precedes_iff] using hbehind
  even heven := by
    obtain ⟨lower, upper, ⟨below, above, hperm, hlength, hbelow, hmiddle, habove⟩, rfl⟩ :=
      h.even (by rwa [List.length_map])
    -- all these bits are those of floats of the window
    have hbits : ∀ {bits}, bits ∈ below ++ lower :: upper :: above → (Float.ofBits bits).toBits = bits := by
      intro bits hmem
      obtain ⟨x, -, rfl⟩ := List.mem_map.mp (hperm.mem_iff.mpr hmem)
      rw [Float.ofBits_toBits]
    have hprecedes : ∀ {a b}, a ∈ below ++ lower :: upper :: above → b ∈ below ++ lower :: upper :: above →
        ¬ PrecedesBits a b → ¬ Precedes (Float.ofBits a) (Float.ofBits b) := by
      intro a b ha hb hnot
      rwa [← precedes_iff, hbits ha, hbits hb]
    have hfloats : (window.map Float.toBits).map Float.ofBits = window := by
      simp [List.map_map, Function.comp_def]
    refine ⟨Float.ofBits lower, Float.ofBits upper,
      ⟨below.map Float.ofBits, above.map Float.ofBits, ?_, ?_, ?_, ?_, ?_⟩, rfl⟩
    · have hmapped := hperm.map Float.ofBits
      rw [hfloats, List.map_append] at hmapped
      exact hmapped
    · rw [List.length_map, List.length_map, hlength]
    · exact List.forall_mem_map.mpr fun y hy => hprecedes (by simp) (by simp [hy]) (hbelow y hy)
    · exact hprecedes (by simp) (by simp) hmiddle
    · exact List.forall_mem_map.mpr fun y hy => hprecedes (by simp [hy]) (by simp) (habove y hy)

/-- **The median is an order statistic.** Whatever floats a window holds, its median does not depend on their order. If
the window has an odd size, the median is one of its floats, with at most half of them ahead of it and at most half
behind it in the total order; if it has an even size, the median is the mean of the two that are next to each other in
the middle of that order. The same is true of windows of bit patterns, where NaNs are told apart by sign and payload. -/
theorem median_is_central :
    (∀ window : List Float, window ≠ [] → ∀ reference,
      (∃ m, IsMedian Precedes id window m ∧ compute .median window reference = narrow m) ∧
      ∀ other : List Float, other.Perm window → ∀ reference',
        compute .median other reference' = compute .median window reference) ∧
    ∀ window : List UInt64, window ≠ [] →
      IsMedian PrecedesBits Float.ofBits window (medianOfBits window) ∧
      ∀ other : List UInt64, other.Perm window → medianOfBits other = medianOfBits window := by
  refine ⟨fun window hne reference => ⟨⟨median window, ?_, rfl⟩, fun other hperm reference' => ?_⟩, fun window hne =>
    ⟨isMedian_medianOfBits hne, fun other hperm => medianOfBits_eq_of_perm hperm⟩⟩
  · exact (isMedian_medianOfBits (by simpa using hne)).ofBits
  · exact congrArg narrow (medianOfBits_eq_of_perm (hperm.map Float.toBits))

/-- The two zeros and what is no number, and a zero between NaNs of both signs: the median is the positive zero. -/
theorem median_is_central_sample :
    compute .median [0.0 / 0.0, 0.0, -0.0] 1 = 0.0 ∧
      medianOfBits [0xfff8000000000000, 0x7ff8000000000000, 0] = 0.0 := by
  obtain ⟨⟨m, hm, hcompute⟩, -⟩ := median_is_central.1 [0.0 / 0.0, 0.0, -0.0] (List.cons_ne_nil _ _) 1
  obtain ⟨hbits, -⟩ := median_is_central.2 [0xfff8000000000000, 0x7ff8000000000000, 0] (List.cons_ne_nil _ _)
  obtain ⟨x, ⟨hx, hahead, hbehind⟩, rfl⟩ := hm.odd rfl
  obtain ⟨y, ⟨hy, hahead', hbehind'⟩, hmedian⟩ := hbits.odd rfl
  simp only [List.mem_cons, List.not_mem_nil, or_false] at hx hy
  constructor
  · rcases hx with rfl | rfl | rfl
    · exact absurd hahead (by decide)
    · exact hcompute.trans (by decide)
    · exact absurd hbehind (by decide)
  · rcases hy with rfl | rfl | rfl
    · exact absurd hbehind' (by decide)
    · exact absurd hahead' (by decide)
    · exact hmedian.trans (by decide)

end SurveyGateway.Statistics
