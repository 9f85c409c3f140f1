import Mathlib
import SurveyGateway.Service.Metrics

/-!
# Families of series

A family is filled by one sample after the other: each changes the series that it belongs to, or begins one. A series is
found by the digest of its labels, but shown under the labels themselves. What a family holds is therefore told for
samples whose digests differ where their labels do. No more is needed: then every series is made of the samples with its
labels and of no others, and samples that come in another order fill the same family.

## The model

A `Collector` says how samples are collected in a family. `gathered` is the family that is filled by a list of samples,
and `row` what should become of a sample's series: a `summary` of all samples with the same labels.

## What is proved

* `Collector.mem_gathered` — a family holds the rows of its samples and nothing else.
* `Collector.ordered_gathered` — its series are ordered by their labels, no two with the same.
* `Collector.valueAt_gathered` — under any labels it shows the summary of the samples that have them; and that is what
  is found by the digest of a sample (`Collector.value?_gathered`).
* `Collector.total_gathered` — what counts samples counts all of them, whichever digests they have.
* `Collector.gathered_perm` — what does not depend on the order of samples in a summary does not in the family.
-/

namespace SurveyGateway.Service

/-- The series with its value changed. -/
def Series.map {α β : Type} (f : α → β) (series : Series α) : Series β := ⟨series.digest, series.labels, f series.value⟩

theorem Series.map_id {α : Type} (series : Series α) : series.map id = series := rfl

namespace Family

variable {α : Type} {new : Series α} {family : Family α}

/-- The series are in the order of their labels, and no two have the same. -/
def Ordered (family : Family α) : Prop := family.Pairwise fun a b => a.labels < b.labels

/-- What is shown under labels; `fresh` if there is no series with them. -/
def valueAt (fresh : α) (labels : List String) (family : Family α) : α :=
  ((family.find? (·.labels == labels)).map (·.value)).getD fresh

/-- The sum of what each series counts. -/
def total (count : α → ℕ) (family : Family α) : ℕ := (family.map fun series => count series.value).sum

theorem insert_perm (new : Series α) (family : Family α) : (insert new family).Perm (new :: family) := by
  induction family with
  | nil => exact List.Perm.refl _
  | cons first rest ih =>
    unfold insert
    split
    · exact List.Perm.refl _
    · exact (ih.cons first).trans (List.Perm.swap new first rest)

theorem mem_insert {series : Series α} : series ∈ insert new family ↔ series = new ∨ series ∈ family := by
  rw [(insert_perm new family).mem_iff, List.mem_cons]

theorem Ordered.insert (h : family.Ordered) (hnew : ∀ series ∈ family, series.labels ≠ new.labels) :
    (insert new family).Ordered := by
  induction family with
  | nil => exact List.pairwise_singleton _ _
  | cons first rest ih =>
    obtain ⟨hfirst, hrest⟩ := List.pairwise_cons.mp h
    unfold Family.insert
    split
    next hlt =>
      refine List.pairwise_cons.mpr ⟨fun series hmem => ?_, h⟩
      rcases List.mem_cons.mp hmem with rfl | hmem
      · exact hlt
      · exact lt_trans hlt (hfirst series hmem)
    next hnot =>
      have hlt : first.labels < new.labels := lt_of_le_of_ne (not_lt.mp hnot) (hnew first List.mem_cons_self)
      refine List.pairwise_cons.mpr ⟨fun series hmem => ?_, ih hrest fun series hmem => ?_⟩
      · rcases mem_insert.mp hmem with rfl | hmem
        · exact hlt
        · exact hfirst series hmem
      · exact hnew series (List.mem_cons_of_mem _ hmem)

/-- Two ordered families with the same series are the same. -/
theorem Ordered.ext {other : Family α} (h : family.Ordered) (hother : other.Ordered)
    (hmem : ∀ series, series ∈ family ↔ series ∈ other) : family = other := by
  have : Std.Irrefl fun a b : Series α => a.labels < b.labels := ⟨fun a => lt_irrefl a.labels⟩
  have : Std.Antisymm fun a b : Series α => a.labels < b.labels := ⟨fun a b hab hba => absurd hba (lt_asymm hab)⟩
  exact List.Pairwise.eq_of_mem_iff h hother hmem

/-! ### One change -/

variable {digest : UInt64} {labels : List String} {fresh : α} {f : α → α} {count : α → ℕ}

/-- The series, changed if it has the digest. -/
def changed (digest : UInt64) (f : α → α) (series : Series α) : Series α :=
  if series.digest = digest then series.map f else series

theorem changed_digest (digest : UInt64) (f : α → α) (series : Series α) :
    (changed digest f series).digest = series.digest := by
  unfold changed
  split <;> rfl

theorem changed_labels (digest : UInt64) (f : α → α) (series : Series α) :
    (changed digest f series).labels = series.labels := by
  unfold changed
  split <;> rfl

/-- A series that is there is changed. -/
theorem change_of_mem (h : digest ∈ family.map (·.digest)) :
    family.change digest labels fresh f = family.map (changed digest f) := by
  obtain ⟨series, hmem, heq⟩ := List.mem_map.mp h
  have hany : family.any (·.digest == digest) = true := List.any_eq_true.mpr ⟨series, hmem, by simpa using heq⟩
  rw [change, if_pos hany]
  refine List.map_congr_left fun series _ => ?_
  simp only [changed, beq_iff_eq]
  rfl

/-- A series that is not there begins. -/
theorem change_of_not_mem (h : digest ∉ family.map (·.digest)) :
    family.change digest labels fresh f = insert ⟨digest, labels, f fresh⟩ family := by
  have hany : ¬ family.any (·.digest == digest) = true := by
    intro hany
    obtain ⟨series, hmem, heq⟩ := List.any_eq_true.mp hany
    exact h (List.mem_map.mpr ⟨series, hmem, by simpa using heq⟩)
  rw [change, if_neg hany]

/-- Digests stay apart. -/
theorem nodup_change (h : (family.map (·.digest)).Nodup) :
    ((family.change digest labels fresh f).map (·.digest)).Nodup := by
  by_cases hmem : digest ∈ family.map (·.digest)
  · rw [change_of_mem hmem, List.map_map]
    simpa only [Function.comp_def, changed_digest] using h
  · rw [change_of_not_mem hmem, ((insert_perm _ family).map _).nodup_iff]
    exact List.nodup_cons.mpr ⟨hmem, h⟩

theorem map_changed_of_not_mem (h : digest ∉ family.map (·.digest)) : family.map (changed digest f) = family := by
  conv_rhs => rw [← List.map_id family]
  exact List.map_congr_left fun series hmem => if_neg fun heq => h (List.mem_map.mpr ⟨series, hmem, heq⟩)

/-- The one series that is changed counts one more. -/
theorem total_map_changed (hf : ∀ v, count (f v) = count v + 1) (h : (family.map (·.digest)).Nodup)
    (hmem : digest ∈ family.map (·.digest)) : total count (family.map (changed digest f)) = total count family + 1 := by
  induction family with
  | nil => cases hmem
  | cons first rest ih =>
    obtain ⟨hfirst, hrest⟩ := List.nodup_cons.mp h
    simp only [total, List.map_cons, List.sum_cons] at ih ⊢
    rcases List.mem_cons.mp hmem with rfl | hmem
    · have hvalue : (changed first.digest f first).value = f first.value := by rw [changed, if_pos rfl, Series.map]
      rw [map_changed_of_not_mem hfirst, hvalue, hf]
      omega
    · have hne : first.digest ≠ digest := by
        rintro rfl
        exact hfirst hmem
      rw [ih hrest hmem, changed, if_neg hne]
      omega

/-- What counts samples counts one more. -/
theorem total_change (hf : ∀ v, count (f v) = count v + 1) (hfresh : count fresh = 0)
    (h : (family.map (·.digest)).Nodup) :
    total count (family.change digest labels fresh f) = total count family + 1 := by
  by_cases hmem : digest ∈ family.map (·.digest)
  · rw [change_of_mem hmem, total_map_changed hf h hmem]
  · rw [change_of_not_mem hmem, total, ((insert_perm _ family).map _).sum_eq, List.map_cons, List.sum_cons, hf, hfresh,
      total]
    omega

end Family

/-! ### Collecting samples -/

/-- How samples are collected in a family: under which labels and which digest of these, and what a sample adds to the
value of its series. -/
structure Collector (σ α : Type) where
  labels : σ → List String
  digest : σ → UInt64
  fresh : α
  add : σ → α → α
  digest_eq : ∀ s t, labels s = labels t → digest s = digest t

namespace Collector

variable {σ α β : Type} (c : Collector σ α) {samples others : List σ} {s t : σ}

/-- The family with one sample more. -/
def collect (family : Family α) (s : σ) : Family α := family.change (c.digest s) (c.labels s) c.fresh (c.add s)

/-- The family that is filled by samples. -/
def gathered (samples : List σ) : Family α := samples.foldl c.collect []

/-- The samples with given labels. -/
def matching (samples : List σ) (labels : List String) : List σ := samples.filter (c.labels · = labels)

/-- What samples add up to. -/
def summary (samples : List σ) : α := samples.foldl (fun v s => c.add s v) c.fresh

/-- The series of a sample: all samples with its labels. -/
def row (samples : List σ) (s : σ) : Series α := ⟨c.digest s, c.labels s, c.summary (c.matching samples (c.labels s))⟩

/-- Digests tell apart what samples have as labels. -/
def ToldApart (samples : List σ) : Prop :=
  ∀ s ∈ samples, ∀ t ∈ samples, c.digest s = c.digest t → c.labels s = c.labels t

instance (samples : List σ) : Decidable (c.ToldApart samples) :=
  inferInstanceAs (Decidable (∀ s ∈ samples, ∀ t ∈ samples, c.digest s = c.digest t → c.labels s = c.labels t))

variable {c}

theorem ToldApart.of_subset (h : c.ToldApart samples) (hsub : others ⊆ samples) : c.ToldApart others :=
  fun s hs t ht => h s (hsub hs) t (hsub ht)

theorem gathered_append (samples : List σ) (s : σ) :
    c.gathered (samples ++ [s]) = c.collect (c.gathered samples) s := by
  rw [gathered, List.foldl_append]
  rfl

theorem row_congr (h : c.labels s = c.labels t) : c.row samples s = c.row samples t := by
  rw [row, c.digest_eq s t h, h]
  rfl

/-- A sample leaves the series of other labels alone. -/
theorem row_append_of_ne (h : c.labels t ≠ c.labels s) : c.row (samples ++ [s]) t = c.row samples t := by
  rw [row, matching, List.filter_append, List.filter_singleton, decide_eq_false h.symm]
  simp [row, matching]

/-- A sample adds to the series of its labels. -/
theorem row_append_of_eq (h : c.labels t = c.labels s) :
    c.row (samples ++ [s]) t = (c.row samples t).map (c.add s) := by
  rw [row, matching, List.filter_append, List.filter_singleton, decide_eq_true h.symm]
  simp [row, matching, summary, Series.map]

theorem changed_row (h : c.digest t = c.digest s → c.labels t = c.labels s) :
    Family.changed (c.digest s) (c.add s) (c.row samples t) = c.row (samples ++ [s]) t := by
  unfold Family.changed
  split
  next heq => exact (row_append_of_eq (h heq)).symm
  next hne => exact (row_append_of_ne fun heq => hne (c.digest_eq t s heq)).symm

/-- The series of a sample that is the first with its labels. -/
theorem row_append_self (h : ∀ t ∈ samples, c.labels t ≠ c.labels s) :
    c.row (samples ++ [s]) s = ⟨c.digest s, c.labels s, c.add s c.fresh⟩ := by
  have hnone : c.matching samples (c.labels s) = [] := List.filter_eq_nil_iff.mpr (by simpa using h)
  rw [row_append_of_eq rfl, row, hnone]
  rfl

/-- **What a family holds**: the series of its samples. -/
theorem mem_gathered (h : c.ToldApart samples) (series : Series α) :
    series ∈ c.gathered samples ↔ ∃ s ∈ samples, series = c.row samples s := by
  induction samples using List.reverseRecOn generalizing series with
  | nil => simp [gathered]
  | append_singleton samples s ih =>
    replace ih := ih (h.of_subset (List.subset_append_left _ _))
    have hdigest : c.digest s ∈ (c.gathered samples).map (·.digest) ↔ ∃ t ∈ samples, c.digest t = c.digest s := by
      simp only [List.mem_map, ih]
      constructor
      · rintro ⟨_, ⟨t, ht, rfl⟩, heq⟩
        exact ⟨t, ht, heq⟩
      · rintro ⟨t, ht, heq⟩
        exact ⟨_, ⟨t, ht, rfl⟩, heq⟩
    have hlabels : ∀ t ∈ samples, c.digest t = c.digest s → c.labels t = c.labels s := fun t ht =>
      h t (List.mem_append_left _ ht) s (List.mem_append_right _ List.mem_cons_self)
    rw [gathered_append, collect]
    by_cases hmem : c.digest s ∈ (c.gathered samples).map (·.digest)
    · -- every row is changed as the sample changes it, and the row of the sample itself is one of them
      rw [Family.change_of_mem hmem]
      obtain ⟨t, ht, heq⟩ := hdigest.mp hmem
      simp only [List.mem_map, ih, List.mem_append, List.mem_singleton]
      constructor
      · rintro ⟨_, ⟨r, hr, rfl⟩, rfl⟩
        exact ⟨r, Or.inl hr, changed_row (hlabels r hr)⟩
      · rintro ⟨r, hr | rfl, rfl⟩
        · exact ⟨_, ⟨r, hr, rfl⟩, changed_row (hlabels r hr)⟩
        · exact ⟨_, ⟨t, ht, rfl⟩, (changed_row (hlabels t ht)).trans (row_congr (hlabels t ht heq))⟩
    · -- no row is changed, and the sample begins a new one
      have hne : ∀ t ∈ samples, c.labels t ≠ c.labels s := fun t ht heq =>
        hmem (hdigest.mpr ⟨t, ht, c.digest_eq t s heq⟩)
      rw [Family.change_of_not_mem hmem, Family.mem_insert, ih]
      simp only [List.mem_append, List.mem_singleton]
      constructor
      · rintro (rfl | ⟨t, ht, rfl⟩)
        · exact ⟨s, Or.inr rfl, (row_append_self hne).symm⟩
        · exact ⟨t, Or.inl ht, (row_append_of_ne (hne t ht)).symm⟩
      · rintro ⟨t, ht | rfl, rfl⟩
        · exact Or.inr ⟨t, ht, row_append_of_ne (hne t ht)⟩
        · exact Or.inl (row_append_self hne)

theorem ordered_gathered (h : c.ToldApart samples) : (c.gathered samples).Ordered := by
  induction samples using List.reverseRecOn with
  | nil => exact List.Pairwise.nil
  | append_singleton samples s ih =>
    have hsamples : c.ToldApart samples := h.of_subset (List.subset_append_left _ _)
    rw [gathered_append, collect]
    by_cases hmem : c.digest s ∈ (c.gathered samples).map (·.digest)
    · rw [Family.change_of_mem hmem]
      exact List.pairwise_map.mpr ((ih hsamples).imp fun hlt => by rwa [Family.changed_labels, Family.changed_labels])
    · rw [Family.change_of_not_mem hmem]
      refine (ih hsamples).insert fun series hseries heq => hmem (List.mem_map.mpr ⟨series, hseries, ?_⟩)
      obtain ⟨t, -, rfl⟩ := (mem_gathered hsamples series).mp hseries
      exact c.digest_eq t s heq

/-- **What is shown under labels**: the summary of the samples that have them. -/
theorem valueAt_gathered (h : c.ToldApart samples) (labels : List String) :
    (c.gathered samples).valueAt c.fresh labels = c.summary (c.matching samples labels) := by
  unfold Family.valueAt
  cases hfind : (c.gathered samples).find? (·.labels == labels) with
  | some series =>
    obtain ⟨s, -, rfl⟩ := (mem_gathered h series).mp (List.mem_of_find?_eq_some hfind)
    have hlabels : c.labels s = labels := by simpa [row] using List.find?_some hfind
    rw [← hlabels]
    rfl
  | none =>
    have hnone : c.matching samples labels = [] := by
      refine List.filter_eq_nil_iff.mpr fun s hs heq => ?_
      have hnot := List.find?_eq_none.mp hfind _ ((mem_gathered h _).mpr ⟨s, hs, rfl⟩)
      exact hnot (by simpa [row] using heq)
    rw [hnone]
    rfl

/-- What is found by the digest of a sample: what is shown under its labels. -/
theorem value?_gathered (h : c.ToldApart samples) (hs : s ∈ samples) :
    (c.gathered samples).value? (c.digest s) = some (c.summary (c.matching samples (c.labels s))) := by
  unfold Family.value?
  cases hfind : (c.gathered samples).find? (·.digest == c.digest s) with
  | some series =>
    obtain ⟨t, ht, rfl⟩ := (mem_gathered h series).mp (List.mem_of_find?_eq_some hfind)
    have hdigest : c.digest t = c.digest s := by simpa [row] using List.find?_some hfind
    rw [Option.map_some, row_congr (h t ht s hs hdigest), row]
  | none =>
    have hnot := List.find?_eq_none.mp hfind _ ((mem_gathered h _).mpr ⟨s, hs, rfl⟩)
    exact absurd (beq_self_eq_true _) hnot

/-- What counts samples counts all of them. -/
theorem total_gathered {count : α → ℕ} (hadd : ∀ s v, count (c.add s v) = count v + 1) (hfresh : count c.fresh = 0)
    (samples : List σ) : (c.gathered samples).total count = samples.length := by
  have hboth : ((c.gathered samples).map (·.digest)).Nodup ∧ (c.gathered samples).total count = samples.length := by
    induction samples using List.reverseRecOn with
    | nil => exact ⟨List.nodup_nil, rfl⟩
    | append_singleton samples s ih =>
      rw [gathered_append, List.length_append, List.length_singleton, ← ih.2]
      exact ⟨Family.nodup_change ih.1, Family.total_change (hadd s) hfresh ih.1⟩
  exact hboth.2

/-- **The order of samples** makes no difference but for what it makes in summaries. -/
theorem gathered_perm (view : α → β) (hview : ∀ {l l'}, l.Perm l' → view (c.summary l) = view (c.summary l'))
    (h : c.ToldApart samples) (hperm : others.Perm samples) :
    (c.gathered others).map (Series.map view) = (c.gathered samples).map (Series.map view) := by
  have hothers : c.ToldApart others := h.of_subset hperm.subset
  have hrow (s : σ) : (c.row others s).map view = (c.row samples s).map view := by
    simp only [row, Series.map, Series.mk.injEq, true_and]
    exact hview (hperm.filter _)
  refine Family.Ordered.ext (List.pairwise_map.mpr (ordered_gathered hothers))
    (List.pairwise_map.mpr (ordered_gathered h)) fun series => ?_
  simp only [List.mem_map, mem_gathered hothers, mem_gathered h, hperm.mem_iff]
  constructor
  · rintro ⟨_, ⟨s, hs, rfl⟩, rfl⟩
    exact ⟨_, ⟨s, hs, rfl⟩, (hrow s).symm⟩
  · rintro ⟨_, ⟨s, hs, rfl⟩, rfl⟩
    exact ⟨_, ⟨s, hs, rfl⟩, hrow s⟩

end Collector

end SurveyGateway.Service
