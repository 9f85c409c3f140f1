import SurveyGateway.Proofs.Number.Text
import SurveyGateway.Proofs.Number.Whole
import SurveyGateway.Proofs.Service.Families
import SurveyGateway.Proofs.Service.Histograms

/-!
# No sample is lost or counted twice

A sample is recorded in three families, under different labels in each: its duration under path, status and cache hit,
its size under path and status, and itself under method and path. What the metrics tell of samples is what the samples
tell themselves, and it does not matter in which order they came.

## What is assumed

A family finds a series by a digest of its labels, so labels with one digest would share a series: `GET` of `/a` and
`GE` of `T/a` do. `ToldApart` says that no samples do unless their labels are the same, as is meant by a family with
labels.

## What is proved

* `totals_recorded` — each family counts every sample once, in whatever series.
* `samples_conserved` — counters and histograms hold what the samples tell (`Conserved`), and the text of the metrics
  does not depend on the order of the samples, but for the sums of histograms.
-/

namespace SurveyGateway.Service

open Histogram (Tallies)

/-! ### Three collectors -/

/-- How a status is written in a label. -/
def statusText (status : ℕ) : String := String.ofList (Number.natText status)

/-- How a cache hit is written in a label. -/
def hitText (hit : Bool) : String := if hit then "true" else "false"

theorem statusText_inj {m n : ℕ} : statusText m = statusText n ↔ m = n :=
  ⟨fun h => Number.natText_inj (String.ofList_injective h), congrArg statusText⟩

theorem hitText_inj {a b : Bool} : hitText a = hitText b ↔ a = b := by
  cases a <;> cases b <;> decide

/-- Samples whose values are sorted into buckets. -/
def Collector.tallying {σ : Type} (bounds : List Float) (value : σ → Float) (labels : σ → List String)
    (digest : σ → UInt64) (digest_eq : ∀ s t, labels s = labels t → digest s = digest t) : Collector σ Histogram where
  labels := labels
  digest := digest
  fresh := .empty bounds
  add s h := h.observe bounds (value s)
  digest_eq := digest_eq

/-- Durations by cache hit, path and status. -/
def durationCollector : Collector Sample Histogram :=
  .tallying durationBounds (·.duration) (fun s => [hitText s.cacheHit, s.path, statusText s.status])
    (fun s => Family.digestOf [s.path, statusText s.status, hitText s.cacheHit]) (fun s t h => by simp_all)

/-- Requests by method and path. -/
def requestCollector : Collector Sample ℕ where
  labels s := [s.method, s.path]
  digest s := Family.digestOf [s.method, s.path]
  fresh := 0
  add _ n := n + 1
  digest_eq _ _ := congrArg Family.digestOf

/-- Sizes by path and status. -/
def sizeCollector : Collector Sample Histogram :=
  .tallying sizeBounds (Number.ofNat ·.size) (fun s => [s.path, statusText s.status])
    (fun s => Family.digestOf [s.path, statusText s.status]) (fun _ _ => congrArg Family.digestOf)

/-- What has been recorded of samples. -/
def recorded (samples : List Sample) : Metrics := samples.foldl Metrics.record .empty

theorem recorded_eq (samples : List Sample) :
    recorded samples =
      ⟨durationCollector.gathered samples, requestCollector.gathered samples, sizeCollector.gathered samples⟩ := by
  induction samples using List.reverseRecOn with
  | nil => rfl
  | append_singleton samples s ih =>
    rw [recorded, List.foldl_append, ← recorded, ih]
    simp only [Collector.gathered_append]
    rfl

theorem Collector.summary_tallying {σ : Type} {bounds : List Float} {value : σ → Float} {labels : σ → List String}
    {digest : σ → UInt64} {digest_eq : ∀ s t, labels s = labels t → digest s = digest t} (samples : List σ) :
    (tallying bounds value labels digest digest_eq).summary samples =
      Histogram.observed bounds (samples.map value) := by
  rw [Histogram.observed, List.foldl_map]
  rfl

theorem summary_durations (samples : List Sample) :
    durationCollector.summary samples = Histogram.observed durationBounds (samples.map (·.duration)) :=
  Collector.summary_tallying samples

theorem summary_requests (samples : List Sample) : requestCollector.summary samples = samples.length := by
  induction samples using List.reverseRecOn with
  | nil => rfl
  | append_singleton samples s ih =>
    rw [Collector.summary, List.foldl_append, ← Collector.summary, ih, List.length_append]
    rfl

theorem summary_sizes (samples : List Sample) :
    sizeCollector.summary samples = Histogram.observed sizeBounds (samples.map (Number.ofNat ·.size)) :=
  Collector.summary_tallying samples

/-! ### What the families tell -/

/-- The upper bounds of sizes, as whole bytes. -/
def sizeLimits : List ℕ := [102400, 1048576, 5242880, 10485760, 20971520, 52428800, 104857600, 209715200]

theorem sizeBounds_eq : sizeBounds = sizeLimits.map Number.ofNat := by decide

theorem pairwise_durationBounds : durationBounds.Pairwise (· ≤ ·) := by decide

theorem pairwise_sizeBounds : sizeBounds.Pairwise (· ≤ ·) := by decide

/-- No two samples share a series in a family unless they have the same labels there. -/
structure ToldApart (samples : List Sample) : Prop where
  durations : durationCollector.ToldApart samples
  requests : requestCollector.ToldApart samples
  sizes : sizeCollector.ToldApart samples

/-- Labels that run together to one text are not told apart. -/
example : ¬ ToldApart [⟨"GET", "/a", 200, 0, false, 0.1⟩, ⟨"GE", "T/a", 200, 0, false, 0.1⟩] := fun h =>
  absurd h.requests (by decide)

/-- The durations of the samples with a path, a status and a cache hit. -/
def durationsOf (samples : List Sample) (path : String) (status : ℕ) (hit : Bool) : List Float :=
  (samples.filter fun s => s.path = path ∧ s.status = status ∧ s.cacheHit = hit).map (·.duration)

/-- The sizes of the samples with a path and a status. -/
def sizesOf (samples : List Sample) (path : String) (status : ℕ) : List ℕ :=
  (samples.filter fun s => s.path = path ∧ s.status = status).map (·.size)

/-- What metrics tell of samples. A counter is the number of samples with its method and path. A histogram of durations
or sizes counts the samples with its labels, and each of its buckets those of at most its bound. Each family counts all
samples. -/
structure Conserved (samples : List Sample) (m : Metrics) : Prop where
  requests : ∀ method path,
    m.requests.valueAt 0 [method, path] = samples.countP fun s => s.method = method ∧ s.path = path
  durations : ∀ path status hit, Tallies durationBounds (durationsOf samples path status hit)
    (m.durations.valueAt (.empty durationBounds) [hitText hit, path, statusText status])
  sizes : ∀ path status, Tallies sizeBounds ((sizesOf samples path status).map Number.ofNat)
    (m.sizes.valueAt (.empty sizeBounds) [path, statusText status])
  bytes : ∀ path status,
    Histogram.cumulative 0 (m.sizes.valueAt (.empty sizeBounds) [path, statusText status]).buckets =
      sizeLimits.map fun limit => (sizesOf samples path status).countP (· ≤ limit)
  durations_total : m.durations.total (·.count) = samples.length
  requests_total : m.requests.total id = samples.length
  sizes_total : m.sizes.total (·.count) = samples.length

variable {samples : List Sample}

theorem matching_durations (path : String) (status : ℕ) (hit : Bool) :
    durationCollector.matching samples [hitText hit, path, statusText status] =
      samples.filter fun s => s.path = path ∧ s.status = status ∧ s.cacheHit = hit :=
  List.filter_congr fun s _ => decide_eq_decide.mpr (by
    simp [durationCollector, Collector.tallying, hitText_inj, statusText_inj, and_comm, and_assoc])

theorem matching_requests (method path : String) :
    requestCollector.matching samples [method, path] = samples.filter fun s => s.method = method ∧ s.path = path :=
  List.filter_congr fun s _ => by simp [requestCollector]

theorem matching_sizes (path : String) (status : ℕ) :
    sizeCollector.matching samples [path, statusText status] =
      samples.filter fun s => s.path = path ∧ s.status = status :=
  List.filter_congr fun s _ => by simp [sizeCollector, Collector.tallying, statusText_inj]

theorem valueAt_durations (h : durationCollector.ToldApart samples) (path : String) (status : ℕ) (hit : Bool) :
    (recorded samples).durations.valueAt (.empty durationBounds) [hitText hit, path, statusText status] =
      Histogram.observed durationBounds (durationsOf samples path status hit) := by
  have hvalue := Collector.valueAt_gathered h [hitText hit, path, statusText status]
  rw [matching_durations, summary_durations] at hvalue
  rw [recorded_eq]
  exact hvalue

theorem valueAt_requests (h : requestCollector.ToldApart samples) (method path : String) :
    (recorded samples).requests.valueAt 0 [method, path] =
      samples.countP fun s => s.method = method ∧ s.path = path := by
  have hvalue := Collector.valueAt_gathered h [method, path]
  rw [matching_requests, summary_requests, ← List.countP_eq_length_filter] at hvalue
  rw [recorded_eq]
  exact hvalue

theorem valueAt_sizes (h : sizeCollector.ToldApart samples) (path : String) (status : ℕ) :
    (recorded samples).sizes.valueAt (.empty sizeBounds) [path, statusText status] =
      Histogram.observed sizeBounds ((sizesOf samples path status).map Number.ofNat) := by
  have hvalue := Collector.valueAt_gathered h [path, statusText status]
  rw [matching_sizes, summary_sizes] at hvalue
  rw [recorded_eq, sizesOf, List.map_map]
  exact hvalue

/-- A size is at most a bound exactly if its bytes are. -/
theorem countP_sizes (sizes : List ℕ) {limit : ℕ} (h : limit ∈ sizeLimits) :
    (sizes.map Number.ofNat).countP (· ≤ Number.ofNat limit) = sizes.countP (· ≤ limit) := by
  have hlimits : ∀ limit ∈ sizeLimits, limit < 2 ^ 53 := by decide
  rw [List.countP_map]
  exact List.countP_congr fun size _ => by simp [Number.ofNat_le_ofNat_iff (hlimits limit h)]

theorem totals_recorded (samples : List Sample) :
    (recorded samples).durations.total (·.count) = samples.length ∧
      (recorded samples).requests.total id = samples.length ∧
      (recorded samples).sizes.total (·.count) = samples.length := by
  rw [recorded_eq]
  exact ⟨Collector.total_gathered (fun _ _ => rfl) rfl samples, Collector.total_gathered (fun _ _ => rfl) rfl samples,
    Collector.total_gathered (fun _ _ => rfl) rfl samples⟩

/-! ### The order of samples -/

/-- The metrics with all sums of histograms set to zero. -/
def Metrics.withoutSums (m : Metrics) : Metrics where
  durations := m.durations.map (Series.map Histogram.withoutSum)
  requests := m.requests
  sizes := m.sizes.map (Series.map Histogram.withoutSum)

theorem withoutSums_recorded {others : List Sample} (h : ToldApart samples) (hperm : others.Perm samples) :
    (recorded others).withoutSums = (recorded samples).withoutSums := by
  have hdurations := Collector.gathered_perm Histogram.withoutSum (fun hl => by
    rw [summary_durations, summary_durations]
    exact Histogram.withoutSum_observed_perm pairwise_durationBounds (hl.map _)) h.durations hperm
  have hrequests := Collector.gathered_perm id (fun hl => by
    rw [summary_requests, summary_requests, hl.length_eq]) h.requests hperm
  have hsizes := Collector.gathered_perm Histogram.withoutSum (fun hl => by
    rw [summary_sizes, summary_sizes]
    exact Histogram.withoutSum_observed_perm pairwise_sizeBounds (hl.map _)) h.sizes hperm
  rw [List.map_id'' Series.map_id, List.map_id'' Series.map_id] at hrequests
  simp only [recorded_eq, Metrics.withoutSums, hdurations, hrequests, hsizes]

/-- **Samples are conserved.** Whatever is recorded of samples that their labels tell apart, the counters and histograms
hold what the samples tell, and but for the sums of histograms the text does not depend on the order of the samples. -/
theorem samples_conserved (samples : List Sample) (h : ToldApart samples) :
    Conserved samples (recorded samples) ∧
      ∀ others : List Sample, others.Perm samples →
        (recorded others).withoutSums.text = (recorded samples).withoutSums.text := by
  obtain ⟨hdurations, hrequests, hsizes⟩ := totals_recorded samples
  refine ⟨⟨valueAt_requests h.requests, fun path status hit => ?_, fun path status => ?_, fun path status => ?_,
    hdurations, hrequests, hsizes⟩, fun others hperm => congrArg Metrics.text (withoutSums_recorded h hperm)⟩
  · rw [valueAt_durations h.durations]
    exact Histogram.tallies_observed pairwise_durationBounds _
  · rw [valueAt_sizes h.sizes]
    exact Histogram.tallies_observed pairwise_sizeBounds _
  · rw [valueAt_sizes h.sizes, Histogram.buckets_observed pairwise_sizeBounds, sizeBounds_eq, List.map_map]
    exact List.map_congr_left fun limit hlimit => countP_sizes _ hlimit

/-- Three requests of one path. Two of them are answered, with a size on a bound and a size just above it, and one of
these took a time that is no number. -/
def fewSamples : List Sample :=
  [⟨"GET", "/slice", 200, 102400, true, 0.5⟩, ⟨"POST", "/slice", 200, 102401, true, 0.0 / 0.0⟩,
    ⟨"GET", "/slice", 404, 15, false, 0.1⟩]

theorem samples_conserved_few :
    (recorded fewSamples).requests.valueAt 0 ["GET", "/slice"] = 2 ∧
      Histogram.cumulative 0 ((recorded fewSamples).durations.valueAt (.empty durationBounds)
        [hitText true, "/slice", statusText 200]).buckets = [0, 1, 1, 1, 1, 1, 1, 1] ∧
      Histogram.cumulative 0 ((recorded fewSamples).sizes.valueAt (.empty sizeBounds)
        ["/slice", statusText 200]).buckets = [1, 2, 2, 2, 2, 2, 2, 2] ∧
      (recorded fewSamples.reverse).withoutSums.text = (recorded fewSamples).withoutSums.text := by
  obtain ⟨h, horder⟩ := samples_conserved fewSamples ⟨by decide, by decide, by decide⟩
  refine ⟨?_, ?_, ?_, horder _ fewSamples.reverse_perm⟩
  · exact (h.requests "GET" "/slice").trans (by decide)
  · exact (h.durations "/slice" 200 true).buckets_eq.trans (by decide)
  · exact (h.bytes "/slice" 200).trans (by decide)

end SurveyGateway.Service
