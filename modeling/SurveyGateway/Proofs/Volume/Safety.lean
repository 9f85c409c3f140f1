import SurveyGateway.Proofs.Volume.Places
import SurveyGateway.Proofs.Volume.Windows

/-!
# No question breaks off

Whatever is asked of a volume, it reaches only for samples that are there.

## The model

`Statistics.IsWindow` says what statistics may be computed on, and `Volume.ComputesOn` what they are computed on.
`pointWindow` is the part of `pointAttributes` that comes before the statistics.

## What is proved

* `meets_windowAt` — windows are fit for statistics.
* `completes_document`, `completes_samples` — the two computations that a product is made of.
* `answer_completes` — every question gets a product or a failure.
-/

namespace SurveyGateway

open Number SurveyGateway.Computation

/-! ### Windows for statistics -/

namespace Statistics

/-- What statistics may be computed on: a sample at least, no more than the limit, and the reference among them. The
samples that attributes pick out of the order are there: the middle one, and of an even number the one before it. -/
structure IsWindow (window : List Float) (reference : ℕ) : Prop where
  nonempty : 0 < window.length
  limit : window.length ≤ windowLimit
  reference : reference < window.length
  middle : (sorted (window.map Float.toBits)).length / 2 < (sorted (window.map Float.toBits)).length
  before : (sorted (window.map Float.toBits)).length % 2 = 0 → 0 < (sorted (window.map Float.toBits)).length / 2

theorem isWindow {window : List Float} {reference : ℕ} (hlimit : window.length ≤ windowLimit)
    (hreference : reference < window.length) : IsWindow window reference := by
  have hsorted : (sorted (window.map Float.toBits)).length = window.length := by
    rw [sorted, List.length_mergeSort, List.length_map]
  constructor
  · omega
  · exact hlimit
  · exact hreference
  · omega
  · omega

end Statistics

namespace Volume

variable {v : Volume}

/-! ### Windows -/

/-- A trace of the volume has a sample for each index of the sample axis. -/
structure Trace.IsWhole (v : Volume) (t : Trace) : Prop where
  scale : t.scale = v.sample.scale
  size : t.samples.size = v.sample.samples

/-- A position on a trace lies between two of its samples, or is off its ends. -/
theorem completes_sampleAt (hv : v.Sampled) {t : Trace} (ht : t.IsWhole v) (depth : Float) :
    Completes (t.sampleAt depth) := by
  unfold Trace.sampleAt
  dsimp only
  split
  · trivial
  · have hfirst : toNat (clamp (t.scale.position depth) 0.0 t.scale.last) < t.samples.size := by
      rw [ht.size, ht.scale]
      exact hv.toNat_clamp_lt .sample _
    have hsecond : Nat.min (toNat (clamp (t.scale.position depth) 0.0 t.scale.last) + 1) (t.samples.size - 1) <
        t.samples.size := (Nat.min_le_right _ _).trans_lt (Nat.sub_lt (by omega) Nat.one_pos)
    refine (completes_ofSample ?_).bind fun _ _ => (completes_ofSample ?_).bind fun _ _ => trivial
    · rw [Array.getElem?_eq_getElem hfirst]
      rfl
    · rw [Array.getElem?_eq_getElem hsecond]
      rfl

theorem samplesAt_cons (t : Trace) (depth : Float) (depths : List Float) :
    t.samplesAt (depth :: depths) = do
      match ← t.sampleAt depth with
      | none => return none
      | some x => return (← t.samplesAt depths).map (x :: ·) := by
  unfold Trace.samplesAt
  rw [List.mapM_cons, OptionT.run_bind, OptionT.run_mk]
  unfold Option.elimM
  congr 1
  funext sample
  cases sample with
  | none => rfl
  | some x =>
    show OptionT.run (do
      let rest ← depths.mapM fun depth => OptionT.mk (t.sampleAt depth)
      return x :: rest) = _
    rw [OptionT.run_bind]
    unfold Option.elimM
    congr 1
    funext samples
    cases samples with
    | none => rfl
    | some xs => rfl

/-- Depth by depth, a trace has a sample at each of them, or is left. -/
theorem meets_samplesAt (hv : v.Sampled) {t : Trace} (ht : t.IsWhole v) (depths : List Float) :
    Meets (t.samplesAt depths) fun window => ∀ samples ∈ window, samples.length = depths.length := by
  induction depths with
  | nil =>
    intro samples hsamples
    cases hsamples
    rfl
  | cons depth depths ih =>
    rw [samplesAt_cons]
    refine (completes_sampleAt hv ht depth).bind fun sample _ => ?_
    cases sample with
    | none => exact fun _ h => by cases h
    | some x =>
      refine ih.bind fun window hwindow => ?_
      intro samples hsamples
      obtain ⟨rest, hrest, rfl⟩ := Option.mem_map.mp hsamples
      rw [List.length_cons, List.length_cons, hwindow rest hrest]

/-- Steps are counted within the limit, and the samples are as many as the steps and the reference. -/
theorem meets_windowAt (hv : v.Sampled) {t : Trace} (ht : t.IsWhole v) {above below : Float}
    (habove : 0 ≤ value above) (hbelow : 0 ≤ value below) (reference step : Float) :
    Meets (t.windowAt reference above below step) fun window => ∀ p ∈ window, Statistics.IsWindow p.1 p.2 := by
  unfold Trace.windowAt
  dsimp only
  refine (completes_sampleAt hv ht _).bind fun top _ => ?_
  split
  · exact fun _ h => by cases h
  refine (completes_sampleAt hv ht _).bind fun bottom _ => ?_
  split
  · exact fun _ h => by cases h
  split
  · trivial
  · next hlimit =>
    rw [Bool.or_eq_true, Bool.not_eq_true', decide_eq_true_eq, not_or, Bool.not_eq_false] at hlimit
    have hcount := toNat_stepsWithin_add_le habove hbelow hlimit.1 hlimit.2
    refine (meets_samplesAt hv ht _).bind fun window hwindow => ?_
    intro p hp
    obtain ⟨samples, hsamples, rfl⟩ := Option.mem_map.mp hp
    have hlength := hwindow samples hsamples
    rw [length_windowDepths] at hlength
    show Statistics.IsWindow samples (toNat (stepsWithin above step))
    exact Statistics.isWindow (by omega) (by omega)

/-! ### Attribute maps -/

/-- The window at a point of a surface and the index of the reference in it; none if the point gets the fill value. -/
def pointWindow (v : Volume) (s : Surface) (row column : ℕ) (window : WindowSpec) (step : Float)
    (interpolation : Interpolation) : Computation (Option (List Float × ℕ)) := do
  let (x, y) := s.toWorld row column
  let (i, j) ← v.cdpToIndex x y
  match ← v.traceAt i j interpolation with
  | none => return none
  | some trace =>
    let trace : Trace := ⟨v.sample.scale, trace.toArray⟩
    trace.windowAt window.reference window.above window.below step

/-- The attributes at a point are those of its window. -/
theorem pointAttributes_eq (s : Surface) (row column : ℕ) (window : WindowSpec) (step : Float)
    (attributes : List Attribute) (interpolation : Interpolation) :
    v.pointAttributes s row column window step attributes interpolation = do
      let found ← v.pointWindow s row column window step interpolation
      return found.map fun (samples, reference) => attributes.map fun a => Statistics.compute a samples reference := by
  unfold pointAttributes pointWindow
  dsimp only
  rw [bind_assoc]
  congr 1
  funext index
  rw [bind_assoc]
  congr 1
  funext trace
  cases trace with
  | none => rfl
  | some trace =>
    dsimp only
    congr 1
    funext found
    cases found with
    | none => rfl
    | some found => rfl

theorem meets_pointWindow (hv : v.Sampled) {window : WindowSpec} (hwindow : window.Reaches) (s : Surface)
    (row column : ℕ) (step : Float) (interpolation : Interpolation) :
    Meets (v.pointWindow s row column window step interpolation) fun found =>
      ∀ p ∈ found, Statistics.IsWindow p.1 p.2 := by
  unfold pointWindow
  dsimp only
  refine (completes_cdpToIndex _ _).bind fun index _ => ?_
  refine (meets_traceAt hv _ _ interpolation).bind fun trace htrace => ?_
  cases trace with
  | none => exact fun _ h => by cases h
  | some samples =>
    have hwhole : Trace.IsWhole v ⟨v.sample.scale, samples.toArray⟩ := ⟨rfl, htrace samples rfl⟩
    exact meets_windowAt hv hwhole hwindow.above hwindow.below _ step

/-- All windows of a grid reach outward. -/
theorem completes_gridAttributes (hv : v.Sampled) {windows : List (List (Option WindowSpec))}
    (hwindows : ∀ row ∈ windows, ∀ window, some window ∈ row → window.Reaches) (s : Surface) (step : Float)
    (attributes : List Attribute) (interpolation : Interpolation) :
    Completes (v.gridAttributes s windows step attributes interpolation) := by
  unfold gridAttributes
  refine (completes_mapM fun row hrow => completes_mapM fun point hpoint => ?_).bind fun _ _ => trivial
  obtain ⟨window, column⟩ := point
  cases window with
  | none => trivial
  | some window =>
    have hmem := hwindows _ (List.fst_mem_of_mem_zipIdx hrow) window (List.fst_mem_of_mem_zipIdx hpoint)
    show Completes (v.pointAttributes s row.2 column window step attributes interpolation)
    rw [pointAttributes_eq]
    exact (meets_pointWindow hv hmem s _ _ step interpolation).bind fun _ _ => trivial

end Volume

/-! ### Questions -/

/-- A task computes statistics on the samples of a window that it makes up at a point, with the reference at an index
(and on nothing else, by `pointAttributes_eq`). -/
inductive Volume.ComputesOn (v : Volume) : Task → List Float → ℕ → Prop
  | along {surface : Surface} {extents : VerticalWindow} {attributes : List Attribute} {interpolation : Interpolation}
      {row column : ℕ} {windows : List (Option WindowSpec)} {window : WindowSpec} {samples : List Float}
      {reference : ℕ} (hrow : (Volume.windowsAlong surface extents)[row]? = some windows)
      (hcolumn : windows[column]? = some (some window))
      (h : v.pointWindow surface row column window (v.resampleStep extents.stepsize) interpolation =
        .ok (some (samples, reference))) :
      v.ComputesOn (.along surface extents attributes interpolation) samples reference
  | between {primary secondary : Surface} {stepsize : Float32} {attributes : List Attribute}
      {interpolation : Interpolation} {row column : ℕ} {windows : List (Option WindowSpec)} {window : WindowSpec}
      {samples : List Float} {reference : ℕ}
      (hrow : (Volume.windowsBetween primary secondary)[row]? = some windows)
      (hcolumn : windows[column]? = some (some window))
      (h : v.pointWindow primary row column window (v.resampleStep stepsize) interpolation =
        .ok (some (samples, reference))) :
      v.ComputesOn (.between primary secondary stepsize attributes interpolation) samples reference

namespace Volume

variable {v : Volume} {q : Question} {task : Task}

theorem completes_document (hv : v.Sampled) (task : Task) : Completes (v.document task) := by
  cases task with
  | slice direction line bounds =>
    have hslice := completes_slice hv direction line bounds
    exact (hslice.bind fun _ _ => trivial : Completes (v.sliceMetadata direction line bounds)).bind fun _ _ => trivial
  | _ => trivial

/-- The extents of a window along a surface have been checked. -/
theorem make_of_task {surface : Surface} {extents : VerticalWindow} {attributes : List Attribute}
    {interpolation : Interpolation} (h : q.task = .ok (.along surface extents attributes interpolation)) :
    ∃ above below stepsize, VerticalWindow.make above below stepsize = .ok extents := by
  cases q with
  | along q =>
    simp only [Question.task, bind_eq_ok_iff] at h
    obtain ⟨window, hwindow, _, -, _, -, h⟩ := h
    cases h
    exact ⟨_, _, _, hwindow⟩
  | metadata => cases h
  | slice q =>
    simp only [Question.task, bind_eq_ok_iff] at h
    obtain ⟨_, -, _, -, h⟩ := h
    cases h
  | fence q =>
    simp only [Question.task, bind_eq_ok_iff] at h
    obtain ⟨_, -, _, -, _, -, h⟩ := h
    cases h
  | between q =>
    simp only [Question.task, bind_eq_ok_iff] at h
    obtain ⟨_, -, _, -, _, -, h⟩ := h
    cases h

theorem completes_samples (hv : v.Sampled) (htask : q.task = .ok task) : Completes (v.samples task) := by
  cases task with
  | metadata => trivial
  | slice direction line bounds =>
    have hslice := completes_slice hv direction line bounds
    exact (hslice.bind fun _ _ => trivial : Completes (v.sliceSamples direction line bounds)).bind fun _ _ => trivial
  | fence system coordinates interpolation fill =>
    exact (completes_fence hv system coordinates interpolation fill).bind fun _ _ => trivial
  | along surface extents attributes interpolation =>
    obtain ⟨above, below, stepsize, hextents⟩ := make_of_task htask
    have hreach := reaches_windowsAlong hextents surface
    exact (completes_gridAttributes hv hreach surface _ attributes interpolation).bind fun _ _ => trivial
  | between primary secondary stepsize attributes interpolation =>
    have hreach := reaches_windowsBetween primary secondary
    show Completes (v.attributesBetween primary secondary stepsize attributes interpolation)
    unfold attributesBetween
    dsimp only
    split
    · trivial
    · exact (completes_gridAttributes hv hreach primary _ attributes interpolation).bind fun _ _ => trivial

/-- All windows that a question computes statistics on are fit for it. -/
theorem isWindow_of_computesOn (hv : v.Sampled) (htask : q.task = .ok task) {samples : List Float} {reference : ℕ}
    (h : v.ComputesOn task samples reference) : Statistics.IsWindow samples reference := by
  cases h with
  | along hrow hcolumn h =>
    obtain ⟨above, below, stepsize, hextents⟩ := make_of_task htask
    have hreach := reaches_windowsAlong hextents _ _ (List.mem_of_getElem? hrow) _ (List.mem_of_getElem? hcolumn)
    exact (meets_pointWindow hv hreach _ _ _ _ _).of_eq_ok h _ rfl
  | between hrow hcolumn h =>
    have hreach := reaches_windowsBetween _ _ _ (List.mem_of_getElem? hrow) _ (List.mem_of_getElem? hcolumn)
    exact (meets_pointWindow hv hreach _ _ _ _ _).of_eq_ok h _ rfl

/-- **No question breaks off.** Take a volume with a sample along each axis, in memory (`sampled_of_sizeInBytes`), with
any annotation of its axes and any transform. It gives a product or a failure for every question, with whatever numbers:
infinities and NaN are among them. Every line that is found is on its axis, and bounds leave a range of the axis that is
in order. What positions are moved into is a range in order, too. Statistics are computed only on windows of at least one
sample and at most as many as allowed, with the reference among them. -/
theorem answer_completes (hv : v.Sampled) (q : Question) :
    ((∃ p, v.answer q = .ok p) ∨ ∃ f, v.answer q = .error (.failed f)) ∧
      (∀ direction line index, v.lineIndex direction line = .ok index →
        index < (v.axis direction.dimension).samples) ∧
      (∀ dimension bounds range, v.boundedRange dimension bounds = .ok range →
        range.1 ≤ range.2 ∧ range.2 < (v.axis dimension).samples) ∧
      (∀ dimension, (0.0 : Float) ≤ ofNat (v.axis dimension).last) ∧
      (∀ task samples reference, q.task = .ok task → v.ComputesOn task samples reference →
        Statistics.IsWindow samples reference) := by
  refine ⟨?_, fun direction line index h => (meets_lineIndex hv direction line).of_eq_ok h,
    fun dimension bounds range h => (meets_boundedRange hv dimension bounds).of_eq_ok h, hv.zero_le_last,
    fun task samples reference htask h => isWindow_of_computesOn hv htask h⟩
  unfold answer
  cases htask : q.task with
  | error r => exact Or.inr ⟨_, rfl⟩
  | ok task =>
    have hperform : Completes (v.perform task) :=
      (completes_document hv task).bind fun document _ => (completes_samples hv htask).bind fun blocks _ => trivial
    exact hperform.report

theorem sampled_wellKnown : wellKnown.Sampled := by
  apply sampled_of_sizeInBytes
  · intro d
    cases d <;> decide
  · unfold sizeInBytes
    rw [size_data]
    decide

set_option maxRecDepth 4000 in
/-- Infinite bounds leave both crosslines of the small survey. -/
theorem boundedRange_infinite :
    wellKnown.boundedRange .crossline [⟨.crossline, -1.0 / 0.0, 1.0 / 0.0⟩] = .ok (0, 1) := by
  decide

/-- A slice at the last inline of three, with infinite bounds on both crosslines. -/
theorem answer_completes_sample :
    let q : Question := .slice ⟨"inline", 5, [⟨"crossline", -1.0 / 0.0, 1.0 / 0.0⟩]⟩
    ((∃ p, wellKnown.answer q = .ok p) ∨ ∃ f, wellKnown.answer q = .error (.failed f)) ∧
      wellKnown.lineIndex .inline 5 = .ok 2 ∧ 2 < (wellKnown.axis .inline).samples ∧
      wellKnown.boundedRange .crossline [⟨.crossline, -1.0 / 0.0, 1.0 / 0.0⟩] = .ok (0, 1) ∧
      1 < (wellKnown.axis .crossline).samples := by
  intro q
  have hline : wellKnown.lineIndex .inline 5 = .ok 2 := by decide
  obtain ⟨hanswer, hlines, hranges, -, -⟩ := answer_completes sampled_wellKnown q
  exact ⟨hanswer, hline, hlines _ _ _ hline, boundedRange_infinite, (hranges _ _ _ boundedRange_infinite).2⟩

end Volume

end SurveyGateway
