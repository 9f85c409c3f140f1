import SurveyGateway.Proofs.Volume.Safety

/-!
# What windows fail at

Most of what is done at a point of a surface cannot fail: positions are looked up, traces are taken or mixed, samples
are read between two others. A window is not made up only where the transform does not tell world positions apart, or
where the window would have too many samples. Neither depends on where the point comes to lie.

## The model

`FailsWith x F` says that the faults of a computation satisfy `F`; where nothing does and the computation is not broken
off either, there is a result (`Meets.exists_ok`).

## What is proved

* `failsWith_cdpToIndex`, `failsWith_windowAt` — the two places that faults come from.
* `failsWith_pointWindow` — what a point fails at.
-/

namespace SurveyGateway

open Number

/-! ### Faults of a computation -/

namespace Computation

variable {α β : Type} {x : Computation α} {F G : VolumeFault → Prop}

/-- All that a computation fails with satisfies `F`. -/
def FailsWith (x : Computation α) (F : VolumeFault → Prop) : Prop := ∀ f, x = .error (.failed f) → F f

theorem failsWith_ok (a : α) : FailsWith (.ok a) F := fun _ h => by cases h

theorem failsWith_brokenOff : FailsWith (.error .brokenOff : Computation α) F := fun _ h => by cases h

theorem FailsWith.mono (h : FailsWith x F) (hF : ∀ f, F f → G f) : FailsWith x G := fun f hf => hF f (h f hf)

theorem FailsWith.bind {f : α → Computation β} (h : FailsWith x F) (hf : ∀ a, x = .ok a → FailsWith (f a) F) :
    FailsWith (x >>= f) F := by
  cases x with
  | ok a => exact hf a rfl
  | error mishap => exact fun fault hfault => h fault (congrArg Except.error (Except.error.inj hfault))

/-- A sample that is not there is no fault. -/
theorem failsWith_ofSample (x : Option α) : FailsWith (ofSample x) F := by
  cases x with
  | some a => exact failsWith_ok a
  | none => exact failsWith_brokenOff

/-- What is neither broken off nor fails has a result. -/
theorem Meets.exists_ok {P : α → Prop} (h : Meets x P) (hx : FailsWith x fun _ => False) : ∃ a, x = .ok a := by
  cases x with
  | ok a => exact ⟨a, rfl⟩
  | error mishap =>
    cases mishap with
    | failed f => exact (hx f rfl).elim
    | brokenOff => exact h.elim

end Computation

open SurveyGateway.Computation

namespace Volume

variable {v : Volume} {F : VolumeFault → Prop}

/-! ### Traces -/

theorem failsWith_trace (i j : ℕ) : FailsWith (v.trace i j) F := by
  unfold trace
  dsimp only
  split
  · exact failsWith_ok _
  · exact failsWith_brokenOff

theorem failsWith_traceAt (i j : Float) (interpolation : Interpolation) :
    FailsWith (v.traceAt i j interpolation) F := by
  unfold traceAt
  split
  · exact failsWith_ok _
  · split
    · exact (failsWith_trace _ _).bind fun _ _ => failsWith_ok _
    · refine (failsWith_trace _ _).bind fun _ _ => ?_
      refine (failsWith_trace _ _).bind fun _ _ => ?_
      refine (failsWith_trace _ _).bind fun _ _ => ?_
      exact (failsWith_trace _ _).bind fun _ _ => failsWith_ok _

theorem failsWith_sampleAt (t : Trace) (depth : Float) : FailsWith (t.sampleAt depth) F := by
  unfold Trace.sampleAt
  dsimp only
  split
  · exact failsWith_ok _
  · exact (failsWith_ofSample _).bind fun _ _ => (failsWith_ofSample _).bind fun _ _ => failsWith_ok _

theorem failsWith_samplesAt (t : Trace) (depths : List Float) : FailsWith (t.samplesAt depths) F := by
  induction depths with
  | nil => exact failsWith_ok _
  | cons depth depths ih =>
    rw [samplesAt_cons]
    refine (failsWith_sampleAt t depth).bind fun sample _ => ?_
    cases sample with
    | none => exact failsWith_ok _
    | some x => exact ih.bind fun _ _ => failsWith_ok _

/-! ### The two faults -/

/-- The transform does not tell world positions apart. -/
def Degenerate (v : Volume) : Prop :=
  (v.transform.inlineStep.1 * v.transform.crosslineStep.2 -
    v.transform.inlineStep.2 * v.transform.crosslineStep.1).abs < epsilon

instance (v : Volume) : Decidable v.Degenerate := inferInstanceAs (Decidable (_ < _))

theorem failsWith_cdpToIndex (x y : Float) :
    FailsWith (v.cdpToIndex x y) fun f => f = .degenerateTransform ∧ v.Degenerate := by
  unfold cdpToIndex
  dsimp only
  split
  · next h =>
    intro f hf
    cases hf
    exact ⟨rfl, h⟩
  · exact failsWith_ok _

/-- The number of samples of a window: its steps above and below the reference, and the reference itself. -/
def windowTotal (above below step : Float) : Float := stepsWithin above step + stepsWithin below step + 1.0

/-- A window has more samples than there may be. -/
def TooLarge (above below step : Float) : Prop :=
  (windowTotal above below step).isFinite = false ∨ ofNat windowLimit < windowTotal above below step

instance (above below step : Float) : Decidable (TooLarge above below step) :=
  inferInstanceAs (Decidable (_ ∨ _))

theorem failsWith_windowAt (t : Trace) (reference above below step : Float) :
    FailsWith (t.windowAt reference above below step) fun f =>
      f = .windowTooLarge (windowTotal above below step) ∧ TooLarge above below step := by
  unfold Trace.windowAt
  dsimp only
  refine (failsWith_sampleAt t _).bind fun top _ => ?_
  split
  · exact failsWith_ok _
  refine (failsWith_sampleAt t _).bind fun bottom _ => ?_
  split
  · exact failsWith_ok _
  split
  · next h =>
    intro f hf
    cases hf
    rw [Bool.or_eq_true, Bool.not_eq_true', decide_eq_true_eq] at h
    exact ⟨rfl, h⟩
  · exact (failsWith_samplesAt t _).bind fun _ _ => failsWith_ok _

/-! ### Points -/

/-- Why there is no window at a point. -/
inductive NoWindow (v : Volume) (window : WindowSpec) (step : Float) : VolumeFault → Prop
  | degenerate (h : v.Degenerate) : v.NoWindow window step .degenerateTransform
  | tooLarge (h : TooLarge window.above window.below step) :
      v.NoWindow window step (.windowTooLarge (windowTotal window.above window.below step))

/-- What a point fails at is the same wherever it comes to lie. -/
theorem failsWith_pointWindow (s : Surface) (row column : ℕ) (window : WindowSpec) (step : Float)
    (interpolation : Interpolation) :
    FailsWith (v.pointWindow s row column window step interpolation) (v.NoWindow window step) := by
  unfold pointWindow
  dsimp only
  refine FailsWith.bind ?_ fun index _ => ?_
  · exact (failsWith_cdpToIndex _ _).mono fun f ⟨hf, h⟩ => hf ▸ .degenerate h
  refine (failsWith_traceAt _ _ interpolation).bind fun trace _ => ?_
  cases trace with
  | none => exact failsWith_ok _
  | some samples => exact (failsWith_windowAt _ _ _ _ step).mono fun f ⟨hf, h⟩ => hf ▸ .tooLarge h

end Volume

end SurveyGateway
