import SurveyGateway.Proofs.Volume.Faults

/-!
# Fences, coordinate by coordinate

A fence is a list of traces along a path, in whatever system its coordinates are given. It stops at the first
coordinate that there is no trace for, and tells which one that was. This module shows that what a fence has at a
coordinate is what a fence of this coordinate alone has, and what a fill value makes of it.

## The model

A fault of a fence names the position of a coordinate. `VolumeFault.later` is what becomes of it where other coordinates
come first. `Volume.traceOf` is what there is at a coordinate before any fill value stands in: a trace, none, or no place
in the volume at all.

## What is proved

* `fenceTrace_cases` — the three things that a coordinate can come to, with and without a fill value.
* `fence_append` — a fence goes on where another one ends.
* `fence_eq_error_iff` — a fence fails as its first failing coordinate does.
* `fence_singleton_of_ok`, `fence_singleton_of_fail` — what a fill value makes of a coordinate.
* `fence_pointwise` — so a fence is evaluated coordinate by coordinate.
-/

namespace SurveyGateway

open Number SurveyGateway.Computation

/-! ### Faults further on -/

/-- The fault that this one is, `count` coordinates further on. -/
def VolumeFault.later (count : ℕ) : VolumeFault → VolumeFault
  | .outside x y position => .outside x y (count + position)
  | f => f

/-- The mishap that this one is, `count` coordinates further on. -/
def Mishap.later (count : ℕ) : Mishap VolumeFault → Mishap VolumeFault
  | .failed f => .failed (f.later count)
  | .brokenOff => .brokenOff

theorem Mishap.later_zero (m : Mishap VolumeFault) : m.later 0 = m := by
  cases m with
  | failed f => cases f <;> simp [later, VolumeFault.later]
  | brokenOff => rfl

theorem Mishap.later_later (n m : ℕ) (mishap : Mishap VolumeFault) : (mishap.later m).later n = mishap.later (n + m) := by
  cases mishap with
  | failed f => cases f <;> simp [later, VolumeFault.later, Nat.add_assoc]
  | brokenOff => rfl

/-- A computation `count` coordinates further on: it gives the same, and fails with the place moved. -/
abbrev Computation.later {α : Type} (count : ℕ) (x : Computation α) : Computation α := x.mapError (Mishap.later count)

namespace Volume

variable {v : Volume} {system : CoordinateSystem} {interpolation : Interpolation} {fill : Option Float32}

/-! ### What there is at a coordinate -/

/-- The trace at a coordinate; none outside the survey. -/
def traceOf (v : Volume) (system : CoordinateSystem) (interpolation : Interpolation)
    (coordinate : Float32 × Float32) : Computation (Option (List Float)) := do
  let (i, j) ← v.toIndex system (widen coordinate.1) (widen coordinate.2)
  v.traceAt i j interpolation

theorem fenceTrace_eq (coordinate : Float32 × Float32) (position : ℕ) :
    v.fenceTrace system interpolation fill coordinate position = (do
      match ← v.traceOf system interpolation coordinate, fill with
      | some trace, _ => return trace.map narrow
      | none, some fill => return List.replicate v.traceLength fill
      | none, none => .fail (.outside coordinate.1 coordinate.2 position)) := by
  unfold fenceTrace traceOf
  exact (bind_assoc _ _ _).symm

/-- A place in the volume is looked for in vain only where the transform tells no two of them apart. -/
theorem failsWith_traceOf (coordinate : Float32 × Float32) :
    FailsWith (v.traceOf system interpolation coordinate) (· = .degenerateTransform) := by
  refine FailsWith.bind ?_ fun index _ => failsWith_traceAt index.1 index.2 interpolation
  cases system with
  | ij => exact failsWith_ok _
  | ilxl => exact failsWith_ok _
  | cdp => exact (failsWith_cdpToIndex _ _).mono fun f h => h.1

/-- What a coordinate comes to. A trace is what it is with any fill value and anywhere on a path. Where there is none, a
fill value stands in. Where no place can be looked for, none does. -/
theorem fenceTrace_cases (v : Volume) (system : CoordinateSystem) (interpolation : Interpolation)
    (coordinate : Float32 × Float32) :
    (∃ samples, ∀ fill position, v.fenceTrace system interpolation fill coordinate position = .ok samples) ∨
    ((∀ position, v.fenceTrace system interpolation none coordinate position =
        .fail (.outside coordinate.1 coordinate.2 position)) ∧
      ∀ x position, v.fenceTrace system interpolation (some x) coordinate position =
        .ok (List.replicate v.traceLength x)) ∨
    ∃ m, (m = .failed .degenerateTransform ∨ m = .brokenOff) ∧
      ∀ fill position, v.fenceTrace system interpolation fill coordinate position = .error m := by
  simp only [fenceTrace_eq]
  cases htrace : v.traceOf system interpolation coordinate with
  | ok trace =>
    cases trace with
    | some trace => exact Or.inl ⟨trace.map narrow, fun _ _ => rfl⟩
    | none => exact Or.inr (Or.inl ⟨fun _ => rfl, fun _ _ => rfl⟩)
  | error m =>
    refine Or.inr (Or.inr ⟨m, ?_, fun _ _ => rfl⟩)
    cases m with
    | failed f => exact Or.inl (congrArg _ (failsWith_traceOf coordinate f htrace))
    | brokenOff => exact Or.inr rfl

theorem fenceTrace_add (coordinate : Float32 × Float32) (count position : ℕ) :
    v.fenceTrace system interpolation fill coordinate (count + position) =
      (v.fenceTrace system interpolation fill coordinate position).later count := by
  rcases fenceTrace_cases v system interpolation coordinate with ⟨samples, h⟩ | ⟨hnone, hsome⟩ | ⟨m, hm, h⟩
  · rw [h, h]
    rfl
  · cases fill with
    | none => rw [hnone, hnone]; rfl
    | some x => rw [hsome, hsome]; rfl
  · rw [h, h]
    rcases hm with rfl | rfl <;> rfl

/-! ### Fences from parts -/

theorem fence_nil : v.fence system [] interpolation fill = .ok [] := rfl

/-- The traces along a path whose first coordinate is the one at `start`. -/
def tracesFrom (v : Volume) (system : CoordinateSystem) (interpolation : Interpolation) (fill : Option Float32)
    (start : ℕ) (coordinates : List (Float32 × Float32)) : Computation (List (List Float32)) :=
  (coordinates.zipIdx start).mapM fun point => v.fenceTrace system interpolation fill point.1 point.2

theorem fence_eq (coordinates : List (Float32 × Float32)) :
    v.fence system coordinates interpolation fill =
      List.flatten <$> v.tracesFrom system interpolation fill 0 coordinates := by
  rw [map_eq_pure_bind]
  rfl

theorem tracesFrom_eq (start : ℕ) (coordinates : List (Float32 × Float32)) :
    v.tracesFrom system interpolation fill start coordinates =
      (v.tracesFrom system interpolation fill 0 coordinates).later start := by
  unfold tracesFrom
  rw [List.zipIdx_eq_map_add, List.mapM_map]
  refine Eq.trans ?_ (mapM_mapError _ _ _)
  exact congrArg (List.mapM · _) (funext fun point => fenceTrace_add point.1 start point.2)

theorem tracesFrom_append (start : ℕ) (first second : List (Float32 × Float32)) :
    v.tracesFrom system interpolation fill start (first ++ second) = (do
      let traces ← v.tracesFrom system interpolation fill start first
      let others ← v.tracesFrom system interpolation fill (start + first.length) second
      return traces ++ others) := by
  unfold tracesFrom
  rw [List.zipIdx_append, List.mapM_append]

theorem fence_singleton (coordinate : Float32 × Float32) :
    v.fence system [coordinate] interpolation fill = v.fenceTrace system interpolation fill coordinate 0 := by
  rw [fence_eq, tracesFrom, List.zipIdx_singleton, List.mapM_cons, List.mapM_nil]
  cases v.fenceTrace system interpolation fill coordinate 0 with
  | ok samples => exact congrArg Except.ok (List.append_nil samples)
  | error m => rfl

/-- A fence goes on where another one ends, and the faults of what comes later are moved on by what comes first. -/
theorem fence_append (first second : List (Float32 × Float32)) :
    v.fence system (first ++ second) interpolation fill = (do
      let samples ← v.fence system first interpolation fill
      let others ← (v.fence system second interpolation fill).later first.length
      return samples ++ others) := by
  simp only [fence_eq, tracesFrom_append, Nat.zero_add, tracesFrom_eq first.length]
  cases v.tracesFrom system interpolation fill 0 first with
  | error m => rfl
  | ok traces =>
    cases v.tracesFrom system interpolation fill 0 second with
    | error m => rfl
    | ok others => exact congrArg Except.ok List.flatten_append

theorem fence_append_eq_ok_iff {first second : List (Float32 × Float32)} {samples : List Float32} :
    v.fence system (first ++ second) interpolation fill = .ok samples ↔
      ∃ before after, v.fence system first interpolation fill = .ok before ∧
        v.fence system second interpolation fill = .ok after ∧ samples = before ++ after := by
  simp only [fence_append, bind_eq_ok_iff, mapError_eq_ok_iff]
  constructor
  · rintro ⟨before, hbefore, after, hafter, h⟩
    exact ⟨before, after, hbefore, hafter, (Except.ok.inj h).symm⟩
  · rintro ⟨before, after, hbefore, hafter, rfl⟩
    exact ⟨before, hbefore, after, hafter, rfl⟩

/-- A fence comes to its end if each of its coordinates does. -/
theorem exists_fence_iff {coordinates : List (Float32 × Float32)} :
    (∃ samples, v.fence system coordinates interpolation fill = .ok samples) ↔
      ∀ c ∈ coordinates, ∃ samples, v.fence system [c] interpolation fill = .ok samples := by
  induction coordinates with
  | nil => simp [fence_nil]
  | cons c rest ih =>
    rw [List.forall_mem_cons, ← ih, ← List.singleton_append]
    simp only [fence_append_eq_ok_iff]
    constructor
    · rintro ⟨_, before, after, hbefore, hafter, -⟩
      exact ⟨⟨before, hbefore⟩, after, hafter⟩
    · rintro ⟨⟨before, hbefore⟩, after, hafter⟩
      exact ⟨_, before, after, hbefore, hafter, rfl⟩

/-- What a fence has at a coordinate is what it has at this coordinate alone. -/
theorem fence_part {coordinates : List (Float32 × Float32)} {samples : List Float32}
    (h : v.fence system coordinates interpolation fill = .ok samples) {p : ℕ} {c : Float32 × Float32}
    (hp : coordinates[p]? = some c) :
    v.fence system [c] interpolation fill = .ok ((samples.drop (p * v.traceLength)).take v.traceLength) := by
  obtain ⟨hlt, rfl⟩ := List.getElem?_eq_some_iff.mp hp
  rw [← List.take_append_drop p coordinates, List.drop_eq_getElem_cons hlt, ← List.singleton_append] at h
  obtain ⟨before, rest, hbefore, hrest, rfl⟩ := fence_append_eq_ok_iff.mp h
  obtain ⟨own, after, hown, -, rfl⟩ := fence_append_eq_ok_iff.mp hrest
  have hbefore : before.length = p * v.traceLength := by
    rw [length_fence hbefore, List.length_take, Nat.min_eq_left hlt.le]
  have hlength : own.length = v.traceLength := by simpa using length_fence hown
  rw [hown, ← hbefore, List.drop_left, ← hlength, List.take_left]

/-- A fence fails as the first of its coordinates that fails alone. -/
theorem fence_eq_error_iff {coordinates : List (Float32 × Float32)} {m : Mishap VolumeFault} :
    v.fence system coordinates interpolation fill = .error m ↔
      ∃ before c after m', coordinates = before ++ c :: after ∧
        (∀ b ∈ before, ∃ samples, v.fence system [b] interpolation fill = .ok samples) ∧
        v.fence system [c] interpolation fill = .error m' ∧ m = m'.later before.length := by
  constructor
  · -- the coordinates before the failing one are found one by one
    intro h
    induction coordinates generalizing m with
    | nil => cases h
    | cons c rest ih =>
      rw [← List.singleton_append, fence_append] at h
      cases hc : v.fence system [c] interpolation fill with
      | error m' =>
        rw [hc] at h
        refine ⟨[], c, rest, m', rfl, by simp, hc, ?_⟩
        rw [List.length_nil, Mishap.later_zero]
        exact (Except.error.inj h).symm
      | ok own =>
        rw [hc] at h
        cases hrest : v.fence system rest interpolation fill with
        | ok others =>
          rw [hrest] at h
          cases h
        | error later =>
          rw [hrest] at h
          obtain ⟨before, d, after, m', rfl, hbefore, hd, rfl⟩ := ih hrest
          refine ⟨c :: before, d, after, m', rfl, ?_, hd, ?_⟩
          · exact List.forall_mem_cons.mpr ⟨⟨own, hc⟩, hbefore⟩
          · rw [List.length_cons, Nat.add_comm, ← Mishap.later_later]
            exact (Except.error.inj h).symm
  · rintro ⟨before, c, after, m', rfl, hbefore, hc, rfl⟩
    obtain ⟨samples, hsamples⟩ := exists_fence_iff.mpr hbefore
    rw [fence_append, hsamples, ← List.singleton_append, fence_append, hc]
    rfl

/-! ### Fences come to an end -/

/-- An axis without samples has no inside. -/
theorem isInside_eq_false {a : Axis} (h : a.samples = 0) (position : Float) : isInside a position = false := by
  have hend : ofNat 0 - 0.5 = (-0.5 : Float) := by decide
  unfold isInside
  rw [h, hend, Bool.and_eq_false_iff, decide_eq_false_iff_not, decide_eq_false_iff_not, ← not_and_or]
  rintro ⟨hle, hlt⟩
  exact (le_iff.mp hle).2.2.not_gt (lt_iff.mp hlt).2.2

/-- A trace without samples is there. -/
theorem completes_trace_of_empty (h : v.sample.samples = 0) (i j : ℕ) : Completes (v.trace i j) := by
  unfold trace traceStart traceLength
  simp only [h, Nat.mul_zero, Nat.add_zero, Nat.zero_le, if_true]
  trivial

/-- No position makes a volume that there is memory for reach for a sample that is not there. -/
theorem completes_traceAt (hbytes : v.sizeInBytes ≤ 2 ^ 55) (i j : Float) (interpolation : Interpolation) :
    Completes (v.traceAt i j interpolation) := by
  rcases Nat.eq_zero_or_pos v.inline.samples with hi | hi
  · unfold traceAt
    rw [isInside_eq_false hi, Bool.and_false, Bool.false_and]
    trivial
  rcases Nat.eq_zero_or_pos v.crossline.samples with hj | hj
  · unfold traceAt
    rw [isInside_eq_false hj, Bool.and_false]
    trivial
  rcases Nat.eq_zero_or_pos v.sample.samples with hk | hk
  · have htrace := completes_trace_of_empty hk
    unfold traceAt
    split
    · trivial
    split
    · exact (htrace _ _).bind fun _ _ => trivial
    · refine (htrace _ _).bind fun _ _ => (htrace _ _).bind fun _ _ => ?_
      exact (htrace _ _).bind fun _ _ => (htrace _ _).bind fun _ _ => trivial
  · have hsampled : v.Sampled := sampled_of_sizeInBytes (fun d => by cases d <;> assumption) hbytes
    exact (meets_traceAt hsampled i j interpolation).mono fun _ _ _ => trivial

/-- A fence in a volume that there is memory for comes to an end, in a volume without samples too. -/
theorem completes_fence_of_sizeInBytes (hbytes : v.sizeInBytes ≤ 2 ^ 55) (coordinates : List (Float32 × Float32)) :
    Completes (v.fence system coordinates interpolation fill) := by
  refine (completes_mapM fun point _ => ?_).bind fun _ _ => trivial
  show Completes (v.fenceTrace system interpolation fill point.1 point.2)
  rw [fenceTrace_eq]
  refine Meets.bind (P := fun _ => True) ?_ fun trace _ => ?_
  · exact (completes_toIndex system _ _).bind fun index _ => completes_traceAt hbytes index.1 index.2 interpolation
  · cases trace with
    | some trace => trivial
    | none => cases fill <;> trivial

/-! ### Coordinate by coordinate -/

/-- A fill value changes nothing about a coordinate that has a trace without one. -/
theorem fence_singleton_of_ok {c : Float32 × Float32} {samples : List Float32}
    (h : v.fence system [c] interpolation none = .ok samples) (x : Float32) :
    v.fence system [c] interpolation (some x) = .ok samples := by
  rw [fence_singleton] at h ⊢
  rcases fenceTrace_cases v system interpolation c with ⟨own, hown⟩ | ⟨hnone, -⟩ | ⟨m, -, hm⟩
  · rw [hown] at h ⊢
    exact h
  · rw [hnone] at h
    cases h
  · rw [hm] at h
    cases h

/-- A coordinate that fails is outside, and a fill value stands in for it, or else nothing does. -/
theorem fence_singleton_of_fail {c : Float32 × Float32} {f : VolumeFault}
    (h : v.fence system [c] interpolation fill = .fail f) :
    f = .outside c.1 c.2 0 ∧
        (∀ x, v.fence system [c] interpolation (some x) = .ok (List.replicate v.traceLength x)) ∨
      f = .degenerateTransform ∧ ∀ x, v.fence system [c] interpolation (some x) = .fail .degenerateTransform := by
  simp only [fence_singleton] at h ⊢
  rcases fenceTrace_cases v system interpolation c with ⟨own, hown⟩ | ⟨hnone, hsome⟩ | ⟨m, hm, hfails⟩
  · rw [hown] at h
    cases h
  · refine Or.inl ⟨?_, fun x => hsome x 0⟩
    cases fill with
    | none =>
      rw [hnone] at h
      exact (Mishap.failed.inj (Except.error.inj h)).symm
    | some value =>
      rw [hsome] at h
      cases h
  · rw [hfails] at h
    cases h
    rcases hm with hm | hm
    · cases hm
      exact Or.inr ⟨rfl, fun x => hfails (some x) 0⟩
    · cases hm

/-- A coordinate that is told to be outside is the one at the position that is told with it. -/
theorem getElem?_of_outside {coordinates : List (Float32 × Float32)} {x y : Float32} {position : ℕ}
    (h : v.fence system coordinates interpolation fill = .fail (.outside x y position)) :
    coordinates[position]? = some (x, y) := by
  obtain ⟨before, c, after, m, rfl, -, hc, hm⟩ := fence_eq_error_iff.mp h
  cases m with
  | brokenOff => cases hm
  | failed f =>
    rcases fence_singleton_of_fail hc with ⟨rfl, -⟩ | ⟨rfl, -⟩
    · obtain ⟨rfl, rfl, rfl⟩ := VolumeFault.outside.inj (Mishap.failed.inj hm)
      rw [Nat.add_zero, List.getElem?_append_right le_rfl, Nat.sub_self]
      rfl
    · cases hm

/-- **Fences are evaluated coordinate by coordinate.** For every volume, system, interpolation and optional fill value:

* a fence along two paths, one behind the other, is there exactly if both are, and has the samples of the one followed
  by those of the other;
* a fence has the samples of one trace for each coordinate, and those of a coordinate are the fence of it alone;
* a fence fails as the first coordinate that fails alone, moved to the place of this one in the whole path, and one that
  is told to be outside is the coordinate at the position that is told;
* a fill value changes nothing about a coordinate that has a trace without one. A coordinate that has none is outside,
  and becomes one trace of the fill value, or else the transform is degenerate, with a fill value too;
* in a volume that there is memory for, a fence is there or fails. -/
theorem fence_pointwise (v : Volume) (system : CoordinateSystem) (interpolation : Interpolation)
    (fill : Option Float32) :
    (∀ first second samples, v.fence system (first ++ second) interpolation fill = .ok samples ↔
      ∃ before after, v.fence system first interpolation fill = .ok before ∧
        v.fence system second interpolation fill = .ok after ∧ samples = before ++ after) ∧
    (∀ coordinates samples, v.fence system coordinates interpolation fill = .ok samples →
      samples.length = coordinates.length * v.traceLength ∧
      ∀ p c, coordinates[p]? = some c →
        v.fence system [c] interpolation fill = .ok ((samples.drop (p * v.traceLength)).take v.traceLength)) ∧
    (∀ coordinates m, v.fence system coordinates interpolation fill = .error m ↔
      ∃ before c after m', coordinates = before ++ c :: after ∧
        (∀ b ∈ before, ∃ samples, v.fence system [b] interpolation fill = .ok samples) ∧
        v.fence system [c] interpolation fill = .error m' ∧ m = m'.later before.length) ∧
    (∀ coordinates x y position, v.fence system coordinates interpolation fill = .fail (.outside x y position) →
      coordinates[position]? = some (x, y)) ∧
    (∀ c samples, v.fence system [c] interpolation none = .ok samples →
      ∀ x, v.fence system [c] interpolation (some x) = .ok samples) ∧
    (∀ c f, v.fence system [c] interpolation none = .fail f →
      f = .outside c.1 c.2 0 ∧
        (∀ x, v.fence system [c] interpolation (some x) = .ok (List.replicate v.traceLength x)) ∨
      f = .degenerateTransform ∧ ∀ x, v.fence system [c] interpolation (some x) = .fail .degenerateTransform) ∧
    (v.sizeInBytes ≤ 2 ^ 55 → ∀ coordinates,
      (∃ samples, v.fence system coordinates interpolation fill = .ok samples) ∨
      ∃ f, v.fence system coordinates interpolation fill = .fail f) := by
  refine ⟨fun first second samples => fence_append_eq_ok_iff,
    fun coordinates samples h => ⟨length_fence h, fun p c hp => fence_part h hp⟩,
    fun coordinates m => fence_eq_error_iff, fun coordinates x y position h => getElem?_of_outside h,
    fun c samples h => fence_singleton_of_ok h, fun c f h => fence_singleton_of_fail h, fun hbytes coordinates => ?_⟩
  exact (completes_fence_of_sizeInBytes hbytes coordinates).cases

/-- Of a path that leaves the survey, the second coordinate is told, or the fill value stands in for it. -/
theorem fence_pointwise_sample :
    wellKnown.fence .ij [(0, 0), (7, 0)] .nearest none = .fail (.outside 7 0 1) ∧
      ∃ trace, wellKnown.fence .ij [(0, 0)] .nearest none = .ok trace ∧
        wellKnown.fence .ij [(0, 0), (7, 0)] .nearest (some (-1)) = .ok (trace ++ [-1, -1, -1, -1]) := by
  have hfirst : wellKnown.fence .ij [(0, 0)] .nearest none = .ok [100, 101, 102, 103] := by decide +kernel
  have hsecond : wellKnown.fence .ij [(7, 0)] .nearest none = .fail (.outside 7 0 0) := by decide
  obtain ⟨-, -, herror, -, -, -, -⟩ := fence_pointwise wellKnown .ij .nearest none
  obtain ⟨happend, -, -, -, hsame, hstand, -⟩ := fence_pointwise wellKnown .ij .nearest (some (-1))
  refine ⟨(herror _ _).mpr ⟨[(0, 0)], (7, 0), [], _, rfl, by simpa using ⟨_, hfirst⟩, hsecond, rfl⟩, _, hfirst, ?_⟩
  rcases hstand _ _ hsecond with ⟨-, hfill⟩ | ⟨h, -⟩
  · exact (happend [(0, 0)] [(7, 0)] _).mpr ⟨_, _, hsame _ _ hfirst _, hfill (-1), rfl⟩
  · cases h

end Volume

end SurveyGateway
