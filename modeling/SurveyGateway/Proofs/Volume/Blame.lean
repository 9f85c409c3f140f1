import SurveyGateway.Answer
import SurveyGateway.Proofs.Results

/-!
# Who is to blame for a question without an answer

A caller is blamed for what can be seen in the question alone, and the gateway for everything that a volume fails at.
This module shows that the two never mix: whether a caller is blamed, and with which words, does not depend on the
volume that is asked, and nothing has been asked of it by then.

## The model

`Operation` lists what can be asked of a volume that is open, and a `Handle` answers each of these. It may be anything
that keeps a state of its own, such as a count of what it has been asked. `Question.execute` is the way from a question
to its answer, check by check and call by call, with any handle. With the handle of a volume it is `Volume.answer`
(`execute_volume`).

## What is proved

* `execute_eq` — an execution is that of a task, or has refused its question before the first call.
* `Volume.refusal_or_fault`, `Volume.answer_eq_refused_iff` — why a question fails, and when its caller is blamed.
* `refused_alike` — callers are blamed for their questions alone.
-/

namespace SurveyGateway

/-! ### Operations and handles -/

/-- What can be asked of a volume that is open. -/
inductive Operation where
  | metadata
  | sliceMetadata (direction : Direction) (line : ℤ) (bounds : List Bound)
  | slice (direction : Direction) (line : ℤ) (bounds : List Bound)
  | fenceMetadata (coordinates : List (Float32 × Float32))
  | fence (system : CoordinateSystem) (coordinates : List (Float32 × Float32)) (interpolation : Interpolation)
      (fill : Option Float32)
  | attributeMetadata (surface : Surface)
  | attributesAlong (surface : Surface) (window : VerticalWindow) (attributes : List Attribute)
      (interpolation : Interpolation)
  | attributesBetween (primary secondary : Surface) (stepsize : Float32) (attributes : List Attribute)
      (interpolation : Interpolation)

/-- What an operation gives. -/
abbrev Operation.Result : Operation → Type
  | metadata => Metadata
  | sliceMetadata .. => SliceMetadata
  | fenceMetadata .. | attributeMetadata .. => ℕ × ℕ
  | slice .. | fence .. => List Float32
  | attributesAlong .. | attributesBetween .. => List (List Float32)

/-- Something that is open and answers operations. Its state may change with each of them. -/
def Handle (σ : Type) : Type := (o : Operation) → σ → Computation o.Result × σ

/-- What a volume answers to an operation. -/
def Volume.operate (v : Volume) : (o : Operation) → Computation o.Result
  | .metadata => .ok v.metadata
  | .sliceMetadata direction line bounds => v.sliceMetadata direction line bounds
  | .slice direction line bounds => v.sliceSamples direction line bounds
  | .fenceMetadata coordinates => .ok (coordinates.length, v.traceLength)
  | .fence system coordinates interpolation fill => v.fence system coordinates interpolation fill
  | .attributeMetadata surface => .ok (surface.rows, surface.columns)
  | .attributesAlong surface window attributes interpolation =>
    v.attributesAlong surface window attributes interpolation
  | .attributesBetween primary secondary stepsize attributes interpolation =>
    v.attributesBetween primary secondary stepsize attributes interpolation

/-- The handle of a volume. It leaves any state alone. -/
def Volume.handle (v : Volume) (σ : Type) : Handle σ := fun o s => (v.operate o, s)

/-! ### Executions -/

/-- Something that is done with a handle. -/
abbrev Execution (σ : Type) := ExceptT (Mishap Failure) (StateM σ)

namespace Execution

variable {σ α β : Type}

/-- A check of the question alone. -/
def check (x : Except Refusal α) : Execution σ α := fun s => (x.mapError fun r => .failed r.toFailure, s)

/-- An operation that is asked of a handle. -/
def call (h : Handle σ) (o : Operation) : Execution σ o.Result := fun s =>
  let (result, next) := h o s
  (result.report, next)

/-- A computation that leaves the state alone. -/
def lift (x : Computation α) : Execution σ α := fun s => (x.report, s)

theorem lift_bind (x : Computation α) (f : α → Computation β) :
    (lift x : Execution σ α) >>= (fun a => lift (f a)) = lift (x >>= f) := by
  cases x with
  | ok a => rfl
  | error e => cases e <;> rfl

theorem pure_eq_lift (a : α) : (pure a : Execution σ α) = lift (pure a) := rfl

end Execution

open Execution

/-- From a task to its product, with any handle. -/
def Task.execute {σ : Type} (h : Handle σ) : Task → Execution σ Product
  | .metadata => do
    let metadata : Metadata ← call h .metadata
    return ⟨metadata.toValue.bytes, []⟩
  | .slice direction line bounds => do
    let metadata : SliceMetadata ← call h (.sliceMetadata direction line bounds)
    let plane : List Float32 ← call h (.slice direction line bounds)
    return ⟨metadata.toValue.bytes, [encodeSamples plane]⟩
  | .fence system coordinates interpolation fill => do
    let shape : ℕ × ℕ ← call h (.fenceMetadata coordinates)
    let traces : List Float32 ← call h (.fence system coordinates interpolation fill)
    return ⟨(shapeValue shape).bytes, [encodeSamples traces]⟩
  | .along surface window attributes interpolation => do
    let shape : ℕ × ℕ ← call h (.attributeMetadata surface)
    let maps : List (List Float32) ← call h (.attributesAlong surface window attributes interpolation)
    return ⟨(shapeValue shape).bytes, maps.map encodeSamples⟩
  | .between primary secondary stepsize attributes interpolation => do
    let shape : ℕ × ℕ ← call h (.attributeMetadata primary)
    let maps : List (List Float32) ←
      call h (.attributesBetween primary secondary stepsize attributes interpolation)
    return ⟨(shapeValue shape).bytes, maps.map encodeSamples⟩

/-- From a question to its answer, with any handle. -/
def Question.execute {σ : Type} (h : Handle σ) : Question → Execution σ Product
  | .metadata => Task.metadata.execute h
  | .slice q => do
    let direction ← check (Direction.parse q.direction)
    let bounds ← check (q.bounds.mapM SliceBound.parse)
    (Task.slice direction q.line bounds).execute h
  | .fence q => do
    let system ← check (CoordinateSystem.parse q.coordinateSystem)
    let coordinates ← check (coordinatePairs q.coordinates)
    let interpolation ← check (Interpolation.parse q.interpolation)
    (Task.fence system coordinates interpolation q.fillValue).execute h
  | .along q => do
    let window ← check (VerticalWindow.make q.above q.below q.stepsize)
    let interpolation ← check (Interpolation.parse q.interpolation)
    let attributes ← check (Attribute.parseAll q.attributes)
    (Task.along q.surface window attributes interpolation).execute h
  | .between q => do
    check (checkStepsize q.stepsize)
    let interpolation ← check (Interpolation.parse q.interpolation)
    let attributes ← check (Attribute.parseAll q.attributes)
    (Task.between q.primary q.secondary q.stepsize attributes interpolation).execute h

variable {σ : Type}

/-- All checks come before the first call, so that an execution is its task's, or has only been refused. -/
theorem execute_eq (h : Handle σ) (q : Question) (s : σ) :
    q.execute h s = match q.task with
      | .ok task => task.execute h s
      | .error r => (.error (.failed r.toFailure), s) := by
  cases q with
  | metadata => rfl
  | slice q =>
    simp only [Question.execute, Question.task]
    cases Direction.parse q.direction with
    | error r => rfl
    | ok direction =>
      cases q.bounds.mapM SliceBound.parse with
      | error r => rfl
      | ok bounds => rfl
  | fence q =>
    simp only [Question.execute, Question.task]
    cases CoordinateSystem.parse q.coordinateSystem with
    | error r => rfl
    | ok system =>
      cases coordinatePairs q.coordinates with
      | error r => rfl
      | ok coordinates =>
        cases Interpolation.parse q.interpolation with
        | error r => rfl
        | ok interpolation => rfl
  | along q =>
    simp only [Question.execute, Question.task]
    cases VerticalWindow.make q.above q.below q.stepsize with
    | error r => rfl
    | ok window =>
      cases Interpolation.parse q.interpolation with
      | error r => rfl
      | ok interpolation =>
        cases Attribute.parseAll q.attributes with
        | error r => rfl
        | ok attributes => rfl
  | between q =>
    simp only [Question.execute, Question.task]
    cases checkStepsize q.stepsize with
    | error r => rfl
    | ok =>
      cases Interpolation.parse q.interpolation with
      | error r => rfl
      | ok interpolation =>
        cases Attribute.parseAll q.attributes with
        | error r => rfl
        | ok attributes => rfl

/-! ### The handle of a volume -/

theorem call_handle (v : Volume) (o : Operation) : call (v.handle σ) o = lift (v.operate o) := rfl

/-- A task with the handle of a volume is what the volume performs. -/
theorem execute_perform (v : Volume) (t : Task) : t.execute (v.handle σ) = lift (v.perform t) := by
  cases t with
  | metadata => rfl
  | slice | fence =>
    simp only [Task.execute, call_handle, pure_eq_lift, lift_bind, Volume.operate, Volume.perform, Volume.document,
      Volume.samples, bind_assoc, pure_bind]
    rfl
  | along | between =>
    simp only [Task.execute, call_handle, pure_eq_lift, lift_bind, Volume.operate, Volume.perform, Volume.document,
      Volume.samples, pure_bind]
    rfl

/-- With the handle of a volume, an execution is what the volume answers. -/
theorem execute_volume (v : Volume) (q : Question) (s : σ) : q.execute (v.handle σ) s = (v.answer q, s) := by
  rw [execute_eq, Volume.answer]
  cases q.task with
  | error r => rfl
  | ok task => exact congrFun (execute_perform v task) s

/-! ### Who is blamed -/

/-- What is told of a computation that fails is the fault that it fails with. -/
theorem Computation.fault_of_report {α : Type} {x : Computation α} {f : Failure}
    (h : x.report = .error (.failed f)) : ∃ fault : VolumeFault, f = fault.toFailure := by
  cases x with
  | ok a => cases h
  | error mishap =>
    cases mishap with
    | failed fault =>
      cases h
      exact ⟨fault, rfl⟩
    | brokenOff => cases h

/-- A question fails because it is not understood, or with a fault of the volume. -/
theorem Volume.refusal_or_fault {v : Volume} {q : Question} {f : Failure} (h : v.answer q = .error (.failed f)) :
    (∃ r, q.task = .error r ∧ f = r.toFailure) ∨ ∃ fault : VolumeFault, f = fault.toFailure := by
  unfold Volume.answer at h
  cases htask : q.task with
  | error r =>
    rw [htask] at h
    cases h
    exact Or.inl ⟨r, rfl, rfl⟩
  | ok task =>
    rw [htask] at h
    exact Or.inr (Computation.fault_of_report h)

/-- A volume blames a caller for exactly those questions that are not understood, and says why. -/
theorem Volume.answer_eq_refused_iff {v : Volume} {q : Question} {m : String} :
    v.answer q = .error (.failed ⟨.caller, m⟩) ↔ ∃ r, q.task = .error r ∧ r.message = m := by
  constructor
  · intro h
    rcases refusal_or_fault h with ⟨r, htask, hr⟩ | ⟨fault, hfault⟩
    · exact ⟨r, htask, (congrArg Failure.message hr).symm⟩
    · cases hfault
  · rintro ⟨r, htask, rfl⟩
    rw [Volume.answer, htask]
    rfl

/-- **Callers are blamed for their questions alone.** An execution with the handle of a volume is what the volume
answers. Any two volumes, of whatever sizes, blame a caller for the same questions and with the same
words; and then no operation of whatever handle has been called, for its state is as it was. All that a volume fails at
in one of its operations is blamed on the gateway, and so is all that it answers to a question but a refusal of the
question itself. -/
theorem refused_alike (q : Question) :
    (∀ (v : Volume) (σ : Type) (s : σ), q.execute (v.handle σ) s = (v.answer q, s)) ∧
      (∀ (v w : Volume) (m : String),
        v.answer q = .error (.failed ⟨.caller, m⟩) ↔ w.answer q = .error (.failed ⟨.caller, m⟩)) ∧
      (∀ (v : Volume) (m : String), v.answer q = .error (.failed ⟨.caller, m⟩) →
        ∀ (σ : Type) (h : Handle σ) (s : σ), q.execute h s = (.error (.failed ⟨.caller, m⟩), s)) ∧
      (∀ (v : Volume) (o : Operation) (f : Failure), (v.operate o).report = .error (.failed f) →
        f.blame = .gateway) ∧
      (∀ (v : Volume) (f : Failure), v.answer q = .error (.failed f) →
        (∃ r, q.task = .error r ∧ f = r.toFailure) ∨ f.blame = .gateway) := by
  refine ⟨fun v σ s => execute_volume v q s, fun v w m => ?_, fun v m hv σ h s => ?_, fun v o f hf => ?_,
    fun v f hf => ?_⟩
  · rw [Volume.answer_eq_refused_iff, Volume.answer_eq_refused_iff]
  · obtain ⟨r, htask, rfl⟩ := Volume.answer_eq_refused_iff.mp hv
    rw [execute_eq, htask]
    rfl
  · obtain ⟨fault, rfl⟩ := Computation.fault_of_report hf
    rfl
  · rcases Volume.refusal_or_fault hf with hr | ⟨fault, rfl⟩
    · exact Or.inl hr
    · exact Or.inr rfl

/-- A slice along an unknown direction, with a handle that counts the operations: it has not been asked anything. -/
theorem refused_alike_sample :
    let q : Question := .slice ⟨"x", 0, []⟩
    let refusal := Refusal.unknownToken "invalid direction" "x"
      ["i", "j", "k", "inline", "crossline", "depth", "time", "sample"]
    let counting : Handle ℕ := fun o n => (Volume.wellKnown.operate o, n + 1)
    Volume.wellKnown.answer q = .error (.failed refusal.toFailure) ∧
      q.execute counting 0 = (.error (.failed refusal.toFailure), 0) := by
  intro q refusal counting
  have hparse : Direction.parse "x" = .error refusal := by decide
  have hanswer : Volume.wellKnown.answer q = .error (.failed refusal.toFailure) := by
    simp only [Volume.answer, q, Question.task, hparse]
    rfl
  exact ⟨hanswer, (refused_alike q).2.2.1 _ _ hanswer ℕ counting 0⟩

end SurveyGateway
