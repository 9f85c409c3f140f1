import SurveyGateway.Proofs.Document.Questions

/-!
# What a document tells of its question

`Question.told` is a question with NaN in place of every float that is not finite, and without a fill value that is
not. It is what the canonical document tells of the question, no more and no less: every text, every integer, the
length and the order of every list, and every finite float to the bit, also the sign of a zero.

`Question.alike_iff` takes the relation `Alike`, which goes through questions side by side, to equality of what is told.
Its proof follows the parts of a question, with one lemma for each kind of part. `same_document_iff` is what follows
for documents.
-/

namespace SurveyGateway

/-! ### Parts of questions -/

/-- Lists whose items are related if they have the same image. -/
theorem forall₂_iff_map_eq {α β : Type} {R : α → α → Prop} {f : α → β} (h : ∀ a b, R a b ↔ f a = f b)
    (xs ys : List α) : List.Forall₂ R xs ys ↔ xs.map f = ys.map f := by
  have hR : R = fun a b => f a = f b := by
    funext a b
    exact propext (h a b)
  rw [hR, ← List.forall₂_eq_eq_eq, List.forall₂_map_left_iff, List.forall₂_map_right_iff]

namespace Number

/-- The float that stands for all that are not finite. -/
def nan : Float32 := .ofBits 0x7fc00000

theorem isFinite_nan : nan.isFinite = false := by decide

/-- What a text tells of a float: NaN if it is not finite. -/
def told (x : Float32) : Float32 := if x.isFinite then x else nan

/-- What a text tells of a number that may be missing. -/
def toldOptional (x : Option Float32) : Option Float32 := x.filter Float32.isFinite

theorem told_of_isFinite {x : Float32} (h : x.isFinite = true) : told x = x := if_pos h

theorem told_of_not_isFinite {x : Float32} (h : x.isFinite = false) : told x = nan := by
  rw [told, h]
  rfl

theorem isFinite_told (x : Float32) : (told x).isFinite = x.isFinite := by
  cases h : x.isFinite with
  | true => rw [told_of_isFinite h, h]
  | false => rw [told_of_not_isFinite h, isFinite_nan]

theorem alike_iff (x y : Float32) : Alike x y ↔ told x = told y := by
  constructor
  · rintro (rfl | ⟨hx, hy⟩)
    · rfl
    · rw [told_of_not_isFinite hx, told_of_not_isFinite hy]
  · intro h
    have hfinite : x.isFinite = y.isFinite := by rw [← isFinite_told x, h, isFinite_told]
    cases hx : x.isFinite with
    | false => exact Or.inr ⟨hx, hfinite.symm.trans hx⟩
    | true =>
      rw [told_of_isFinite hx, told_of_isFinite (hfinite.symm.trans hx)] at h
      exact Or.inl h

theorem toldOptional_eq_none_iff (x : Option Float32) : toldOptional x = none ↔ ∀ a ∈ x, a.isFinite = false := by
  cases x <;> simp [toldOptional]

theorem optionalAlike_iff (x y : Option Float32) : OptionalAlike x y ↔ toldOptional x = toldOptional y := by
  constructor
  · rintro (rfl | ⟨hx, hy⟩)
    · rfl
    · rw [(toldOptional_eq_none_iff x).mpr hx, (toldOptional_eq_none_iff y).mpr hy]
  · intro h
    cases hx : toldOptional x with
    | none =>
      exact Or.inr ⟨(toldOptional_eq_none_iff x).mp hx, (toldOptional_eq_none_iff y).mp (h.symm.trans hx)⟩
    | some a =>
      have hy := h.symm.trans hx
      exact Or.inl ((Option.eq_some_of_filter_eq_some hx).trans (Option.eq_some_of_filter_eq_some hy).symm)

/-- Rows of floats. -/
theorem rows_alike_iff (xss yss : List (List Float32)) :
    List.Forall₂ (List.Forall₂ Alike) xss yss ↔ xss.map (·.map told) = yss.map (·.map told) :=
  forall₂_iff_map_eq (forall₂_iff_map_eq alike_iff) xss yss

end Number

open Number (toldOptional)

/-- What a document tells of a bound. -/
def SliceBound.told (b : SliceBound) : SliceBound := ⟨b.direction, Number.told b.lower, Number.told b.upper⟩

theorem SliceBound.alike_iff (a b : SliceBound) : a.Alike b ↔ a.told = b.told := by
  simp only [Alike, told, Number.alike_iff, SliceBound.mk.injEq]

/-- What a document tells of a surface. -/
def Surface.told (s : Surface) : Surface where
  values := s.values.map (·.map Number.told)
  xori := Number.told s.xori
  yori := Number.told s.yori
  xinc := Number.told s.xinc
  yinc := Number.told s.yinc
  rotation := Number.told s.rotation
  fillValue := Number.told s.fillValue

theorem Surface.alike_iff (a b : Surface) : a.Alike b ↔ a.told = b.told := by
  simp only [Alike, told, Number.rows_alike_iff, Number.alike_iff, Surface.mk.injEq]

/-! ### Questions -/

namespace Question

/-- What a document tells of a question: all but which floats that are not finite it holds, and whether its fill value
is such a float or missing. -/
def told : Question → Question
  | .metadata => .metadata
  | .slice q => .slice { q with bounds := q.bounds.map SliceBound.told }
  | .fence q => .fence { q with
      coordinates := q.coordinates.map (·.map Number.told)
      fillValue := toldOptional q.fillValue }
  | .along q => .along { q with
      surface := q.surface.told
      above := Number.told q.above
      below := Number.told q.below
      stepsize := Number.told q.stepsize }
  | .between q => .between { q with
      primary := q.primary.told
      secondary := q.secondary.told
      stepsize := Number.told q.stepsize }

/-- Questions are alike if the same is told of them. -/
theorem alike_iff (q q' : Question) : q.Alike q' ↔ q.told = q'.told := by
  cases q <;> cases q' <;> simp only [Alike, told, reduceCtorEq]
  · simp only [slice.injEq, SliceQuestion.mk.injEq, forall₂_iff_map_eq SliceBound.alike_iff]
  · simp only [fence.injEq, FenceQuestion.mk.injEq, Number.rows_alike_iff, Number.optionalAlike_iff]
  · simp only [along.injEq, AlongQuestion.mk.injEq, Surface.alike_iff, Number.alike_iff, List.forall₂_eq_eq_eq]
  · simp only [between.injEq, BetweenQuestion.mk.injEq, Surface.alike_iff, Number.alike_iff, List.forall₂_eq_eq_eq]

end Question

/-- **When two documents are the same.** The canonical documents of two questions, of any kinds, have the same bytes
exactly if they are about the same dataset and the same is told of both questions: they are equal but for floats that
are not finite, which are not told from each other, nor as fill values from a value that is missing. -/
theorem same_document_iff (dataset dataset' : String) (q q' : Question) :
    (canonicalDocument dataset q).bytes = (canonicalDocument dataset' q').bytes ↔
      dataset = dataset' ∧ q.told = q'.told := by
  rw [bytes_canonicalDocument_iff, Question.alike_iff]

end SurveyGateway
