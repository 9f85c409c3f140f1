import SurveyGateway.Proofs.Document.Kernel
import SurveyGateway.Request.Inquiry

/-!
# Questions of one document

The canonical document of a question leaves nothing out, but it writes `null` for every float that is not finite, and
for a fill value that is not there. Two questions are `Alike` if they differ in such floats alone.

## What is proved

* `bytes_canonicalDocument_iff` — documents have the same bytes exactly if they are about the same dataset and alike
  questions.
* `Question.Alike.eq` — questions without infinities and NaN are alike only if they are equal.
-/

namespace SurveyGateway

open Json Number

/-! ### Alike questions -/

namespace SliceBound

/-- The floats of a bound. -/
def floats (b : SliceBound) : List Float32 := [b.lower, b.upper]

/-- Bounds of one document. -/
def Alike (a b : SliceBound) : Prop :=
  a.direction = b.direction ∧ Number.Alike a.lower b.lower ∧ Number.Alike a.upper b.upper

end SliceBound

namespace Surface

/-- The floats of a surface. -/
def floats (s : Surface) : List Float32 :=
  s.values.flatten ++ [s.xori, s.yori, s.xinc, s.yinc, s.rotation, s.fillValue]

/-- Surfaces of one document. -/
def Alike (a b : Surface) : Prop :=
  List.Forall₂ (List.Forall₂ Number.Alike) a.values b.values ∧ Number.Alike a.xori b.xori ∧
    Number.Alike a.yori b.yori ∧ Number.Alike a.xinc b.xinc ∧ Number.Alike a.yinc b.yinc ∧
    Number.Alike a.rotation b.rotation ∧ Number.Alike a.fillValue b.fillValue

end Surface

namespace Question

/-- The floats of a question. -/
def floats : Question → List Float32
  | .metadata => []
  | .slice q => q.bounds.flatMap SliceBound.floats
  | .fence q => q.coordinates.flatten ++ q.fillValue.toList
  | .along q => q.surface.floats ++ [q.above, q.below, q.stepsize]
  | .between q => q.primary.floats ++ q.secondary.floats ++ [q.stepsize]

/-- Questions of one document. -/
def Alike : Question → Question → Prop
  | .metadata, .metadata => True
  | .slice a, .slice b =>
    a.direction = b.direction ∧ a.line = b.line ∧ List.Forall₂ SliceBound.Alike a.bounds b.bounds
  | .fence a, .fence b =>
    a.coordinateSystem = b.coordinateSystem ∧ List.Forall₂ (List.Forall₂ Number.Alike) a.coordinates b.coordinates ∧
      a.interpolation = b.interpolation ∧ OptionalAlike a.fillValue b.fillValue
  | .along a, .along b =>
    a.surface.Alike b.surface ∧ Number.Alike a.above b.above ∧ Number.Alike a.below b.below ∧
      Number.Alike a.stepsize b.stepsize ∧ List.Forall₂ Eq a.attributes b.attributes ∧
      a.interpolation = b.interpolation
  | .between a, .between b =>
    a.primary.Alike b.primary ∧ a.secondary.Alike b.secondary ∧ Number.Alike a.stepsize b.stepsize ∧
      List.Forall₂ Eq a.attributes b.attributes ∧ a.interpolation = b.interpolation
  | _, _ => False

end Question

/-! ### Documents of questions -/

theorem kernel_bound : Kernel SliceBound.toValue SliceBound.Alike :=
  MemberKernel.object
    (.cons "direction" (kernel_text.comap SliceBound.direction) <|
      .cons "lower" (kernel_float32.comap SliceBound.lower) <|
      .last "upper" (kernel_float32.comap SliceBound.upper))
    fun _ => List.cons_ne_nil _ _

theorem kernel_floats : Kernel (fun xss : List (List Float32) => Value.list (xss.map Value.floats32))
    (List.Forall₂ (List.Forall₂ Number.Alike)) :=
  kernel_float32.list.list

theorem kernel_surface : Kernel Surface.toValue Surface.Alike :=
  MemberKernel.object
    (.cons "values" (kernel_floats.comap Surface.values) <|
      .cons "xori" (kernel_float32.comap Surface.xori) <|
      .cons "yori" (kernel_float32.comap Surface.yori) <|
      .cons "xinc" (kernel_float32.comap Surface.xinc) <|
      .cons "yinc" (kernel_float32.comap Surface.yinc) <|
      .cons "rotation" (kernel_float32.comap Surface.rotation) <|
      .last "fillValue" (kernel_float32.comap Surface.fillValue))
    fun _ => List.cons_ne_nil _ _

theorem members_slice : MemberKernel (fun q => (Question.slice q).members)
    fun a b => (Question.slice a).Alike (.slice b) :=
  .cons "direction" (kernel_text.comap SliceQuestion.direction) <|
    .cons "lineno" (kernel_integer.comap SliceQuestion.line) <|
    .last "bounds" (kernel_bound.list.comap SliceQuestion.bounds)

theorem members_fence : MemberKernel (fun q => (Question.fence q).members)
    fun a b => (Question.fence a).Alike (.fence b) :=
  .cons "coordinateSystem" (kernel_text.comap FenceQuestion.coordinateSystem) <|
    .cons "coordinates" (kernel_floats.comap FenceQuestion.coordinates) <|
    .cons "interpolation" (kernel_text.comap FenceQuestion.interpolation) <|
    .last "fillValue" (kernel_optional.comap FenceQuestion.fillValue)

theorem members_along : MemberKernel (fun q => (Question.along q).members)
    fun a b => (Question.along a).Alike (.along b) :=
  .cons "surface" (kernel_surface.comap AlongQuestion.surface) <|
    .cons "above" (kernel_float32.comap AlongQuestion.above) <|
    .cons "below" (kernel_float32.comap AlongQuestion.below) <|
    .cons "stepsize" (kernel_float32.comap AlongQuestion.stepsize) <|
    .cons "attributes" (kernel_text.list.comap AlongQuestion.attributes) <|
    .last "interpolation" (kernel_text.comap AlongQuestion.interpolation)

theorem members_between : MemberKernel (fun q => (Question.between q).members)
    fun a b => (Question.between a).Alike (.between b) :=
  .cons "primarySurface" (kernel_surface.comap BetweenQuestion.primary) <|
    .cons "secondarySurface" (kernel_surface.comap BetweenQuestion.secondary) <|
    .cons "stepsize" (kernel_float32.comap BetweenQuestion.stepsize) <|
    .cons "attributes" (kernel_text.list.comap BetweenQuestion.attributes) <|
    .last "interpolation" (kernel_text.comap BetweenQuestion.interpolation)

theorem Kind.tag_inj {k k' : Kind} (h : k.tag = k'.tag) : k = k' := by
  cases k <;> cases k' <;> first | rfl | exact absurd h (by decide)

/-- The document of a question tells its kind first, and then what questions of that kind hold. -/
theorem members_question : MemberKernel Question.taggedMembers Question.Alike where
  congr {a b} h := by
    have hrest : a.kind.tag = b.kind.tag ∧ Value.renderMembers a.members = Value.renderMembers b.members := by
      cases a <;> cases b <;> try exact h.elim
      · exact ⟨rfl, rfl⟩
      · exact ⟨rfl, members_slice.congr h⟩
      · exact ⟨rfl, members_fence.congr h⟩
      · exact ⟨rfl, members_along.congr h⟩
      · exact ⟨rfl, members_between.congr h⟩
    rw [Question.taggedMembers, Question.taggedMembers, Value.renderMembers, Value.renderMembers, hrest.1, hrest.2]
  inj {a b s t} h := by
    rw [Question.taggedMembers, Question.taggedMembers, Value.renderMembers, Value.renderMembers] at h
    simp only [List.cons_append, List.append_assoc, List.cons.injEq, true_and, List.append_cancel_left_eq] at h
    obtain ⟨htag, hrest⟩ := kernel_text.inj (delimited_renderMembers _ _) (delimited_renderMembers _ _) h
    have hkind := Kind.tag_inj htag
    cases a <;> cases b <;> simp only [Question.kind, reduceCtorEq] at hkind
    · exact ⟨trivial, List.append_cancel_left hrest⟩
    · exact members_slice.inj hrest
    · exact members_fence.inj hrest
    · exact members_along.inj hrest
    · exact members_between.inj hrest

theorem kernel_document : Kernel (fun x : String × Question => canonicalDocument x.1 x.2)
    fun x y => x.1 = y.1 ∧ x.2.Alike y.2 :=
  MemberKernel.object
    (.cons "vds" (kernel_text.comap Prod.fst) <|
      .last "request" ((members_question.object fun _ => List.cons_ne_nil _ _).comap Prod.snd))
    fun _ => List.cons_ne_nil _ _

/-- **What a canonical document tells**: the dataset, and the question up to floats that are not finite. -/
theorem bytes_canonicalDocument_iff (dataset dataset' : String) (q q' : Question) :
    (canonicalDocument dataset q).bytes = (canonicalDocument dataset' q').bytes ↔
      dataset = dataset' ∧ q.Alike q' := by
  rw [← kernel_document.render_eq_iff (a := (dataset, q)) (b := (dataset', q'))]
  exact ⟨utf8_inj, congrArg Text.utf8⟩

/-! ### Questions without infinities and NaN -/

theorem eq_of_forall₂ {α : Type} {R : α → α → Prop} {xs ys : List α} (h : List.Forall₂ R xs ys)
    (heq : ∀ x ∈ xs, ∀ y, R x y → x = y) : xs = ys := by
  induction h with
  | nil => rfl
  | cons hR _ ih =>
    rw [heq _ List.mem_cons_self _ hR, ih fun x hx => heq x (List.mem_cons_of_mem _ hx)]

theorem Number.eq_of_forall₂_alike {xss yss : List (List Float32)} (h : List.Forall₂ (List.Forall₂ Alike) xss yss)
    (hx : ∀ x ∈ xss.flatten, x.isFinite = true) : xss = yss :=
  eq_of_forall₂ h fun _ hxs _ hR =>
    eq_of_forall₂ hR fun x hmem _ halike => halike.eq (hx x (List.mem_flatten_of_mem hxs hmem))

theorem SliceBound.Alike.eq {a b : SliceBound} (h : a.Alike b) (ha : ∀ x ∈ a.floats, x.isFinite = true) : a = b := by
  obtain ⟨hdirection, hlower, hupper⟩ := h
  simp only [floats, List.forall_mem_cons] at ha
  obtain ⟨hl, hu, -⟩ := ha
  cases a
  cases b
  simp only [SliceBound.mk.injEq]
  exact ⟨hdirection, hlower.eq hl, hupper.eq hu⟩

theorem Surface.Alike.eq {a b : Surface} (h : a.Alike b) (ha : ∀ x ∈ a.floats, x.isFinite = true) : a = b := by
  obtain ⟨hvalues, hxori, hyori, hxinc, hyinc, hrotation, hfill⟩ := h
  simp only [floats, List.forall_mem_append, List.forall_mem_cons] at ha
  obtain ⟨hv, h₁, h₂, h₃, h₄, h₅, h₆, -⟩ := ha
  cases a
  cases b
  simp only [Surface.mk.injEq]
  exact ⟨Number.eq_of_forall₂_alike hvalues hv, hxori.eq h₁, hyori.eq h₂, hxinc.eq h₃, hyinc.eq h₄,
    hrotation.eq h₅, hfill.eq h₆⟩

theorem Number.OptionalAlike.eq {x y : Option Float32} (h : OptionalAlike x y) (hx : ∀ a ∈ x, a.isFinite = true)
    (hy : ∀ a ∈ y, a.isFinite = true) : x = y := by
  rcases h with h | ⟨hx', hy'⟩
  · exact h
  · have hnone : ∀ z : Option Float32, (∀ a ∈ z, a.isFinite = true) → (∀ a ∈ z, a.isFinite = false) → z = none := by
      intro z hz hz'
      cases z with
      | none => rfl
      | some a => exact absurd ((hz a rfl).symm.trans (hz' a rfl)) (by decide)
    rw [hnone x hx hx', hnone y hy hy']

/-- Without floats that are not finite, questions of one document are equal. -/
theorem Question.Alike.eq {q q' : Question} (h : q.Alike q') (hq : ∀ x ∈ q.floats, x.isFinite = true)
    (hq' : ∀ x ∈ q'.floats, x.isFinite = true) : q = q' := by
  cases q <;> cases q' <;> try exact h.elim
  · rfl
  · next a b =>
    obtain ⟨hdirection, hline, hbounds⟩ := h
    cases a
    cases b
    simp only [slice.injEq, SliceQuestion.mk.injEq]
    exact ⟨hdirection, hline, eq_of_forall₂ hbounds fun bound hmem _ halike =>
      halike.eq fun x hx => hq x (List.mem_flatMap_of_mem hmem hx)⟩
  · next a b =>
    obtain ⟨hsystem, hcoordinates, hinterpolation, hfill⟩ := h
    simp only [floats, List.forall_mem_append, Option.mem_toList] at hq hq'
    cases a
    cases b
    simp only [fence.injEq, FenceQuestion.mk.injEq]
    exact ⟨hsystem, Number.eq_of_forall₂_alike hcoordinates hq.1, hinterpolation, hfill.eq hq.2 hq'.2⟩
  · next a b =>
    obtain ⟨hsurface, habove, hbelow, hstep, hattributes, hinterpolation⟩ := h
    simp only [floats, List.forall_mem_append, List.forall_mem_cons] at hq
    obtain ⟨hs, h₁, h₂, h₃, -⟩ := hq
    cases a
    cases b
    simp only [along.injEq, AlongQuestion.mk.injEq]
    exact ⟨hsurface.eq hs, habove.eq h₁, hbelow.eq h₂, hstep.eq h₃, List.forall₂_eq_eq_eq ▸ hattributes,
      hinterpolation⟩
  · next a b =>
    obtain ⟨hprimary, hsecondary, hstep, hattributes, hinterpolation⟩ := h
    simp only [floats, List.forall_mem_append, List.forall_mem_cons] at hq
    obtain ⟨⟨hp, hs⟩, h₁, -⟩ := hq
    cases a
    cases b
    simp only [between.injEq, BetweenQuestion.mk.injEq]
    exact ⟨hprimary.eq hp, hsecondary.eq hs, hstep.eq h₁, List.forall₂_eq_eq_eq ▸ hattributes, hinterpolation⟩

end SurveyGateway
