import SurveyGateway.Proofs.Results
import SurveyGateway.Request.Inquiry

/-!
# What a request comes to

A request that is in order has a dataset that can be named, a question that holds by itself, and an account that lets
its caller in; the inquiry that it makes asks the canonical form of the question of that dataset
(`Request.normalize_eq_ok_iff`).
-/

namespace SurveyGateway

/-- Resolving keeps the dataset. -/
theorem Resolver.dataset_of_resolve {resolver : Resolver} {dataset : String} {token : Option String} {c : Connection}
    (h : resolver.resolve dataset token = .ok c) : c.dataset = dataset := by
  unfold resolve at h
  split at h
  · cases h
  · split at h <;> cases h <;> rfl

/-- The inquiry of a request that is in order. -/
theorem Request.normalize_eq_ok_iff {resolver : Resolver} {r : Request} {i : Inquiry} :
    r.normalize resolver = .ok i ↔
      canonicalDataset r.dataset = .ok i.dataset ∧ r.question.validate = .ok () ∧
        resolver.resolve i.dataset r.token = .ok i.connection ∧ i.question = r.question.canonical := by
  unfold normalize
  simp only [bind_eq_ok_iff]
  constructor
  · rintro ⟨dataset, hdataset, _, hvalid, c, hc, h⟩
    cases h
    obtain rfl := Resolver.dataset_of_resolve hc
    exact ⟨hdataset, hvalid, hc, rfl⟩
  · rintro ⟨hdataset, hvalid, hc, hquestion⟩
    exact ⟨i.dataset, hdataset, (), hvalid, i.connection, hc, by rw [← hquestion]; rfl⟩

end SurveyGateway
