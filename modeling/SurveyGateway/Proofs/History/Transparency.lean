import SurveyGateway.Proofs.Document.Questions
import SurveyGateway.Proofs.History.Stored
import SurveyGateway.Request.Reading

/-!
# Whether a cache can be told from none

A cache is meant to change how fast a request is answered and nothing else. This module compares a history of requests
with the same history where nothing is kept. Products are kept under the digest of a document that writes every float
that is not finite, and a fill value that is not there, as `null`. So the cache changes an answer exactly if two
requests that differ in such floats alone have different answers.

## The model

A history is `Transparent` for a budget if every request in it comes to the same product, or fails in the same way,
as it does for a budget of zero. It is `Separated` if, of any two requests for one dataset whose questions are alike,
both from callers who can read, the later one has the product of the earlier one.

## What is proved

* `transparent_iff` — if nothing is registered and digests do not collide, a history is transparent for every budget
  exactly if it is separated. Histories of requests without infinities and NaN are.
* `fill_value_shown` — a history of two requests is not: a fence outside the survey is an error without a fill value,
  but behind the same fence with a fill value beyond all floats it is shown infinities.
-/

namespace SurveyGateway.History

open Storage (Memory)

section Definitions

variable (resolver : Resolver) (m : Memory)

/-- Every request comes to what it comes to without a cache; only whether a product was stored may differ. -/
def Transparent (budget : ℕ) (steps : List Step) : Prop :=
  ∀ past r rest, steps = past ++ .ask r :: rest →
    (outcome resolver (.fresh m budget) past r).map Served.product =
      (outcome resolver (.fresh m 0) past r).map Served.product

/-- The volumes stay as they are. -/
def Unregistered (steps : List Step) : Prop := ∀ locator v, Step.register locator v ∉ steps

/-- Documents with one fingerprint have the same bytes. -/
def CollisionFree (steps : List Step) : Prop :=
  ∀ r r' i i', .ask r ∈ steps → .ask r' ∈ steps → r.normalize resolver = .ok i → r'.normalize resolver = .ok i' →
    i.fingerprint = i'.fingerprint →
    (canonicalDocument i.dataset i.question).bytes = (canonicalDocument i'.dataset i'.question).bytes

/-- A request has the product of an earlier one for the same dataset whose question is alike, if both callers can read
the volume when they ask. -/
def Separated (steps : List Step) : Prop :=
  ∀ past r mid r' rest i i' v, steps = past ++ .ask r :: (mid ++ .ask r' :: rest) →
    r.normalize resolver = .ok i → r'.normalize resolver = .ok i' →
    i.dataset = i'.dataset → i.question.Alike i'.question →
    (after resolver (.fresh m 0) past).storage.Reads i.connection v →
    (after resolver (.fresh m 0) (past ++ .ask r :: mid)).storage.Reads i'.connection v →
    ∀ p, v.answer i.question = .ok p → v.answer i'.question = .ok p

end Definitions

variable {resolver : Resolver} {s s' : Shared Memory} {m : Memory} {budget : ℕ} {past : List Step} {r : Request}
  {i i' : Inquiry} {p : Product} {f : Fingerprint} {v : Volume}

/-! ### The storage behind a history -/

/-- What is registered and who reads it does not depend on the cache. -/
theorem datasets_act_congr (h : s.storage.datasets = s'.storage.datasets) (step : Step) :
    (act resolver s step).storage.datasets = (act resolver s' step).storage.datasets := by
  have hd : ∀ locator, s.storage.dataset? locator = s'.storage.dataset? locator := fun locator => by
    simp only [Memory.dataset?, h]
  cases step with
  | register locator v => simp only [act, Memory.register, Memory.put, h]
  | grant locator c =>
    simp only [act, Memory.grant, hd]
    cases s'.storage.dataset? locator with
    | none => exact h
    | some d => simp only [Memory.put, h]
  | revoke locator c =>
    simp only [act, Memory.revoke, hd]
    cases s'.storage.dataset? locator with
    | none => exact h
    | some d => simp only [Memory.put, h]
  | ask r => rw [datasets_ask, datasets_ask, h]

theorem datasets_after (resolver : Resolver) (m : Memory) (budget : ℕ) (past : List Step) :
    (after resolver (.fresh m budget) past).storage.datasets =
      (after resolver (.fresh m 0) past).storage.datasets := by
  induction past using List.reverseRecOn with
  | nil => rfl
  | append_singleton past step ih =>
    rw [after_concat, after_concat]
    exact datasets_act_congr ih step

/-- Where nothing is registered, nothing is replaced. -/
theorem Unregistered.unreplaced {steps : List Step} (h : Unregistered steps) : Unreplaced resolver steps := by
  rintro past r i mid locator v rest rfl -
  exact absurd (by simp) (h locator v)

/-! ### The cache behind a history -/

/-- A step looks up at most one product and puts in at most one. -/
theorem length_entries_after (resolver : Resolver) (m : Memory) (budget : ℕ) (past : List Step) :
    (after resolver (.fresh m budget) past).cache.entries.length ≤ 2 * past.length := by
  induction past using List.reverseRecOn with
  | nil => exact Nat.le_refl 0
  | append_singleton past step ih =>
    rw [after_concat, List.length_append, List.length_singleton]
    generalize after resolver (.fresh m budget) past = s at ih ⊢
    rcases cache_act_cases resolver s step with h | ⟨f, h⟩ | ⟨r, i, p, -, -, -, -, h⟩
    · rw [h]
      omega
    · have hget := s.cache.length_get_le f
      rw [h]
      omega
    · have hget := s.cache.length_get_le i.fingerprint
      have hinsert := (s.cache.get i.fingerprint).2.length_insert_le i.fingerprint p
      rw [h]
      omega

/-- Where there is room for everything, what is in the cache stays there. -/
theorem find?_act (hroom : (s.cache.entries.length + 2) * 0xffffffff ≤ s.cache.budget)
    (h : s.cache.entries.find? f = some p) (step : Step) :
    (act resolver s step).cache.entries.find? f = some p := by
  rcases cache_act_cases resolver s step with hc | ⟨g, hc⟩ | ⟨r, i, p', -, -, hnone, hreply, hc⟩
  · rw [hc, h]
  · rw [hc, Cache.find?_get, h]
  · have hne : i.fingerprint ≠ f := by
      rintro rfl
      rw [find?_of_computed hnone hreply] at h
      cases h
    have hlength := s.cache.length_get_le i.fingerprint
    rw [hc, Cache.find?_insert_of_ne hne, Cache.find?_get, h]
    rw [Cache.budget_get]
    exact Nat.le_trans (Nat.mul_le_mul_right _ (by omega)) hroom

/-- So it does over many steps. -/
theorem find?_after (mid : List Step) (hroom : 2 * (past.length + mid.length) * 0xffffffff ≤ budget)
    (h : (after resolver (.fresh m budget) past).cache.entries.find? f = some p) :
    (after resolver (.fresh m budget) (past ++ mid)).cache.entries.find? f = some p := by
  induction mid using List.reverseRecOn with
  | nil => rwa [List.append_nil]
  | append_singleton mid step ih =>
    rw [List.length_append, List.length_singleton] at hroom
    have hkept := ih (Nat.le_trans (Nat.mul_le_mul_right _ (by omega)) hroom)
    have hlength := length_entries_after resolver m budget (past ++ mid)
    rw [List.length_append] at hlength
    rw [← List.append_assoc, after_concat]
    refine find?_act ?_ hkept step
    rw [budget_after]
    exact Nat.le_trans (Nat.mul_le_mul_right _ (by omega)) hroom

/-! ### Outcomes with and without a cache -/

theorem product_outcome_zero (h : r.normalize resolver = .ok i) :
    (outcome resolver (.fresh m 0) past r).map Served.product =
      (after resolver (.fresh m 0) past).storage.reply i := by
  rw [outcome_zero h]
  cases (after resolver (.fresh m 0) past).storage.reply i <;> rfl

/-- A request in a history is transparent exactly if what it is shown from the cache is the reply. -/
theorem outcome_eq_iff (h : r.normalize resolver = .ok i) :
    (outcome resolver (.fresh m budget) past r).map Served.product =
        (outcome resolver (.fresh m 0) past r).map Served.product ↔
      ∀ p, outcome resolver (.fresh m budget) past r = .ok ⟨p, true⟩ →
        (after resolver (.fresh m 0) past).storage.reply i = .ok p := by
  rw [product_outcome_zero h]
  have hreply := Memory.reply_congr (datasets_after resolver m budget past) i
  rcases outcome_cases (s := after resolver (.fresh m budget) past) h with ⟨p, -, ho⟩ | ⟨-, ho⟩
  · rw [outcome, ho]
    constructor
    · intro heq p' hp'
      obtain rfl : p = p' := by simpa using hp'
      exact heq.symm
    · intro hall
      exact (hall p rfl).symm
  · rw [outcome, ho, hreply]
    constructor
    · intro _ p hp
      cases hr : (after resolver (.fresh m 0) past).storage.reply i <;> simp [hr, Except.map] at hp
    · intro _
      cases (after resolver (.fresh m 0) past).storage.reply i <;> rfl

/-- What was last stored under the fingerprint of an inquiry was asked before, by a caller who could read the volume
that can be read now. -/
theorem lastStored_reads {steps rest : List Step} {w : Volume} (hsteps : steps = past ++ .ask r :: rest)
    (hun : Unregistered steps) (hfree : CollisionFree resolver steps) (hi : r.normalize resolver = .ok i)
    (hlast : LastStored resolver (.fresh m budget) i.fingerprint past i' v)
    (hw : (after resolver (.fresh m 0) past).storage.Reads i.connection w) :
    w = v ∧ i'.dataset = i.dataset ∧ i'.question.Alike i.question ∧
      ∃ before r' mid, past = before ++ .ask r' :: mid ∧ r'.normalize resolver = .ok i' ∧
        (after resolver (.fresh m 0) before).storage.Reads i'.connection v := by
  obtain ⟨before, r', mid, rfl, hi', hf, hv⟩ := hlast.asked
  obtain ⟨hdataset, halike⟩ := (bytes_canonicalDocument_iff _ _ _ _).mp
    (hfree r' r i' i (by simp [hsteps]) (by simp [hsteps]) hi' hi hf)
  have hvolume := hlast.volume (Unregistered.unreplaced fun locator u hmem =>
    hun locator u (by rw [hsteps]; exact List.mem_append_left _ hmem))
  obtain ⟨d, hd, -, rfl⟩ := (Memory.reads_congr (datasets_after resolver m budget _) i.connection w).mpr hw
  rw [hdataset] at hvolume
  rw [Inquiry.dataset, hd] at hvolume
  refine ⟨Option.some.inj hvolume, hdataset, halike, before, r', mid, rfl, hi', ?_⟩
  exact (Memory.reads_congr (datasets_after resolver m budget before) i'.connection v).mp hv

/-- A request that has been answered with a product, in a history that is transparent, leaves it in a cache that has
room for everything. -/
theorem find?_after_ask (hi : r.normalize resolver = .ok i)
    (htrans : (outcome resolver (.fresh m budget) past r).map Served.product = .ok p)
    (hroom : (2 * past.length + 2) * 0xffffffff ≤ budget) :
    (after resolver (.fresh m budget) (past ++ [.ask r])).cache.entries.find? i.fingerprint = some p := by
  obtain ⟨stored, ho⟩ : ∃ stored, outcome resolver (.fresh m budget) past r = .ok ⟨p, stored⟩ := by
    cases ho : outcome resolver (.fresh m budget) past r with
    | error f =>
      rw [ho] at htrans
      cases htrans
    | ok served =>
      rw [ho] at htrans
      cases htrans
      exact ⟨served.stored, rfl⟩
  have hweight := p.weight_le
  rw [after_concat]
  refine find?_of_served hi ho ?_ ?_
  · rw [budget_after]
    omega
  · simp only [Cache.enabled, budget_after, decide_eq_true_eq]
    omega

/-! ### Two requests, one after the other -/

theorem datasets_asked (resolver : Resolver) (m : Memory) (budget : ℕ) (r : Request) :
    (after resolver (.fresh m budget) [.ask r]).storage.datasets = m.datasets :=
  datasets_ask resolver (.fresh m budget) r

/-- A request that shares its fingerprint with the one before is shown the product of that. -/
theorem outcome_second {r' : Request} (hi : r.normalize resolver = .ok i) (hi' : r'.normalize resolver = .ok i')
    (hkey : i.fingerprint = i'.fingerprint) (hreply : m.reply i = .ok p) (hread : m.CanRead i'.connection)
    (hfits : p.weight ≤ budget) (hbudget : 0 < budget) :
    outcome resolver (.fresh m budget) [.ask r] r' = .ok ⟨p, true⟩ := by
  have hnone : shown? (.fresh m budget) i = none := by
    unfold shown?
    split <;> rfl
  have hfound := find?_ask hi hnone hreply hfits (decide_eq_true hbudget)
  rw [hkey] at hfound
  refine outcome_shown resolver hi' (shown?_eq_some_iff.mpr ⟨?_, hfound⟩)
  exact (Memory.canRead_congr (datasets_asked resolver m budget r) _).mpr hread

/-- Without a cache, the second request comes to its own reply. -/
theorem outcome_second_zero {r' : Request} (hi' : r'.normalize resolver = .ok i') :
    outcome resolver (.fresh m 0) [.ask r] r' = (m.reply i').map (⟨·, false⟩) := by
  rw [outcome_zero hi', Memory.reply_congr (datasets_asked resolver m 0 r)]

/-! ### When a history is transparent -/

/-- A separated history is transparent. -/
theorem Separated.transparent {steps : List Step} (hsep : Separated resolver m steps) (hun : Unregistered steps)
    (hfree : CollisionFree resolver steps) (budget : ℕ) : Transparent resolver m budget steps := by
  intro past r rest hsteps
  cases hi : r.normalize resolver with
  | error refusal =>
    unfold outcome
    rw [serve_refused hi, serve_refused hi]
  | ok i =>
    refine (outcome_eq_iff hi).mpr fun p ho => ?_
    obtain ⟨hread, i', v, hlast, hp⟩ := lastStored_of_shown hi ho
    obtain ⟨w, hw⟩ := (Memory.canRead_iff_reads _ _).mp hread
    have hw' := (Memory.reads_congr (datasets_after resolver m budget past) i.connection w).mp hw
    obtain ⟨rfl, hdataset, halike, before, r', mid, rfl, hi', hv⟩ :=
      lastStored_reads hsteps hun hfree hi hlast hw'
    rw [List.append_assoc, List.cons_append] at hsteps
    have hanswer := hsep before r' mid r rest i' i w hsteps hi' hi hdataset halike hv hw' p hp
    exact (Memory.reply_ok_iff _ _ _).mpr ⟨w, hw', hanswer⟩

/-- A history that is transparent with room for everything is separated. -/
theorem Transparent.separated {steps : List Step}
    (htrans : Transparent resolver m (2 * steps.length * 0xffffffff) steps) : Separated resolver m steps := by
  intro past r mid r' rest i i' v hsteps hi hi' hdataset halike hv hv' p hp
  have hlength : steps.length = past.length + (mid.length + rest.length + 2) := by
    rw [hsteps]
    simp only [List.length_append, List.length_cons]
    omega
  have hkey : i.fingerprint = i'.fingerprint :=
    congrArg Fingerprint.ofContent ((bytes_canonicalDocument_iff _ _ _ _).mpr ⟨hdataset, halike⟩)
  -- the product of the earlier request is put into the cache and still there when the later one looks it up
  have hfirst := htrans past r (mid ++ .ask r' :: rest) hsteps
  rw [product_outcome_zero hi, (Memory.reply_ok_iff _ _ _).mpr ⟨v, hv, hp⟩] at hfirst
  have hfound := find?_after_ask hi hfirst (Nat.mul_le_mul_right _ (by omega))
  have hroom : 2 * ((past ++ [Step.ask r]).length + mid.length) * 0xffffffff ≤ 2 * steps.length * 0xffffffff :=
    Nat.mul_le_mul_right _ (by simp only [List.length_append, List.length_singleton]; omega)
  have hkept := find?_after mid hroom hfound
  have hpast : past ++ [.ask r] ++ mid = past ++ .ask r :: mid := by simp
  rw [hpast, hkey] at hkept
  have hread := (Memory.reads_congr (datasets_after resolver m (2 * steps.length * 0xffffffff) _) _ _).mpr hv'
  have hshown := outcome_shown resolver hi' (shown?_eq_some_iff.mpr ⟨hread.canRead, hkept⟩)
  have hsteps' : steps = past ++ .ask r :: mid ++ .ask r' :: rest := by rw [hsteps]; simp
  have hreply := (outcome_eq_iff hi').mp (htrans _ r' rest hsteps') p hshown
  obtain ⟨w, hw, hanswer⟩ := (Memory.reply_ok_iff _ _ _).mp hreply
  obtain rfl := hw.unique hv'
  exact hanswer

/-- **When a cache can be told from none.** For any history of grants, revocations and requests, if digests do not
collide:

The history is transparent for every budget exactly if it is separated. And it is transparent for every budget if
all numbers in its requests are finite. -/
theorem transparent_iff (resolver : Resolver) (m : Memory) (steps : List Step) (hun : Unregistered steps)
    (hfree : CollisionFree resolver steps) :
    ((∀ budget, Transparent resolver m budget steps) ↔ Separated resolver m steps) ∧
      ((∀ r i, .ask r ∈ steps → r.normalize resolver = .ok i → ∀ x ∈ i.question.floats, x.isFinite = true) →
        ∀ budget, Transparent resolver m budget steps) := by
  refine ⟨⟨fun h => (h _).separated, fun h => h.transparent hun hfree⟩, fun hfinite => ?_⟩
  refine Separated.transparent ?_ hun hfree
  intro past r mid r' rest i i' v hsteps hi hi' _ halike _ _ p hp
  have hsame := halike.eq (hfinite r i (by simp [hsteps]) hi) (hfinite r' i' (by simp [hsteps]) hi')
  rwa [← hsame]

/-- A caller is answered, another one is granted, and is shown what the first one was. -/
def sharedHistory : List Step :=
  [.ask (Sample.request "first" .metadata), .grant "a" ⟨"second"⟩, .ask (Sample.request "second" .metadata)]

/-- No cache can be told from none there. -/
theorem transparent_iff_sample :
    Unregistered sharedHistory ∧ CollisionFree Sample.resolver sharedHistory ∧
      (∀ budget, Transparent Sample.resolver Sample.memory budget sharedHistory) ∧
      Separated Sample.resolver Sample.memory sharedHistory := by
  have hmetadata : ∀ r i, .ask r ∈ sharedHistory → r.normalize Sample.resolver = .ok i →
      i.dataset = "a" ∧ i.question = .metadata := by
    intro r i hr hi
    simp only [sharedHistory, List.mem_cons, Step.ask.injEq, reduceCtorEq, List.not_mem_nil, or_false, false_or] at hr
    rcases hr with rfl | rfl
    · obtain rfl := Except.ok.inj (Sample.normalize_first.symm.trans hi)
      exact ⟨rfl, rfl⟩
    · obtain rfl := Except.ok.inj (Sample.normalize_second.symm.trans hi)
      exact ⟨rfl, rfl⟩
  have hun : Unregistered sharedHistory := by
    intro locator v hmem
    simp [sharedHistory] at hmem
  have hfree : CollisionFree Sample.resolver sharedHistory := by
    intro r r' i i' hr hr' hi hi' _
    obtain ⟨hd, hq⟩ := hmetadata r i hr hi
    obtain ⟨hd', hq'⟩ := hmetadata r' i' hr' hi'
    rw [hd, hq, hd', hq']
  obtain ⟨hiff, hfinite⟩ := transparent_iff Sample.resolver Sample.memory sharedHistory hun hfree
  have htrans := hfinite fun r i hr hi x hx => by
    rw [(hmetadata r i hr hi).2] at hx
    cases hx
  exact ⟨hun, hfree, htrans, hiff.mp htrans⟩

/-! ### A fill value that is not there -/

/-- A fence of one point outside the well-known volume. -/
def fenceOutside (fill : Option Float32) : Question := .fence ⟨"ij", [[9.0, 9.0]], "nearest", fill⟩

/-- A request for that fence as a document, with the text of another member at its end. -/
def fenceDocument (member : String) : List UInt8 :=
  Text.utf8 ("\x7b\"vds\":\"a\",\"sas\":\"first\",\"coordinateSystem\":\"ij\",\"coordinates\":[[9.0,9.0]],".toList ++
    "\"interpolation\":\"nearest\"".toList ++ member.toList ++ ['\x7d'])

/-- What becomes of a number that is too large for a float. -/
def infinity : Float32 := .ofBits 0x7f800000

/-- The fence with infinities in place of its samples. -/
def infinities : Product :=
  ⟨(shapeValue (1, 4)).bytes, [encodeSamples [infinity, infinity, infinity, infinity]]⟩

/-- What is told of a point that is not in the volume. -/
def outside : Failure := ⟨.gateway, "Coordinate (9, 9) at position 0 is out of bounds"⟩

/-- The request with a fill value. -/
def filled : Request := Sample.request "first" (fenceOutside (some infinity))

/-- The request without one. -/
def bare : Request := Sample.request "first" (fenceOutside none)

theorem read_fenceDocument :
    (Request.read .fence (fenceDocument ",\"fillValue\":1e39")).toOption = some filled ∧
      (Request.read .fence (fenceDocument "")).toOption = some bare := by
  decide +kernel

theorem normalize_filled :
    filled.normalize Sample.resolver = .ok (Sample.inquiry "first" (fenceOutside (some infinity))) :=
  Sample.normalize Sample.supplied_first (by decide)

theorem normalize_bare : bare.normalize Sample.resolver = .ok (Sample.inquiry "first" (fenceOutside none)) :=
  Sample.normalize Sample.supplied_first (by decide)

theorem canonical_filled : (fenceOutside (some infinity)).canonical = fenceOutside (some infinity) := by
  decide

theorem canonical_bare : (fenceOutside none).canonical = fenceOutside none := by
  decide

theorem answer_fenceOutside :
    Volume.wellKnown.answer (fenceOutside (some infinity)) = .ok infinities ∧
      Volume.wellKnown.answer (fenceOutside none) = .error (.failed outside) := by
  decide +kernel

theorem redact_outside : outside.redact "first" = outside := by
  decide

/-- Both requests have one document. -/
theorem bytes_filled : (canonicalDocument "a" (fenceOutside (some infinity))).bytes =
    (canonicalDocument "a" (fenceOutside none)).bytes := by
  refine (bytes_canonicalDocument_iff _ _ _ _).mpr ⟨rfl, rfl, ?_, rfl, Or.inr ⟨?_, ?_⟩⟩
  · exact .cons (.cons (Or.inl rfl) (.cons (Or.inl rfl) .nil)) .nil
  · intro x hx
    obtain rfl := Option.mem_some.mp hx
    decide
  · intro x hx
    cases hx

/-- **A fill value that is shown to a request without one.** Two documents are read as requests for the same fence,
and the second request, an error without a cache, is shown the infinities of the first one. -/
theorem fill_value_shown :
    (Request.read .fence (fenceDocument ",\"fillValue\":1e39")).toOption = some filled ∧
      (Request.read .fence (fenceDocument "")).toOption = some bare ∧
      Unregistered [.ask filled, .ask bare] ∧ CollisionFree Sample.resolver [.ask filled, .ask bare] ∧
      outcome Sample.resolver (.fresh Sample.memory 0xffffffff) [.ask filled] bare = .ok ⟨infinities, true⟩ ∧
      outcome Sample.resolver (.fresh Sample.memory 0) [.ask filled] bare = .error outside ∧
      ¬ Transparent Sample.resolver Sample.memory 0xffffffff [.ask filled, .ask bare] := by
  have hfilled := normalize_filled
  have hbare := normalize_bare
  rw [Sample.inquiry, canonical_filled] at hfilled
  rw [Sample.inquiry, canonical_bare] at hbare
  have hkey : (⟨⟨"a", ⟨"first"⟩⟩, fenceOutside (some infinity)⟩ : Inquiry).fingerprint =
      (⟨⟨"a", ⟨"first"⟩⟩, fenceOutside none⟩ : Inquiry).fingerprint :=
    congrArg Fingerprint.ofContent bytes_filled
  have hshown : outcome Sample.resolver (.fresh Sample.memory 0xffffffff) [.ask filled] bare =
      .ok ⟨infinities, true⟩ :=
    outcome_second hfilled hbare hkey ((Memory.reply_ok_iff _ _ _).mpr ⟨_, reads_sample, answer_fenceOutside.1⟩)
      reads_sample.canRead infinities.weight_le (by decide)
  have hplain : outcome Sample.resolver (.fresh Sample.memory 0) [.ask filled] bare = .error outside := by
    rw [outcome_second_zero hbare, Memory.reply_of_reads reads_sample, answer_fenceOutside.2]
    exact congrArg Except.error redact_outside
  refine ⟨read_fenceDocument.1, read_fenceDocument.2, ?_, ?_, hshown, hplain, ?_⟩
  · intro locator v hmem
    simp at hmem
  · intro r r' i i' hr hr' hi hi' _
    have hbytes : ∀ r i, .ask r ∈ [Step.ask filled, .ask bare] → r.normalize Sample.resolver = .ok i →
        (canonicalDocument i.dataset i.question).bytes = (canonicalDocument "a" (fenceOutside none)).bytes := by
      intro r i hr hi
      simp only [List.mem_cons, Step.ask.injEq, List.not_mem_nil, or_false] at hr
      rcases hr with rfl | rfl
      · obtain rfl := Except.ok.inj (hfilled.symm.trans hi)
        exact bytes_filled
      · obtain rfl := Except.ok.inj (hbare.symm.trans hi)
        rfl
    exact (hbytes r i hr hi).trans (hbytes r' i' hr' hi').symm
  · intro htrans
    have hsame := htrans [.ask filled] bare [] rfl
    rw [hshown, hplain] at hsame
    cases hsame

end SurveyGateway.History
