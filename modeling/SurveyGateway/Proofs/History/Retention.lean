import SurveyGateway.Proofs.History.Basic

/-!
# How long a product is shown

A product that a request was answered with is kept, if it fits into the budget. It can be given up only to make room for
another one. So everybody who may read the dataset, and asks the same, is shown it until something is stored: lookups,
failures, grants and revocations may come in between, in any number and from anybody.

What is stored is counted by `Shared.inserts`, which never goes down (`inserts_le_after`). As long as it stays, all
that was found in the cache is found there (`find?_after_of_inserts`). `shown_until_stored` is what follows for
requests.
-/

namespace SurveyGateway.History

open Storage (Memory digestOf)

variable {resolver : Resolver} {s : Shared Memory} {step : Step} {steps past : List Step} {m : Memory}
  {r : Request} {i : Inquiry} {p : Product}

/-! ### Steps that store nothing -/

theorem inserts_le_act (resolver : Resolver) (s : Shared Memory) (step : Step) :
    s.inserts ≤ (act resolver s step).inserts := by
  cases step with
  | register | grant | revoke => exact Nat.le_refl _
  | ask r =>
    rcases unchanged_or_stored Memory.releases_inventory resolver s r with ⟨-, hsame⟩ | ⟨p, -, hmore⟩
    · exact Nat.le_of_eq hsame.inserts.symm
    · exact Nat.le.intro hmore.symm

theorem inserts_le_after (resolver : Resolver) (s : Shared Memory) (steps : List Step) :
    s.inserts ≤ (after resolver s steps).inserts := by
  induction steps using List.reverseRecOn with
  | nil => exact Nat.le_refl _
  | append_singleton past step ih =>
    rw [after_concat]
    exact Nat.le_trans ih (inserts_le_act resolver _ step)

/-- A step that stores nothing leaves what is found in the cache. -/
theorem find?_act_of_inserts (h : (act resolver s step).inserts = s.inserts) (f : Fingerprint) :
    (act resolver s step).cache.entries.find? f = s.cache.entries.find? f := by
  cases step with
  | register | grant | revoke => rfl
  | ask r =>
    rcases unchanged_or_stored Memory.releases_inventory resolver s r with ⟨-, hsame⟩ | ⟨p, -, hmore⟩
    · exact hsame.entries f
    · have hcount : s.inserts + 1 = s.inserts := hmore.symm.trans h
      omega

/-- So do steps that store nothing altogether. -/
theorem find?_after_of_inserts (h : (after resolver s steps).inserts = s.inserts) (f : Fingerprint) :
    (after resolver s steps).cache.entries.find? f = s.cache.entries.find? f := by
  induction steps using List.reverseRecOn with
  | nil => rfl
  | append_singleton past step ih =>
    rw [after_concat] at h ⊢
    have hpast := inserts_le_after resolver s past
    have hstep := inserts_le_act resolver (after resolver s past) step
    rw [find?_act_of_inserts (by omega), ih (by omega)]

/-! ### Requests that are answered -/

theorem normalize_of_served {served : Served} (h : (s.serve Memory.engine resolver r).1 = .ok served) :
    ∃ i, r.normalize resolver = .ok i := by
  cases hi : r.normalize resolver with
  | ok i => exact ⟨i, rfl⟩
  | error refusal =>
    rw [serve_refused hi] at h
    cases h

/-- Without a budget nothing is shown from the cache. -/
theorem stored_eq_false {stored : Bool} (h : outcome resolver (.fresh m 0) past r = .ok ⟨p, stored⟩) :
    stored = false := by
  obtain ⟨i, hi⟩ := normalize_of_served h
  rw [outcome_zero hi] at h
  cases hreply : (after resolver (.fresh m 0) past).storage.reply i with
  | error f =>
    rw [hreply] at h
    cases h
  | ok p' =>
    rw [hreply] at h
    cases h
    rfl

/-- **A product is shown until something is stored.** Over datasets in memory, whatever has happened before:

If a request is answered with a product that fits into the budget of the cache, then after any further steps that store
nothing, whoever can read the dataset and asks the same is shown this product, and the storage is not touched for it:
no dataset is opened. And in a history without a budget, every product is computed. -/
theorem shown_until_stored (resolver : Resolver) :
    (∀ (s : Shared Memory) (r : Request) (p : Product) (stored : Bool),
      (s.serve Memory.engine resolver r).1 = .ok ⟨p, stored⟩ → s.cache.enabled → p.weight ≤ s.cache.budget →
      ∃ i, r.normalize resolver = .ok i ∧
        ∀ (later : List Step) (r' : Request) (i' : Inquiry),
          let asked := act resolver s (.ask r)
          let now := after resolver asked later
          now.inserts = asked.inserts →
          r'.normalize resolver = .ok i' → i'.dataset = i.dataset → i'.question = i.question →
          now.storage.CanRead i'.connection →
          (now.serve Memory.engine resolver r').1 = .ok ⟨p, true⟩ ∧
            (now.serve Memory.engine resolver r').2.storage = now.storage) ∧
    ∀ (m : Memory) (past : List Step) (r : Request) (p : Product) (stored : Bool),
      outcome resolver (.fresh m 0) past r = .ok ⟨p, stored⟩ → stored = false := by
  constructor
  · intro s r p stored ho henabled hfits
    obtain ⟨i, hi⟩ := normalize_of_served ho
    refine ⟨i, hi, ?_⟩
    intro later r' i' asked now hinserts hi' hdataset hquestion hread
    have hfound : asked.cache.entries.find? i.fingerprint = some p := find?_of_served hi ho hfits henabled
    have hkept : now.cache.entries.find? i'.fingerprint = some p := by
      rw [Inquiry.fingerprint_congr hdataset hquestion]
      exact (find?_after_of_inserts hinserts _).trans hfound
    rw [serve_shown hi' (shown?_eq_some_iff.mpr ⟨hread, hkept⟩)]
    exact ⟨rfl, rfl⟩
  · intro m past r p stored ho
    exact stored_eq_false ho

/-! ### A sample -/

theorem reply_sample : Sample.memory.reply (Sample.inquiry "first" .metadata) = .ok Sample.product :=
  (Memory.reply_ok_iff _ _ _).mpr ⟨_, reads_sample, rfl⟩

/-- The reader of the sample is answered at once, with any budget. -/
theorem outcome_sample (budget : ℕ) : outcome Sample.resolver (.fresh Sample.memory budget) []
    (Sample.request "first" .metadata) = .ok ⟨Sample.product, false⟩ := by
  refine (computed_iff Sample.normalize_first).mpr ⟨?_, reply_sample⟩
  unfold shown?
  split <;> rfl

/-- Nothing is stored for a stranger who is refused, and who is granted the dataset then. -/
theorem inserts_after_refused {f : Failure} (h : (s.serve Memory.engine resolver r).1 = .error f) (locator : String)
    (c : Credential) : (after resolver s [.ask r, .grant locator c]).inserts = s.inserts := by
  show (s.serve Memory.engine resolver r).2.inserts = s.inserts
  exact ((leavesNoTrace_serve Memory.releases_inventory resolver s r).1 f h).inserts

/-- The stranger can read then. -/
theorem canRead_after_refused (resolver : Resolver) (s : Shared Memory) (r : Request) {c : Connection}
    (h : (s.storage.dataset? c.dataset).isSome) :
    (after resolver s [.ask r, .grant c.dataset c.credential]).storage.CanRead c := by
  show ((act resolver s (.ask r)).storage.grant c.dataset c.credential).2.CanRead c
  apply Memory.canRead_grant_self
  unfold Memory.dataset? at h ⊢
  rwa [datasets_ask]

/-- A stranger asks and is refused, then it is granted the dataset and is shown what the first reader was. Without a
budget the first reader has its product computed. -/
theorem shown_until_stored_sample :
    (let asked := act Sample.resolver (.fresh Sample.memory 0xffffffff) (.ask (Sample.request "first" .metadata))
      let now := after Sample.resolver asked [.ask (Sample.request "second" .metadata), .grant "a" ⟨"second"⟩]
      now.inserts = asked.inserts ∧ now.storage.CanRead ⟨"a", ⟨"second"⟩⟩ ∧
        (now.serve Memory.engine Sample.resolver (Sample.request "second" .metadata)).1 = .ok ⟨Sample.product, true⟩ ∧
        (now.serve Memory.engine Sample.resolver (Sample.request "second" .metadata)).2.storage = now.storage) ∧
    ∃ stored, outcome Sample.resolver (.fresh Sample.memory 0) [] (Sample.request "first" .metadata) =
        .ok ⟨Sample.product, stored⟩ ∧ stored = false := by
  obtain ⟨hshown, hzero⟩ := shown_until_stored Sample.resolver
  refine ⟨?_, false, outcome_sample 0, hzero Sample.memory [] _ _ _ (outcome_sample 0)⟩
  obtain ⟨i, hi, hlater⟩ := hshown (.fresh Sample.memory 0xffffffff) _ _ _ (outcome_sample 0xffffffff) rfl
    Sample.product.weight_le
  obtain rfl := Except.ok.inj (Sample.normalize_first.symm.trans hi)
  have hdatasets := datasets_ask Sample.resolver (.fresh Sample.memory 0xffffffff) (Sample.request "first" .metadata)
  -- what is shared behind the first request matters only by its datasets from here on
  generalize act Sample.resolver (.fresh Sample.memory 0xffffffff) (.ask (Sample.request "first" .metadata)) = asked
    at hlater hdatasets ⊢
  have hdataset : asked.storage.dataset? "a" = some ⟨Volume.wellKnown, [digestOf ⟨"first"⟩]⟩ := by
    rw [Memory.dataset?, hdatasets]
    rfl
  have hstranger : ¬ asked.storage.CanRead ⟨"a", ⟨"second"⟩⟩ := by
    rintro ⟨d, hd, hmem⟩
    obtain rfl := Option.some.inj (hdataset.symm.trans hd)
    exact Sample.digestOf_first_ne (List.mem_singleton.mp hmem).symm
  obtain ⟨f, hf⟩ := refused_of_not_canRead Sample.normalize_second hstranger
  have hinserts := inserts_after_refused hf "a" ⟨"second"⟩
  have hread := canRead_after_refused Sample.resolver asked (Sample.request "second" .metadata)
    (c := ⟨"a", ⟨"second"⟩⟩) (by rw [hdataset]; rfl)
  exact ⟨hinserts, hread, hlater _ _ _ hinserts Sample.normalize_second rfl rfl hread⟩

end SurveyGateway.History
