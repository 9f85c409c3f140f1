import Mathlib.Data.List.Basic
import SurveyGateway.Storage.Memory

/-!
# Who may read a dataset in memory

`Memory.CanRead m c` says that the token of the connection `c` is, by its digest, among the readers of the dataset
that is registered at its locator in `m`. The two places that ask it are `Memory.mayRead` and `Memory.openVolume`;
both answer by `CanRead` alone (`mayRead_iff`, `openVolume_ok_iff`).

`CanRead` changes only by what is done at its own locator: registering a volume ends it (`canRead_register_iff`),
revoking a token of the same digest ends it (`canRead_revoke_iff`), and nothing but granting one starts it
(`canRead_grant_iff`).
-/

namespace SurveyGateway.Storage.Memory

/-! ### The dataset at a locator -/

theorem dataset?_put (m : Memory) (locator other : String) (d : Dataset) :
    (m.put locator d).dataset? other = if locator = other then some d else m.dataset? other := by
  unfold dataset? put
  by_cases h : locator = other
  · simp [h]
  · have hfind : ∀ ds : List (String × Dataset),
        (ds.filter (·.1 != locator)).find? (·.1 == other) = ds.find? (·.1 == other) := by
      intro ds
      rw [List.find?_filter]
      congr 1
      funext e
      by_cases he : e.1 = other
      · simp [he, Ne.symm h]
      · simp [he]
    simp [h, hfind]

theorem dataset?_register (m : Memory) (locator other : String) (v : Volume) :
    (m.register locator v).dataset? other = if locator = other then some ⟨v, []⟩ else m.dataset? other :=
  dataset?_put m locator other _

theorem dataset?_grant (m : Memory) (locator other : String) (c : Credential) :
    (m.grant locator c).2.dataset? other =
      if locator = other then
        (m.dataset? other).map fun d => { d with readers := digestOf c :: d.readers.filter (· != digestOf c) }
      else m.dataset? other := by
  by_cases h : locator = other
  · subst h
    rw [if_pos rfl, grant]
    cases hd : m.dataset? locator with
    | none => exact hd
    | some d => exact (dataset?_put ..).trans (if_pos rfl)
  · rw [if_neg h, grant]
    cases m.dataset? locator with
    | none => rfl
    | some d => exact (dataset?_put ..).trans (if_neg h)

theorem dataset?_revoke (m : Memory) (locator other : String) (c : Credential) :
    (m.revoke locator c).dataset? other =
      if locator = other then
        (m.dataset? other).map fun d => { d with readers := d.readers.filter (· != digestOf c) }
      else m.dataset? other := by
  by_cases h : locator = other
  · subst h
    rw [if_pos rfl, revoke]
    cases hd : m.dataset? locator with
    | none => exact hd
    | some d => exact (dataset?_put ..).trans (if_pos rfl)
  · rw [if_neg h, revoke]
    cases m.dataset? locator with
    | none => rfl
    | some d => exact (dataset?_put ..).trans (if_neg h)

/-- Granting and revoking leave all volumes where they are. -/
theorem volume_grant (m : Memory) (locator other : String) (c : Credential) :
    ((m.grant locator c).2.dataset? other).map Dataset.volume = (m.dataset? other).map Dataset.volume := by
  rw [dataset?_grant]
  split
  · cases m.dataset? other <;> rfl
  · rfl

theorem volume_revoke (m : Memory) (locator other : String) (c : Credential) :
    ((m.revoke locator c).dataset? other).map Dataset.volume = (m.dataset? other).map Dataset.volume := by
  rw [dataset?_revoke]
  split
  · cases m.dataset? other <;> rfl
  · rfl

/-! ### Readers -/

/-- The token of a connection is known to the dataset at its locator. -/
def CanRead (m : Memory) (c : Connection) : Prop :=
  ∃ d, m.dataset? c.dataset = some d ∧ digestOf c.credential ∈ d.readers

theorem mayRead_iff (m : Memory) (c : Connection) : m.mayRead (connect c) = true ↔ m.CanRead c := by
  unfold mayRead CanRead connect
  cases hd : m.dataset? c.dataset with
  | none => simp
  | some d => simp

instance (m : Memory) (c : Connection) : Decidable (m.CanRead c) := decidable_of_iff _ (mayRead_iff m c)

/-- A dataset is opened for exactly those who can read it, and then it is the one at the locator. -/
theorem openVolume_ok_iff (m : Memory) (c : Connection) (v : Volume) (m' : Memory) :
    m.openVolume (connect c) = .ok (v, m') ↔
      m.CanRead c ∧ (m.dataset? c.dataset).map Dataset.volume = some v ∧
        m' = { m with opened := m.opened + 1, live := m.live + 1 } := by
  unfold openVolume CanRead connect
  cases hd : m.dataset? c.dataset with
  | none => simp
  | some d =>
    by_cases hr : digestOf c.credential ∈ d.readers
    · simp [hr, eq_comm]
    · simp [hr]

/-- A stranger to a dataset is told so. -/
theorem openVolume_eq_unauthorized {m : Memory} {c : Connection} {d : Dataset} (hd : m.dataset? c.dataset = some d)
    (hc : digestOf c.credential ∉ d.readers) : m.openVolume (connect c) = .error .unauthorized := by
  unfold openVolume connect
  simp only [hd, List.contains_iff_mem, hc, if_false]

/-- What counts openings and closings does not look at datasets. -/
theorem canRead_congr {m m' : Memory} (h : m'.datasets = m.datasets) (c : Connection) :
    m'.CanRead c ↔ m.CanRead c := by
  simp only [CanRead, dataset?, h]

/-! ### What changes the readers -/

theorem canRead_register_iff {m : Memory} {locator : String} {v : Volume} {c : Connection} :
    (m.register locator v).CanRead c ↔ locator ≠ c.dataset ∧ m.CanRead c := by
  unfold CanRead
  rw [dataset?_register]
  by_cases h : locator = c.dataset
  · simp [h]
  · simp [h]

theorem canRead_grant_iff {m : Memory} {locator : String} {g : Credential} {c : Connection} :
    (m.grant locator g).2.CanRead c ↔
      (locator = c.dataset ∧ digestOf g = digestOf c.credential ∧ (m.dataset? c.dataset).isSome) ∨ m.CanRead c := by
  unfold CanRead
  rw [dataset?_grant]
  by_cases h : locator = c.dataset
  · cases m.dataset? c.dataset with
    | none => simp [h]
    | some d =>
      by_cases hg : digestOf g = digestOf c.credential
      · simp [h, hg]
      · simp [h, hg, Ne.symm hg]
  · simp [h]

theorem canRead_revoke_iff {m : Memory} {locator : String} {g : Credential} {c : Connection} :
    (m.revoke locator g).CanRead c ↔ ¬ (locator = c.dataset ∧ digestOf g = digestOf c.credential) ∧ m.CanRead c := by
  unfold CanRead
  rw [dataset?_revoke]
  by_cases h : locator = c.dataset
  · cases m.dataset? c.dataset with
    | none => simp [h]
    | some d => simp [h, and_comm, @eq_comm _ (digestOf c.credential)]
  · simp [h]

/-- Registering anywhere gives nobody a right to read. -/
theorem canRead_of_register {m : Memory} {locator : String} {v : Volume} {c : Connection}
    (h : (m.register locator v).CanRead c) : m.CanRead c :=
  (canRead_register_iff.mp h).2

/-- A token that is granted can read, if there is a dataset. -/
theorem canRead_grant_self {m : Memory} {c : Connection} (h : (m.dataset? c.dataset).isSome) :
    (m.grant c.dataset c.credential).2.CanRead c :=
  canRead_grant_iff.mpr (Or.inl ⟨rfl, rfl, h⟩)

/-- Whoever can read after a grant could do so before, or was granted it by a token of the same digest. -/
theorem canRead_grant {m : Memory} {locator : String} {g : Credential} {c : Connection}
    (h : (m.grant locator g).2.CanRead c) :
    m.CanRead c ∨ (locator = c.dataset ∧ digestOf g = digestOf c.credential) := by
  rcases canRead_grant_iff.mp h with ⟨hlocator, hdigest, -⟩ | h
  · exact Or.inr ⟨hlocator, hdigest⟩
  · exact Or.inl h

/-- Whoever can read after a token was revoked could do so before. -/
theorem canRead_of_revoke {m : Memory} {locator : String} {g : Credential} {c : Connection}
    (h : (m.revoke locator g).CanRead c) : m.CanRead c :=
  (canRead_revoke_iff.mp h).2

/-- A token that has just been revoked cannot read, nor can one of the same digest. -/
theorem not_canRead_revoke {m : Memory} {g : Credential} {c : Connection}
    (hg : digestOf g = digestOf c.credential) : ¬ (m.revoke c.dataset g).CanRead c :=
  fun h => (canRead_revoke_iff.mp h).1 ⟨rfl, hg⟩

end SurveyGateway.Storage.Memory

/-! ### A sample -/

namespace SurveyGateway.Sample

open Storage (Memory digestOf)

/-- One account without a default credential. -/
def resolver : Resolver := ⟨[⟨"a", none⟩]⟩

/-- A question to the dataset `a`, asked with a token. -/
def request (token : String) (q : Question) : Request := ⟨"a", some token, q⟩

/-- What such a request comes to. -/
def inquiry (token : String) (q : Question) : Inquiry := ⟨⟨"a", ⟨token⟩⟩, q.canonical⟩

/-- The well-known volume, with one reader. -/
def memory : Memory := ⟨[("a", ⟨Volume.wellKnown, [digestOf ⟨"first"⟩]⟩)], 0, 0⟩

/-- Its metadata document. -/
def product : Product := ⟨Volume.wellKnown.metadata.toValue.bytes, []⟩

theorem supplied_first : Resolver.suppliedToken (some "first") = some "first" := by decide

theorem supplied_second : Resolver.suppliedToken (some "second") = some "second" := by decide

set_option maxRecDepth 4000 in
theorem digestOf_first_ne : digestOf ⟨"first"⟩ ≠ digestOf ⟨"second"⟩ := by decide

theorem normalize {token : String} {q : Question} (ht : Resolver.suppliedToken (some token) = some token)
    (hq : q.validate = .ok ()) : (request token q).normalize resolver = .ok (inquiry token q) := by
  have hdataset : canonicalDataset "a" = .ok "a" := by decide
  have haccount : resolver.accounts.find? (·.contains "a") = some ⟨"a", none⟩ := by decide
  have hresolve : resolver.resolve "a" (some token) = .ok ⟨"a", ⟨token⟩⟩ := by
    unfold Resolver.resolve
    rw [haccount, ht]
  simp only [Request.normalize, request, inquiry, hdataset, hresolve, hq, bind, Except.bind, pure, Except.pure]

theorem normalize_first : (request "first" .metadata).normalize resolver = .ok (inquiry "first" .metadata) :=
  normalize supplied_first rfl

theorem normalize_second : (request "second" .metadata).normalize resolver = .ok (inquiry "second" .metadata) :=
  normalize supplied_second rfl

end SurveyGateway.Sample
