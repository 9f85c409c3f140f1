import Mathlib.Data.List.Nodup
import Mathlib.Data.Set.Card
import SurveyGateway.Proofs.Cache.Entries
import SurveyGateway.Proofs.Counting
import SurveyGateway.Service.Server

/-!
# The books of a cache

A cache counts its lookups and what it has given up. Its entries are found by their fingerprints and weighed, whether
they are new, take the place of others, or do not fit at all. This module shows that the counts always agree with what
has happened to the cache, and what is told of it with what it holds.

## The model

A `Use` is one operation on a cache, and `Cache.after` is the cache behind some of them. What is counted along them
is that a lookup found its product (`finds`), or that a product was put in under a fingerprint that was not kept
(`isNew`).

## What is proved

* `Sound` — the entries fit into the budget, and no two of them have one fingerprint. Every use keeps this
  (`Sound.use`), so it holds behind any uses (`sound_after`).
* `kept_use` — one use of a cache with a budget adds to what is kept and what was given up just what is new.
* `accounted` — the books of a cache behind any uses, for every budget.
* `disabled_out_of_balance` — the balance is that of caches with a budget: without one, nothing is ever given up.
-/

namespace SurveyGateway

/-! ### Fingerprints and weights of entries -/

namespace Entries

/-- The fingerprints that something is kept under. -/
def keys (es : Entries) : List Fingerprint := es.map (·.1)

variable {es : Entries} {f : Fingerprint}

theorem keys_append (es es' : Entries) : keys (es ++ es') = es.keys ++ es'.keys := List.map_append

theorem keys_without (es : Entries) (f : Fingerprint) : (es.without f).keys = es.keys.filter (· != f) := by
  rw [keys, keys, without, List.filter_map]
  rfl

theorem find?_isSome_iff : (es.find? f).isSome ↔ f ∈ es.keys := by
  constructor
  · intro h
    obtain ⟨p, hp⟩ := Option.isSome_iff_exists.mp h
    exact List.mem_map.mpr ⟨(f, p), mem_of_find? hp, rfl⟩
  · intro h
    obtain ⟨⟨g, p⟩, he, rfl⟩ := List.mem_map.mp h
    by_contra hnone
    exact find?_eq_none_iff.mp (Option.not_isSome_iff_eq_none.mp hnone) p he

/-- An entry that is put last takes the place of the one with its fingerprint. -/
theorem nodup_keys_replace (h : es.keys.Nodup) (f : Fingerprint) (p : Product) :
    (keys (es.without f ++ [(f, p)])).Nodup := by
  rw [keys_append, keys_without]
  refine List.Nodup.append (h.filter _) (List.nodup_singleton f) ?_
  intro g hg hgf
  obtain rfl : g = f := List.mem_singleton.mp hgf
  simp at hg

theorem length_without (h : es.keys.Nodup) (hf : f ∈ es.keys) : (es.without f).length + 1 = es.length := by
  have hlen : (es.without f).length = (es.keys.filter (· != f)).length := by
    rw [← keys_without, keys, List.length_map]
  rw [hlen, ← h.erase_eq_filter, List.length_erase_of_mem hf, keys, List.length_map]
  have hpos : 0 < es.keys.length := List.length_pos_of_mem hf
  rw [keys, List.length_map] at hpos
  omega

theorem without_of_notMem (hf : f ∉ es.keys) : es.without f = es := by
  refine List.filter_eq_self.mpr fun e he => ?_
  have hne : e.1 ≠ f := fun h => hf (List.mem_map.mpr ⟨e, he, h⟩)
  simpa using hne

theorem weight_append (es es' : Entries) : weight (es ++ es') = es.weight + es'.weight := by
  induction es with
  | nil => exact (Nat.zero_add _).symm
  | cons e es ih => rw [List.cons_append, weight, ih, weight, Nat.add_assoc]

/-- The weight is shared out among an entry and the others. -/
theorem weight_without {p : Product} (h : es.keys.Nodup) (hp : es.find? f = some p) :
    (es.without f).weight + p.weight = es.weight := by
  induction es with
  | nil => cases hp
  | cons e es ih =>
    obtain ⟨hnot, hrest⟩ := List.nodup_cons.mp h
    by_cases he : e.1 = f
    · have hwithout : without (e :: es) f = es := by
        rw [without, List.filter_cons_of_neg (by simpa using he)]
        exact without_of_notMem (he ▸ hnot)
      have hfound : p = e.2 := by simpa [find?, he] using hp.symm
      rw [hwithout, hfound, weight, Nat.add_comm]
    · have hwithout : without (e :: es) f = e :: without es f := by
        rw [without, List.filter_cons_of_pos (by simpa using he)]
        rfl
      have hfound : find? es f = some p := by simpa [find?, he] using hp
      rw [hwithout, weight, weight, Nat.add_assoc, ih hrest hfound]

theorem weight_fitting_le (budget : ℕ) (es : Entries) : (fitting budget es).weight ≤ budget := by
  induction es with
  | nil => exact Nat.zero_le _
  | cons e es ih =>
    rw [fitting]
    split
    · assumption
    · exact ih

end Entries

/-! ### Uses -/

/-- One operation on a cache. -/
inductive Use where
  | insert (f : Fingerprint) (p : Product)
  | get (f : Fingerprint)
  | contains (f : Fingerprint)

/-- Whether a use is a lookup. -/
def Use.isGet : Use → Bool
  | .get _ => true
  | _ => false

/-- Whether a use only asks if something is kept. -/
def Use.isContains : Use → Bool
  | .contains _ => true
  | _ => false

namespace Cache

/-- The cache behind a use. -/
def use (c : Cache) : Use → Cache
  | .insert f p => c.insert f p
  | .get f => (c.get f).2
  | .contains _ => c

/-- The cache behind some uses. -/
def after (c : Cache) (uses : List Use) : Cache := uses.foldl use c

/-- The use is a lookup that finds something. -/
def finds (c : Cache) : Use → Bool
  | .get f => (c.get f).1.isSome
  | _ => false

/-- The use puts a product in under a fingerprint that is not kept. -/
def isNew (c : Cache) : Use → Bool
  | .insert f _ => !c.contains f
  | _ => false

variable {c : Cache}

@[simp] theorem budget_use (c : Cache) (u : Use) : (c.use u).budget = c.budget := by
  cases u with
  | insert f p => exact budget_insert c f p
  | get f => exact budget_get c f
  | contains f => rfl

theorem budget_after (c : Cache) (uses : List Use) : (c.after uses).budget = c.budget :=
  foldl_keeps (I := fun c' => c'.budget = c.budget) (fun c' u h => (budget_use c' u).trans h) rfl uses

/-! ### What is kept -/

/-- The entries fit into the budget, and no two of them have one fingerprint. -/
structure Sound (c : Cache) : Prop where
  fits : c.entries.weight ≤ c.budget
  nodup : c.entries.keys.Nodup

theorem contains_eq_true_iff {f : Fingerprint} : c.contains f = true ↔ f ∈ c.entries.keys :=
  Entries.find?_isSome_iff

theorem Sound.insert (h : c.Sound) (f : Fingerprint) (p : Product) : (c.insert f p).Sound := by
  unfold Cache.insert
  split_ifs
  · exact h
  · exact ⟨h.fits, h.nodup⟩
  · refine ⟨Entries.weight_fitting_le _ _, ?_⟩
    exact (Entries.nodup_keys_replace h.nodup f p).sublist ((Entries.fitting_suffix _ _).sublist.map _)

/-- A lookup only changes the order of the entries. -/
theorem Sound.get (h : c.Sound) (f : Fingerprint) : (c.get f).2.Sound := by
  unfold Cache.get
  split
  · exact ⟨h.fits, h.nodup⟩
  · next p hp =>
    refine ⟨?_, Entries.nodup_keys_replace h.nodup f p⟩
    show Entries.weight (c.entries.without f ++ [(f, p)]) ≤ c.budget
    rw [Entries.weight_append, Entries.weight, Entries.weight, Nat.add_zero, Entries.weight_without h.nodup hp]
    exact h.fits

theorem Sound.use (h : c.Sound) (u : Use) : (c.use u).Sound := by
  cases u with
  | insert f p => exact h.insert f p
  | get f => exact h.get f
  | contains f => exact h

theorem sound_ofBudget (budget : ℕ) : (ofBudget budget).Sound := ⟨Nat.zero_le _, List.nodup_nil⟩

theorem sound_after (h : c.Sound) (uses : List Use) : (c.after uses).Sound :=
  foldl_keeps (fun _ u h => h.use u) h uses

/-! ### What is counted -/

theorem lookups_use (c : Cache) (u : Use) :
    (c.use u).hits + (c.use u).misses = c.hits + c.misses + u.isGet.toNat := by
  cases u with
  | insert f p =>
    simp only [use, Cache.insert]
    split_ifs <;> rfl
  | get f =>
    simp only [use, Cache.get]
    split <;> simp only [Use.isGet, Bool.toNat_true] <;> omega
  | contains f => rfl

theorem lookups_after (c : Cache) (uses : List Use) :
    (c.after uses).hits + (c.after uses).misses = c.hits + c.misses + uses.countP (·.isGet) := by
  rw [← countAlong_const use (·.isGet) c]
  exact add_countAlong (I := fun _ => True) (fun _ _ h => h) (n := fun c => c.hits + c.misses)
    (fun c u _ => lookups_use c u) trivial uses

theorem hits_use (c : Cache) (u : Use) : (c.use u).hits = c.hits + (c.finds u).toNat := by
  cases u with
  | insert f p =>
    simp only [use, Cache.insert]
    split_ifs <;> rfl
  | get f =>
    simp only [use, finds, Cache.get]
    split <;> rfl
  | contains f => rfl

theorem hits_after (c : Cache) (uses : List Use) : (c.after uses).hits = c.hits + countAlong use finds c uses :=
  add_countAlong (I := fun _ => True) (fun _ _ h => h) (fun c u _ => hits_use c u) trivial uses

/-- An insertion into a cache with a budget keeps the balance of what is kept and given up, and what is new. -/
theorem kept_insert (hsound : c.Sound) (hbudget : 0 < c.budget) (f : Fingerprint) (p : Product) :
    (c.insert f p).entries.length + (c.insert f p).evictions =
      c.entries.length + c.evictions + (!c.contains f).toNat := by
  have henabled : c.enabled = true := by simpa [enabled] using hbudget
  cases hkept : c.contains f with
  | true =>
    -- one entry takes the place of another, and all that is given up leaves the entries
    have hlen := Entries.length_without hsound.nodup (contains_eq_true_iff.mp hkept)
    have hle := Entries.length_fitting_le c.budget (c.entries.without f ++ [(f, p)])
    simp only [List.length_append, List.length_singleton] at hle
    simp only [Cache.insert, henabled, hkept, Bool.not_true, Bool.false_and, Bool.false_eq_true, if_false,
      List.length_append, List.length_singleton, Bool.toNat_false]
    omega
  | false =>
    have hnot : f ∉ c.entries.keys := by
      rw [← contains_eq_true_iff, hkept]
      exact Bool.false_ne_true
    simp only [Cache.insert, henabled, hkept, Bool.not_true, Bool.not_false, Bool.true_and, Bool.false_eq_true,
      if_false, decide_eq_true_eq, Entries.without_of_notMem hnot, Bool.toNat_true]
    split_ifs
    · exact (Nat.add_assoc _ _ _).symm
    · have hle := Entries.length_fitting_le c.budget (c.entries ++ [(f, p)])
      simp only [List.length_append, List.length_singleton] at hle ⊢
      omega

/-- The same holds of every use: a lookup gives nothing up. -/
theorem kept_use (hsound : c.Sound) (hbudget : 0 < c.budget) (u : Use) :
    (c.use u).entries.length + (c.use u).evictions = c.entries.length + c.evictions + (c.isNew u).toNat := by
  cases u with
  | insert f p => exact kept_insert hsound hbudget f p
  | get f =>
    simp only [use, isNew, Cache.get]
    split
    · rfl
    · next p hp =>
      have hmem : f ∈ c.entries.keys := Entries.find?_isSome_iff.mp (by rw [hp]; rfl)
      have hlen := Entries.length_without hsound.nodup hmem
      simp only [List.length_append, List.length_singleton, Bool.toNat_false]
      omega
  | contains f => rfl

theorem kept_after (hsound : c.Sound) (hbudget : 0 < c.budget) (uses : List Use) :
    (c.after uses).entries.length + (c.after uses).evictions =
      c.entries.length + c.evictions + countAlong use isNew c uses :=
  add_countAlong (I := fun c : Cache => c.Sound ∧ 0 < c.budget) (fun c u h => ⟨h.1.use u, (budget_use c u).symm ▸ h.2⟩)
    (n := fun c => c.entries.length + c.evictions) (fun _ u h => kept_use h.1 h.2 u) ⟨hsound, hbudget⟩ uses

/-! ### Caches without a budget -/

/-- Nothing is kept, has been found or has been given up. -/
structure Idle (c : Cache) : Prop where
  budget : c.budget = 0
  entries : c.entries = []
  hits : c.hits = 0
  evictions : c.evictions = 0

theorem Idle.use (h : c.Idle) (u : Use) : (c.use u).Idle := by
  cases u with
  | insert f p =>
    rw [Cache.use, insert_of_budget_eq_zero h.budget]
    exact h
  | get f =>
    have hnone : c.entries.find? f = none := by rw [h.entries]; rfl
    simp only [Cache.use, Cache.get, hnone]
    exact ⟨h.budget, h.entries, h.hits, h.evictions⟩
  | contains f => exact h

theorem idle_after (h : c.Idle) (uses : List Use) : (c.after uses).Idle :=
  foldl_keeps (fun _ u h => h.use u) h uses

/-! ### The books -/

/-- Asking whether something is kept is no use of a cache. -/
theorem after_filter (c : Cache) (uses : List Use) : c.after (uses.filter (!·.isContains)) = c.after uses := by
  induction uses generalizing c with
  | nil => rfl
  | cons u uses ih =>
    cases u with
    | insert f p => exact ih (c.insert f p)
    | get f => exact ih (c.get f).2
    | contains f => exact ih c

/-- As many fingerprints are kept as there are entries. -/
theorem Sound.ncard_kept (h : c.Sound) : {f | c.contains f = true}.ncard = c.entries.length := by
  have hkept : {f | c.contains f = true} = (c.entries.keys.toFinset : Set Fingerprint) := by
    ext f
    rw [Set.mem_ofPred_eq, contains_eq_true_iff, Finset.mem_coe, List.mem_toFinset]
  rw [hkept, Set.ncard_coe_finset, List.toFinset_card_of_nodup h.nodup, Entries.keys, List.length_map]

end Cache

/-- What the report on the readiness of the service says of its cache under a name. -/
def Service.reported? (name : String) : Json.Value → Option Json.Value
  | .object members =>
    match members.lookup "details" with
    | some (.object details) =>
      match details.lookup "cache" with
      | some (.object cache) => cache.lookup name
      | _ => none
    | _ => none
  | _ => none

namespace Cache

/-- **The books of a cache**, behind any uses of one that was empty, for every budget: what is kept fits into the budget,
and its weight is what is reported. The reported number of entries is that of the fingerprints that are kept. All
lookups are hits or misses, and the hits are those that found a product. To ask whether something is kept has changed
nothing.

If there is a budget, what is kept and what was given up are together what was put in under fingerprints that were not
kept. Without one, nothing is ever kept, every lookup is a miss, and nothing is given up. -/
theorem accounted (budget : ℕ) (uses : List Use) (uptime : ℕ) :
    let c := (ofBudget budget).after uses
    let report := Service.readinessValue c uptime
    c.entries.weight ≤ budget ∧
      Service.reported? "memory_bytes" report = some (.integer c.entries.weight) ∧
      Service.reported? "entries" report = some (.integer {f | c.contains f = true}.ncard) ∧
      c.hits + c.misses = uses.countP (·.isGet) ∧
      c.hits = countAlong use finds (ofBudget budget) uses ∧
      (ofBudget budget).after (uses.filter (!·.isContains)) = c ∧
      (0 < budget → {f | c.contains f = true}.ncard + c.evictions = countAlong use isNew (ofBudget budget) uses) ∧
      (budget = 0 → c.entries = [] ∧ c.misses = uses.countP (·.isGet) ∧ c.evictions = 0) := by
  intro c report
  have hsound : c.Sound := sound_after (sound_ofBudget budget) uses
  have hbudget : c.budget = budget := budget_after _ uses
  have hlookups : c.hits + c.misses = uses.countP (·.isGet) := (lookups_after _ uses).trans (Nat.zero_add _)
  refine ⟨hbudget ▸ hsound.fits, rfl, ?_, hlookups, ?_, after_filter _ uses, fun hpos => ?_, fun hzero => ?_⟩
  · rw [hsound.ncard_kept]
    rfl
  · exact (hits_after _ uses).trans (Nat.zero_add _)
  · rw [hsound.ncard_kept, kept_after (sound_ofBudget budget) hpos]
    exact Nat.zero_add _
  · have hidle : c.Idle := idle_after ⟨hzero, rfl, rfl, rfl⟩ uses
    refine ⟨hidle.entries, ?_, hidle.evictions⟩
    rw [← hlookups, hidle.hits, Nat.zero_add]

/-- Three products are put into a cache that holds two of them, and one is put in again when it has grown too large:
then all three have been given up. -/
theorem accounted_sample :
    let key (n : UInt8) : Fingerprint := ⟨List.replicate 32 n⟩
    let product (n : ℕ) : Product := ⟨List.replicate n 0, []⟩
    let uses : List Use := [.insert (key 1) (product 4), .insert (key 2) (product 4), .get (key 1),
      .insert (key 3) (product 4), .contains (key 2), .get (key 2), .insert (key 1) (product 20)]
    let c := (ofBudget 10).after uses
    {f | c.contains f = true}.ncard + c.evictions = 3 ∧ c.entries.weight ≤ 10 ∧ c.hits = 1 ∧ c.hits + c.misses = 2 := by
  intro key product uses c
  obtain ⟨hweight, -, -, hlookups, hhits, -, hbalance, -⟩ := accounted 10 uses 0
  have hfound : countAlong use finds (ofBudget 10) uses = 1 := by decide
  have hnew : countAlong use isNew (ofBudget 10) uses = 3 := by decide
  exact ⟨(hbalance (by decide)).trans hnew, hweight, hhits.trans hfound, hlookups⟩

/-- The balance is that of a cache with a budget. What is put into another one is neither kept nor given up. -/
theorem disabled_out_of_balance :
    let uses : List Use := [.insert ⟨List.replicate 32 1⟩ ⟨[], []⟩]
    let c := (ofBudget 0).after uses
    {f | c.contains f = true}.ncard + c.evictions = 0 ∧ countAlong use isNew (ofBudget 0) uses = 1 := by
  intro uses c
  have hidle : c.Idle := idle_after ⟨rfl, rfl, rfl, rfl⟩ uses
  have hsound : c.Sound := sound_after (sound_ofBudget 0) uses
  refine ⟨?_, rfl⟩
  rw [hsound.ncard_kept, hidle.entries, hidle.evictions]
  rfl

end Cache

end SurveyGateway
