import Mathlib.Data.List.Basic
import Mathlib.Tactic.Common
import SurveyGateway.Cache

/-!
# What a cache holds

A lookup changes the order of the entries and a counter, and no entry (`find?_get`, `mem_get`). An insertion adds
one entry and gives up some (`mem_insert`), but not the new one if it fits (`find?_insert_self`), and none where there
is room for everything (`find?_insert_of_ne`). An entry that is given up for a reason of the surroundings is
`evict`ed.
-/

namespace SurveyGateway

/-- No product weighs more than 32 bits can count. -/
theorem Product.weight_le (p : Product) : p.weight ≤ 0xffffffff := Nat.min_le_right _ _

/-! ### Entries -/

namespace Entries

theorem mem_of_find? {es : Entries} {f : Fingerprint} {p : Product} (h : es.find? f = some p) : (f, p) ∈ es := by
  obtain ⟨e, he, rfl⟩ := Option.map_eq_some_iff.mp h
  have hf : e.1 = f := by simpa using List.find?_some he
  exact hf ▸ List.mem_of_find?_eq_some he

theorem find?_eq_none_iff {es : Entries} {f : Fingerprint} : es.find? f = none ↔ ∀ p, (f, p) ∉ es := by
  simp only [find?, Option.map_eq_none_iff, List.find?_eq_none, beq_iff_eq, Prod.forall]
  constructor
  · intro h p hp
    exact h f p hp rfl
  · rintro h _ p hp rfl
    exact h p hp

theorem find?_append (es es' : Entries) (f : Fingerprint) :
    find? (es ++ es') f = (es.find? f).or (es'.find? f) := by
  unfold find?
  rw [List.find?_append]
  cases List.find? (fun e => e.1 == f) es <;> rfl

theorem find?_singleton (f g : Fingerprint) (p : Product) :
    find? [(f, p)] g = if f = g then some p else none := by
  by_cases h : f = g <;> simp [find?, h]

theorem find?_without_self (es : Entries) (f : Fingerprint) : (es.without f).find? f = none := by
  simp [find?, without, List.find?_eq_none]

theorem find?_without_of_ne (es : Entries) {f g : Fingerprint} (h : f ≠ g) :
    (es.without f).find? g = es.find? g := by
  unfold find? without
  rw [List.find?_filter]
  congr 2
  funext e
  by_cases he : e.1 = g
  · simp [he, Ne.symm h]
  · simp [he]

/-- What is moved or put to the end under `f` is found there, and nothing else is found otherwise. -/
theorem find?_without_append (es : Entries) (f g : Fingerprint) (p : Product) :
    find? (es.without f ++ [(f, p)]) g = if f = g then some p else es.find? g := by
  rw [find?_append, find?_singleton]
  by_cases h : f = g
  · subst h
    simp [find?_without_self]
  · rw [find?_without_of_ne es h, if_neg h, if_neg h, Option.or_none]

theorem mem_without {es : Entries} {f : Fingerprint} {e : Fingerprint × Product} (h : e ∈ es.without f) : e ∈ es :=
  List.mem_of_mem_filter h

theorem ne_of_mem_without {es : Entries} {f : Fingerprint} {e : Fingerprint × Product} (h : e ∈ es.without f) :
    e.1 ≠ f := by simpa using List.of_mem_filter h

theorem length_without_le (es : Entries) (f : Fingerprint) : (es.without f).length ≤ es.length :=
  List.length_filter_le _ _

/-! ### Weights -/

theorem weight_le (es : Entries) : es.weight ≤ es.length * 0xffffffff := by
  induction es with
  | nil => exact Nat.le_refl 0
  | cons e es ih =>
    have he := e.2.weight_le
    rw [weight, List.length_cons]
    omega

/-- Entries are given up from the first one on. -/
theorem fitting_suffix (budget : Nat) (es : Entries) : fitting budget es <:+ es := by
  induction es with
  | nil => exact List.suffix_rfl
  | cons e es ih =>
    rw [fitting]
    split
    · exact List.suffix_rfl
    · exact ih.trans (List.suffix_cons e es)

theorem mem_fitting {budget : Nat} {es : Entries} {e : Fingerprint × Product} (h : e ∈ fitting budget es) :
    e ∈ es := (fitting_suffix budget es).subset h

theorem length_fitting_le (budget : Nat) (es : Entries) : (fitting budget es).length ≤ es.length :=
  (fitting_suffix budget es).length_le

/-- The entry used last is kept if it fits on its own. -/
theorem fitting_append_singleton {budget : Nat} {e : Fingerprint × Product} (he : e.2.weight ≤ budget)
    (es : Entries) : ∃ kept, fitting budget (es ++ [e]) = kept ++ [e] ∧ ∀ e' ∈ kept, e' ∈ es := by
  induction es with
  | nil => exact ⟨[], by simp [fitting, weight, he], by simp⟩
  | cons e' es ih =>
    rw [List.cons_append, fitting]
    split
    · exact ⟨e' :: es, rfl, fun _ h => h⟩
    · obtain ⟨kept, hkept, hmem⟩ := ih
      exact ⟨kept, hkept, fun e'' h => List.mem_cons_of_mem _ (hmem e'' h)⟩

theorem fitting_eq_self {budget : Nat} {es : Entries} (h : es.weight ≤ budget) : fitting budget es = es := by
  cases es with
  | nil => rfl
  | cons e es => rw [fitting, if_pos h]

end Entries

/-! ### Lookups, insertions and evictions -/

namespace Cache

theorem get_fst (c : Cache) (f : Fingerprint) : (c.get f).1 = c.entries.find? f := by
  unfold get
  split <;> simp [*]

/-- A lookup changes nothing about what is found. -/
theorem find?_get (c : Cache) (f g : Fingerprint) : (c.get f).2.entries.find? g = c.entries.find? g := by
  unfold get
  split
  · rfl
  · next p hp =>
    rw [Entries.find?_without_append]
    split
    · next h => rw [← h, hp]
    · rfl

theorem mem_get {c : Cache} {f : Fingerprint} {e : Fingerprint × Product} (h : e ∈ (c.get f).2.entries) :
    e ∈ c.entries := by
  unfold get at h
  split at h
  · exact h
  · next p hp =>
    rcases List.mem_append.mp h with h | h
    · exact Entries.mem_without h
    · rw [List.mem_singleton.mp h]
      exact Entries.mem_of_find? hp

@[simp] theorem budget_get (c : Cache) (f : Fingerprint) : (c.get f).2.budget = c.budget := by
  unfold get
  split <;> rfl

theorem mem_insert {c : Cache} {f : Fingerprint} {p : Product} {e : Fingerprint × Product}
    (h : e ∈ (c.insert f p).entries) : e ∈ c.entries ∨ e = (f, p) := by
  unfold insert at h
  split_ifs at h
  · exact Or.inl h
  · exact Or.inl h
  · rcases List.mem_append.mp (Entries.mem_fitting h) with h | h
    · exact Or.inl (Entries.mem_without h)
    · exact Or.inr (List.mem_singleton.mp h)

/-- A product that fits is found right after it has been put into the cache. -/
theorem find?_insert_self {c : Cache} (f : Fingerprint) {p : Product} (hc : c.enabled) (hp : p.weight ≤ c.budget) :
    (c.insert f p).entries.find? f = some p := by
  obtain ⟨kept, hkept, hmem⟩ := Entries.fitting_append_singleton (e := (f, p)) hp (c.entries.without f)
  have hnone : Entries.find? kept f = none :=
    Entries.find?_eq_none_iff.mpr fun p' h =>
      Entries.find?_eq_none_iff.mp (Entries.find?_without_self c.entries f) p' (hmem _ h)
  unfold insert
  rw [if_neg (by simp [hc]), if_neg (by simp; omega)]
  simp only [hkept]
  rw [Entries.find?_append, hnone, Entries.find?_singleton]
  simp

/-- A product that fits is all there is in a cache that was empty. -/
theorem entries_insert_of_nil {c : Cache} (h : c.entries = []) (f : Fingerprint) {p : Product} (hc : c.enabled)
    (hp : p.weight ≤ c.budget) : (c.insert f p).entries = [(f, p)] := by
  unfold insert
  rw [if_neg (by simp [hc]), if_neg (by simp; omega)]
  simp [h, Entries.without, Entries.fitting, Entries.weight, hp]

@[simp] theorem budget_insert (c : Cache) (f : Fingerprint) (p : Product) : (c.insert f p).budget = c.budget := by
  unfold insert
  split_ifs <;> rfl

/-! ### Caches with room for everything -/

theorem length_get_le (c : Cache) (f : Fingerprint) : (c.get f).2.entries.length ≤ c.entries.length + 1 := by
  unfold get
  split
  · exact Nat.le_succ _
  · next p hp =>
    rw [List.length_append, List.length_singleton]
    exact Nat.succ_le_succ (Entries.length_without_le _ _)

theorem length_insert_le (c : Cache) (f : Fingerprint) (p : Product) :
    (c.insert f p).entries.length ≤ c.entries.length + 1 := by
  unfold insert
  split_ifs
  · exact Nat.le_succ _
  · exact Nat.le_succ _
  · refine Nat.le_trans (Entries.length_fitting_le _ _) ?_
    rw [List.length_append, List.length_singleton]
    exact Nat.succ_le_succ (Entries.length_without_le _ _)

/-- Where there is room for everything, an insertion gives nothing up. -/
theorem find?_insert_of_ne {c : Cache} {f g : Fingerprint} (h : f ≠ g) (p : Product)
    (hroom : (c.entries.length + 1) * 0xffffffff ≤ c.budget) :
    (c.insert f p).entries.find? g = c.entries.find? g := by
  have hlength : (c.entries.without f ++ [(f, p)]).length ≤ c.entries.length + 1 := by
    rw [List.length_append, List.length_singleton]
    exact Nat.succ_le_succ (Entries.length_without_le _ _)
  have hfits : Entries.weight (c.entries.without f ++ [(f, p)]) ≤ c.budget :=
    Nat.le_trans (Entries.weight_le _) (Nat.le_trans (Nat.mul_le_mul_right _ hlength) hroom)
  unfold insert
  split_ifs
  · rfl
  · rfl
  · simp only [Entries.fitting_eq_self hfits]
    rw [Entries.find?_without_append, if_neg h]

/-- A cache without a budget holds nothing. -/
theorem insert_of_budget_eq_zero {c : Cache} (h : c.budget = 0) (f : Fingerprint) (p : Product) :
    c.insert f p = c := by
  unfold insert
  rw [if_pos (by simp [enabled, h])]

theorem entries_get_of_nil {c : Cache} (h : c.entries = []) (f : Fingerprint) : (c.get f).2.entries = [] := by
  unfold get
  rw [h]
  rfl

/-- An entry is given up. -/
def evict (c : Cache) (f : Fingerprint) : Cache :=
  { c with entries := c.entries.without f, evictions := c.evictions + (if c.contains f then 1 else 0) }

theorem mem_evict {c : Cache} {f : Fingerprint} {e : Fingerprint × Product} (h : e ∈ (c.evict f).entries) :
    e ∈ c.entries :=
  Entries.mem_without h

end Cache

end SurveyGateway
