import SurveyGateway.Proofs.Cache.Accounting

/-!
# What a cache holds, and what it gives up first

A cache is used again and again: products are put in, looked up and asked for. What it holds under a fingerprint is
always what was put in there last. Room is made by giving up what was used least recently, where to put a product in and
to find it are uses, and to ask for it or to miss it is none.

## The model

`lastInserted? uses f` is the product that was put in last under `f`, and `lastUse c f uses` is when `f` was used last,
counted from one, zero if never.

## What is proved

* `Recent` — the entries hold what was put in last and stand in the order of their last use. Every use keeps this
  (`Recent.use`), so it holds behind any uses (`recent_after`).
* `evicted_first` — what an insertion gives up was used less recently than what it leaves.
* `contents` — what a cache holds behind any uses, for every budget.
* `disabled_holds_nothing` — a product without bytes fits into no budget at all, but is not kept there.
-/

namespace SurveyGateway

namespace Use

/-- Whether a use puts something in. -/
def isInsert : Use → Bool
  | .insert _ _ => true
  | _ => false

/-- The product that a use puts in under a fingerprint. -/
def insertedAt? (f : Fingerprint) : Use → Option Product
  | .insert g p => if g = f then some p else none
  | _ => none

end Use

namespace Cache

/-- The product that was put in last under a fingerprint. -/
def lastInserted? (uses : List Use) (f : Fingerprint) : Option Product :=
  uses.reverse.findSome? (·.insertedAt? f)

/-- Whether a use is one of a fingerprint: something is put in or found under it. -/
def touches (c : Cache) (f : Fingerprint) : Use → Bool
  | .insert g _ => g == f
  | .get g => g == f && c.contains f
  | .contains _ => false

/-- When a fingerprint was used last, counted from one; zero if it was not. -/
def lastUse (c : Cache) (f : Fingerprint) : List Use → ℕ
  | [] => 0
  | u :: uses =>
    match (c.use u).lastUse f uses with
    | 0 => if c.touches f u then 1 else 0
    | n + 1 => n + 2

variable {c : Cache} {f g : Fingerprint} {p q : Product}

theorem after_concat (c : Cache) (uses : List Use) (u : Use) : c.after (uses ++ [u]) = (c.after uses).use u := by
  rw [after, List.foldl_append]
  rfl

theorem lastInserted?_concat (uses : List Use) (u : Use) (f : Fingerprint) :
    lastInserted? (uses ++ [u]) f = (u.insertedAt? f).or (lastInserted? uses f) := by
  rw [lastInserted?, List.reverse_concat, List.findSome?_cons]
  cases u.insertedAt? f <;> rfl

theorem lastUse_concat (c : Cache) (f : Fingerprint) (uses : List Use) (u : Use) :
    c.lastUse f (uses ++ [u]) = if (c.after uses).touches f u then uses.length + 1 else c.lastUse f uses := by
  induction uses generalizing c with
  | nil => rfl
  | cons v uses ih =>
    have hafter : c.after (v :: uses) = (c.use v).after uses := rfl
    rw [List.cons_append, lastUse, ih, hafter]
    by_cases h : ((c.use v).after uses).touches f u = true
    · rw [if_pos h, if_pos h]
      rfl
    · rw [if_neg h, if_neg h, lastUse]

theorem lastUse_le (c : Cache) (f : Fingerprint) (uses : List Use) : c.lastUse f uses ≤ uses.length := by
  induction uses generalizing c with
  | nil => exact Nat.le_refl 0
  | cons u uses ih =>
    have hle := ih (c.use u)
    rw [lastUse, List.length_cons]
    split
    · split <;> omega
    · omega

theorem touches_insert_iff (c : Cache) (f : Fingerprint) (p : Product) (g : Fingerprint) :
    c.touches g (.insert f p) = true ↔ g = f := by
  rw [touches, beq_iff_eq, eq_comm]

/-! ### The order of entries -/

/-- The keys of some entries stand in the order of their last use. -/
def InOrder (c : Cache) (uses : List Use) (es : Entries) : Prop :=
  es.keys.Pairwise fun g h => c.lastUse g uses < c.lastUse h uses

/-- A use of the fingerprint of the last entry keeps the order, where that of the others was. -/
theorem InOrder.concat {uses : List Use} {es : Entries} (h : c.InOrder uses es) {u : Use}
    (hu : ∀ g, (c.after uses).touches g u = true ↔ g = f) (p : Product) :
    c.InOrder (uses ++ [u]) (es.without f ++ [(f, p)]) := by
  have hother : ∀ g ∈ (es.without f).keys, c.lastUse g (uses ++ [u]) = c.lastUse g uses := by
    intro g hg
    rw [Entries.keys_without] at hg
    have hne : g ≠ f := by simpa using List.of_mem_filter hg
    rw [lastUse_concat, if_neg fun ht => hne ((hu g).mp ht)]
  have hlast : c.lastUse f (uses ++ [u]) = uses.length + 1 := by rw [lastUse_concat, if_pos ((hu f).mpr rfl)]
  unfold InOrder
  rw [Entries.keys_append, List.pairwise_append]
  refine ⟨?_, List.pairwise_singleton _ _, ?_⟩
  · have hkept : (es.without f).keys.Pairwise fun g h => c.lastUse g uses < c.lastUse h uses := by
      rw [Entries.keys_without]
      exact h.filter _
    refine hkept.imp_of_mem fun hg hh hlt => ?_
    rw [hother _ hg, hother _ hh]
    exact hlt
  · intro g hg h hh
    obtain rfl : h = f := List.mem_singleton.mp hh
    rw [hother g hg, hlast]
    exact Nat.lt_succ_of_le (lastUse_le c g uses)

/-- A use of no fingerprint keeps the order. -/
theorem InOrder.concat_idle {uses : List Use} {es : Entries} (h : c.InOrder uses es) {u : Use}
    (hu : ∀ g, (c.after uses).touches g u = false) : c.InOrder (uses ++ [u]) es := by
  have hsame : ∀ g, c.lastUse g (uses ++ [u]) = c.lastUse g uses := fun g => by
    rw [lastUse_concat, hu g, if_neg Bool.false_ne_true]
  unfold InOrder
  simp only [hsame]
  exact h

/-! ### Insertions -/

/-- What an insertion leaves: the entries as they were, where the product is new and too heavy, or else the last ones of
the others and the new one. -/
theorem entries_insert_cases (hc : c.enabled = true) (f : Fingerprint) (p : Product) :
    f ∉ c.entries.keys ∧ (c.insert f p).entries = c.entries ∨
      (c.insert f p).entries <:+ c.entries.without f ++ [(f, p)] := by
  unfold insert
  rw [if_neg (by simp [hc])]
  split
  · next hheavy =>
    rw [Bool.and_eq_true, Bool.not_eq_true'] at hheavy
    refine Or.inl ⟨fun hmem => ?_, rfl⟩
    rw [contains_eq_true_iff.mpr hmem] at hheavy
    cases hheavy.1
  · exact Or.inr (Entries.fitting_suffix _ _)

theorem entries_insert_sublist (hc : c.enabled = true) (f : Fingerprint) (p : Product) :
    (c.insert f p).entries.Sublist (c.entries.without f ++ [(f, p)]) := by
  rcases entries_insert_cases hc f p with ⟨hnot, heq⟩ | hsuffix
  · rw [heq, Entries.without_of_notMem hnot]
    exact List.sublist_append_left _ _
  · exact hsuffix.sublist

/-! ### What the entries tell of the uses -/

/-- The entries hold what was put in last, and stand in the order of their last use. -/
structure Recent (budget : ℕ) (uses : List Use) : Prop where
  last : ∀ e ∈ ((ofBudget budget).after uses).entries, lastInserted? uses e.1 = some e.2
  inOrder : (ofBudget budget).InOrder uses ((ofBudget budget).after uses).entries

variable {budget : ℕ} {uses : List Use}

theorem Recent.insert (h : Recent budget uses) (f : Fingerprint) (p : Product) :
    Recent budget (uses ++ [.insert f p]) := by
  have hbudget : ((ofBudget budget).after uses).budget = budget := budget_after _ uses
  rcases Nat.eq_zero_or_pos budget with rfl | hpos
  · -- nothing is ever kept without a budget
    have hnil := (idle_after ⟨rfl, rfl, rfl, rfl⟩ (uses ++ [.insert f p]) : Idle ((ofBudget 0).after _)).entries
    refine ⟨?_, ?_⟩
    · rw [hnil]
      exact List.forall_mem_nil _
    · rw [hnil]
      exact List.Pairwise.nil
  · have henabled : ((ofBudget budget).after uses).enabled = true := by simpa [enabled, hbudget] using hpos
    have hsublist := entries_insert_sublist henabled f p
    rw [← use, ← after_concat] at hsublist
    refine ⟨fun e he => ?_, ?_⟩
    · rw [lastInserted?_concat]
      rcases List.mem_append.mp (hsublist.subset he) with he | he
      · have hne : f ≠ e.1 := (Entries.ne_of_mem_without he).symm
        rw [Use.insertedAt?, if_neg hne, Option.none_or, h.last e (Entries.mem_without he)]
      · obtain rfl := List.mem_singleton.mp he
        rw [Use.insertedAt?, if_pos rfl, Option.some_or]
    · exact (h.inOrder.concat (touches_insert_iff _ f p) p).sublist (hsublist.map _)

theorem Recent.get (h : Recent budget uses) (f : Fingerprint) : Recent budget (uses ++ [.get f]) := by
  have hlast : ∀ g, lastInserted? (uses ++ [.get f]) g = lastInserted? uses g := fun g => by
    rw [lastInserted?_concat]
    rfl
  have huse : (ofBudget budget).after (uses ++ [.get f]) = (((ofBudget budget).after uses).get f).2 := after_concat _ _ _
  refine ⟨fun e he => ?_, ?_⟩
  · rw [hlast]
    rw [huse] at he
    exact h.last e (mem_get he)
  · rw [huse]
    unfold Cache.get
    split
    · next hnone =>
      refine h.inOrder.concat_idle fun g => ?_
      by_cases hg : f = g
      · simp [touches, contains, ← hg, hnone]
      · simp [touches, hg]
    · next p hp =>
      refine h.inOrder.concat (fun g => ?_) p
      have hkept : ((ofBudget budget).after uses).contains f = true := by rw [contains, hp]; rfl
      by_cases hg : f = g
      · simp [touches, ← hg, hkept]
      · simp [touches, hg, Ne.symm hg]

/-- Every use keeps that the entries tell of the uses. -/
theorem Recent.use (h : Recent budget uses) (u : Use) : Recent budget (uses ++ [u]) := by
  cases u with
  | insert f p => exact h.insert f p
  | get f => exact h.get f
  | contains f =>
    have huse : (ofBudget budget).after (uses ++ [.contains f]) = (ofBudget budget).after uses := after_concat _ _ _
    refine ⟨fun e he => ?_, ?_⟩
    · rw [lastInserted?_concat]
      rw [huse] at he
      exact h.last e he
    · rw [huse]
      exact h.inOrder.concat_idle fun _ => rfl

theorem recent_after (budget : ℕ) (uses : List Use) : Recent budget uses := by
  induction uses using List.reverseRecOn with
  | nil => exact ⟨List.forall_mem_nil _, List.Pairwise.nil⟩
  | append_singleton uses u ih => exact ih.use u

/-- **What is given up first**: what an insertion gives up was used less recently than what it leaves. -/
theorem evicted_first (budget : ℕ) (uses : List Use) (f : Fingerprint) (p : Product) {g h : Fingerprint}
    (hg : ((ofBudget budget).after uses).contains g = true)
    (hgone : (((ofBudget budget).after uses).insert f p).contains g = false)
    (hh : (((ofBudget budget).after uses).insert f p).contains h = true) :
    (ofBudget budget).lastUse g (uses ++ [.insert f p]) < (ofBudget budget).lastUse h (uses ++ [.insert f p]) := by
  have horder := (recent_after budget uses).inOrder.concat (touches_insert_iff _ f p) p
  rw [contains_eq_true_iff] at hg hh
  have hgone' : g ∉ (((ofBudget budget).after uses).insert f p).entries.keys := fun hmem => by
    rw [contains_eq_true_iff.mpr hmem] at hgone
    cases hgone
  by_cases henabled : ((ofBudget budget).after uses).enabled = true
  · rcases entries_insert_cases henabled f p with ⟨-, heq⟩ | ⟨gone, hsplit⟩
    · rw [heq] at hgone'
      exact absurd hg hgone'
    · -- what is given up stands ahead of what is left
      unfold InOrder at horder
      rw [← hsplit, Entries.keys_append, List.pairwise_append] at horder
      refine horder.2.2 g ?_ h hh
      have hall : g ∈ Entries.keys (gone ++ (((ofBudget budget).after uses).insert f p).entries) := by
        rw [hsplit, Entries.keys_append, Entries.keys_without]
        by_cases hgf : g = f
        · exact List.mem_append_right _ (by simp [Entries.keys, hgf])
        · exact List.mem_append_left _ (List.mem_filter.mpr ⟨hg, by simpa using hgf⟩)
      rw [Entries.keys_append] at hall
      exact (List.mem_append.mp hall).resolve_right hgone'
  · rw [insert, if_pos (by simpa using henabled)] at hgone'
    exact absurd hg hgone'

/-! ### What is found later -/

/-- Without insertions, what is found stays what it is. -/
theorem find?_after_of_noInsert {later : List Use} (h : ∀ u ∈ later, u.isInsert = false) (c : Cache) (f : Fingerprint) :
    (c.after later).entries.find? f = c.entries.find? f := by
  induction later generalizing c with
  | nil => rfl
  | cons u later ih =>
    obtain ⟨hu, hlater⟩ := List.forall_mem_cons.mp h
    have hafter : c.after (u :: later) = (c.use u).after later := rfl
    rw [hafter, ih hlater]
    cases u with
    | insert g p => cases hu
    | get g => exact find?_get c g f
    | contains g => rfl

/-- What is not kept is not found before it is put in again. -/
theorem find?_after_eq_none {later : List Use} (h : ∀ p, .insert f p ∉ later) (hf : c.entries.find? f = none) :
    (c.after later).entries.find? f = none := by
  induction later generalizing c with
  | nil => exact hf
  | cons u later ih =>
    have hafter : c.after (u :: later) = (c.use u).after later := rfl
    rw [hafter]
    refine ih (fun p hmem => h p (List.mem_cons_of_mem u hmem)) ?_
    cases u with
    | insert g p =>
      have hne : f ≠ g := fun heq => h p (heq ▸ List.mem_cons_self)
      rw [Entries.find?_eq_none_iff] at hf ⊢
      intro q hq
      rcases mem_insert hq with hq | hq
      · exact hf q hq
      · exact hne (Prod.mk.inj hq).1
    | get g => exact (find?_get c g f).trans hf
    | contains g => exact hf

/-! ### What a cache holds -/

/-- **What a cache holds** behind any uses of one that was empty, for every budget: a lookup finds nothing, or what was
put in last under its fingerprint. What is not kept, given up or never there, is not found before it is put in again.
What an insertion gives up was used less recently than all that it leaves.

If there is a budget, a product that fits into it is found after it has been put in, until the next insertion. Without
one, nothing is ever found. -/
theorem contents (budget : ℕ) (uses : List Use) :
    let c := (ofBudget budget).after uses
    (∀ f p, (c.get f).1 = some p → lastInserted? uses f = some p) ∧
      (∀ f, c.contains f = false → ∀ later, (∀ p, .insert f p ∉ later) → ((c.after later).get f).1 = none) ∧
      (∀ f p g h, c.contains g = true → (c.insert f p).contains g = false → (c.insert f p).contains h = true →
        (ofBudget budget).lastUse g (uses ++ [.insert f p]) < (ofBudget budget).lastUse h (uses ++ [.insert f p])) ∧
      (0 < budget → ∀ f p, p.weight ≤ budget → ∀ later, (∀ u ∈ later, u.isInsert = false) →
        (((c.insert f p).after later).get f).1 = some p) ∧
      (budget = 0 → ∀ f, (c.get f).1 = none) := by
  intro c
  have hbudget : c.budget = budget := budget_after _ uses
  refine ⟨fun f p hp => ?_, fun f hf later hlater => ?_, fun f p g h hg hgone hh => ?_,
    fun hpos f p hp later hlater => ?_, fun hzero f => ?_⟩
  · rw [get_fst] at hp
    exact (recent_after budget uses).last (f, p) (Entries.mem_of_find? hp)
  · rw [get_fst]
    exact find?_after_eq_none hlater (by simpa [contains] using hf)
  · exact evicted_first budget uses f p hg hgone hh
  · have henabled : c.enabled = true := by simpa [enabled, hbudget] using hpos
    rw [get_fst, find?_after_of_noInsert hlater, find?_insert_self f henabled (hbudget.symm ▸ hp)]
  · rw [get_fst, (idle_after ⟨hzero, rfl, rfl, rfl⟩ uses : Idle c).entries]
    rfl

/-- Of two products that fit together, the one that was looked up survives a third, and what replaced it is found. -/
theorem contents_sample :
    let key (n : UInt8) : Fingerprint := ⟨List.replicate 32 n⟩
    let product (n : ℕ) : Product := ⟨List.replicate n 0, []⟩
    let uses : List Use := [.insert (key 1) (product 5), .insert (key 2) (product 4), .insert (key 1) (product 4),
      .contains (key 2)]
    let c := (ofBudget 10).after uses
    lastInserted? uses (key 1) = some (product 4) ∧
      (((c.insert (key 3) (product 4)).after [.get (key 2), .contains (key 1)]).get (key 3)).1 = some (product 4) ∧
      (ofBudget 10).lastUse (key 2) (uses ++ [.insert (key 3) (product 4)]) <
        (ofBudget 10).lastUse (key 1) (uses ++ [.insert (key 3) (product 4)]) ∧
      (((c.insert (key 3) (product 4)).after [.get (key 1)]).get (key 2)).1 = none := by
  intro key product uses c
  obtain ⟨hlast, -, hfirst, hfound, -⟩ := contents 10 uses
  obtain ⟨-, hgone, -⟩ := contents 10 (uses ++ [.insert (key 3) (product 4)])
  rw [after_concat] at hgone
  refine ⟨hlast _ _ (by decide), hfound (by decide) _ _ (by decide) _ (by decide), ?_, ?_⟩
  · exact hfirst (key 3) (product 4) (key 2) (key 1) (by decide) (by decide) (by decide)
  · exact hgone (key 2) (by decide) [.get (key 1)] (by simp)

/-- A product without bytes fits into no budget at all, but a cache without a budget does not keep it. -/
theorem disabled_holds_nothing :
    let empty : Product := ⟨[], []⟩
    let key : Fingerprint := ⟨List.replicate 32 1⟩
    empty.weight ≤ 0 ∧ (((ofBudget 0).insert key empty).get key).1 = none := by
  decide

end Cache

end SurveyGateway
