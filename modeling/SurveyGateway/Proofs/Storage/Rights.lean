import Mathlib.Data.List.Induction
import SurveyGateway.Proofs.Results
import SurveyGateway.Proofs.Storage.Readers

/-!
# The right to read, by the history of a memory

What may be read from memory follows from what was registered, granted and revoked there, in that order. A `Change` is
one such call, and `Memory.after` the memory that a history of them leaves.

`Entitled` reads the right off the history alone: a volume is registered at the locator, and since the last one was, a
token of the digest has been granted and none of that digest revoked after it. A change does to `Entitled` what it does
to `Memory.CanRead` (`entitled_concat`, `Memory.canRead_change`), so the two agree after any history
(`Memory.canRead_after`). A connection has no part in it: it holds a locator and a digest, and both are looked up when
it is used.
-/

namespace SurveyGateway.Storage

/-! ### Histories -/

/-- A call that changes who may read what. -/
inductive Change where
  | register (locator : String) (v : Volume)
  | grant (locator : String) (c : Credential)
  | revoke (locator : String) (c : Credential)

namespace Change

/-- The locator a change is made at. -/
def locator : Change → String
  | register l _ | grant l _ | revoke l _ => l

/-- A volume is registered at a locator. -/
def Registers (l : String) : Change → Prop
  | register k _ => k = l
  | grant .. | revoke .. => False

/-- A token of a digest is granted at a locator. -/
def Grants (l : String) (digest : Fingerprint) : Change → Prop
  | grant k g => k = l ∧ digestOf g = digest
  | register .. | revoke .. => False

/-- A token of a digest is revoked at a locator. -/
def Revokes (l : String) (digest : Fingerprint) : Change → Prop
  | revoke k g => k = l ∧ digestOf g = digest
  | register .. | grant .. => False

end Change

/-- `rest` follows in `xs` on an element with `P`, and nothing in it has `Q`. -/
def Since {α : Type} (P Q : α → Prop) (xs rest : List α) : Prop :=
  ∃ past x, xs = past ++ x :: rest ∧ P x ∧ ∀ y ∈ rest, ¬ Q y

/-- A volume has been registered at a locator. -/
def Registered (history : List Change) (l : String) : Prop := ∃ e ∈ history, e.Registers l

/-- The history gives the right to read at a locator to the tokens of a digest: since the last volume was registered
there, one was granted, and since then none revoked. -/
def Entitled (history : List Change) (l : String) (digest : Fingerprint) : Prop :=
  ∃ later, Since (Change.Registers l) (Change.Registers l) history later ∧
    ∃ rest, Since (Change.Grants l digest) (Change.Revokes l digest) later rest

section Since

variable {α : Type} {P Q : α → Prop}

theorem not_since_nil {rest : List α} : ¬ Since P Q [] rest := by
  rintro ⟨past, x, h, -⟩
  simp at h

/-- What follows on an element is nothing more if that is the last one, and ends with the last one otherwise. -/
theorem since_concat {xs rest : List α} {x : α} :
    Since P Q (xs ++ [x]) rest ↔
      (rest = [] ∧ P x) ∨ (¬ Q x ∧ ∃ earlier, rest = earlier ++ [x] ∧ Since P Q xs earlier) := by
  constructor
  · rintro ⟨past, y, hsplit, hy, hrest⟩
    rcases List.eq_nil_or_concat' rest with rfl | ⟨earlier, z, rfl⟩
    · obtain ⟨-, hlast⟩ := List.append_inj' hsplit rfl
      obtain rfl := List.singleton_injective hlast
      exact Or.inl ⟨rfl, hy⟩
    · rw [← List.cons_append, ← List.append_assoc] at hsplit
      obtain ⟨rfl, hlast⟩ := List.append_inj' hsplit rfl
      obtain rfl := List.singleton_injective hlast
      exact Or.inr ⟨hrest x (by simp), earlier, rfl, past, y, rfl, hy, fun y' hy' => hrest y' (by simp [hy'])⟩
  · rintro (⟨rfl, hx⟩ | ⟨hx, earlier, rfl, past, y, rfl, hy, hrest⟩)
    · exact ⟨xs, x, rfl, hx, by simp⟩
    · refine ⟨past, y, by simp, hy, fun y' hy' => ?_⟩
      rcases List.mem_append.mp hy' with hy' | hy'
      · exact hrest y' hy'
      · rwa [List.mem_singleton.mp hy']

/-- Something follows on an element with `P` and has no `Q` if the last element has `P`, or has no `Q` itself and
that is so before it. -/
theorem exists_since_concat {xs : List α} {x : α} :
    (∃ rest, Since P Q (xs ++ [x]) rest) ↔ P x ∨ (¬ Q x ∧ ∃ rest, Since P Q xs rest) := by
  constructor
  · rintro ⟨rest, h⟩
    rcases since_concat.mp h with ⟨-, hx⟩ | ⟨hx, earlier, -, h⟩
    · exact Or.inl hx
    · exact Or.inr ⟨hx, earlier, h⟩
  · rintro (hx | ⟨hx, earlier, h⟩)
    · exact ⟨[], since_concat.mpr (Or.inl ⟨rfl, hx⟩)⟩
    · exact ⟨_, since_concat.mpr (Or.inr ⟨hx, earlier, rfl, h⟩)⟩

/-- There is a last element with `P` if there is one at all. -/
theorem exists_since_iff {xs : List α} : (∃ rest, Since P P xs rest) ↔ ∃ x ∈ xs, P x := by
  induction xs using List.reverseRecOn with
  | nil => simp [not_since_nil]
  | append_singleton xs x ih =>
    rw [exists_since_concat, or_and_left, and_iff_right (em _), ih]
    simp [or_and_right, exists_or, or_comm]

end Since

variable {history : List Change} {e : Change} {l : String} {digest : Fingerprint}

theorem registered_concat : Registered (history ++ [e]) l ↔ e.Registers l ∨ Registered history l := by
  simp [Registered, or_and_right, exists_or, or_comm]

/-- A registration ends the right to read, a grant starts it where a volume is registered, a revocation ends it. -/
theorem entitled_concat :
    Entitled (history ++ [e]) l digest ↔
      ¬ e.Registers l ∧
        ((e.Grants l digest ∧ Registered history l) ∨ (¬ e.Revokes l digest ∧ Entitled history l digest)) := by
  unfold Entitled
  simp only [since_concat]
  constructor
  · rintro ⟨later, ⟨rfl, -⟩ | ⟨he, earlier, rfl, hlast⟩, hheld⟩
    · obtain ⟨rest, hheld⟩ := hheld
      exact absurd hheld not_since_nil
    · refine ⟨he, (exists_since_concat.mp hheld).imp (fun hg => ⟨hg, ?_⟩) (fun hh => ⟨hh.1, earlier, hlast, hh.2⟩)⟩
      exact exists_since_iff.mp ⟨earlier, hlast⟩
  · rintro ⟨he, ⟨hg, hregistered⟩ | ⟨hr, earlier, hlast, hheld⟩⟩
    · obtain ⟨earlier, hlast⟩ := exists_since_iff.mpr hregistered
      exact ⟨_, Or.inr ⟨he, earlier, rfl, hlast⟩, exists_since_concat.mpr (Or.inl hg)⟩
    · exact ⟨_, Or.inr ⟨he, earlier, rfl, hlast⟩, exists_since_concat.mpr (Or.inr ⟨hr, hheld⟩)⟩

namespace Memory

/-! ### One change -/

/-- The memory after a change. -/
def change (m : Memory) : Change → Memory
  | .register l v => m.register l v
  | .grant l c => (m.grant l c).2
  | .revoke l c => m.revoke l c

/-- The memory that a history leaves, of what was empty before. -/
def after (history : List Change) : Memory := history.foldl change empty

@[simp] theorem after_nil : after [] = empty := rfl

@[simp] theorem after_concat (history : List Change) (e : Change) : after (history ++ [e]) = (after history).change e := by
  simp [after]

@[simp] theorem dataset?_empty (l : String) : empty.dataset? l = none := rfl

/-- A change at one locator leaves the datasets at all others. -/
theorem dataset?_change_of_ne (m : Memory) {e : Change} {l : String} (h : e.locator ≠ l) :
    (m.change e).dataset? l = m.dataset? l := by
  cases e with
  | register k v => exact (dataset?_register ..).trans (if_neg h)
  | grant k g => exact (dataset?_grant ..).trans (if_neg h)
  | revoke k g => exact (dataset?_revoke ..).trans (if_neg h)

/-- What a change comes to at a locator depends on what was there, and on nothing else in the memory. -/
theorem dataset?_change_congr {m m' : Memory} {l : String} (h : m'.dataset? l = m.dataset? l) (e : Change) :
    (m'.change e).dataset? l = (m.change e).dataset? l := by
  cases e with
  | register k v => simp only [change, dataset?_register, h]
  | grant k g => simp only [change, dataset?_grant, h]
  | revoke k g => simp only [change, dataset?_revoke, h]

/-- There is a dataset after a change if it registers one or there was one before. -/
theorem isSome_dataset?_change (m : Memory) (e : Change) (l : String) :
    ((m.change e).dataset? l).isSome ↔ e.Registers l ∨ (m.dataset? l).isSome := by
  cases e with
  | register k v =>
    simp only [change, dataset?_register, Change.Registers]
    split <;> simp [*]
  | grant k g =>
    simp only [change, dataset?_grant, Change.Registers]
    split <;> simp
  | revoke k g =>
    simp only [change, dataset?_revoke, Change.Registers]
    split <;> simp

/-- Who can read after a change: a registration ends the right to read, a grant starts it where there is a dataset,
a revocation ends it. -/
theorem canRead_change (m : Memory) (e : Change) (c : Connection) :
    (m.change e).CanRead c ↔
      ¬ e.Registers c.dataset ∧
        ((e.Grants c.dataset (digestOf c.credential) ∧ (m.dataset? c.dataset).isSome) ∨
          (¬ e.Revokes c.dataset (digestOf c.credential) ∧ m.CanRead c)) := by
  cases e with
  | register k v => simp [change, Change.Registers, Change.Grants, Change.Revokes, canRead_register_iff]
  | grant k g => simp [change, Change.Registers, Change.Grants, Change.Revokes, canRead_grant_iff, and_assoc]
  | revoke k g => simp [change, Change.Registers, Change.Grants, Change.Revokes, canRead_revoke_iff]

/-! ### All changes -/

/-- There is a dataset where one has been registered. -/
theorem isSome_dataset?_after (history : List Change) (l : String) :
    ((after history).dataset? l).isSome ↔ Registered history l := by
  induction history using List.reverseRecOn with
  | nil => simp [Registered]
  | append_singleton history e ih => rw [after_concat, isSome_dataset?_change, registered_concat, ih]

/-- Those can read who have the right to by the history. -/
theorem canRead_after (history : List Change) (c : Connection) :
    (after history).CanRead c ↔ Entitled history c.dataset (digestOf c.credential) := by
  induction history using List.reverseRecOn with
  | nil => simp [CanRead, Entitled, not_since_nil]
  | append_singleton history e ih =>
    rw [after_concat, canRead_change, entitled_concat, isSome_dataset?_after, ih]

/-- What is at a locator follows from the changes that were made there. -/
theorem dataset?_after_filter (history : List Change) (l : String) :
    (after (history.filter (·.locator = l))).dataset? l = (after history).dataset? l := by
  induction history using List.reverseRecOn with
  | nil => rfl
  | append_singleton history e ih =>
    rw [List.filter_append, after_concat]
    by_cases h : e.locator = l
    · simp only [h, decide_true, List.filter_singleton, cond_true, after_concat]
      exact dataset?_change_congr ih e
    · rw [dataset?_change_of_ne _ h, ← ih]
      simp [h]

/-! ### Connections -/

/-- Two memories with the same dataset at a locator answer alike to its readers. -/
theorem mayRead_congr {m m' : Memory} {r : Reader} (h : m'.dataset? r.locator = m.dataset? r.locator) :
    m'.mayRead r = m.mayRead r := by
  simp only [mayRead, h]

/-- Two memories with the same dataset at a locator open it alike: the same volume, or the same failure. -/
theorem openDataset_congr {m m' : Memory} {r : Reader} (h : m'.dataset? r.locator = m.dataset? r.locator) :
    (engine.openDataset m' r).map Prod.fst = (engine.openDataset m r).map Prod.fst := by
  simp only [engine, openVolume, h]
  cases m.dataset? r.locator with
  | none => rfl
  | some d =>
    by_cases hr : d.readers.contains r.digest
    · simp only [hr, if_true]
      rfl
    · simp only [hr]
      rfl

/-- A connection opens its dataset in those memories where it may read. -/
theorem exists_openDataset_iff (m : Memory) (c : Connection) :
    (∃ v m', engine.openDataset m (connect c) = .ok (v, m')) ↔ m.CanRead c := by
  have hmap (opened : Volume × Memory) :
      engine.openDataset m (connect c) = .ok opened ↔ m.openVolume (connect c) = .ok opened := mapError_eq_ok_iff
  simp only [hmap, openVolume_ok_iff]
  constructor
  · rintro ⟨v, m', h, -⟩
    exact h
  · intro h
    obtain ⟨d, hd, -⟩ := id h
    exact ⟨d.volume, _, h, by rw [hd]; rfl, rfl⟩

theorem grant_fst_iff (m : Memory) (l : String) (g : Credential) :
    (m.grant l g).1 = true ↔ (m.dataset? l).isSome := by
  unfold grant
  cases m.dataset? l with
  | none => simp
  | some d => simp

theorem grant_eq_self_iff (m : Memory) (l : String) (g : Credential) :
    m.grant l g = (false, m) ↔ ¬ (m.dataset? l).isSome := by
  unfold grant
  cases m.dataset? l with
  | none => simp
  | some d => simp

/-- **The right to read follows the history.** Whenever a connection was made in a history of registrations, grants
and revocations, after all of it the connection may read, and opens a dataset, exactly when the history entitles its
locator and the digest of its token. A grant tells whether a volume was registered at its locator before, and does
nothing if none was. What was done at other locators could be left out: the connection would be answered the same, and
open the same volume or fail with the same message. -/
theorem reading_follows_history (past later : List Change) (l : String) (token : Credential) :
    ∃ r, engine.connect (after past) ⟨l, token⟩ = .ok r ∧
      (engine.mayRead (after (past ++ later)) r = true ↔ Entitled (past ++ later) l (digestOf token)) ∧
      ((∃ v m, engine.openDataset (after (past ++ later)) r = .ok (v, m)) ↔
        Entitled (past ++ later) l (digestOf token)) ∧
      (((after past).grant l token).1 = true ↔ Registered past l) ∧
      ((after past).grant l token = (false, after past) ↔ ¬ Registered past l) ∧
      engine.mayRead (after ((past ++ later).filter (·.locator = l))) r = engine.mayRead (after (past ++ later)) r ∧
      (engine.openDataset (after ((past ++ later).filter (·.locator = l))) r).map Prod.fst =
        (engine.openDataset (after (past ++ later)) r).map Prod.fst := by
  have hown := dataset?_after_filter (past ++ later) l
  refine ⟨connect ⟨l, token⟩, rfl, ?_, ?_, ?_, ?_, mayRead_congr hown, openDataset_congr hown⟩
  · exact (mayRead_iff _ _).trans (canRead_after _ _)
  · exact (exists_openDataset_iff _ _).trans (canRead_after _ _)
  · rw [grant_fst_iff, isSome_dataset?_after]
  · rw [grant_eq_self_iff, isSome_dataset?_after]

end Memory

end SurveyGateway.Storage
