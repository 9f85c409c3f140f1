import SurveyGateway.Proofs.History.Basic

/-!
# Where the entries of a cache come from

`LastStored` is the inquiry that was last answered and stored under a fingerprint, with the volume that answered it.
What the cache holds under a fingerprint is always the product of that inquiry (`lastStored_of_entry`), and so is
every product that is shown from the cache (`lastStored_of_shown`).

The volume is still the one at the locator of the inquiry if nothing has been registered there since
(`LastStored.volume`).
-/

namespace SurveyGateway.History

open Storage (Memory)

section Definitions

variable (resolver : Resolver) (s : Shared Memory)

/-- The inquiry `j` was the last one stored under the fingerprint `f`, and the volume `v` had answered it. -/
inductive LastStored (f : Fingerprint) : List Step → Inquiry → Volume → Prop
  /-- It has just been computed and stored. -/
  | stored {past : List Step} {r : Request} {j : Inquiry} {v : Volume} {p : Product}
      (hj : r.normalize resolver = .ok j) (hf : j.fingerprint = f)
      (hp : outcome resolver s past r = .ok ⟨p, false⟩) (hv : (after resolver s past).storage.Reads j.connection v) :
      LastStored f (past ++ [.ask r]) j v
  /-- It was the last one before, and nothing else has been stored. -/
  | later {past : List Step} {step : Step} {j : Inquiry} {v : Volume} (h : LastStored f past j v)
      (hnot : ¬ Stores resolver (after resolver s past) f step) : LastStored f (past ++ [step]) j v

/-- Nothing is registered at a locator once it has been asked. -/
def Unreplaced (steps : List Step) : Prop :=
  ∀ past r i mid locator v rest, steps = past ++ .ask r :: (mid ++ .register locator v :: rest) →
    r.normalize resolver = .ok i → i.dataset ≠ locator

end Definitions

variable {resolver : Resolver} {s : Shared Memory} {f : Fingerprint} {past : List Step} {i j : Inquiry} {v w : Volume}
  {p : Product} {r : Request}

/-! ### What was stored last -/

/-- How the last stored inquiry behind a step can have come about. -/
theorem lastStored_concat {step : Step} (h : LastStored resolver s f (past ++ [step]) j v) :
    (∃ r p, step = .ask r ∧ r.normalize resolver = .ok j ∧ j.fingerprint = f ∧
        outcome resolver s past r = .ok ⟨p, false⟩ ∧ (after resolver s past).storage.Reads j.connection v) ∨
      LastStored resolver s f past j v ∧ ¬ Stores resolver (after resolver s past) f step := by
  generalize hsteps : past ++ [step] = steps at h
  cases h with
  | stored hj hf hp hv =>
    obtain ⟨rfl, hstep⟩ := List.append_inj' hsteps rfl
    obtain rfl := List.singleton_inj.mp hstep
    exact Or.inl ⟨_, _, rfl, hj, hf, hp, hv⟩
  | later h hnot =>
    obtain ⟨rfl, hstep⟩ := List.append_inj' hsteps rfl
    obtain rfl := List.singleton_inj.mp hstep
    exact Or.inr ⟨h, hnot⟩

/-- Only one inquiry was the last. -/
theorem LastStored.unique (h : LastStored resolver s f past i v) (h' : LastStored resolver s f past j w) :
    i = j ∧ v = w := by
  induction h with
  | @stored past r i v p hi hf hp hv =>
    rcases lastStored_concat h' with ⟨r', p', hr, hj, -, -, hw⟩ | ⟨-, hnot⟩
    · obtain rfl := Step.ask.inj hr
      obtain rfl := Except.ok.inj (hi.symm.trans hj)
      exact ⟨rfl, hv.unique hw⟩
    · exact absurd ⟨r, i, p, rfl, hi, hf, hp⟩ hnot
  | later h hnot ih =>
    rcases lastStored_concat h' with ⟨r', p', rfl, hj, hf, hp, -⟩ | ⟨h', -⟩
    · exact absurd ⟨r', j, p', rfl, hj, hf, hp⟩ hnot
    · exact ih h'

/-- The last stored inquiry was asked, by a caller who could read the volume. -/
theorem LastStored.asked (h : LastStored resolver s f past j v) :
    ∃ before r rest, past = before ++ .ask r :: rest ∧ r.normalize resolver = .ok j ∧ j.fingerprint = f ∧
      (after resolver s before).storage.Reads j.connection v := by
  induction h with
  | @stored past r j v p hj hf hp hv => exact ⟨past, r, [], rfl, hj, hf, hv⟩
  | @later past step j v h hnot ih =>
    obtain ⟨before, r, rest, rfl, hj⟩ := ih
    exact ⟨before, r, rest ++ [step], by simp, hj⟩

/-- An entry of the cache is what the last stored inquiry was answered. -/
theorem lastStored_of_entry {m : Memory} {budget : ℕ}
    (h : (f, p) ∈ (after resolver (.fresh m budget) past).cache.entries) :
    ∃ j v, LastStored resolver (.fresh m budget) f past j v ∧ v.answer j.question = .ok p := by
  induction past using List.reverseRecOn with
  | nil => exact (List.not_mem_nil h).elim
  | append_singleton past step ih =>
    rw [after_concat] at h
    rcases entries_act h with ⟨hold, hnot⟩ | ⟨r, j, rfl, hj, hf, hnone, hreply⟩
    · obtain ⟨j, v, hlast, hp⟩ := ih hold
      exact ⟨j, v, hlast.later hnot, hp⟩
    · obtain ⟨v, hv, hp⟩ := (Memory.reply_ok_iff _ _ _).mp hreply
      exact ⟨j, v, .stored hj hf ((computed_iff hj).mpr ⟨hnone, hreply⟩) hv, hp⟩

/-- A volume stays registered at a locator that has been asked, unless it is replaced. -/
theorem LastStored.volume (h : LastStored resolver s f past j v) (hun : Unreplaced resolver past) :
    ((after resolver s past).storage.dataset? j.dataset).map Storage.Dataset.volume = some v := by
  induction h with
  | @stored past r j v p hj hf hp hv =>
    obtain ⟨d, hd, -, hv⟩ := hv
    rw [after_concat]
    have hsame := datasets_ask resolver (after resolver s past) r
    rw [Memory.dataset?, hsame, ← Memory.dataset?]
    exact Option.map_eq_some_iff.mpr ⟨d, hd, hv⟩
  | @later past step j v h hnot ih =>
    have hpast := ih fun before r i mid locator w rest hsplit =>
      hun before r i mid locator w (rest ++ [step]) (by simp [hsplit])
    rw [after_concat]
    cases step with
    | ask r =>
      rw [Memory.dataset?, datasets_ask resolver, ← Memory.dataset?]
      exact hpast
    | grant locator c => rwa [act, Memory.volume_grant]
    | revoke locator c => rwa [act, Memory.volume_revoke]
    | register locator w =>
      obtain ⟨before, r, rest, rfl, hj, -, -⟩ := h.asked
      have hne := hun before r j rest locator w [] (by simp) hj
      rw [act, Memory.dataset?_register, if_neg (Ne.symm hne)]
      exact hpast

/-- A product that is shown from the cache is what the last stored inquiry was answered. -/
theorem lastStored_of_shown {m : Memory} {budget : ℕ} (hi : r.normalize resolver = .ok i)
    (ho : outcome resolver (.fresh m budget) past r = .ok ⟨p, true⟩) :
    (after resolver (.fresh m budget) past).storage.CanRead i.connection ∧
      ∃ j v, LastStored resolver (.fresh m budget) i.fingerprint past j v ∧ v.answer j.question = .ok p := by
  obtain ⟨hread, hfind⟩ := shown?_eq_some_iff.mp ((shown_iff hi).mp ho)
  exact ⟨hread, lastStored_of_entry (Entries.mem_of_find? hfind)⟩

end SurveyGateway.History
