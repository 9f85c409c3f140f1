import SurveyGateway.Proofs.Interleaving.Basic

/-!
# Where products come from

The steps of a run do not belong together: between looking a product up and storing it, other runs may compute the
same product, and store it, and have it evicted again. This module shows that every product that is kept or given
out was nevertheless computed for its fingerprint, from a volume that stood at the locator of the run that computed
it when that run opened it.

## The model

Statements about the past refer to the events up to now, of which some `past` has led to the moment in question:

* `Opened` — a run has opened a volume that was registered at its locator.
* `Computed` — a run has had its question answered by the volume it had opened.
* `Kept` — a run that had computed a product has stored it, and it has been in the cache at every moment since.
* `Shown` — a run has found a product in the cache that was kept there.

## What is proved

* `Grounded` is the invariant of a run: what its phase holds is the outcome of such a moment. Events to come do not
  change that (`Grounded.concat`), and its own moves keep it (`Move.grounded`).
* `kept_of_entry`, `grounded_of_flight` — the invariant holds of all entries and all runs in every interleaving.
* `product_provenance` — what follows for the entries of the cache and the outcomes of runs.
-/

namespace SurveyGateway.Interleaving

open Storage (Memory Reader Dataset)

/-! ### Moments of the past -/

section Moments

variable (resolver : Resolver) (s : State) (events : List Event)

/-- The run `n` has opened the volume `v`, which was registered at its locator at that moment. -/
def Opened (n : ℕ) (t : Ticket) (v : Volume) : Prop :=
  ∃ past rest r c d, events = past ++ .advance n :: rest ∧
    (s.after resolver past).flights[n]? = some ⟨r, .opening t c⟩ ∧
    (s.after resolver past).shared.storage.dataset? t.inquiry.dataset = some d ∧ d.volume = v

/-- The run `n` has computed the product `p` for a request of fingerprint `f`, from the volume it had opened. -/
def Computed (n : ℕ) (f : Fingerprint) (p : Product) : Prop :=
  ∃ past rest r t v, events = past ++ .advance n :: rest ∧
    (s.after resolver past).flights[n]? = some ⟨r, .computing t v⟩ ∧ Opened resolver s past n t v ∧
    r.normalize resolver = .ok t.inquiry ∧ t.inquiry.fingerprint = f ∧ v.answer t.inquiry.question = .ok p

/-- A run has computed the product `p` and then stored it under `f`, and it has been there ever since. -/
def Kept (f : Fingerprint) (p : Product) : Prop :=
  ∃ n past rest r t, events = past ++ .advance n :: rest ∧
    (s.after resolver past).flights[n]? = some ⟨r, .storing t p⟩ ∧ t.key = f ∧ Computed resolver s past n f p ∧
    ∀ mid, mid <+: rest → (f, p) ∈ (s.after resolver (past ++ .advance n :: mid)).shared.cache.entries

/-- The run `n` has looked `f` up and found the product `p` that was kept under it. -/
def Shown (n : ℕ) (f : Fingerprint) (p : Product) : Prop :=
  ∃ past rest r t c, events = past ++ .advance n :: rest ∧
    (s.after resolver past).flights[n]? = some ⟨r, .lookingUp t c⟩ ∧ t.key = f ∧ Kept resolver s past f p

end Moments

section Events

variable {resolver : Resolver} {s : State} {events : List Event} {n : ℕ} {f : Fingerprint} {p : Product}

theorem Opened.concat {t : Ticket} {v : Volume} (h : Opened resolver s events n t v) (e : Event) :
    Opened resolver s (events ++ [e]) n t v := by
  obtain ⟨past, rest, r, c, d, rfl, h⟩ := h
  exact ⟨past, rest ++ [e], r, c, d, by simp, h⟩

theorem Computed.concat (h : Computed resolver s events n f p) (e : Event) :
    Computed resolver s (events ++ [e]) n f p := by
  obtain ⟨past, rest, r, t, v, rfl, h⟩ := h
  exact ⟨past, rest ++ [e], r, t, v, by simp, h⟩

theorem Shown.concat (h : Shown resolver s events n f p) (e : Event) : Shown resolver s (events ++ [e]) n f p := by
  obtain ⟨past, rest, r, t, c, rfl, h⟩ := h
  exact ⟨past, rest ++ [e], r, t, c, by simp, h⟩

/-- What was kept is kept as long as it is in the cache. -/
theorem Kept.concat (h : Kept resolver s events f p) {e : Event}
    (he : (f, p) ∈ (s.after resolver (events ++ [e])).shared.cache.entries) :
    Kept resolver s (events ++ [e]) f p := by
  obtain ⟨n, past, rest, r, t, rfl, hrun, hkey, hp, hsince⟩ := h
  refine ⟨n, past, rest ++ [e], r, t, by simp, hrun, hkey, hp, fun mid hmid => ?_⟩
  rcases List.prefix_concat_iff.mp hmid with rfl | hmid
  · simpa using he
  · exact hsince mid hmid

end Events

/-! ### The invariant of a run -/

/-- What the phase of the run `n` holds is the outcome of a moment of its past. -/
def Grounded (resolver : Resolver) (s : State) (events : List Event) (n : ℕ) (r : Request) :
    Run Reader Volume → Prop
  | .connecting _ | .lookingUp _ _ | .opening _ _ | .finished (.error _) => True
  | .checking t _ p => Shown resolver s events n t.key p
  | .computing t v => Opened resolver s events n t v
  | .closing t _ result => ∀ p, result = .ok p → Computed resolver s events n t.key p
  | .storing t p => Computed resolver s events n t.key p
  | .finished (.ok ⟨p, stored⟩) => ∃ i, r.normalize resolver = .ok i ∧
      if stored then Shown resolver s events n i.fingerprint p else Computed resolver s events n i.fingerprint p

variable {resolver : Resolver} {s : State} {n : ℕ} {r : Request} {run run' : Run Reader Volume}

theorem grounded_start (h : Run.start resolver r = run) (events : List Event) :
    Grounded resolver s events n r run := by
  subst h
  unfold Run.start
  split <;> trivial

/-- Whatever happens later, the past stays. -/
theorem Grounded.concat {events : List Event} (h : Grounded resolver s events n r run) (e : Event) :
    Grounded resolver s (events ++ [e]) n r run := by
  cases run with
  | connecting | lookingUp | opening => trivial
  | checking => exact Shown.concat h e
  | computing => exact Opened.concat h e
  | closing => exact fun p hp => (h p hp).concat e
  | storing => exact Computed.concat h e
  | finished o =>
    cases o with
    | error f => trivial
    | ok served =>
      obtain ⟨i, hi, h⟩ := h
      refine ⟨i, hi, ?_⟩
      split at h
      · next hstored =>
        rw [if_pos hstored]
        exact h.concat e
      · next hstored =>
        rw [if_neg hstored]
        exact h.concat e

/-- A move of the run `n` keeps its invariant, as long as all that is in the cache is kept. -/
theorem Move.grounded {past : List Event} {s' : Shared Memory}
    (hm : Move (s.after resolver past).shared run run' s')
    (hrun : (s.after resolver past).flights[n]? = some ⟨r, run⟩) (hs : Serves resolver r run)
    (hg : Grounded resolver s past n r run)
    (hk : ∀ f p, (f, p) ∈ (s.after resolver past).shared.cache.entries → Kept resolver s past f p) :
    Grounded resolver s (past ++ [.advance n]) n r run' := by
  cases hm with
  | connected | absent | withheld | denied | failed => trivial
  | @found t c p h =>
    exact ⟨past, [], r, t, c, rfl, hrun, rfl, hk _ _ (Entries.mem_of_find? h)⟩
  | @shown t c p h =>
    obtain ⟨hi, -⟩ := hs
    refine ⟨t.inquiry, hi, ?_⟩
    rw [if_pos rfl, ← t.key_eq]
    exact Shown.concat hg _
  | @opens t c v h =>
    obtain ⟨-, rfl⟩ := hs
    obtain ⟨-, hv, -⟩ := (Memory.openVolume_ok_iff _ _ _ _).mp h
    obtain ⟨d, hd, hv⟩ := Option.map_eq_some_iff.mp hv
    exact ⟨past, [], r, _, d, rfl, hrun, hd, hv⟩
  | @answered t v =>
    intro p hp
    exact ⟨past, [], r, t, v, rfl, hrun, hg, hs, t.key_eq.symm, hp⟩
  | @closed t v p => exact (hg p rfl).concat _
  | @stored t p =>
    refine ⟨t.inquiry, hs, ?_⟩
    rw [if_neg Bool.false_ne_true, ← t.key_eq]
    exact Computed.concat hg _
  | ended => exact hg.concat _

/-! ### Every interleaving -/

/-- An entry behind a step was there before, or has just been stored by a run that had computed it. -/
theorem kept_step {past : List Event} {e : Event} {f : Fingerprint} {p : Product}
    (hk : ∀ f p, (f, p) ∈ (s.after resolver past).shared.cache.entries → Kept resolver s past f p)
    (hg : ∀ n g, (s.after resolver past).flights[n]? = some g → Grounded resolver s past n g.request g.run)
    (h : (f, p) ∈ (s.after resolver (past ++ [e])).shared.cache.entries) :
    Kept resolver s (past ++ [e]) f p := by
  -- an entry that stays is kept; only the last move of a run brings in another one
  have hstays : (f, p) ∈ (s.after resolver past).shared.cache.entries → Kept resolver s (past ++ [e]) f p :=
    fun hold => (hk f p hold).concat h
  have hnew := h
  rw [State.after_concat] at hnew
  rcases State.shared_step resolver (s.after resolver past) e with
    ⟨n, g, run, rfl, hrun, -, hm⟩ | hsame | ⟨k, rfl, hevict⟩
  · generalize ((s.after resolver past).step resolver (.advance n)).shared = u at hm hnew
    obtain ⟨r, old⟩ := g
    cases hm with
    | connected | shown | withheld | opens | denied | answered | closed | failed | ended => exact hstays hnew
    | found | absent => exact hstays (Cache.mem_get hnew)
    | @stored t p' =>
      rcases Cache.mem_insert hnew with hold | heq
      · exact hstays hold
      · obtain ⟨rfl, rfl⟩ := Prod.mk.inj heq
        refine ⟨n, past, [], r, t, rfl, hrun, rfl, hg n _ hrun, fun mid hmid => ?_⟩
        rw [List.prefix_nil.mp hmid]
        exact h
  · exact hstays (hsame ▸ hnew)
  · rw [hevict] at hnew
    exact hstays (Cache.mem_evict hnew)

/-- What all entries and all runs have in common behind any events. -/
theorem grounded_after (resolver : Resolver) (m : Memory) (budget : ℕ) (events : List Event) :
    (∀ f p, (f, p) ∈ ((State.fresh m budget).after resolver events).shared.cache.entries →
      Kept resolver (.fresh m budget) events f p) ∧
    ∀ n g, ((State.fresh m budget).after resolver events).flights[n]? = some g →
      Grounded resolver (.fresh m budget) events n g.request g.run := by
  induction events using List.reverseRecOn with
  | nil => exact ⟨fun f p h => (List.not_mem_nil h).elim, fun n g h => by cases h⟩
  | append_singleton past e ih =>
    obtain ⟨hk, hg⟩ := ih
    refine ⟨fun f p h => kept_step hk hg h, fun n g h => ?_⟩
    rw [State.after_concat] at h
    rcases State.flight_step h with h | ⟨-, -, hstart⟩ | ⟨old, rfl, hold, hm⟩
    · exact (hg n g h).concat e
    · exact grounded_start hstart _
    · exact hm.grounded hold (serves_of_fresh hold) (hg n _ hold) hk

/-- A run whose question was not answered has nothing to store and nothing to show. -/
theorem failed_after {past : List Event} {t : Ticket} {v : Volume} {e : Mishap Failure}
    (h : (s.after resolver past).flights[n]? = some ⟨r, .closing t v (.error e)⟩) (rest : List Event) :
    ∃ run, (s.after resolver (past ++ rest)).flights[n]? = some ⟨r, run⟩ ∧
      (run = .closing t v (.error e) ∨ ∃ f, run = .finished (.error f)) := by
  rw [State.after_append]
  induction rest using List.reverseRecOn with
  | nil => exact ⟨_, h, Or.inl rfl⟩
  | append_singleton rest e' ih =>
    obtain ⟨run, hrun, hphase⟩ := ih
    obtain ⟨run', hrun'⟩ := State.flight_of_step resolver hrun e'
    rw [State.after_concat]
    refine ⟨run', hrun', ?_⟩
    rcases State.flight_step hrun' with hsame | ⟨-, hn, -⟩ | ⟨old, -, hold, hm⟩
    · obtain rfl : run = run' := congrArg Flight.run (Option.some.inj (hrun.symm.trans hsame))
      exact hphase
    · exact absurd (List.getElem?_eq_some_iff.mp hrun).1 (by omega)
    · obtain rfl : run = old := congrArg Flight.run (Option.some.inj (hrun.symm.trans hold))
      rcases hphase with rfl | ⟨f, rfl⟩
      · generalize (((s.after resolver past).after resolver rest).step resolver e').shared = u at hm
        cases hm with
        | failed => exact Or.inr ⟨_, rfl⟩
      · generalize (((s.after resolver past).after resolver rest).step resolver e').shared = u at hm
        cases hm with
        | ended => exact Or.inr ⟨f, rfl⟩

/-- **Every product has a provenance**, in every interleaving that starts with an empty cache.

An entry of the cache was stored by a run that had computed it for this fingerprint, from a volume that was
registered at its locator when it opened it, and has not been altered since. A run that ends with a product has
computed it itself, or has found it kept in the cache under the fingerprint of its own request. And a run whose
question was not answered, because of a failure or because the computation broke off, never comes to store or to
return a product. -/
theorem product_provenance (resolver : Resolver) (m : Memory) (budget : ℕ) (events : List Event) :
    (∀ f p, (f, p) ∈ ((State.fresh m budget).after resolver events).shared.cache.entries →
      Kept resolver (.fresh m budget) events f p) ∧
    (∀ (n : ℕ) (r : Request) (p : Product) (stored : Bool),
      ((State.fresh m budget).after resolver events).flights[n]? = some ⟨r, .finished (.ok ⟨p, stored⟩)⟩ →
      ∃ i, r.normalize resolver = .ok i ∧
        if stored then Shown resolver (.fresh m budget) events n i.fingerprint p
        else Computed resolver (.fresh m budget) events n i.fingerprint p) ∧
    ∀ (past rest : List Event) (n : ℕ) (r : Request) (t : Ticket) (v : Volume) (e : Mishap Failure),
      events = past ++ rest →
      ((State.fresh m budget).after resolver past).flights[n]? = some ⟨r, .closing t v (.error e)⟩ →
      ∃ run, ((State.fresh m budget).after resolver events).flights[n]? = some ⟨r, run⟩ ∧
        (run = .closing t v (.error e) ∨ ∃ f, run = .finished (.error f)) := by
  obtain ⟨hk, hg⟩ := grounded_after resolver m budget events
  refine ⟨hk, fun n r p stored h => hg n _ h, ?_⟩
  rintro past rest n r t v e rfl h
  exact failed_after h rest

/-- The metadata that the sample has stored and returned have a provenance; an unknown direction leaves nothing. -/
theorem product_provenance_sample :
    (Kept Sample.resolver (.fresh Sample.memory 0xffffffff)
        (.start (Sample.request "first" .metadata) :: List.replicate 6 (.advance 0))
        (Sample.inquiry "first" .metadata).fingerprint Sample.product ∧
      Computed Sample.resolver (.fresh Sample.memory 0xffffffff)
        (.start (Sample.request "first" .metadata) :: List.replicate 6 (.advance 0)) 0
        (Sample.inquiry "first" .metadata).fingerprint Sample.product) ∧
    ∃ run, ((State.fresh Sample.memory 0xffffffff).after Sample.resolver
        (.start (Sample.request "first" (.slice ⟨"?", 0, []⟩)) :: List.replicate 4 (.advance 0))).flights[0]? =
          some ⟨Sample.request "first" (.slice ⟨"?", 0, []⟩), run⟩ ∧
      ((∃ t v e, run = .closing t v (.error e)) ∨ ∃ f, run = .finished (.error f)) := by
  constructor
  · obtain ⟨c, hserved, hentries⟩ := served_sample
    obtain ⟨hkept, hshown, -⟩ := product_provenance Sample.resolver Sample.memory 0xffffffff
      (.start (Sample.request "first" .metadata) :: List.replicate 6 (.advance 0))
    refine ⟨hkept _ _ (by rw [hserved]; simp [hentries]), ?_⟩
    obtain ⟨i, hi, hcomputed⟩ :=
      hshown 0 (Sample.request "first" .metadata) Sample.product false (by rw [hserved]; rfl)
    obtain rfl := Except.ok.inj (Sample.normalize_first.symm.trans hi)
    exact hcomputed
  · obtain ⟨-, -, hfailed⟩ := product_provenance Sample.resolver Sample.memory 0xffffffff
      (.start (Sample.request "first" (.slice ⟨"?", 0, []⟩)) :: List.replicate 4 (.advance 0))
    have hvalid : (Question.slice ⟨"?", 0, []⟩).validate = .ok () := by decide
    have hanswer : ∃ e, Volume.wellKnown.answer (Question.canonical (.slice ⟨"?", 0, []⟩)) = .error e := ⟨_, rfl⟩
    obtain ⟨e, he⟩ := hanswer
    obtain ⟨run, hrun, hphase⟩ := hfailed _ [] 0 _ _ _ e (List.append_nil _).symm (by
      rw [answered_sample hvalid, he]; rfl)
    refine ⟨run, hrun, ?_⟩
    rcases hphase with h | h
    · exact Or.inl ⟨_, _, _, h⟩
    · exact Or.inr h

end SurveyGateway.Interleaving
