import SurveyGateway.Proofs.Interleaving.Basic

/-!
# Products are shown to readers only

There are two ways to a product, the cache and the dataset itself, and runs, grants, revocations and registrations
may come in between any two steps of a run. This module shows that none of that opens a way around the readers of
a dataset.

## What is proved

* `Move.admitted` — a run gets past the check of its right to read in one of two steps, and in both it can read at
  that very moment. So past the check, the moment is known (`admitted_after`).
* `canRead_step` — only a grant lets a token read that could not read before.
* `product_only_for_reader` — a run that ends with a product could read its dataset at a moment between its start
  and its end; and a run that is started behind a revocation of its token never ends with a product, but with a
  failure, as long as no token of the same digest is granted.
-/

namespace SurveyGateway.Interleaving

open Storage (Memory Reader digestOf)

/-! ### Past the check -/

/-- The run is past the check of its right to read. -/
def Admitted : Run Reader Volume → Prop
  | .computing _ _ | .closing _ _ _ | .storing _ _ | .finished (.ok _) => True
  | _ => False

/-- The run `n` is in flight: it has been started and is not over. -/
def InFlight (s : State) (n : ℕ) : Prop := ∃ f, s.flights[n]? = some f ∧ f.run.outcome? = none

/-- Whoever gets past the check can read at that moment. -/
theorem Move.admitted {resolver : Resolver} {r : Request} {s s' : Shared Memory} {run run' : Run Reader Volume}
    (hm : Move s run run' s') (hs : Serves resolver r run) (ha : Admitted run') :
    Admitted run ∨
      run.outcome? = none ∧ ∃ i, r.normalize resolver = .ok i ∧ s.storage.CanRead i.connection := by
  cases hm with
  | shown h =>
    obtain ⟨hi, rfl⟩ := hs
    exact Or.inr ⟨rfl, _, hi, (Memory.mayRead_iff _ _).mp h⟩
  | opens h =>
    obtain ⟨hi, rfl⟩ := hs
    exact Or.inr ⟨rfl, _, hi, ((Memory.openVolume_ok_iff _ _ _ _).mp h).1⟩
  | answered | closed | stored => exact Or.inl trivial
  | ended => exact Or.inl ha
  | _ => exact ha.elim

/-- A run past the check could read at some moment of its flight. -/
theorem admitted_after {resolver : Resolver} {s : State} {n : ℕ} {f : Flight} (h : s.flights[n]? = some f)
    (hs : Serves resolver f.request f.run) (hf : ¬ Admitted f.run) (events : List Event) {run : Run Reader Volume}
    (hr : (s.after resolver events).flights[n]? = some ⟨f.request, run⟩) (ha : Admitted run) :
    ∃ i, f.request.normalize resolver = .ok i ∧ ∃ past rest, events = past ++ rest ∧
      InFlight (s.after resolver past) n ∧ (s.after resolver past).shared.storage.CanRead i.connection := by
  induction events using List.reverseRecOn generalizing run with
  | nil =>
    have heq : f = ⟨f.request, run⟩ := Option.some.inj (h.symm.trans hr)
    exact absurd (congrArg Flight.run heq ▸ ha) hf
  | append_singleton events e ih =>
    -- the moment found before the last event still counts behind it
    have hlater : ∀ {run'}, (s.after resolver events).flights[n]? = some ⟨f.request, run'⟩ → Admitted run' →
        ∃ i, f.request.normalize resolver = .ok i ∧ ∃ past rest, events ++ [e] = past ++ rest ∧
          InFlight (s.after resolver past) n ∧ (s.after resolver past).shared.storage.CanRead i.connection := by
      intro run' hr' ha'
      obtain ⟨i, hi, past, rest, rfl, hmoment⟩ := ih hr' ha'
      exact ⟨i, hi, past, rest ++ [e], List.append_assoc _ _ _, hmoment⟩
    rw [State.after_concat] at hr
    rcases State.flight_step hr with hr | ⟨-, hn, -⟩ | ⟨old, -, hold, hm⟩
    · exact hlater hr ha
    · obtain ⟨run', hrun'⟩ := State.flight_after resolver h events
      exact absurd (List.getElem?_eq_some_iff.mp hrun').1 (by omega)
    · rcases hm.admitted (serves_after h hs events hold) ha with ha' | ⟨hnone, i, hi, hread⟩
      · exact hlater hold ha'
      · exact ⟨i, hi, events, [e], rfl, ⟨_, hold, hnone⟩, hread⟩

/-! ### Who can read -/

/-- A token of the same digest as `c` is granted at the locator. -/
def Event.Grants (locator : String) (c : Credential) : Event → Prop
  | .grant l g => l = locator ∧ digestOf g = digestOf c
  | _ => False

/-- The steps of runs leave all datasets alone. -/
theorem Move.datasets_eq {s s' : Shared Memory} {run run' : Run Reader Volume} (hm : Move s run run' s') :
    s'.storage.datasets = s.storage.datasets := by
  cases hm <;> rfl

theorem datasets_advance (resolver : Resolver) (s : State) (n : ℕ) :
    (s.step resolver (.advance n)).shared.storage.datasets = s.shared.storage.datasets := by
  cases h : s.flights[n]? with
  | none => simp only [State.step, h]
  | some f =>
    obtain ⟨run, -, hm⟩ := State.flight_advance resolver h
    exact hm.datasets_eq

/-- Whoever can read behind an event could read before, or has just been granted it. -/
theorem canRead_step {resolver : Resolver} {s : State} {e : Event} {c : Connection}
    (h : (s.step resolver e).shared.storage.CanRead c) :
    s.shared.storage.CanRead c ∨ e.Grants c.dataset c.credential := by
  cases e with
  | start | evict => exact Or.inl h
  | advance n => exact Or.inl ((Memory.canRead_congr (datasets_advance resolver s n) c).mp h)
  | register => exact Or.inl (Memory.canRead_of_register h)
  | grant => exact Memory.canRead_grant h
  | revoke => exact Or.inl (Memory.canRead_of_revoke h)

/-- Without a grant, a token that cannot read will not be able to. -/
theorem not_canRead_after {resolver : Resolver} {s : State} {c : Connection}
    (h : ¬ s.shared.storage.CanRead c) (events : List Event)
    (hg : ∀ e ∈ events, ¬ e.Grants c.dataset c.credential) :
    ¬ (s.after resolver events).shared.storage.CanRead c := by
  induction events using List.reverseRecOn with
  | nil => exact h
  | append_singleton past e ih =>
    rw [State.after_concat]
    intro hc
    rcases canRead_step hc with hc | hc
    · exact ih (fun e' he' => hg e' (List.mem_append_left _ he')) hc
    · exact hg e (by simp) hc

/-! ### The gate -/

theorem not_admitted_start {resolver : Resolver} {r : Request} {run : Run Reader Volume}
    (h : Run.start resolver r = run) : ¬ Admitted run := by
  subst h
  unfold Run.start
  split <;> exact id

/-- A run that ends with a product could read its dataset at a moment between its start and its end. -/
theorem reader_of_served (resolver : Resolver) (s : State) {r : Request} {later : List Event} {served : Served}
    (h : ((s.step resolver (.start r)).after resolver later).flights[s.flights.length]? =
      some ⟨r, .finished (.ok served)⟩) :
    ∃ i, r.normalize resolver = .ok i ∧ ∃ past rest, later = past ++ rest ∧
      InFlight ((s.step resolver (.start r)).after resolver past) s.flights.length ∧
      ((s.step resolver (.start r)).after resolver past).shared.storage.CanRead i.connection := by
  have hstart := State.flight_start resolver s r
  generalize s.step resolver (.start r) = t at h hstart ⊢
  generalize hrun : Run.start resolver r = run at hstart
  exact admitted_after hstart (serves_start hrun) (not_admitted_start hrun) later h True.intro

/-- **A product is for readers only**, in every interleaving: the state `s` may hold any datasets, any cache and any
runs in flight.

A run that is started in `s` and ends with a product could read its dataset at a moment between its start and its
end. And if its token, or one of the same digest, was revoked before its start and is not granted since, it never
ends with a product, but is over with a failure after at most seven steps of its own. -/
theorem product_only_for_reader (resolver : Resolver) (s : State) :
    (∀ (r : Request) (later : List Event) (served : Served),
      ((s.step resolver (.start r)).after resolver later).flights[s.flights.length]? =
          some ⟨r, .finished (.ok served)⟩ →
        ∃ i, r.normalize resolver = .ok i ∧ ∃ past rest, later = past ++ rest ∧
          InFlight ((s.step resolver (.start r)).after resolver past) s.flights.length ∧
          ((s.step resolver (.start r)).after resolver past).shared.storage.CanRead i.connection) ∧
    ∀ (locator : String) (c : Credential) (between later : List Event) (r : Request) (i : Inquiry),
      r.normalize resolver = .ok i → i.dataset = locator → digestOf i.connection.credential = digestOf c →
      (∀ e ∈ between ++ later, ¬ e.Grants locator c) →
        let t := (s.step resolver (.revoke locator c)).after resolver between
        ∃ run, ((t.step resolver (.start r)).after resolver later).flights[t.flights.length]? = some ⟨r, run⟩ ∧
          (∀ served, run ≠ .finished (.ok served)) ∧
          (7 ≤ later.countP (·.advances t.flights.length) → ∃ failure, run = .finished (.error failure)) := by
  refine ⟨fun r later served => reader_of_served resolver s, ?_⟩
  rintro _ c between later r i hi rfl hc hg t
  obtain ⟨run, hrun⟩ := State.flight_after resolver (State.flight_start resolver t r) later
  have hnever : ∀ served, run ≠ .finished (.ok served) := by
    rintro served rfl
    obtain ⟨i', hi', past, rest, rfl, -, hread⟩ := reader_of_served resolver t hrun
    obtain rfl := Except.ok.inj (hi.symm.trans hi')
    have hrevoked : ¬ (s.step resolver (.revoke i.connection.dataset c)).shared.storage.CanRead i.connection :=
      Memory.not_canRead_revoke hc.symm
    rw [← State.after_cons, ← State.after_append] at hread
    refine not_canRead_after hrevoked (between ++ .start r :: past) (fun e he => ?_) hread
    rcases List.mem_append.mp he with he | he
    · exact fun h => hg e (List.mem_append_left _ he) (by
        cases e <;> first | exact h | exact ⟨h.1, h.2.trans hc⟩)
    · rcases List.mem_cons.mp he with rfl | he
      · exact id
      · exact fun h => hg e (by simp [he]) (by
          cases e <;> first | exact h | exact ⟨h.1, h.2.trans hc⟩)
  refine ⟨run, hrun, hnever, fun hsteps => ?_⟩
  obtain ⟨o, ho⟩ := finished_of_steps resolver (State.flight_start resolver t r) hsteps
  have hrun' : run = .finished o := congrArg Flight.run (Option.some.inj (hrun.symm.trans ho))
  cases o with
  | error failure => exact ⟨failure, hrun'⟩
  | ok served => exact absurd hrun' (hnever served)

/-- The reader of the sample could read while it was in flight, and is refused once its token is revoked. -/
theorem product_only_for_reader_sample :
    (∃ past rest, List.replicate 6 (Event.advance 0) = past ++ rest ∧
      (((State.fresh Sample.memory 0xffffffff).step Sample.resolver (.start (Sample.request "first" .metadata))).after
        Sample.resolver past).shared.storage.CanRead ⟨"a", ⟨"first"⟩⟩) ∧
    ∃ failure,
      ((((State.fresh Sample.memory 0xffffffff).step Sample.resolver (.revoke "a" ⟨"first"⟩)).step Sample.resolver
        (.start (Sample.request "first" .metadata))).after Sample.resolver
          (List.replicate 7 (.advance 0))).flights[0]? =
      some ⟨Sample.request "first" .metadata, .finished (.error failure)⟩ := by
  obtain ⟨c, hserved, -⟩ := served_sample
  rw [State.after_cons] at hserved
  obtain ⟨hgate, hrevoked⟩ := product_only_for_reader Sample.resolver (.fresh Sample.memory 0xffffffff)
  constructor
  · obtain ⟨i, hi, past, rest, hsplit, -, hread⟩ :=
      hgate (Sample.request "first" .metadata) (List.replicate 6 (.advance 0)) ⟨Sample.product, false⟩
        (by rw [hserved]; rfl)
    obtain rfl := Except.ok.inj (Sample.normalize_first.symm.trans hi)
    exact ⟨past, rest, hsplit, hread⟩
  · obtain ⟨run, hrun, -, hend⟩ := hrevoked "a" ⟨"first"⟩ [] (List.replicate 7 (.advance 0))
      (Sample.request "first" .metadata) (Sample.inquiry "first" .metadata) Sample.normalize_first rfl rfl (by
        intro e he
        obtain rfl := List.eq_of_mem_replicate he
        exact id)
    obtain ⟨failure, rfl⟩ := hend (by decide)
    exact ⟨failure, hrun⟩

end SurveyGateway.Interleaving
