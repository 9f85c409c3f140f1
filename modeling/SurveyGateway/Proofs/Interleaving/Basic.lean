import Mathlib.Data.List.Induction
import SurveyGateway.Proofs.Cache.Entries
import SurveyGateway.Proofs.Storage.Readers
import SurveyGateway.Run

/-!
# Runs in between each other

Any number of runs share one storage and one cache. This module lets them take their steps in any order, and lets
datasets be registered, granted and revoked and entries be evicted between any two of those steps.

## The model

A `State` holds what is shared and the runs, numbered in the order in which they were started, each with the
request it serves (`Flight`). An `Event` is one atomic step: a run is started, a run takes its next step
(`Run.advance`), or something else changes the storage or the cache. `State.after` is the state behind a list of
events; the list is the interleaving. An event of a run that has not been started changes nothing. A run is over
once it is `finished`: its caller may be told of the outcome at any later moment, which changes nothing either.

## What is proved

* `Move` lists what one step of a run can do, and `move_advance` says that `Run.advance` does nothing else.
* `flight_step` — a flight behind an event was there before, or has just been started, or has made one `Move`.
* `flight_after` — a run that has been started keeps its number and its request.
* `Serves` — what a run knows of its request: `serves_after`.
* `finished_of_steps` — a run that has taken seven steps is over, whatever came between them.
* `answered_sample`, `served_sample` — one run on its own, for later modules to refer to.
-/

namespace SurveyGateway.Interleaving

open Storage (Memory Reader digestOf)

/-! ### States and events -/

/-- A run over datasets in memory, and the request that it serves. -/
structure Flight where
  request : Request
  run : Run Reader Volume

/-- What all runs share, and the runs in the order in which they were started. -/
structure State where
  shared : Shared Memory
  flights : List Flight

/-- One atomic step of somebody. -/
inductive Event where
  /-- A run is started for a request. -/
  | start (r : Request)
  /-- The run of some number takes its next step. -/
  | advance (n : ℕ)
  /-- A volume is registered. -/
  | register (locator : String) (v : Volume)
  /-- A token is granted. -/
  | grant (locator : String) (c : Credential)
  /-- A token is revoked. -/
  | revoke (locator : String) (c : Credential)
  /-- An entry of the cache is given up. -/
  | evict (f : Fingerprint)

namespace State

/-- Some datasets, an empty cache and no runs. -/
def fresh (m : Memory) (budget : ℕ) : State := ⟨⟨m, .ofBudget budget, 0⟩, []⟩

/-- The state with another storage. -/
def withStorage (s : State) (m : Memory) : State := { s with shared := { s.shared with storage := m } }

variable (resolver : Resolver)

/-- The state behind one event. -/
def step (s : State) : Event → State
  | .start r => { s with flights := s.flights ++ [⟨r, Run.start resolver r⟩] }
  | .advance n =>
    match s.flights[n]? with
    | none => s
    | some f =>
      let next := f.run.advance Memory.engine s.shared
      ⟨next.2, s.flights.set n ⟨f.request, next.1⟩⟩
  | .register locator v => s.withStorage (s.shared.storage.register locator v)
  | .grant locator c => s.withStorage (s.shared.storage.grant locator c).2
  | .revoke locator c => s.withStorage (s.shared.storage.revoke locator c)
  | .evict f => { s with shared := { s.shared with cache := s.shared.cache.evict f } }

/-- The state behind some events. -/
def after (s : State) (events : List Event) : State := events.foldl (step resolver) s

@[simp] theorem after_nil (s : State) : s.after resolver [] = s := rfl

theorem after_cons (s : State) (e : Event) (events : List Event) :
    s.after resolver (e :: events) = (s.step resolver e).after resolver events := rfl

theorem after_append (s : State) (past events : List Event) :
    s.after resolver (past ++ events) = (s.after resolver past).after resolver events :=
  List.foldl_append

theorem after_concat (s : State) (past : List Event) (e : Event) :
    s.after resolver (past ++ [e]) = (s.after resolver past).step resolver e := by
  rw [after_append, after_cons, after_nil]

end State

/-! ### What a step of a run can do -/

/-- The storage and the cache behind an opening of `m`. -/
def opened (m : Memory) : Memory := { m with opened := m.opened + 1, live := m.live + 1 }

theorem eq_opened_of_openVolume {m m' : Memory} {r : Reader} {v : Volume} (h : m.openVolume r = .ok (v, m')) :
    m' = opened m := by
  unfold Memory.openVolume at h
  cases hd : m.dataset? r.locator with
  | none => simp [hd] at h
  | some d =>
    simp only [hd] at h
    split at h
    · exact (Prod.mk.inj (Except.ok.inj h)).2.symm
    · cases h

/-- One step of a run from what is shared to what is shared then. -/
inductive Move (s : Shared Memory) : Run Reader Volume → Run Reader Volume → Shared Memory → Prop
  /-- A connection to memory never fails. -/
  | connected {t : Ticket} : Move s (.connecting t) (.lookingUp t (Memory.connect t.inquiry.connection)) s
  /-- The product is in the cache. -/
  | found {t : Ticket} {c : Reader} {p : Product} (h : s.cache.entries.find? t.key = some p) :
      Move s (.lookingUp t c) (.checking t c p) { s with cache := (s.cache.get t.key).2 }
  /-- The product is not in the cache. -/
  | absent {t : Ticket} {c : Reader} (h : s.cache.entries.find? t.key = none) :
      Move s (.lookingUp t c) (.opening t c) { s with cache := (s.cache.get t.key).2 }
  /-- The reader may read, and is shown the product from the cache. -/
  | shown {t : Ticket} {c : Reader} {p : Product} (h : s.storage.mayRead c = true) :
      Move s (.checking t c p) (.finished (.ok ⟨p, true⟩)) s
  /-- The reader may not read, and the product from the cache is withheld. -/
  | withheld {t : Ticket} {c : Reader} {p : Product} (h : s.storage.mayRead c = false) :
      Move s (.checking t c p) (.opening t c) s
  /-- The dataset is opened. -/
  | opens {t : Ticket} {c : Reader} {v : Volume} (h : s.storage.openVolume c = .ok (v, opened s.storage)) :
      Move s (.opening t c) (.computing t v) { s with storage := opened s.storage }
  /-- The dataset is not opened. -/
  | denied {t : Ticket} {c : Reader} {f : Failure} :
      Move s (.opening t c) (.finished (.error f)) s
  /-- The question is answered, or not. -/
  | answered {t : Ticket} {v : Volume} :
      Move s (.computing t v) (.closing t v (v.answer t.inquiry.question)) s
  /-- The dataset is closed behind an answer. -/
  | closed {t : Ticket} {v : Volume} {p : Product} :
      Move s (.closing t v (.ok p)) (.storing t p) { s with storage := s.storage.closeVolume }
  /-- The dataset is closed behind a question that was not answered. -/
  | failed {t : Ticket} {v : Volume} {e : Mishap Failure} {f : Failure} :
      Move s (.closing t v (.error e)) (.finished (.error f)) { s with storage := s.storage.closeVolume }
  /-- The product is put into the cache. -/
  | stored {t : Ticket} {p : Product} :
      Move s (.storing t p) (.finished (.ok ⟨p, false⟩))
        { s with cache := s.cache.insert t.key p, inserts := s.inserts + 1 }
  /-- Nothing is left to do. -/
  | ended {o : Outcome} : Move s (.finished o) (.finished o) s

/-- A step of a run is one of the moves. -/
theorem move_advance (s : Shared Memory) (r : Run Reader Volume) :
    Move s r (r.advance Memory.engine s).1 (r.advance Memory.engine s).2 := by
  cases r with
  | connecting t => exact .connected
  | lookingUp t c =>
    simp only [Run.advance, Cache.get_fst]
    cases h : s.cache.entries.find? t.key with
    | none => exact .absent h
    | some p => exact .found h
  | checking t c p =>
    simp only [Run.advance]
    split
    · next h => exact .shown h
    · next h => exact .withheld (Bool.eq_false_iff.mpr h)
  | opening t c =>
    simp only [Run.advance, Memory.engine]
    cases h : s.storage.openVolume c with
    | error d => exact .denied
    | ok opening =>
      obtain ⟨v, m⟩ := opening
      obtain rfl := eq_opened_of_openVolume h
      exact .opens h
  | computing t v => exact .answered
  | closing t v result =>
    cases result with
    | ok p => exact .closed
    | error e => cases e <;> exact .failed
  | storing t p => exact .stored
  | finished o => exact .ended

/-! ### Flights -/

namespace State

variable {resolver : Resolver} {s : State} {e : Event} {n : ℕ} {f : Flight}

/-- A run that takes its next step makes a move. -/
theorem flight_advance (resolver : Resolver) (h : s.flights[n]? = some f) :
    ∃ run, (s.step resolver (.advance n)).flights[n]? = some ⟨f.request, run⟩ ∧
      Move s.shared f.run run (s.step resolver (.advance n)).shared := by
  have hlen := (List.getElem?_eq_some_iff.mp h).1
  simp only [step, h]
  exact ⟨_, List.getElem?_set_self hlen, move_advance s.shared f.run⟩

/-- A flight behind an event was there before, or has just been started, or has made a move. -/
theorem flight_step (h : (s.step resolver e).flights[n]? = some f) :
    s.flights[n]? = some f ∨
      (e = .start f.request ∧ n = s.flights.length ∧ Run.start resolver f.request = f.run) ∨
      ∃ run, e = .advance n ∧ s.flights[n]? = some ⟨f.request, run⟩ ∧
        Move s.shared run f.run (s.step resolver e).shared := by
  cases e with
  | start r =>
    simp only [step] at h
    generalize hstart : Run.start resolver r = run at h
    rw [List.getElem?_append] at h
    split at h
    · exact Or.inl h
    · next hn =>
      have hlen : n - s.flights.length = 0 := by
        by_contra hne
        rw [List.getElem?_eq_none (by simp; omega)] at h
        cases h
      rw [hlen] at h
      obtain rfl : ⟨r, run⟩ = f := Option.some.inj h
      exact Or.inr (Or.inl ⟨rfl, by omega, hstart⟩)
  | advance k =>
    by_cases hkn : k = n
    · subst hkn
      cases hk : s.flights[k]? with
      | none =>
        simp only [step, hk] at h
        cases h
      | some g =>
        obtain ⟨run, hrun, hm⟩ := flight_advance resolver hk
        obtain rfl := Option.some.inj (hrun.symm.trans h)
        exact Or.inr (Or.inr ⟨g.run, rfl, rfl, hm⟩)
    · simp only [step] at h
      split at h
      · exact Or.inl h
      · rw [List.getElem?_set_ne hkn] at h
        exact Or.inl h
  | register | grant | revoke | evict => exact Or.inl h

/-- The cache behind an event is as before, or an entry has been evicted, or a flight has moved. -/
theorem shared_step (resolver : Resolver) (s : State) (e : Event) :
    (∃ n g run, e = .advance n ∧ s.flights[n]? = some g ∧
        (s.step resolver e).flights[n]? = some ⟨g.request, run⟩ ∧
        Move s.shared g.run run (s.step resolver e).shared) ∨
      (s.step resolver e).shared.cache = s.shared.cache ∨
      ∃ k, e = .evict k ∧ (s.step resolver e).shared.cache = s.shared.cache.evict k := by
  cases e with
  | advance n =>
    cases hn : s.flights[n]? with
    | none => exact Or.inr (Or.inl (by simp only [step, hn]))
    | some g =>
      obtain ⟨run, hrun, hm⟩ := flight_advance resolver hn
      exact Or.inl ⟨n, g, run, rfl, hn, hrun, hm⟩
  | evict k => exact Or.inr (Or.inr ⟨k, rfl, rfl⟩)
  | start | register | grant | revoke => exact Or.inr (Or.inl rfl)

/-- A flight keeps its number and its request. -/
theorem flight_of_step (resolver : Resolver) (h : s.flights[n]? = some f) (e : Event) :
    ∃ run, (s.step resolver e).flights[n]? = some ⟨f.request, run⟩ := by
  have hlen := (List.getElem?_eq_some_iff.mp h).1
  cases e with
  | start r => exact ⟨f.run, by simp only [step]; rw [List.getElem?_append_left hlen, h]⟩
  | advance k =>
    simp only [step]
    cases hk : s.flights[k]? with
    | none => exact ⟨f.run, h⟩
    | some g =>
      by_cases hkn : k = n
      · subst hkn
        obtain rfl : g = f := Option.some.inj (hk.symm.trans h)
        exact ⟨_, List.getElem?_set_self hlen⟩
      · exact ⟨f.run, by rw [← h]; exact List.getElem?_set_ne hkn⟩
  | register | grant | revoke | evict => exact ⟨f.run, h⟩

theorem flight_after (resolver : Resolver) (h : s.flights[n]? = some f) (events : List Event) :
    ∃ run, (s.after resolver events).flights[n]? = some ⟨f.request, run⟩ := by
  induction events using List.reverseRecOn with
  | nil => exact ⟨f.run, h⟩
  | append_singleton past e ih =>
    obtain ⟨run, ih⟩ := ih
    rw [after_concat]
    exact flight_of_step resolver ih e

/-- The run that is started last has the number that is free. -/
theorem flight_start (resolver : Resolver) (s : State) (r : Request) :
    (s.step resolver (.start r)).flights[s.flights.length]? = some ⟨r, Run.start resolver r⟩ := by
  simp [step]

end State

/-! ### What a run knows of its request -/

/-- The inquiry and the connection of a run are those of the request `r`. -/
def Serves (resolver : Resolver) (r : Request) : Run Reader Volume → Prop
  | .connecting t | .computing t _ | .closing t _ _ | .storing t _ => r.normalize resolver = .ok t.inquiry
  | .lookingUp t c | .checking t c _ | .opening t c =>
    r.normalize resolver = .ok t.inquiry ∧ c = Memory.connect t.inquiry.connection
  | .finished (.ok _) => ∃ i, r.normalize resolver = .ok i
  | .finished (.error _) => True

variable {resolver : Resolver} {r : Request}

theorem serves_start {run : Run Reader Volume} (h : Run.start resolver r = run) : Serves resolver r run := by
  subst h
  unfold Run.start
  cases h : r.normalize resolver with
  | error e => trivial
  | ok i => exact h

theorem Serves.move {s s' : Shared Memory} {run run' : Run Reader Volume} (hs : Serves resolver r run)
    (hm : Move s run run' s') : Serves resolver r run' := by
  cases hm with
  | connected => exact ⟨hs, rfl⟩
  | found | absent | withheld => exact hs
  | shown | stored => exact ⟨_, by first | exact hs.1 | exact hs⟩
  | opens => exact hs.1
  | answered | closed | ended => exact hs
  | denied | failed => trivial

/-- Every run that has been started from a fresh state keeps to its request. -/
theorem serves_of_fresh {m : Memory} {budget n : ℕ} {events : List Event} {run : Run Reader Volume}
    (h : ((State.fresh m budget).after resolver events).flights[n]? = some ⟨r, run⟩) : Serves resolver r run := by
  induction events using List.reverseRecOn generalizing run with
  | nil => cases h
  | append_singleton past e ih =>
    rw [State.after_concat] at h
    rcases State.flight_step h with h | ⟨-, -, hstart⟩ | ⟨old, -, hold, hm⟩
    · exact ih h
    · exact serves_start hstart
    · exact (ih hold).move hm

/-- A run keeps to the request for which it was started. -/
theorem serves_after {s : State} {n : ℕ} {f : Flight} (h : s.flights[n]? = some f)
    (hs : Serves resolver f.request f.run) (events : List Event) {run : Run Reader Volume}
    (hr : (s.after resolver events).flights[n]? = some ⟨f.request, run⟩) : Serves resolver f.request run := by
  induction events using List.reverseRecOn generalizing run with
  | nil =>
    have hf : f = ⟨f.request, run⟩ := Option.some.inj (h.symm.trans hr)
    have hrun : f.run = run := congrArg Flight.run hf
    exact hrun ▸ hs
  | append_singleton past e ih =>
    rw [State.after_concat] at hr
    rcases State.flight_step hr with hr | ⟨-, hn, -⟩ | ⟨old, -, hold, hm⟩
    · exact ih hr
    · obtain ⟨run', hrun'⟩ := State.flight_after resolver h past
      exact absurd (List.getElem?_eq_some_iff.mp hrun').1 (by omega)
    · exact (ih hold).move hm

/-! ### Runs come to an end -/

/-- Whether an event is a step of the run `n`. -/
def Event.advances (n : ℕ) : Event → Bool
  | .advance k => k == n
  | _ => false

theorem Move.remaining_le {s s' : Shared Memory} {run run' : Run Reader Volume} (hm : Move s run run' s') :
    run'.remaining ≤ run.remaining - 1 := by
  cases hm <;> simp [Run.remaining]

/-- Each of its own steps brings a run nearer to its end, and no other event takes it away from there. -/
theorem remaining_after {s : State} {n : ℕ} {f f' : Flight} (h : s.flights[n]? = some f) (events : List Event)
    (h' : (s.after resolver events).flights[n]? = some f') :
    f'.run.remaining ≤ f.run.remaining - events.countP (·.advances n) := by
  induction events using List.reverseRecOn generalizing f' with
  | nil =>
    obtain rfl := Option.some.inj (h.symm.trans h')
    exact Nat.le_refl _
  | append_singleton past e ih =>
    obtain ⟨run, hrun⟩ := State.flight_after resolver h past
    have hpast := ih hrun
    rw [State.after_concat] at h'
    rw [List.countP_append, List.countP_singleton]
    split
    · next he =>
      obtain ⟨k, rfl, rfl⟩ : ∃ k, e = .advance k ∧ k = n := by
        cases e <;> simp_all [Event.advances]
      obtain ⟨run', hrun', hm⟩ := State.flight_advance resolver hrun
      obtain rfl := Option.some.inj (hrun'.symm.trans h')
      have := hm.remaining_le
      simp only at this hpast ⊢
      omega
    · next he =>
      rcases State.flight_step h' with h' | ⟨-, hn, -⟩ | ⟨old, rfl, -, -⟩
      · obtain rfl := Option.some.inj (hrun.symm.trans h')
        simpa using hpast
      · exact absurd (List.getElem?_eq_some_iff.mp hrun).1 (by omega)
      · simp [Event.advances] at he

/-- Seven steps are enough for any run. -/
theorem finished_of_steps (resolver : Resolver) {s : State} {n : ℕ} {f : Flight} (h : s.flights[n]? = some f)
    {events : List Event} (hsteps : 7 ≤ events.countP (·.advances n)) :
    ∃ o, (s.after resolver events).flights[n]? = some ⟨f.request, .finished o⟩ := by
  obtain ⟨run, hrun⟩ := State.flight_after resolver h events
  have hf : f.run.remaining ≤ 7 := by cases f.run <;> simp [Run.remaining]
  have hle : run.remaining ≤ f.run.remaining - events.countP (·.advances n) := remaining_after h events hrun
  have hzero : run.remaining = 0 := by omega
  cases run with
  | finished o => exact ⟨o, hrun⟩
  | _ => cases hzero

/-! ### One run on its own -/

/-- The sample with the run of a reader, up to its answer. -/
theorem answered_sample {q : Question} (h : q.validate = .ok ()) :
    (State.fresh Sample.memory 0xffffffff).after Sample.resolver
        (.start (Sample.request "first" q) :: List.replicate 4 (.advance 0)) =
      ⟨⟨⟨Sample.memory.datasets, 1, 1⟩, ⟨0xffffffff, [], 0, 1, 0⟩, 0⟩,
        [⟨Sample.request "first" q,
          .closing (.ofInquiry (Sample.inquiry "first" q)) .wellKnown (Volume.wellKnown.answer q.canonical)⟩]⟩ := by
  have hstart : Run.start Sample.resolver (Sample.request "first" q) =
      (.connecting (.ofInquiry (Sample.inquiry "first" q)) : Run Reader Volume) :=
    Run.start_eq_connecting (Sample.normalize Sample.supplied_first h)
  simp only [List.replicate_succ, List.replicate_zero, State.after_cons, State.after_nil]
  simp [State.step, State.fresh, hstart, Run.advance, Memory.engine, Cache.ofBudget, Cache.get, Entries.find?,
    Memory.connect, Memory.openVolume, Memory.dataset?, Sample.memory, Sample.inquiry, Ticket.ofInquiry,
    Except.mapError]

/-- The sample with a run that is answered, from its start to its end. -/
theorem served_sample :
    ∃ c, (State.fresh Sample.memory 0xffffffff).after Sample.resolver
        (.start (Sample.request "first" .metadata) :: List.replicate 6 (.advance 0)) =
      ⟨⟨⟨Sample.memory.datasets, 1, 0⟩, c, 1⟩,
        [⟨Sample.request "first" .metadata, .finished (.ok ⟨Sample.product, false⟩)⟩]⟩ ∧
      c.entries = [((Sample.inquiry "first" .metadata).fingerprint, Sample.product)] := by
  have hanswer : Volume.wellKnown.answer (Question.canonical .metadata) = .ok Sample.product := rfl
  refine ⟨Cache.insert ⟨0xffffffff, [], 0, 1, 0⟩ (Sample.inquiry "first" .metadata).fingerprint Sample.product,
    ?_, ?_⟩
  · rw [show List.replicate 6 (Event.advance 0) = List.replicate 4 (.advance 0) ++ [.advance 0, .advance 0] from rfl,
      ← List.cons_append, State.after_append, answered_sample rfl, hanswer]
    simp [State.after_cons, State.step, Run.advance, Run.closed, Ticket.ofInquiry, Memory.engine, Memory.closeVolume]
  · exact Cache.entries_insert_of_nil rfl _ rfl Sample.product.weight_le

end SurveyGateway.Interleaving
