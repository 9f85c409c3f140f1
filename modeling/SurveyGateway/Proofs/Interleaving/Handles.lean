import SurveyGateway.Proofs.Counting
import SurveyGateway.Proofs.Interleaving.Basic

/-!
# What is held open

Memory counts how many volumes have been opened and how many are open. Runs open them and close them again, and so may
anybody else who uses the storage directly. This module shows that the two counts are right at every moment, however
the runs and the others get in between each other.

## The model

A `Holdings` is a state of all runs, with the volumes that others hold. An `Act` is an event of the runs, or an opening
or a closing by somebody else. A run holds its volume from its opening on until it has closed it (`Run.holds`), whether
its question was answered, was not, or broke off on the way.

An act opens a volume if it asks the storage for one and is not refused (`Holdings.opens`); it closes one if a run
closes its volume, or somebody else gives one of theirs back (`Holdings.closes`).

## What is proved

* `Holdings.step_counts` — what one act does to the counts and to what is held.
* `Holdings.Sound` — as many volumes are open as are held, and no more than have been opened. Every act keeps this
  (`Holdings.Sound.step`).
* `handles_accounted` — the counts behind any acts.
-/

namespace SurveyGateway

open Storage (Memory Reader Dataset)

/-! ### What a run holds -/

namespace Run

variable {η : Type}

/-- The run has opened its dataset and not closed it yet. -/
def holds : Run Reader η → Bool
  | computing .. | closing .. => true
  | _ => false

/-- The reader for whom the next step opens a dataset, if it does. -/
def opensFor? : Run Reader η → Option Reader
  | opening _ c => some c
  | _ => none

/-- The next step closes the dataset. -/
def closes : Run Reader η → Bool
  | closing .. => true
  | _ => false

@[simp] theorem holds_start (resolver : Resolver) (r : Request) : (start resolver r : Run Reader η).holds = false := by
  unfold start
  split <;> rfl

end Run

namespace Interleaving

/-! ### Holdings and acts -/

/-- A state of all runs, and the volumes that others hold open. -/
structure Holdings where
  state : State
  others : List Volume

/-- One atomic step of a run, or of somebody else who uses the storage directly. -/
inductive Act where
  /-- Something happens to the runs, the datasets or the cache. -/
  | event (e : Event)
  /-- Somebody else opens a dataset. -/
  | openDirectly (r : Reader)
  /-- Somebody else closes the volume of some number. -/
  | closeDirectly (n : ℕ)

namespace Holdings

/-- The storage that all use. -/
def storage (s : Holdings) : Memory := s.state.shared.storage

/-- Some datasets of which nothing has been opened yet, an empty cache and no runs. -/
def fresh (datasets : List (String × Dataset)) (budget : ℕ) : Holdings := ⟨.fresh ⟨datasets, 0, 0⟩ budget, []⟩

/-- How many volumes are held. -/
def held (s : Holdings) : ℕ := s.state.flights.countP (·.run.holds) + s.others.length

/-- The reader for whom an act opens a dataset, if it does. -/
def opensFor? (s : Holdings) : Act → Option Reader
  | .event (.advance n) => s.state.flights[n]?.bind (·.run.opensFor?)
  | .openDirectly r => some r
  | _ => none

/-- The act opens a dataset and is not refused. -/
def opens (s : Holdings) (a : Act) : Bool := (s.opensFor? a).any fun r => (s.storage.openVolume r).isOk

/-- The act closes a volume. -/
def closes (s : Holdings) : Act → Bool
  | .event (.advance n) => s.state.flights[n]?.any (·.run.closes)
  | .closeDirectly n => n < s.others.length
  | _ => false

variable (resolver : Resolver)

/-- The holdings behind one act. -/
def step (s : Holdings) : Act → Holdings
  | .event e => { s with state := s.state.step resolver e }
  | .openDirectly r =>
    match s.storage.openVolume r with
    | .error _ => s
    | .ok (v, m) => ⟨s.state.withStorage m, s.others ++ [v]⟩
  | .closeDirectly n =>
    if n < s.others.length then ⟨s.state.withStorage s.storage.closeVolume, s.others.eraseIdx n⟩ else s

/-- The holdings behind some acts. -/
def after (s : Holdings) (acts : List Act) : Holdings := acts.foldl (step resolver) s

end Holdings

/-! ### What one act does -/

/-- From `m` to `m'`, what is open and what has been opened has grown if something was opened, and what is open has
become less if something was closed. -/
structure Counted (m m' : Memory) (opens closes : Bool) : Prop where
  opened : m'.opened = m.opened + opens.toNat
  live : m'.live = m.live + opens.toNat - closes.toNat

theorem Counted.refl (m : Memory) : Counted m m false false := ⟨rfl, rfl⟩

theorem counted_opened (m : Memory) : Counted m (opened m) true false := ⟨rfl, rfl⟩

theorem counted_closeVolume (m : Memory) : Counted m m.closeVolume false true := ⟨rfl, rfl⟩

theorem counted_register (m : Memory) (locator : String) (v : Volume) :
    Counted m (m.register locator v) false false :=
  ⟨rfl, rfl⟩

theorem counted_grant (m : Memory) (locator : String) (c : Credential) :
    Counted m (m.grant locator c).2 false false := by
  unfold Memory.grant
  split <;> exact ⟨rfl, rfl⟩

theorem counted_revoke (m : Memory) (locator : String) (c : Credential) :
    Counted m (m.revoke locator c) false false := by
  unfold Memory.revoke
  split <;> exact ⟨rfl, rfl⟩

/-- What a step of a run opens is what it holds from then on, and what it closes it holds no longer. -/
theorem counted_advance (s : Shared Memory) (r : Run Reader Volume) :
    let opens := r.opensFor?.any fun c => (s.storage.openVolume c).isOk
    let next := r.advance Memory.engine s
    Counted s.storage next.2.storage opens r.closes ∧
      next.1.holds.toNat + r.closes.toNat = r.holds.toNat + opens.toNat := by
  cases r with
  | connecting t => exact ⟨.refl _, rfl⟩
  | lookingUp t c =>
    refine ⟨.refl _, ?_⟩
    simp only [Run.advance]
    split <;> rfl
  | checking t c p =>
    refine ⟨.refl _, ?_⟩
    simp only [Run.advance]
    split <;> rfl
  | opening t c =>
    simp only [Run.advance, Memory.engine, Run.opensFor?, Option.any_some]
    cases h : s.storage.openVolume c with
    | error d => exact ⟨.refl _, rfl⟩
    | ok opening =>
      obtain ⟨v, m⟩ := opening
      obtain rfl := eq_opened_of_openVolume h
      exact ⟨counted_opened _, rfl⟩
  | computing t v => exact ⟨.refl _, rfl⟩
  | closing t v result =>
    refine ⟨counted_closeVolume _, ?_⟩
    cases result with
    | ok p => rfl
    | error e => cases e <;> rfl
  | storing t p => exact ⟨.refl _, rfl⟩
  | finished o => exact ⟨.refl _, rfl⟩

/-- One run in place of another changes how many hold something by what the two hold. -/
theorem countP_holds_set {flights : List Flight} {n : ℕ} {f : Flight} (h : flights[n]? = some f) (g : Flight) :
    (flights.set n g).countP (·.run.holds) + f.run.holds.toNat =
      flights.countP (·.run.holds) + g.run.holds.toNat := by
  induction flights generalizing n with
  | nil => cases h
  | cons e flights ih =>
    cases n with
    | zero =>
      obtain rfl : e = f := Option.some.inj h
      rw [List.set_cons_zero, List.countP_cons, List.countP_cons]
      cases e.run.holds <;> cases g.run.holds <;> simp
    | succ n =>
      have hrest := ih (n := n) h
      rw [List.set_cons_succ, List.countP_cons, List.countP_cons]
      omega

namespace Holdings

variable {resolver : Resolver} {s : Holdings}

/-- What an act opens and closes is counted, and is held or held no longer. -/
theorem step_counts (resolver : Resolver) (s : Holdings) (a : Act) :
    Counted s.storage (s.step resolver a).storage (s.opens a) (s.closes a) ∧
      (s.step resolver a).held + (s.closes a).toNat = s.held + (s.opens a).toNat := by
  cases a with
  | event e =>
    cases e with
    | start r =>
      refine ⟨.refl _, ?_⟩
      simp [held, step, State.step, opens, closes, opensFor?]
    | advance n =>
      cases hn : s.state.flights[n]? with
      | none =>
        simp only [opens, closes, opensFor?, step, State.step, hn]
        exact ⟨.refl _, rfl⟩
      | some f =>
        obtain ⟨hcounted, hholds⟩ := counted_advance s.state.shared f.run
        have hheld := countP_holds_set hn ⟨f.request, (f.run.advance Memory.engine s.state.shared).1⟩
        simp only [opens, closes, opensFor?, step, State.step, hn, Option.bind_some, Option.any_some]
        refine ⟨hcounted, ?_⟩
        simp only [held, storage] at hheld hholds ⊢
        omega
    | register locator v => exact ⟨counted_register _ locator v, rfl⟩
    | grant locator c => exact ⟨counted_grant _ locator c, rfl⟩
    | revoke locator c => exact ⟨counted_revoke _ locator c, rfl⟩
    | evict f => exact ⟨.refl _, rfl⟩
  | openDirectly r =>
    simp only [opens, closes, opensFor?, Option.any_some, step]
    cases h : s.storage.openVolume r with
    | error d => exact ⟨.refl _, rfl⟩
    | ok opening =>
      obtain ⟨v, m⟩ := opening
      obtain rfl := eq_opened_of_openVolume h
      refine ⟨counted_opened _, ?_⟩
      simp only [held, State.withStorage, List.length_append, List.length_singleton, Except.isOk, Except.toBool,
        Bool.toNat_true, Bool.toNat_false]
      omega
  | closeDirectly n =>
    simp only [opens, closes, opensFor?, step]
    by_cases hn : n < s.others.length
    · rw [if_pos hn, decide_eq_true hn]
      refine ⟨counted_closeVolume _, ?_⟩
      simp only [held, State.withStorage, List.length_eraseIdx_of_lt hn, Option.any_none, Bool.toNat_true,
        Bool.toNat_false]
      omega
    · rw [if_neg hn, decide_eq_false hn]
      exact ⟨.refl _, rfl⟩

/-- An act whose opening is refused leaves the storage as it is. -/
theorem storage_step_of_refused {a : Act} {r : Reader} {d : Storage.Memory.Denial} (ha : s.opensFor? a = some r)
    (hd : s.storage.openVolume r = .error d) : (s.step resolver a).storage = s.storage := by
  cases a with
  | event e =>
    cases e with
    | advance n =>
      obtain ⟨f, hf, hr⟩ := Option.bind_eq_some_iff.mp ha
      obtain ⟨q, run⟩ := f
      cases run with
      | opening t c =>
        obtain rfl : c = r := Option.some.inj hr
        have hd : s.state.shared.storage.openVolume c = .error d := hd
        simp only [storage, step, State.step, hf, Run.advance, Memory.engine, hd, Except.mapError]
      | _ => cases hr
    | _ => cases ha
  | openDirectly reader =>
    obtain rfl : reader = r := Option.some.inj ha
    simp only [step, hd]
  | closeDirectly n => cases ha

/-! ### What holds behind all acts -/

/-- As many volumes are open as are held, and all of them have been opened. -/
structure Sound (s : Holdings) : Prop where
  live : s.storage.live = s.held
  le : s.storage.live ≤ s.storage.opened

theorem sound_fresh (datasets : List (String × Dataset)) (budget : ℕ) : (fresh datasets budget).Sound :=
  ⟨rfl, Nat.le_refl _⟩

theorem Sound.step (h : s.Sound) (a : Act) : (s.step resolver a).Sound := by
  obtain ⟨⟨hopened, hlive⟩, hheld⟩ := step_counts resolver s a
  have := h.live
  have := h.le
  constructor <;> omega

theorem sound_after (h : s.Sound) (acts : List Act) : (s.after resolver acts).Sound :=
  foldl_keeps (fun _ a h => h.step a) h acts

theorem opened_after (resolver : Resolver) (s : Holdings) (acts : List Act) :
    (s.after resolver acts).storage.opened = s.storage.opened + countAlong (step resolver) opens s acts :=
  add_countAlong (I := fun _ => True) (fun _ _ h => h) (n := fun s => s.storage.opened)
    (fun s a _ => (step_counts resolver s a).1.opened) trivial acts

/-- What has been opened and is not open any more has been closed. -/
theorem closed_after (h : s.Sound) (acts : List Act) :
    (s.after resolver acts).storage.opened - (s.after resolver acts).storage.live =
      s.storage.opened - s.storage.live + countAlong (step resolver) closes s acts := by
  refine add_countAlong (I := Sound) (fun _ a h => h.step a)
    (n := fun s : Holdings => s.storage.opened - s.storage.live) ?_ h acts
  intro s a h
  obtain ⟨⟨hopened, hlive⟩, hheld⟩ := step_counts resolver s a
  have := h.live
  have := h.le
  omega

theorem after_append (s : Holdings) (past acts : List Act) :
    s.after resolver (past ++ acts) = (s.after resolver past).after resolver acts :=
  List.foldl_append

theorem after_events (resolver : Resolver) (s : State) (others : List Volume) (events : List Event) :
    Holdings.after resolver ⟨s, others⟩ (events.map .event) = ⟨s.after resolver events, others⟩ := by
  induction events generalizing s with
  | nil => rfl
  | cons e events ih => exact ih (s.step resolver e)

end Holdings

/-- **What is held open**, behind any acts from a storage of which nothing has been opened. The storage has opened what
it was asked to open and did not refuse. What is open are the volumes that runs or others hold, and what was opened is
either open or was closed: so there is never less than nothing open, nor more than was opened. Whoever is refused
changes nothing. Once all runs are over and the others have closed what they opened, nothing is open. -/
theorem handles_accounted (resolver : Resolver) (datasets : List (String × Dataset)) (budget : ℕ) (acts : List Act) :
    let s₀ := Holdings.fresh datasets budget
    let s := s₀.after resolver acts
    s.storage.opened = countAlong (Holdings.step resolver) Holdings.opens s₀ acts ∧
      s.storage.live = s.state.flights.countP (·.run.holds) + s.others.length ∧
      s.storage.live + countAlong (Holdings.step resolver) Holdings.closes s₀ acts = s.storage.opened ∧
      (∀ a r d, s.opensFor? a = some r → s.storage.openVolume r = .error d →
        (s.step resolver a).storage = s.storage) ∧
      ((∀ f ∈ s.state.flights, ∃ o, f.run = .finished o) → s.others = [] → s.storage.live = 0) := by
  intro s₀ s
  have hsound₀ : s₀.Sound := Holdings.sound_fresh datasets budget
  have hsound : s.Sound := Holdings.sound_after hsound₀ acts
  have hle := hsound.le
  have hclosed : s.storage.opened - s.storage.live = 0 + _ := Holdings.closed_after hsound₀ acts
  refine ⟨?_, hsound.live, by omega, fun a r d => Holdings.storage_step_of_refused, fun hover hothers => ?_⟩
  · exact (Holdings.opened_after resolver s₀ acts).trans (Nat.zero_add _)
  · have hnone : s.state.flights.countP (·.run.holds) = 0 := by
      refine List.countP_eq_zero.mpr fun f hf => ?_
      obtain ⟨o, ho⟩ := hover f hf
      rw [ho]
      exact Bool.false_ne_true
    rw [hsound.live, Holdings.held, hnone, hothers]
    rfl

/-- While a run computes, its dataset is opened by somebody else and replaced, and whoever asks for it then is refused.
Two volumes have been opened, and both are closed in the end. -/
theorem handles_accounted_sample :
    let reader := Memory.connect ⟨"a", ⟨"first"⟩⟩
    let acts := (Event.start (Sample.request "first" .metadata) :: List.replicate 4 (.advance 0)).map .event ++
      [.openDirectly reader, .event (.register "a" .wellKnown), .openDirectly reader, .event (.advance 0),
        .closeDirectly 0, .event (.advance 0)]
    let s := (Holdings.fresh Sample.memory.datasets 0xffffffff).after Sample.resolver acts
    s.state.flights.map (·.run.outcome?) = [some (.ok ⟨Sample.product, false⟩)] ∧ s.storage.opened = 2 ∧
      s.storage.live = 0 := by
  intro reader acts s
  obtain ⟨-, -, -, -, hover⟩ := handles_accounted Sample.resolver Sample.memory.datasets 0xffffffff acts
  have hstate : s.state.flights = [⟨Sample.request "first" .metadata, .finished (.ok ⟨Sample.product, false⟩)⟩] ∧
      s.others = [] ∧ s.storage.opened = 2 := by
    have hanswer : Volume.wellKnown.answer (Question.canonical .metadata) = .ok Sample.product := rfl
    have hpast := Holdings.after_events Sample.resolver (.fresh Sample.memory 0xffffffff) []
      (.start (Sample.request "first" .metadata) :: List.replicate 4 (.advance 0))
    rw [answered_sample rfl, hanswer] at hpast
    simp only [s, acts, Holdings.after_append]
    rw [show Holdings.fresh Sample.memory.datasets 0xffffffff = ⟨.fresh Sample.memory 0xffffffff, []⟩ from rfl, hpast]
    simp [Holdings.after, Holdings.step, Holdings.storage, State.step, State.withStorage, reader, Sample.memory,
      Memory.openVolume, Memory.dataset?, Memory.register, Memory.put, Memory.connect, Memory.closeVolume,
      Memory.engine, Run.advance, Run.closed]
  obtain ⟨hflights, hothers, hopened⟩ := hstate
  refine ⟨by rw [hflights]; rfl, hopened, hover ?_ hothers⟩
  intro f hf
  obtain rfl := List.mem_singleton.mp (hflights ▸ hf)
  exact ⟨_, rfl⟩

end Interleaving

end SurveyGateway
