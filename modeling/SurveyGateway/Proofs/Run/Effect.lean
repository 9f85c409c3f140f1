import SurveyGateway.Proofs.Cache.Entries
import SurveyGateway.Proofs.Storage.Readers
import SurveyGateway.Run

/-!
# What a run leaves behind

A run can fail at many places: before it has looked anything up, with a product in hand that is withheld, with a
dataset open, or in the middle of a computation. This module shows that none of them leaves a trace in what runs share,
but for the counters of use.

## The model

`Shared.Unchanged view s s'` says that `s'` holds the same products as `s`, by the same count of insertions, and a
storage that looks the same to `view`. What is seen of a storage is up to its engine: `Engine.Releases view` asks that
it is the same again when a dataset has been opened and closed, as the volumes, the readers and the number of open
datasets in memory are (`releases_inventory`).

## What is proved

* `Leaves` is the invariant of a run, phase by phase. Its steps keep it (`Leaves.advance`), and so a whole run does
  (`Leaves.complete`), over any engine that releases what it opens.
* `unchanged_or_stored` — what is shared behind a request is unchanged, or the request has been answered by a
  computation and one insertion has been counted.
* `no_trace_of_failure` — so requests that fail leave no trace, whatever they fail at.
-/

namespace SurveyGateway

open Storage (Engine Memory digestOf)

variable {σ κ η α : Type}

/-! ### Whole runs -/

namespace Run

/-- The step of a run that is not over. -/
theorem complete_step {engine : Engine σ κ η} {s s' : Shared σ} {run run' : Run κ η} (h : run.outcome? = none)
    (hstep : run.advance engine s = (run', s')) : run.complete engine s = run'.complete engine s' := by
  rw [complete]
  split
  · next o ho =>
    rw [h] at ho
    cases ho
  · rw [hstep]

/-- The step of a run whose dataset is not opened. -/
theorem advance_opening_error {engine : Engine σ κ η} {s : Shared σ} {c : κ} {f : Failure} (t : Ticket)
    (h : engine.openDataset s.storage c = .error f) :
    (opening t c).advance engine s = (finished (.error (t.redact f)), s) := by
  simp only [advance, h]

theorem complete_finished (engine : Engine σ κ η) (s : Shared σ) (o : Outcome) :
    (finished o : Run κ η).complete engine s = (o, s) := by
  rw [complete]
  rfl

theorem eq_finished {run : Run κ η} {o : Outcome} (h : run.outcome? = some o) : run = finished o := by
  cases run <;> simp_all [outcome?]

end Run

/-! ### What is not changed -/

/-- A view of the storage does not show that a dataset has been opened and closed again. -/
def Storage.Engine.Releases (engine : Engine σ κ η) (view : σ → α) : Prop :=
  ∀ m c dataset m', engine.openDataset m c = .ok (dataset, m') → view (engine.close m' dataset) = view m

/-- The same products are stored, by as many insertions, and the storage looks the same. -/
structure Shared.Unchanged (view : σ → α) (s s' : Shared σ) : Prop where
  storage : view s'.storage = view s.storage
  entries : ∀ f, s'.cache.entries.find? f = s.cache.entries.find? f
  inserts : s'.inserts = s.inserts

namespace Shared.Unchanged

variable {view : σ → α} {s s' : Shared σ}

theorem refl (view : σ → α) (s : Shared σ) : s.Unchanged view s := ⟨rfl, fun _ => rfl, rfl⟩

/-- A lookup changes nothing. -/
theorem get (h : s.Unchanged view s') (f : Fingerprint) :
    s.Unchanged view { s' with cache := (s'.cache.get f).2 } := by
  refine ⟨h.storage, fun g => ?_, h.inserts⟩
  rw [Cache.find?_get]
  exact h.entries g

end Shared.Unchanged

/-! ### The invariant of a run -/

namespace Run

/-- What a run that was started in `s` has left behind so far: nothing, if its dataset were closed; and an insertion
when it has had a product computed. -/
def Leaves (engine : Engine σ κ η) (view : σ → α) (s : Shared σ) : Run κ η → Shared σ → Prop
  | computing _ dataset, s' | closing _ dataset _, s' =>
    s.Unchanged view { s' with storage := engine.close s'.storage dataset }
  | finished (.ok ⟨_, false⟩), s' => view s'.storage = view s.storage ∧ s'.inserts = s.inserts + 1
  | _, s' => s.Unchanged view s'

variable {engine : Engine σ κ η} {view : σ → α} {s s' : Shared σ} {run : Run κ η}

theorem leaves_start {resolver : Resolver} {r : Request} (h : start resolver r = run) : Leaves engine view s run s := by
  subst h
  unfold start
  split
  · exact .refl view s
  · exact .refl view s

/-- Every step keeps the invariant. -/
theorem Leaves.advance (hview : engine.Releases view) (h : Leaves engine view s run s') :
    Leaves engine view s (run.advance engine s').1 (run.advance engine s').2 := by
  cases run with
  | connecting t =>
    simp only [Run.advance]
    split
    · exact h
    · exact h
  | lookingUp t c =>
    have hget := Shared.Unchanged.get h t.key
    simp only [Run.advance]
    split
    · exact hget
    · exact hget
  | checking t c p =>
    simp only [Run.advance]
    split
    · exact h
    · exact h
  | opening t c =>
    simp only [Run.advance]
    split
    · exact h
    · next dataset m' hopen =>
      exact ⟨(hview _ _ _ _ hopen).trans h.storage, h.entries, h.inserts⟩
  | computing t dataset => exact h
  | closing t dataset result =>
    -- the dataset is closed now, and a product is not stored before the next step
    cases result with
    | ok p => exact h
    | error e => cases e <;> exact h
  | storing t p =>
    refine ⟨h.storage, ?_⟩
    show s'.inserts + 1 = s.inserts + 1
    rw [h.inserts]
  | finished o => exact h

/-- A whole run keeps the invariant. -/
theorem Leaves.complete (hview : engine.Releases view) (h : Leaves engine view s run s') :
    Leaves engine view s (finished (run.complete engine s').1) (run.complete engine s').2 := by
  fun_induction Run.complete engine s' run with
  | case1 s' run o ho =>
    obtain rfl := eq_finished ho
    exact h
  | case2 s' run ho next ih => exact ih (h.advance hview)

theorem leaves_serve (hview : engine.Releases view) (resolver : Resolver) (s : Shared σ) (r : Request) :
    Leaves engine view s (finished (s.serve engine resolver r).1) (s.serve engine resolver r).2 := by
  unfold Shared.serve
  generalize hstart : start resolver r = run
  exact (leaves_start hstart).complete hview

end Run

/-! ### Requests -/

variable {engine : Engine σ κ η} {view : σ → α}

/-- What a request changes: nothing, or it has had a product computed and one insertion is counted. -/
theorem unchanged_or_stored (hview : engine.Releases view) (resolver : Resolver) (s : Shared σ) (r : Request) :
    ((∀ p, (s.serve engine resolver r).1 ≠ .ok ⟨p, false⟩) ∧ s.Unchanged view (s.serve engine resolver r).2) ∨
      ∃ p, (s.serve engine resolver r).1 = .ok ⟨p, false⟩ ∧
        (s.serve engine resolver r).2.inserts = s.inserts + 1 := by
  have h := Run.leaves_serve hview resolver s r
  generalize s.serve engine resolver r = served at h ⊢
  obtain ⟨o, s'⟩ := served
  cases o with
  | error f => exact Or.inl ⟨by simp, h⟩
  | ok product =>
    obtain ⟨p, stored⟩ := product
    cases stored with
    | true => exact Or.inl ⟨by simp, h⟩
    | false => exact Or.inr ⟨p, rfl, h.2⟩

/-- A request that came to `served` from `s` has left no trace if it failed, and has counted one insertion exactly if
its product was computed. -/
def LeavesNoTrace (view : σ → α) (s : Shared σ) (served : Outcome × Shared σ) : Prop :=
  (∀ f, served.1 = .error f → s.Unchanged view served.2) ∧
    ∀ p stored, served.1 = .ok ⟨p, stored⟩ → served.2.inserts = s.inserts + if stored then 0 else 1

theorem leavesNoTrace_serve (hview : engine.Releases view) (resolver : Resolver) (s : Shared σ) (r : Request) :
    LeavesNoTrace view s (s.serve engine resolver r) := by
  constructor
  · intro f hf
    rcases unchanged_or_stored hview resolver s r with ⟨-, h⟩ | ⟨p, hp, -⟩
    · exact h
    · rw [hf] at hp
      cases hp
  · intro p stored ho
    rcases unchanged_or_stored hview resolver s r with ⟨hnot, h⟩ | ⟨p', hp, h⟩
    · cases stored with
      | true => exact h.inserts
      | false => exact absurd ho (hnot p)
    · rw [ho] at hp
      cases hp
      exact h

/-! ### Memory -/

/-- What there is in memory: the volumes with their readers, and how many are open. -/
def Storage.Memory.inventory (m : Memory) : List (String × Storage.Dataset) × ℕ := (m.datasets, m.live)

theorem Storage.Memory.releases_inventory : Memory.engine.Releases Memory.inventory := by
  intro m c v m' h
  have hopened : m'.datasets = m.datasets ∧ m'.live = m.live + 1 := by
    simp only [Memory.engine, Memory.openVolume] at h
    split at h
    · cases h
    · split at h
      · cases h
        exact ⟨rfl, rfl⟩
      · cases h
  show (m'.datasets, m'.live - 1) = (m.datasets, m.live)
  rw [hopened.1, hopened.2, Nat.add_sub_cancel]

/-- **A request that fails leaves no trace**, whatever it fails at.

Over datasets in memory, from any state: if the outcome is a failure, then the products in the cache, the count of
insertions, the volumes, their readers and the number of open datasets are what they were. A product that was computed
counts as one insertion, and one that was shown from the cache as none. The same holds over any engine, those included
that refuse connections, of all that its openings leave as it was when they are closed. -/
theorem no_trace_of_failure (resolver : Resolver) (r : Request) :
    (∀ s : Shared Memory, LeavesNoTrace Memory.inventory s (s.serve Memory.engine resolver r)) ∧
      ∀ {σ κ η α : Type} (engine : Engine σ κ η) (view : σ → α), engine.Releases view →
        ∀ s : Shared σ, LeavesNoTrace view s (s.serve engine resolver r) := by
  constructor
  · intro s
    exact leavesNoTrace_serve Memory.releases_inventory resolver s r
  · intro σ κ η α engine view hview s
    exact leavesNoTrace_serve hview resolver s r

/-- An engine that counts its open datasets and breaks off whatever it is asked. -/
def Sample.breaking : Engine ℕ Unit Unit where
  connect _ _ := .ok ()
  mayRead _ _ := false
  openDataset n _ := .ok ((), n + 1)
  answer _ _ := .error .brokenOff
  close n _ := n - 1

/-- A stranger who is not let in leaves no trace in memory, and a computation that breaks off closes its dataset. -/
theorem no_trace_of_failure_sample :
    (let s : Shared Memory := ⟨Sample.memory, .ofBudget 0xffffffff, 0⟩
      let served := s.serve Memory.engine Sample.resolver (Sample.request "second" .metadata)
      (∃ f, served.1 = .error f) ∧ s.Unchanged Memory.inventory served.2) ∧
    Sample.breaking.Releases id ∧
    (let s : Shared ℕ := ⟨3, .ofBudget 0xffffffff, 0⟩
      let served := s.serve Sample.breaking Sample.resolver (Sample.request "second" .metadata)
      served.1 = .error brokenOff ∧ s.Unchanged id served.2) := by
  obtain ⟨hmemory, hengine⟩ := no_trace_of_failure Sample.resolver (Sample.request "second" .metadata)
  have hreleases : Sample.breaking.Releases id := by
    intro n c dataset n' h
    cases h
    rfl
  let t := Ticket.ofInquiry (Sample.inquiry "second" .metadata)
  let c : Cache := ⟨0xffffffff, [], 0, 1, 0⟩
  refine ⟨?_, hreleases, ?_⟩
  · intro s served
    have hdenied : Sample.memory.openVolume (Memory.connect t.inquiry.connection) = .error .unauthorized := by
      apply Memory.openVolume_eq_unauthorized rfl
      rw [List.mem_singleton]
      exact Sample.digestOf_first_ne.symm
    let f := t.redact Memory.Denial.unauthorized.toFailure
    have hfinished : (Run.opening t (Memory.connect t.inquiry.connection)).advance Memory.engine ⟨Sample.memory, c, 0⟩ =
        (.finished (.error f), ⟨Sample.memory, c, 0⟩) :=
      Run.advance_opening_error t (congrArg (Except.mapError Memory.Denial.toFailure) hdenied)
    have hfails : served = (.error f, ⟨Sample.memory, c, 0⟩) := calc
      served = (Run.connecting t).complete Memory.engine s :=
        congrArg (·.complete Memory.engine s) (Run.start_eq_connecting Sample.normalize_second)
      _ = (Run.lookingUp t (Memory.connect t.inquiry.connection)).complete Memory.engine s := Run.complete_step rfl rfl
      _ = (Run.opening t (Memory.connect t.inquiry.connection)).complete Memory.engine ⟨Sample.memory, c, 0⟩ :=
        Run.complete_step rfl rfl
      _ = (Run.finished (.error f)).complete Memory.engine ⟨Sample.memory, c, 0⟩ := Run.complete_step rfl hfinished
      _ = (.error f, ⟨Sample.memory, c, 0⟩) := Run.complete_finished _ _ _
    have hf := congrArg Prod.fst hfails
    exact ⟨⟨f, hf⟩, (hmemory s).1 f hf⟩
  · intro s served
    have hbroken : served = (.error brokenOff, ⟨3, c, 0⟩) := calc
      served = (Run.connecting t).complete Sample.breaking s :=
        congrArg (·.complete Sample.breaking s) (Run.start_eq_connecting Sample.normalize_second)
      _ = (Run.lookingUp t ()).complete Sample.breaking s := Run.complete_step rfl rfl
      _ = (Run.opening t ()).complete Sample.breaking ⟨3, c, 0⟩ := Run.complete_step rfl rfl
      _ = (Run.computing t ()).complete Sample.breaking ⟨4, c, 0⟩ := Run.complete_step rfl rfl
      _ = (Run.closing t () (.error .brokenOff)).complete Sample.breaking ⟨4, c, 0⟩ := Run.complete_step rfl rfl
      _ = (Run.finished (.error brokenOff)).complete Sample.breaking ⟨3, c, 0⟩ := Run.complete_step rfl rfl
      _ = (.error brokenOff, ⟨3, c, 0⟩) := Run.complete_finished _ _ _
    have hf := congrArg Prod.fst hbroken
    exact ⟨hf, (hengine Sample.breaking id hreleases s).1 _ hf⟩

end SurveyGateway
