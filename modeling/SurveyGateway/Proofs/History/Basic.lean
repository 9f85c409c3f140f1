import Mathlib.Data.List.Induction
import SurveyGateway.Proofs.Run.Effect

/-!
# Runs one after another

A history is what happens to one storage and one cache while runs are made with no other in between: volumes are
registered, tokens are granted and revoked, and requests are served.

## The model

`Step` is one thing that happens, `after` what is shared behind some of them, and `outcome` what a request comes to
that is served then. `Memory.reply` is what a request would come to if there were no cache.

## What is proved

* `serve_refused`, `serve_shown`, `serve_computed` — the three ways in which a request is served: it is refused, it
  is shown what is in the cache, or it is answered as without a cache.
* `outcome_cases` — a product that was stored was in the cache, and everything else is the `reply`.
* `reply_ok_iff` — a reply is a product exactly if the caller can read a volume that answers the question with it.
-/

namespace SurveyGateway

open Storage (Memory digestOf)

/-! ### Answers without a cache -/

/-- What is told of a computation that had no result. -/
def Inquiry.report (i : Inquiry) : Mishap Failure → Failure
  | .failed f => f.redact i.connection.credential.token
  | .brokenOff => brokenOff

namespace Storage.Memory

/-- The token of a connection is among the readers of the volume that is registered at its locator. -/
def Reads (m : Memory) (c : Connection) (v : Volume) : Prop :=
  ∃ d, m.dataset? c.dataset = some d ∧ digestOf c.credential ∈ d.readers ∧ d.volume = v

/-- What an inquiry comes to if there is no cache. -/
def reply (m : Memory) (i : Inquiry) : Except Failure Product :=
  match m.openVolume (connect i.connection) with
  | .error d => .error (d.toFailure.redact i.connection.credential.token)
  | .ok (v, _) => (v.answer i.question).mapError i.report

/-- The datasets behind such a reply: one of them may have been opened and closed. -/
def visited (m : Memory) (i : Inquiry) : Memory :=
  match m.openVolume (connect i.connection) with
  | .error _ => m
  | .ok (_, m') => m'.closeVolume

theorem canRead_iff_reads (m : Memory) (c : Connection) : m.CanRead c ↔ ∃ v, m.Reads c v :=
  ⟨fun ⟨d, hd, hc⟩ => ⟨d.volume, d, hd, hc, rfl⟩, fun ⟨_, d, hd, hc, _⟩ => ⟨d, hd, hc⟩⟩

theorem Reads.canRead {m : Memory} {c : Connection} {v : Volume} (h : m.Reads c v) : m.CanRead c :=
  (canRead_iff_reads m c).mpr ⟨v, h⟩

theorem Reads.unique {m : Memory} {c : Connection} {v w : Volume} (hv : m.Reads c v) (hw : m.Reads c w) : v = w := by
  obtain ⟨d, hd, -, rfl⟩ := hv
  obtain ⟨d', hd', -, rfl⟩ := hw
  rw [Option.some.inj (hd.symm.trans hd')]

theorem reads_congr {m m' : Memory} (h : m'.datasets = m.datasets) (c : Connection) (v : Volume) :
    m'.Reads c v ↔ m.Reads c v := by
  simp only [Reads, dataset?, h]

/-- A volume that is registered and granted can be read. -/
theorem reads_register_grant (m : Memory) (locator : String) (v : Volume) (c : Credential) :
    ((m.register locator v).grant locator c).2.Reads ⟨locator, c⟩ v := by
  have hd : (m.register locator v).dataset? locator = some ⟨v, []⟩ := by rw [dataset?_register, if_pos rfl]
  refine ⟨⟨v, [digestOf c]⟩, ?_, List.mem_singleton_self _, rfl⟩
  unfold grant
  rw [hd]
  simp [dataset?_put]

/-- What a caller who can read a volume is answered. -/
theorem reply_of_reads {m : Memory} {i : Inquiry} {v : Volume} (h : m.Reads i.connection v) :
    m.reply i = (v.answer i.question).mapError i.report := by
  obtain ⟨d, hd, hc, rfl⟩ := h
  simp [reply, openVolume, connect, hd, hc]

theorem reply_ok_iff (m : Memory) (i : Inquiry) (p : Product) :
    m.reply i = .ok p ↔ ∃ v, m.Reads i.connection v ∧ v.answer i.question = .ok p := by
  constructor
  · intro h
    by_cases hread : m.CanRead i.connection
    · obtain ⟨v, hv⟩ := (canRead_iff_reads m _).mp hread
      rw [reply_of_reads hv] at h
      refine ⟨v, hv, ?_⟩
      cases ha : v.answer i.question with
      | error e => rw [ha] at h; cases h
      | ok p' => rw [ha] at h; cases h; rfl
    · unfold reply at h
      cases ho : m.openVolume (connect i.connection) with
      | error d => rw [ho] at h; cases h
      | ok opening => exact absurd ((openVolume_ok_iff m _ _ _).mp ho).1 hread
  · rintro ⟨v, hv, ha⟩
    rw [reply_of_reads hv, ha]
    rfl

theorem datasets_visited (m : Memory) (i : Inquiry) : (m.visited i).datasets = m.datasets := by
  unfold visited
  cases ho : m.openVolume (connect i.connection) with
  | error d => rfl
  | ok opening =>
    obtain ⟨v, m'⟩ := opening
    obtain ⟨-, -, rfl⟩ := (openVolume_ok_iff m _ _ _).mp ho
    rfl

/-- A reply depends on the datasets alone. -/
theorem reply_congr {m m' : Memory} (h : m'.datasets = m.datasets) (i : Inquiry) : m'.reply i = m.reply i := by
  have hd : ∀ locator, m'.dataset? locator = m.dataset? locator := fun locator => by simp only [dataset?, h]
  unfold reply openVolume
  rw [hd]
  cases m.dataset? (connect i.connection).locator with
  | none => rfl
  | some d =>
    by_cases hc : d.readers.contains (connect i.connection).digest
    · simp only [hc, if_pos]
    · simp only [hc, if_neg, Bool.false_eq_true, not_false_eq_true]

end Storage.Memory

/-- Who asks is not part of the fingerprint. -/
theorem Inquiry.fingerprint_congr {i j : Inquiry} (hd : i.dataset = j.dataset) (hq : i.question = j.question) :
    i.fingerprint = j.fingerprint := by
  unfold Inquiry.fingerprint
  rw [hd, hq]

/-! ### Serving a request -/

/-- What all requests share before the first one. -/
def Shared.fresh (m : Memory) (budget : ℕ) : Shared Memory := ⟨m, .ofBudget budget, 0⟩

namespace History

variable {resolver : Resolver} {s : Shared Memory} {r : Request} {i : Inquiry} {p : Product}

/-- What is in the cache for a caller who may see it. -/
def shown? (s : Shared Memory) (i : Inquiry) : Option Product :=
  if s.storage.CanRead i.connection then s.cache.entries.find? i.fingerprint else none

theorem shown?_eq_some_iff : shown? s i = some p ↔
    s.storage.CanRead i.connection ∧ s.cache.entries.find? i.fingerprint = some p := by
  unfold shown?
  split <;> simp [*]

/-- A request that is not in order is refused. -/
theorem serve_refused {refusal : Refusal} (h : r.normalize resolver = .error refusal) :
    s.serve Memory.engine resolver r = (.error refusal.toFailure, s) := by
  unfold Shared.serve Run.start
  rw [h]
  exact Run.complete_finished _ s _

/-- What is left to do for a run that is about to open its dataset. -/
theorem complete_opening (s : Shared Memory) (i : Inquiry) :
    (Run.opening (.ofInquiry i) (Memory.connect i.connection)).complete Memory.engine s =
      match s.storage.reply i with
      | .error f => (.error f, { s with storage := s.storage.visited i })
      | .ok p => (.ok ⟨p, false⟩,
          ⟨s.storage.visited i, s.cache.insert i.fingerprint p, s.inserts + 1⟩) := by
  unfold Memory.reply Memory.visited
  cases ho : s.storage.openVolume (Memory.connect i.connection) with
  | error d =>
    have hdenied : (Run.opening (.ofInquiry i) (Memory.connect i.connection)).advance Memory.engine s =
        (.finished (.error (d.toFailure.redact i.connection.credential.token)), s) :=
      Run.advance_opening_error _ (congrArg (Except.mapError Memory.Denial.toFailure) ho)
    rw [Run.complete_step rfl hdenied]
    exact Run.complete_finished _ _ _
  | ok opening =>
    obtain ⟨v, m⟩ := opening
    have hopened : (Run.opening (.ofInquiry i) (Memory.connect i.connection)).advance Memory.engine s =
        (.computing (.ofInquiry i) v, { s with storage := m }) := by
      simp only [Run.advance, Memory.engine, ho, Except.mapError]
    have hanswered : (Run.computing (.ofInquiry i) v).advance Memory.engine { s with storage := m } =
        (.closing (.ofInquiry i) v (v.answer i.question), { s with storage := m }) := rfl
    have hclosed : ∀ result, (Run.closing (.ofInquiry i) v result).advance Memory.engine { s with storage := m } =
        (Run.closed (.ofInquiry i) result, { s with storage := m.closeVolume }) := fun _ => rfl
    rw [Run.complete_step rfl hopened, Run.complete_step rfl hanswered, Run.complete_step rfl (hclosed _)]
    dsimp only
    cases v.answer i.question with
    | error e => cases e <;> exact Run.complete_finished _ _ _
    | ok p =>
      have hstored : (Run.storing (.ofInquiry i) p : Run Storage.Reader Volume).advance Memory.engine
            { s with storage := m.closeVolume } =
          (.finished (.ok ⟨p, false⟩), ⟨m.closeVolume, s.cache.insert i.fingerprint p, s.inserts + 1⟩) := rfl
      exact (Run.complete_step rfl hstored).trans (Run.complete_finished _ _ _)

theorem complete_start (h : r.normalize resolver = .ok i) :
    s.serve Memory.engine resolver r =
      (Run.lookingUp (.ofInquiry i) (Memory.connect i.connection)).complete Memory.engine s := by
  have hconnected : (Run.connecting (.ofInquiry i)).advance Memory.engine s =
      (.lookingUp (.ofInquiry i) (Memory.connect i.connection), s) := rfl
  unfold Shared.serve
  rw [Run.start_eq_connecting h]
  exact Run.complete_step rfl hconnected

/-- The lookup of a run. -/
theorem advance_lookingUp (s : Shared Memory) (i : Inquiry) :
    (Run.lookingUp (.ofInquiry i) (Memory.connect i.connection)).advance Memory.engine s =
      (match s.cache.entries.find? i.fingerprint with
        | some p => .checking (.ofInquiry i) (Memory.connect i.connection) p
        | none => .opening (.ofInquiry i) (Memory.connect i.connection),
        { s with cache := (s.cache.get i.fingerprint).2 }) := by
  rw [← Cache.get_fst]
  rfl

/-- The check of a run that has found a product. -/
theorem advance_checking (s : Shared Memory) (i : Inquiry) (p : Product) :
    (Run.checking (.ofInquiry i) (Memory.connect i.connection) p).advance Memory.engine s =
      (if s.storage.CanRead i.connection then .finished (.ok ⟨p, true⟩)
        else .opening (.ofInquiry i) (Memory.connect i.connection), s) := by
  by_cases hread : s.storage.CanRead i.connection
  · rw [if_pos hread]
    simp only [Run.advance, Memory.engine, (Memory.mayRead_iff _ _).mpr hread, if_true]
  · have hmay : s.storage.mayRead (Memory.connect i.connection) = false :=
      Bool.eq_false_iff.mpr fun hmay => hread ((Memory.mayRead_iff _ _).mp hmay)
    rw [if_neg hread]
    simp only [Run.advance, Memory.engine, hmay, Bool.false_eq_true, if_false]

/-- An inquiry whose product is in the cache, and may be shown, is served from there. -/
theorem serve_shown (h : r.normalize resolver = .ok i) (hp : shown? s i = some p) :
    s.serve Memory.engine resolver r = (.ok ⟨p, true⟩, { s with cache := (s.cache.get i.fingerprint).2 }) := by
  obtain ⟨hread, hfind⟩ := shown?_eq_some_iff.mp hp
  have hlookup := advance_lookingUp s i
  have hcheck := advance_checking { s with cache := (s.cache.get i.fingerprint).2 } i p
  rw [hfind] at hlookup
  rw [if_pos hread] at hcheck
  rw [complete_start h, Run.complete_step rfl hlookup, Run.complete_step rfl hcheck]
  exact Run.complete_finished _ _ _

/-- Any other inquiry is answered as it would be without a cache, and its product is put into the cache. -/
theorem serve_computed (h : r.normalize resolver = .ok i) (hp : shown? s i = none) :
    s.serve Memory.engine resolver r =
      match s.storage.reply i with
      | .error f => (.error f, ⟨s.storage.visited i, (s.cache.get i.fingerprint).2, s.inserts⟩)
      | .ok p => (.ok ⟨p, false⟩,
          ⟨s.storage.visited i, (s.cache.get i.fingerprint).2.insert i.fingerprint p, s.inserts + 1⟩) := by
  have hopening := complete_opening { s with cache := (s.cache.get i.fingerprint).2 } i
  have hlookup := advance_lookingUp s i
  rw [complete_start h, ← hopening]
  cases hfind : s.cache.entries.find? i.fingerprint with
  | none =>
    rw [hfind] at hlookup
    exact Run.complete_step rfl hlookup
  | some p =>
    have hread : ¬ s.storage.CanRead i.connection := fun hread =>
      Option.some_ne_none p ((shown?_eq_some_iff.mpr ⟨hread, hfind⟩).symm.trans hp)
    have hcheck := advance_checking { s with cache := (s.cache.get i.fingerprint).2 } i p
    rw [hfind] at hlookup
    rw [if_neg hread] at hcheck
    exact (Run.complete_step rfl hlookup).trans (Run.complete_step rfl hcheck)

/-- A stored product was in the cache for a caller who could see it; any other outcome is the reply. -/
theorem outcome_cases (h : r.normalize resolver = .ok i) :
    (∃ p, shown? s i = some p ∧ (s.serve Memory.engine resolver r).1 = .ok ⟨p, true⟩) ∨
      shown? s i = none ∧ (s.serve Memory.engine resolver r).1 = (s.storage.reply i).map (⟨·, false⟩) := by
  cases hp : shown? s i with
  | some p => exact Or.inl ⟨p, rfl, by rw [serve_shown h hp]⟩
  | none =>
    refine Or.inr ⟨rfl, ?_⟩
    rw [serve_computed h hp]
    cases s.storage.reply i <;> rfl

/-- A caller who cannot read is refused. -/
theorem refused_of_not_canRead (h : r.normalize resolver = .ok i) (hread : ¬ s.storage.CanRead i.connection) :
    ∃ f, (s.serve Memory.engine resolver r).1 = .error f := by
  rcases outcome_cases (s := s) h with ⟨p, hp, -⟩ | ⟨-, ho⟩
  · exact absurd (shown?_eq_some_iff.mp hp).1 hread
  · rw [ho]
    cases hreply : s.storage.reply i with
    | error f => exact ⟨f, rfl⟩
    | ok p =>
      obtain ⟨v, hv, -⟩ := (Memory.reply_ok_iff _ _ _).mp hreply
      exact absurd hv.canRead hread

/-! ### Histories -/

/-- Something that happens to a storage and a cache. -/
inductive Step where
  /-- A volume is registered. -/
  | register (locator : String) (v : Volume)
  /-- A token is granted. -/
  | grant (locator : String) (c : Credential)
  /-- A token is revoked. -/
  | revoke (locator : String) (c : Credential)
  /-- A request is served. -/
  | ask (r : Request)

variable (resolver)

/-- What is shared behind one step. -/
def act (s : Shared Memory) : Step → Shared Memory
  | .register locator v => { s with storage := s.storage.register locator v }
  | .grant locator c => { s with storage := (s.storage.grant locator c).2 }
  | .revoke locator c => { s with storage := s.storage.revoke locator c }
  | .ask r => (s.serve Memory.engine resolver r).2

/-- What is shared behind some steps. -/
def after (s : Shared Memory) (steps : List Step) : Shared Memory := steps.foldl (act resolver) s

/-- What a request comes to that is served behind some steps. -/
def outcome (s : Shared Memory) (past : List Step) (r : Request) : Outcome :=
  ((after resolver s past).serve Memory.engine resolver r).1

@[simp] theorem after_nil (s : Shared Memory) : after resolver s [] = s := rfl

theorem after_append (s : Shared Memory) (past steps : List Step) :
    after resolver s (past ++ steps) = after resolver (after resolver s past) steps :=
  List.foldl_append

theorem after_concat (s : Shared Memory) (past : List Step) (step : Step) :
    after resolver s (past ++ [step]) = act resolver (after resolver s past) step := by
  simp [after]

theorem outcome_shown {past : List Step} (h : r.normalize resolver = .ok i)
    (hp : shown? (after resolver s past) i = some p) : outcome resolver s past r = .ok ⟨p, true⟩ := by
  unfold outcome
  rw [serve_shown h hp]

theorem cache_register (s : Shared Memory) (locator : String) (v : Volume) :
    (act resolver s (.register locator v)).cache = s.cache := rfl

theorem cache_grant (s : Shared Memory) (locator : String) (c : Credential) :
    (act resolver s (.grant locator c)).cache = s.cache := rfl

variable {resolver}

/-- Requests leave all datasets alone. -/
theorem datasets_ask (resolver : Resolver) (s : Shared Memory) (r : Request) :
    (act resolver s (.ask r)).storage.datasets = s.storage.datasets := by
  simp only [act]
  cases h : r.normalize resolver with
  | error refusal => rw [serve_refused h]
  | ok i =>
    cases hp : shown? s i with
    | some p => rw [serve_shown h hp]
    | none =>
      rw [serve_computed h hp]
      cases s.storage.reply i <;> exact Memory.datasets_visited _ i

/-- A token of the same digest as `c` is granted at the locator. -/
def Step.Grants (locator : String) (c : Credential) : Step → Prop
  | .grant l g => l = locator ∧ digestOf g = digestOf c
  | _ => False

/-- Whoever can read behind a step could read before, or has just been granted it. -/
theorem canRead_act {step : Step} {c : Connection} (h : (act resolver s step).storage.CanRead c) :
    s.storage.CanRead c ∨ step.Grants c.dataset c.credential := by
  cases step with
  | register => exact Or.inl (Memory.canRead_of_register h)
  | grant => exact Memory.canRead_grant h
  | revoke => exact Or.inl (Memory.canRead_of_revoke h)
  | ask r => exact Or.inl ((Memory.canRead_congr (datasets_ask resolver s r) c).mp h)

/-- Without a grant, a token that cannot read will not be able to. -/
theorem not_canRead_after {c : Connection} (h : ¬ s.storage.CanRead c) (steps : List Step)
    (hg : ∀ step ∈ steps, ¬ step.Grants c.dataset c.credential) : ¬ (after resolver s steps).storage.CanRead c := by
  induction steps using List.reverseRecOn with
  | nil => exact h
  | append_singleton past step ih =>
    rw [after_concat]
    intro hc
    rcases canRead_act hc with hc | hc
    · exact ih (fun e he => hg e (List.mem_append_left _ he)) hc
    · exact hg step (by simp) hc

/-! ### What is put into the cache -/

/-- The step has a product computed and put into the cache under `f`. -/
def Stores (resolver : Resolver) (s : Shared Memory) (f : Fingerprint) (step : Step) : Prop :=
  ∃ r i p, step = .ask r ∧ r.normalize resolver = .ok i ∧ i.fingerprint = f ∧
    (s.serve Memory.engine resolver r).1 = .ok ⟨p, false⟩

/-- A product that was stored is one that the caller may see. -/
theorem shown_iff (h : r.normalize resolver = .ok i) :
    (s.serve Memory.engine resolver r).1 = .ok ⟨p, true⟩ ↔ shown? s i = some p := by
  rcases outcome_cases (s := s) h with ⟨p', hp', ho⟩ | ⟨hnone, ho⟩
  · rw [ho, hp']
    simp
  · rw [ho, hnone]
    cases s.storage.reply i <;> simp [Except.map]

/-- A product that has been computed is the reply, and there was nothing in the cache under its fingerprint. -/
theorem computed_iff (h : r.normalize resolver = .ok i) :
    (s.serve Memory.engine resolver r).1 = .ok ⟨p, false⟩ ↔ shown? s i = none ∧ s.storage.reply i = .ok p := by
  rcases outcome_cases (s := s) h with ⟨p', hp', ho⟩ | ⟨hnone, ho⟩
  · rw [ho, hp']
    simp
  · rw [ho, hnone]
    cases s.storage.reply i <;> simp [Except.map]

theorem find?_of_computed (hnone : shown? s i = none) (hreply : s.storage.reply i = .ok p) :
    s.cache.entries.find? i.fingerprint = none := by
  obtain ⟨v, hv, -⟩ := (Memory.reply_ok_iff _ _ _).mp hreply
  unfold shown? at hnone
  rwa [if_pos hv.canRead] at hnone

/-- The cache behind a step that has a product computed. -/
theorem cache_ask_of_computed (h : r.normalize resolver = .ok i) (hnone : shown? s i = none)
    (hreply : s.storage.reply i = .ok p) :
    (act resolver s (.ask r)).cache = (s.cache.get i.fingerprint).2.insert i.fingerprint p := by
  simp only [act]
  rw [serve_computed h hnone, hreply]

/-- What a step does to the cache: nothing, a lookup, or the lookup and insertion of what has been computed. -/
theorem cache_act_cases (resolver : Resolver) (s : Shared Memory) (step : Step) :
    (act resolver s step).cache = s.cache ∨ (∃ f, (act resolver s step).cache = (s.cache.get f).2) ∨
      ∃ r i p, step = .ask r ∧ r.normalize resolver = .ok i ∧ shown? s i = none ∧ s.storage.reply i = .ok p ∧
        (act resolver s step).cache = (s.cache.get i.fingerprint).2.insert i.fingerprint p := by
  cases step with
  | register | grant | revoke => exact Or.inl rfl
  | ask r =>
    cases hi : r.normalize resolver with
    | error refusal => exact Or.inl (by simp only [act, serve_refused hi])
    | ok i =>
      cases hp : shown? s i with
      | some p => exact Or.inr (Or.inl ⟨i.fingerprint, by simp only [act, serve_shown hi hp]⟩)
      | none =>
        cases hreply : s.storage.reply i with
        | error failure => exact Or.inr (Or.inl ⟨i.fingerprint, by simp only [act, serve_computed hi hp, hreply]⟩)
        | ok p => exact Or.inr (Or.inr ⟨r, i, p, rfl, hi, hp, hreply, cache_ask_of_computed hi hp hreply⟩)

/-- An entry behind a step was there before, and nothing else was stored under its fingerprint, or it has just been
computed for this fingerprint. -/
theorem entries_act {step : Step} {f : Fingerprint} (h : (f, p) ∈ (act resolver s step).cache.entries) :
    (f, p) ∈ s.cache.entries ∧ ¬ Stores resolver s f step ∨
      ∃ r i, step = .ask r ∧ r.normalize resolver = .ok i ∧ i.fingerprint = f ∧ shown? s i = none ∧
        s.storage.reply i = .ok p := by
  by_cases hstores : Stores resolver s f step
  · obtain ⟨r, i, p', rfl, hi, rfl, ho⟩ := hstores
    obtain ⟨hnone, hreply⟩ := (computed_iff hi).mp ho
    rw [cache_ask_of_computed hi hnone hreply] at h
    rcases Cache.mem_insert h with hold | heq
    · exact absurd (Cache.mem_get hold) (Entries.find?_eq_none_iff.mp (find?_of_computed hnone hreply) p)
    · obtain ⟨-, rfl⟩ := Prod.mk.inj heq
      exact Or.inr ⟨r, i, rfl, hi, rfl, hnone, hreply⟩
  · refine Or.inl ⟨?_, hstores⟩
    rcases cache_act_cases resolver s step with hc | ⟨g, hc⟩ | ⟨r, i, p', rfl, hi, hnone, hreply, hc⟩
    · rwa [hc] at h
    · rw [hc] at h
      exact Cache.mem_get h
    · rw [hc] at h
      rcases Cache.mem_insert h with hold | heq
      · exact Cache.mem_get hold
      · obtain ⟨rfl, -⟩ := Prod.mk.inj heq
        exact absurd ⟨r, i, p', rfl, hi, rfl, (computed_iff hi).mpr ⟨hnone, hreply⟩⟩ hstores

/-- What has been computed is found in the cache at once, if it fits. -/
theorem find?_ask (h : r.normalize resolver = .ok i) (hnone : shown? s i = none) (hreply : s.storage.reply i = .ok p)
    (hfits : p.weight ≤ s.cache.budget) (hc : s.cache.enabled) :
    (act resolver s (.ask r)).cache.entries.find? i.fingerprint = some p := by
  rw [cache_ask_of_computed h hnone hreply]
  refine Cache.find?_insert_self _ ?_ ?_
  · simpa [Cache.enabled] using hc
  · simpa using hfits

/-- A product that a request has been answered with is found in the cache then, if it fits. -/
theorem find?_of_served {stored : Bool} (h : r.normalize resolver = .ok i)
    (ho : (s.serve Memory.engine resolver r).1 = .ok ⟨p, stored⟩) (hfits : p.weight ≤ s.cache.budget)
    (hc : s.cache.enabled) : (act resolver s (.ask r)).cache.entries.find? i.fingerprint = some p := by
  cases stored with
  | false =>
    obtain ⟨hnone, hreply⟩ := (computed_iff h).mp ho
    exact find?_ask h hnone hreply hfits hc
  | true =>
    have hp := (shown_iff h).mp ho
    simp only [act]
    rw [serve_shown h hp, Cache.find?_get]
    exact (shown?_eq_some_iff.mp hp).2

/-! ### The cache behind a history -/

theorem budget_after (resolver : Resolver) (m : Memory) (budget : ℕ) (past : List Step) :
    (after resolver (.fresh m budget) past).cache.budget = budget := by
  induction past using List.reverseRecOn with
  | nil => rfl
  | append_singleton past step ih =>
    rw [after_concat]
    rcases cache_act_cases resolver (after resolver (.fresh m budget) past) step with
      h | ⟨f, h⟩ | ⟨r, i, p, -, -, -, -, h⟩
    · rw [h, ih]
    · rw [h, Cache.budget_get, ih]
    · rw [h, Cache.budget_insert, Cache.budget_get, ih]

/-- Without a budget nothing is kept. -/
theorem entries_after_zero (resolver : Resolver) (m : Memory) (past : List Step) :
    (after resolver (.fresh m 0) past).cache.entries = [] := by
  induction past using List.reverseRecOn with
  | nil => rfl
  | append_singleton past step ih =>
    have hbudget := budget_after resolver m 0 past
    rw [after_concat]
    rcases cache_act_cases resolver (after resolver (.fresh m 0) past) step with
      h | ⟨f, h⟩ | ⟨r, i, p, -, -, -, -, h⟩
    · rw [h, ih]
    · rw [h, Cache.entries_get_of_nil ih]
    · rw [h, Cache.insert_of_budget_eq_zero (by rw [Cache.budget_get, hbudget]), Cache.entries_get_of_nil ih]

/-- Without a cache every inquiry comes to its reply. -/
theorem outcome_zero {m : Memory} {past : List Step} (h : r.normalize resolver = .ok i) :
    outcome resolver (.fresh m 0) past r = ((after resolver (.fresh m 0) past).storage.reply i).map (⟨·, false⟩) := by
  rcases outcome_cases (s := after resolver (.fresh m 0) past) h with ⟨p, hp, -⟩ | ⟨-, ho⟩
  · have hfind := (shown?_eq_some_iff.mp hp).2
    rw [entries_after_zero] at hfind
    cases hfind
  · exact ho

/-- The reader of the sample can read its volume. -/
theorem reads_sample : Sample.memory.Reads ⟨"a", ⟨"first"⟩⟩ Volume.wellKnown :=
  ⟨_, rfl, List.mem_singleton_self _, rfl⟩

end History

end SurveyGateway
