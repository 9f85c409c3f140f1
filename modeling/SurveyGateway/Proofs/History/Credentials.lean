import SurveyGateway.Proofs.History.Basic
import SurveyGateway.Proofs.Request.Normalize

/-!
# What a credential decides

A credential decides whether its caller may read a dataset, and nothing else. Two callers who ask the same, and may
both read or both not, are served alike: with the same product, from the same place, or with a failure of the same
blame. What is shared is the same behind the one and behind the other, down to the order in which products were last
used and to all counts. Their failures may quote different texts, since the credential is taken out of them.

## The model

`Resolves resolver r c` says that `c` is where, and as whom, a request is to be read: the token may be the caller's or
the default of the account. `Peers m i i'` says that two inquiries ask the same of callers with the same right.

## What is proved

* `Peers.openVolume`, `Peers.visited`, `Peers.reply` — storage in memory cannot tell peers apart, and `Peers.shown?` —
  nor can the cache.
* `Peers.serve` — so they are served alike.
* `token_only_authorizes` — the same for requests that differ in their token.
-/

namespace SurveyGateway

open Storage (Memory digestOf)

/-! ### Requests that differ in their token -/

/-- The same request with another token, or with none. -/
def Request.withToken (r : Request) (token : Option String) : Request := { r with token }

/-- A request is to be read over this connection. -/
def Resolves (resolver : Resolver) (r : Request) (c : Connection) : Prop :=
  ∃ dataset, canonicalDataset r.dataset = .ok dataset ∧ resolver.resolve dataset r.token = .ok c

/-- What a request comes to that resolves: all that can still be wrong is its question. -/
theorem Resolves.normalize {resolver : Resolver} {r : Request} {c : Connection} (h : Resolves resolver r c) :
    r.normalize resolver = r.question.validate.map fun _ => ⟨c, r.question.canonical⟩ := by
  obtain ⟨dataset, hdataset, hc⟩ := h
  unfold Request.normalize
  rw [hdataset]
  cases r.question.validate with
  | error refusal => rfl
  | ok _ => simp only [bind, Except.bind, hc, pure, Except.pure, Except.map]

/-- A token does not change the dataset that is read. -/
theorem Resolves.dataset_eq {resolver : Resolver} {r : Request} {token : Option String} {c c' : Connection}
    (h : Resolves resolver r c) (h' : Resolves resolver (r.withToken token) c') : c.dataset = c'.dataset := by
  obtain ⟨dataset, hdataset, hc⟩ := h
  obtain ⟨dataset', hdataset', hc'⟩ := h'
  obtain rfl := Except.ok.inj (hdataset.symm.trans hdataset')
  rw [Resolver.dataset_of_resolve hc, Resolver.dataset_of_resolve hc']

/-! ### Peers -/

/-- Two inquiries ask the same, of callers who may both read or both not. -/
structure Peers (m : Memory) (i i' : Inquiry) : Prop where
  dataset : i.dataset = i'.dataset
  question : i.question = i'.question
  canRead : m.CanRead i.connection ↔ m.CanRead i'.connection

@[simp] theorem Failure.blame_redact (secret : String) (f : Failure) : (f.redact secret).blame = f.blame := by
  unfold redact
  split <;> rfl

/-- Who has to act on a failed computation does not depend on who asked. -/
theorem Inquiry.blame_report (i i' : Inquiry) (e : Mishap Failure) : (i.report e).blame = (i'.report e).blame := by
  cases e <;> simp [report]

namespace Peers

variable {m : Memory} {i i' : Inquiry}

theorem fingerprint (h : Peers m i i') : i.fingerprint = i'.fingerprint :=
  Inquiry.fingerprint_congr h.dataset h.question

theorem describe (h : Peers m i i') : i.describe = i'.describe := by
  unfold Inquiry.describe
  rw [h.dataset, h.question]

/-- A dataset is opened for both, or for neither and for the same reason. -/
theorem openVolume (h : Peers m i i') :
    m.openVolume (Memory.connect i.connection) = m.openVolume (Memory.connect i'.connection) := by
  have hmay : m.mayRead (Memory.connect i.connection) = m.mayRead (Memory.connect i'.connection) := by
    rw [Bool.eq_iff_iff, Memory.mayRead_iff, Memory.mayRead_iff]
    exact h.canRead
  have hlocator : (Memory.connect i.connection).locator = (Memory.connect i'.connection).locator := h.dataset
  unfold Memory.mayRead at hmay
  unfold Memory.openVolume
  rw [hlocator] at hmay ⊢
  cases hd : m.dataset? (Memory.connect i'.connection).locator with
  | none => rfl
  | some d =>
    rw [hd] at hmay
    dsimp only at hmay ⊢
    rw [hmay]

theorem visited (h : Peers m i i') : m.visited i = m.visited i' := by
  unfold Memory.visited
  rw [h.openVolume]

/-- Both come to the same product without a cache, or to failures of the same blame. -/
theorem reply (h : Peers m i i') : (m.reply i).mapError Failure.blame = (m.reply i').mapError Failure.blame := by
  unfold Memory.reply
  rw [h.openVolume, h.question]
  cases m.openVolume (Memory.connect i'.connection) with
  | error d => simp [Except.mapError]
  | ok opening =>
    dsimp only
    cases opening.1.answer i'.question with
    | ok p => rfl
    | error e => exact congrArg Except.error (Inquiry.blame_report i i' e)

variable {s : Shared Memory}

open History (shown?)

theorem shown? (h : Peers s.storage i i') : shown? s i = shown? s i' := by
  unfold History.shown?
  simp only [h.canRead, h.fingerprint]

/-- Peers are served alike, and leave the same behind. -/
theorem serve {resolver : Resolver} {r r' : Request} (h : Peers s.storage i i') (hi : r.normalize resolver = .ok i)
    (hi' : r'.normalize resolver = .ok i') :
    (s.serve Memory.engine resolver r).1.mapError Failure.blame =
        (s.serve Memory.engine resolver r').1.mapError Failure.blame ∧
      (s.serve Memory.engine resolver r).2 = (s.serve Memory.engine resolver r').2 := by
  cases hp : History.shown? s i with
  | some p =>
    have hp' := h.shown?.symm.trans hp
    rw [History.serve_shown hi hp, History.serve_shown hi' hp', h.fingerprint]
    exact ⟨rfl, rfl⟩
  | none =>
    have hp' := h.shown?.symm.trans hp
    have hreply := h.reply
    rw [History.serve_computed hi hp, History.serve_computed hi' hp', h.fingerprint, h.visited]
    -- the replies are both products, and equal, or both failures, of which the blame is kept
    cases hl : s.storage.reply i <;> cases hr : s.storage.reply i' <;>
      simp only [hl, hr, Except.mapError, Except.ok.injEq, Except.error.injEq, reduceCtorEq] at hreply
    · simp only [Except.mapError, hreply, and_self]
    · subst hreply
      exact ⟨rfl, rfl⟩

end Peers

/-- **Credentials authorize, and do nothing else.** Over datasets in memory, from any state:

If a request resolves with its own token and with another one in its place, missing and blank ones included, and both
credentials may read the dataset or neither may, then both requests are served alike. They come to the same product,
stored or computed, or to failures of the same blame, and what is shared behind them is the same. They also have the
same fingerprint and description, or the same refusal. -/
theorem token_only_authorizes (resolver : Resolver) (s : Shared Memory) (r : Request) (token : Option String)
    {c c' : Connection} (hc : Resolves resolver r c) (hc' : Resolves resolver (r.withToken token) c')
    (hread : s.storage.CanRead c ↔ s.storage.CanRead c') :
    let served := s.serve Memory.engine resolver r
    let served' := s.serve Memory.engine resolver (r.withToken token)
    served.1.mapError Failure.blame = served'.1.mapError Failure.blame ∧ served.2 = served'.2 ∧
      (r.normalize resolver).map Inquiry.fingerprint =
        ((r.withToken token).normalize resolver).map Inquiry.fingerprint ∧
      (r.normalize resolver).map Inquiry.describe = ((r.withToken token).normalize resolver).map Inquiry.describe := by
  intro served served'
  have hi := hc.normalize
  have hi' : (r.withToken token).normalize resolver = r.question.validate.map fun _ => ⟨c', r.question.canonical⟩ :=
    hc'.normalize
  cases hvalid : r.question.validate with
  | error refusal =>
    rw [hvalid] at hi hi'
    have hrefused : served = (.error refusal.toFailure, s) := History.serve_refused hi
    have hrefused' : served' = (.error refusal.toFailure, s) := History.serve_refused hi'
    rw [hrefused, hrefused', hi, hi']
    exact ⟨rfl, rfl, rfl, rfl⟩
  | ok _ =>
    rw [hvalid] at hi hi'
    have hpeers : Peers s.storage ⟨c, r.question.canonical⟩ ⟨c', r.question.canonical⟩ :=
      ⟨hc.dataset_eq hc', rfl, hread⟩
    obtain ⟨houtcome, hshared⟩ := hpeers.serve hi hi'
    rw [hi, hi']
    exact ⟨houtcome, hshared, congrArg Except.ok hpeers.fingerprint, congrArg Except.ok hpeers.describe⟩

/-- An account with a default credential. -/
def Sample.defaulted : Resolver := ⟨[⟨"a", some ⟨"second"⟩⟩]⟩

/-- The well-known volume, with two readers. -/
def Sample.shared : Memory := ⟨[("a", ⟨Volume.wellKnown, [digestOf ⟨"first"⟩, digestOf ⟨"second"⟩]⟩)], 0, 0⟩

/-- A caller with a token of its own, and one with a blank in place of it who reads with the default. -/
theorem token_only_authorizes_sample :
    let s := Shared.fresh Sample.shared 0xffffffff
    let r := Sample.request "first" .metadata
    Resolves Sample.defaulted r ⟨"a", ⟨"first"⟩⟩ ∧
      Resolves Sample.defaulted (r.withToken (some " ")) ⟨"a", ⟨"second"⟩⟩ ∧
      s.storage.CanRead ⟨"a", ⟨"first"⟩⟩ ∧ s.storage.CanRead ⟨"a", ⟨"second"⟩⟩ ∧
      (s.serve Memory.engine Sample.defaulted r).2 =
        (s.serve Memory.engine Sample.defaulted (r.withToken (some " "))).2 := by
  intro s r
  have hc : Resolves Sample.defaulted r ⟨"a", ⟨"first"⟩⟩ := ⟨"a", by decide, by decide⟩
  have hc' : Resolves Sample.defaulted (r.withToken (some " ")) ⟨"a", ⟨"second"⟩⟩ := ⟨"a", by decide, by decide⟩
  have hfirst : s.storage.CanRead ⟨"a", ⟨"first"⟩⟩ := ⟨_, rfl, List.mem_cons_self⟩
  have hsecond : s.storage.CanRead ⟨"a", ⟨"second"⟩⟩ := ⟨_, rfl, List.mem_cons_of_mem _ List.mem_cons_self⟩
  have hread : s.storage.CanRead ⟨"a", ⟨"first"⟩⟩ ↔ s.storage.CanRead ⟨"a", ⟨"second"⟩⟩ :=
    iff_of_true hfirst hsecond
  obtain ⟨-, hshared, -⟩ := token_only_authorizes Sample.defaulted s r (some " ") hc hc' hread
  exact ⟨hc, hc', hfirst, hsecond, hshared⟩

end SurveyGateway
