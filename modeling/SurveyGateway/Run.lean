import SurveyGateway.Cache
import SurveyGateway.Storage.Engine

/-!
# Runs

A run serves one request. It takes one atomic step at a time, and other runs may take theirs in between: it
connects to the storage, looks its product up in the cache, has its right to read checked if the product is there,
and otherwise opens the dataset, has its question answered, closes the dataset and stores the product. What a
failure quotes of the run's credential is taken out before it is reported.

`Run.advance` is one step, `Run.complete` all that are left.
-/

namespace SurveyGateway

open Storage (Engine)

/-- An inquiry and its fingerprint. -/
structure Ticket where
  inquiry : Inquiry
  key : Fingerprint
  key_eq : key = inquiry.fingerprint

namespace Ticket

/-- The ticket of an inquiry. -/
def ofInquiry (i : Inquiry) : Ticket := ⟨i, i.fingerprint, rfl⟩

/-- A failure as it may be reported: without the credential. -/
def redact (t : Ticket) (f : Failure) : Failure := f.redact t.inquiry.connection.credential.token

end Ticket

/-- A product that a request was answered with, and whether it was stored before. -/
structure Served where
  product : Product
  stored : Bool
  deriving DecidableEq

/-- What becomes of a request. -/
abbrev Outcome := Except Failure Served

/-- A run between two of its steps. -/
inductive Run (κ η : Type) where
  /-- About to connect. -/
  | connecting (t : Ticket)
  /-- About to look into the cache. -/
  | lookingUp (t : Ticket) (connection : κ)
  /-- About to have its right checked to a product from the cache. -/
  | checking (t : Ticket) (connection : κ) (product : Product)
  /-- About to open the dataset. -/
  | opening (t : Ticket) (connection : κ)
  /-- About to have its question answered. -/
  | computing (t : Ticket) (dataset : η)
  /-- About to close the dataset. -/
  | closing (t : Ticket) (dataset : η) (result : Except (Mishap Failure) Product)
  /-- About to store its product. -/
  | storing (t : Ticket) (product : Product)
  | finished (outcome : Outcome)

/-- What all runs share. -/
structure Shared (σ : Type) where
  storage : σ
  cache : Cache
  /-- How often a product was put into the cache. -/
  inserts : Nat

/-- What is told of a computation that broke off. -/
def brokenOff : Failure := ⟨.gateway, "Internal server error"⟩

namespace Run

variable {σ κ η : Type}

/-- The run of a request, which fails at once if the request is not in order. -/
def start (resolver : Resolver) (r : Request) : Run κ η :=
  match r.normalize resolver with
  | .ok i => connecting (.ofInquiry i)
  | .error refusal => finished (.error refusal.toFailure)

/-- The run of a request that is in order. -/
theorem start_eq_connecting {resolver : Resolver} {r : Request} {i : Inquiry} (h : r.normalize resolver = .ok i) :
    (start resolver r : Run κ η) = connecting (.ofInquiry i) := by
  unfold start
  rw [h]

/-- What follows a dataset that has been closed. -/
def closed (t : Ticket) : Except (Mishap Failure) Product → Run κ η
  | .ok product => storing t product
  | .error (.failed f) => finished (.error (t.redact f))
  | .error .brokenOff => finished (.error brokenOff)

/-- One step of a run. -/
def advance (engine : Engine σ κ η) (s : Shared σ) : Run κ η → Run κ η × Shared σ
  | connecting t =>
    match engine.connect s.storage t.inquiry.connection with
    | .error f => (finished (.error (t.redact f)), s)
    | .ok connection => (lookingUp t connection, s)
  | lookingUp t connection =>
    let (found, cache) := s.cache.get t.key
    (match found with
      | some product => checking t connection product
      | none => opening t connection, { s with cache })
  | checking t connection product =>
    (if engine.mayRead s.storage connection then finished (.ok ⟨product, true⟩) else opening t connection, s)
  | opening t connection =>
    match engine.openDataset s.storage connection with
    | .error f => (finished (.error (t.redact f)), s)
    | .ok (dataset, storage) => (computing t dataset, { s with storage })
  | computing t dataset => (closing t dataset (engine.answer dataset t.inquiry.question), s)
  | closing t dataset result => (closed t result, { s with storage := engine.close s.storage dataset })
  | storing t product =>
    (finished (.ok ⟨product, false⟩),
      { s with cache := s.cache.insert t.key product, inserts := s.inserts + 1 })
  | finished outcome => (finished outcome, s)

/-- The outcome of a run that is finished. -/
def outcome? : Run κ η → Option Outcome
  | finished outcome => some outcome
  | _ => none

/-- A bound on the steps that are left. -/
def remaining : Run κ η → Nat
  | connecting _ => 7
  | lookingUp .. => 6
  | checking .. => 5
  | opening .. => 4
  | computing .. => 3
  | closing .. => 2
  | storing .. => 1
  | finished _ => 0

/-- Every step of a run that is not finished leaves fewer steps. -/
theorem remaining_advance_lt (engine : Engine σ κ η) (s : Shared σ) {r : Run κ η} (h : r.outcome? = none) :
    (r.advance engine s).1.remaining < r.remaining := by
  cases r with
  | finished outcome => cases h
  | storing t product => simp [advance, remaining]
  | computing t dataset => simp [advance, remaining]
  | closing t dataset result =>
    simp only [advance, closed]
    split <;> simp [remaining]
  | _ =>
    simp only [advance]
    split <;> simp [remaining]

/-- All steps that are left of a run, with no other run in between. -/
def complete (engine : Engine σ κ η) (s : Shared σ) (r : Run κ η) : Outcome × Shared σ :=
  match _h : r.outcome? with
  | some outcome => (outcome, s)
  | none =>
    let next := r.advance engine s
    next.1.complete engine next.2
termination_by r.remaining
decreasing_by exact remaining_advance_lt engine s _h

end Run

/-- Serve a request with no other in between. -/
def Shared.serve {σ κ η : Type} (engine : Engine σ κ η) (resolver : Resolver) (s : Shared σ) (r : Request) :
    Outcome × Shared σ :=
  (Run.start resolver r).complete engine s

end SurveyGateway
