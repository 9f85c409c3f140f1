import SurveyGateway.Storage.Engine

/-!
# Datasets in memory

A storage engine that holds volumes, each under a locator and with the readers it has. Readers are known by the
digests of their tokens. A volume that is registered has no readers yet, also in place of another one.
-/

namespace SurveyGateway.Storage

/-- The digest of a token. -/
def digestOf (c : Credential) : Fingerprint := .ofContent (Text.utf8 c.token.toList)

/-- A volume and its readers. -/
structure Dataset where
  volume : Volume
  readers : List Fingerprint

/-- The datasets, and how many have been opened and are open. -/
structure Memory where
  datasets : List (String × Dataset)
  opened : Nat
  live : Nat

/-- A connection: a locator and the digest of the reader's token. -/
structure Reader where
  locator : String
  digest : Fingerprint
  deriving DecidableEq

namespace Memory

/-- No datasets. -/
def empty : Memory := ⟨[], 0, 0⟩

/-- The dataset at a locator. -/
def dataset? (m : Memory) (locator : String) : Option Dataset :=
  (m.datasets.find? (·.1 == locator)).map (·.2)

/-- The datasets with another one at a locator. -/
def put (m : Memory) (locator : String) (d : Dataset) : Memory :=
  { m with datasets := (locator, d) :: m.datasets.filter (·.1 != locator) }

/-- Register a volume. -/
def register (m : Memory) (locator : String) (v : Volume) : Memory := m.put locator ⟨v, []⟩

/-- Let a credential read a dataset; false if there is none. -/
def grant (m : Memory) (locator : String) (c : Credential) : Bool × Memory :=
  match m.dataset? locator with
  | none => (false, m)
  | some d => (true, m.put locator { d with readers := digestOf c :: d.readers.filter (· != digestOf c) })

/-- Let a credential read a dataset no longer. -/
def revoke (m : Memory) (locator : String) (c : Credential) : Memory :=
  match m.dataset? locator with
  | none => m
  | some d => m.put locator { d with readers := d.readers.filter (· != digestOf c) }

/-- The connection of a reader. -/
def connect (c : Connection) : Reader := ⟨c.dataset, digestOf c.credential⟩

/-- Whether a reader may read the dataset that is at its locator now. -/
def mayRead (m : Memory) (r : Reader) : Bool :=
  match m.dataset? r.locator with
  | none => false
  | some d => d.readers.contains r.digest

/-- Why a dataset is not opened. -/
inductive Denial where
  | absent (locator : String)
  | unauthorized
  deriving DecidableEq

/-- The failure that a denial is reported as. -/
def Denial.toFailure (d : Denial) : Failure where
  blame := .gateway
  message := "Could not open VDS: " ++ match d with
    | absent locator => "dataset does not exist: " ++ locator
    | unauthorized => "server failed to authenticate the request"

/-- The volume at a reader's locator, if the reader may read it. What is open keeps its volume, whatever is
registered later. -/
def openVolume (m : Memory) (r : Reader) : Except Denial (Volume × Memory) :=
  match m.dataset? r.locator with
  | none => .error (.absent r.locator)
  | some d =>
    if d.readers.contains r.digest then .ok (d.volume, { m with opened := m.opened + 1, live := m.live + 1 })
    else .error .unauthorized

/-- One volume less is open. -/
def closeVolume (m : Memory) : Memory := { m with live := m.live - 1 }

/-- Memory as a storage engine. -/
def engine : Engine Memory Reader Volume where
  connect _ c := .ok (connect c)
  mayRead := mayRead
  openDataset m r := (m.openVolume r).mapError Denial.toFailure
  answer := Volume.answer
  close m _ := m.closeVolume

end Memory

end SurveyGateway.Storage
