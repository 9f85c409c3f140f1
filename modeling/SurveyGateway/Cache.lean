import SurveyGateway.Answer

/-!
# The cache of products

Products are kept under the fingerprints of the inquiries that they answer, as long as their bytes fit into a
budget. Room is made by giving up what was used least recently. A cache without a budget keeps nothing.
-/

namespace SurveyGateway

namespace Product

/-- How many bytes a product has. -/
def size (p : Product) : Nat := p.blocks.foldl (fun n block => n + block.length) p.metadata.length

/-- What a product weighs: its bytes, as far as 32 bits can count them. -/
def weight (p : Product) : Nat := min p.size 0xffffffff

end Product

/-- Products and what they are kept under. -/
abbrev Entries := List (Fingerprint × Product)

namespace Entries

/-- The weight of all. -/
def weight : Entries → Nat
  | [] => 0
  | e :: es => e.2.weight + weight es

/-- The product under a fingerprint. -/
def find? (es : Entries) (f : Fingerprint) : Option Product := (List.find? (·.1 == f) es).map (·.2)

/-- All but what is under a fingerprint. -/
def without (es : Entries) (f : Fingerprint) : Entries := es.filter (·.1 != f)

/-- What is left when entries are given up, from the first one on, until the rest fits into a budget. -/
def fitting (budget : Nat) : Entries → Entries
  | [] => []
  | e :: es => if weight (e :: es) ≤ budget then e :: es else fitting budget es

end Entries

/-- A cache, and what has been counted of its use. -/
structure Cache where
  /-- How many bytes may be kept. -/
  budget : Nat
  /-- What is kept, the least recently used first. -/
  entries : Entries
  hits : Nat
  misses : Nat
  evictions : Nat
  deriving DecidableEq

namespace Cache

/-- The budget of some megabytes, as far as 64 bits can count its bytes. -/
def budgetOfMegabytes (n : Nat) : Nat := min (n <<< 20) 0xffffffffffffffff

/-- A cache that nothing has been put into. -/
def ofBudget (budget : Nat) : Cache := ⟨budget, [], 0, 0, 0⟩

/-- Whether the cache keeps anything. -/
def enabled (c : Cache) : Bool := 0 < c.budget

/-- Whether a product is kept. Asking this is no use of it. -/
def contains (c : Cache) (f : Fingerprint) : Bool := (c.entries.find? f).isSome

/-- The product under a fingerprint, which is now the one used last. -/
def get (c : Cache) (f : Fingerprint) : Option Product × Cache :=
  match c.entries.find? f with
  | none => (none, { c with misses := c.misses + 1 })
  | some p => (some p, { c with entries := c.entries.without f ++ [(f, p)], hits := c.hits + 1 })

/-- The cache with a product put into it. A product that is new and does not fit at all is given up at once. -/
def insert (c : Cache) (f : Fingerprint) (p : Product) : Cache :=
  if !c.enabled then c
  else if !c.contains f && c.budget < p.weight then { c with evictions := c.evictions + 1 }
  else
    let all := c.entries.without f ++ [(f, p)]
    let kept := Entries.fitting c.budget all
    { c with entries := kept, evictions := c.evictions + (all.length - kept.length) }

/-- The share of hits in all lookups; zero if there were none. -/
def hitRate (c : Cache) : Float :=
  if c.hits + c.misses = 0 then 0 else Number.ofNat c.hits / Number.ofNat (c.hits + c.misses)

end Cache

end SurveyGateway
