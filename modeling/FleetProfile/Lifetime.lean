import FleetProfile.Store.Reads
/-!
Lifetimes: the snapshots of a statement between two evictions of its plan, and what happened
between one snapshot and the next.
-/
namespace FleetProfile

open Time (Instant)

/-- Snapshots of one statement while its plan stayed in the cache, earliest first. -/
structure Lifetime where
  handle : String
  snapshots : List UsageRecord
deriving DecidableEq, Repr

structure UsageDelta where
  extractTs : Instant
  counters : Counters
deriving DecidableEq, Repr

namespace Lifetime

/-- Whether a snapshot belongs to the same lifetime as the one before it. -/
def continues (prior current : UsageRecord) : Bool :=
  prior.handle = current.handle ∧ Counters.Continues prior.counters current.counters

/-- A lifetime, labelled with the handle of its snapshots. -/
def ofSnapshots (snapshots : List UsageRecord) : Lifetime :=
  ⟨(snapshots.head?.map (·.handle)).getD "", snapshots⟩

/-- Split a history, earliest first, wherever a snapshot does not continue the one before. -/
def split (history : List UsageRecord) : List Lifetime :=
  (history.splitBy continues).map ofSnapshots

def firstSeen (l : Lifetime) : Option Instant :=
  l.snapshots.head?.map (·.extractTs)

def latest (l : Lifetime) : Option UsageRecord :=
  l.snapshots.getLast?

def growth (prior current : Counters) : Counters where
  executionCount := current.executionCount - prior.executionCount
  totalWorkerTime := current.totalWorkerTime - prior.totalWorkerTime
  totalElapsedTime := current.totalElapsedTime - prior.totalElapsedTime
  totalRows := current.totalRows - prior.totalRows

/-- The activity up to each snapshot, from given counters on. -/
def deltasFrom (prior : Counters) : List UsageRecord → List UsageDelta
  | [] => []
  | r :: rest => ⟨r.extractTs, growth prior r.counters⟩ :: deltasFrom r.counters rest

/-- The activity up to each snapshot. The first one counts from zero. -/
def deltas (l : Lifetime) : List UsageDelta :=
  deltasFrom Counters.zero l.snapshots

end Lifetime

/-- The lifetimes of a statement in the snapshots of succeeded runs. -/
def Store.lifetimes (s : Store) (handle : String) : List Lifetime :=
  Lifetime.split (s.usageHistory handle true)

end FleetProfile
