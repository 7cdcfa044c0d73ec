import FleetProfile.Proofs.AcceptedRows
import FleetProfile.Proofs.Partition
import Mathlib.Algebra.Group.Defs

/-! What the deltas of a lifetime add up to. No counter of a lifetime goes down, so no delta is
negative, and the deltas up to a snapshot add up to its counters. -/
namespace FleetProfile
open Number (maxInt64)

namespace Counters

/-- No counter is negative, and 64 bits hold them all. -/
def Bounded (c : Counters) : Prop :=
  ∀ counter ∈ c.named, 0 ≤ counter.2 ∧ counter.2 ≤ maxInt64

instance (c : Counters) : Decidable c.Bounded :=
  inferInstanceAs (Decidable (∀ counter ∈ c.named, _))

instance : Zero Counters := ⟨zero⟩

instance : Add Counters where
  add a b :=
    { executionCount := a.executionCount + b.executionCount
      totalWorkerTime := a.totalWorkerTime + b.totalWorkerTime
      totalElapsedTime := a.totalElapsedTime + b.totalElapsedTime
      totalRows := a.totalRows + b.totalRows }

theorem add_def (a b : Counters) : a + b =
    ⟨a.executionCount + b.executionCount, a.totalWorkerTime + b.totalWorkerTime,
      a.totalElapsedTime + b.totalElapsedTime, a.totalRows + b.totalRows⟩ := rfl

theorem zero_def : (0 : Counters) = ⟨0, 0, 0, 0⟩ := rfl

instance : AddMonoid Counters where
  add_assoc a b c := by simp only [add_def, Int.add_assoc]
  zero_add a := by simp only [add_def, zero_def, Int.zero_add]
  add_zero a := by simp only [add_def, zero_def, Int.add_zero]
  nsmul := nsmulRec

theorem continues_zero {c : Counters} (hc : c.Bounded) : Continues 0 c := by
  simp [Bounded, named] at hc
  simp only [Continues, zero_def]
  omega

theorem bounded_zero : Bounded 0 := by decide

end Counters

/-- The counters that come from a source are of this kind. -/
theorem Source.Dialect.bounded_of_usage {kind : Kind} {ctx : Context} {row : RawRow}
    {r : UsageRecord} (h : usage kind ctx row = .ok r) : r.counters.Bounded :=
  (reads_of_usage h).counters

namespace Lifetime
open Counters (Bounded Continues)

variable {prior current : Counters} {rs : List UsageRecord}

theorem add_growth (prior current : Counters) : prior + growth prior current = current := by
  have hfield (a b : Int) : a + (b - a) = b := by omega
  simp only [Counters.add_def, growth, hfield]

/-- A counter that does not go down grows by no more than it holds. -/
theorem bounded_growth (hprior : prior.Bounded) (hcurrent : current.Bounded)
    (hgoes : Continues prior current) : (growth prior current).Bounded := by
  simp only [Bounded, Counters.named, List.forall_mem_cons, List.not_mem_nil, false_imp_iff,
    implies_true, and_true, growth, Continues] at *
  omega

theorem extractTs_deltasFrom (prior : Counters) (rs : List UsageRecord) :
    (deltasFrom prior rs).map (·.extractTs) = rs.map (·.extractTs) := by
  induction rs generalizing prior with
  | nil => rfl
  | cons r rs ih => exact congrArg (r.extractTs :: ·) (ih r.counters)

theorem bounded_deltasFrom (hprior : prior.Bounded) (hrs : ∀ r ∈ rs, r.counters.Bounded)
    (hgoes : (prior :: rs.map (·.counters)).IsChain Continues) :
    ∀ d ∈ deltasFrom prior rs, d.counters.Bounded := by
  induction rs generalizing prior with
  | nil => exact List.forall_mem_nil _
  | cons r rs ih =>
    obtain ⟨hr, hrs⟩ := List.forall_mem_cons.1 hrs
    obtain ⟨hfirst, hrest⟩ := List.isChain_cons_cons.1 hgoes
    exact List.forall_mem_cons.2 ⟨bounded_growth hprior hr hfirst, ih hr hrs hrest⟩

/-- The counters before a snapshot and the deltas since make the counters at the snapshot. -/
theorem add_sum_deltasFrom (prior : Counters) (rs : List UsageRecord) (n : Nat)
    (hn : n < rs.length) :
    prior + (((deltasFrom prior rs).take (n + 1)).map (·.counters)).sum = rs[n].counters := by
  induction rs generalizing prior n with
  | nil => exact absurd hn (Nat.not_lt_zero n)
  | cons r rs ih =>
    rw [deltasFrom, List.take_succ_cons, List.map_cons, List.sum_cons, ← add_assoc, add_growth]
    cases n with
    | zero => simp
    | succ n => exact ih r.counters n (Nat.lt_of_succ_lt_succ hn)

theorem length_deltas (l : Lifetime) : l.deltas.length = l.snapshots.length := by
  rw [← List.length_map (·.extractTs), deltas, extractTs_deltasFrom, List.length_map]

theorem sum_take_deltas (l : Lifetime) (n : Nat) (hn : n < l.snapshots.length) :
    ((l.deltas.take (n + 1)).map (·.counters)).sum = l.snapshots[n].counters := by
  rw [← add_sum_deltasFrom 0 l.snapshots n hn, zero_add]
  rfl

theorem sum_deltas {l : Lifetime} {r : UsageRecord} (hr : l.latest = some r) :
    (l.deltas.map (·.counters)).sum = r.counters := by
  rw [latest, List.getLast?_eq_getElem?] at hr
  obtain ⟨hlast, rfl⟩ := List.getElem?_eq_some_iff.1 hr
  rw [← sum_take_deltas l _ hlast, List.take_of_length_le]
  rw [length_deltas]
  omega

/-- The first snapshot counts from zero. -/
theorem head?_deltas (l : Lifetime) :
    l.deltas.head?.map (·.counters) = l.snapshots.head?.map (·.counters) := by
  unfold deltas
  cases l.snapshots with
  | nil => rfl
  | cons r rest => exact congrArg some ((zero_add _).symm.trans (add_growth 0 r.counters))

theorem bounded_deltas {l : Lifetime} (hl : Residency l)
    (hbounded : ∀ r ∈ l.snapshots, r.counters.Bounded) : ∀ d ∈ l.deltas, d.counters.Bounded := by
  obtain ⟨r, rest, hsnapshots⟩ := List.exists_cons_of_ne_nil hl.ne_nil
  have hchain := (List.isChain_map UsageRecord.counters).2 hl.counters
  have hr := hbounded r (hsnapshots ▸ List.mem_cons_self)
  refine bounded_deltasFrom Counters.bounded_zero hbounded ?_
  rw [hsnapshots] at hchain ⊢
  exact List.isChain_cons_cons.2 ⟨Counters.continues_zero hr, hchain⟩

/-- Each snapshot of a lifetime has its delta. No delta is negative or more than 64 bits hold, and
up to any snapshot they add up to its counters. -/
theorem deltas_account {history : List UsageRecord} {l : Lifetime}
    (hhistory : ∀ r ∈ history, r.counters.Bounded) (hl : l ∈ split history) :
    l.deltas.map (·.extractTs) = l.snapshots.map (·.extractTs) ∧
      (∀ d ∈ l.deltas, d.counters.Bounded) ∧
      (∀ n, (hn : n < l.snapshots.length) →
        ((l.deltas.take (n + 1)).map (·.counters)).sum = l.snapshots[n].counters) ∧
      l.deltas.head?.map (·.counters) = l.snapshots.head?.map (·.counters) ∧
      ∀ r ∈ l.latest, (l.deltas.map (·.counters)).sum = r.counters := by
  have hcuts : Cuts history (split history) := split_eq_iff.1 rfl
  have hbounded : ∀ r ∈ l.snapshots, r.counters.Bounded := fun r hr =>
    hhistory r (hcuts.flatMap_eq ▸ List.mem_flatMap.2 ⟨l, hl, hr⟩)
  refine ⟨extractTs_deltasFrom _ _, bounded_deltas (hcuts.residency l hl) hbounded,
    sum_take_deltas l, head?_deltas l, fun r hr => sum_deltas hr⟩

/-- Two lifetimes, with a counter that reaches the most that 64 bits hold. -/
theorem deltas_account_evicted :
    let a : UsageRecord := ⟨"0x01", ⟨0, 0⟩, ⟨0, 0⟩, ⟨400, 0, 5000, 7⟩, ⟨100, 0⟩⟩
    let b : UsageRecord := ⟨"0x01", ⟨0, 0⟩, ⟨90, 0⟩, ⟨500, maxInt64, 5000, 7⟩, ⟨200, 0⟩⟩
    let c : UsageRecord := ⟨"0x01", ⟨250, 0⟩, ⟨260, 0⟩, ⟨510, 90, 5100, 7⟩, ⟨300, 0⟩⟩
    (∀ r ∈ [a, b, c], r.counters.Bounded) ∧ ⟨"0x01", [a, b]⟩ ∈ split [a, b, c] ∧
      (deltas ⟨"0x01", [a, b]⟩).map (·.extractTs) = [⟨100, 0⟩, ⟨200, 0⟩] ∧
      (∀ d ∈ deltas ⟨"0x01", [a, b]⟩, d.counters.Bounded) ∧
      ((deltas ⟨"0x01", [a, b]⟩).map (·.counters)).sum = ⟨500, maxInt64, 5000, 7⟩ := by
  intro a b c
  have hbounded : ∀ r ∈ [a, b, c], r.counters.Bounded := by decide
  have hmem : ⟨"0x01", [a, b]⟩ ∈ split [a, b, c] := by decide
  obtain ⟨htimes, hdeltas, -, -, htotal⟩ := deltas_account hbounded hmem
  exact ⟨hbounded, hmem, htimes, hdeltas, htotal b rfl⟩

end Lifetime
end FleetProfile
