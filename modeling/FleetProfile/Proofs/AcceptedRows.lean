import FleetProfile.Proofs.Chain
import FleetProfile.Source.Dialect
import Mathlib.Tactic.SplitIfs

/-! The rows that the normalizer takes: the columns behind their records, and the ranges of the
numbers in them. -/
namespace FleetProfile.Source
open Number (fitsInt64 minInt64 maxInt64)
open Time (Instant)

namespace RawRow

variable {row : RawRow} {column : String}

theorem required_eq_ok {v : Json} : required row column = .ok v ↔ get? row column = some v := by
  unfold required
  cases get? row column with
  | none => simp
  | some v' => simp

theorem requiredTimestamp_eq_ok {offset : Int} {t : Instant} :
    requiredTimestamp row column offset = .ok t ↔
      ∃ s, get? row column = some (.string s) ∧ Time.Layout.parse? s.toList offset = some t := by
  unfold requiredTimestamp
  rw [bind_eq_ok]
  constructor
  · rintro ⟨v, hv, h⟩
    rw [required_eq_ok] at hv
    cases v with
    | string s =>
      cases hs : Time.Layout.parse? s.toList offset with
      | none => simp [hs] at h
      | some t' =>
        simp only [hs, Except.ok.injEq] at h
        exact ⟨s, hv, h ▸ hs⟩
    | _ => simp at h
  · rintro ⟨s, hs, ht⟩
    refine ⟨.string s, required_eq_ok.2 hs, ?_⟩
    simp only [ht]

/-! ### Numbers -/

theorem fitsInt64_iff {n : Int} : fitsInt64 n = true ↔ minInt64 ≤ n ∧ n ≤ maxInt64 := by
  simp [fitsInt64]

theorem fitsInt64_of_integral? {x : Number.Binary} {n : Int} (h : integral? x = some n) :
    fitsInt64 n = true := by
  unfold integral? at h
  cases hx : x.toInt? with
  | none => simp [hx] at h
  | some m =>
    simp only [hx] at h
    split_ifs at h with hm
    obtain rfl := Option.some.inj h
    rw [fitsInt64_iff]
    unfold minInt64 maxInt64 at *
    omega

theorem fitsInt64_of_readInt64? {s : List Char} {n : Int} (h : Number.readInt64? s = some n) :
    fitsInt64 n = true := by
  unfold Number.readInt64? at h
  simp only at h
  split at h
  · exact absurd h (by simp)
  · split_ifs at h with hneg hfits hfits <;> rwa [← Option.some.inj h]

/-- What counts as an integer fits 64 bits, however it was written. -/
theorem fitsInt64_of_integer? {v : Json} {n : Int} (h : integer? v = some n) :
    fitsInt64 n = true := by
  cases v with
  | int m =>
    simp only [integer?] at h
    split_ifs at h with hm
    · rwa [← Option.some.inj h]
    · exact fitsInt64_of_integral? h
  | double x => exact fitsInt64_of_integral? h
  | string s =>
    simp only [integer?] at h
    cases hs : Number.readInt64? (Text.trim s.toList) with
    | none =>
      simp only [hs] at h
      obtain ⟨x, -, hx⟩ := Option.bind_eq_some_iff.1 h
      exact fitsInt64_of_integral? hx
    | some m =>
      simp only [hs, Option.some.injEq] at h
      exact h ▸ fitsInt64_of_readInt64? hs
  | _ => simp [integer?] at h

theorem fitsInt64_of_requiredInt64 {n : Int} (h : requiredInt64 row column = .ok n) :
    fitsInt64 n = true := by
  unfold requiredInt64 at h
  obtain ⟨v, -, h⟩ := bind_eq_ok.1 h
  cases hv : integer? v with
  | none => simp [hv] at h
  | some m =>
    simp only [hv, Except.ok.injEq] at h
    exact h ▸ fitsInt64_of_integer? hv

theorem bounds_of_requiredInt32 {n : Int} (h : requiredInt32 row column = .ok n) :
    -2147483648 ≤ n ∧ n ≤ 2147483647 := by
  unfold requiredInt32 at h
  obtain ⟨m, -, h⟩ := bind_eq_ok.1 h
  split_ifs at h with hm
  obtain rfl := Except.ok.inj h
  exact hm

theorem bounds_of_requiredCounter {n : Int} (h : requiredCounter row column = .ok n) :
    0 ≤ n ∧ n ≤ maxInt64 := by
  unfold requiredCounter at h
  obtain ⟨m, hm, h⟩ := bind_eq_ok.1 h
  split_ifs at h with hneg
  obtain rfl := Except.ok.inj h
  have hfits := fitsInt64_iff.1 (fitsInt64_of_requiredInt64 hm)
  omega

end RawRow

/-! ### Records -/

/-- The column that tells when a statement last ran. -/
def Kind.lastRunColumn : Kind → String
  | .snowflake => "LAST_START_TIME"
  | _ => "last_execution_time"

namespace Dialect
open RawRow

variable {kind : Kind} {ctx : Context} {row : RawRow}

/-- What an accepted statement says of its row. -/
structure ReadsUsage (kind : Kind) (ctx : Context) (row : RawRow) (r : UsageRecord) : Prop where
  extractTs : r.extractTs = ctx.extractTs
  lastRun : ∃ offset, requiredTimestamp row kind.lastRunColumn offset = .ok r.lastExecutionTime
  counters : ∀ c ∈ r.counters.named, 0 ≤ c.2 ∧ c.2 ≤ maxInt64

theorem bounds_of_millisToMicros {column : String} {millis n : Int} (nonneg : 0 ≤ millis)
    (h : millisToMicros column millis = .ok n) : 0 ≤ n ∧ n ≤ maxInt64 := by
  unfold millisToMicros at h
  split_ifs at h with hfits
  obtain rfl := Except.ok.inj h
  have hmax := (fitsInt64_iff.1 hfits).2
  omega

theorem statistics_eq_ok {handle : String} {extractTs : Instant} {offset : Int} {r : UsageRecord}
    (h : statistics row handle extractTs offset = .ok r) :
    r.extractTs = extractTs ∧
      requiredTimestamp row "last_execution_time" offset = .ok r.lastExecutionTime ∧
      ∀ c ∈ r.counters.named, 0 ≤ c.2 ∧ c.2 ≤ maxInt64 := by
  simp only [statistics, bind_eq_ok, Except.ok.injEq] at h
  obtain ⟨_, -, last, hlast, _, hcount, _, hworker, _, helapsed, _, hrows, rfl⟩ := h
  refine ⟨rfl, hlast, ?_⟩
  simp only [Counters.named, List.forall_mem_cons]
  exact ⟨bounds_of_requiredCounter hcount, bounds_of_requiredCounter hworker,
    bounds_of_requiredCounter helapsed, bounds_of_requiredCounter hrows, by simp⟩

theorem reads_of_usage {r : UsageRecord} (h : usage kind ctx row = .ok r) :
    ReadsUsage kind ctx row r := by
  cases kind with
  | sqlServer =>
    obtain ⟨handle, -, h⟩ := bind_eq_ok.1 h
    obtain ⟨hextract, hlast, hcounters⟩ := statistics_eq_ok h
    exact ⟨hextract, ⟨_, hlast⟩, hcounters⟩
  | synapse =>
    obtain ⟨handle, -, h⟩ := bind_eq_ok.1 h
    obtain ⟨hextract, hlast, hcounters⟩ := statistics_eq_ok h
    exact ⟨hextract, ⟨_, hlast⟩, hcounters⟩
  | snowflake =>
    simp only [usage, bind_eq_ok, Except.ok.injEq] at h
    obtain ⟨_, -, worker, hworker, elapsed, helapsed, _, -, last, hlast, _, hcount, _, hworker',
      _, helapsed', _, hrows, rfl⟩ := h
    refine ⟨rfl, ⟨_, hlast⟩, ?_⟩
    simp only [Counters.named, List.forall_mem_cons]
    exact ⟨bounds_of_requiredCounter hcount,
      bounds_of_millisToMicros (bounds_of_requiredCounter hworker).1 hworker',
      bounds_of_millisToMicros (bounds_of_requiredCounter helapsed).1 helapsed',
      bounds_of_requiredCounter hrows, by simp⟩

/-- What an accepted database says of its row. -/
structure ReadsInventory (ctx : Context) (r : InventoryRecord) : Prop where
  extractTs : r.extractTs = ctx.extractTs
  dbId : -2147483648 ≤ r.dbId ∧ r.dbId ≤ 2147483647

theorem catalogue_eq_ok {extractTs : Instant} {offset : Int} {r : InventoryRecord}
    (h : catalogue row extractTs offset = .ok r) :
    r.extractTs = extractTs ∧ -2147483648 ≤ r.dbId ∧ r.dbId ≤ 2147483647 := by
  simp only [catalogue, bind_eq_ok, Except.ok.injEq] at h
  obtain ⟨dbId, hdbId, _, -, _, -, _, -, rfl⟩ := h
  exact ⟨rfl, bounds_of_requiredInt32 hdbId⟩

theorem reads_of_inventory {r : InventoryRecord} (h : inventory kind ctx row = .ok r) :
    ReadsInventory ctx r := by
  cases kind with
  | sqlServer =>
    obtain ⟨hextract, hdbId⟩ := catalogue_eq_ok h
    exact ⟨hextract, hdbId⟩
  | synapse =>
    obtain ⟨hextract, hdbId⟩ := catalogue_eq_ok h
    exact ⟨hextract, hdbId⟩
  | snowflake =>
    simp only [inventory, bind_eq_ok, Except.ok.injEq] at h
    obtain ⟨dbId, hdbId, _, -, _, -, rfl⟩ := h
    exact ⟨rfl, bounds_of_requiredInt32 hdbId⟩

end Dialect

end FleetProfile.Source
