import FleetProfile.Proofs.WriteLog
import Mathlib.Order.Bounds.Basic

/-! The counters that a source reported last. The read joins three tables on dates and handles; what
it answers is told here by the batches that were committed. -/
namespace FleetProfile
open Time (Instant)
open Store (BatchWrite)

namespace Store

variable {s : Store} {pipeline source handle : String}

theorem countDate_pos {rows : List LedgerRow} {d : Int} :
    0 < countDate rows d ↔ ∃ l ∈ rows, l.date = d := by
  simp [countDate, List.countP_pos_iff]

theorem mem_reportedDates {d : Int} :
    d ∈ s.reportedDates pipeline source handle ↔
      s.Succeeded (pipeline, d) ∧ ⟨pipeline, d, source, handle⟩ ∈ s.attribution := by
  have hclosed {d : Int} : 0 < countDate (s.succeeded pipeline) d ↔ s.Succeeded (pipeline, d) :=
    countDate_pos.trans exists_succeeded_iff
  unfold reportedDates
  rw [List.mem_filterMap]
  constructor
  · rintro ⟨a, ha, hd⟩
    split_ifs at hd with hits
    obtain ⟨rfl, rfl, rfl, hcount⟩ := hits
    obtain rfl := Option.some.inj hd
    exact ⟨hclosed.1 hcount, ha⟩
  · rintro ⟨hrow, ha⟩
    exact ⟨_, ha, if_pos ⟨rfl, rfl, rfl, hclosed.2 hrow⟩⟩

/-- Counters come from the only row at the latest of the dates that has one. -/
theorem countersAt_eq_some {dates : List Int} {c : Counters} :
    s.countersAt handle dates = some c ↔
      ∃ d, IsGreatest {d | d ∈ dates ∧ ∃ u ∈ s.usage, u.handle = handle ∧ u.extractTs = d} d ∧
        ∃ row, s.usage.filter (fun u => u.handle = handle ∧ u.extractTs = d) = [row] ∧
          row.counters = c := by
  have hmem {d : Int} : d ∈ (s.usage.filter fun u => u.handle = handle ∧ u.extractTs ∈ dates).map
      (·.extractTs) ↔ d ∈ dates ∧ ∃ u ∈ s.usage, u.handle = handle ∧ u.extractTs = d := by
    simp only [List.mem_map, List.mem_filter, decide_eq_true_eq]
    constructor
    · rintro ⟨u, ⟨hu, hhandle, hdate⟩, rfl⟩
      exact ⟨hdate, u, hu, hhandle, rfl⟩
    · rintro ⟨hdate, u, hu, hhandle, rfl⟩
      exact ⟨u, ⟨hu, hhandle, hdate⟩, rfl⟩
  have hgreatest {d : Int} : ((s.usage.filter fun u => u.handle = handle ∧
      u.extractTs ∈ dates).map (·.extractTs)).max? = some d ↔
      IsGreatest {d | d ∈ dates ∧ ∃ u ∈ s.usage, u.handle = handle ∧ u.extractTs = d} d := by
    rw [List.max?_eq_some_iff, hmem]
    exact and_congr Iff.rfl (forall_congr' fun d' => imp_congr hmem Iff.rfl)
  have hrows {d : Int} (hd : d ∈ dates) :
      (s.usage.filter fun u => u.handle = handle ∧ u.extractTs ∈ dates).filter
          (fun u => u.extractTs = d) =
        s.usage.filter fun u => u.handle = handle ∧ u.extractTs = d := by
    rw [List.filter_filter]
    refine List.filter_congr fun u _ => ?_
    rw [← Bool.decide_and]
    refine decide_eq_decide.2 ⟨fun h => ⟨h.2.1, h.1⟩, fun h => ⟨h.2, h.1, ?_⟩⟩
    rw [h.2]
    exact hd
  unfold countersAt
  simp only
  cases hmax : ((s.usage.filter fun u => u.handle = handle ∧ u.extractTs ∈ dates).map
      (·.extractTs)).max? with
  | none =>
    simp only [reduceCtorEq, false_iff]
    rintro ⟨d, hd, -⟩
    rw [hgreatest.2 hd] at hmax
    exact absurd hmax (by simp)
  | some latest =>
    have hlatest := hgreatest.1 hmax
    simp only
    rw [hrows hlatest.1.1]
    constructor
    · intro hc
      split at hc
      · next row hrow => exact ⟨latest, hlatest, row, hrow, Option.some.inj hc⟩
      · exact absurd hc (by simp)
    · rintro ⟨d, hd, row, hrow, rfl⟩
      rw [hgreatest.2 hd, Option.some.injEq] at hmax
      rw [← hmax, hrow]

/-- The counters of a statement that the read answers up to a limit. -/
def priorAt (s : Store) (pipeline source handle : String) (limit : Int) : Option Counters :=
  s.countersAt handle ((s.reportedDates pipeline source handle).filter fun d => d < limit)

/-- The limit is only looked at where there is something to compare it with. -/
theorem priorCounters_eq (handles : List String) (before : Instant) :
    s.priorCounters pipeline source handles before =
      if handles = [] ∨ ∀ a ∈ s.attribution, ¬ (a.pipeline = pipeline ∧ a.source = source) then
        .ok []
      else (stamp before).map fun limit => handles.eraseDups.filterMap fun handle =>
        (s.priorAt pipeline source handle limit).map (handle, ·) := by
  have hown : s.attribution.filter (fun a => a.pipeline = pipeline ∧ a.source = source) = [] ↔
      ∀ a ∈ s.attribution, ¬ (a.pipeline = pipeline ∧ a.source = source) := by
    simp only [List.filter_eq_nil_iff, decide_eq_true_eq]
  simp only [← hown]
  unfold priorCounters
  cases handles with
  | nil => simp
  | cons handle rest =>
    cases s.attribution.filter fun a => a.pipeline = pipeline ∧ a.source = source with
    | nil => simp
    | cons a own =>
      rw [if_neg (by simp)]
      cases stamp before <;> rfl

/-- For each handle that is asked for, the read looks at the dates before the limit. -/
theorem lookup_priorCounters (s : Store) (pipeline source : String) (handles : List String)
    {before : Instant} (held : isHoldable before = true) :
    ∃ m, s.priorCounters pipeline source handles before = .ok m ∧
      ∀ handle, m.lookup handle =
        if handle ∈ handles then s.priorAt pipeline source handle before.toMicros else none := by
  rw [priorCounters_eq]
  split_ifs with hempty
  · refine ⟨[], rfl, fun handle => ?_⟩
    split_ifs with hmem
    · have hnone : s.reportedDates pipeline source handle = [] := by
        rcases hempty with rfl | hempty
        · exact absurd hmem (by simp)
        · refine List.eq_nil_iff_forall_not_mem.2 fun d hd => ?_
          exact hempty _ (mem_reportedDates.1 hd).2 ⟨rfl, rfl⟩
      rw [priorAt, hnone]
      simp [countersAt]
    · rfl
  · refine ⟨_, map_eq_ok.2 ⟨_, stamp_eq_ok.2 ⟨held, rfl⟩, rfl⟩, fun handle => ?_⟩
    simp only [lookup_filterMap, List.mem_eraseDups]

end Store

namespace History

/-- The records of a statement that all batches of a run wrote. -/
def reports (h : History) (k : RunKey) (handle : String) : List UsageRecord :=
  Store.reportsIn (h.batchesOf k) handle

/-- A source itself reported a statement in the succeeded run of a date. -/
def Reported (h : History) (pipeline source handle : String) (d : Int) : Prop :=
  h.store.Succeeded (pipeline, d) ∧
    ∃ b ∈ h.batchesOf (pipeline, d), b.source = source ∧ ∃ r ∈ b.rows.statements, r.handle = handle

instance (h : History) (pipeline source handle : String) (d : Int) :
    Decidable (h.Reported pipeline source handle d) :=
  inferInstanceAs (Decidable (_ ∧ _))

/-- Counters of the latest report of a source before a limit, which no other report of that run
leaves in doubt. -/
def LatestReport (h : History) (pipeline source handle : String) (limit : Int) (c : Counters) :
    Prop :=
  ∃ d, IsGreatest {d | d < limit ∧ h.Reported pipeline source handle d} d ∧
    ∃ r, h.reports (pipeline, d) handle = [r] ∧ r.counters = c

variable {h : History} {pipeline source handle : String} {d : Int}

theorem mem_reportedDates_iff (hc : h.Consistent) :
    d ∈ h.store.reportedDates pipeline source handle ↔ h.Reported pipeline source handle d := by
  rw [Store.mem_reportedDates, hc.logged.attribution, Reported]
  refine and_congr Iff.rfl ?_
  simp only [List.mem_flatMap, BatchWrite.attributions, List.mem_map, AttributionRow.mk.injEq,
    batchesOf, List.mem_filter, decide_eq_true_eq, Run.key, Prod.mk.injEq]
  constructor
  · rintro ⟨b, hb, r, hr, hpipeline, hdate, hsource, hhandle⟩
    exact ⟨b, ⟨hb, hpipeline, hdate⟩, hsource, r, hr, hhandle⟩
  · rintro ⟨b, ⟨hb, hpipeline, hdate⟩, hsource, r, hr, hhandle⟩
    exact ⟨b, hb, r, hr, hpipeline, hdate, hsource, hhandle⟩

/-- The rows of a statement at the date of a run are its reports in that run. -/
theorem filter_usage_eq (hc : h.Consistent)
    (hrun : ∃ l ∈ h.store.ledger, l.key = (pipeline, d)) :
    h.store.usage.filter (fun u => u.handle = handle ∧ u.extractTs = d) =
      (h.reports (pipeline, d) handle).map UsageRecord.toRow := by
  have hrows := hc.filter_usage (fun t => t = d) handle
  simp only [decide_eq_true_eq] at hrows
  rw [hrows, hc.filter_written_date hrun, reports]

theorem Reported.exists_usage (hreported : h.Reported pipeline source handle d)
    (hc : h.Consistent) : ∃ u ∈ h.store.usage, u.handle = handle ∧ u.extractTs = d := by
  obtain ⟨-, b, hb, -, r, hr, hhandle⟩ := hreported
  obtain ⟨hb, hkey⟩ := List.mem_filter.1 hb
  refine ⟨r.toRow, ?_, hhandle, ?_⟩
  · rw [hc.logged.usage]
    exact List.mem_flatMap.2 ⟨b, hb, List.mem_map_of_mem hr⟩
  · rw [hc.extractTs_toRow hb hr]
    exact congrArg Prod.snd (of_decide_eq_true hkey)

/-- The read at a limit, told by what was committed. -/
theorem priorAt_eq_some_iff (hc : h.Consistent) {limit : Int} {c : Counters} :
    h.store.priorAt pipeline source handle limit = some c ↔
      h.LatestReport pipeline source handle limit c := by
  have hset : {d | d ∈ (h.store.reportedDates pipeline source handle).filter (fun d => d < limit) ∧
      ∃ u ∈ h.store.usage, u.handle = handle ∧ u.extractTs = d} =
      {d | d < limit ∧ h.Reported pipeline source handle d} := by
    ext d
    simp only [Set.mem_ofPred_eq, List.mem_filter, decide_eq_true_eq, mem_reportedDates_iff hc]
    constructor
    · rintro ⟨⟨hreported, hlt⟩, -⟩
      exact ⟨hlt, hreported⟩
    · rintro ⟨hlt, hreported⟩
      exact ⟨⟨hreported, hlt⟩, hreported.exists_usage hc⟩
  rw [Store.priorAt, Store.countersAt_eq_some, hset]
  refine exists_congr fun d => and_congr_right fun hd => ?_
  obtain ⟨⟨l, hl, hkey, -⟩, -⟩ := hd.1.2
  rw [filter_usage_eq hc ⟨l, hl, hkey⟩]
  constructor
  · rintro ⟨row, hrow, hcounters⟩
    obtain ⟨r, hr, rfl⟩ := List.map_eq_singleton_iff.1 hrow
    exact ⟨r, hr, hcounters⟩
  · rintro ⟨r, hr, hcounters⟩
    exact ⟨r.toRow, by rw [hr, List.map_singleton], hcounters⟩

/-- Where a report is the only one of its run, it is that of the source. -/
theorem LatestReport.by_source {limit : Int} {c : Counters}
    (hlatest : h.LatestReport pipeline source handle limit c) :
    ∃ b ∈ h.written, b.run.pipeline = pipeline ∧ b.source = source ∧
      h.store.Succeeded b.run.key ∧
        ∃ r ∈ b.rows.statements, r.handle = handle ∧ r.counters = c := by
  obtain ⟨d, ⟨⟨-, hrow, b, hb, hsource, r, hr, hhandle⟩, -⟩, only, honly, hc⟩ := hlatest
  have hreport : r ∈ h.reports (pipeline, d) handle :=
    List.mem_flatMap.2 ⟨b, hb, List.mem_filter.2 ⟨hr, decide_eq_true hhandle⟩⟩
  rw [honly, List.mem_singleton] at hreport
  subst hreport
  obtain ⟨hb, hkey⟩ := List.mem_filter.1 hb
  rw [← of_decide_eq_true hkey] at hrow
  exact ⟨b, hb, congrArg Prod.fst (of_decide_eq_true hkey), hsource, hrow, r, hr, hhandle, hc⟩

/-- Up to a limit that a column holds, the read answers for each handle that is asked for what the
source itself last reported in a succeeded run. No limit makes it answer anything else. -/
theorem priorCounters_iff (constraints : Constraints) (calls : List Call)
    (hcalls : ∀ c ∈ calls, c.Timely ∧ c.ByLoad) (pipeline source : String) (handles : List String)
    (before : Instant) :
    let h := after constraints calls
    (Store.isHoldable before = true →
      ∃ m, h.store.priorCounters pipeline source handles before = .ok m ∧
        ∀ handle c, m.lookup handle = some c ↔
          handle ∈ handles ∧ h.LatestReport pipeline source handle before.toMicros c) ∧
      ∀ m, h.store.priorCounters pipeline source handles before = .ok m →
        ∀ handle c, m.lookup handle = some c →
          ∃ b ∈ h.written, b.run.pipeline = pipeline ∧ b.source = source ∧
            h.store.Succeeded b.run.key ∧ ∃ r ∈ b.rows.statements, r.handle = handle ∧
              r.counters = c := by
  intro h
  have hconsistent : h.Consistent := consistent_after constraints hcalls
  have hanswer : Store.isHoldable before = true →
      ∃ m, h.store.priorCounters pipeline source handles before = .ok m ∧
        ∀ handle c, m.lookup handle = some c ↔
          handle ∈ handles ∧ h.LatestReport pipeline source handle before.toMicros c := by
    intro held
    obtain ⟨m, hm, hlookup⟩ := h.store.lookup_priorCounters pipeline source handles held
    refine ⟨m, hm, fun handle c => ?_⟩
    rw [hlookup]
    split_ifs with hmem
    · rw [priorAt_eq_some_iff hconsistent]
      exact ⟨fun hlatest => ⟨hmem, hlatest⟩, fun hlatest => hlatest.2⟩
    · exact ⟨fun hnone => absurd hnone (by simp), fun hlatest => absurd hlatest.1 hmem⟩
  refine ⟨hanswer, fun m hm handle c hc => ?_⟩
  by_cases held : Store.isHoldable before = true
  · obtain ⟨m', hm', hiff⟩ := hanswer held
    obtain rfl : m = m' := Except.ok.inj (hm.symm.trans hm')
    exact ((hiff handle c).1 hc).2.by_source
  · rw [Store.priorCounters_eq] at hm
    split_ifs at hm with hempty
    · obtain rfl : [] = m := Except.ok.inj hm
      exact absurd hc (by simp)
    · obtain ⟨limit, hlimit, -⟩ := map_eq_ok.1 hm
      exact absurd (Store.stamp_eq_ok.1 hlimit).1 held

/-- A run that reports one statement and then succeeds. -/
def reportingRun (date : Instant) (counters : Counters) : List Call :=
  let run : Run := ⟨"nightly", date, "1.0"⟩
  [.openRun ⟨run.pipeline, run.version, "test:1", date, ⟨0, 0⟩⟩,
    .transition run .pending .running none date,
    .load 100 (fun _ => false) "prod" ⟨.usage [⟨"A", ⟨0, 0⟩, ⟨0, 0⟩, counters, date⟩], 0⟩ run date,
    .transition run .running .succeeded none date]

theorem whole_reportingRun {date : Instant} (fits : date.fitsNanos = true) (counters : Counters) :
    ∀ c ∈ reportingRun date counters, c.Timely ∧ c.Whole := by
  simp [reportingRun, Call.Timely, Call.Whole, fits]

def oneReport : List Call := reportingRun ⟨1714521600, 0⟩ ⟨10, 20, 30, 40⟩

theorem timely_oneReport : ∀ c ∈ oneReport, c.Timely ∧ c.ByLoad := by
  intro c hc
  have hwhole := whole_reportingRun (by decide) ⟨10, 20, 30, 40⟩ c hc
  exact ⟨hwhole.1, hwhole.2.byLoad⟩

theorem latestReport_oneReport {limit : Int} (hlimit : 1714521600000000 < limit) :
    (after {} oneReport).LatestReport "nightly" "prod" "A" limit ⟨10, 20, 30, 40⟩ := by
  have hkeys : (after {} oneReport).store.ledger.map LedgerRow.key =
      [("nightly", 1714521600000000)] := by decide +kernel
  refine ⟨1714521600000000, ⟨⟨hlimit, by decide +kernel⟩, ?_⟩,
    ⟨"A", ⟨0, 0⟩, ⟨0, 0⟩, ⟨10, 20, 30, 40⟩, ⟨1714521600, 0⟩⟩, by decide +kernel, rfl⟩
  rintro d ⟨-, ⟨l, hl, hkey, -⟩, -⟩
  have hmem := List.mem_map_of_mem (f := LedgerRow.key) hl
  rw [hkeys, hkey, List.mem_singleton, Prod.mk.injEq] at hmem
  rw [hmem.2]

theorem priorCounters_iff_oneReport :
    ∃ m, (after {} oneReport).store.priorCounters "nightly" "prod" ["A"] ⟨1714525200, 0⟩ = .ok m ∧
      m.lookup "A" = some ⟨10, 20, 30, 40⟩ := by
  obtain ⟨m, hm, hiff⟩ := (priorCounters_iff {} oneReport timely_oneReport "nightly" "prod" ["A"]
    ⟨1714525200, 0⟩).1 (by decide +kernel)
  exact ⟨m, hm, (hiff _ _).2 ⟨by simp, latestReport_oneReport (by decide)⟩⟩

/-- In the year 10000 the read is refused, though there is a report to answer with. -/
theorem priorCounters_year_10000 :
    let before : Instant := ⟨253402304399, 0⟩
    (∀ c ∈ oneReport, c.Timely ∧ c.ByLoad) ∧ before.nanos % 1000 = 0 ∧
      (after {} oneReport).LatestReport "nightly" "prod" "A" before.toMicros ⟨10, 20, 30, 40⟩ ∧
      ¬ ∃ m, (after {} oneReport).store.priorCounters "nightly" "prod" ["A"] before = .ok m := by
  refine ⟨timely_oneReport, rfl, latestReport_oneReport (by decide), ?_⟩
  rintro ⟨m, hm⟩
  rw [Store.priorCounters_eq, if_neg (by decide +kernel), map_eq_ok] at hm
  obtain ⟨limit, hlimit, -⟩ := hm
  exact absurd (Store.stamp_eq_ok.1 hlimit).1 (by decide +kernel)

end History

end FleetProfile
