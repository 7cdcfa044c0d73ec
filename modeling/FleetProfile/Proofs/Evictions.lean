import FleetProfile.Proofs.Lifetimes
import FleetProfile.Proofs.Settled

/-! Evictions are seen twice: a load counts the statements whose counters went down, and a reader
splits histories where they did. With one usage load a run the two agree on succeeded runs. -/
namespace FleetProfile
open Store (BatchWrite reportsIn)
open Lifetime (split breaks)

namespace Store

/-- Some run of a date has come to a good end. -/
def SucceededAt (s : Store) (d : Int) : Prop :=
  ∃ l ∈ s.ledger, l.date = d ∧ l.status = .known .succeeded

instance (s : Store) (d : Int) : Decidable (s.SucceededAt d) :=
  inferInstanceAs (Decidable (∃ l ∈ s.ledger, l.date = d ∧ l.status = .known .succeeded))

/-- The regressions in the audit of the usage batches of succeeded runs. -/
def auditedRegressions (s : Store) : Nat :=
  ((s.audit.filter fun a => a.table = .usage ∧ s.Succeeded (a.pipeline, a.date)).map
    (·.regressions)).sum

/-- The statements with a snapshot in a succeeded run. -/
def succeededHandles (s : Store) : Finset String :=
  ((s.usage.filter fun u => s.SucceededAt u.extractTs).map (·.handle)).toFinset

end Store

namespace History

/-- All runs are of one pipeline, all statements from one source, and a run loads them once. -/
structure Single (h : History) (pipeline source : String) : Prop where
  pipeline_eq : ∀ r ∈ h.opened, r.pipeline = pipeline
  source_eq : ∀ b ∈ h.written, b.rows.table = .usage → b.source = source
  once : ((h.written.filter fun b => b.rows.table = .usage).map fun b => b.run.key).Nodup

/-- The usage batches of succeeded runs, in the order in which they were committed. -/
def succeededLoads (h : History) : List BatchWrite :=
  h.written.filter fun b => b.rows.table = .usage ∧ h.store.Succeeded b.run.key

variable {h : History} {pipeline source : String}

theorem mem_succeededLoads {b : BatchWrite} :
    b ∈ h.succeededLoads ↔
      b ∈ h.written ∧ b.rows.table = .usage ∧ h.store.Succeeded b.run.key := by
  simp only [succeededLoads, List.mem_filter, decide_eq_true_eq]

theorem auditedRegressions_eq (hlogged : h.Logged) :
    h.store.auditedRegressions = (h.succeededLoads.map (·.regressions)).sum := by
  have hrows := congrArg (fun rows => ((rows.filter fun a : AuditRow => a.table = .usage ∧
    h.store.Succeeded (a.pipeline, a.date)).map (·.regressions)).sum) hlogged.audit
  simp only [List.filter_map, List.map_map] at hrows
  exact hrows

/-! ### The history of a statement -/

theorem succeededAt_iff (hc : h.Consistent) {b : BatchWrite} (hb : b ∈ h.written) :
    h.store.SucceededAt b.run.date.toMicros ↔ h.store.Succeeded b.run.key := by
  constructor
  · rintro ⟨l, hl, hdate, hstatus⟩
    refine ⟨l, hl, hc.dated.eq_of_date ⟨l, hl, rfl⟩ (hc.logged.runs b hb) hdate, hstatus⟩
  · rintro ⟨l, hl, hkey, hstatus⟩
    exact ⟨l, hl, congrArg Prod.snd hkey, hstatus⟩

theorem countDate_succeeded (hdated : h.Dated) (d : Int) :
    Store.countDate (h.store.ledger.filter fun l => l.status = .known .succeeded) d =
      if h.store.SucceededAt d then 1 else 0 := by
  rw [hdated.countDate_filter]
  refine if_congr ?_ rfl rfl
  simp only [Store.SucceededAt, List.mem_filter, decide_eq_true_eq, and_assoc]
  exact exists_congr fun l => and_congr_right fun _ => and_comm

theorem filter_usage_succeeded (hc : h.Consistent) (handle : String) :
    (h.store.usage.filter fun u => u.handle = handle ∧ h.store.SucceededAt u.extractTs) =
      (reportsIn h.succeededLoads handle).map UsageRecord.toRow := by
  have hrows := hc.filter_usage (fun d => h.store.SucceededAt d) handle
  simp only [decide_eq_true_eq] at hrows
  have hloads : h.succeededLoads =
      (h.written.filter fun b => h.store.SucceededAt b.run.date.toMicros).filter
        fun b => b.rows.table = .usage := by
    rw [List.filter_filter, succeededLoads]
    refine List.filter_congr fun b hb => ?_
    rw [← Bool.decide_and, decide_eq_decide, succeededAt_iff hc hb]
  rw [hrows, hloads]
  refine congrArg _ (flatMap_filter_eq fun b _ htable => ?_).symm
  rw [TableRows.statements_eq_nil (of_decide_eq_false htable), List.filter_nil]

/-- Where all runs are of one pipeline, so is what was written in them. -/
theorem Consistent.pipeline_of_written (hc : h.Consistent)
    (single : ∀ r ∈ h.opened, r.pipeline = pipeline) {b : BatchWrite} (hb : b ∈ h.written) :
    b.run.pipeline = pipeline := by
  have hkey := List.mem_map.2 (hc.logged.runs b hb)
  rw [hc.dated.ledger] at hkey
  obtain ⟨r, hr, hkey⟩ := List.mem_map.1 hkey
  exact (congrArg Prod.fst hkey).symm.trans (single r hr)

theorem Single.pipeline_of_written (hs : h.Single pipeline source) (hc : h.Consistent)
    {b : BatchWrite} (hb : b ∈ h.written) : b.run.pipeline = pipeline :=
  hc.pipeline_of_written hs.pipeline_eq hb

/-- Loads of a single pipeline come in the order of dates, one for a date. -/
theorem Single.increasing (hs : h.Single pipeline source) (hc : h.Consistent) :
    h.succeededLoads.Pairwise fun a b => a.run.date.toMicros < b.run.date.toMicros := by
  have hloads : h.succeededLoads = (h.written.filter fun b => b.rows.table = .usage).filter
      fun b => h.store.Succeeded b.run.key := by
    rw [List.filter_filter, succeededLoads]
    refine List.filter_congr fun b _ => ?_
    rw [← Bool.decide_and, decide_eq_decide, and_comm]
  have honce := List.pairwise_map.1 hs.once
  have hordered := hc.ordered.sublist (List.filter_sublist (p := fun b => b.rows.table = .usage))
  rw [hloads]
  refine ((honce.and hordered).sublist List.filter_sublist).imp_of_mem fun {a b} ha hb hab => ?_
  have hpipeline : a.run.pipeline = b.run.pipeline :=
    (hs.pipeline_of_written hc (List.mem_of_mem_filter (List.mem_of_mem_filter ha))).trans
      (hs.pipeline_of_written hc (List.mem_of_mem_filter (List.mem_of_mem_filter hb))).symm
  have hle := hab.2 hpipeline
  have hne : a.run.date.toMicros ≠ b.run.date.toMicros :=
    fun hdate => hab.1 (Prod.ext hpipeline hdate)
  omega

/-- Where loads come in the order of dates, a history is what they reported, one after the other. -/
theorem Consistent.usageHistory_true (hc : h.Consistent)
    (ordered : h.succeededLoads.Pairwise fun a b => a.run.date.toMicros ≤ b.run.date.toMicros)
    (handle : String) :
    h.store.usageHistory handle true =
      (reportsIn h.succeededLoads handle).map fun r => Store.usageRecord r.toRow := by
  have hrows : ((h.store.usage.filter fun u => u.handle = handle).filter fun u =>
      h.store.SucceededAt u.extractTs) =
      (reportsIn h.succeededLoads handle).map UsageRecord.toRow := by
    rw [← filter_usage_succeeded hc, List.filter_filter]
    refine List.filter_congr fun u _ => ?_
    rw [← Bool.decide_and, decide_eq_decide, and_comm]
  have hsorted : (((reportsIn h.succeededLoads handle).map UsageRecord.toRow).map
      UsageRow.extractTs).Pairwise (· ≤ ·) := by
    have hdate {b : BatchWrite} (hb : b ∈ h.succeededLoads) {r : UsageRecord}
        (hr : r ∈ b.rows.statements.filter fun r => r.handle = handle) :
        r.toRow.extractTs = b.run.date.toMicros :=
      hc.extractTs_toRow (mem_succeededLoads.1 hb).1 (List.mem_of_mem_filter hr)
    rw [List.map_map, List.pairwise_map, reportsIn, List.pairwise_flatMap]
    refine ⟨fun b hb => List.pairwise_of_forall_mem_list fun r hr r' hr' => ?_,
      ordered.imp_of_mem fun {a b} ha hb hle r hr r' hr' => ?_⟩
    · rw [Function.comp_apply, Function.comp_apply, hdate hb hr, hdate hb hr']
    · rw [Function.comp_apply, Function.comp_apply, hdate ha hr, hdate hb hr']
      exact hle
  unfold Store.usageHistory
  simp only [if_true]
  rw [flatMap_replicate fun u _ => countDate_succeeded hc.dated u.extractTs, hrows,
    Store.orderedBy_eq_self hsorted, List.map_map]
  rfl

/-- Then its lifetimes are those of the reports. -/
theorem Consistent.length_lifetimes (hc : h.Consistent)
    (ordered : h.succeededLoads.Pairwise fun a b => a.run.date.toMicros ≤ b.run.date.toMicros)
    (handle : String) :
    (h.store.lifetimes handle).length = (split (reportsIn h.succeededLoads handle)).length := by
  unfold Store.lifetimes
  rw [hc.usageHistory_true ordered]
  exact Lifetime.length_split_map (f := fun r => Store.usageRecord r.toRow) (fun _ _ => rfl) _

/-! ### The report before -/

/-- Reports of a statement that there are end with those of some batch. -/
theorem exists_last_reports {bs : List BatchWrite} {handle : String}
    (hne : reportsIn bs handle ≠ []) :
    ∃ before b after, bs = before ++ b :: after ∧ (∃ r ∈ b.rows.statements, r.handle = handle) ∧
      ∀ b' ∈ after, ∀ r ∈ b'.rows.statements, r.handle ≠ handle := by
  induction bs using List.reverseRecOn with
  | nil => exact absurd rfl hne
  | append_singleton bs b ih =>
    by_cases hb : ∃ r ∈ b.rows.statements, r.handle = handle
    · exact ⟨bs, b, [], rfl, hb, by simp⟩
    · have hnone : reportsIn [b] handle = [] := by
        rw [reportsIn, List.flatMap_singleton, List.filter_eq_nil_iff]
        exact fun r hr hhandle => hb ⟨r, hr, of_decide_eq_true hhandle⟩
      rw [Store.reportsIn_append, hnone, List.append_nil] at hne
      obtain ⟨before, b', after, rfl, hb', hafter⟩ := ih hne
      refine ⟨before, b', after ++ [b], by simp, hb', fun x hx r hr hhandle => ?_⟩
      rcases List.mem_append.1 hx with hx | hx
      · exact hafter x hx r hr hhandle
      · obtain rfl := List.mem_singleton.1 hx
        exact hb ⟨r, hr, hhandle⟩

/-- What a run reported of a statement is what its only usage load did. -/
theorem Single.reports_eq (hs : h.Single pipeline source) {b : BatchWrite} (hb : b ∈ h.written)
    (husage : b.rows.table = .usage) (handle : String) :
    h.reports b.run.key handle = b.rows.statements.filter fun r => r.handle = handle := by
  have hone : ((h.batchesOf b.run.key).filter fun b => b.rows.table = .usage) = [b] := by
    have hmem : b ∈ h.written.filter fun b => b.rows.table = .usage :=
      List.mem_filter.2 ⟨hb, decide_eq_true husage⟩
    rw [← filter_key_eq_singleton hs.once hmem, batchesOf, List.filter_filter, List.filter_filter]
    exact List.filter_congr fun b' _ => Bool.and_comm _ _
  have hother : ∀ b' ∈ h.batchesOf b.run.key, decide (b'.rows.table = .usage) = false →
      (b'.rows.statements.filter fun r => r.handle = handle) = [] := by
    intro b' _ htable
    rw [TableRows.statements_eq_nil (of_decide_eq_false htable), List.filter_nil]
  rw [reports, reportsIn, ← flatMap_filter_eq hother, hone, List.flatMap_singleton]

theorem Single.key_eq (hs : h.Single pipeline source) (hc : h.Consistent) {b : BatchWrite}
    (hb : b ∈ h.written) : b.run.key = (pipeline, b.run.date.toMicros) :=
  Prod.ext (hs.pipeline_of_written hc hb) rfl

theorem Single.reported_iff (hs : h.Single pipeline source) (hc : h.Consistent) {handle : String}
    {d : Int} : h.Reported pipeline source handle d ↔
      ∃ b ∈ h.succeededLoads, b.run.date.toMicros = d ∧
        ∃ r ∈ b.rows.statements, r.handle = handle := by
  constructor
  · rintro ⟨hsucceeded, b, hb, -, r, hr, hhandle⟩
    obtain ⟨hb, hkey⟩ := List.mem_filter.1 hb
    have hkey' := of_decide_eq_true hkey
    rw [← hkey'] at hsucceeded
    exact ⟨b, mem_succeededLoads.2 ⟨hb, TableRows.table_of_mem_statements hr, hsucceeded⟩,
      congrArg Prod.snd hkey', r, hr, hhandle⟩
  · rintro ⟨b, hb, rfl, r, hr, hhandle⟩
    obtain ⟨hb, husage, hsucceeded⟩ := mem_succeededLoads.1 hb
    have hkey := hs.key_eq hc hb
    refine ⟨hkey ▸ hsucceeded, b, ?_, hs.source_eq b hb husage, r, hr, hhandle⟩
    exact List.mem_filter.2 ⟨hb, decide_eq_true hkey⟩

/-- The reports of a statement end with that of the last batch that has one. -/
theorem getLast?_reportsIn {before after : List BatchWrite} {b : BatchWrite} {r : UsageRecord}
    (hnodup : (b.rows.statements.map (·.handle)).Nodup) (hr : r ∈ b.rows.statements)
    (hlast : ∀ b' ∈ after, ∀ r' ∈ b'.rows.statements, r'.handle ≠ r.handle) :
    (reportsIn (before ++ b :: after) r.handle).getLast? = some r := by
  have hafter : (after.flatMap fun b => b.rows.statements.filter fun x => x.handle = r.handle) =
      [] := by
    refine List.flatMap_eq_nil_iff.2 fun b' hb' => List.filter_eq_nil_iff.2 fun r' hr' heq => ?_
    exact hlast b' hb' r' hr' (of_decide_eq_true heq)
  rw [Store.reportsIn_append, reportsIn, reportsIn, List.flatMap_cons, hafter, List.append_nil,
    filter_key_eq_singleton hnodup hr, List.getLast?_concat]

/-- Of the succeeded loads, those before one are those of an earlier date. -/
theorem Single.reported_before_iff (hs : h.Single pipeline source) (hc : h.Consistent)
    {before after : List BatchWrite} {b : BatchWrite}
    (hloads : h.succeededLoads = before ++ b :: after) {handle : String} {d : Int} :
    d < b.run.date.toMicros ∧ h.Reported pipeline source handle d ↔
      ∃ x ∈ before, x.run.date.toMicros = d ∧ ∃ r ∈ x.rows.statements, r.handle = handle := by
  have hincreasing := hs.increasing hc
  rw [hloads, List.pairwise_append, List.pairwise_cons] at hincreasing
  obtain ⟨-, ⟨hlater, -⟩, hearlier⟩ := hincreasing
  rw [hs.reported_iff hc, hloads]
  constructor
  · rintro ⟨hlt, x, hx, rfl, hr⟩
    rcases List.mem_append.1 hx with hx | hx
    · exact ⟨x, hx, rfl, hr⟩
    · rcases List.mem_cons.1 hx with rfl | hx
      · exact absurd hlt (Int.lt_irrefl _)
      · exact absurd hlt (Int.lt_asymm (hlater x hx))
  · rintro ⟨x, hx, rfl, hr⟩
    exact ⟨hearlier x hx b List.mem_cons_self, x, List.mem_append_left _ hx, rfl, hr⟩

/-- What a load compares a statement with is its last report in the succeeded loads before. -/
theorem Single.priorAt_eq (hs : h.Single pipeline source) (hc : h.Consistent)
    {before after : List BatchWrite} {b : BatchWrite}
    (hloads : h.succeededLoads = before ++ b :: after) (handle : String) :
    h.store.priorAt pipeline source handle b.run.date.toMicros =
      (reportsIn before handle).getLast?.map (·.counters) := by
  ext c
  rw [priorAt_eq_some_iff hc, LatestReport]
  by_cases hnone : reportsIn before handle = []
  · rw [hnone]
    simp only [List.getLast?_nil, Option.map_none, reduceCtorEq, iff_false]
    rintro ⟨d, hd, -⟩
    obtain ⟨x, hx, -, r, hr, hhandle⟩ := (hs.reported_before_iff hc hloads).1 hd.1
    have hmem : r ∈ reportsIn before handle :=
      List.mem_flatMap.2 ⟨x, hx, List.mem_filter.2 ⟨hr, decide_eq_true hhandle⟩⟩
    rw [hnone] at hmem
    exact absurd hmem (by simp)
  · obtain ⟨first, x, last, rfl, ⟨r, hr, rfl⟩, hlast⟩ := exists_last_reports hnone
    obtain ⟨hx, husage, -⟩ : x ∈ h.written ∧ x.rows.table = .usage ∧ h.store.Succeeded x.run.key :=
      mem_succeededLoads.1 (hloads ▸ by simp)
    have hnodup := (hc.checked.written x hx).statements_nodup
    have hgreatest : IsGreatest {d | d < b.run.date.toMicros ∧
        h.Reported pipeline source r.handle d} x.run.date.toMicros := by
      refine ⟨(hs.reported_before_iff hc hloads).2 ⟨x, by simp, rfl, r, hr, rfl⟩, fun d hd => ?_⟩
      obtain ⟨y, hy, rfl, r', hr', hhandle⟩ := (hs.reported_before_iff hc hloads).1 hd
      have hfirst := hs.increasing hc
      rw [hloads, List.pairwise_append, List.pairwise_append] at hfirst
      rcases List.mem_append.1 hy with hy | hy
      · exact Int.le_of_lt (hfirst.1.2.2 y hy x List.mem_cons_self)
      · rcases List.mem_cons.1 hy with rfl | hy
        · exact Int.le_refl _
        · exact absurd hhandle (hlast y hy r' hr')
    have hreports : h.reports (pipeline, x.run.date.toMicros) r.handle = [r] := by
      rw [← hs.key_eq hc hx, hs.reports_eq hx husage, filter_key_eq_singleton hnodup hr]
    rw [getLast?_reportsIn hnodup hr hlast, Option.map_some, Option.some.injEq]
    constructor
    · rintro ⟨d, hd, r', hr', rfl⟩
      obtain rfl := hd.unique hgreatest
      rw [hreports, List.singleton_inj] at hr'
      rw [hr']
    · rintro rfl
      exact ⟨_, hgreatest, r, hreports, rfl⟩

/-! ### Both counts -/

theorem Single.regressions_eq (hs : h.Single pipeline source) (hc : h.Consistent)
    (hcounted : h.Counted) {before after : List BatchWrite} {b : BatchWrite}
    (hloads : h.succeededLoads = before ++ b :: after) :
    b.regressions = b.rows.statements.countP fun r => breaks (reportsIn before r.handle) r := by
  obtain ⟨hb, husage, -⟩ : b ∈ h.written ∧ b.rows.table = .usage ∧ h.store.Succeeded b.run.key :=
    mem_succeededLoads.1 (hloads ▸ by simp)
  have hcounts := hcounted.counts b hb
  rw [Store.countsRegressions_iff (hc.logged.held b hb), hs.pipeline_of_written hc hb,
    hs.source_eq b hb husage] at hcounts
  rw [hcounts]
  refine List.countP_congr fun r _ => ?_
  rw [hs.priorAt_eq hc hloads, breaks, Option.any_map]

theorem mem_succeededHandles (hc : h.Consistent) {handle : String} :
    handle ∈ h.store.succeededHandles ↔ reportsIn h.succeededLoads handle ≠ [] := by
  have hrows := filter_usage_succeeded hc handle
  rw [← not_iff_not, not_not, ← List.map_eq_nil_iff (f := UsageRecord.toRow), ← hrows,
    List.filter_eq_nil_iff]
  simp only [Store.succeededHandles, List.mem_toFinset, List.mem_map, List.mem_filter,
    decide_eq_true_eq, not_exists, not_and]
  exact ⟨fun h u hu hhandle hs => h u ⟨hu, hs⟩ hhandle, fun h u hu hhandle => h u hu.1 hhandle hu.2⟩

/-- With one usage load a run from one source, the regressions that loads counted are the evictions
that readers find. -/
theorem auditedRegressions_eq_sum_lifetimes (constraints : Constraints) (calls : List Call)
    (hcalls : ∀ c ∈ calls, c.Timely ∧ c.Whole) (pipeline source : String)
    (hs : (after constraints calls).Single pipeline source) :
    let s := (after constraints calls).store
    (s.auditedRegressions : Int) =
      ∑ handle ∈ s.succeededHandles, ((s.lifetimes handle).length - 1 : Int) := by
  intro s
  obtain ⟨hc, hcounted⟩ := counted_after constraints hcalls
  have hkeys : ∀ b ∈ (after constraints calls).succeededLoads, ∀ r ∈ b.rows.statements,
      r.handle ∈ s.succeededHandles := by
    intro b hb r hr
    refine (mem_succeededHandles hc).2 (List.ne_nil_of_mem (a := r) ?_)
    exact List.mem_flatMap.2 ⟨b, hb, List.mem_filter.2 ⟨hr, decide_eq_true rfl⟩⟩
  have hsum := Store.sum_length_split
    (fun b hb => (hc.checked.written b (mem_succeededLoads.1 hb).1).statements_nodup) hkeys
    (fun before b after hloads => hs.regressions_eq hc hcounted hloads)
  rw [auditedRegressions_eq hc.logged, ← hsum, Nat.cast_sum]
  refine Finset.sum_congr rfl fun handle hhandle => ?_
  have hpos := Lifetime.length_split_pos ((mem_succeededHandles hc).1 hhandle)
  rw [hc.length_lifetimes ((hs.increasing hc).imp Int.le_of_lt)]
  omega

/-- Of two runs the second reports less than the first, so that there is one eviction. -/
theorem auditedRegressions_eq_sum_lifetimes_evicted :
    let calls := reportingRun ⟨1714521600, 0⟩ ⟨10, 20, 30, 40⟩ ++
      reportingRun ⟨1714525200, 0⟩ ⟨3, 20, 30, 40⟩
    let s := (after {} calls).store
    ∑ handle ∈ s.succeededHandles, ((s.lifetimes handle).length - 1 : Int) = 1 := by
  intro calls s
  have hcalls : ∀ c ∈ calls, c.Timely ∧ c.Whole := fun c hc =>
    (List.mem_append.1 hc).elim (whole_reportingRun (by decide) _ c)
      (whole_reportingRun (by decide) _ c)
  have hs : (after {} calls).Single "nightly" "prod" :=
    ⟨by decide +kernel, by decide +kernel, by decide +kernel⟩
  have hone : s.auditedRegressions = 1 := by decide +kernel
  rw [← auditedRegressions_eq_sum_lifetimes {} calls hcalls "nightly" "prod" hs, hone]
  rfl

end History

end FleetProfile
