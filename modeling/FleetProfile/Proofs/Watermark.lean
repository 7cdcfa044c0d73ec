import FleetProfile.Proofs.PriorCounters

/-! How far a source was loaded: the latest date at which a succeeded run of the pipeline committed
a batch of it. It only moves forward, and it stays behind every run that is not over. -/
namespace FleetProfile
open Store (BatchWrite)
open Time (Instant)

namespace History

/-- The dates of the succeeded runs of a pipeline that committed a batch of a table for a source. -/
def loadDates (h : History) (pipeline source : String) (table : Table) : Set Int :=
  {d | h.store.Succeeded (pipeline, d) ∧
    ∃ b ∈ h.batchesOf (pipeline, d), b.source = source ∧ b.rows.table = table}

variable {c : Call} {h h' : History} {pipeline source : String} {table : Table}

/-! ### What the read answers -/

/-- The audit shows the batches that were committed. -/
theorem Logged.exists_audit_iff (hlogged : h.Logged) {d : Int} :
    (∃ a ∈ h.store.audit, a.pipeline = pipeline ∧ a.date = d ∧ a.source = source ∧
        a.table = table) ↔
      ∃ b ∈ h.batchesOf (pipeline, d), b.source = source ∧ b.rows.table = table := by
  constructor
  · rintro ⟨a, ha, rfl, rfl, rfl, rfl⟩
    have hrow : a.untimed ∈ h.store.audit.map AuditRow.untimed := List.mem_map_of_mem ha
    rw [hlogged.audit] at hrow
    obtain ⟨b, hb, hrow⟩ := List.mem_map.1 hrow
    have hpipeline : b.run.pipeline = a.pipeline := congrArg AuditRow.pipeline hrow
    have hdate : b.run.date.toMicros = a.date := congrArg AuditRow.date hrow
    exact ⟨b, List.mem_filter.2 ⟨hb, decide_eq_true (Prod.ext hpipeline hdate)⟩,
      congrArg AuditRow.source hrow, congrArg AuditRow.table hrow⟩
  · rintro ⟨b, hb, rfl, rfl⟩
    obtain ⟨hb, hkey⟩ := List.mem_filter.1 hb
    have hkey' := of_decide_eq_true hkey
    have hrow : Store.auditRow b b.run.date.toMicros 0 ∈ h.store.audit.map AuditRow.untimed :=
      hlogged.audit ▸ List.mem_map_of_mem hb
    obtain ⟨a, ha, hrow⟩ := List.mem_map.1 hrow
    refine ⟨a, ha, ?_, ?_, congrArg AuditRow.source hrow, congrArg AuditRow.table hrow⟩
    · exact (congrArg AuditRow.pipeline hrow).trans (congrArg Prod.fst hkey')
    · exact (congrArg AuditRow.date hrow).trans (congrArg Prod.snd hkey')

/-- The dates that the read takes the latest of. -/
theorem Logged.mem_filterMap_audit (hlogged : h.Logged) {d : Int} :
    (d ∈ h.store.audit.filterMap fun b =>
      if b.pipeline = pipeline ∧ b.source = source ∧ b.table = table ∧
        0 < Store.countDate (h.store.succeeded pipeline) b.date then some b.date else none) ↔
      d ∈ h.loadDates pipeline source table := by
  simp only [List.mem_filterMap, Option.ite_none_right_eq_some, Option.some.injEq,
    Store.countDate_pos, Store.exists_succeeded_iff, loadDates, Set.mem_ofPred_eq,
    ← hlogged.exists_audit_iff]
  constructor
  · rintro ⟨a, ha, ⟨hpipeline, hsource, htable, hsucceeded⟩, rfl⟩
    exact ⟨hsucceeded, a, ha, hpipeline, rfl, hsource, htable⟩
  · rintro ⟨hsucceeded, a, ha, hpipeline, rfl, hsource, htable⟩
    exact ⟨a, ha, ⟨hpipeline, hsource, htable, hsucceeded⟩, rfl⟩

theorem Logged.latestSourceLoad_eq_some_iff (hlogged : h.Logged) {w : Instant} :
    h.store.latestSourceLoad pipeline source table = some w ↔
      ∃ d, IsGreatest (h.loadDates pipeline source table) d ∧ .ofMicros d = w := by
  unfold Store.latestSourceLoad
  simp only [Option.map_eq_some_iff, List.max?_eq_some_iff, hlogged.mem_filterMap_audit]
  rfl

theorem Logged.latestSourceLoad_eq_none_iff (hlogged : h.Logged) :
    h.store.latestSourceLoad pipeline source table = none ↔
      h.loadDates pipeline source table = ∅ := by
  unfold Store.latestSourceLoad
  simp only [Option.map_eq_none_iff, List.max?_eq_none_iff, List.eq_nil_iff_forall_not_mem,
    hlogged.mem_filterMap_audit, Set.eq_empty_iff_forall_notMem]

/-! ### What a call does to it -/

/-- A run that came to a good end stays one that did. -/
theorem Step.succeeded (hstep : Step c h h') {k : RunKey} (hk : h.store.Succeeded k) :
    h'.store.Succeeded k := by
  obtain ⟨l, hl, hkey, hstatus⟩ := hk
  obtain ⟨i, hi⟩ := List.mem_iff_getElem?.1 hl
  have ended : ¬ l.Active := LedgerRow.Ended.not_active (.inl hstatus)
  exact ⟨l, List.mem_of_getElem? (hstep.getElem?_of_not_active hi ended), hkey, hstatus⟩

/-- No call takes a date away. -/
theorem Step.loadDates_subset (hstep : Step c h h') :
    h.loadDates pipeline source table ⊆ h'.loadDates pipeline source table := by
  rintro d ⟨hsucceeded, b, hb, hbatch⟩
  obtain ⟨hb, hkey⟩ := List.mem_filter.1 hb
  exact ⟨hstep.succeeded hsucceeded, b, List.mem_filter.2 ⟨hstep.mem_written hb, hkey⟩, hbatch⟩

theorem loadDates_subset_after (constraints : Constraints) (before more : List Call) :
    (after constraints before).loadDates pipeline source table ⊆
      (after constraints (before ++ more)).loadDates pipeline source table :=
  after_append_induction (Q := fun _ => True)
    (P := fun h => (after constraints before).loadDates pipeline source table ⊆
      h.loadDates pipeline source table) before (Set.Subset.refl _)
    (fun _ _ _ _ hstep hsubset => hsubset.trans hstep.loadDates_subset) (fun _ _ => trivial)

/-! ### Where it stands -/

/-- Only the row of a succeeded run has such a date. -/
theorem Dated.status_of_loadDate (hdated : h.Dated) {d : Int}
    (hd : d ∈ h.loadDates pipeline source table) {l : LedgerRow} (hl : l ∈ h.store.ledger)
    (hdate : l.date = d) : l.status = .known .succeeded := by
  obtain ⟨⟨l', hl', hkey, hstatus⟩, -⟩ := hd
  have hsame : l'.date = l.date := (congrArg Prod.snd hkey).trans hdate.symm
  rwa [← List.inj_on_of_nodup_map hdated.nodup_date hl' hl hsame]

/-- A run of the pipeline that is not over is later than all such dates. -/
theorem Consistent.loadDate_lt (hc : h.Consistent) {d : Int}
    (hd : d ∈ h.loadDates pipeline source table) {l : LedgerRow} (hl : l ∈ h.store.ledger)
    (hpipeline : l.pipeline = pipeline) (active : l.Active) : d < l.date := by
  have hne : l.date ≠ d := by
    intro hdate
    have hstatus := hc.dated.status_of_loadDate hd hl hdate
    exact LedgerRow.Ended.not_active (.inl hstatus) active
  obtain ⟨⟨l', hl', hkey, -⟩, -⟩ := hd
  simp only [LedgerRow.key, Prod.mk.injEq] at hkey
  by_contra hlt
  refine not_active_of_lt hc.dated hc.orderly hl hl' (hpipeline.trans hkey.1.symm) ?_ active
  omega

/-- How far a source was loaded is unknown until a succeeded run of the pipeline committed its
statements; then it is the date of the latest such run, of no run that failed or is not over, and
before those of the pipeline that are not over. It never goes back. -/
theorem watermark_moves_forward (constraints : Constraints) (calls : List Call)
    (hcalls : ∀ c ∈ calls, c.Timely ∧ c.ByLoad) (pipeline source : String) :
    let h := after constraints calls
    let watermark := h.store.latestSourceLoad pipeline source .usage
    (watermark = none ↔ ∀ b ∈ h.written, b.run.pipeline = pipeline → b.source = source →
      b.rows.table = .usage → ¬ h.store.Succeeded b.run.key) ∧
    (∀ w, watermark = some w →
      (∃ d, IsGreatest (h.loadDates pipeline source .usage) d ∧ .ofMicros d = w) ∧
      (∀ l ∈ h.store.ledger, .ofMicros l.date = w → l.status = .known .succeeded) ∧
      ∀ l ∈ h.store.ledger, l.pipeline = pipeline →
        l.status = .known .pending ∨ l.status = .known .running → w < .ofMicros l.date) ∧
    ∀ before more, calls = before ++ more →
      ∀ w, (after constraints before).store.latestSourceLoad pipeline source .usage = some w →
        ∃ w', watermark = some w' ∧ w ≤ w' := by
  intro h watermark
  have hc : h.Consistent := consistent_after constraints hcalls
  refine ⟨?_, fun w hw => ?_, ?_⟩
  · rw [hc.logged.latestSourceLoad_eq_none_iff, Set.eq_empty_iff_forall_notMem]
    constructor
    · rintro hnone b hb rfl hsource htable hsucceeded
      refine hnone b.run.date.toMicros ⟨hsucceeded, b, ?_, hsource, htable⟩
      exact List.mem_filter.2 ⟨hb, decide_eq_true rfl⟩
    · rintro hnone d ⟨hsucceeded, b, hb, hsource, htable⟩
      obtain ⟨hb, hkey⟩ := List.mem_filter.1 hb
      have hkey' := of_decide_eq_true hkey
      exact hnone b hb (congrArg Prod.fst hkey') hsource htable (hkey' ▸ hsucceeded)
  · obtain ⟨d, hd, rfl⟩ := hc.logged.latestSourceLoad_eq_some_iff.1 hw
    refine ⟨⟨d, hd, rfl⟩, fun l hl hdate => ?_, fun l hl hpipeline hstatus => ?_⟩
    · have hmicros := congrArg Instant.toMicros hdate
      rw [Instant.toMicros_ofMicros, Instant.toMicros_ofMicros] at hmicros
      exact hc.dated.status_of_loadDate hd.1 hl hmicros
    · have active : l.Active := LedgerRow.active_iff.2 hstatus
      exact Instant.ofMicros_lt_ofMicros.2 (hc.loadDate_lt hd.1 hl hpipeline active)
  · rintro before more rfl w hw
    have hbefore := consistent_after constraints fun c hc => hcalls c (List.mem_append_left more hc)
    obtain ⟨d, hd, rfl⟩ := hbefore.logged.latestSourceLoad_eq_some_iff.1 hw
    have hlater : d ∈ h.loadDates pipeline source .usage :=
      loadDates_subset_after _ before more hd.1
    cases hwatermark : watermark with
    | none =>
      rw [hc.logged.latestSourceLoad_eq_none_iff.1 hwatermark] at hlater
      exact absurd hlater (Set.notMem_empty d)
    | some w' =>
      obtain ⟨d', hd', rfl⟩ := hc.logged.latestSourceLoad_eq_some_iff.1 hwatermark
      refine ⟨_, rfl, fun hlt => ?_⟩
      exact absurd (Instant.ofMicros_lt_ofMicros.1 hlt) (Int.not_lt.2 (hd'.2 hlater))

/-- A run that was opened by a clock that had gone back an hour is still after the run before. -/
theorem watermark_moves_forward_back :
    let next : Run := ⟨"nightly", ⟨1714521600, 1000⟩, "1.0"⟩
    let calls := oneReport ++
      [.openRun ⟨"nightly", "1.0", "test:1", ⟨1714518000, 0⟩, ⟨0, 0⟩⟩,
        .transition next .pending .running none ⟨1714518000, 0⟩]
    let s := (after {} calls).store
    ∃ w, s.latestSourceLoad "nightly" "prod" .usage = some w ∧ w < next.date := by
  intro next calls s
  have hcalls : ∀ c ∈ calls, c.Timely ∧ c.ByLoad := by
    refine List.forall_mem_append.2 ⟨timely_oneReport, ?_⟩
    simp [Call.Timely, Call.ByLoad, Instant.fitsNanos, Instant.toNanos]
  have hw : s.latestSourceLoad "nightly" "prod" .usage = some ⟨1714521600, 0⟩ := by decide +kernel
  have hrow : (⟨"nightly", 1714521600000001, .known .running, "test:1", 1714518000000000, none,
      none⟩ : LedgerRow) ∈ s.ledger := by decide +kernel
  obtain ⟨-, hbehind, -⟩ := watermark_moves_forward {} calls hcalls "nightly" "prod"
  exact ⟨_, hw, (hbehind _ hw).2.2 _ hrow rfl (.inr rfl)⟩

end History

end FleetProfile
