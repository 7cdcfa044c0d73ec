import FleetProfile.Proofs.CommittedRows
import FleetProfile.Proofs.PriorCounters

/-! Pipelines that share a store do not see each other. Databases and statements carry no pipeline;
they are kept apart by their dates, each of which is that of one run. -/
namespace FleetProfile
open Store (BatchWrite)
open Time (Instant)

namespace Store

variable {s s' s'' : Store} {pipeline : String}

/-- Two stores hold the same rows of a pipeline. Rows without a pipeline are those at the dates of
its succeeded runs. -/
structure Agrees (pipeline : String) (s s' : Store) : Prop where
  metadata : (s'.metadata.filter fun m => m.pipeline = pipeline) =
    s.metadata.filter fun m => m.pipeline = pipeline
  ledger : (s'.ledger.filter fun l => l.pipeline = pipeline) =
    s.ledger.filter fun l => l.pipeline = pipeline
  audit : (s'.audit.filter fun b => b.pipeline = pipeline) =
    s.audit.filter fun b => b.pipeline = pipeline
  attribution : (s'.attribution.filter fun a => a.pipeline = pipeline) =
    s.attribution.filter fun a => a.pipeline = pipeline
  inventory : (s'.inventory.filter fun r => s.Succeeded (pipeline, r.extractTs)) =
    s.inventory.filter fun r => s.Succeeded (pipeline, r.extractTs)
  usage : (s'.usage.filter fun u => s.Succeeded (pipeline, u.extractTs)) =
    s.usage.filter fun u => s.Succeeded (pipeline, u.extractTs)

/-- The reads of a pipeline answer the same in two stores. -/
structure SameReads (pipeline : String) (s s' : Store) : Prop where
  runs : s'.runs (some pipeline) = s.runs (some pipeline)
  run : ∀ r : Run, r.pipeline = pipeline → s'.run r = s.run r
  activeRuns : s'.activeRuns pipeline = s.activeRuns pipeline
  latestRun : ∀ status, s'.latestRun pipeline status = s.latestRun pipeline status
  loadAudit : ∀ r : Run, r.pipeline = pipeline → s'.loadAudit r = s.loadAudit r
  latestSourceLoad : ∀ source table,
    s'.latestSourceLoad pipeline source table = s.latestSourceLoad pipeline source table
  priorCounters : ∀ source handles before,
    s'.priorCounters pipeline source handles before = s.priorCounters pipeline source handles before
  committedInventory : s'.committedInventory pipeline = s.committedInventory pipeline
  committedCounts : s'.committedCounts pipeline = s.committedCounts pipeline

/-! ### Reads of stores that agree -/

namespace Agrees

theorem refl (pipeline : String) (s : Store) : s.Agrees pipeline s :=
  ⟨rfl, rfl, rfl, rfl, rfl, rfl⟩

theorem succeeded_eq (h : s.Agrees pipeline s') : s'.succeeded pipeline = s.succeeded pipeline := by
  unfold succeeded
  apply filter_eq_filter_of_imp h.ledger
  intro l hl
  exact decide_eq_true (of_decide_eq_true hl).1

theorem succeeded_iff (h : s.Agrees pipeline s') (d : Int) :
    s'.Succeeded (pipeline, d) ↔ s.Succeeded (pipeline, d) := by
  rw [← exists_succeeded_iff, ← exists_succeeded_iff, h.succeeded_eq]

theorem trans (h : s.Agrees pipeline s') (h' : s'.Agrees pipeline s'') :
    s.Agrees pipeline s'' := by
  have hinventory := h'.inventory
  have husage := h'.usage
  simp only [h.succeeded_iff] at hinventory husage
  exact ⟨h'.metadata.trans h.metadata, h'.ledger.trans h.ledger, h'.audit.trans h.audit,
    h'.attribution.trans h.attribution, hinventory.trans h.inventory, husage.trans h.usage⟩

/-- Rows of the pipeline have the same rows of the runs beside them. -/
theorem joinMetadata_eq (h : s.Agrees pipeline s') {rows : List LedgerRow}
    (hrows : ∀ l ∈ rows, l.pipeline = pipeline) : s'.joinMetadata rows = s.joinMetadata rows := by
  unfold joinMetadata
  apply List.flatMap_congr
  intro l hl
  have hsame : (s'.metadata.filter fun m => m.pipeline = l.pipeline ∧ m.date = l.date) =
      s.metadata.filter fun m => m.pipeline = l.pipeline ∧ m.date = l.date := by
    apply filter_eq_filter_of_imp h.metadata
    intro m hm
    exact decide_eq_true ((of_decide_eq_true hm).1.trans (hrows l hl))
  rw [hsame]

/-- A choice among the rows of the pipeline gives the same rows, with the same runs beside them. -/
theorem joinMetadata_filter (h : s.Agrees pipeline s') {p : LedgerRow → Bool}
    (hp : ∀ l, p l = true → l.pipeline = pipeline) :
    s'.joinMetadata (s'.ledger.filter p) = s.joinMetadata (s.ledger.filter p) := by
  have hrows : s'.ledger.filter p = s.ledger.filter p := by
    apply filter_eq_filter_of_imp h.ledger
    intro l hl
    exact decide_eq_true (hp l hl)
  rw [hrows]
  apply h.joinMetadata_eq
  intro l hl
  exact hp l (List.mem_filter.1 hl).2

theorem entries_filter (h : s.Agrees pipeline s') {p : LedgerRow → Bool}
    (hp : ∀ l, p l = true → l.pipeline = pipeline) :
    s'.entries (s'.ledger.filter p) = s.entries (s.ledger.filter p) := by
  unfold entries
  rw [h.joinMetadata_filter hp]

theorem runs_eq (h : s.Agrees pipeline s') : s'.runs (some pipeline) = s.runs (some pipeline) := by
  unfold runs
  apply h.entries_filter
  intro l hl
  exact of_decide_eq_true hl

theorem activeRuns_eq (h : s.Agrees pipeline s') :
    s'.activeRuns pipeline = s.activeRuns pipeline := by
  unfold activeRuns
  apply h.entries_filter
  intro l hl
  exact (of_decide_eq_true hl).1

theorem latestRun_eq (h : s.Agrees pipeline s') (status : Option RunStatus) :
    s'.latestRun pipeline status = s.latestRun pipeline status := by
  have hjoin := h.joinMetadata_filter
    (p := fun l => l.pipeline = pipeline ∧ status.all fun t => l.status = .known t)
    fun l hl => (of_decide_eq_true hl).1
  unfold latestRun
  simp only [hjoin]

theorem run_eq (h : s.Agrees pipeline s') {r : Run} (hr : r.pipeline = pipeline) :
    s'.run r = s.run r := by
  subst hr
  unfold Store.run
  rw [h.ledger]
  cases hrows : rowsAt r.date LedgerRow.date (s.ledger.filter fun l => l.pipeline = r.pipeline) with
  | error e => rfl
  | ok rows =>
    have hjoin : s'.joinMetadata rows = s.joinMetadata rows := by
      apply h.joinMetadata_eq
      intro l hl
      rw [(rowsAt_eq_ok hrows).1] at hl
      exact of_decide_eq_true (List.mem_filter.1 (List.mem_of_mem_filter hl)).2
    simp only [bind, Except.bind, hjoin]

theorem loadAudit_eq (h : s.Agrees pipeline s') {r : Run} (hr : r.pipeline = pipeline) :
    s'.loadAudit r = s.loadAudit r := by
  subst hr
  unfold loadAudit
  rw [h.audit]

theorem latestSourceLoad_eq (h : s.Agrees pipeline s') (source : String) (table : Table) :
    s'.latestSourceLoad pipeline source table = s.latestSourceLoad pipeline source table := by
  unfold latestSourceLoad
  simp only [h.succeeded_eq]
  congr 2
  apply filterMap_eq_filterMap_of_filter h.audit
  intro b hb
  rw [if_neg]
  intro hit
  exact of_decide_eq_false hb hit.1

theorem reportedDates_eq (h : s.Agrees pipeline s') (source handle : String) :
    s'.reportedDates pipeline source handle = s.reportedDates pipeline source handle := by
  unfold reportedDates
  rw [h.succeeded_eq]
  apply filterMap_eq_filterMap_of_filter h.attribution
  intro a ha
  rw [if_neg]
  intro hit
  exact of_decide_eq_false ha hit.1

/-- Statements are only looked up at the dates of succeeded runs of the pipeline. -/
theorem priorAt_eq (h : s.Agrees pipeline s') (source handle : String) (limit : Int) :
    s'.priorAt pipeline source handle limit = s.priorAt pipeline source handle limit := by
  unfold priorAt
  rw [h.reportedDates_eq]
  have hrows : (s'.usage.filter fun u => u.handle = handle ∧ u.extractTs ∈
        (s.reportedDates pipeline source handle).filter fun d => d < limit) =
      s.usage.filter fun u => u.handle = handle ∧ u.extractTs ∈
        (s.reportedDates pipeline source handle).filter fun d => d < limit := by
    apply filter_eq_filter_of_imp h.usage
    intro u hu
    have hdate := List.mem_of_mem_filter (of_decide_eq_true hu).2
    exact decide_eq_true (mem_reportedDates.1 hdate).1
  unfold countersAt
  rw [hrows]

theorem priorCounters_eq (h : s.Agrees pipeline s') (source : String) (handles : List String)
    (before : Instant) : s'.priorCounters pipeline source handles before =
      s.priorCounters pipeline source handles before := by
  have hown : (s'.attribution.filter fun a => a.pipeline = pipeline ∧ a.source = source) =
      s.attribution.filter fun a => a.pipeline = pipeline ∧ a.source = source := by
    apply filter_eq_filter_of_imp h.attribution
    intro a ha
    exact decide_eq_true (of_decide_eq_true ha).1
  have hprior : ∀ handle limit, s'.countersAt handle
        ((s'.reportedDates pipeline source handle).filter fun d => d < limit) =
      s.countersAt handle ((s.reportedDates pipeline source handle).filter fun d => d < limit) :=
    fun handle limit => h.priorAt_eq source handle limit
  unfold priorCounters
  simp only [hown, hprior]

/-- A join of rows without a pipeline with the succeeded runs of one finds rows at their dates. -/
theorem flatMap_succeeded {α : Type} (h : s.Agrees pipeline s') (dateOf : α → Int)
    {rows rows' : List α}
    (hrows : (rows'.filter fun r => s.Succeeded (pipeline, dateOf r)) =
      rows.filter fun r => s.Succeeded (pipeline, dateOf r)) :
    (rows'.flatMap fun r => List.replicate (countDate (s'.succeeded pipeline) (dateOf r)) r) =
      rows.flatMap fun r => List.replicate (countDate (s.succeeded pipeline) (dateOf r)) r := by
  have hnone : ∀ r : α, decide (s.Succeeded (pipeline, dateOf r)) = false →
      List.replicate (countDate (s.succeeded pipeline) (dateOf r)) r = [] := by
    intro r hr
    rw [List.replicate_eq_nil_iff]
    by_contra hcount
    apply of_decide_eq_false hr
    exact exists_succeeded_iff.1 (countDate_pos.1 (Nat.pos_of_ne_zero hcount))
  rw [h.succeeded_eq, ← flatMap_filter_eq fun r _ => hnone r, hrows,
    flatMap_filter_eq fun r _ => hnone r]

theorem committedInventory_eq (h : s.Agrees pipeline s') :
    s'.committedInventory pipeline = s.committedInventory pipeline := by
  unfold committedInventory
  rw [h.flatMap_succeeded InventoryRow.extractTs h.inventory]

theorem committedCounts_eq (h : s.Agrees pipeline s') :
    s'.committedCounts pipeline = s.committedCounts pipeline := by
  unfold committedCounts
  simp only [foldr_countDate]
  rw [h.flatMap_succeeded InventoryRow.extractTs h.inventory,
    h.flatMap_succeeded UsageRow.extractTs h.usage, h.succeeded_eq]

theorem sameReads (h : s.Agrees pipeline s') : s.SameReads pipeline s' where
  runs := h.runs_eq
  run := fun _ hr => h.run_eq hr
  activeRuns := h.activeRuns_eq
  latestRun := h.latestRun_eq
  loadAudit := fun _ hr => h.loadAudit_eq hr
  latestSourceLoad := h.latestSourceLoad_eq
  priorCounters := h.priorCounters_eq
  committedInventory := h.committedInventory_eq
  committedCounts := h.committedCounts_eq

/-! ### Writes for other pipelines -/

/-- Rows of other pipelines may be changed in place. -/
theorem revised {f : LedgerRow → LedgerRow} (hf : ∀ l, LedgerRow.Change l (f l))
    (hsame : ∀ l, l.pipeline = pipeline → f l = l) :
    s.Agrees pipeline { s with ledger := s.ledger.map f } := by
  have hpipeline : ∀ l, (f l).pipeline = l.pipeline :=
    fun l => congrArg Prod.fst (hf l).key_eq
  refine ⟨rfl, ?_, rfl, rfl, rfl, rfl⟩
  simp only [List.filter_map, Function.comp_def, hpipeline]
  apply (List.map_congr_left _).trans (List.map_id _)
  intro l hl
  exact hsame l (of_decide_eq_true (List.mem_filter.1 hl).2)

/-- An update of the rows of a run of another pipeline. -/
theorem updated {key : RunKey} (other : key.1 ≠ pipeline) {accepts : RunStatus → Bool}
    {change : LedgerRow → LedgerRow}
    (h : ∀ l, l.status.holds accepts = true → LedgerRow.Change l (change l)) :
    s.Agrees pipeline { s with ledger := s.ledger.map (LedgerRow.updated key accepts change) } := by
  apply revised (LedgerRow.change_updated key h)
  intro l hl
  unfold LedgerRow.updated
  rw [if_neg]
  rintro ⟨hkey, -⟩
  exact other ((congrArg Prod.fst hkey).symm.trans hl)

theorem failStale {q : String} (other : q ≠ pipeline) {staleBefore now : Instant}
    {swept : List RunEntry} (h : s.failStale q staleBefore now = .ok (swept, s')) :
    s.Agrees pipeline s' := by
  obtain ⟨f, hf, rfl⟩ := failStale_eq_ok h
  apply revised fun l => (hf l).change
  intro l hl
  rcases hf l with hsame | ⟨hq, -⟩
  · exact hsame
  · exact absurd (hq.symm.trans hl) other

theorem recorded {r : Run} (other : r.pipeline ≠ pipeline) (runner : String) :
    s.Agrees pipeline (s.recorded r runner) := by
  refine ⟨?_, ?_, rfl, rfl, rfl, rfl⟩
  · exact filter_concat_of_neg (decide_eq_false other)
  · exact filter_concat_of_neg (decide_eq_false other)

/-- Rows of a date at which the pipeline has no succeeded run are none of its own. -/
theorem filter_succeeded_eq_nil {α β : Type} (toRow : α → β) (dateOf : β → Int)
    {records : List α} {d : Int} (hrows : ∀ r ∈ records, dateOf (toRow r) = d)
    (hdate : ¬ s.Succeeded (pipeline, d)) :
    ((records.map toRow).filter fun row => s.Succeeded (pipeline, dateOf row)) = [] := by
  apply List.filter_eq_nil_iff.2
  intro row hrow hsucceeded
  obtain ⟨r, hr, rfl⟩ := List.mem_map.1 hrow
  rw [hrows r hr] at hsucceeded
  exact hdate (of_decide_eq_true hsucceeded)

/-- A batch of a run of another pipeline has the date of no succeeded run of the pipeline. -/
theorem withBatch {b : BatchWrite} (screened : b.Screened) (other : b.run.pipeline ≠ pipeline)
    (hdate : ¬ s.Succeeded (pipeline, b.run.date.toMicros)) (t : Int) :
    s.Agrees pipeline (s.withBatch b t) := by
  have hledger : s.Agrees pipeline { s with
      ledger := s.ledger.map (LedgerRow.updated b.run.key (· = .running) (beat t)) } := by
    apply updated other
    intro l hst
    exact .beat t (LedgerRow.active_of_running hst)
  have hattributed : b.attributions.filter (fun a => a.pipeline = pipeline) = [] := by
    apply List.filter_eq_nil_iff.2
    intro a ha hpipeline
    obtain ⟨r, -, rfl⟩ := List.mem_map.1 ha
    exact other (of_decide_eq_true hpipeline)
  have hdatabases := filter_succeeded_eq_nil InventoryRecord.toRow InventoryRow.extractTs
    (fun _ hr => screened.extractTs_database hr) hdate
  have hstatements := filter_succeeded_eq_nil UsageRecord.toRow UsageRow.extractTs
    (fun _ hr => screened.extractTs_statement hr) hdate
  constructor
  case metadata => rfl
  case ledger => exact hledger.ledger
  case audit => exact filter_concat_of_neg (decide_eq_false other)
  case attribution => rw [Store.withBatch, List.filter_append, hattributed, List.append_nil]
  case inventory => rw [Store.withBatch, List.filter_append, hdatabases, List.append_nil]
  case usage => rw [Store.withBatch, List.filter_append, hstatements, List.append_nil]

end Agrees

end Store

/-! ### Calls on other pipelines -/

/-- The pipeline that a call is on. A commit is on the one of the load that was prepared. -/
def Call.pipeline? (h : History) : Call → Option String
  | openRun q => some q.pipeline
  | transition run .. => some run.pipeline
  | heartbeat run _ => some run.pipeline
  | failStale pipeline .. => some pipeline
  | insertBatch b _ => some b.run.pipeline
  | prepare _ _ _ _ run => some run.pipeline
  | commit i _ => h.prepared[i]?.map (·.run.pipeline)
  | load _ _ _ _ run _ => some run.pipeline

namespace History

variable {h : History} {c : Call} {pipeline : String}

theorem agrees_revise {answer : Except Error Store}
    (hanswer : ∀ s, answer = .ok s → h.store.Agrees pipeline s) :
    h.store.Agrees pipeline (h.revise answer).store := by
  cases answer with
  | error e => exact .refl pipeline h.store
  | ok s => exact hanswer s rfl

/-- As its date is that of its run, a batch of another pipeline is not seen. -/
theorem Consistent.agrees_withBatch (hc : h.Consistent) {b : BatchWrite} (screened : b.Screened)
    (other : b.run.pipeline ≠ pipeline)
    (running : ∃ l ∈ h.store.ledger, l.key = b.run.key ∧ l.status = .known .running) (t : Int) :
    h.store.Agrees pipeline (h.store.withBatch b t) := by
  apply Store.Agrees.withBatch screened other
  rintro ⟨l, hl, hkey, -⟩
  obtain ⟨l', hl', hkey', -⟩ := running
  have hsame : b.run.key = (pipeline, b.run.date.toMicros) :=
    hc.dated.eq_of_date ⟨l', hl', hkey'⟩ ⟨l, hl, hkey⟩ rfl
  exact other (congrArg Prod.fst hsame)

theorem Consistent.agrees_write (hc : h.Consistent) {b : BatchWrite} (screened : b.Screened)
    (other : b.run.pipeline ≠ pipeline) (now : Instant) :
    h.store.Agrees pipeline (h.write b now).store := by
  unfold write
  cases hinsert : h.store.insertBatch b now with
  | error e => exact .refl pipeline h.store
  | ok answer =>
    obtain ⟨n, s⟩ := answer
    obtain ⟨-, running, rfl⟩ := Store.insertBatch_eq_ok hinsert
    exact hc.agrees_withBatch screened other running _

/-- A call on another pipeline leaves all rows of a pipeline as they are. -/
theorem Consistent.agrees_step (hc : h.Consistent) (byLoad : c.ByLoad)
    (other : c.pipeline? h ≠ some pipeline) : h.store.Agrees pipeline (h.step c).store := by
  cases c with
  | openRun q =>
    have hother : q.pipeline ≠ pipeline := fun heq => other (congrArg some heq)
    cases hopen : h.store.openRun q with
    | error e =>
      simp only [step, hopen]
      exact .refl pipeline h.store
    | ok answer =>
      obtain ⟨o, s⟩ := answer
      obtain ⟨swept, s₁, r, hsweep, -, hr, -, -, rfl⟩ := Store.openRun_eq_ok hopen
      simp only [step, hopen]
      have hnew : r.pipeline ≠ pipeline := hr ▸ hother
      exact (Store.Agrees.failStale hother hsweep).trans (Store.Agrees.recorded hnew _)
  | transition run source target error now =>
    have hother : run.pipeline ≠ pipeline := fun heq => other (congrArg some heq)
    apply agrees_revise
    intro s hmove
    obtain ⟨legal, -, -, -, rfl⟩ := Store.transition_eq_ok hmove
    apply Store.Agrees.updated hother
    intro l hst
    exact .move error _ (StatusCell.holds_eq.1 hst) legal
  | heartbeat run now =>
    have hother : run.pipeline ≠ pipeline := fun heq => other (congrArg some heq)
    apply agrees_revise
    intro s hbeat
    obtain ⟨-, -, -, rfl⟩ := Store.heartbeat_eq_ok hbeat
    apply Store.Agrees.updated hother
    intro l hst
    exact .beat _ hst
  | failStale q staleBefore now =>
    have hother : q ≠ pipeline := fun heq => other (congrArg some heq)
    apply agrees_revise
    intro s hs
    obtain ⟨⟨swept, s₁⟩, hsweep, rfl⟩ := map_eq_ok.1 hs
    exact .failStale hother hsweep
  | insertBatch b now => exact absurd byLoad not_false
  | prepare chunkSize cancelled source batch run =>
    simp only [step]
    split <;> exact .refl pipeline h.store
  | commit i now =>
    cases hb : h.prepared[i]? with
    | none =>
      simp only [step, hb]
      exact .refl pipeline h.store
    | some b =>
      have hother : b.run.pipeline ≠ pipeline := by
        intro heq
        apply other
        rw [Call.pipeline?, hb, Option.map_some, heq]
      simp only [step, hb]
      exact hc.agrees_write (hc.checked.prepared b (List.mem_of_getElem? hb)) hother now
  | load chunkSize cancelled source batch run now =>
    have hother : run.pipeline ≠ pipeline := fun heq => other (congrArg some heq)
    cases hload : Load.load h.store chunkSize cancelled source batch run now with
    | error e =>
      simp only [step, hload]
      exact .refl pipeline h.store
    | ok answer =>
      obtain ⟨report, s⟩ := answer
      obtain ⟨p, n, hprepare, hinsert⟩ := Load.load_eq_ok hload
      obtain ⟨-, running, rfl⟩ := Store.insertBatch_eq_ok hinsert
      obtain ⟨hrun, -, screened⟩ := Load.prepare_eq_ok hprepare
      simp only [step, hload, hprepare]
      exact hc.agrees_withBatch screened (hrun ▸ hother) running _

/-- None of some calls is on a pipeline, as they come one after the other. -/
def Avoids (pipeline : String) : History → List Call → Prop
  | _, [] => True
  | h, c :: calls => c.pipeline? h ≠ some pipeline ∧ Avoids pipeline (h.step c) calls

theorem Consistent.agrees_foldl (hc : h.Consistent) {calls : List Call}
    (hcalls : ∀ c ∈ calls, c.Timely ∧ c.ByLoad) (avoids : Avoids pipeline h calls) :
    h.store.Agrees pipeline (calls.foldl step h).store := by
  induction calls generalizing h with
  | nil => exact .refl pipeline h.store
  | cons c calls ih =>
    obtain ⟨hfirst, hrest⟩ := List.forall_mem_cons.1 hcalls
    obtain ⟨other, avoids⟩ := avoids
    have hc' : (h.step c).Consistent := consistent_step hfirst.1 hfirst.2 (step_cases c h) hc
    exact (hc.agrees_step hfirst.2 other).trans (ih hc' hrest avoids)

/-- However many calls on other pipelines come, the reads of a pipeline answer what they did. -/
theorem sameReads_append (constraints : Constraints) (calls more : List Call)
    (hcalls : ∀ c ∈ calls ++ more, c.Timely ∧ c.ByLoad)
    (avoids : Avoids pipeline (after constraints calls) more) :
    (after constraints calls).store.SameReads pipeline
      (after constraints (calls ++ more)).store := by
  obtain ⟨hbefore, hmore⟩ := List.forall_mem_append.1 hcalls
  rw [after_append]
  exact ((consistent_after constraints hbefore).agrees_foldl hmore avoids).sameReads

/-- A call on another pipeline, refused or not, leaves all reads of a pipeline as they were. -/
theorem sameReads_step (constraints : Constraints) (calls : List Call)
    (hcalls : ∀ c ∈ calls, c.Timely ∧ c.ByLoad) (pipeline : String) (c : Call)
    (byLoad : c.ByLoad) (other : c.pipeline? (after constraints calls) ≠ some pipeline) :
    (after constraints calls).store.SameReads pipeline
      (after constraints (calls ++ [c])).store := by
  have hc : (after constraints calls).Consistent := consistent_after constraints hcalls
  rw [after_append]
  exact (hc.agrees_step byLoad other).sameReads

/-- Another pipeline loads the statement of the same source, and its load is committed. -/
theorem sameReads_step_weekly :
    let date : Instant := ⟨1714532400, 0⟩
    let run : Run := ⟨"weekly", date, "1.0"⟩
    let calls : List Call := threeRuns ++
      [.openRun ⟨run.pipeline, run.version, "test:1", date, ⟨0, 0⟩⟩,
        .transition run .pending .running none date]
    let c : Call := .load 2 (fun _ => false) "east"
      ⟨.usage [⟨"A", ⟨0, 0⟩, ⟨0, 0⟩, ⟨9, 9, 9, 9⟩, date⟩], 0⟩ run date
    let s := (after {} calls).store
    let s' := (after {} (calls ++ [c])).store
    s'.usage.length = s.usage.length + 1 ∧ s.SameReads "nightly" s' := by
  intro date run calls c s s'
  have hcalls : ∀ c ∈ calls, c.Timely ∧ c.ByLoad := by
    simp [calls, run, date, threeRuns, loadingRun, Call.Timely, Call.ByLoad, Instant.fitsNanos,
      Instant.toNanos]
  have hother : c.pipeline? (after {} calls) ≠ some "nightly" := by simp [c, run, Call.pipeline?]
  exact ⟨by decide +kernel, sameReads_step {} calls hcalls "nightly" c trivial hother⟩

end History

end FleetProfile
