import FleetProfile.Proofs.WriteLog
import Mathlib.Algebra.BigOperators.Ring.Finset

/-! The audit accounts for every row. The records at the date of a run are as many as its rows of
the audit say, and each of its statements stands beside the source that reported it. -/
namespace FleetProfile
open Store (BatchWrite)

/-- The source and the run that a load names. -/
def Call.named? : Call → Option (String × Run)
  | prepare _ _ source _ run => some (source, run)
  | load _ _ source _ run _ => some (source, run)
  | _ => none

def AuditRow.key (a : AuditRow) : RunKey := (a.pipeline, a.date)

namespace Store

/-- The rows of a table that loads of runs with a property said they wrote. -/
def auditedRows (s : Store) (P : RunKey → Prop) [DecidablePred P] (table : Table) : Nat :=
  ((s.audit.filter fun a => P a.key ∧ a.table = table).map (·.written)).sum

/-- Who reported which statement in a run. -/
def attributedTo (s : Store) (k : RunKey) : List AttributionRow :=
  s.attribution.filter fun a => a.pipeline = k.1 ∧ a.date = k.2

end Store

namespace History

variable {h : History} {k : RunKey}

/-! ### Where batches come from -/

@[simp] theorem prepared_revise (h : History) (answer : Except Error Store) :
    (h.revise answer).prepared = h.prepared := by
  cases answer <;> rfl

@[simp] theorem written_revise (h : History) (answer : Except Error Store) :
    (h.revise answer).written = h.written := by
  cases answer <;> rfl

@[simp] theorem prepared_write (h : History) (b : BatchWrite) (now : Time.Instant) :
    (h.write b now).prepared = h.prepared := by
  unfold write
  split <;> rfl

theorem exists_written_write (h : History) (b : BatchWrite) (now : Time.Instant) :
    ∃ new, (h.write b now).written = h.written ++ new ∧ ∀ x ∈ new, x = b := by
  unfold write
  split
  · exact ⟨[b], rfl, fun _ => List.mem_singleton.1⟩
  · exact ⟨[], (List.append_nil _).symm, by simp⟩

/-- What comes into hand is what the call names. -/
theorem exists_prepared_step (c : Call) (h : History) :
    ∃ new, (h.step c).prepared = h.prepared ++ new ∧
      ∀ b ∈ new, c.named? = some (b.source, b.run) := by
  have hsame {h' : History} (hprepared : h'.prepared = h.prepared) :
      ∃ new, h'.prepared = h.prepared ++ new ∧ ∀ b ∈ new, c.named? = some (b.source, b.run) :=
    ⟨[], hprepared.trans (List.append_nil _).symm, by simp⟩
  cases c with
  | openRun q =>
    refine hsame ?_
    simp only [step]
    split <;> rfl
  | transition run source target error now => exact hsame (prepared_revise h _)
  | heartbeat run now => exact hsame (prepared_revise h _)
  | failStale pipeline staleBefore now => exact hsame (prepared_revise h _)
  | insertBatch b now => exact hsame (prepared_write h b now)
  | prepare chunkSize cancelled source batch run =>
    cases hprepare : Load.prepare h.store chunkSize cancelled source batch run with
    | error e => exact hsame (by simp only [step, hprepare])
    | ok p =>
      obtain ⟨hrun, hsource, -⟩ := Load.prepare_eq_ok hprepare
      refine ⟨[p.write], by simp only [step, hprepare], List.forall_mem_singleton.2 ?_⟩
      rw [Call.named?, hrun, hsource]
  | commit i now =>
    refine hsame ?_
    simp only [step]
    split
    · exact prepared_write h _ now
    · rfl
  | load chunkSize cancelled source batch run now =>
    refine hsame ?_
    simp only [step]
    split <;> rfl

/-- What is written is what the call names or what was in hand. -/
theorem exists_written_step {c : Call} (byLoad : c.ByLoad) (h : History) :
    ∃ new, (h.step c).written = h.written ++ new ∧
      ∀ b ∈ new, b ∈ h.prepared ∨ c.named? = some (b.source, b.run) := by
  have hsame {h' : History} (hwritten : h'.written = h.written) : ∃ new,
      h'.written = h.written ++ new ∧
        ∀ b ∈ new, b ∈ h.prepared ∨ c.named? = some (b.source, b.run) :=
    ⟨[], hwritten.trans (List.append_nil _).symm, by simp⟩
  cases c with
  | openRun q =>
    refine hsame ?_
    simp only [step]
    split <;> rfl
  | transition run source target error now => exact hsame (written_revise h _)
  | heartbeat run now => exact hsame (written_revise h _)
  | failStale pipeline staleBefore now => exact hsame (written_revise h _)
  | insertBatch b now => exact absurd byLoad id
  | prepare chunkSize cancelled source batch run =>
    refine hsame ?_
    simp only [step]
    split <;> rfl
  | commit i now =>
    cases hb : h.prepared[i]? with
    | none => exact hsame (by simp only [step, hb])
    | some b =>
      obtain ⟨new, hwritten, hnew⟩ := h.exists_written_write b now
      refine ⟨new, by simp only [step, hb, hwritten], fun x hx => .inl ?_⟩
      rw [hnew x hx]
      exact List.mem_of_getElem? hb
  | load chunkSize cancelled source batch run now =>
    cases hload : Load.load h.store chunkSize cancelled source batch run now with
    | error e => exact hsame (by simp only [step, hload])
    | ok answer =>
      obtain ⟨report, s⟩ := answer
      obtain ⟨p, n, hprepare, -⟩ := Load.load_eq_ok hload
      obtain ⟨hrun, hsource, -⟩ := Load.prepare_eq_ok hprepare
      refine ⟨[p.write], by simp only [step, hload, hprepare],
        List.forall_mem_singleton.2 (.inr ?_)⟩
      rw [Call.named?, hrun, hsource]

/-- Loads named the sources and runs of the batches that are in hand or written. -/
structure Named (h : History) (calls : List Call) : Prop where
  prepared : ∀ b ∈ h.prepared, ∃ c ∈ calls, c.named? = some (b.source, b.run)
  written : ∀ b ∈ h.written, ∃ c ∈ calls, c.named? = some (b.source, b.run)

variable {calls : List Call}

theorem named_step {c : Call} (hc : c ∈ calls) (byLoad : c.ByLoad) (hnamed : h.Named calls) :
    (h.step c).Named calls := by
  obtain ⟨inHand, hprepared, hinHand⟩ := exists_prepared_step c h
  obtain ⟨new, hwritten, hnew⟩ := exists_written_step byLoad h
  constructor
  · rw [hprepared]
    exact List.forall_mem_append.2 ⟨hnamed.prepared, fun b hb => ⟨c, hc, hinHand b hb⟩⟩
  · rw [hwritten]
    refine List.forall_mem_append.2 ⟨hnamed.written, fun b hb => ?_⟩
    rcases hnew b hb with hb | hb
    · exact hnamed.prepared b hb
    · exact ⟨c, hc, hb⟩

theorem named_after (constraints : Constraints) (hcalls : ∀ c ∈ calls, c.ByLoad) :
    (after constraints calls).Named calls := by
  refine List.foldlRecOn (motive := fun h => h.Named calls) calls step ?_ ?_
  · exact ⟨by simp [fresh], by simp [fresh]⟩
  · exact fun h hnamed c hc => named_step hc (hcalls c hc) hnamed

/-! ### The rows of runs -/

section

variable {P : RunKey → Prop} {q : Int → Prop} [DecidablePred P] [DecidablePred q]

/-- Where dates tell the runs with a property, they tell the databases of those runs. -/
theorem Logged.filter_inventory_eq (hlogged : h.Logged) (hchecked : h.Checked)
    (hq : ∀ b ∈ h.written, q b.run.date.toMicros ↔ P b.run.key) :
    (h.store.inventory.filter fun r => q r.extractTs) =
      (h.written.filter fun b => P b.run.key).flatMap fun b =>
        b.rows.databases.map InventoryRecord.toRow := by
  have hbatches : (h.written.filter fun b => q b.run.date.toMicros) =
      h.written.filter fun b => P b.run.key :=
    List.filter_congr fun b hb => decide_eq_decide.2 (hq b hb)
  rw [← hbatches]
  exact hlogged.filter_inventory_date hchecked fun d => q d

/-- Where dates tell the runs with a property, they tell the statements of those runs. -/
theorem Logged.filter_usage_eq (hlogged : h.Logged) (hchecked : h.Checked)
    (hq : ∀ b ∈ h.written, q b.run.date.toMicros ↔ P b.run.key) :
    (h.store.usage.filter fun u => q u.extractTs) =
      (h.written.filter fun b => P b.run.key).flatMap fun b =>
        b.rows.statements.map UsageRecord.toRow := by
  have hbatches : (h.written.filter fun b => q b.run.date.toMicros) =
      h.written.filter fun b => P b.run.key :=
    List.filter_congr fun b hb => decide_eq_decide.2 (hq b hb)
  rw [← hbatches]
  exact hlogged.filter_usage_date hchecked fun d => q d

/-- What the audit says of a table is what the batches of the table held. -/
theorem Logged.auditedRows_eq (hlogged : h.Logged) (table : Table) :
    h.store.auditedRows P table =
      (((h.written.filter fun b => P b.run.key).filter fun b => b.rows.table = table).map
        (·.rows.length)).sum := by
  have haudit := congrArg (fun rows => ((rows.filter fun a : AuditRow => P a.key ∧
    a.table = table).map (·.written)).sum) hlogged.audit
  simp only [List.filter_map, List.map_map] at haudit
  have hbatches : (h.written.filter fun b => P b.run.key).filter (fun b => b.rows.table = table) =
      h.written.filter fun b => P b.run.key ∧ b.rows.table = table := by
    rw [List.filter_filter]
    refine List.filter_congr fun b _ => ?_
    rw [← Bool.decide_and, decide_eq_decide, and_comm]
  rw [hbatches]
  exact haudit

/-- Batches of other tables hold no rows of a table. -/
theorem length_flatMap_rows {α : Type} {table : Table} {rowsOf : BatchWrite → List α}
    (hown : ∀ b, b.rows.table = table → (rowsOf b).length = b.rows.length)
    (hother : ∀ b, b.rows.table ≠ table → rowsOf b = []) (bs : List BatchWrite) :
    (bs.flatMap rowsOf).length =
      ((bs.filter fun b => b.rows.table = table).map (·.rows.length)).sum := by
  have hfilter : (bs.filter fun b => b.rows.table = table).flatMap rowsOf = bs.flatMap rowsOf :=
    flatMap_filter_eq fun b _ hne => hother b (of_decide_eq_false hne)
  rw [← hfilter, List.length_flatMap]
  refine congrArg List.sum (List.map_congr_left fun b hb => ?_)
  exact hown b (of_decide_eq_true (List.mem_filter.1 hb).2)

/-- Where dates tell the runs with a property, the audit counts the databases of those runs. -/
theorem Logged.length_inventory (hlogged : h.Logged) (hchecked : h.Checked)
    (hq : ∀ b ∈ h.written, q b.run.date.toMicros ↔ P b.run.key) :
    (h.store.inventory.filter fun r => q r.extractTs).length =
      h.store.auditedRows P .inventory := by
  rw [hlogged.filter_inventory_eq hchecked hq, hlogged.auditedRows_eq]
  apply length_flatMap_rows
  · intro b htable
    rw [List.length_map, TableRows.length_databases htable]
  · intro b htable
    rw [TableRows.databases_eq_nil htable, List.map_nil]

/-- Where dates tell the runs with a property, the audit counts the statements of those runs. -/
theorem Logged.length_usage (hlogged : h.Logged) (hchecked : h.Checked)
    (hq : ∀ b ∈ h.written, q b.run.date.toMicros ↔ P b.run.key) :
    (h.store.usage.filter fun u => q u.extractTs).length = h.store.auditedRows P .usage := by
  rw [hlogged.filter_usage_eq hchecked hq, hlogged.auditedRows_eq]
  apply length_flatMap_rows
  · intro b htable
    rw [List.length_map, TableRows.length_statements htable]
  · intro b htable
    rw [TableRows.statements_eq_nil htable, List.map_nil]

theorem Consistent.length_inventory (hc : h.Consistent)
    (hq : ∀ b ∈ h.written, q b.run.date.toMicros ↔ P b.run.key) :
    (h.store.inventory.filter fun r => q r.extractTs).length =
      h.store.auditedRows P .inventory :=
  hc.logged.length_inventory hc.checked hq

theorem Consistent.length_usage (hc : h.Consistent)
    (hq : ∀ b ∈ h.written, q b.run.date.toMicros ↔ P b.run.key) :
    (h.store.usage.filter fun u => q u.extractTs).length = h.store.auditedRows P .usage :=
  hc.logged.length_usage hc.checked hq

end

/-! ### Who reported what -/

/-- The statements that loads wrote in a run, each with the source that its load named. -/
def sourcedRows (h : History) (k : RunKey) : List (String × UsageRow) :=
  (h.batchesOf k).flatMap fun b => b.rows.statements.map fun r => (b.source, r.toRow)

theorem Consistent.usage_eq_sourcedRows (hc : h.Consistent)
    (hk : ∃ l ∈ h.store.ledger, l.key = k) :
    (h.store.usage.filter fun u => u.extractTs = k.2) = (h.sourcedRows k).map Prod.snd := by
  have hrows := hc.logged.filter_usage_eq hc.checked (P := (· = k)) (q := (· = k.2))
    (hc.date_eq_iff hk)
  rw [hrows, sourcedRows, List.map_flatMap]
  simp only [List.map_map, Function.comp_def, batchesOf]

theorem Logged.attributedTo_eq (hlogged : h.Logged) :
    h.store.attributedTo k = (h.batchesOf k).flatMap BatchWrite.attributions := by
  rw [Store.attributedTo, hlogged.attribution]
  refine filter_flatMap_of_forall fun b _ => List.forall_mem_map.2 fun r _ => ?_
  simp only [Run.key, Prod.ext_iff]

theorem Logged.attributedTo_eq_sourcedRows (hlogged : h.Logged) :
    h.store.attributedTo k =
      (h.sourcedRows k).map fun x => ⟨k.1, k.2, x.1, x.2.handle⟩ := by
  rw [hlogged.attributedTo_eq, sourcedRows, List.map_flatMap]
  refine List.flatMap_congr fun b hb => ?_
  have hkey : b.run.key = k := of_decide_eq_true (List.mem_filter.1 hb).2
  rw [← hkey, BatchWrite.attributions, List.map_map]
  rfl

/-- What stands in the tables at the date of a run is what the audit says that its loads wrote, and
the statements that stand there are attributed, one by one, to the sources that loads named. -/
theorem rows_audited (constraints : Constraints) (calls : List Call)
    (hcalls : ∀ c ∈ calls, c.Timely ∧ c.ByLoad) (k : RunKey)
    (hk : ∃ l ∈ (after constraints calls).store.ledger, l.key = k) :
    let h := after constraints calls
    let statements := h.store.usage.filter fun u => u.extractTs = k.2
    (h.store.inventory.filter fun r => r.extractTs = k.2).length =
        h.store.auditedRows (· = k) .inventory ∧
      statements.length = h.store.auditedRows (· = k) .usage ∧
      (statements.map (·.handle)).Perm ((h.store.attributedTo k).map (·.handle)) ∧
      statements = (h.sourcedRows k).map Prod.snd ∧
      (h.store.attributedTo k = (h.sourcedRows k).map fun x => ⟨k.1, k.2, x.1, x.2.handle⟩) ∧
      ∀ b ∈ h.batchesOf k, ∃ c ∈ calls, c.named? = some (b.source, b.run) := by
  intro h statements
  have hc : h.Consistent := consistent_after constraints hcalls
  have hnamed : h.Named calls := named_after constraints fun c hc => (hcalls c hc).2
  have hstatements : statements = (h.sourcedRows k).map Prod.snd := hc.usage_eq_sourcedRows hk
  have hattributed := hc.logged.attributedTo_eq_sourcedRows (k := k)
  have hdates := hc.date_eq_iff hk
  refine ⟨hc.length_inventory (q := (· = k.2)) hdates, hc.length_usage (q := (· = k.2)) hdates, ?_,
    hstatements, hattributed, fun b hb => hnamed.written b (List.mem_of_mem_filter hb)⟩
  rw [hstatements, hattributed, List.map_map, List.map_map]
  exact List.Perm.refl _

/-- A run of two sources that report the same statement, one of them twice. The last load is beyond
what a capped table takes. -/
def sharedRun : List Call :=
  let run : Run := ⟨"nightly", ⟨1714521600, 0⟩, "1.0"⟩
  let load (source : String) (handles : List String) (count : Int) : Call :=
    .load 2 (fun _ => false) source
      ⟨.usage (handles.map fun handle => ⟨handle, ⟨0, 0⟩, ⟨0, 0⟩, ⟨count, 0, 0, 0⟩, run.date⟩), 0⟩
      run run.date
  [.openRun ⟨run.pipeline, run.version, "test:1", run.date, ⟨0, 0⟩⟩,
    .transition run .pending .running none run.date,
    load "east" ["A", "B", "A"] 10, load "west" ["A"] 7, load "east" ["A"] 12,
    load "west" ["C", "D"] 5000]

def capped : Constraints where
  usage u := u.counters.executionCount < 1000

theorem rows_audited_shared :
    let s := (after capped sharedRun).store
    s.auditedRows (· = ("nightly", 1714521600000000)) .usage = 4 ∧
      (s.usage.filter fun u => u.extractTs = 1714521600000000).length = 4 := by
  intro s
  have hcalls : ∀ c ∈ sharedRun, c.Timely ∧ c.ByLoad := by
    simp [sharedRun, Call.Timely, Call.ByLoad, Time.Instant.fitsNanos, Time.Instant.toNanos]
  have hrun : ∃ l ∈ s.ledger, l.key = ("nightly", 1714521600000000) := by decide +kernel
  have hfour : s.auditedRows (· = ("nightly", 1714521600000000)) .usage = 4 := by decide +kernel
  obtain ⟨-, hlength, -⟩ := rows_audited capped sharedRun hcalls _ hrun
  exact ⟨hfour, hlength.trans hfour⟩

end History

end FleetProfile
