import FleetProfile.Proofs.AcceptedRows
import FleetProfile.Proofs.LoadOrder

/-! Whether a load of normalized rows is written. The normalizer sets single rows aside, but a write
is all or nothing: it fails as a whole where a column does not take the time of one record. -/
namespace FleetProfile
open Store (BatchWrite isHoldable convertPasses)
open Source (Context Kind RawRow normalizeRows)
open Time (Instant)

/-! ### Records that tables take -/

/-- Columns take all times of the record. -/
def InventoryRecord.Storable (r : InventoryRecord) : Prop :=
  isHoldable r.createDate = true ∧ isHoldable r.extractTs = true

/-- Columns take all times of the record. -/
def UsageRecord.Storable (r : UsageRecord) : Prop :=
  isHoldable r.creationTime = true ∧ isHoldable r.lastExecutionTime = true ∧
    isHoldable r.extractTs = true

/-- Columns take all times of all records. -/
structure TableRows.Storable (rows : TableRows) : Prop where
  databases : ∀ r ∈ rows.databases, r.Storable
  statements : ∀ r ∈ rows.statements, r.Storable

namespace Constraints

/-- The table takes a record: columns take its times, and its row meets the constraint. -/
def TakesDatabase (c : Constraints) (r : InventoryRecord) : Prop :=
  r.Storable ∧ c.inventory r.toRow = true

/-- The table takes a record: columns take its times, and its row meets the constraint. -/
def TakesStatement (c : Constraints) (r : UsageRecord) : Prop :=
  r.Storable ∧ c.usage r.toRow = true

/-- The table takes all records. -/
structure TakesRows (c : Constraints) (rows : TableRows) : Prop where
  databases : ∀ r ∈ rows.databases, c.TakesDatabase r
  statements : ∀ r ∈ rows.statements, c.TakesStatement r

theorem takesRows_inventory {c : Constraints} {records : List InventoryRecord} :
    c.TakesRows (.inventory records) ↔ ∀ r ∈ records, c.TakesDatabase r :=
  ⟨fun h => h.databases, fun h => ⟨h, List.forall_mem_nil _⟩⟩

theorem takesRows_usage {c : Constraints} {records : List UsageRecord} :
    c.TakesRows (.usage records) ↔ ∀ r ∈ records, c.TakesStatement r :=
  ⟨fun h => h.statements, fun h => ⟨List.forall_mem_nil _, h⟩⟩

/-- Without constraints, a table takes what its columns take. -/
theorem takesRows_empty {rows : TableRows} : TakesRows {} rows ↔ rows.Storable := by
  constructor
  · intro h
    exact ⟨fun r hr => (h.databases r hr).1, fun r hr => (h.statements r hr).1⟩
  · intro h
    exact ⟨fun r hr => ⟨h.databases r hr, rfl⟩, fun r hr => ⟨h.statements r hr, rfl⟩⟩

end Constraints

namespace Store

variable {s : Store}

theorem exists_checkedInventoryRow_iff {r : InventoryRecord} :
    (∃ row, s.checkedInventoryRow r = .ok row) ↔ s.constraints.TakesDatabase r := by
  unfold Constraints.TakesDatabase InventoryRecord.Storable
  constructor
  · rintro ⟨row, h⟩
    obtain rfl := checkedInventoryRow_eq_ok h
    simp only [checkedInventoryRow, inventoryRow, checked, bind_eq_ok, stamp_eq_ok,
      Except.ok.injEq] at h
    obtain ⟨_, ⟨_, ⟨hcreate, -⟩, _, ⟨hextract, -⟩, -⟩, h⟩ := h
    split_ifs at h with hmet
    rw [Except.ok.injEq] at h
    exact ⟨⟨hcreate, hextract⟩, h ▸ hmet⟩
  · rintro ⟨⟨hcreate, hextract⟩, hmet⟩
    refine ⟨r.toRow, ?_⟩
    simp only [checkedInventoryRow, inventoryRow, checked, bind_eq_ok, stamp_eq_ok,
      Except.ok.injEq]
    exact ⟨r.toRow, ⟨_, ⟨hcreate, rfl⟩, _, ⟨hextract, rfl⟩, rfl⟩, if_pos hmet⟩

theorem exists_checkedUsageRow_iff {r : UsageRecord} :
    (∃ row, s.checkedUsageRow r = .ok row) ↔ s.constraints.TakesStatement r := by
  unfold Constraints.TakesStatement UsageRecord.Storable
  constructor
  · rintro ⟨row, h⟩
    obtain rfl := checkedUsageRow_eq_ok h
    simp only [checkedUsageRow, usageRow, checked, bind_eq_ok, stamp_eq_ok, Except.ok.injEq] at h
    obtain ⟨_, ⟨_, ⟨hcreation, -⟩, _, ⟨hlast, -⟩, _, ⟨hextract, -⟩, -⟩, h⟩ := h
    split_ifs at h with hmet
    rw [Except.ok.injEq] at h
    exact ⟨⟨hcreation, hlast, hextract⟩, h ▸ hmet⟩
  · rintro ⟨⟨hcreation, hlast, hextract⟩, hmet⟩
    refine ⟨r.toRow, ?_⟩
    simp only [checkedUsageRow, usageRow, checked, bind_eq_ok, stamp_eq_ok, Except.ok.injEq]
    exact ⟨r.toRow, ⟨_, ⟨hcreation, rfl⟩, _, ⟨hlast, rfl⟩, _, ⟨hextract, rfl⟩, rfl⟩, if_pos hmet⟩

/-- Passes before which no one cancels convert records one after the other. -/
theorem convertPasses_of_unseen {α β : Type} {cancelled : Nat → Bool}
    (convert : α → Except Error β) {n size : Nat} {records : List α}
    (unseen : ∀ i, i * max size 1 < records.length → cancelled (n + i) = false) :
    convertPasses cancelled convert n (passes size records) = records.mapM convert := by
  induction records using passes.induct size generalizing n with
  | case1 =>
    rw [passes, dif_pos rfl]
    rfl
  | case2 records hne ih =>
    have hfirst : cancelled n = false := unseen 0 (by
      have hpos := List.length_pos_iff.2 hne
      omega)
    have hrest : ∀ i, i * max size 1 < (records.drop (max size 1)).length →
        cancelled (n + 1 + i) = false := by
      intro i hi
      rw [List.length_drop] at hi
      rw [Nat.add_assoc, Nat.add_comm 1 i]
      apply unseen
      rw [Nat.succ_mul]
      omega
    rw [passes, dif_neg hne, convertPasses, hfirst, ih hrest]
    conv_rhs => rw [← List.take_append_drop (max size 1) records, List.mapM_append]
    rfl

/-- Tables take a batch that no one cancels exactly if they take all of its records. -/
theorem exists_takes_iff (c : Constraints) {b : BatchWrite}
    (never : b.cancelled = fun _ => false) :
    (∃ u, c.takes b = .ok u) ↔ c.TakesRows b.rows := by
  unfold Constraints.takes appendRows
  rw [exists_map_iff, never]
  cases b.rows with
  | inventory records =>
    rw [Constraints.takesRows_inventory, exists_bind_ok_iff,
      convertPasses_of_unseen _ fun _ _ => rfl, exists_mapM_iff]
    exact forall₂_congr fun r _ => exists_checkedInventoryRow_iff
  | usage records =>
    rw [Constraints.takesRows_usage, exists_bind_ok_iff,
      convertPasses_of_unseen _ fun _ _ => rfl, exists_mapM_iff]
    exact forall₂_congr fun r _ => exists_checkedUsageRow_iff

end Store

/-! ### Loads -/

namespace Load

variable {s : Store} {r : Run}

/-- What screening keeps of records. -/
def kept (r : Run) : TableRows → TableRows
  | .inventory records => .inventory (screenInventory r records).rows
  | .usage records => .usage (screenUsage r records).rows

theorem prepare_of_held (held : isHoldable r.date = true) (chunkSize : Nat)
    (cancelled : Nat → Bool) (source : String) (batch : Source.Batch) :
    ∃ p, prepare s chunkSize cancelled source batch r = .ok p ∧
      p.write.rows = kept r batch.rows ∧ p.write.cancelled = cancelled := by
  unfold prepare kept
  cases batch.rows with
  | inventory records => exact ⟨_, rfl, rfl, rfl⟩
  | usage records =>
    obtain ⟨m, hm, -⟩ := s.lookup_priorCounters r.pipeline source
      ((screenUsage r records).rows.map (·.handle)) held
    simp only [detect, priorOf, hm, bind, Except.bind]
    exact ⟨_, rfl, rfl, rfl⟩

/-- A load of a running run, into tables without constraints, is written exactly if columns take
the times of all records that screening keeps. -/
theorem Request.exists_load_iff (q : Request) {now : Instant} (plain : s.constraints = {})
    (writable : s.readOnly = false) (held : isHoldable r.date = true)
    (heldNow : isHoldable now.canonical = true) {l : LedgerRow} (hl : l ∈ s.ledger)
    (hkey : l.key = r.key) (hst : l.status = .known .running) :
    (∃ report s', q.load s r now = .ok (report, s')) ↔ (kept r q.batch.rows).Storable := by
  obtain ⟨p, hprepare, hrows, hcancelled⟩ :=
    prepare_of_held (s := s) held q.chunkSize (fun _ => false) q.source q.batch
  rw [q.load_of_running writable held heldNow hl hkey hst, Request.outcome, hprepare, plain,
    ← hrows, ← Constraints.takesRows_empty, ← Store.exists_takes_iff {} hcancelled]
  simp only [bind, Except.bind]
  cases Constraints.takes {} p.write with
  | error e => simp [Except.map, Except.mapError]
  | ok u => simp [Except.map, Except.mapError]

/-- Where all records are of the run, a load counts no more as rejected than the batch did. -/
theorem Request.rejected_of_load (q : Request) {now : Instant} {report : LoadReport} {s' : Store}
    (databases : ∀ x ∈ q.batch.rows.databases, x.extractTs = r.date)
    (statements : ∀ x ∈ q.batch.rows.statements, x.extractTs = r.date)
    (h : q.load s r now = .ok (report, s')) : report.rejected = q.batch.rejected := by
  obtain ⟨p, hprepare, hcommit⟩ := exists_commit_of_load h
  have hrejected := (counts_prepare hprepare).1
  rw [countP_mismatched_eq_zero databases, countP_mismatched_eq_zero statements] at hrejected
  rw [(commit_eq_ok hcommit).1]
  exact hrejected

end Load

namespace Source

variable {kind : Kind} {ctx : Context} {rows : List RawRow}

theorem mem_accepted {α : Type} {results : List (Except Rejection α)} {v : α} :
    v ∈ accepted results ↔ .ok v ∈ results := by
  unfold accepted
  rw [List.mem_filterMap]
  constructor
  · rintro ⟨result, hresult, hv⟩
    cases result with
    | error e => exact absurd hv (by simp)
    | ok v' => exact Option.some.inj hv ▸ hresult
  · intro hv
    exact ⟨.ok v, hv, rfl⟩

theorem reads_of_databases (table : Table) :
    ∀ d ∈ (normalizeRows kind ctx table rows).rows.databases, Dialect.ReadsInventory ctx d := by
  intro d hd
  cases table with
  | usage => exact absurd hd List.not_mem_nil
  | inventory =>
    obtain ⟨row, -, hrow⟩ := List.mem_map.1 (mem_accepted.1 hd)
    exact Dialect.reads_of_inventory hrow
  | metadata =>
    obtain ⟨row, -, hrow⟩ := List.mem_map.1 (mem_accepted.1 hd)
    exact Dialect.reads_of_inventory hrow

theorem reads_of_statements (table : Table) :
    ∀ u ∈ (normalizeRows kind ctx table rows).rows.statements,
      ∃ row ∈ rows, Dialect.ReadsUsage kind ctx row u := by
  intro u hu
  cases table with
  | usage =>
    obtain ⟨row, hmem, hrow⟩ := List.mem_map.1 (mem_accepted.1 hu)
    exact ⟨row, hmem, Dialect.reads_of_usage hrow⟩
  | inventory => exact absurd hu List.not_mem_nil
  | metadata => exact absurd hu List.not_mem_nil

end Source

namespace History

variable {c : Call} {h h' : History}

theorem Step.constraints_eq (hstep : Step c h h') :
    h'.store.constraints = h.store.constraints := by
  cases hstep with
  | refused => rfl
  | revised rows =>
    obtain ⟨f, -, rfl⟩ := rows
    rfl
  | opened call rows idle run held =>
    obtain ⟨f, -, rfl⟩ := rows
    rfl
  | prepared call screened counts => rfl
  | wrote t origin held running => rfl

theorem constraints_after (constraints : Constraints) (calls : List Call) :
    (after constraints calls).store.constraints = constraints :=
  after_induction (P := fun h => h.store.constraints = constraints) (Q := fun _ => True) rfl
    (fun _ _ _ _ hstep same => hstep.constraints_eq.trans same) (fun _ _ => trivial)

/-- Columns take the dates of opened runs, which have no fraction that a column would cut. -/
def HeldDates (h : History) : Prop :=
  ∀ r ∈ h.opened, isHoldable r.date = true ∧ r.date.canonical = r.date

theorem heldDates_step (hstep : Step c h h') (hh : h.HeldDates) : h'.HeldDates := by
  cases hstep with
  | refused => exact hh
  | revised rows => exact hh
  | @opened q s r call rows idle run held =>
    have hcanonical : r.date.canonical = r.date := by
      rw [run, Run.new, Instant.canonical_canonical]
    exact List.forall_mem_append.2 ⟨hh, List.forall_mem_singleton.2 ⟨held, hcanonical⟩⟩
  | prepared call screened counts => exact hh
  | wrote t origin held running => exact hh

theorem heldDates_after (constraints : Constraints) (calls : List Call) :
    (after constraints calls).HeldDates :=
  after_induction (Q := fun _ => True) (by simp [HeldDates, fresh])
    (fun _ _ _ _ hstep => heldDates_step hstep) (fun _ _ => trivial)

/-- The rows of a source are loaded into a running run, those that cannot be read left out, exactly
if columns take the times of all records that screening keeps of the others; the numbers always fit,
and what cannot be read never matters. -/
theorem load_normalized_iff (calls : List Call) {r : Run} (hr : r ∈ (after {} calls).opened)
    (running : ∃ l ∈ (after {} calls).store.ledger, l.key = r.key ∧ l.status = .known .running)
    (kind : Kind) (offset : Int) (table : Table) (rows : List RawRow) (chunkSize : Nat)
    (source : String) {now : Instant} (heldNow : isHoldable now.canonical = true) :
    let batch := normalizeRows kind (.new r.date offset) table rows
    let answer := Load.load (after {} calls).store chunkSize (fun _ => false) source batch r now
    ((∃ report s', answer = .ok (report, s')) ↔ (Load.kept r batch.rows).Storable) ∧
      (∀ report s', answer = .ok (report, s') → report.rejected = batch.rejected) ∧
      (∀ d ∈ batch.rows.databases, -2147483648 ≤ d.dbId ∧ d.dbId ≤ 2147483647) ∧
      ∀ u ∈ batch.rows.statements, ∀ c ∈ u.counters.named, 0 ≤ c.2 ∧ c.2 ≤ Number.maxInt64 := by
  intro batch answer
  obtain ⟨held, hcanonical⟩ := heldDates_after {} calls r hr
  obtain ⟨l, hl, hkey, hst⟩ := running
  have hdatabases : ∀ d ∈ batch.rows.databases,
      Source.Dialect.ReadsInventory (.new r.date offset) d := Source.reads_of_databases table
  have hstatements : ∀ u ∈ batch.rows.statements, ∃ row ∈ rows,
      Source.Dialect.ReadsUsage kind (.new r.date offset) row u := Source.reads_of_statements table
  refine ⟨?_, ?_, fun d hd => (hdatabases d hd).dbId, ?_⟩
  · exact Load.Request.exists_load_iff ⟨chunkSize, source, batch⟩ (constraints_after {} calls)
      (readOnly_after {} calls) held heldNow hl hkey hst
  · intro report s' hanswer
    apply Load.Request.rejected_of_load ⟨chunkSize, source, batch⟩ _ _ hanswer
    · exact fun d hd => (hdatabases d hd).extractTs.trans hcanonical
    · intro u hu
      obtain ⟨row, -, hreads⟩ := hstatements u hu
      exact hreads.extractTs.trans hcanonical
  · intro u hu
    obtain ⟨row, -, hreads⟩ := hstatements u hu
    exact hreads.counters

/-- The row of a database as its source gives it. -/
def databaseRow (id : Json) (createDate : String) : RawRow :=
  [("collation_name", .null), ("create_date", .string createDate), ("database_id", id),
    ("name", .string "db")]

/-- A run that has begun. -/
def begun (r : Run) : List Call :=
  [.openRun ⟨r.pipeline, r.version, "test:1", r.date, ⟨0, 0⟩⟩,
    .transition r .pending .running none r.date]

/-- Of two rows the second one cannot be read, and the first one is loaded. -/
theorem load_normalized_iff_unreadable :
    let r : Run := ⟨"nightly", ⟨1714557600, 0⟩, "1.0"⟩
    let rows := [databaseRow (.int 1) "2003-04-08 09:13:36.390", databaseRow .null "2003-04-08"]
    let batch := normalizeRows .sqlServer (.new r.date (-18000)) .inventory rows
    ∃ report s', Load.load (after {} (begun r)).store 100 (fun _ => false) "prod" batch r r.date =
      .ok (report, s') ∧ report.rejected = 1 := by
  intro r rows batch
  have hopened : r ∈ (after {} (begun r)).opened := by decide +kernel
  have heldNow : isHoldable r.date.canonical = true := by decide +kernel
  obtain ⟨hiff, hrejected, -⟩ := load_normalized_iff (begun r) hopened (by decide +kernel)
    .sqlServer (-18000) .inventory rows 100 "prod" heldNow
  have hstorable : (Load.kept r batch.rows).Storable := by
    have hkept : (Load.kept r batch.rows).databases =
        [⟨1, "db", .unknown, ⟨1049811216, 390000000⟩, r.date⟩] := by decide +kernel
    have hnone : (Load.kept r batch.rows).statements = [] := by decide +kernel
    constructor
    · rw [hkept, List.forall_mem_singleton]
      exact ⟨by decide +kernel, by decide +kernel⟩
    · rw [hnone]
      simp
  obtain ⟨report, s', hload⟩ := hiff.2 hstorable
  exact ⟨report, s', hload, (hrejected report s' hload).trans (by decide +kernel)⟩

/-- The last moment of the year 9999 five hours west of Greenwich is read, but not written; nor is
the other database. -/
theorem load_year_10000 :
    let r : Run := ⟨"nightly", ⟨1714557600, 0⟩, "1.0"⟩
    let rows := [databaseRow (.int 1) "2003-04-08 09:13:36.390",
      databaseRow (.int 2) "9999-12-31 23:59:59.997"]
    let batch := normalizeRows .sqlServer (.new r.date (-18000)) .inventory rows
    let h := after {} (begun r)
    r ∈ h.opened ∧ (∃ l ∈ h.store.ledger, l.key = r.key ∧ l.status = .known .running) ∧
      batch.rejected = 0 ∧
      (Load.load h.store 100 (fun _ => false) "prod" batch r r.date).isOk = false := by
  decide +kernel

end History

end FleetProfile
