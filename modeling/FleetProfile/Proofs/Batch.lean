import FleetProfile.Load.Loader
import FleetProfile.Proofs.Ledger.Sweep
import Mathlib.Data.List.Nodup

/-! What a committed batch leaves in the tables, and what a load makes sure of before it commits
one. A batch that is refused leaves nothing. -/
namespace FleetProfile
open Time (Instant)

/-- The row of a database, its times cut to the microsecond. -/
def InventoryRecord.toRow (r : InventoryRecord) : InventoryRow where
  dbId := r.dbId
  name := r.name
  collation := r.collation.toOption
  createDate := r.createDate.toMicros
  extractTs := r.extractTs.toMicros

/-- The row of a statement, its times cut to the microsecond. -/
def UsageRecord.toRow (r : UsageRecord) : UsageRow where
  handle := r.handle
  creationTime := r.creationTime.toMicros
  lastExecutionTime := r.lastExecutionTime.toMicros
  counters := r.counters
  extractTs := r.extractTs.toMicros

namespace TableRows

/-- The databases among the records. -/
def databases : TableRows → List InventoryRecord
  | .inventory records => records
  | .usage _ => []

/-- The statements among the records. -/
def statements : TableRows → List UsageRecord
  | .inventory _ => []
  | .usage records => records

theorem statements_eq_nil {rows : TableRows} (h : rows.table ≠ .usage) : rows.statements = [] := by
  cases rows with
  | inventory records => rfl
  | usage records => exact absurd rfl h

theorem databases_eq_nil {rows : TableRows} (h : rows.table ≠ .inventory) :
    rows.databases = [] := by
  cases rows with
  | inventory records => exact absurd rfl h
  | usage records => rfl

theorem length_statements {rows : TableRows} (h : rows.table = .usage) :
    rows.statements.length = rows.length := by
  cases rows with
  | inventory records => simp [table] at h
  | usage records => rfl

theorem length_databases {rows : TableRows} (h : rows.table = .inventory) :
    rows.databases.length = rows.length := by
  cases rows with
  | inventory records => rfl
  | usage records => simp [table] at h

theorem table_of_mem_statements {rows : TableRows} {r : UsageRecord} (hr : r ∈ rows.statements) :
    rows.table = .usage := by
  by_contra h
  simp [statements_eq_nil h] at hr

end TableRows

namespace Store

variable {s s' : Store}

namespace BatchWrite

/-- Who reported the statements of a batch. -/
def attributions (b : BatchWrite) : List AttributionRow :=
  b.rows.statements.map fun r => ⟨b.run.pipeline, b.run.date.toMicros, b.source, r.handle⟩

/-- All records are of the run of the batch, and no key occurs twice. -/
structure Screened (b : BatchWrite) : Prop where
  databases_own : ∀ r ∈ b.rows.databases, r.extractTs = b.run.date
  databases_nodup : (b.rows.databases.map (·.dbId)).Nodup
  statements_own : ∀ r ∈ b.rows.statements, r.extractTs = b.run.date
  statements_nodup : (b.rows.statements.map (·.handle)).Nodup

/-- Rows are dated as the run of their batch. -/
theorem Screened.extractTs_database {b : BatchWrite} (screened : b.Screened) {r : InventoryRecord}
    (hr : r ∈ b.rows.databases) : r.toRow.extractTs = b.run.date.toMicros :=
  congrArg Instant.toMicros (screened.databases_own r hr)

theorem Screened.extractTs_statement {b : BatchWrite} (screened : b.Screened) {r : UsageRecord}
    (hr : r ∈ b.rows.statements) : r.toRow.extractTs = b.run.date.toMicros :=
  congrArg Instant.toMicros (screened.statements_own r hr)

/-- What a load answers that wrote a batch. -/
def report (b : BatchWrite) : LoadReport where
  written := b.rows.length
  rejected := b.rejected
  duplicates := b.duplicates
  regressions := b.regressions

/-- The regressions that a batch reports are those that a store shows. -/
def CountsRegressions (b : BatchWrite) (s : Store) : Prop :=
  (Load.detect s b.run b.source b.rows.statements).map List.length = .ok b.regressions

end BatchWrite

/-- The store with a batch, committed at a time. -/
def withBatch (s : Store) (b : BatchWrite) (t : Int) : Store :=
  { s with
    inventory := s.inventory ++ b.rows.databases.map InventoryRecord.toRow
    usage := s.usage ++ b.rows.statements.map UsageRecord.toRow
    ledger := s.ledger.map (LedgerRow.updated b.run.key (· = .running) (beat t))
    audit := s.audit ++ [auditRow b b.run.date.toMicros t]
    attribution := s.attribution ++ b.attributions }

theorem map_key_withBatch (s : Store) (b : BatchWrite) (t : Int) :
    (s.withBatch b t).ledger.map LedgerRow.key = s.ledger.map LedgerRow.key := by
  rw [withBatch, List.map_map]
  exact List.map_congr_left fun l _ => (LedgerRow.change_claimed _ t l).key_eq

/-! ### Passes -/

theorem flatten_passes {α : Type} (size : Nat) (rows : List α) :
    (passes size rows).flatten = rows := by
  induction rows using passes.induct size with
  | case1 => simp [passes]
  | case2 rows hne ih =>
    rw [passes, dif_neg hne, List.flatten_cons, ih, List.take_append_drop]

theorem convertPasses_eq_ok {α β : Type} {cancelled : Nat → Bool} {convert : α → Except Error β}
    {n : Nat} {ps : List (List α)} {rows : List β}
    (h : convertPasses cancelled convert n ps = .ok rows) : ps.flatten.mapM convert = .ok rows := by
  induction ps generalizing n rows with
  | nil => exact h
  | cons pass rest ih =>
    unfold convertPasses at h
    split_ifs at h
    simp only [bind_eq_ok, Except.ok.injEq] at h
    obtain ⟨first, hfirst, more, hmore, rfl⟩ := h
    rw [List.flatten_cons, List.mapM_append]
    simp only [bind_eq_ok, ih hmore, hfirst, pure, Except.pure]
    exact ⟨first, rfl, more, rfl, rfl⟩

/-- A conversion that only cuts a record to its row converts passes to the rows of their records. -/
theorem convertPasses_eq_map {α β : Type} {cancelled : Nat → Bool} {convert : α → Except Error β}
    {toRow : α → β} {size : Nat} {records : List α} {rows : List β}
    (hconvert : ∀ r row, convert r = .ok row → row = toRow r)
    (h : convertPasses cancelled convert 0 (passes size records) = .ok rows) :
    rows = records.map toRow := by
  have hm := convertPasses_eq_ok h
  rw [flatten_passes, mapM_eq_ok] at hm
  clear h
  induction hm with
  | nil => rfl
  | cons hrow _ ih => rw [List.map_cons, ← hconvert _ _ hrow, ← ih]

theorem checkedInventoryRow_eq_ok {r : InventoryRecord} {row : InventoryRow}
    (h : s.checkedInventoryRow r = .ok row) : row = r.toRow := by
  simp only [checkedInventoryRow, inventoryRow, checked, bind_eq_ok, stamp_eq_ok,
    Except.ok.injEq] at h
  obtain ⟨_, ⟨_, ⟨-, rfl⟩, _, ⟨-, rfl⟩, rfl⟩, h⟩ := h
  split_ifs at h
  exact (Except.ok.inj h).symm

theorem checkedUsageRow_eq_ok {r : UsageRecord} {row : UsageRow}
    (h : s.checkedUsageRow r = .ok row) : row = r.toRow := by
  simp only [checkedUsageRow, usageRow, checked, bind_eq_ok, stamp_eq_ok, Except.ok.injEq] at h
  obtain ⟨_, ⟨_, ⟨-, rfl⟩, _, ⟨-, rfl⟩, _, ⟨-, rfl⟩, rfl⟩, h⟩ := h
  split_ifs at h
  exact (Except.ok.inj h).symm

/-! ### The write -/

theorem appendRows_eq_ok {b : BatchWrite} {date : Int} (h : s.appendRows b date = .ok s') :
    s' = { s with
      inventory := s.inventory ++ b.rows.databases.map InventoryRecord.toRow
      usage := s.usage ++ b.rows.statements.map UsageRecord.toRow
      attribution := s.attribution ++ b.rows.statements.map fun r =>
        ⟨b.run.pipeline, date, b.source, r.handle⟩ } := by
  unfold appendRows at h
  cases hrows : b.rows with
  | inventory records =>
    simp only [hrows, bind_eq_ok, Except.ok.injEq] at h
    obtain ⟨rows, hconvert, rfl⟩ := h
    obtain rfl := convertPasses_eq_map (fun _ _ => checkedInventoryRow_eq_ok) hconvert
    simp [TableRows.databases, TableRows.statements]
  | usage records =>
    simp only [hrows, bind_eq_ok, Except.ok.injEq] at h
    obtain ⟨rows, hconvert, rfl⟩ := h
    obtain rfl := convertPasses_eq_map (fun _ _ => checkedUsageRow_eq_ok) hconvert
    simp [TableRows.databases, TableRows.statements]

/-- A batch is only committed to a running run. -/
theorem insertBatch_eq_ok {b : BatchWrite} {now : Instant} {n : Nat}
    (h : s.insertBatch b now = .ok (n, s')) :
    isHoldable b.run.date = true ∧
      (∃ l ∈ s.ledger, l.key = b.run.key ∧ l.status = .known .running) ∧
      s' = s.withBatch b now.toMicros := by
  unfold insertBatch at h
  cases hwrite : s.writeBatch b now.canonical with
  | error e =>
    rw [hwrite] at h
    exact absurd h (by simp)
  | ok s₂ =>
    rw [hwrite] at h
    simp only [Except.ok.injEq, Prod.mk.injEq] at h
    obtain ⟨-, rfl⟩ := h
    simp only [writeBatch, bind_eq_ok, stamp_eq_ok, Except.ok.injEq] at hwrite
    obtain ⟨s₁, hclaim, d, ⟨hdate, rfl⟩, s₃, happend, t, ⟨-, rfl⟩, rfl⟩ := hwrite
    obtain ⟨-, -, hrow, rfl⟩ := claim_eq_ok hclaim
    refine ⟨hdate, hrow, ?_⟩
    rw [appendRows_eq_ok happend]
    simp [withBatch, BatchWrite.attributions]

/-- A batch is committed at a time that a column takes. -/
theorem isHoldable_of_insertBatch {b : BatchWrite} {now : Instant} {n : Nat}
    (h : s.insertBatch b now = .ok (n, s')) : isHoldable now.canonical = true := by
  unfold insertBatch at h
  cases hwrite : s.writeBatch b now.canonical with
  | error e =>
    rw [hwrite] at h
    exact absurd h (by simp)
  | ok s₂ =>
    simp only [writeBatch, bind_eq_ok] at hwrite
    obtain ⟨s₁, hclaim, -⟩ := hwrite
    exact (claim_eq_ok hclaim).2.1

end Store

namespace Load
open Store (BatchWrite)

variable {s s' : Store}

/-! ### Screening -/

theorem key_firstOfEach {α κ : Type} [BEq κ] [LawfulBEq κ] {key : α → κ} {seen : List κ}
    {records : List α} : ∀ r ∈ firstOfEach key seen records, r ∈ records ∧ key r ∉ seen := by
  induction records generalizing seen with
  | nil => simp [firstOfEach]
  | cons r rest ih =>
    unfold firstOfEach
    intro x hx
    split_ifs at hx with hseen
    · obtain ⟨hrest, hnew⟩ := ih x hx
      exact ⟨List.mem_cons_of_mem _ hrest, hnew⟩
    · rcases List.mem_cons.1 hx with rfl | hx
      · exact ⟨List.mem_cons_self, by simpa using hseen⟩
      · obtain ⟨hrest, hnew⟩ := ih x hx
        exact ⟨List.mem_cons_of_mem _ hrest, fun h => hnew (List.mem_cons_of_mem _ h)⟩

theorem nodup_firstOfEach {α κ : Type} [BEq κ] [LawfulBEq κ] (key : α → κ) (seen : List κ)
    (records : List α) : ((firstOfEach key seen records).map key).Nodup := by
  induction records generalizing seen with
  | nil => simp [firstOfEach]
  | cons r rest ih =>
    unfold firstOfEach
    split_ifs with hseen
    · exact ih seen
    · rw [List.map_cons, List.nodup_cons]
      refine ⟨fun hmem => ?_, ih _⟩
      obtain ⟨x, hx, hkey⟩ := List.mem_map.1 hmem
      exact (key_firstOfEach x hx).2 (hkey ▸ List.mem_cons_self)

theorem extractTs_screen {α κ : Type} [BEq κ] [LawfulBEq κ] {run : Run} {extractTs : α → Instant}
    {key : α → κ} {records : List α} :
    ∀ r ∈ (screen run extractTs key records).rows, extractTs r = run.date := by
  intro r hr
  have hmem := (key_firstOfEach r hr).1
  rw [List.mem_filter] at hmem
  simpa using hmem.2

theorem mismatched_eq_countP {α κ : Type} [BEq κ] (r : Run) (extractTs : α → Instant)
    (key : α → κ) (records : List α) :
    (screen r extractTs key records).mismatched = records.countP fun x => extractTs x ≠ r.date := by
  have hsplit : records.length = records.countP (fun x => extractTs x = r.date) +
      records.countP (fun x => extractTs x ≠ r.date) := by
    rw [List.length_eq_countP_add_countP fun x => decide (extractTs x = r.date)]
    simp only [decide_eq_true_eq, ne_eq]
  show records.length - (records.filter fun x => decide (extractTs x = r.date)).length = _
  rw [← List.countP_eq_length_filter]
  omega

/-- Where all records are of the run, none is set aside for its date. -/
theorem countP_mismatched_eq_zero {α : Type} {r : Run} {extractTs : α → Instant} {records : List α}
    (own : ∀ x ∈ records, extractTs x = r.date) :
    records.countP (fun x => extractTs x ≠ r.date) = 0 := by
  apply List.countP_eq_zero.2
  intro x hx hne
  exact of_decide_eq_true hne (own x hx)

/-! ### Loading -/

/-- What a load has in hand before it commits. -/
theorem prepare_eq_ok {chunkSize : Nat} {cancelled : Nat → Bool} {source : String}
    {batch : Source.Batch} {run : Run} {p : Prepared}
    (h : prepare s chunkSize cancelled source batch run = .ok p) :
    p.write.run = run ∧ p.write.source = source ∧ p.write.Screened := by
  unfold prepare at h
  cases hrows : batch.rows with
  | inventory records =>
    simp only [hrows, Except.ok.injEq] at h
    subst h
    exact ⟨rfl, rfl, extractTs_screen, nodup_firstOfEach _ _ _, by simp [TableRows.statements],
      by simp [TableRows.statements]⟩
  | usage records =>
    simp only [hrows, bind_eq_ok, Except.ok.injEq] at h
    obtain ⟨found, -, rfl⟩ := h
    exact ⟨rfl, rfl, by simp [TableRows.databases], by simp [TableRows.databases],
      extractTs_screen, nodup_firstOfEach _ _ _⟩

theorem table_prepare {chunkSize : Nat} {cancelled : Nat → Bool} {source : String}
    {batch : Source.Batch} {run : Run} {p : Prepared}
    (h : prepare s chunkSize cancelled source batch run = .ok p) :
    p.write.rows.table = batch.rows.table := by
  unfold prepare at h
  cases hrows : batch.rows with
  | inventory records =>
    simp only [hrows, Except.ok.injEq] at h
    rw [← h]
    rfl
  | usage records =>
    simp only [hrows, bind_eq_ok, Except.ok.injEq] at h
    obtain ⟨found, -, rfl⟩ := h
    rfl

/-- The regressions that a load reports are those of the store that it read. -/
theorem prepare_countsRegressions {chunkSize : Nat} {cancelled : Nat → Bool} {source : String}
    {batch : Source.Batch} {run : Run} {p : Prepared}
    (h : prepare s chunkSize cancelled source batch run = .ok p) :
    p.write.CountsRegressions s := by
  unfold prepare at h
  cases hrows : batch.rows with
  | inventory records =>
    simp only [hrows, Except.ok.injEq] at h
    subst h
    rfl
  | usage records =>
    simp only [hrows, bind_eq_ok, Except.ok.injEq] at h
    obtain ⟨found, hfound, rfl⟩ := h
    unfold Store.BatchWrite.CountsRegressions
    exact map_eq_ok.2 ⟨found, hfound, rfl⟩

/-- A batch in hand counts what is not of the run as rejected, the rest as rows or duplicates. -/
theorem counts_prepare {chunkSize : Nat} {cancelled : Nat → Bool} {source : String}
    {batch : Source.Batch} {r : Run} {p : Prepared}
    (h : prepare s chunkSize cancelled source batch r = .ok p) :
    p.write.rejected = batch.rejected + (batch.rows.databases.countP (·.extractTs ≠ r.date) +
        batch.rows.statements.countP (·.extractTs ≠ r.date)) ∧
      p.write.rows.length + p.write.rejected + p.write.duplicates =
        batch.rows.length + batch.rejected := by
  unfold prepare at h
  cases hrows : batch.rows with
  | inventory records =>
    have hmismatched := mismatched_eq_countP r (·.extractTs) (·.dbId) records
    have hlength := length_screen r (·.extractTs) (·.dbId) records
    simp only [hrows, Except.ok.injEq] at h
    rw [← h]
    simp only [TableRows.databases, TableRows.statements, TableRows.length, List.countP_nil,
      Nat.add_zero, screenInventory]
    omega
  | usage records =>
    have hmismatched := mismatched_eq_countP r (·.extractTs) (·.handle) records
    have hlength := length_screen r (·.extractTs) (·.handle) records
    simp only [hrows, bind_eq_ok, Except.ok.injEq] at h
    obtain ⟨found, -, rfl⟩ := h
    simp only [TableRows.databases, TableRows.statements, TableRows.length, List.countP_nil,
      Nat.zero_add, screenUsage]
    omega

theorem commit_eq_ok {b : BatchWrite} {now : Instant} {report : LoadReport}
    (h : commit s b now = .ok (report, s')) :
    report = b.report ∧ ∃ n, s.insertBatch b now = .ok (n, s') := by
  simp only [commit, bind_eq_ok, Except.ok.injEq, Prod.mk.injEq] at h
  obtain ⟨⟨n, s₁⟩, hinsert, rfl, rfl⟩ := h
  refine ⟨?_, n, hinsert⟩
  unfold Store.insertBatch at hinsert
  split at hinsert
  · simp only [Except.ok.injEq, Prod.mk.injEq] at hinsert
    rw [← hinsert.1]
    rfl
  · exact absurd hinsert (by simp)

theorem exists_commit_of_load {chunkSize : Nat} {cancelled : Nat → Bool} {source : String}
    {batch : Source.Batch} {run : Run} {now : Instant} {report : LoadReport}
    (h : load s chunkSize cancelled source batch run now = .ok (report, s')) :
    ∃ p, prepare s chunkSize (fun i => cancelled (i + 2)) source batch run = .ok p ∧
      commit s p.write now = .ok (report, s') := by
  unfold load at h
  split_ifs at h with first second
  · obtain ⟨p, -, h⟩ := bind_eq_ok.1 h
    exact absurd h (by simp)
  · obtain ⟨p, hprepare, h⟩ := bind_eq_ok.1 h
    exact ⟨p, hprepare, h⟩

theorem load_eq_ok {chunkSize : Nat} {cancelled : Nat → Bool} {source : String}
    {batch : Source.Batch} {run : Run} {now : Instant} {report : LoadReport}
    (h : load s chunkSize cancelled source batch run now = .ok (report, s')) :
    ∃ p n, prepare s chunkSize (fun i => cancelled (i + 2)) source batch run = .ok p ∧
      s.insertBatch p.write now = .ok (n, s') := by
  obtain ⟨p, hprepare, hcommit⟩ := exists_commit_of_load h
  obtain ⟨-, n, hinsert⟩ := commit_eq_ok hcommit
  exact ⟨p, n, hprepare, hinsert⟩

end Load

end FleetProfile
