import FleetProfile.Proofs.RegressionCheck
import FleetProfile.Proofs.StorableRecords

/-! What a snapshot shows of a load. Columns hold times to the microsecond, and so do the records of
the normalizer, but only as far as 64 bits count their times in nanoseconds. -/
namespace FleetProfile
open Store (BatchWrite)
open Source (Context Kind RawRow normalizeRows)
open Time (Instant)

/-! ### Reading a record back -/

theorem Time.Instant.ofMicros_toMicros_iff {t : Instant} :
    Instant.ofMicros t.toMicros = t ↔ t.isLeap = false ∧ t.nanos % 1000 = 0 := by
  have hleap : t.isLeap = false ↔ t.nanos < 1000000000 := by simp [Instant.isLeap]
  rw [hleap]
  constructor
  · intro h
    rw [← h]
    exact ⟨Instant.ofMicros_nanos_lt _, Instant.ofMicros_nanos_mod _⟩
  · rintro ⟨hlt, hwhole⟩
    exact Instant.ofMicros_toMicros hlt hwhole

namespace InventoryRecord

def times (r : InventoryRecord) : List Instant := [r.createDate, r.extractTs]

/-- The record as its row is read. -/
def stored (r : InventoryRecord) : InventoryRecord := Store.inventoryRecord r.toRow

theorem stored_eq (r : InventoryRecord) :
    r.stored =
      { r with
        createDate := .ofMicros r.createDate.toMicros
        extractTs := .ofMicros r.extractTs.toMicros } := by
  rw [stored, Store.inventoryRecord, toRow, Collation.ofOption_toOption]

theorem stored_eq_self_iff {r : InventoryRecord} :
    r.stored = r ↔ ∀ t ∈ r.times, t.isLeap = false ∧ t.nanos % 1000 = 0 := by
  simp only [times, List.forall_mem_cons, ← Instant.ofMicros_toMicros_iff]
  rw [stored_eq]
  cases r
  simp

end InventoryRecord

namespace UsageRecord

def times (r : UsageRecord) : List Instant := [r.creationTime, r.lastExecutionTime, r.extractTs]

/-- The record as its row is read. -/
def stored (r : UsageRecord) : UsageRecord := Store.usageRecord r.toRow

theorem stored_eq (r : UsageRecord) :
    r.stored =
      { r with
        creationTime := .ofMicros r.creationTime.toMicros
        lastExecutionTime := .ofMicros r.lastExecutionTime.toMicros
        extractTs := .ofMicros r.extractTs.toMicros } := rfl

theorem stored_eq_self_iff {r : UsageRecord} :
    r.stored = r ↔ ∀ t ∈ r.times, t.isLeap = false ∧ t.nanos % 1000 = 0 := by
  simp only [times, List.forall_mem_cons, ← Instant.ofMicros_toMicros_iff]
  rw [stored_eq]
  cases r
  simp

end UsageRecord

namespace TableRows

def times : TableRows → List Instant
  | .inventory records => records.flatMap InventoryRecord.times
  | .usage records => records.flatMap UsageRecord.times

/-- The records as their rows are read. -/
def stored : TableRows → TableRows
  | .inventory records => .inventory (records.map InventoryRecord.stored)
  | .usage records => .usage (records.map UsageRecord.stored)

/-- The records in the order of their keys. -/
def byKey : TableRows → TableRows
  | .inventory records => .inventory (records.mergeSort fun a b => a.dbId ≤ b.dbId)
  | .usage records => .usage (records.mergeSort fun a b => a.handle ≤ b.handle)

/-- Reading back the rows of records gives these records exactly if no time was cut. -/
theorem byKey_stored_iff {rows : TableRows} (databases : (rows.databases.map (·.dbId)).Nodup)
    (statements : (rows.statements.map (·.handle)).Nodup) :
    rows.stored.byKey = rows.byKey ↔ ∀ t ∈ rows.times, t.isLeap = false ∧ t.nanos % 1000 = 0 := by
  cases rows with
  | inventory records =>
    simp only [stored, byKey, times, inventory.injEq, List.forall_mem_flatMap,
      ← InventoryRecord.stored_eq_self_iff]
    exact mergeSort_map_eq_iff (·.dbId) (fun _ => rfl) databases
  | usage records =>
    simp only [stored, byKey, times, usage.injEq, List.forall_mem_flatMap,
      ← UsageRecord.stored_eq_self_iff]
    exact mergeSort_map_eq_iff (·.handle) (fun _ => rfl) statements

end TableRows

/-! ### The times of accepted records -/

namespace Source

variable {kind : Kind} {ctx : Context} {row : RawRow}

theorem RawRow.canonical_of_requiredTimestamp {column : String} {offset : Int} {t : Instant}
    (h : row.requiredTimestamp column offset = .ok t) : t.canonical = t := by
  obtain ⟨text, -, htext⟩ := requiredTimestamp_eq_ok.1 h
  unfold Time.Layout.parse? at htext
  simp only at htext
  split at htext
  · rw [← Option.some.inj htext, Instant.canonical_canonical]
  · obtain ⟨civil, -, hcivil⟩ := Option.bind_eq_some_iff.1 htext
    obtain ⟨t', -, rfl⟩ := Option.map_eq_some_iff.1 hcivil
    exact t'.canonical_canonical

namespace Dialect
open RawRow (canonical_of_requiredTimestamp)

theorem canonical_of_catalogue {extractTs : Instant} {offset : Int} {r : InventoryRecord}
    (h : catalogue row extractTs offset = .ok r) (own : extractTs.canonical = extractTs) :
    ∀ t ∈ r.times, t.canonical = t := by
  simp only [catalogue, bind_eq_ok, Except.ok.injEq] at h
  obtain ⟨_, -, _, -, _, -, _, hcreate, rfl⟩ := h
  exact List.forall_mem_cons.2 ⟨canonical_of_requiredTimestamp hcreate,
    List.forall_mem_singleton.2 own⟩

theorem canonical_of_inventory {r : InventoryRecord} (h : inventory kind ctx row = .ok r)
    (own : ctx.extractTs.canonical = ctx.extractTs) : ∀ t ∈ r.times, t.canonical = t := by
  cases kind with
  | sqlServer => exact canonical_of_catalogue h own
  | synapse => exact canonical_of_catalogue h own
  | snowflake =>
    simp only [inventory, bind_eq_ok, Except.ok.injEq] at h
    obtain ⟨_, -, _, -, _, hcreate, rfl⟩ := h
    exact List.forall_mem_cons.2 ⟨canonical_of_requiredTimestamp hcreate,
      List.forall_mem_singleton.2 own⟩

theorem canonical_of_statistics {handle : String} {extractTs : Instant} {offset : Int}
    {r : UsageRecord} (h : statistics row handle extractTs offset = .ok r)
    (own : extractTs.canonical = extractTs) : ∀ t ∈ r.times, t.canonical = t := by
  simp only [statistics, bind_eq_ok, Except.ok.injEq] at h
  obtain ⟨_, hcreation, _, hlast, _, -, _, -, _, -, _, -, rfl⟩ := h
  exact List.forall_mem_cons.2 ⟨canonical_of_requiredTimestamp hcreation,
    List.forall_mem_cons.2 ⟨canonical_of_requiredTimestamp hlast, List.forall_mem_singleton.2 own⟩⟩

theorem canonical_of_usage {r : UsageRecord} (h : usage kind ctx row = .ok r)
    (own : ctx.extractTs.canonical = ctx.extractTs) : ∀ t ∈ r.times, t.canonical = t := by
  cases kind with
  | sqlServer =>
    obtain ⟨_, -, h⟩ := bind_eq_ok.1 h
    exact canonical_of_statistics h own
  | synapse =>
    obtain ⟨_, -, h⟩ := bind_eq_ok.1 h
    exact canonical_of_statistics h own
  | snowflake =>
    simp only [usage, bind_eq_ok, Except.ok.injEq] at h
    obtain ⟨_, -, _, -, _, -, _, hcreation, _, hlast, _, -, _, -, _, -, _, -, rfl⟩ := h
    exact List.forall_mem_cons.2 ⟨canonical_of_requiredTimestamp hcreation,
      List.forall_mem_cons.2 ⟨canonical_of_requiredTimestamp hlast,
        List.forall_mem_singleton.2 own⟩⟩

end Dialect

theorem canonical_of_normalizeRows (kind : Kind) (extractTs : Instant) (offset : Int)
    (table : Table) (rows : List RawRow) :
    ∀ t ∈ (normalizeRows kind (.new extractTs offset) table rows).rows.times, t.canonical = t := by
  have own : (Context.new extractTs offset).extractTs.canonical =
      (Context.new extractTs offset).extractTs := extractTs.canonical_canonical
  have hinventory : ∀ t ∈ (normalizeInventory kind (.new extractTs offset) rows).rows.times,
      t.canonical = t := by
    refine List.forall_mem_flatMap.2 fun r hr => ?_
    obtain ⟨row, -, hrow⟩ := List.mem_map.1 (mem_accepted.1 hr)
    exact Dialect.canonical_of_inventory hrow own
  cases table with
  | inventory => exact hinventory
  | metadata => exact hinventory
  | usage =>
    refine List.forall_mem_flatMap.2 fun r hr => ?_
    obtain ⟨row, -, hrow⟩ := List.mem_map.1 (mem_accepted.1 hr)
    exact Dialect.canonical_of_usage hrow own

end Source

/-! ### Reading a batch back -/

/-- The records of a table at a date. -/
def Store.snapshot (s : Store) (table : Table) (date : Instant) : Except Error TableRows :=
  match table with
  | .usage => (s.usageSnapshot date).map .usage
  | _ => (s.inventorySnapshot date).map .inventory

theorem Store.map_inventoryRecord_orderedBy (rows : List InventoryRow) :
    (orderedBy InventoryRow.dbId rows).map inventoryRecord =
      (rows.map inventoryRecord).mergeSort fun a b => a.dbId ≤ b.dbId :=
  List.map_mergeSort fun _ _ _ _ => rfl

theorem Store.map_usageRecord_mergeSort (rows : List UsageRow) :
    (rows.mergeSort fun a b => a.handle ≤ b.handle).map usageRecord =
      (rows.map usageRecord).mergeSort fun a b => a.handle ≤ b.handle :=
  List.map_mergeSort fun _ _ _ _ => rfl

theorem Load.rows_prepare {s : Store} {chunkSize : Nat} {cancelled : Nat → Bool} {source : String}
    {batch : Source.Batch} {r : Run} {p : Prepared}
    (h : prepare s chunkSize cancelled source batch r = .ok p) :
    p.write.rows = kept r batch.rows := by
  unfold prepare at h
  unfold kept
  cases hrows : batch.rows with
  | inventory records =>
    simp only [hrows, Except.ok.injEq] at h
    rw [← h]
  | usage records =>
    simp only [hrows, bind_eq_ok, Except.ok.injEq] at h
    obtain ⟨found, -, rfl⟩ := h
    rfl

namespace History

variable {h : History} {b : BatchWrite}

theorem Logged.length_audit (hlogged : h.Logged) (k : RunKey) (table : Table) :
    (h.store.audit.filter fun a => a.key = k ∧ a.table = table).length =
      ((h.batchesOf k).filter fun b => b.rows.table = table).length := by
  have haudit := congrArg (fun rows => (rows.filter fun a : AuditRow => a.key = k ∧
    a.table = table).length) hlogged.audit
  simp only [List.filter_map, List.length_map] at haudit
  rw [batchesOf, List.filter_filter]
  refine haudit.trans (congrArg List.length (List.filter_congr fun b _ => ?_))
  rw [← Bool.decide_and]
  exact decide_eq_decide.2 and_comm

/-- At the date of a batch that is the only one of its table in its run are its rows alone. -/
theorem Consistent.flatMap_at_date (hc : h.Consistent) (hb : b ∈ h.written)
    (only : (h.store.audit.filter fun a => a.key = b.run.key ∧ a.table = b.rows.table).length = 1)
    {α : Type} {rowsOf : BatchWrite → List α}
    (hother : ∀ b', b'.rows.table ≠ b.rows.table → rowsOf b' = []) :
    (h.written.filter fun b' => b'.run.date.toMicros = b.run.date.toMicros).flatMap rowsOf =
      rowsOf b := by
  have hbatches : (h.written.filter fun b' => b'.run.date.toMicros = b.run.date.toMicros) =
      h.batchesOf b.run.key := hc.filter_written_date (hc.logged.runs b hb)
  have hmem : b ∈ (h.batchesOf b.run.key).filter fun b' => b'.rows.table = b.rows.table :=
    List.mem_filter.2 ⟨List.mem_filter.2 ⟨hb, decide_eq_true rfl⟩, decide_eq_true rfl⟩
  rw [hc.logged.length_audit] at only
  obtain ⟨b', hb'⟩ := List.length_eq_one_iff.1 only
  obtain rfl : b = b' := List.mem_singleton.1 (hb' ▸ hmem)
  rw [hbatches, ← flatMap_filter_eq fun b' _ hne => hother b' (of_decide_eq_false hne), hb',
    List.flatMap_singleton]

theorem Consistent.inventory_at_date (hc : h.Consistent) (hb : b ∈ h.written)
    (only : (h.store.audit.filter fun a => a.key = b.run.key ∧ a.table = b.rows.table).length = 1)
    (htable : b.rows.table = .inventory) :
    (h.store.inventory.filter fun r => r.extractTs = b.run.date.toMicros) =
      b.rows.databases.map InventoryRecord.toRow := by
  have hother : ∀ b' : BatchWrite, b'.rows.table ≠ b.rows.table →
      b'.rows.databases.map InventoryRecord.toRow = [] := by
    intro b' hne
    rw [TableRows.databases_eq_nil (htable ▸ hne), List.map_nil]
  rw [hc.logged.filter_inventory_date hc.checked (fun d => d = b.run.date.toMicros)]
  exact hc.flatMap_at_date hb only hother

theorem Consistent.usage_at_date (hc : h.Consistent) (hb : b ∈ h.written)
    (only : (h.store.audit.filter fun a => a.key = b.run.key ∧ a.table = b.rows.table).length = 1)
    (htable : b.rows.table = .usage) :
    (h.store.usage.filter fun r => r.extractTs = b.run.date.toMicros) =
      b.rows.statements.map UsageRecord.toRow := by
  have hother : ∀ b' : BatchWrite, b'.rows.table ≠ b.rows.table →
      b'.rows.statements.map UsageRecord.toRow = [] := by
    intro b' hne
    rw [TableRows.statements_eq_nil (htable ▸ hne), List.map_nil]
  rw [hc.logged.filter_usage_date hc.checked (fun d => d = b.run.date.toMicros)]
  exact hc.flatMap_at_date hb only hother

/-- A batch that is the only one of its table in its run is what is read at the date. -/
theorem Consistent.snapshot_eq (hc : h.Consistent) (hb : b ∈ h.written)
    (only : (h.store.audit.filter fun a => a.key = b.run.key ∧ a.table = b.rows.table).length = 1) :
    h.store.snapshot b.rows.table b.run.date = .ok b.rows.stored.byKey := by
  have held := hc.logged.held b hb
  cases hrows : b.rows with
  | inventory records =>
    have hfilter : (h.store.inventory.filter fun r => r.extractTs = b.run.date.toMicros) =
        records.map InventoryRecord.toRow := by
      rw [hc.inventory_at_date hb only (by rw [hrows]; rfl), hrows]
      rfl
    simp only [Store.snapshot, TableRows.table, Store.inventorySnapshot,
      Store.rowsAt_of_held held, hfilter, bind, Except.bind, Except.map,
      Store.map_inventoryRecord_orderedBy, List.map_map]
    rfl
  | usage records =>
    have hfilter : (h.store.usage.filter fun r => r.extractTs = b.run.date.toMicros) =
        records.map UsageRecord.toRow := by
      rw [hc.usage_at_date hb only (by rw [hrows]; rfl), hrows]
      rfl
    simp only [Store.snapshot, TableRows.table, Store.usageSnapshot,
      Store.rowsAt_of_held held, hfilter, bind, Except.bind, Except.map,
      Store.map_usageRecord_mergeSort, List.map_map]
    rfl

/-- What a load commits that read at another time is in the log from then on. -/
theorem mem_written_of_commit {constraints : Constraints} {before between more : List Call}
    {chunkSize : Nat} {cancelled : Nat → Bool} {source : String} {batch : Source.Batch} {r : Run}
    {p : Load.Prepared} {now : Instant} {n : Nat} {s : Store}
    (hread : Load.prepare (after constraints before).store chunkSize cancelled source batch r =
      .ok p)
    (hcommit : (after constraints (before ++ .prepare chunkSize cancelled source batch r ::
      between)).store.insertBatch p.write now = .ok (n, s)) :
    p.write ∈ (after constraints (before ++ .prepare chunkSize cancelled source batch r ::
      between ++ .commit (after constraints before).prepared.length now :: more)).written := by
  let i := (after constraints before).prepared.length
  let begun := before ++ .prepare chunkSize cancelled source batch r :: between
  have hnumber : (after constraints begun).prepared[i]? = some p.write :=
    getElem?_prepared_of_prepare hread between
  have hdone : p.write ∈ (after constraints (begun ++ [.commit i now])).written := by
    rw [after_append, List.foldl_cons, List.foldl_nil, step]
    simp only [hnumber, write, hcommit, begun]
    exact List.mem_append_right _ List.mem_cons_self
  have hlater : p.write ∈ (after constraints (begun ++ [.commit i now] ++ more)).written :=
    after_append_induction (P := fun h => p.write ∈ h.written) (Q := fun _ => True) _ hdone
      (fun _ _ _ _ hstep hb => hstep.mem_written hb) fun _ _ => trivial
  rwa [List.append_assoc begun, List.singleton_append] at hlater

/-- The times of the normalizer's records are whole microseconds where 64 bits count them in
nanoseconds. A load of such records that is the only one of its table in the run is read back in
the order of the keys, each time cut to the microsecond: so as it was exactly if none is cut. -/
theorem snapshot_of_commit (kind : Kind) (extractTs : Instant) (offset : Int) (table : Table)
    (rows : List RawRow) :
    let batch := normalizeRows kind (.new extractTs offset) table rows
    (∀ t ∈ batch.rows.times, t.fitsNanos = true → t.nanos % 1000 = 0) ∧
      ∀ (constraints : Constraints) (before between more : List Call) (r : Run) (chunkSize : Nat)
        (cancelled : Nat → Bool) (source : String) (p : Load.Prepared) (now : Instant) (n : Nat)
        (s : Store),
        let kept := Load.kept r batch.rows
        let begun := before ++ .prepare chunkSize cancelled source batch r :: between
        let h := after constraints
          (begun ++ .commit (after constraints before).prepared.length now :: more)
        (∀ c ∈ before ++ between ++ more, c.Timely ∧ c.ByLoad) →
        Load.prepare (after constraints before).store chunkSize cancelled source batch r = .ok p →
        (after constraints begun).store.insertBatch p.write now = .ok (n, s) →
        (h.store.audit.filter fun a => a.key = r.key ∧ a.table = kept.table).length = 1 →
        h.store.snapshot kept.table r.date = .ok kept.stored.byKey ∧
          (h.store.snapshot kept.table r.date = .ok kept.byKey ↔
            ∀ t ∈ kept.times, t.isLeap = false ∧ t.nanos % 1000 = 0) := by
  intro batch
  refine ⟨fun t ht fits => ?_, ?_⟩
  · rw [← Source.canonical_of_normalizeRows kind extractTs offset table rows t ht]
    exact Instant.canonical_nanos_mod fits
  · intro constraints before between more r chunkSize cancelled source p now n s kept begun h
      hcalls hread hcommit only
    obtain ⟨hrun, -, screened⟩ := Load.prepare_eq_ok hread
    have hrows : p.write.rows = kept := Load.rows_prepare hread
    have hc : h.Consistent := by
      refine consistent_after constraints fun c hc => ?_
      simp only [begun, List.mem_append, List.mem_cons] at hc hcalls
      rcases hc with (hc | rfl | hc) | rfl | hc
      · exact hcalls c (.inl (.inl hc))
      · exact ⟨trivial, trivial⟩
      · exact hcalls c (.inl (.inr hc))
      · exact ⟨trivial, trivial⟩
      · exact hcalls c (.inr hc)
    have hwritten : p.write ∈ h.written := mem_written_of_commit hread hcommit
    have hsnapshot := hc.snapshot_eq hwritten (by rwa [hrun, hrows])
    rw [hrun, hrows] at hsnapshot
    refine ⟨hsnapshot, ?_⟩
    rw [hsnapshot, Except.ok.injEq]
    exact TableRows.byKey_stored_iff (hrows ▸ screened.databases_nodup)
      (hrows ▸ screened.statements_nodup)

/-- A run that has begun and loaded a batch. -/
def loaded (r : Run) (batch : Source.Batch) : List Call :=
  begun r ++ [.prepare 100 (fun _ => false) "prod" batch r] ++ [.commit 0 r.date]

/-- Two databases, one of which has the empty collation and a time that the normalizer cuts. -/
theorem snapshot_of_commit_two :
    let r : Run := ⟨"nightly", ⟨1714557600, 0⟩, "1.0"⟩
    let named : RawRow := [("collation_name", .string ""), ("database_id", .int 1),
      ("create_date", .string "2003-04-08 09:13:36.3900019"), ("name", .string "db")]
    let rows := [databaseRow (.int 2) "2003-04-08 09:13:36.390", named]
    let batch := normalizeRows .sqlServer (.new r.date (-18000)) .inventory rows
    let records : List InventoryRecord :=
      [⟨2, "db", .unknown, ⟨1049811216, 390000000⟩, r.date⟩,
        ⟨1, "db", .known "", ⟨1049811216, 390001000⟩, r.date⟩]
    (after {} (loaded r batch)).store.snapshot .inventory r.date =
      .ok (TableRows.inventory records).byKey := by
  intro r named rows batch records
  obtain ⟨-, hcommit⟩ := snapshot_of_commit .sqlServer r.date (-18000) .inventory rows
  have hload : (do
      let p ← Load.prepare (after {} (begun r)).store 100 (fun _ => false) "prod" batch r
      (after {} (begun r ++ [Call.prepare 100 (fun _ => false) "prod" batch r])).store.insertBatch
        p.write r.date).isOk = true := by decide +kernel
  obtain ⟨⟨n, s⟩, hload⟩ := isOk_iff.1 hload
  obtain ⟨p, hread, hwrite⟩ := bind_eq_ok.1 hload
  have hcalls : ∀ c ∈ begun r ++ [] ++ [], c.Timely ∧ c.ByLoad := by
    simp [begun, Call.Timely, Call.ByLoad, r, Instant.fitsNanos, Instant.toNanos]
  have hnumber : (after {} (begun r)).prepared.length = 0 := by decide +kernel
  obtain ⟨-, hexact⟩ := hcommit {} (begun r) [] [] r 100 (fun _ => false) "prod" p r.date n s
    hcalls hread hwrite (by decide +kernel)
  have hkept : Load.kept r batch.rows = .inventory records := by decide +kernel
  have hsnapshot := hexact.2 (by decide +kernel)
  rwa [hnumber, hkept] at hsnapshot

/-- The last moment of the year 9999 that seven digits of a second tell is accepted as it is, and
read back as another one. -/
theorem snapshot_year_9999 :
    let r : Run := ⟨"nightly", ⟨1714557600, 0⟩, "1.0"⟩
    let batch := normalizeRows .sqlServer (.new r.date 0) .inventory
      [databaseRow (.int 1) "9999-12-31 23:59:59.9999999"]
    let h := after {} (loaded r batch)
    (∃ t ∈ batch.rows.times, t.nanos % 1000 ≠ 0) ∧
      (h.store.audit.filter fun a => a.key = r.key ∧ a.table = .inventory).length = 1 ∧
      h.store.snapshot .inventory r.date ≠ .ok (Load.kept r batch.rows).byKey := by
  intro r batch h
  let last : InventoryRecord := ⟨1, "db", .unknown, ⟨253402300799, 999999900⟩, r.date⟩
  have hkept : Load.kept r batch.rows = .inventory [last] := by decide +kernel
  have only : (h.store.audit.filter fun a => a.key = r.key ∧ a.table = .inventory).length = 1 := by
    decide +kernel
  refine ⟨by decide +kernel, only, ?_⟩
  have hcalls : ∀ c ∈ loaded r batch, c.Timely ∧ c.ByLoad := by
    simp [loaded, begun, Call.Timely, Call.ByLoad, r, Instant.fitsNanos, Instant.toNanos]
  have hc : h.Consistent := consistent_after {} hcalls
  obtain ⟨b, hb, hrun, hrows⟩ : ∃ b ∈ h.written, b.run = r ∧ b.rows = .inventory [last] := by
    decide +kernel
  have hsnapshot := hc.snapshot_eq hb (by rwa [hrun, hrows])
  rw [hrun, hrows] at hsnapshot
  rw [hkept]
  refine fun hsame => absurd (hsnapshot.symm.trans hsame) ?_
  simp only [TableRows.stored, TableRows.byKey, List.map_cons, List.map_nil,
    List.mergeSort_singleton]
  decide +kernel

end History

end FleetProfile
