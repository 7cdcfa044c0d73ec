import FleetProfile.Proofs.AuditedRows

/-! What downstream reports see of a pipeline. The reads match rows to runs by their dates alone;
as no two runs share one, they find what succeeded runs of the pipeline wrote and nothing else. -/
namespace FleetProfile
open Store (BatchWrite)

namespace Store

/-- The order of the databases in a read: by date, those of a date by their number. -/
def InOrder (a b : InventoryRecord) : Prop :=
  a.extractTs < b.extractTs ∨ a.extractTs = b.extractTs ∧ a.dbId ≤ b.dbId

theorem inOrder_inventoryRecord {a b : InventoryRow}
    (h : a.extractTs < b.extractTs ∨ a.extractTs = b.extractTs ∧ a.dbId ≤ b.dbId) :
    InOrder (inventoryRecord a) (inventoryRecord b) := by
  rcases h with hlt | ⟨heq, hle⟩
  · exact .inl (Time.Instant.ofMicros_lt_ofMicros.2 hlt)
  · exact .inr ⟨congrArg Time.Instant.ofMicros heq, hle⟩

/-- A join with rows of the ledger counts what it lists. -/
theorem foldr_countDate {α : Type} (closed : List LedgerRow) (dateOf : α → Int) (rows : List α) :
    (rows.map fun r => countDate closed (dateOf r)).foldr (· + ·) 0 =
      (rows.flatMap fun r => List.replicate (countDate closed (dateOf r)) r).length := by
  simp only [List.length_flatMap, List.length_replicate]
  rfl

theorem pairwise_committedInventory (s : Store) (pipeline : String) :
    (s.committedInventory pipeline).Pairwise InOrder := by
  unfold committedInventory
  refine List.pairwise_map.2 ((List.pairwise_mergeSort ?_ ?_ _).imp fun hle => ?_)
  · intro a b c hab hbc
    simp only [decide_eq_true_eq] at *
    omega
  · intro a b
    simp only [Bool.or_eq_true, decide_eq_true_eq]
    omega
  · exact inOrder_inventoryRecord (of_decide_eq_true hle)

theorem perm_committedInventory (s : Store) (pipeline : String) :
    (s.committedInventory pipeline).Perm ((s.inventory.flatMap fun r =>
      List.replicate (countDate (s.succeeded pipeline) r.extractTs) r).map inventoryRecord) :=
  (List.mergeSort_perm _ _).map _

theorem inventory_committedCounts (s : Store) (pipeline : String) :
    (s.committedCounts pipeline).inventory = (s.committedInventory pipeline).length := by
  rw [(perm_committedInventory s pipeline).length_eq, List.length_map]
  exact foldr_countDate _ InventoryRow.extractTs _

end Store

namespace History

variable {h : History} {pipeline : String}

/-- The run of a key is one of the pipeline and has come to a good end. -/
def Closed (h : History) (pipeline : String) (k : RunKey) : Prop :=
  k.1 = pipeline ∧ h.store.Succeeded k

instance (h : History) (pipeline : String) (k : RunKey) : Decidable (h.Closed pipeline k) :=
  inferInstanceAs (Decidable (_ ∧ _))

/-- What loads wrote in succeeded runs of a pipeline. -/
def closedBatches (h : History) (pipeline : String) : List BatchWrite :=
  h.written.filter fun b => h.Closed pipeline b.run.key

/-- The date of a batch tells whether its run is one of the pipeline that succeeded. -/
theorem Consistent.succeeded_date_iff (hc : h.Consistent) :
    ∀ b ∈ h.written, h.store.Succeeded (pipeline, b.run.date.toMicros) ↔
      h.Closed pipeline b.run.key := by
  intro b hb
  constructor
  · rintro ⟨l, hl, hkey, hstatus⟩
    have hrun : b.run.key = (pipeline, b.run.date.toMicros) :=
      hc.dated.eq_of_date (hc.logged.runs b hb) ⟨l, hl, hkey⟩ rfl
    rw [hrun]
    exact ⟨rfl, l, hl, hkey, hstatus⟩
  · rintro ⟨rfl, hsucceeded⟩
    exact hsucceeded

theorem Dated.countDate_succeeded (hdated : h.Dated) (pipeline : String) (d : Int) :
    Store.countDate (h.store.succeeded pipeline) d =
      if h.store.Succeeded (pipeline, d) then 1 else 0 := by
  rw [Store.succeeded, hdated.countDate_filter]
  exact if_congr Store.exists_succeeded_iff rfl rfl

theorem Consistent.perm_committedInventory (hc : h.Consistent) (pipeline : String) :
    (h.store.committedInventory pipeline).Perm ((h.closedBatches pipeline).flatMap fun b =>
      b.rows.databases.map fun r => Store.inventoryRecord r.toRow) := by
  have hrows : (h.store.inventory.flatMap fun r =>
      List.replicate (Store.countDate (h.store.succeeded pipeline) r.extractTs) r) =
      (h.closedBatches pipeline).flatMap fun b => b.rows.databases.map InventoryRecord.toRow := by
    rw [flatMap_replicate fun r _ => hc.dated.countDate_succeeded pipeline r.extractTs]
    exact hc.logged.filter_inventory_eq hc.checked
      (q := fun d => h.store.Succeeded (pipeline, d)) hc.succeeded_date_iff
  have hperm := h.store.perm_committedInventory pipeline
  rw [hrows, List.map_flatMap] at hperm
  simpa only [List.map_map, Function.comp_def] using hperm

theorem Consistent.usage_committedCounts (hc : h.Consistent) (pipeline : String) :
    (h.store.committedCounts pipeline).usage =
      h.store.auditedRows (h.Closed pipeline) .usage := by
  have hcount := Store.foldr_countDate (h.store.succeeded pipeline) UsageRow.extractTs h.store.usage
  rw [flatMap_replicate fun r _ => hc.dated.countDate_succeeded pipeline r.extractTs] at hcount
  exact hcount.trans (hc.length_usage (q := fun d => h.store.Succeeded (pipeline, d))
    hc.succeeded_date_iff)

theorem Dated.runs_committedCounts (hdated : h.Dated) (pipeline : String) :
    (h.store.committedCounts pipeline).runs =
      (h.opened.filter fun r => h.Closed pipeline r.key).length := by
  have hkeys := congrArg (fun ks => (ks.filter fun k => h.Closed pipeline k).length) hdated.ledger
  simp only [List.filter_map, List.length_map] at hkeys
  have hrows : h.store.succeeded pipeline =
      h.store.ledger.filter fun l => h.Closed pipeline l.key := by
    refine List.filter_congr fun l hl => decide_eq_decide.2 (and_congr_right fun _ => ?_)
    constructor
    · exact fun hstatus => ⟨l, hl, rfl, hstatus⟩
    · rintro ⟨l', hl', hkey, hstatus⟩
      have hdate : l'.date = l.date := congrArg Prod.snd hkey
      rwa [List.inj_on_of_nodup_map hdated.nodup_date hl' hl hdate] at hstatus
  unfold Store.committedCounts
  simp only [hrows]
  exact hkeys

/-- A run that loads databases and statements and comes to an end. -/
def loadingRun (pipeline : String) (date : Time.Instant) (ids : List Int) (handles : List String)
    (verdict : RunStatus) : List Call :=
  let run : Run := ⟨pipeline, date, "1.0"⟩
  [.openRun ⟨run.pipeline, run.version, "test:1", date, ⟨0, 0⟩⟩,
    .transition run .pending .running none date,
    .load 2 (fun _ => false) "east"
      ⟨.inventory (ids.map fun id => ⟨id, "db", .unknown, ⟨0, 0⟩, date⟩), 0⟩ run date,
    .load 2 (fun _ => false) "east"
      ⟨.usage (handles.map fun handle => ⟨handle, ⟨0, 0⟩, ⟨0, 0⟩, ⟨1, 1, 1, 1⟩, date⟩), 0⟩ run date,
    .transition run .running verdict none date]

/-- Two runs of a pipeline, the first of which fails, and one of another pipeline between them. -/
def threeRuns : List Call :=
  loadingRun "nightly" ⟨1714521600, 0⟩ [7] ["A", "B"] .failed ++
    loadingRun "weekly" ⟨1714525200, 0⟩ [5] ["A"] .succeeded ++
    loadingRun "nightly" ⟨1714528800, 0⟩ [2, 1] ["A", "B", "C"] .succeeded

end History

end FleetProfile
