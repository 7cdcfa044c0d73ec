import FleetProfile.Proofs.Snapshots

/-! From the rows of a source to those of a table nothing is lost without being counted. Rows are
left out at three places: where they cannot be read, where they are of another run, and where their
key came before. -/
namespace FleetProfile
open Source (Batch Context Dialect.inventory Dialect.usage RawRow Kind normalizeInventory
  normalizeUsage)
open History (databaseRow)
open Time (Instant)

theorem TableRows.length_databases_add_statements (rows : TableRows) :
    rows.databases.length + rows.statements.length = rows.length := by
  cases rows with
  | inventory records => rfl
  | usage records => exact Nat.zero_add _

/-! ### The first of each key -/

variable {α κ : Type} [BEq κ] [LawfulBEq κ]

/-- The elements that none of the same key comes before. -/
def firsts (key : α → κ) (xs : List α) : List α :=
  (xs.zipIdx.filter fun x => key x.1 ∉ (xs.take x.2).map key).map Prod.fst

theorem firsts_concat (key : α → κ) (xs : List α) (x : α) :
    firsts key (xs ++ [x]) = firsts key xs ++ if key x ∈ xs.map key then [] else [x] := by
  have hbefore : (xs.zipIdx.filter fun y => key y.1 ∉ ((xs ++ [x]).take y.2).map key) =
      xs.zipIdx.filter fun y => key y.1 ∉ (xs.take y.2).map key := by
    apply List.filter_congr
    intro y hy
    have hlt : y.2 < xs.length := by
      have hle := (List.mem_zipIdx hy).2.1
      omega
    rw [List.take_append_of_le_length (by omega)]
  unfold firsts
  rw [List.zipIdx_append, List.filter_append, hbefore, List.map_append]
  congr 1
  by_cases hkey : key x ∈ xs.map key
  · simp [hkey]
  · simp [hkey]

namespace Load

/-- Screening an element after others keeps it if its key is new. -/
theorem firstOfEach_concat (key : α → κ) (seen : List κ) (xs : List α) (x : α) :
    firstOfEach key seen (xs ++ [x]) =
      firstOfEach key seen xs ++ if key x ∈ seen ∨ key x ∈ xs.map key then [] else [x] := by
  induction xs generalizing seen with
  | nil => simp [firstOfEach]
  | cons y xs ih =>
    rw [List.cons_append]
    unfold firstOfEach
    -- A key that was seen adds none to those seen; a new one goes over to them.
    by_cases hseen : key y ∈ seen
    · have hcond : (key x ∈ seen ∨ key x ∈ (y :: xs).map key) ↔
          (key x ∈ seen ∨ key x ∈ xs.map key) := by
        rw [List.map_cons, List.mem_cons]
        constructor
        · rintro (h | h | h)
          · exact .inl h
          · exact .inl (h ▸ hseen)
          · exact .inr h
        · rintro (h | h)
          · exact .inl h
          · exact .inr (.inr h)
      rw [if_pos (List.contains_iff_mem.2 hseen), if_pos (List.contains_iff_mem.2 hseen), ih]
      simp only [hcond]
    · have hcond : (key x ∈ seen ∨ key x ∈ (y :: xs).map key) ↔
          (key x ∈ key y :: seen ∨ key x ∈ xs.map key) := by
        rw [List.map_cons, List.mem_cons, List.mem_cons]
        tauto
      have hnew : ¬ seen.contains (key y) = true := fun h => hseen (List.contains_iff_mem.1 h)
      rw [if_neg hnew, if_neg hnew, ih, List.cons_append]
      simp only [hcond]

/-- What screening keeps of the records of a run are the first ones of their keys. -/
theorem firstOfEach_eq_firsts (key : α → κ) (xs : List α) :
    firstOfEach key [] xs = firsts key xs := by
  induction xs using List.reverseRecOn with
  | nil => rfl
  | append_singleton xs x ih =>
    rw [firstOfEach_concat, firsts_concat, ih]
    simp only [List.not_mem_nil, false_or]

/-! ### Screening -/

theorem rows_screen (r : Run) (extractTs : α → Instant) (key : α → κ) (records : List α) :
    (screen r extractTs key records).rows =
      firsts key (records.filter fun x => extractTs x = r.date) := by
  unfold screen
  exact firstOfEach_eq_firsts key _

variable {s s' : Store} {chunkSize : Nat} {cancelled : Nat → Bool} {source : String}
variable {batch : Batch} {r : Run}

theorem databases_kept (rows : TableRows) : (kept r rows).databases =
    firsts (·.dbId) (rows.databases.filter fun x => x.extractTs = r.date) := by
  cases rows with
  | inventory records => exact rows_screen r _ _ records
  | usage records => rfl

theorem statements_kept (rows : TableRows) : (kept r rows).statements =
    firsts (·.handle) (rows.statements.filter fun x => x.extractTs = r.date) := by
  cases rows with
  | inventory records => rfl
  | usage records => exact rows_screen r _ _ records

/-- What a load answers, and the rows that it appends. -/
theorem load_screens {now : Instant} {report : LoadReport}
    (h : load s chunkSize cancelled source batch r now = .ok (report, s')) :
    report.rejected = batch.rejected + (batch.rows.databases.countP (·.extractTs ≠ r.date) +
        batch.rows.statements.countP (·.extractTs ≠ r.date)) ∧
      report.written + report.rejected + report.duplicates = batch.rows.length + batch.rejected ∧
      s'.inventory.length + s'.usage.length =
        s.inventory.length + s.usage.length + report.written ∧
      s'.inventory = s.inventory ++ (firsts (·.dbId)
        (batch.rows.databases.filter fun x => x.extractTs = r.date)).map InventoryRecord.toRow ∧
      s'.usage = s.usage ++ (firsts (·.handle)
        (batch.rows.statements.filter fun x => x.extractTs = r.date)).map UsageRecord.toRow := by
  obtain ⟨p, hprepare, hcommit⟩ := exists_commit_of_load h
  obtain ⟨rfl, n, hinsert⟩ := commit_eq_ok hcommit
  obtain ⟨-, -, rfl⟩ := Store.insertBatch_eq_ok hinsert
  obtain ⟨hrejected, hsum⟩ := counts_prepare hprepare
  have hrows := rows_prepare hprepare
  refine ⟨hrejected, hsum, ?_, ?_, ?_⟩
  · simp only [Store.withBatch, List.length_append, List.length_map]
    have hlength := p.write.rows.length_databases_add_statements
    simp only [Store.BatchWrite.report]
    omega
  · rw [← databases_kept, ← hrows]
    rfl
  · rw [← statements_kept, ← hrows]
    rfl

/-- Where all records are of the run, none is set aside for its date. -/
theorem load_screens_own (databases : ∀ x ∈ batch.rows.databases, x.extractTs = r.date)
    (statements : ∀ x ∈ batch.rows.statements, x.extractTs = r.date) {now : Instant}
    {report : LoadReport} (h : load s chunkSize cancelled source batch r now = .ok (report, s')) :
    report.rejected = batch.rejected ∧
      report.written + report.rejected + report.duplicates = batch.rows.length + batch.rejected ∧
      s'.inventory =
        s.inventory ++ (firsts (·.dbId) batch.rows.databases).map InventoryRecord.toRow ∧
      s'.usage = s.usage ++ (firsts (·.handle) batch.rows.statements).map UsageRecord.toRow := by
  obtain ⟨hrejected, hsum, -, hinventory, husage⟩ := load_screens h
  rw [List.filter_eq_self.2 fun x hx => decide_eq_true (databases x hx)] at hinventory
  rw [List.filter_eq_self.2 fun x hx => decide_eq_true (statements x hx)] at husage
  rw [countP_mismatched_eq_zero databases, countP_mismatched_eq_zero statements] at hrejected
  exact ⟨hrejected, hsum, hinventory, husage⟩

end Load

namespace Source

variable {ρ : Type}

theorem accepted_map (f : RawRow → Except Rejection ρ) (rows : List RawRow) :
    accepted (rows.map f) = rows.filterMap fun row => (f row).toOption := by
  unfold accepted
  rw [List.filterMap_map]
  apply List.filterMap_congr
  intro row _
  simp only [Function.comp_apply]
  cases f row with
  | error e => rfl
  | ok v => rfl

theorem length_rejections_map (f : RawRow → Except Rejection ρ) (rows : List RawRow) :
    (rejections (rows.map f)).length = rows.countP fun row => !(f row).isOk := by
  unfold rejections
  rw [List.length_filterMap_eq_countP, List.countP_map]
  apply List.countP_congr
  intro row _
  simp only [Function.comp_apply]
  cases f row with
  | error e => simp [Except.isOk, Except.toBool]
  | ok v => simp [Except.isOk, Except.toBool]

end Source

namespace Load

/-- Every row of a source is written, rejected or a duplicate: rejected are those that cannot be
read, and the new rows of the table are the first ones of their keys among the others. Of any batch,
records of another run are rejected too, and no record is left out for one of those. -/
theorem load_without_loss (s : Store) (pipeline version : String) (date : Instant) (kind : Kind)
    (offset : Int) (rows : List RawRow) (chunkSize : Nat) (cancelled : Nat → Bool) (source : String)
    (now : Instant) :
    let r := Run.new pipeline date version
    let ctx := Context.new r.date offset
    (∀ report s', load s chunkSize cancelled source (normalizeInventory kind ctx rows) r now =
        .ok (report, s') →
      report.written + report.rejected + report.duplicates = rows.length ∧
      report.rejected = rows.countP (fun row => !(Dialect.inventory kind ctx row).isOk) ∧
      s'.inventory = s.inventory ++ (firsts (·.dbId) (rows.filterMap fun row =>
        (Dialect.inventory kind ctx row).toOption)).map InventoryRecord.toRow ∧
      s'.usage = s.usage) ∧
    (∀ report s', load s chunkSize cancelled source (normalizeUsage kind ctx rows) r now =
        .ok (report, s') →
      report.written + report.rejected + report.duplicates = rows.length ∧
      report.rejected = rows.countP (fun row => !(Dialect.usage kind ctx row).isOk) ∧
      s'.inventory = s.inventory ∧
      s'.usage = s.usage ++ (firsts (·.handle) (rows.filterMap fun row =>
        (Dialect.usage kind ctx row).toOption)).map UsageRecord.toRow) ∧
    ∀ (batch : Batch) (run : Run) report s',
      load s chunkSize cancelled source batch run now = .ok (report, s') →
      report.rejected = batch.rejected + (batch.rows.databases.countP (·.extractTs ≠ run.date) +
        batch.rows.statements.countP (·.extractTs ≠ run.date)) ∧
      report.written + report.rejected + report.duplicates = batch.rows.length + batch.rejected ∧
      s'.inventory.length + s'.usage.length =
        s.inventory.length + s.usage.length + report.written ∧
      s'.inventory = s.inventory ++ (firsts (·.dbId)
        (batch.rows.databases.filter fun x => x.extractTs = run.date)).map InventoryRecord.toRow ∧
      s'.usage = s.usage ++ (firsts (·.handle)
        (batch.rows.statements.filter fun x => x.extractTs = run.date)).map UsageRecord.toRow := by
  intro r ctx
  have hcanonical : ctx.extractTs = r.date := date.canonical_canonical
  have hdatabases : ∀ table, ∀ d ∈ (Source.normalizeRows kind ctx table rows).rows.databases,
      d.extractTs = r.date :=
    fun table d hd => (Source.reads_of_databases table d hd).extractTs.trans hcanonical
  have hstatements : ∀ table, ∀ u ∈ (Source.normalizeRows kind ctx table rows).rows.statements,
      u.extractTs = r.date := by
    intro table u hu
    obtain ⟨row, -, hreads⟩ := Source.reads_of_statements table u hu
    exact hreads.extractTs.trans hcanonical
  refine ⟨fun report s' h => ?_, fun report s' h => ?_, fun batch run report s' h =>
    load_screens h⟩
  · obtain ⟨hrejected, hsum, hinventory, husage⟩ :=
      load_screens_own (hdatabases .inventory) (hstatements .inventory) h
    have hlength := Source.length_accepted_add_rejections (rows.map (Dialect.inventory kind ctx))
    rw [List.length_map] at hlength
    refine ⟨hsum.trans hlength, ?_, ?_, husage.trans (List.append_nil _)⟩
    · rw [hrejected, ← Source.length_rejections_map]
      rfl
    · rw [hinventory, ← Source.accepted_map]
      rfl
  · obtain ⟨hrejected, hsum, hinventory, husage⟩ :=
      load_screens_own (hdatabases .usage) (hstatements .usage) h
    have hlength := Source.length_accepted_add_rejections (rows.map (Dialect.usage kind ctx))
    rw [List.length_map] at hlength
    refine ⟨hsum.trans hlength, ?_, hinventory.trans (List.append_nil _), ?_⟩
    · rw [hrejected, ← Source.length_rejections_map]
      rfl
    · rw [husage, ← Source.accepted_map]
      rfl

/-- Of three rows the second one cannot be read, and the third one repeats the first. -/
theorem load_without_loss_repeated :
    let r := Run.new "nightly" ⟨1714557600, 0⟩ "1.0"
    let rows := [databaseRow (.int 1) "2003-04-08 09:13:36.390", databaseRow .null "2003-04-08",
      databaseRow (.int 1) "2004-05-09"]
    let batch := normalizeInventory .sqlServer (.new r.date 0) rows
    ∃ report s', load (History.after {} (History.begun r)).store 100 (fun _ => false) "prod" batch r
        r.date = .ok (report, s') ∧
      report.written + report.rejected + report.duplicates = 3 ∧ report.rejected = 1 ∧
      s'.inventory = [⟨1, "db", none, 1049793216390000, 1714557600000000⟩] := by
  intro r rows batch
  have hload : (load (History.after {} (History.begun r)).store 100 (fun _ => false) "prod" batch r
      r.date).isOk = true := by decide +kernel
  obtain ⟨⟨report, s'⟩, hload⟩ := isOk_iff.1 hload
  obtain ⟨hinventory, -, -⟩ := load_without_loss (History.after {} (History.begun r)).store
    "nightly" "1.0" ⟨1714557600, 0⟩ .sqlServer 0 rows 100 (fun _ => false) "prod" r.date
  obtain ⟨hsum, hrejected, hrows, -⟩ := hinventory report s' hload
  have hcount : rows.countP (fun row =>
      !(Dialect.inventory .sqlServer (.new r.date 0) row).isOk) = 1 := by decide +kernel
  refine ⟨report, s', hload, hsum, hrejected.trans hcount, hrows.trans ?_⟩
  decide +kernel

end Load

end FleetProfile
